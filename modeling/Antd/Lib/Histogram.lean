import Mathlib

/-! A table of 32-bit occurrence counters kept beside a queue, as code keeps an
array of counters beside a deque: pushing a value at the back increments its
counter, popping one from the front decrements it. The table is the queue's
`histogram` for as long as every change to the queue goes with the matching
counter update; a counter wraps as the machine word does. -/

namespace Histogram

variable {α : Type*} [DecidableEq α]

def histogram (xs : List α) (value : α) : UInt32 :=
  UInt32.ofNat (xs.count value)

@[simp] theorem histogram_nil : histogram ([] : List α) = fun _ => 0 := rfl

theorem histogram_append_singleton (xs : List α) (x : α) :
    histogram (xs ++ [x]) = Function.update (histogram xs) x (histogram xs x + 1) := by
  funext value
  by_cases same : value = x
  · subst same
    simp [histogram, List.count_append, UInt32.ofNat_add]
  · have other : ¬(x == value) = true := by simpa using Ne.symm same
    simp [histogram, List.count_append, List.count_singleton, other, same]

theorem histogram_of_cons (x : α) (xs : List α) :
    histogram xs = Function.update (histogram (x :: xs)) x (histogram (x :: xs) x - 1) := by
  funext value
  by_cases same : value = x
  · subst same
    simp [histogram, UInt32.ofNat_add]
  · have other : ¬(x == value) = true := by simpa using Ne.symm same
    simp [histogram, List.count_cons, other, same]

end Histogram
