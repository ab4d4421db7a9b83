import Mathlib

/-! Windows over a list: the elements at the indices from a lower bound or
`count` below a height, whichever is higher, up to that height. Cached windows
are kept by appending the next element and dropping from the front
(`keepLast`), or filled from the back of a vector; each way gives the window. -/

namespace SlidingWindow

variable {α : Type*}

/-- The elements of `xs` at the indices `max lower (height - count) ≤ index < height`. -/
def window (lower count height : Nat) (xs : List α) : List α :=
  (xs.take height).drop (max lower (height - count))

def keepLast (count : Nat) (xs : List α) : List α :=
  xs.drop (xs.length - count)

theorem length_window (lower count height : Nat) (xs : List α) :
    (window lower count height xs).length = min height xs.length - max lower (height - count) := by
  simp [window]

theorem window_of_le {lower count height : Nat} (xs : List α) (low : height ≤ lower) :
    window lower count height xs = [] := by
  rw [← List.length_eq_zero_iff, length_window]
  omega

theorem length_window_le (lower count height : Nat) (xs : List α) :
    (window lower count height xs).length ≤ count := by
  rw [length_window]
  omega

theorem window_congr {lower count height : Nat} {xs ys : List α} (sameLength : xs.length = ys.length)
    (agree : ∀ index, lower ≤ index → index < height → xs[index]? = ys[index]?) :
    window lower count height xs = window lower count height ys := by
  apply List.ext_getElem
  · rw [length_window, length_window, sameLength]
  · intro index inXs inYs
    rw [length_window] at inXs
    have read := agree (max lower (height - count) + index) (by omega) (by omega)
    rw [List.getElem?_eq_getElem (by omega), List.getElem?_eq_getElem (by omega)] at read
    simp only [window, List.getElem_drop, List.getElem_take]
    exact Option.some.inj read

theorem window_take {lower count height : Nat} (xs : List α) :
    window lower count height (xs.take height) = window lower count height xs := by
  rw [window, window, List.take_take, min_self]

theorem window_append_of_le {lower count height : Nat} {xs : List α} (ys : List α)
    (within : height ≤ xs.length) :
    window lower count height (xs ++ ys) = window lower count height xs := by
  rw [window, window, List.take_append_of_le_length within]

theorem length_keepLast (count : Nat) (xs : List α) :
    (keepLast count xs).length = min count xs.length := by
  rw [keepLast, List.length_drop]
  omega

theorem keepLast_keepLast {fewer count : Nat} (within : fewer ≤ count) (xs : List α) :
    keepLast fewer (keepLast count xs) = keepLast fewer xs := by
  rw [keepLast, keepLast, keepLast, List.drop_drop, List.length_drop]
  congr 1
  omega

theorem keepLast_append_singleton {count : Nat} (positive : 0 < count) (xs : List α) (x : α) :
    keepLast count (xs ++ [x]) = keepLast (count - 1) xs ++ [x] := by
  rw [keepLast, keepLast, List.drop_append_of_le_length (by simp; omega), List.length_append,
    List.length_singleton]
  congr 2
  omega

theorem keepLast_map {β : Type*} (count : Nat) (f : α → β) (xs : List α) :
    keepLast count (xs.map f) = (keepLast count xs).map f := by
  simp [keepLast, List.map_drop]

theorem window_succ {lower count height : Nat} {xs : List α} (positive : 0 < count)
    (above : lower ≤ height) (below : height < xs.length) :
    keepLast count (window lower count height xs ++ [xs[height]]) =
      window lower count (height + 1) xs := by
  have extended : window lower count height xs ++ [xs[height]] =
      (xs.take (height + 1)).drop (max lower (height - count)) := by
    rw [window, List.take_add_one, List.drop_append_of_le_length (by simp; omega),
      List.getElem?_eq_getElem below]
    rfl
  rw [extended, keepLast, window, List.drop_drop]
  congr 1
  simp only [List.length_drop, List.length_take]
  omega

theorem map_range'_getElem? {β : Type*} {xs : List α} (f : α → β) (default : β)
    {start stop : Nat} (within : stop ≤ xs.length) :
    (List.range' start (stop - start)).map (fun index => (xs[index]?.map f).getD default) =
      ((xs.take stop).drop start).map f := by
  apply List.ext_getElem
  · simp
    omega
  · intro index inRange _
    simp only [List.length_map, List.length_range'] at inRange
    simp [List.getElem_range', List.getElem?_eq_getElem (show start + index < xs.length by omega)]

theorem window_append_short {lower count : Nat} {pre alt : List α} (above : lower ≤ pre.length)
    (short : alt.length < count) :
    window lower count (pre.length + alt.length) (pre ++ alt) =
      window lower (count - alt.length) pre.length pre ++ alt := by
  rw [window, window, List.take_of_length_le (by simp), List.take_of_length_le le_rfl,
    List.drop_append_of_le_length (by omega)]
  congr 2
  omega

theorem window_append_long {lower count : Nat} {pre alt : List α} (above : lower ≤ pre.length)
    (long : count ≤ alt.length) :
    window lower count (pre.length + alt.length) (pre ++ alt) = keepLast count alt := by
  rw [window, keepLast, List.take_of_length_le (by simp), List.drop_append,
    List.drop_eq_nil_of_le (by omega), List.nil_append]
  congr 1
  omega

/-- Writes `items` into `vector` at `position`, `position - 1`, ..., and
stops after index 0. -/
def fillBack (vector : List α) : Nat → List α → List α
  | _, [] => vector
  | position, item :: rest =>
      if position = 0 then vector.set 0 item
      else fillBack (vector.set position item) (position - 1) rest

theorem fillBack_eq {vector : List α} {position : Nat} {items : List α}
    (inVector : position < vector.length) (enough : position < items.length) :
    fillBack vector position items =
      (items.take (position + 1)).reverse ++ vector.drop (position + 1) := by
  induction items generalizing vector position with
  | nil => simp at enough
  | cons item rest ih =>
      by_cases first : position = 0
      · subst first
        rw [fillBack, if_pos rfl]
        cases vector with
        | nil => simp at inVector
        | cons head tail => simp
      · rw [fillBack, if_neg first, ih (by simp; omega) (by simp at enough; omega)]
        have split : position - 1 + 1 = position := by omega
        rw [split, List.take_succ_cons, List.reverse_cons, List.append_assoc]
        congr 1
        rw [List.set_eq_take_append_cons_drop, if_pos inVector,
          List.drop_left' (by simp; omega)]
        rfl

/-- Reads the indices `start - 1 - offset`, `start - 2 - offset`, ... while
they are not 0, at most `fuel` of them, each in front of the ones read before. -/
def fillBelow (read : Nat → α) (start : Nat) : Nat → Nat → List α → List α
  | 0, _, acc => acc
  | fuel + 1, offset, acc =>
      if start - 1 - offset = 0 then acc
      else fillBelow read start fuel (offset + 1) (read (start - 1 - offset) :: acc)

theorem fillBelow_eq (read : Nat → α) (start : Nat) :
    ∀ fuel offset acc, fillBelow read start fuel offset acc =
      (List.range' (max 1 (start - offset - fuel))
        (start - offset - max 1 (start - offset - fuel))).map read ++ acc := by
  intro fuel
  induction fuel with
  | zero =>
      intro offset acc
      have empty : start - offset - max 1 (start - offset - 0) = 0 := by omega
      simp only [fillBelow, empty, List.range'_zero, List.map_nil, List.nil_append]
  | succ fuel ih =>
      intro offset acc
      rw [fillBelow]
      by_cases bottom : start - 1 - offset = 0
      · have empty : start - offset - max 1 (start - offset - (fuel + 1)) = 0 := by omega
        rw [if_pos bottom, empty, List.range'_zero, List.map_nil, List.nil_append]
      · rw [if_neg bottom, ih]
        have sameLow : max 1 (start - (offset + 1) - fuel) = max 1 (start - offset - (fuel + 1)) := by
          omega
        have count : start - offset - max 1 (start - offset - (fuel + 1)) =
            start - (offset + 1) - max 1 (start - offset - (fuel + 1)) + 1 := by omega
        have top : max 1 (start - offset - (fuel + 1)) +
            (start - (offset + 1) - max 1 (start - offset - (fuel + 1))) = start - 1 - offset := by
          omega
        rw [sameLow, count, List.range'_concat, Nat.one_mul, top, List.map_append, List.append_assoc]
        rfl

theorem fillBack_replicate_reverse {count : Nat} (default : α) {items : List α}
    (positive : 0 < count) (enough : count ≤ items.length) :
    fillBack (List.replicate count default) (count - 1) items.reverse = keepLast count items := by
  rw [fillBack_eq (by simp; omega) (by simp; omega), Nat.sub_add_cancel positive,
    List.drop_of_length_le (by simp), List.append_nil, List.take_reverse, List.reverse_reverse]
  rfl

end SlidingWindow
