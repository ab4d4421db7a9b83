import Mathlib

/-! Positions dealt round to stripes: the positions are cut into spans of
`size`, and the spans go to stripes `0, 1, …, count - 1` in turn. The first
position of a stripe at or after a position of another stripe is the start of
that stripe's span in the same round when the stripe comes later in the
round, and in the next round otherwise; no position in between is of it. -/

namespace Stripes

def stripeOf (size count h : Nat) : Nat := h / size % count

/-- The start of the span of stripe `target` in the round of `h` when `h`'s
stripe is before it, and in the next round otherwise. -/
def nextStart (size count target h : Nat) : Nat :=
  (h / size / count + if stripeOf size count h < target then 0 else 1) * (size * count) +
    target * size

variable {size count target h : Nat}

theorem span_eq (size count h : Nat) :
    h / size = count * (h / size / count) + stripeOf size count h :=
  (Nat.div_add_mod _ _).symm

theorem nextStart_div (positive : 0 < size) :
    nextStart size count target h / size =
      count * (h / size / count + if stripeOf size count h < target then 0 else 1) + target := by
  rw [nextStart, Nat.mul_comm size count, ← Nat.mul_assoc, ← Nat.add_mul,
    Nat.mul_div_cancel _ positive, Nat.mul_comm count]

theorem stripeOf_nextStart (positive : 0 < size) (below : target < count) :
    stripeOf size count (nextStart size count target h) = target := by
  rw [stripeOf, nextStart_div positive, Nat.mul_add_mod, Nat.mod_eq_of_lt below]

theorem dvd_nextStart : size ∣ nextStart size count target h :=
  ⟨(h / size / count + if stripeOf size count h < target then 0 else 1) * count + target, by
    rw [nextStart]
    ring⟩

theorem div_lt_nextStart_div (positive : 0 < size) (below : target < count) :
    h / size < nextStart size count target h / size := by
  have split := span_eq size count h
  have stripeBelow : stripeOf size count h < count := Nat.mod_lt _ (by omega)
  rw [nextStart_div positive]
  split
  · rw [Nat.add_zero]
    omega
  · rw [Nat.mul_add, Nat.mul_one]
    omega

theorem lt_nextStart (positive : 0 < size) (below : target < count) :
    h < nextStart size count target h := by
  have spans := div_lt_nextStart_div (h := h) positive below
  by_contra after
  have := Nat.div_le_div_right (c := size) (Nat.le_of_not_lt after)
  omega

theorem stripeOf_ne_of_lt (positive : 0 < size) (below : target < count)
    (other : stripeOf size count h ≠ target) {x : Nat} (after : h ≤ x)
    (before : x < nextStart size count target h) : stripeOf size count x ≠ target := by
  intro same
  have hSplit := span_eq size count h
  have xSplit := span_eq size count x
  have stripeBelow : stripeOf size count h < count := Nat.mod_lt _ (by omega)
  have spansFrom : h / size ≤ x / size := Nat.div_le_div_right after
  have spansBefore : x / size < nextStart size count target h / size :=
    (Nat.div_lt_iff_lt_mul positive).mpr (by rwa [Nat.div_mul_cancel dvd_nextStart])
  rw [nextStart_div positive] at spansBefore
  rw [same] at xSplit
  split at spansBefore <;> rename_i round
  · rw [Nat.add_zero] at spansBefore
    have rounds : x / size / count < h / size / count + 1 := by
      apply Nat.lt_of_mul_lt_mul_left (a := count)
      rw [Nat.mul_add, Nat.mul_one]
      omega
    have earlier : h / size / count ≤ x / size / count := by
      apply Nat.le_of_not_lt
      intro smaller
      have := Nat.mul_le_mul_left count (Nat.succ_le_of_lt smaller)
      rw [Nat.mul_succ] at this
      omega
    have := Nat.le_antisymm (Nat.lt_succ_iff.mp rounds) earlier
    rw [this] at xSplit
    omega
  · rw [Nat.mul_add, Nat.mul_one] at spansBefore
    have rounds : x / size / count ≤ h / size / count := by
      apply Nat.lt_succ_iff.mp
      apply Nat.lt_of_mul_lt_mul_left (a := count)
      rw [Nat.mul_succ]
      omega
    have := Nat.mul_le_mul_left count rounds
    omega

theorem nextStart_succ (several : 0 < count) :
    nextStart size count ((stripeOf size count h + 1) % count) h = (h / size + 1) * size := by
  have split := span_eq size count h
  have stripeBelow : stripeOf size count h < count := Nat.mod_lt _ several
  unfold nextStart
  generalize stripeOf size count h = stripe at *
  generalize h / size / count = round at *
  rw [split]
  rcases Nat.lt_or_ge (stripe + 1) count with inRound | wraps
  · rw [Nat.mod_eq_of_lt inRound, if_pos (Nat.lt_succ_self _)]
    ring
  · obtain rfl : count = stripe + 1 := by omega
    rw [Nat.mod_self, if_neg (Nat.not_lt_zero _)]
    ring

theorem stripeOf_of_lt_spanEnd (positive : 0 < size) {x : Nat} (after : h ≤ x)
    (before : x < (h / size + 1) * size) : stripeOf size count x = stripeOf size count h := by
  have sameSpan : x / size = h / size :=
    Nat.le_antisymm (Nat.lt_succ_iff.mp ((Nat.div_lt_iff_lt_mul positive).mpr before))
      (Nat.div_le_div_right after)
  rw [stripeOf, stripeOf, sameSpan]

theorem succ_stripeOf_ne (several : 1 < count) :
    (stripeOf size count h + 1) % count ≠ stripeOf size count h := by
  have stripeBelow : stripeOf size count h < count := Nat.mod_lt _ (by omega)
  rcases Nat.lt_or_ge (stripeOf size count h + 1) count with inRound | wraps
  · rw [Nat.mod_eq_of_lt inRound]
    omega
  · rw [show stripeOf size count h + 1 = count by omega, Nat.mod_self]
    omega

end Stripes
