import Mathlib

/-! Restoring binary long division on a register of `width` bits. The
register starts with the dividend; each step shifts its top bit into the
partial remainder and a quotient bit into its bottom, so that after `width`
steps the register holds the quotient and the remainder is left over. -/

namespace LongDivision

def step (divisor width : Nat) (state : Nat × Nat) : Nat × Nat :=
  let shifted := 2 * state.2 + state.1 / 2 ^ (width - 1)
  let register := 2 * state.1 % 2 ^ width
  if divisor ≤ shifted then (register + 1, shifted - divisor) else (register, shifted)

def run (divisor width : Nat) : Nat → Nat × Nat → Nat × Nat
  | 0, state => state
  | steps + 1, state => run divisor width steps (step divisor width state)

theorem top_bit (left quotient low high : Nat) (quotientBound : quotient < 2 ^ low) :
    (left * 2 ^ low + quotient) / 2 ^ (high + low) = left / 2 ^ high := by
  rw [pow_add, Nat.mul_comm (2 ^ high), ← Nat.div_div_eq_div_mul]
  congr 1
  rw [Nat.add_comm, Nat.add_mul_div_right _ _ (Nat.two_pow_pos low),
    Nat.div_eq_of_lt quotientBound, Nat.zero_add]

theorem shifted_register (left quotient low high : Nat) (quotientBound : quotient < 2 ^ low) :
    2 * (left * 2 ^ low + quotient) % 2 ^ (high + 1 + low) =
      left % 2 ^ high * 2 ^ (low + 1) + 2 * quotient := by
  have split : 2 * (left * 2 ^ low + quotient) =
      left % 2 ^ high * 2 ^ (low + 1) + 2 * quotient + left / 2 ^ high * 2 ^ (high + 1 + low) := by
    conv_lhs => rw [← Nat.mod_add_div left (2 ^ high)]
    ring
  have lowBound : left % 2 ^ high * 2 ^ (low + 1) + 2 * quotient < 2 ^ (high + 1 + low) := by
    have digits : left % 2 ^ high + 1 ≤ 2 ^ high := Nat.mod_lt _ (Nat.two_pow_pos high)
    have scaled : (left % 2 ^ high + 1) * 2 ^ (low + 1) ≤ 2 ^ high * 2 ^ (low + 1) :=
      Nat.mul_le_mul_right _ digits
    rw [Nat.add_mul, Nat.one_mul, ← pow_add] at scaled
    rw [pow_succ] at scaled ⊢
    have : high + (low + 1) = high + 1 + low := by omega
    rw [show 2 ^ (high + (low + 1)) = 2 ^ (high + 1 + low) by rw [this]] at scaled
    omega
  rw [split, Nat.add_mul_mod_self_right, Nat.mod_eq_of_lt lowBound]

theorem run_spec {divisor : Nat} (divisorPos : 0 < divisor) (width : Nat) :
    ∀ (pending done left quotient remainder : Nat), pending + done = width →
      left < 2 ^ pending → quotient < 2 ^ done → remainder < divisor →
      run divisor width pending (left * 2 ^ done + quotient, remainder) =
        (quotient * 2 ^ pending + (remainder * 2 ^ pending + left) / divisor,
          (remainder * 2 ^ pending + left) % divisor) := by
  intro pending
  induction pending with
  | zero =>
      intro done left quotient remainder _ leftBound _ remainderBound
      have noLeft : left = 0 := by simpa using leftBound
      subst noLeft
      simp [run, Nat.div_eq_of_lt remainderBound, Nat.mod_eq_of_lt remainderBound]
  | succ pending ih =>
      intro done left quotient remainder widthEq leftBound quotientBound remainderBound
      have widthPred : width - 1 = pending + done := by omega
      have topBit : (left * 2 ^ done + quotient) / 2 ^ (width - 1) = left / 2 ^ pending := by
        rw [widthPred]
        exact top_bit left quotient done pending quotientBound
      have register : 2 * (left * 2 ^ done + quotient) % 2 ^ width =
          left % 2 ^ pending * 2 ^ (done + 1) + 2 * quotient := by
        rw [← widthEq, show pending + 1 + done = pending + 1 + done from rfl]
        exact shifted_register left quotient done pending quotientBound
      have bit : left / 2 ^ pending < 2 := by
        rw [Nat.div_lt_iff_lt_mul (Nat.two_pow_pos pending)]
        rw [pow_succ] at leftBound
        omega
      have lowBound : left % 2 ^ pending < 2 ^ pending := Nat.mod_lt _ (Nat.two_pow_pos pending)
      have leftSplit : remainder * 2 ^ (pending + 1) + left =
          (2 * remainder + left / 2 ^ pending) * 2 ^ pending + left % 2 ^ pending := by
        conv_lhs => rw [← Nat.mod_add_div left (2 ^ pending)]
        ring
      simp only [run, step, topBit, register]
      split
      · rename_i subtracts
        rw [Nat.add_assoc, ih (done + 1) (left % 2 ^ pending) (2 * quotient + 1) _ (by omega) lowBound
          (by rw [pow_succ]; omega) (by omega)]
        have restored : (2 * remainder + left / 2 ^ pending) * 2 ^ pending + left % 2 ^ pending =
            ((2 * remainder + left / 2 ^ pending - divisor) * 2 ^ pending + left % 2 ^ pending) +
              2 ^ pending * divisor := by
          have back : 2 * remainder + left / 2 ^ pending =
              (2 * remainder + left / 2 ^ pending - divisor) + divisor := by omega
          conv_lhs => rw [back]
          ring
        rw [leftSplit, restored, Nat.add_mul_div_right _ _ divisorPos, Nat.add_mul_mod_self_right,
          Prod.mk.injEq]
        exact ⟨by ring, rfl⟩
      · rename_i keeps
        rw [ih (done + 1) (left % 2 ^ pending) (2 * quotient) _ (by omega) lowBound
          (by rw [pow_succ]; omega) (by omega)]
        rw [leftSplit, Prod.mk.injEq]
        exact ⟨by ring, rfl⟩

theorem run_eq {divisor width dividend : Nat} (divisorPos : 0 < divisor)
    (dividendBound : dividend < 2 ^ width) :
    run divisor width width (dividend, 0) = (dividend / divisor, dividend % divisor) := by
  have := run_spec divisorPos width width 0 dividend 0 0 (by omega) dividendBound
    (Nat.two_pow_pos 0) divisorPos
  simpa using this

theorem step_remainder_lt {divisor width : Nat} {state : Nat × Nat} (widthPos : 0 < width)
    (registerBound : state.1 < 2 ^ width) (remainderBound : state.2 < divisor) :
    (step divisor width state).2 < divisor := by
  have bit : state.1 / 2 ^ (width - 1) < 2 := by
    rw [Nat.div_lt_iff_lt_mul (Nat.two_pow_pos _), ← pow_succ', Nat.sub_add_cancel widthPos]
    exact registerBound
  unfold step
  dsimp only
  split <;> omega

end LongDivision
