import Mathlib

/-! Wrapped machine-word arithmetic over a modulus: when a wrapped sum carries,
how a carry-in folds into that test, and how a product splits into partial
products of half words. The lemmas are stated over an arbitrary modulus or
base so that they serve any word width. -/

namespace WideWord

variable {modulus : Nat}

theorem wrapped_add_lt_iff {a b : Nat} (aBound : a < modulus) (bBound : b < modulus) :
    (a + b) % modulus < a ↔ modulus ≤ a + b := by
  by_cases fits : a + b < modulus
  · rw [Nat.mod_eq_of_lt fits]
    omega
  · have wrapped : (a + b) % modulus = a + b - modulus := by
      rw [Nat.mod_eq_sub_mod (by omega), Nat.mod_eq_of_lt (by omega)]
    rw [wrapped]
    omega

theorem wrapped_add_carry_iff {a b : Nat} (carryIn : Bool)
    (aBound : a < modulus) (bBound : b < modulus) :
    ((a + b) % modulus < a ∨ (carryIn = true ∧ (a + b) % modulus = modulus - 1)) ↔
      modulus ≤ a + b + carryIn.toNat := by
  rw [wrapped_add_lt_iff aBound bBound]
  by_cases fits : a + b < modulus
  · rw [Nat.mod_eq_of_lt fits]
    cases carryIn with
    | false => simp
    | true => simp; omega
  · cases carryIn with
    | false => simp
    | true => simp; omega

theorem mul_eq_partial_products (x y base : Nat) :
    x * y = x / base * (y / base) * base ^ 2 +
      (x / base * (y % base) + x % base * (y / base)) * base + x % base * (y % base) := by
  conv_lhs => rw [← Nat.div_add_mod x base, ← Nat.div_add_mod y base]
  ring

theorem half_mul_le {x y base : Nat} (xBound : x < base) (yBound : y < base) :
    x * y ≤ (base - 1) * (base - 1) :=
  Nat.mul_le_mul (Nat.le_sub_one_of_lt xBound) (Nat.le_sub_one_of_lt yBound)

theorem shift_or_eq_add (high low shift : Nat) (lowBound : low < 2 ^ shift) :
    high * 2 ^ shift ||| low = high * 2 ^ shift + low := by
  rw [Nat.mul_comm, Nat.two_pow_add_eq_or_of_lt lowBound]

theorem div_add_digit (a c base d : Nat) :
    (a * base + c) / d = a / d * base + (a % d * base + c) / d ∧
      (a * base + c) % d = (a % d * base + c) % d := by
  have split : a * base + c = a % d * base + c + d * (a / d * base) := by
    conv_lhs => rw [← Nat.mod_add_div a d]
    ring
  rcases Nat.eq_zero_or_pos d with rfl | positive
  · simp
  · rw [split, Nat.add_mul_div_left _ _ positive, Nat.add_mul_mod_self_left]
    exact ⟨Nat.add_comm _ _, rfl⟩

theorem digit_quotient_lt {r c base d : Nat} (remainderBound : r < d) (digitBound : c < base) :
    (r * base + c) / d < base := by
  rw [Nat.div_lt_iff_lt_mul (by omega)]
  calc r * base + c < r * base + base := Nat.add_lt_add_left digitBound _
    _ = (r + 1) * base := by ring
    _ ≤ d * base := Nat.mul_le_mul_right base remainderBound
    _ = base * d := Nat.mul_comm _ _

end WideWord
