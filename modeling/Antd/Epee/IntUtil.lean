import Antd.Lib.WideWord
import Antd.Lib.LongDivision

/-! The 64-bit word arithmetic of epee's `int-util.h` that the modelled code
calls: the 64 by 64 bit product `mul128`, the 128 by 32 bit division
`div128_32` built from `div_with_reminder`, and the bit-by-bit 128 by 64 bit
division `div128_64` with its shift `shl128`. -/

namespace Antd.Epee

def hiDword (val : UInt64) : UInt64 := val >>> 32

def loDword (val : UInt64) : UInt64 := val &&& 0xFFFFFFFF

def mul128 (multiplier multiplicand : UInt64) : UInt64 × UInt64 :=
  let a := hiDword multiplier
  let b := loDword multiplier
  let c := hiDword multiplicand
  let d := loDword multiplicand
  let ac := a * c
  let ad := a * d
  let bc := b * c
  let bd := b * d
  let adbc := ad + bc
  let adbcCarry : UInt64 := if adbc < ad then 1 else 0
  let productLo := bd + (adbc <<< 32)
  let productLoCarry : UInt64 := if productLo < bd then 1 else 0
  let productHi := ac + (adbc >>> 32) + (adbcCarry <<< 32) + productLoCarry
  (productLo, productHi)

/-- `div_with_reminder`: the previous remainder is put above the dividend's
low half; returns the quotient and the new remainder. -/
def divWithReminder (dividend : UInt64) (divisor remainder : UInt32) : UInt64 × UInt32 :=
  let dividend := dividend ||| (remainder.toUInt64 <<< 32)
  (dividend / divisor.toUInt64, (dividend % divisor.toUInt64).toUInt32)

def div128_32 (dividendHi dividendLo : UInt64) (divisor : UInt32) : UInt32 × UInt64 × UInt64 :=
  let (q3, remainder) := divWithReminder (hiDword dividendHi) divisor 0
  let (q2, remainder) := divWithReminder (loDword dividendHi) divisor remainder
  let (q1, remainder) := divWithReminder (hiDword dividendLo) divisor remainder
  let (q0, remainder) := divWithReminder (loDword dividendLo) divisor remainder
  (remainder, (q3 <<< 32) ||| q2, (q1 <<< 32) ||| q0)

def shl128 (hi lo : UInt64) : Bool × UInt64 × UInt64 :=
  let carry := hi >>> 63 != 0
  let hi := (hi <<< 1) + (lo >>> 63)
  let lo := lo <<< 1
  (carry, hi, lo)

/-- One iteration of the loop of `div128_64` on `(remainder, dividend_hi, dividend_lo)`. -/
def div128_64Step (divisor : UInt64) (state : UInt64 × UInt64 × UInt64) :
    UInt64 × UInt64 × UInt64 :=
  let (remainder, dividendHi, dividendLo) := state
  let carry := remainder >>> 63 != 0
  let remainder := remainder <<< 1
  let (shifted, dividendHi, dividendLo) := shl128 dividendHi dividendLo
  let remainder := if shifted then remainder ||| 1 else remainder
  if carry || remainder ≥ divisor then (remainder - divisor, dividendHi, dividendLo ||| 1)
  else (remainder, dividendHi, dividendLo)

def div128_64Loop (divisor : UInt64) : Nat → UInt64 × UInt64 × UInt64 → UInt64 × UInt64 × UInt64
  | 0, state => state
  | count + 1, state => div128_64Loop divisor count (div128_64Step divisor state)

def div128_64 (dividendHi dividendLo divisor : UInt64) : UInt64 × UInt64 × UInt64 :=
  div128_64Loop divisor 128 (0, dividendHi, dividendLo)

/-! ### 64 by 64 bit products -/

theorem hiDword_toNat (val : UInt64) : (hiDword val).toNat = val.toNat / 2 ^ 32 := by
  simp [hiDword, UInt64.toNat_shiftRight, Nat.shiftRight_eq_div_pow]

theorem loDword_toNat (val : UInt64) : (loDword val).toNat = val.toNat % 2 ^ 32 := by
  have mask : (0xFFFFFFFF : UInt64).toNat = 2 ^ 32 - 1 := by decide
  rw [loDword, UInt64.toNat_and, mask, Nat.and_two_pow_sub_one_eq_mod]

private theorem toNat_mul_of_lt {x y : UInt64} (xBound : x.toNat < 2 ^ 32)
    (yBound : y.toNat < 2 ^ 32) : (x * y).toNat = x.toNat * y.toNat := by
  rw [UInt64.toNat_mul, Nat.mod_eq_of_lt]
  calc x.toNat * y.toNat < 2 ^ 32 * 2 ^ 32 := Nat.mul_lt_mul'' xBound yBound
    _ = 2 ^ 64 := by norm_num

private theorem toNat_ite_one_zero (condition : Prop) [Decidable condition] :
    (if condition then (1 : UInt64) else 0).toNat = if condition then 1 else 0 := by
  split <;> rfl

theorem toNat_shiftLeft_32 (x : UInt64) :
    (x <<< 32).toNat = x.toNat * 2 ^ 32 % 2 ^ 64 := by
  rw [UInt64.toNat_shiftLeft, Nat.shiftLeft_eq]
  rfl

theorem toNat_shiftRight_32 (x : UInt64) : (x >>> 32).toNat = x.toNat / 2 ^ 32 := by
  rw [UInt64.toNat_shiftRight, Nat.shiftRight_eq_div_pow]
  rfl

theorem mul128_spec (multiplier multiplicand : UInt64) :
    (mul128 multiplier multiplicand).1.toNat =
        multiplier.toNat * multiplicand.toNat % 2 ^ 64 ∧
      (mul128 multiplier multiplicand).2.toNat =
        multiplier.toNat * multiplicand.toNat / 2 ^ 64 := by
  have aBound : (hiDword multiplier).toNat < 2 ^ 32 := by
    rw [hiDword_toNat]
    have := multiplier.toNat_lt
    omega
  have bBound : (loDword multiplier).toNat < 2 ^ 32 := by
    rw [loDword_toNat]
    omega
  have cBound : (hiDword multiplicand).toNat < 2 ^ 32 := by
    rw [hiDword_toNat]
    have := multiplicand.toNat_lt
    omega
  have dBound : (loDword multiplicand).toNat < 2 ^ 32 := by
    rw [loDword_toNat]
    omega
  have split := WideWord.mul_eq_partial_products multiplier.toNat multiplicand.toNat (2 ^ 32)
  rw [← hiDword_toNat, ← loDword_toNat, ← hiDword_toNat, ← loDword_toNat] at split
  have acBound := WideWord.half_mul_le aBound cBound
  have adBound := WideWord.half_mul_le aBound dBound
  have bcBound := WideWord.half_mul_le bBound cBound
  have bdBound := WideWord.half_mul_le bBound dBound
  simp only [mul128, UInt64.lt_iff_toNat_lt, UInt64.toNat_add, toNat_shiftLeft_32,
    toNat_shiftRight_32, toNat_ite_one_zero, toNat_mul_of_lt aBound cBound,
    toNat_mul_of_lt aBound dBound, toNat_mul_of_lt bBound cBound, toNat_mul_of_lt bBound dBound]
  generalize (hiDword multiplier).toNat * (hiDword multiplicand).toNat = ac at split acBound ⊢
  generalize (hiDword multiplier).toNat * (loDword multiplicand).toNat = ad at split adBound ⊢
  generalize (loDword multiplier).toNat * (hiDword multiplicand).toNat = bc at split bcBound ⊢
  generalize (loDword multiplier).toNat * (loDword multiplicand).toNat = bd at split bdBound ⊢
  rw [split]
  norm_num at acBound adBound bcBound bdBound ⊢
  split_ifs <;> omega

/-! ### 128 by 64 bit division -/

theorem toNat_shiftLeft_one (x : UInt64) : (x <<< 1).toNat = 2 * x.toNat % 2 ^ 64 := by
  rw [UInt64.toNat_shiftLeft, Nat.shiftLeft_eq, Nat.mul_comm]
  rfl

theorem toNat_shiftRight_63 (x : UInt64) : (x >>> 63).toNat = x.toNat / 2 ^ 63 := by
  rw [UInt64.toNat_shiftRight, Nat.shiftRight_eq_div_pow]
  rfl

theorem top_bit_ne_zero (x : UInt64) : (x >>> 63 != 0) = decide (2 ^ 63 ≤ x.toNat) := by
  have bound := x.toNat_lt
  rw [Bool.eq_iff_iff, bne_iff_ne, ne_eq, ← UInt64.toNat_inj, toNat_shiftRight_63,
    UInt64.toNat_zero, decide_eq_true_eq]
  omega

theorem toNat_or_one_of_even {x : UInt64} (even : x.toNat % 2 = 0) :
    (x ||| 1).toNat = x.toNat + 1 := by
  rw [UInt64.toNat_or, UInt64.toNat_one]
  have split : x.toNat = x.toNat / 2 * 2 ^ 1 := by omega
  rw [split, WideWord.shift_or_eq_add _ _ 1 (by norm_num)]

theorem shl128_spec (hi lo : UInt64) :
    (shl128 hi lo).1 = decide (2 ^ 63 ≤ hi.toNat) ∧
      (shl128 hi lo).2.1.toNat * 2 ^ 64 + (shl128 hi lo).2.2.toNat =
        2 * (hi.toNat * 2 ^ 64 + lo.toNat) % 2 ^ 128 ∧
      (shl128 hi lo).2.2.toNat % 2 = 0 := by
  have hiBound := hi.toNat_lt
  have loBound := lo.toNat_lt
  refine ⟨top_bit_ne_zero hi, ?_, ?_⟩
  · simp only [shl128, UInt64.toNat_add, toNat_shiftLeft_one, toNat_shiftRight_63]
    omega
  · simp only [shl128, toNat_shiftLeft_one]
    omega

theorem div128_64Step_spec (divisor remainder hi lo : UInt64)
    (remainderBound : remainder.toNat < divisor.toNat) :
    ((div128_64Step divisor (remainder, hi, lo)).2.1.toNat * 2 ^ 64 +
        (div128_64Step divisor (remainder, hi, lo)).2.2.toNat,
      (div128_64Step divisor (remainder, hi, lo)).1.toNat) =
      LongDivision.step divisor.toNat 128 (hi.toNat * 2 ^ 64 + lo.toNat, remainder.toNat) := by
  have hiBound := hi.toNat_lt
  have loBound := lo.toNat_lt
  have divisorBound := divisor.toNat_lt
  obtain ⟨shiftedOut, register, even⟩ := shl128_spec hi lo
  unfold div128_64Step
  dsimp only
  generalize shl128 hi lo = shifted at shiftedOut register even ⊢
  obtain ⟨out, newHi, newLo⟩ := shifted
  dsimp only at shiftedOut register even ⊢
  subst shiftedOut
  have topBit : (hi.toNat * 2 ^ 64 + lo.toNat) / 2 ^ (128 - 1) =
      if 2 ^ 63 ≤ hi.toNat then 1 else 0 := by
    split <;> omega
  unfold LongDivision.step
  simp only [topBit]
  have bitValue : (if 2 ^ 63 ≤ hi.toNat then 1 else 0) < 2 := by split <;> omega
  have shiftedRemainder : (if decide (2 ^ 63 ≤ hi.toNat) = true then remainder <<< 1 ||| 1
      else remainder <<< 1).toNat =
      2 * remainder.toNat % 2 ^ 64 + if 2 ^ 63 ≤ hi.toNat then 1 else 0 := by
    by_cases high : 2 ^ 63 ≤ hi.toNat
    · simp only [high, decide_true, if_true]
      rw [toNat_or_one_of_even (by rw [toNat_shiftLeft_one]; omega), toNat_shiftLeft_one]
    · simp only [high, decide_false, Bool.false_eq_true, if_false, toNat_shiftLeft_one]
      omega
  generalize (if decide (2 ^ 63 ≤ hi.toNat) = true then remainder <<< 1 ||| 1
      else remainder <<< 1) = shifted at shiftedRemainder
  generalize (if 2 ^ 63 ≤ hi.toNat then 1 else 0) = bit at shiftedRemainder bitValue ⊢
  have subtracts : (decide (2 ^ 63 ≤ remainder.toNat) || decide (divisor ≤ shifted)) =
      decide (divisor.toNat ≤ 2 * remainder.toNat + bit) := by
    rw [Bool.eq_iff_iff, Bool.or_eq_true, decide_eq_true_eq, decide_eq_true_eq,
      decide_eq_true_eq, UInt64.le_iff_toNat_le, shiftedRemainder]
    omega
  simp only [top_bit_ne_zero, ge_iff_le, subtracts, ← register]
  by_cases restores : divisor.toNat ≤ 2 * remainder.toNat + bit
  · simp only [restores, decide_true, if_true]
    rw [UInt64.toNat_sub, toNat_or_one_of_even even, shiftedRemainder]
    refine Prod.ext (by omega) (by omega)
  · simp only [restores, decide_false, Bool.false_eq_true, if_false, shiftedRemainder]
    refine Prod.ext rfl (by omega)

theorem div128_64Step_remainder_lt (divisor remainder hi lo : UInt64)
    (remainderBound : remainder.toNat < divisor.toNat) :
    (div128_64Step divisor (remainder, hi, lo)).1.toNat < divisor.toNat := by
  have stepped := congrArg Prod.snd (div128_64Step_spec divisor remainder hi lo remainderBound)
  dsimp only at stepped
  rw [stepped]
  have registerBound : hi.toNat * 2 ^ 64 + lo.toNat < 2 ^ 128 := by
    have := hi.toNat_lt
    have := lo.toNat_lt
    omega
  exact LongDivision.step_remainder_lt (by norm_num) registerBound remainderBound

theorem div128_64Loop_spec (divisor : UInt64) (count : Nat) :
    ∀ remainder hi lo : UInt64, remainder.toNat < divisor.toNat →
      ((div128_64Loop divisor count (remainder, hi, lo)).2.1.toNat * 2 ^ 64 +
          (div128_64Loop divisor count (remainder, hi, lo)).2.2.toNat,
        (div128_64Loop divisor count (remainder, hi, lo)).1.toNat) =
        LongDivision.run divisor.toNat 128 count (hi.toNat * 2 ^ 64 + lo.toNat, remainder.toNat) := by
  induction count with
  | zero => intro remainder hi lo _; rfl
  | succ count ih =>
      intro remainder hi lo remainderBound
      have stepped := div128_64Step_spec divisor remainder hi lo remainderBound
      have stillBelow := div128_64Step_remainder_lt divisor remainder hi lo remainderBound
      rw [div128_64Loop, LongDivision.run, ← stepped]
      generalize div128_64Step divisor (remainder, hi, lo) = next at stepped stillBelow ⊢
      obtain ⟨nextRemainder, nextHi, nextLo⟩ := next
      exact ih nextRemainder nextHi nextLo stillBelow

theorem div128_64_spec (dividendHi dividendLo divisor : UInt64) (divisorPos : 0 < divisor.toNat) :
    (div128_64 dividendHi dividendLo divisor).2.1.toNat * 2 ^ 64 +
        (div128_64 dividendHi dividendLo divisor).2.2.toNat =
        (dividendHi.toNat * 2 ^ 64 + dividendLo.toNat) / divisor.toNat ∧
      (div128_64 dividendHi dividendLo divisor).1.toNat =
        (dividendHi.toNat * 2 ^ 64 + dividendLo.toNat) % divisor.toNat := by
  have dividendBound : dividendHi.toNat * 2 ^ 64 + dividendLo.toNat < 2 ^ 128 := by
    have := dividendHi.toNat_lt
    have := dividendLo.toNat_lt
    omega
  have loop := div128_64Loop_spec divisor 128 0 dividendHi dividendLo divisorPos
  rw [UInt64.toNat_zero, LongDivision.run_eq divisorPos dividendBound, Prod.mk.injEq] at loop
  unfold div128_64
  exact loop

/-- A product taken in 128 bits and divided back: the low word of the
quotient is the exact quotient wherever that fits in 64 bits. -/
theorem div128_64_mul128_toNat (multiplier multiplicand divisor : UInt64)
    (divisorPos : 0 < divisor.toNat)
    (fits : multiplier.toNat * multiplicand.toNat / divisor.toNat < 2 ^ 64) :
    (div128_64 (mul128 multiplier multiplicand).2 (mul128 multiplier multiplicand).1
        divisor).2.2.toNat = multiplier.toNat * multiplicand.toNat / divisor.toNat := by
  obtain ⟨low, high⟩ := mul128_spec multiplier multiplicand
  obtain ⟨quotient, -⟩ := div128_64_spec (mul128 multiplier multiplicand).2
    (mul128 multiplier multiplicand).1 divisor divisorPos
  rw [low, high, Nat.div_add_mod'] at quotient
  omega

/-! ### 128 by 32 bit division -/

theorem divWithReminder_spec (dividend : UInt64) {divisor : UInt32} (remainder : UInt32)
    (digit : dividend.toNat < 2 ^ 32) (positive : 0 < divisor.toNat) :
    (divWithReminder dividend divisor remainder).1.toNat =
        (remainder.toNat * 2 ^ 32 + dividend.toNat) / divisor.toNat ∧
      (divWithReminder dividend divisor remainder).2.toNat =
        (remainder.toNat * 2 ^ 32 + dividend.toNat) % divisor.toNat := by
  have remainderBound := remainder.toNat_lt
  have divisorBound := divisor.toNat_lt
  have joined : (dividend ||| remainder.toUInt64 <<< 32).toNat =
      remainder.toNat * 2 ^ 32 + dividend.toNat := by
    rw [UInt64.toNat_or, toNat_shiftLeft_32, UInt32.toNat_toUInt64,
      Nat.mod_eq_of_lt (by omega), Nat.lor_comm, WideWord.shift_or_eq_add _ _ 32 digit]
  refine ⟨?_, ?_⟩
  · simp only [divWithReminder, UInt64.toNat_div, joined, UInt32.toNat_toUInt64]
  · simp only [divWithReminder, UInt64.toNat_toUInt32, UInt64.toNat_mod, joined,
      UInt32.toNat_toUInt64]
    exact Nat.mod_eq_of_lt (lt_trans (Nat.mod_lt _ positive) divisorBound)

theorem toNat_shiftLeft_32_or {high low : UInt64} (highBound : high.toNat < 2 ^ 32)
    (lowBound : low.toNat < 2 ^ 32) :
    (high <<< 32 ||| low).toNat = high.toNat * 2 ^ 32 + low.toNat := by
  rw [UInt64.toNat_or, toNat_shiftLeft_32, Nat.mod_eq_of_lt (by omega),
    WideWord.shift_or_eq_add _ _ 32 lowBound]

theorem div128_32_spec (dividendHi dividendLo : UInt64) {divisor : UInt32}
    (positive : 0 < divisor.toNat) :
    (div128_32 dividendHi dividendLo divisor).2.1.toNat * 2 ^ 64 +
        (div128_32 dividendHi dividendLo divisor).2.2.toNat =
        (dividendHi.toNat * 2 ^ 64 + dividendLo.toNat) / divisor.toNat ∧
      (div128_32 dividendHi dividendLo divisor).1.toNat =
        (dividendHi.toNat * 2 ^ 64 + dividendLo.toNat) % divisor.toNat := by
  have d3Bound : (hiDword dividendHi).toNat < 2 ^ 32 := by
    rw [hiDword_toNat]
    have := dividendHi.toNat_lt
    omega
  have d2Bound : (loDword dividendHi).toNat < 2 ^ 32 := by
    rw [loDword_toNat]
    omega
  have d1Bound : (hiDword dividendLo).toNat < 2 ^ 32 := by
    rw [hiDword_toNat]
    have := dividendLo.toNat_lt
    omega
  have d0Bound : (loDword dividendLo).toNat < 2 ^ 32 := by
    rw [loDword_toNat]
    omega
  have digits : dividendHi.toNat * 2 ^ 64 + dividendLo.toNat =
      (((hiDword dividendHi).toNat * 2 ^ 32 + (loDword dividendHi).toNat) * 2 ^ 32 +
        (hiDword dividendLo).toNat) * 2 ^ 32 + (loDword dividendLo).toNat := by
    rw [hiDword_toNat, loDword_toNat, hiDword_toNat, loDword_toNat]
    omega
  unfold div128_32
  have step3 := divWithReminder_spec (hiDword dividendHi) 0 d3Bound positive
  generalize divWithReminder (hiDword dividendHi) divisor 0 = first at step3 ⊢
  obtain ⟨q3, r1⟩ := first
  dsimp only at step3 ⊢
  have step2 := divWithReminder_spec (loDword dividendHi) r1 d2Bound positive
  generalize divWithReminder (loDword dividendHi) divisor r1 = second at step2 ⊢
  obtain ⟨q2, r2⟩ := second
  dsimp only at step2 ⊢
  have step1 := divWithReminder_spec (hiDword dividendLo) r2 d1Bound positive
  generalize divWithReminder (hiDword dividendLo) divisor r2 = third at step1 ⊢
  obtain ⟨q1, r3⟩ := third
  dsimp only at step1 ⊢
  have step0 := divWithReminder_spec (loDword dividendLo) r3 d0Bound positive
  generalize divWithReminder (loDword dividendLo) divisor r3 = fourth at step0 ⊢
  obtain ⟨q0, r4⟩ := fourth
  dsimp only at step0 ⊢
  have r1Bound : r1.toNat < divisor.toNat := by
    rw [step3.2]
    exact Nat.mod_lt _ positive
  have r2Bound : r2.toNat < divisor.toNat := by
    rw [step2.2]
    exact Nat.mod_lt _ positive
  have r3Bound : r3.toNat < divisor.toNat := by
    rw [step1.2]
    exact Nat.mod_lt _ positive
  have q3Bound : q3.toNat < 2 ^ 32 := by
    rw [step3.1]
    exact WideWord.digit_quotient_lt (by simpa using positive) d3Bound
  have q2Bound : q2.toNat < 2 ^ 32 := by
    rw [step2.1]
    exact WideWord.digit_quotient_lt r1Bound d2Bound
  have q1Bound : q1.toNat < 2 ^ 32 := by
    rw [step1.1]
    exact WideWord.digit_quotient_lt r2Bound d1Bound
  have q0Bound : q0.toNat < 2 ^ 32 := by
    rw [step0.1]
    exact WideWord.digit_quotient_lt r3Bound d0Bound
  rw [toNat_shiftLeft_32_or q3Bound q2Bound, toNat_shiftLeft_32_or q1Bound q0Bound, digits]
  simp only [UInt32.toNat_zero, Nat.zero_mul, Nat.zero_add] at step3
  obtain ⟨div2, mod2⟩ := WideWord.div_add_digit (hiDword dividendHi).toNat
    (loDword dividendHi).toNat (2 ^ 32) divisor.toNat
  rw [← step3.1, ← step3.2, ← step2.1] at div2
  rw [← step3.2, ← step2.2] at mod2
  obtain ⟨div1, mod1⟩ := WideWord.div_add_digit
    ((hiDword dividendHi).toNat * 2 ^ 32 + (loDword dividendHi).toNat)
    (hiDword dividendLo).toNat (2 ^ 32) divisor.toNat
  rw [div2, mod2, ← step1.1] at div1
  rw [mod2, ← step1.2] at mod1
  obtain ⟨div0, mod0⟩ := WideWord.div_add_digit
    (((hiDword dividendHi).toNat * 2 ^ 32 + (loDword dividendHi).toNat) * 2 ^ 32 +
      (hiDword dividendLo).toNat) (loDword dividendLo).toNat (2 ^ 32) divisor.toNat
  rw [div1, mod1, ← step0.1] at div0
  rw [mod1, ← step0.2] at mod0
  rw [div0, mod0]
  exact ⟨by ring, rfl⟩
end Antd.Epee
