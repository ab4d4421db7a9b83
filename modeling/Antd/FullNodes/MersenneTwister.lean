import Antd.FullNodes.FullNodeList
import Antd.Lib.LinearRecurrence

/-! `std::mt19937_64`, the engine `full_node_list.cpp` draws from, as the
C++ standard defines `mersenne_twister_engine` ([rand.eng.mers]) with word
size 64, state size 312, shift size 156 and mask bits 31. The state is the
window of the last 312 words, oldest first; each draw computes the next word
of the recurrence from the oldest, the second and the 157th, slides the window
and returns the new word tempered. Seeding fills the window from the seed by
the standard's initialization multiplier.

Over GF(2) the slide is linear, and a word repeated through the whole window
is only the zero word, so the slide has no fixed point but zero; the top bit
of a draw is a linear functional of the window. By `LinearRecurrence`, no
orbit keeps that bit at 1, so from every state some draw is below `2 ^ 63`:
the rejection loop of `uniform_distribution_portable` always ends. -/

namespace Antd.FullNodes

def maskBits : Nat := 31
def xorMask : UInt64 := 0xb5026f5aa96619e9
def temperingU : UInt64 := 29
def temperingD : UInt64 := 0x5555555555555555
def temperingS : UInt64 := 17
def temperingB : UInt64 := 0x71d67fffeda60000
def temperingT : UInt64 := 37
def temperingC : UInt64 := 0xfff7eee000000000
def temperingL : UInt64 := 43
def initializationMultiplier : UInt64 := 6364136223846793005

/-- The words `X_{i-n}`, ..., `X_{i-1}` of the standard, oldest first. -/
abbrev MtState := Fin 312 → UInt64

def upperMask : UInt64 := 0xffffffffffffffff <<< maskBits.toUInt64
def lowerMask : UInt64 := ~~~upperMask

def transition (x : MtState) : UInt64 :=
  let y := (x 0 &&& upperMask) ||| (x 1 &&& lowerMask)
  x 156 ^^^ (y >>> 1) ^^^ xorMask * (y &&& 1)

def advance (x : MtState) : MtState := fun j =>
  if h : j.val + 1 < 312 then x ⟨j.val + 1, h⟩ else transition x

def temper (z : UInt64) : UInt64 :=
  let z := z ^^^ ((z >>> temperingU) &&& temperingD)
  let z := z ^^^ ((z <<< temperingS) &&& temperingB)
  let z := z ^^^ ((z <<< temperingT) &&& temperingC)
  z ^^^ (z >>> temperingL)

theorem temper_top (z : UInt64) :
    (temper z).toBitVec.getLsbD 63 =
      (z.toBitVec.getLsbD 63 ^^ z.toBitVec.getLsbD 55 ^^ z.toBitVec.getLsbD 26 ^^ z.toBitVec.getLsbD 9) := by
  simp [temper, temperingU, temperingD, temperingS, temperingB, temperingT, temperingC, temperingL]
  cases z.toBitVec[26] <;> cases z.toBitVec[55] <;> cases z.toBitVec[9] <;> rfl
  
theorem upperMask_bit (c : Nat) : upperMask.toBitVec.getLsbD c = (decide (c < 64) && decide (31 ≤ c)) := by
  rw [show upperMask.toBitVec = BitVec.ofNat 64 ((2 ^ 33 - 1) * 2 ^ 31) by decide,
    BitVec.getLsbD_ofNat, Nat.testBit_mul_two_pow, Nat.testBit_two_pow_sub_one]
  by_cases small : c < 64 <;> by_cases high : 31 ≤ c <;> (simp [small, high]; try omega)

theorem lowerMask_bit (c : Nat) : lowerMask.toBitVec.getLsbD c = (decide (c < 64) && decide (c < 31)) := by
  rw [lowerMask, UInt64.toBitVec_not, BitVec.getLsbD_not, upperMask_bit]
  by_cases small : c < 64 <;> by_cases high : 31 ≤ c <;> (simp [small, high]; try omega)

theorem and_one (y : UInt64) : y &&& 1 = if y.toBitVec.getLsbD 0 then 1 else 0 := by
  apply UInt64.toBitVec_inj.mp
  rw [UInt64.toBitVec_and, show (1 : UInt64).toBitVec = 1#64 from rfl,
    BitVec.and_one_eq_setWidth_ofBool_getLsbD]
  cases y.toBitVec.getLsbD 0 <;> rfl

theorem transition_bit (x : MtState) (b : Nat) (small : b < 64) :
    (transition x).toBitVec.getLsbD b =
      ((x 156).toBitVec.getLsbD b ^^
        ((decide (b + 1 < 64) && (if 31 ≤ b + 1 then (x 0).toBitVec.getLsbD (b + 1)
          else (x 1).toBitVec.getLsbD (b + 1))) ^^
        ((x 1).toBitVec.getLsbD 0 && xorMask.toBitVec.getLsbD b))) := by
  have conditional : ∀ y : UInt64,
      xorMask * (y &&& 1) = if y.toBitVec.getLsbD 0 then xorMask else 0 := by
    intro y
    rw [and_one]
    split <;> simp
  rw [transition, conditional]
  simp only [UInt64.toBitVec_xor, UInt64.toBitVec_or, UInt64.toBitVec_and, UInt64.toBitVec_shiftRight,
    BitVec.getLsbD_xor, BitVec.getLsbD_or, BitVec.getLsbD_and, BitVec.ushiftRight_eq',
    show (UInt64.toBitVec 1 % 64).toNat = 1 from rfl, BitVec.getLsbD_ushiftRight,
    upperMask_bit, lowerMask_bit]
  cases low : (x 1).toBitVec.getLsbD 0 <;> by_cases top : b + 1 < 64 <;>
    by_cases high : 31 ≤ b + 1 <;> simp [top, high, Nat.add_comm 1 b, small] <;> omega

def toBit (p : Bool) : ZMod 2 := if p then 1 else 0

@[simp] theorem toBit_xor (p q : Bool) : toBit (p ^^ q) = toBit p + toBit q := by
  cases p <;> cases q <;> decide

@[simp] theorem toBit_and (p q : Bool) : toBit (p && q) = toBit p * toBit q := by
  cases p <;> cases q <;> decide

@[simp] theorem toBit_false : toBit false = 0 := rfl

@[simp] theorem toBit_true : toBit true = 1 := rfl

/-- The window as a vector over GF(2), word by word and bit by bit. -/
abbrev MtBits := Fin 312 → Fin 64 → ZMod 2

def bitsOf (x : MtState) : MtBits := fun j b => toBit ((x j).toBitVec.getLsbD b)

def advanceBits (v : MtBits) : MtBits := fun j b =>
  if h : j.val + 1 < 312 then v ⟨j.val + 1, h⟩ b
  else v 156 b +
    ((if h' : b.val + 1 < 64 then
        (if 31 ≤ b.val + 1 then v 0 ⟨b.val + 1, h'⟩ else v 1 ⟨b.val + 1, h'⟩) else 0) +
      v 1 0 * toBit (xorMask.toBitVec.getLsbD b))

def advanceLinear : MtBits →ₗ[ZMod 2] MtBits where
  toFun := advanceBits
  map_add' v w := by
    funext j b
    simp only [advanceBits, Pi.add_apply]
    split_ifs <;> ring
  map_smul' c v := by
    funext j b
    simp only [advanceBits, Pi.smul_apply, smul_eq_mul, RingHom.id_apply]
    split_ifs <;> ring

theorem bitsOf_advance (x : MtState) : bitsOf (advance x) = advanceLinear (bitsOf x) := by
  funext j b
  show toBit ((advance x j).toBitVec.getLsbD b) = advanceBits (bitsOf x) j b
  by_cases inWindow : j.val + 1 < 312
  · simp only [advance, advanceBits, dif_pos inWindow, bitsOf]
  · simp only [advance, advanceBits, dif_neg inWindow, transition_bit x b b.isLt, toBit_xor,
      toBit_and, bitsOf]
    by_cases top : b.val + 1 < 64
    · by_cases high : 31 ≤ b.val + 1 <;> simp [top, high]
    · simp [top]

theorem advanceLinear_fixedFree (v : MtBits) (fixed : advanceLinear v = v) : v = 0 := by
  have row : ∀ j b, advanceBits v j b = v j b := fun j b => congrFun (congrFun fixed j) b
  have same : ∀ (k : Nat) (h : k < 312), v ⟨k, h⟩ = v 0 := by
    intro k
    induction k with
    | zero => intro h; rfl
    | succ k ih =>
      intro h
      funext b
      have shifted := row ⟨k, by omega⟩ b
      simp only [advanceBits, dif_pos (show k + 1 < 312 by omega)] at shifted
      rw [shifted, ih (by omega)]
  have last : ∀ b : Fin 64, (if h : b.val + 1 < 64 then v 0 ⟨b.val + 1, h⟩ else 0) +
      v 0 0 * toBit (xorMask.toBitVec.getLsbD b) = 0 := by
    intro b
    have newest := row 311 b
    simp only [advanceBits, dif_neg (show ¬(311 : Fin 312).val + 1 < 312 by decide)] at newest
    have same' : ∀ j : Fin 312, v j = v 0 := fun j => same j.val j.isLt
    rw [same' 156, same' 1, same' 311] at newest
    split_ifs at newest ⊢ <;> linear_combination newest
  have lowBit : v 0 0 = 0 := by
    have top := last 63
    rw [dif_neg (by decide), show toBit (xorMask.toBitVec.getLsbD ((63 : Fin 64) : Nat)) = 1 by decide]
      at top
    simpa using top
  funext j b
  rw [same j.val j.isLt]
  rcases b with ⟨_ | c, below⟩
  · exact lowBit
  · have higher := last ⟨c, by omega⟩
    rw [dif_pos below, lowBit, zero_mul, add_zero] at higher
    exact higher

def topBit : MtBits →ₗ[ZMod 2] ZMod 2 where
  toFun v := v 311 63 + v 311 55 + v 311 26 + v 311 9
  map_add' v w := by
    simp only [Pi.add_apply]
    ring
  map_smul' c v := by
    simp only [Pi.smul_apply, smul_eq_mul, RingHom.id_apply]
    ring

theorem topBit_bitsOf (x : MtState) :
    toBit ((temper (x 311)).toBitVec.getLsbD 63) = topBit (bitsOf x) := by
  rw [temper_top]
  simp only [toBit_xor, topBit, bitsOf, LinearMap.coe_mk, AddHom.coe_mk]
  rfl

theorem bitsOf_iterate (k : Nat) (x : MtState) :
    bitsOf (advance^[k] x) = (advanceLinear ^ k) (bitsOf x) := by
  induction k generalizing x with
  | zero => rfl
  | succ k ih =>
    rw [Function.iterate_succ_apply, ih, bitsOf_advance, pow_succ, Module.End.mul_apply]

theorem toNat_lt_of_top_bit {z : UInt64} (low : z.toBitVec.getLsbD 63 = false) :
    z.toNat < 2 ^ 63 := by
  apply Nat.lt_pow_two_of_testBit
  intro i above
  rcases Nat.lt_or_ge i 64 with small | large
  · rw [show i = 63 by omega]
    exact low
  · exact Nat.testBit_lt_two_pow (lt_of_lt_of_le z.toNat_lt (Nat.pow_le_pow_right (by norm_num) large))

/-- `operator()`: the next word of the recurrence, tempered, and the window slid over it. -/
def mersenneTwisterNext (x : MtState) : UInt64 × MtState := (temper (transition x), advance x)

theorem mersenneTwister_eventuallyLow (x : MtState) : ∃ skipped : Nat,
    (mersenneTwisterNext ((fun current => (mersenneTwisterNext current).2)^[skipped] x)).1.toNat <
      2 ^ 63 := by
  obtain ⟨n, notOne⟩ := LinearRecurrence.exists_iterate_ne advanceLinear_fixedFree topBit
    one_ne_zero (bitsOf (advance x))
  refine ⟨n, toNat_lt_of_top_bit ?_⟩
  have newest : transition (advance^[n] x) = advance (advance^[n] x) 311 := by
    simp [advance]
  have bits : bitsOf (advance (advance^[n] x)) = (advanceLinear ^ n) (bitsOf (advance x)) := by
    rw [← Function.iterate_succ_apply' advance n x, Function.iterate_succ_apply, bitsOf_iterate]
  have bridged := topBit_bitsOf (advance (advance^[n] x))
  rw [bits, ← newest] at bridged
  rw [← bridged] at notOne
  show (temper (transition (advance^[n] x))).toBitVec.getLsbD 63 = false
  cases top : (temper (transition (advance^[n] x))).toBitVec.getLsbD 63
  · rfl
  · rw [top] at notOne
    exact absurd rfl notOne

/-- `seed(value)`: `X_{-n}` is the value, and each later word of the window
the multiplier times the word before xor its top two bits, plus its index. -/
def seedWords (value : UInt64) : Nat → List UInt64
  | 0 => [value]
  | i + 1 =>
    let words := seedWords value i
    let previous := words.getLastD value
    words ++ [initializationMultiplier * (previous ^^^ (previous >>> 62)) + (i + 1).toUInt64]

def mersenneTwisterSeed (value : UInt64) : MtState := fun j => (seedWords value 311).getD j.val 0

def mt19937_64 : RandomEngine MtState where
  seed := mersenneTwisterSeed
  next := mersenneTwisterNext
  eventuallyLow := mersenneTwister_eventuallyLow

end Antd.FullNodes
