import Antd.Lib.LittleEndian
import Antd.Lib.WideWord
import Antd.Crypto.Types
import Antd.Epee.IntUtil

/-! The proof-of-work target test of `difficulty.cpp`: the 64-by-64 bit
products (`mul128` of `int-util.h` on x86_64 and the portable `mul` elsewhere),
the carry helpers `cadd` and `cadc`, the fast test `check_hash_64` and the wide
test `check_hash_128`, and their dispatcher `check_hash`. Each test is shown to
decide `H * d < 2 ^ 256`, where `H` is the hash read as a little-endian
256-bit integer. Last, `next_difficulty`, which turns the timestamps and
cumulative difficulties of a window of blocks into the next target. -/

namespace Antd.Crypto.Hash

def digits (hash : Hash) : List Nat := hash.data.map UInt8.toNat

def value (hash : Hash) : Nat := Nat.ofDigits 256 hash.digits

/-- `swap64le(((const uint64_t *) &hash)[index])`: the little-endian 64-bit
word at byte offset `8 * index`, whatever the host byte order. -/
def word (hash : Hash) (index : Nat) : UInt64 :=
  UInt64.ofNat (Nat.ofDigits 256 ((hash.digits.drop (8 * index)).take 8))

theorem digits_lt (hash : Hash) : ∀ digit ∈ hash.digits, digit < 256 := by
  intro digit member
  obtain ⟨byte, -, rfl⟩ := List.mem_map.mp member
  exact byte.toNat_lt

theorem digits_length (hash : Hash) : hash.digits.length = 32 := by
  simp [digits, hash.length_eq]

theorem value_lt (hash : Hash) : hash.value < 2 ^ 256 := by
  have bounded : Nat.ofDigits 256 hash.digits < 256 ^ hash.digits.length :=
    Nat.ofDigits_lt_base_pow_length (by norm_num) hash.digits_lt
  rw [hash.digits_length] at bounded
  simpa [value] using bounded

theorem word_toNat (hash : Hash) (index : Nat) :
    (hash.word index).toNat = Nat.ofDigits 256 ((hash.digits.drop (8 * index)).take 8) := by
  have bound : Nat.ofDigits 256 ((hash.digits.drop (8 * index)).take 8) < 2 ^ 64 := by
    calc Nat.ofDigits 256 ((hash.digits.drop (8 * index)).take 8)
        < 256 ^ ((hash.digits.drop (8 * index)).take 8).length :=
          Nat.ofDigits_lt_base_pow_length (by norm_num) (fun digit member =>
            hash.digits_lt digit (List.mem_of_mem_drop (List.mem_of_mem_take member)))
      _ ≤ 256 ^ 8 := Nat.pow_le_pow_right (by norm_num) (List.length_take_le 8 _)
      _ = 2 ^ 64 := by norm_num
  rw [word, UInt64.toNat_ofNat', Nat.mod_eq_of_lt bound]

theorem value_eq_words (hash : Hash) :
    hash.value = (hash.word 0).toNat + 2 ^ 64 * (hash.word 1).toNat +
      2 ^ 128 * (hash.word 2).toNat + 2 ^ 192 * (hash.word 3).toNat := by
  have regroup := LittleEndian.ofDigits_chunks 256 8 4 hash.digits (by rw [hash.digits_length])
  simp only [LittleEndian.chunks, List.map_cons, List.map_nil, List.drop_drop] at regroup
  rw [value, regroup, word_toNat, word_toNat, word_toNat, word_toNat]
  simp only [Nat.ofDigits_cons, Nat.ofDigits_nil]
  norm_num
  ring

end Antd.Crypto.Hash

namespace Antd.Cryptonote

open Antd.Crypto Antd.Epee

/-- `difficulty_type`: boost's unchecked `uint128_t`. -/
abbrev DifficultyType := Fin (2 ^ 128)

/-- The modulus of `difficulty_type` is not zero, so it has its literals. -/
instance difficultyTypeNeZero : NeZero (2 ^ 128 : Nat) := ⟨by norm_num⟩

def DifficultyType.ofUInt64 (difficulty : UInt64) : DifficultyType :=
  ⟨difficulty.toNat, lt_trans difficulty.toNat_lt (by norm_num)⟩

def mul (a b : UInt64) : UInt64 × UInt64 := mul128 a b

def mulPortable (a b : UInt64) : UInt64 × UInt64 :=
  let aLow := a &&& 0xFFFFFFFF
  let aHigh := a >>> 32
  let bLow := b &&& 0xFFFFFFFF
  let bHigh := b >>> 32
  let res := aLow * bLow
  let lowRes1 := res &&& 0xFFFFFFFF
  let carry := res >>> 32
  let res := aHigh * bLow + carry
  let highResHigh1 := res >>> 32
  let highResLow1 := res &&& 0xFFFFFFFF
  let res := aLow * bHigh
  let lowRes2 := res &&& 0xFFFFFFFF
  let carry := res >>> 32
  let res := aHigh * bHigh + carry
  let highResHigh2 := res >>> 32
  let highResLow2 := res &&& 0xFFFFFFFF
  let r := highResLow1 + lowRes2
  let carry := r >>> 32
  let low := (r <<< 32) ||| lowRes1
  let r := highResHigh1 + highResLow2 + carry
  let d3 := r &&& 0xFFFFFFFF
  let carry := r >>> 32
  let r := highResHigh2 + carry
  let high := d3 ||| (r <<< 32)
  (low, high)

def cadd (a b : UInt64) : Bool := a + b < a

def cadc (a b : UInt64) (c : Bool) : Bool := a + b < a || (c && a + b == 0xFFFFFFFFFFFFFFFF)

/-- `check_hash_64`: the four limb products of `H * difficulty`, the top limb
tested first. -/
def checkHash64 (hash : Hash) (difficulty : UInt64) : Bool :=
  let (top, high) := mul (hash.word 3) difficulty
  if high != 0 then false
  else
    let (_, cur) := mul (hash.word 0) difficulty
    let (low, high) := mul (hash.word 1) difficulty
    let carry := cadd cur low
    let cur := high
    let (low, high) := mul (hash.word 2) difficulty
    let carry := cadc cur low carry
    let carry := cadc high top carry
    !carry

/-- The `uint512_t` accumulator of `check_hash_128` after the words `3 - i`
for `i` in `indices` were shifted in. -/
def accumulateWords (hash : Hash) (indices : List Nat) (start : Nat) : Nat :=
  indices.foldl (fun hashVal i => (hashVal <<< 64) % 2 ^ 512 ||| (hash.word (3 - i)).toNat) start

/-- `check_hash_128` with `FORCE_FULL_128_BITS`: all four words go into a
`uint512_t`, and the wrapped product is compared with `max256bit`. -/
def checkHash128 (hash : Hash) (difficulty : DifficultyType) : Bool :=
  let hashVal := accumulateWords hash [0, 1, 2, 3] 0
  decide (hashVal * difficulty.val % 2 ^ 512 ≤ 2 ^ 256 - 1)

def checkHash (hash : Hash) (difficulty : DifficultyType) : Bool :=
  if difficulty.val ≤ 2 ^ 64 - 1 then checkHash64 hash (UInt64.ofNat difficulty.val)
  else checkHash128 hash difficulty

/-! ### 64 by 64 bit products -/

private theorem toNat_and_mask (x : UInt64) : (x &&& 0xFFFFFFFF).toNat = x.toNat % 2 ^ 32 :=
  loDword_toNat x


private theorem shifted_or_eq_add {low high : Nat} (lowBound : low < 2 ^ 32) :
    high * 2 ^ 32 % 2 ^ 64 ||| low = high % 2 ^ 32 * 2 ^ 32 + low := by
  rw [show (2 : Nat) ^ 64 = 2 ^ 32 * 2 ^ 32 by norm_num, Nat.mul_mod_mul_right,
    WideWord.shift_or_eq_add _ _ _ lowBound]

theorem mulPortable_spec (a b : UInt64) :
    (mulPortable a b).1.toNat = a.toNat * b.toNat % 2 ^ 64 ∧
      (mulPortable a b).2.toNat = a.toNat * b.toNat / 2 ^ 64 := by
  have aBound := a.toNat_lt
  have bBound := b.toNat_lt
  have split := WideWord.mul_eq_partial_products a.toNat b.toNat (2 ^ 32)
  have aHigh : a.toNat / 2 ^ 32 < 2 ^ 32 := by omega
  have aLow : a.toNat % 2 ^ 32 < 2 ^ 32 := by omega
  have bHigh : b.toNat / 2 ^ 32 < 2 ^ 32 := by omega
  have bLow : b.toNat % 2 ^ 32 < 2 ^ 32 := by omega
  have hhBound := WideWord.half_mul_le aHigh bHigh
  have hlBound := WideWord.half_mul_le aHigh bLow
  have lhBound := WideWord.half_mul_le aLow bHigh
  have llBound := WideWord.half_mul_le aLow bLow
  simp only [mulPortable, UInt64.toNat_add, UInt64.toNat_mul, UInt64.toNat_or, toNat_and_mask,
    toNat_shiftLeft_32, toNat_shiftRight_32]
  generalize a.toNat / 2 ^ 32 * (b.toNat / 2 ^ 32) = hh at split hhBound ⊢
  generalize a.toNat / 2 ^ 32 * (b.toNat % 2 ^ 32) = hl at split hlBound ⊢
  generalize a.toNat % 2 ^ 32 * (b.toNat / 2 ^ 32) = lh at split lhBound ⊢
  generalize a.toNat % 2 ^ 32 * (b.toNat % 2 ^ 32) = ll at split llBound ⊢
  rw [Nat.lor_comm (_ % 2 ^ 32), shifted_or_eq_add (Nat.mod_lt _ (by norm_num)),
    shifted_or_eq_add (Nat.mod_lt _ (by norm_num)), split]
  norm_num at hhBound hlBound lhBound llBound ⊢
  constructor <;> omega

theorem mulPortable_eq_mul128 (a b : UInt64) : mulPortable a b = mul128 a b := by
  obtain ⟨portableLow, portableHigh⟩ := mulPortable_spec a b
  obtain ⟨low, high⟩ := mul128_spec a b
  exact Prod.ext (UInt64.toNat_inj.mp (portableLow.trans low.symm))
    (UInt64.toNat_inj.mp (portableHigh.trans high.symm))

theorem mul_spec (a b : UInt64) :
    (mul a b).1.toNat = a.toNat * b.toNat % 2 ^ 64 ∧
      (mul a b).2.toNat = a.toNat * b.toNat / 2 ^ 64 :=
  mul128_spec a b

/-! ### Carries -/

theorem cadd_eq (a b : UInt64) : cadd a b = decide (2 ^ 64 ≤ a.toNat + b.toNat) := by
  rw [cadd, decide_eq_decide, UInt64.lt_iff_toNat_lt, UInt64.toNat_add]
  exact WideWord.wrapped_add_lt_iff a.toNat_lt b.toNat_lt

theorem cadc_eq (a b : UInt64) (c : Bool) :
    cadc a b c = decide (2 ^ 64 ≤ a.toNat + b.toNat + c.toNat) := by
  have allOnes : (0xFFFFFFFFFFFFFFFF : UInt64).toNat = 2 ^ 64 - 1 := by decide
  rw [Bool.eq_iff_iff, decide_eq_true_eq,
    ← WideWord.wrapped_add_carry_iff c a.toNat_lt b.toNat_lt]
  simp only [cadc, Bool.or_eq_true, Bool.and_eq_true, beq_iff_eq, decide_eq_true_eq,
    UInt64.lt_iff_toNat_lt, ← UInt64.toNat_inj, UInt64.toNat_add, allOnes]

/-! ### The target tests -/

theorem checkHash64_eq (hash : Hash) (difficulty : UInt64) :
    checkHash64 hash difficulty = decide (hash.value * difficulty.toNat < 2 ^ 256) := by
  rcases third : mul (hash.word 3) difficulty with ⟨top, high⟩
  rcases zeroth : mul (hash.word 0) difficulty with ⟨low0, cur⟩
  rcases first : mul (hash.word 1) difficulty with ⟨low1, high1⟩
  rcases second : mul (hash.word 2) difficulty with ⟨low2, high2⟩
  have spec3 := mul_spec (hash.word 3) difficulty
  have spec0 := mul_spec (hash.word 0) difficulty
  have spec1 := mul_spec (hash.word 1) difficulty
  have spec2 := mul_spec (hash.word 2) difficulty
  rw [third] at spec3
  rw [zeroth] at spec0
  rw [first] at spec1
  rw [second] at spec2
  dsimp only at spec3 spec0 spec1 spec2
  have expand : hash.value * difficulty.toNat =
      (hash.word 0).toNat * difficulty.toNat + 2 ^ 64 * ((hash.word 1).toNat * difficulty.toNat) +
        2 ^ 128 * ((hash.word 2).toNat * difficulty.toNat) +
        2 ^ 192 * ((hash.word 3).toNat * difficulty.toNat) := by
    rw [hash.value_eq_words]
    ring
  have productBound (index : Nat) : (hash.word index).toNat * difficulty.toNat < 2 ^ 128 := by
    calc (hash.word index).toNat * difficulty.toNat < 2 ^ 64 * 2 ^ 64 :=
          Nat.mul_lt_mul'' (hash.word index).toNat_lt difficulty.toNat_lt
      _ = 2 ^ 128 := by norm_num
  have bound0 := productBound 0
  have bound1 := productBound 1
  have bound2 := productBound 2
  have bound3 := productBound 3
  simp only [checkHash64, third, zeroth, first, second, cadc_eq, cadd_eq, expand]
  generalize (hash.word 0).toNat * difficulty.toNat = p0 at spec0 bound0 ⊢
  generalize (hash.word 1).toNat * difficulty.toNat = p1 at spec1 bound1 ⊢
  generalize (hash.word 2).toNat * difficulty.toNat = p2 at spec2 bound2 ⊢
  generalize (hash.word 3).toNat * difficulty.toNat = p3 at spec3 bound3 ⊢
  obtain ⟨top_eq, high_eq⟩ := spec3
  obtain ⟨-, cur_eq⟩ := spec0
  obtain ⟨low1_eq, high1_eq⟩ := spec1
  obtain ⟨low2_eq, high2_eq⟩ := spec2
  by_cases highZero : high = 0
  · have highNat : high.toNat = 0 := by rw [highZero]; rfl
    simp only [highZero, bne_self_eq_false, Bool.false_eq_true, if_false]
    rw [Bool.eq_iff_iff]
    simp only [Bool.not_eq_true', decide_eq_false_iff_not, decide_eq_true_eq, not_le,
      Bool.toNat, Bool.cond_decide]
    split_ifs <;> omega
  · have highPos : 0 < high.toNat := by
      rcases Nat.eq_zero_or_pos high.toNat with zero | pos
      · exact absurd (UInt64.toNat_inj.mp (zero.trans rfl)) highZero
      · exact pos
    simp only [highZero, bne_iff_ne, ne_eq, not_false_eq_true, if_true]
    rw [eq_comm, decide_eq_false_iff_not]
    omega

private theorem accumulate_step (hashVal word : Nat) (room : hashVal < 2 ^ 448)
    (wordBound : word < 2 ^ 64) :
    (hashVal <<< 64) % 2 ^ 512 ||| word = hashVal * 2 ^ 64 + word := by
  have fits : hashVal * 2 ^ 64 < 2 ^ 512 := by
    calc hashVal * 2 ^ 64 < 2 ^ 448 * 2 ^ 64 := Nat.mul_lt_mul_of_pos_right room (by positivity)
      _ = 2 ^ 512 := by rw [← pow_add]
  rw [Nat.shiftLeft_eq, Nat.mod_eq_of_lt fits, WideWord.shift_or_eq_add _ _ _ wordBound]

theorem accumulateWords_eq_value (hash : Hash) :
    accumulateWords hash [0, 1, 2, 3] 0 = hash.value := by
  have w0 := (hash.word 0).toNat_lt
  have w1 := (hash.word 1).toNat_lt
  have w2 := (hash.word 2).toNat_lt
  have w3 := (hash.word 3).toNat_lt
  simp only [accumulateWords, List.foldl_cons, List.foldl_nil, Nat.zero_shiftLeft, Nat.zero_mod,
    Nat.zero_or, Nat.reduceSub]
  rw [accumulate_step _ _ (by omega) w2, accumulate_step _ _ (by omega) w1,
    accumulate_step _ _ (by omega) w0, hash.value_eq_words]
  ring

theorem checkHash128_eq (hash : Hash) (difficulty : DifficultyType) :
    checkHash128 hash difficulty = decide (hash.value * difficulty.val < 2 ^ 256) := by
  have productBound : hash.value * difficulty.val < 2 ^ 512 := by
    calc hash.value * difficulty.val < 2 ^ 256 * 2 ^ 256 :=
          Nat.mul_lt_mul'' hash.value_lt (lt_trans difficulty.isLt (by norm_num))
      _ = 2 ^ 512 := by rw [← pow_add]
  rw [checkHash128, accumulateWords_eq_value, Nat.mod_eq_of_lt productBound, decide_eq_decide]
  omega

theorem checkHash_eq (hash : Hash) (difficulty : DifficultyType) :
    checkHash hash difficulty = decide (hash.value * difficulty.val < 2 ^ 256) := by
  unfold checkHash
  split_ifs with small
  · rw [checkHash64_eq, UInt64.toNat_ofNat', Nat.mod_eq_of_lt (by omega)]
  · exact checkHash128_eq hash difficulty

/-- The fast path, the wide path and the dispatcher all decide
`H * d < 2 ^ 256`, and the portable product equals `mul128`. -/
theorem checkHash_decides_target :
    (∀ (hash : Hash) (difficulty : UInt64),
      checkHash64 hash difficulty = checkHash128 hash (.ofUInt64 difficulty) ∧
        checkHash128 hash (.ofUInt64 difficulty) =
          decide (hash.value * difficulty.toNat < 2 ^ 256)) ∧
    (∀ (hash : Hash) (difficulty : DifficultyType),
      checkHash hash difficulty = decide (hash.value * difficulty.val < 2 ^ 256)) ∧
    (∀ a b : UInt64, mulPortable a b = mul128 a b) := by
  refine ⟨fun hash difficulty => ?_, checkHash_eq, mulPortable_eq_mul128⟩
  have wide : checkHash128 hash (.ofUInt64 difficulty) =
      decide (hash.value * difficulty.toNat < 2 ^ 256) :=
    checkHash128_eq hash (.ofUInt64 difficulty)
  exact ⟨(checkHash64_eq hash difficulty).trans wide.symm, wide⟩

/-! ### The next difficulty -/

def difficultyTargetV2 : Nat := 120

def difficultyWindowV2 : Nat := 60

def difficultyCut : Nat := 6

def difficultyBlocksCountV2 : Nat := difficultyWindowV2 + 1

def resize {α : Type} (xs : List α) (count : Nat) (default : α) : List α :=
  xs.take count ++ List.replicate (count - xs.length) default

/-- `next_difficulty` for `difficulty_type`. Only the timestamps are sorted
(any sort gives the same list); the work is read from the cumulative
difficulties at the cut positions. The quotient is taken in `uint256_t`, where
it cannot wrap. -/
def nextDifficulty (timestamps : List UInt64) (cumulativeDifficulties : List DifficultyType)
    (targetSeconds : Nat) : DifficultyType :=
  let cut := timestamps.length > difficultyWindowV2
  let timestamps := if cut then resize timestamps difficultyWindowV2 0 else timestamps
  let cumulativeDifficulties :=
    if cut then resize cumulativeDifficulties difficultyWindowV2 0 else cumulativeDifficulties
  let length := timestamps.length
  if length ≤ 1 then 1
  else
    let sorted := timestamps.insertionSort (· ≤ ·)
    let kept := difficultyWindowV2 - 2 * difficultyCut
    let cutBegin := if length ≤ kept then 0 else (length - kept + 1) / 2
    let cutEnd := if length ≤ kept then length else cutBegin + kept
    let timeSpan := sorted.getD (cutEnd - 1) 0 - sorted.getD cutBegin 0
    let timeSpan := if timeSpan = 0 then 1 else timeSpan
    let totalWork :=
      cumulativeDifficulties.getD (cutEnd - 1) 0 - cumulativeDifficulties.getD cutBegin 0
    let res := (totalWork.val * targetSeconds + timeSpan.toNat - 1) / timeSpan.toNat
    if fits : res < 2 ^ 128 then ⟨res, fits⟩ else 0

theorem nextDifficulty_of_length_le_one {timestamps : List UInt64}
    (cumulativeDifficulties : List DifficultyType) (targetSeconds : Nat)
    (short : timestamps.length ≤ 1) :
    nextDifficulty timestamps cumulativeDifficulties targetSeconds = 1 := by
  unfold nextDifficulty
  have notCut : ¬(timestamps.length > difficultyWindowV2) := by
    unfold difficultyWindowV2
    omega
  simp only [notCut, if_false, short, if_true]

theorem ceil_div_eq_add_pred_div {a b : ℕ} (positive : 0 < b) :
    ⌈(a : ℚ) / b⌉₊ = (a + b - 1) / b := by
  have cast : (0 : ℚ) < b := by exact_mod_cast positive
  apply le_antisymm
  · rw [Nat.ceil_le, div_le_iff₀ cast]
    have split := Nat.div_add_mod (a + b - 1) b
    have small := Nat.mod_lt (a + b - 1) positive
    have covers : a ≤ (a + b - 1) / b * b := by
      rw [Nat.mul_comm]
      omega
    exact_mod_cast covers
  · have above : a ≤ ⌈(a : ℚ) / b⌉₊ * b := by
      have := Nat.le_ceil ((a : ℚ) / b)
      rw [div_le_iff₀ cast] at this
      exact_mod_cast this
    rw [Nat.div_le_iff_le_mul_add_pred positive, Nat.mul_comm]
    omega

def cutBegin (length : Nat) : Nat :=
  if length ≤ difficultyWindowV2 - 2 * difficultyCut then 0
  else (length - (difficultyWindowV2 - 2 * difficultyCut) + 1) / 2

def cutEnd (length : Nat) : Nat :=
  if length ≤ difficultyWindowV2 - 2 * difficultyCut then length
  else cutBegin length + (difficultyWindowV2 - 2 * difficultyCut)

theorem cut_bounds {length : Nat} (two : 2 ≤ length) (inWindow : length ≤ difficultyWindowV2) :
    cutBegin length + 2 ≤ cutEnd length ∧ cutEnd length ≤ length := by
  by_cases kept : length ≤ difficultyWindowV2 - 2 * difficultyCut
  · simp only [cutEnd, cutBegin, if_pos kept]
    omega
  · simp only [cutEnd, cutBegin, if_neg kept]
    unfold difficultyWindowV2 difficultyCut at kept ⊢
    unfold difficultyWindowV2 at inWindow
    omega

theorem resize_of_le {α : Type} {xs : List α} {count : Nat} (long : count ≤ xs.length)
    (default : α) : resize xs count default = xs.take count := by
  simp [resize, Nat.sub_eq_zero_of_le long]

theorem trimmed_eq_take {α : Type} {n : Nat} {xs : List α} (sameLength : n = xs.length)
    (default : α) :
    (if n > difficultyWindowV2 then resize xs difficultyWindowV2 default else xs) =
      xs.take difficultyWindowV2 := by
  split
  · exact resize_of_le (by omega) default
  · exact (List.take_of_length_le (by omega)).symm

theorem nextDifficulty_eq {timestamps : List UInt64} {cumulativeDifficulties : List DifficultyType}
    (sameLength : timestamps.length = cumulativeDifficulties.length) (targetSeconds : Nat) :
    nextDifficulty timestamps cumulativeDifficulties targetSeconds =
      let window := timestamps.take difficultyWindowV2
      let work := cumulativeDifficulties.take difficultyWindowV2
      let length := window.length
      if length ≤ 1 then 1
      else
        let sorted := window.insertionSort (· ≤ ·)
        let timeSpan := sorted.getD (cutEnd length - 1) 0 - sorted.getD (cutBegin length) 0
        let timeSpan := if timeSpan = 0 then 1 else timeSpan
        let totalWork := work.getD (cutEnd length - 1) 0 - work.getD (cutBegin length) 0
        let res := (totalWork.val * targetSeconds + timeSpan.toNat - 1) / timeSpan.toNat
        if fits : res < 2 ^ 128 then ⟨res, fits⟩ else 0 := by
  simp only [nextDifficulty, trimmed_eq_take rfl, trimmed_eq_take sameLength]
  rfl


theorem getD_rel_of_pairwise {α : Type} {R : α → α → Prop} {l : List α} (ordered : l.Pairwise R)
    {i j : Nat} (before : i < j) (inRange : j < l.length) (default : α) :
    R (l.getD i default) (l.getD j default) := by
  rw [List.getD_eq_getElem _ _ (by omega), List.getD_eq_getElem _ _ inRange]
  exact List.pairwise_iff_getElem.mp ordered i j (by omega) inRange before

/-- The window of at least two blocks keeps at least two positions, and the
result is the work over the time span between them, rounded up, or 0 when it
does not fit in 128 bits: neither subtraction wraps. -/
theorem nextDifficulty_trimmed_window (timestamps : List UInt64)
    (cumulativeDifficulties : List DifficultyType) (targetSeconds : Nat)
    (sameLength : timestamps.length = cumulativeDifficulties.length)
    (increasing : cumulativeDifficulties.Pairwise (· < ·)) :
    let window := timestamps.take difficultyWindowV2
    let sorted := window.insertionSort (· ≤ ·)
    let work := cumulativeDifficulties.take difficultyWindowV2
    let length := window.length
    (length ≤ 1 → nextDifficulty timestamps cumulativeDifficulties targetSeconds = 1) ∧
    (2 ≤ length →
      cutBegin length + 2 ≤ cutEnd length ∧ cutEnd length ≤ length ∧
      let totalWork := (work.getD (cutEnd length - 1) 0).val - (work.getD (cutBegin length) 0).val
      let timeSpan := max 1
        ((sorted.getD (cutEnd length - 1) 0).toNat - (sorted.getD (cutBegin length) 0).toNat)
      let res := ⌈((totalWork * targetSeconds : ℕ) : ℚ) / timeSpan⌉₊
      (nextDifficulty timestamps cumulativeDifficulties targetSeconds).val =
        if res < 2 ^ 128 then res else 0) := by
  rw [nextDifficulty_eq sameLength]
  dsimp only
  set window := timestamps.take difficultyWindowV2 with windowDef
  set work := cumulativeDifficulties.take difficultyWindowV2 with workDef
  set sorted := window.insertionSort (· ≤ ·) with sortedDef
  set length := window.length with lengthDef
  refine ⟨fun short => by rw [if_pos short], fun long => ?_⟩
  have inWindow : length ≤ difficultyWindowV2 := List.length_take_le _ _
  obtain ⟨gap, inside⟩ := cut_bounds long inWindow
  refine ⟨gap, inside, ?_⟩
  have sortedLength : sorted.length = length := List.length_insertionSort _ _
  have workLength : work.length = length := by simp [work, length, window, sameLength]
  have before : cutBegin length < cutEnd length - 1 := by omega
  have spanOrdered : sorted.getD (cutBegin length) 0 ≤ sorted.getD (cutEnd length - 1) 0 :=
    getD_rel_of_pairwise (List.pairwise_insertionSort _ _) before (by rw [sortedLength]; omega) 0
  have workOrdered : work.getD (cutBegin length) 0 < work.getD (cutEnd length - 1) 0 :=
    getD_rel_of_pairwise (increasing.sublist (List.take_sublist _ _)) before
      (by rw [workLength]; omega) 0
  set spanNat := (sorted.getD (cutEnd length - 1) 0).toNat - (sorted.getD (cutBegin length) 0).toNat
  have span : (sorted.getD (cutEnd length - 1) 0 - sorted.getD (cutBegin length) 0).toNat = spanNat :=
    UInt64.toNat_sub_of_le _ _ spanOrdered
  have clamped : (if sorted.getD (cutEnd length - 1) 0 - sorted.getD (cutBegin length) 0 = 0 then 1
      else sorted.getD (cutEnd length - 1) 0 - sorted.getD (cutBegin length) 0).toNat = max 1 spanNat := by
    split
    · rename_i zero
      rw [zero, UInt64.toNat_zero] at span
      rw [← span]
      rfl
    · rename_i nonzero
      have : spanNat ≠ 0 := fun zero => nonzero (UInt64.toNat_inj.mp (by rw [span, zero]; rfl))
      rw [span]
      omega
  have totalWork : (work.getD (cutEnd length - 1) 0 - work.getD (cutBegin length) 0).val =
      (work.getD (cutEnd length - 1) 0).val - (work.getD (cutBegin length) 0).val :=
    Fin.sub_val_of_le (le_of_lt workOrdered)
  rw [if_neg (by omega), clamped, totalWork, ← ceil_div_eq_add_pred_div (by omega)]
  split <;> rfl

theorem three_block_window_difficulty :
    cutBegin 3 + 2 ≤ cutEnd 3 ∧ cutEnd 3 ≤ 3 ∧
      (nextDifficulty [10, 30, 20] [1, 2, 4] 120).val = 18 := by
  obtain ⟨gap, inside, value⟩ :=
    (nextDifficulty_trimmed_window [10, 30, 20] [1, 2, 4] 120 rfl (by decide)).2 (by decide)
  refine ⟨gap, inside, ?_⟩
  have sorted : [(10 : UInt64), 30, 20].insertionSort (· ≤ ·) = [10, 20, 30] := by decide
  have span : (30 : UInt64).toNat - (10 : UInt64).toNat = 20 := by decide
  rw [value]
  norm_num [cutBegin, cutEnd, difficultyWindowV2, difficultyCut, sorted, span]

end Antd.Cryptonote
