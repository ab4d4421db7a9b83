import Antd.Lib.FixedDigits
import Antd.Epee.IntUtil

/-! `tools::base58` (`src/common/base58.cpp`). Bytes are encoded by blocks of
eight, each read as a big-endian number and written as eleven base-58 digits;
a last block of `n < 8` bytes takes `encoded_block_sizes[n]` digits. Decoding
reads the digits of a block from the right, accumulating in a `uint64_t` with
overflow checks, and rejects a value too wide for the bytes of its block.

Decoding undoes encoding (`decode_encode`), and a string that decodes is the
encoding of what it decodes to (`encode_of_decode`): every block value below
`256 ^ n` has exactly one numeral of `encoded_block_sizes[n]` digits, because
`58 ^ encoded_block_sizes[n]` is at least `256 ^ n`. -/

namespace Antd.Common.Base58

open Antd.Epee FixedDigits

def alphabet : List UInt8 :=
  "123456789ABCDEFGHJKLMNPQRSTUVWXYZabcdefghijkmnopqrstuvwxyz".toList.map
    fun letter => letter.toNat.toUInt8

def alphabetSize : Nat := 58

def encodedBlockSizes : List Nat := [0, 2, 3, 5, 6, 7, 9, 10, 11]

def fullBlockSize : Nat := 8

def fullEncodedBlockSize : Nat := 11

def reverseAlphabetData : List Int :=
  (List.range alphabetSize).foldl
    (fun data i => data.set ((alphabet.getD i 0).toNat - (alphabet.getD 0 0).toNat) i)
    (List.replicate
      ((alphabet.getD (alphabetSize - 1) 0).toNat - (alphabet.getD 0 0).toNat + 1) (-1))

/-- `reverse_alphabet::operator()`: the digit of a letter, or -1. A letter below
`alphabet[0]` makes the index negative, out of range as a `size_t`. -/
def reverseAlphabet (letter : UInt8) : Int :=
  if letter.toNat < (alphabet.getD 0 0).toNat then -1
  else reverseAlphabetData.getD (letter.toNat - (alphabet.getD 0 0).toNat) (-1)

def decodedBlockSizesData : List Int :=
  (List.range (fullBlockSize + 1)).foldl
    (fun data i => data.set (encodedBlockSizes.getD i 0) i)
    (List.replicate (fullEncodedBlockSize + 1) (-1))

def decodedBlockSizes (encodedBlockSize : Nat) : Int :=
  decodedBlockSizesData.getD encodedBlockSize (-1)

def uint8beTo64 (data : List UInt8) : UInt64 :=
  (FixedDigits.ofDigits 256 (data.map UInt8.toNat)).toUInt64

def uint64To8be (num : UInt64) (size : Nat) : List UInt8 :=
  (toDigits 256 size num.toNat).map Nat.toUInt8

/-- The body of the loop of `encode_block`: the last base-58 digit of `num`
written at `i`. -/
def writeDigit (res : List UInt8) (num : UInt64) (i : Nat) : List UInt8 :=
  res.set i (alphabet.getD (num % alphabetSize.toUInt64).toNat 0)

/-- The loop of `encode_block`: while `num` is not zero, its last base-58 digit
is written at `i` and `i` moves left. It stops at position 0, where `num` has
no digit left in every call `encode_block` makes. -/
def encodeBlockLoop (res : List UInt8) (num : UInt64) : Nat → List UInt8
  | 0 => if 0 < num then writeDigit res num 0 else res
  | i + 1 =>
      if 0 < num then encodeBlockLoop (writeDigit res num (i + 1)) (num / alphabetSize.toUInt64) i
      else res

/-- `encode_block`, into its part of the result, which `encode` fills with
`alphabet[0]` first. -/
def encodeBlock (block : List UInt8) : List UInt8 :=
  let num := uint8beTo64 block
  let encodedSize := encodedBlockSizes.getD block.length 0
  encodeBlockLoop (List.replicate encodedSize (alphabet.getD 0 0)) num (encodedSize - 1)

/-- One pass of the loop of `decode_block`, on the letter left of those read:
`(res_num, order)` after it, or `none` for an invalid symbol or an overflow. -/
def decodeLetter (state : UInt64 × UInt64) (letter : UInt8) : Option (UInt64 × UInt64) :=
  let (resNum, order) := state
  let digit := reverseAlphabet letter
  if digit < 0 then none
  else
    let (productLo, productHi) := mul128 order digit.toNat.toUInt64
    let tmp := resNum + productLo
    if tmp < resNum ∨ productHi ≠ 0 then none
    else some (tmp, order * alphabetSize.toUInt64)

def decodeBlock (block : List UInt8) : Option (List UInt8) :=
  let resSize := decodedBlockSizes block.length
  if resSize ≤ 0 then none
  else do
    let (resNum, _) ← block.reverse.foldlM decodeLetter (0, 1)
    if resSize.toNat < fullBlockSize ∧ (1 : UInt64) <<< (8 * resSize.toNat).toUInt64 ≤ resNum then
      none
    else some (uint64To8be resNum resSize.toNat)

def encodeFullBlocks : Nat → List UInt8 → List UInt8
  | 0, _ => []
  | count + 1, data =>
      encodeBlock (data.take fullBlockSize) ++ encodeFullBlocks count (data.drop fullBlockSize)

def encode (data : List UInt8) : List UInt8 :=
  if data.isEmpty then []
  else
    let fullBlockCount := data.length / fullBlockSize
    let lastBlockSize := data.length % fullBlockSize
    encodeFullBlocks fullBlockCount data ++
      if 0 < lastBlockSize then encodeBlock (data.drop (fullBlockCount * fullBlockSize))
      else []

def decodeFullBlocks : Nat → List UInt8 → Option (List UInt8)
  | 0, _ => some []
  | count + 1, enc => do
      let block ← decodeBlock (enc.take fullEncodedBlockSize)
      let rest ← decodeFullBlocks count (enc.drop fullEncodedBlockSize)
      pure (block ++ rest)

def decode (enc : List UInt8) : Option (List UInt8) :=
  if enc.isEmpty then some []
  else
    let fullBlockCount := enc.length / fullEncodedBlockSize
    let lastBlockSize := enc.length % fullEncodedBlockSize
    if decodedBlockSizes lastBlockSize < 0 then none
    else do
      let full ← decodeFullBlocks fullBlockCount enc
      let last ← if 0 < lastBlockSize then
          decodeBlock (enc.drop (fullBlockCount * fullEncodedBlockSize))
        else some []
      pure (full ++ last)

/-! ### The tables -/

theorem reverseAlphabetData_eq : reverseAlphabetData = [0, 1, 2, 3, 4, 5, 6, 7, 8, -1, -1, -1, -1,
    -1, -1, -1, 9, 10, 11, 12, 13, 14, 15, 16, -1, 17, 18, 19, 20, 21, -1, 22, 23, 24, 25, 26,
    27, 28, 29, 30, 31, 32, -1, -1, -1, -1, -1, -1, 33, 34, 35, 36, 37, 38, 39, 40, 41, 42, 43,
    -1, 44, 45, 46, 47, 48, 49, 50, 51, 52, 53, 54, 55, 56, 57] := by
  decide

def letterOf (digit : Nat) : UInt8 := alphabet.getD digit 0

def digitOf (letter : UInt8) : Nat := (reverseAlphabet letter).toNat

theorem reverseAlphabet_letterOf : ∀ digit < alphabetSize, reverseAlphabet (letterOf digit) = digit := by
  decide

theorem digitOf_letterOf {digit : Nat} (small : digit < alphabetSize) :
    digitOf (letterOf digit) = digit := by
  rw [digitOf, reverseAlphabet_letterOf digit small, Int.toNat_natCast]

set_option maxRecDepth 4000 in
theorem letterOf_digitOf_table : ∀ code < 256, 0 ≤ reverseAlphabet code.toUInt8 →
    digitOf code.toUInt8 < alphabetSize ∧ letterOf (digitOf code.toUInt8) = code.toUInt8 := by
  unfold digitOf reverseAlphabet
  rw [reverseAlphabetData_eq]
  decide

theorem letterOf_digitOf {letter : UInt8} (valid : 0 ≤ reverseAlphabet letter) :
    digitOf letter < alphabetSize ∧ letterOf (digitOf letter) = letter := by
  have same : letter.toNat.toUInt8 = letter := UInt8.toNat.inj (by simp)
  have table := letterOf_digitOf_table letter.toNat letter.toNat_lt
  rw [same] at table
  exact table valid

theorem decodedBlockSizesData_eq :
    decodedBlockSizesData = [0, -1, 1, 2, -1, 3, 4, 5, -1, 6, 7, 8] := by
  decide

theorem decodedBlockSizes_encodedBlockSizes :
    ∀ size ≤ fullBlockSize, decodedBlockSizes (encodedBlockSizes.getD size 0) = size := by
  unfold decodedBlockSizes
  rw [decodedBlockSizesData_eq]
  decide

theorem encodedBlockSizes_decodedBlockSizes {encodedSize : Nat}
    (known : 0 ≤ decodedBlockSizes encodedSize) :
    (decodedBlockSizes encodedSize).toNat ≤ fullBlockSize ∧
      encodedBlockSizes.getD (decodedBlockSizes encodedSize).toNat 0 = encodedSize := by
  unfold decodedBlockSizes at known ⊢
  rw [decodedBlockSizesData_eq] at known ⊢
  by_cases inTable : encodedSize < 12
  · revert known
    revert encodedSize
    decide
  · rw [List.getD_eq_default _ _ (by simp; omega)] at known
    exact absurd known (by decide)

theorem pow_le_encodedBlockSizes :
    ∀ size ≤ fullBlockSize, 256 ^ size ≤ alphabetSize ^ encodedBlockSizes.getD size 0 := by
  decide


/-! ### Encoding a block -/

theorem alphabetSize_toUInt64 : alphabetSize.toUInt64.toNat = alphabetSize := rfl

theorem set_replicate_append {α : Type} (count : Nat) (blank letter : α) (post : List α) :
    (List.replicate (count + 1) blank ++ post).set count letter =
      List.replicate count blank ++ letter :: post := by
  rw [List.replicate_succ', List.append_assoc, List.set_append_right _ _ (by simp)]
  simp

theorem encodeBlockLoop_replicate (i : Nat) :
    ∀ (num : UInt64) (post : List UInt8), num.toNat < alphabetSize ^ (i + 1) →
      encodeBlockLoop (List.replicate (i + 1) (letterOf 0) ++ post) num i =
        (toDigits alphabetSize (i + 1) num.toNat).map letterOf ++ post := by
  induction i with
  | zero =>
      intro num post fits
      by_cases positive : 0 < num
      · rw [encodeBlockLoop, if_pos positive, writeDigit, set_replicate_append, UInt64.toNat_mod,
          alphabetSize_toUInt64, toDigits_succ]
        simp [letterOf, toDigits]
      · have zero : num.toNat = 0 := by
          simpa [UInt64.lt_iff_toNat_lt] using positive
        rw [encodeBlockLoop, if_neg positive, zero, toDigits_zero, List.map_replicate]
  | succ i ih =>
      intro num post fits
      by_cases positive : 0 < num
      · have quotient : (num / alphabetSize.toUInt64).toNat < alphabetSize ^ (i + 1) := by
          rw [UInt64.toNat_div, alphabetSize_toUInt64, Nat.div_lt_iff_lt_mul (by decide),
            ← pow_succ]
          exact fits
        rw [encodeBlockLoop, if_pos positive, writeDigit, set_replicate_append,
          ih _ _ quotient, toDigits_succ (i + 1), UInt64.toNat_mod, UInt64.toNat_div,
          alphabetSize_toUInt64]
        simp [letterOf]
      · have zero : num.toNat = 0 := by
          simpa [UInt64.lt_iff_toNat_lt] using positive
        rw [encodeBlockLoop, if_neg positive, zero, toDigits_zero, List.map_replicate]


theorem encodedBlockSizes_pos : ∀ size ≤ fullBlockSize, 0 < size → 0 < encodedBlockSizes.getD size 0 := by
  decide

theorem ofDigits_bytes_lt (block : List UInt8) :
    ofDigits 256 (block.map UInt8.toNat) < 256 ^ block.length := by
  have small : ∀ digit ∈ block.map UInt8.toNat, digit < 256 := by
    simp only [List.mem_map]
    rintro digit ⟨byte, -, rfl⟩
    exact byte.toNat_lt
  simpa using ofDigits_lt _ small

theorem uint8beTo64_toNat {block : List UInt8} (short : block.length ≤ fullBlockSize) :
    (uint8beTo64 block).toNat = ofDigits 256 (block.map UInt8.toNat) := by
  have bound : ofDigits 256 (block.map UInt8.toNat) < 2 ^ 64 :=
    calc ofDigits 256 (block.map UInt8.toNat) < 256 ^ block.length := ofDigits_bytes_lt block
      _ ≤ 256 ^ fullBlockSize := Nat.pow_le_pow_right (by decide) short
      _ = 2 ^ 64 := by decide
  simpa [uint8beTo64] using bound

theorem encodeBlock_eq {block : List UInt8} (nonempty : 0 < block.length)
    (short : block.length ≤ fullBlockSize) :
    encodeBlock block = (toDigits alphabetSize (encodedBlockSizes.getD block.length 0)
      (ofDigits 256 (block.map UInt8.toNat))).map letterOf := by
  obtain ⟨i, width⟩ : ∃ i, encodedBlockSizes.getD block.length 0 = i + 1 :=
    Nat.exists_eq_add_one.mpr (encodedBlockSizes_pos _ short nonempty)
  have fits : (uint8beTo64 block).toNat < alphabetSize ^ (i + 1) := by
    rw [uint8beTo64_toNat short, ← width]
    exact lt_of_lt_of_le (ofDigits_bytes_lt block) (pow_le_encodedBlockSizes _ short)
  have blank : alphabet.getD 0 0 = letterOf 0 := rfl
  have padded := encodeBlockLoop_replicate i (uint8beTo64 block) [] fits
  rw [List.append_nil, List.append_nil, uint8beTo64_toNat short] at padded
  simp only [encodeBlock, width, blank, Nat.add_sub_cancel]
  exact padded


/-! ### Decoding a block -/

theorem digit_toUInt64_toNat {letter : UInt8} (valid : 0 ≤ reverseAlphabet letter) :
    (reverseAlphabet letter).toNat.toUInt64.toNat = digitOf letter := by
  have small := (letterOf_digitOf valid).1
  unfold alphabetSize at small
  simp only [digitOf] at small ⊢
  simp
  omega

theorem decodeLetter_eq_some {resNum order resNum' order' : UInt64} {letter : UInt8}
    (decoded : decodeLetter (resNum, order) letter = some (resNum', order')) :
    0 ≤ reverseAlphabet letter ∧
      resNum'.toNat = resNum.toNat + order.toNat * digitOf letter ∧
      order' = order * alphabetSize.toUInt64 := by
  simp only [decodeLetter] at decoded
  by_cases invalid : reverseAlphabet letter < 0
  · rw [if_pos invalid] at decoded
    cases decoded
  rw [if_neg invalid] at decoded
  have valid : 0 ≤ reverseAlphabet letter := by omega
  obtain ⟨low, high⟩ := mul128_spec order (reverseAlphabet letter).toNat.toUInt64
  rcases product : mul128 order (reverseAlphabet letter).toNat.toUInt64 with ⟨productLo, productHi⟩
  rw [product] at decoded low high
  rw [digit_toUInt64_toNat valid] at low high
  dsimp only at decoded low high
  by_cases overflow : resNum + productLo < resNum ∨ productHi ≠ 0
  · rw [if_pos overflow] at decoded
    cases decoded
  rw [if_neg overflow] at decoded
  cases decoded
  obtain ⟨noCarry, noHigh⟩ := not_or.mp overflow
  have productFits : order.toNat * digitOf letter < 2 ^ 64 := by
    rw [not_not] at noHigh
    rw [noHigh, UInt64.toNat_zero] at high
    exact (Nat.div_eq_zero_iff_lt (by decide)).mp high.symm
  rw [Nat.mod_eq_of_lt productFits] at low
  have below := resNum.toNat_lt
  have sumFits : resNum.toNat + order.toNat * digitOf letter < 2 ^ 64 := by
    by_contra wrapped
    apply noCarry
    rw [UInt64.lt_iff_toNat_lt, UInt64.toNat_add, low, Nat.mod_eq_sub_mod (by omega),
      Nat.mod_eq_of_lt (by omega)]
    omega
  refine ⟨valid, ?_, rfl⟩
  rw [UInt64.toNat_add, low, Nat.mod_eq_of_lt sumFits]

theorem decodeLetter_of_fits {resNum order : UInt64} {letter : UInt8}
    (valid : 0 ≤ reverseAlphabet letter)
    (fits : resNum.toNat + order.toNat * digitOf letter < 2 ^ 64) :
    ∃ resNum', decodeLetter (resNum, order) letter =
        some (resNum', order * alphabetSize.toUInt64) ∧
      resNum'.toNat = resNum.toNat + order.toNat * digitOf letter := by
  obtain ⟨low, high⟩ := mul128_spec order (reverseAlphabet letter).toNat.toUInt64
  rcases product : mul128 order (reverseAlphabet letter).toNat.toUInt64 with
    ⟨productLo, productHi⟩
  rw [product, digit_toUInt64_toNat valid] at low high
  dsimp only at low high
  have productFits : order.toNat * digitOf letter < 2 ^ 64 := by omega
  rw [Nat.mod_eq_of_lt productFits] at low
  rw [Nat.div_eq_of_lt productFits] at high
  have noHigh : productHi = 0 := UInt64.toNat_inj.mp high
  have sum : (resNum + productLo).toNat = resNum.toNat + order.toNat * digitOf letter := by
    rw [UInt64.toNat_add, low, Nat.mod_eq_of_lt fits]
  have noCarry : ¬(resNum + productLo < resNum) := by
    rw [UInt64.lt_iff_toNat_lt, sum]
    omega
  refine ⟨resNum + productLo, ?_, sum⟩
  simp only [decodeLetter, if_neg (not_lt.mpr valid), product]
  rw [if_neg (by simp [noCarry, noHigh])]


theorem order_exact {order : UInt64} {j : Nat} (order_eq : order.toNat = alphabetSize ^ j % 2 ^ 64)
    (inBlock : j < fullEncodedBlockSize) : order.toNat = alphabetSize ^ j := by
  have small : alphabetSize ^ j < 2 ^ 64 :=
    calc alphabetSize ^ j ≤ alphabetSize ^ 10 :=
          Nat.pow_le_pow_right (by decide) (by unfold fullEncodedBlockSize at inBlock; omega)
      _ < 2 ^ 64 := by decide
  rw [order_eq, Nat.mod_eq_of_lt small]

theorem order_next {order : UInt64} {j : Nat} (order_eq : order.toNat = alphabetSize ^ j % 2 ^ 64) :
    (order * alphabetSize.toUInt64).toNat = alphabetSize ^ (j + 1) % 2 ^ 64 := by
  rw [UInt64.toNat_mul, order_eq, alphabetSize_toUInt64, Nat.mod_mul_mod, ← pow_succ]

theorem ofDigits_reverse_cons (letter : UInt8) (rest : List UInt8) :
    ofDigits alphabetSize ((letter :: rest).reverse.map digitOf) =
      ofDigits alphabetSize (rest.reverse.map digitOf) * alphabetSize + digitOf letter := by
  rw [List.reverse_cons, List.map_append, List.map_singleton, ofDigits_append_singleton]

theorem foldlM_decodeLetter_sound :
    ∀ (rev : List UInt8) (resNum order resNum' order' : UInt64) (j : Nat),
      order.toNat = alphabetSize ^ j % 2 ^ 64 → j + rev.length ≤ fullEncodedBlockSize →
      rev.foldlM decodeLetter (resNum, order) = some (resNum', order') →
      (∀ letter ∈ rev, 0 ≤ reverseAlphabet letter) ∧
        resNum'.toNat = resNum.toNat +
          alphabetSize ^ j * ofDigits alphabetSize (rev.reverse.map digitOf)
  | [], resNum, order, resNum', order', j, _, _, decoded => by
      simp only [List.foldlM_nil, pure, Option.some.injEq, Prod.mk.injEq] at decoded
      obtain ⟨rfl, rfl⟩ := decoded
      simp
  | letter :: rest, resNum, order, resNum', order', j, order_eq, inBlock, decoded => by
      rw [List.foldlM_cons, Option.bind_eq_bind, Option.bind_eq_some_iff] at decoded
      obtain ⟨⟨middle, middleOrder⟩, first, later⟩ := decoded
      obtain ⟨valid, middle_eq, rfl⟩ := decodeLetter_eq_some first
      rw [List.length_cons] at inBlock
      obtain ⟨laterValid, later_eq⟩ := foldlM_decodeLetter_sound rest middle
        (order * alphabetSize.toUInt64) resNum' order' (j + 1) (order_next order_eq)
        (by omega) later
      refine ⟨?_, ?_⟩
      · intro other member
        rcases List.mem_cons.mp member with rfl | inRest
        · exact valid
        · exact laterValid other inRest
      · rw [later_eq, middle_eq, order_exact order_eq (by omega), ofDigits_reverse_cons,
          pow_succ]
        ring

theorem foldlM_decodeLetter_complete :
    ∀ (rev : List UInt8) (resNum order : UInt64) (j : Nat),
      order.toNat = alphabetSize ^ j % 2 ^ 64 → j + rev.length ≤ fullEncodedBlockSize →
      (∀ letter ∈ rev, 0 ≤ reverseAlphabet letter) →
      resNum.toNat + alphabetSize ^ j * ofDigits alphabetSize (rev.reverse.map digitOf) < 2 ^ 64 →
      ∃ resNum' order', rev.foldlM decodeLetter (resNum, order) = some (resNum', order') ∧
        resNum'.toNat = resNum.toNat +
          alphabetSize ^ j * ofDigits alphabetSize (rev.reverse.map digitOf)
  | [], resNum, order, j, _, _, _, _ => ⟨resNum, order, rfl, by simp⟩
  | letter :: rest, resNum, order, j, order_eq, inBlock, valid, fits => by
      rw [List.length_cons] at inBlock
      rw [ofDigits_reverse_cons] at fits ⊢
      have split : alphabetSize ^ j *
          (ofDigits alphabetSize (rest.reverse.map digitOf) * alphabetSize + digitOf letter) =
          alphabetSize ^ j * digitOf letter +
            alphabetSize ^ (j + 1) * ofDigits alphabetSize (rest.reverse.map digitOf) := by
        rw [pow_succ]
        ring
      rw [split] at fits ⊢
      have firstFits : resNum.toNat + order.toNat * digitOf letter < 2 ^ 64 := by
        rw [order_exact order_eq (by omega)]
        omega
      obtain ⟨middle, first, middle_eq⟩ :=
        decodeLetter_of_fits (valid letter List.mem_cons_self) firstFits
      obtain ⟨resNum', order', later, later_eq⟩ := foldlM_decodeLetter_complete rest middle
        (order * alphabetSize.toUInt64) (j + 1) (order_next order_eq) (by omega)
        (fun other member => valid other (List.mem_cons_of_mem letter member))
        (by rw [middle_eq, order_exact order_eq (by omega)]; omega)
      refine ⟨resNum', order', ?_, ?_⟩
      · rw [List.foldlM_cons, first]
        exact later
      · rw [later_eq, middle_eq, order_exact order_eq (by omega)]
        omega


theorem encodedBlockSizes_le :
    ∀ size ≤ fullBlockSize, encodedBlockSizes.getD size 0 ≤ fullEncodedBlockSize := by
  decide

theorem one_shiftLeft_toNat :
    ∀ size < fullBlockSize, ((1 : UInt64) <<< (8 * size).toUInt64).toNat = 256 ^ size := by
  decide

theorem map_toNat_map_toUInt8 {digits : List Nat} (small : ∀ digit ∈ digits, digit < 256) :
    (digits.map Nat.toUInt8).map UInt8.toNat = digits := by
  rw [List.map_map]
  conv => rhs; rw [← List.map_id digits]
  refine List.map_congr_left fun digit member => ?_
  simp [Nat.mod_eq_of_lt (small digit member)]

theorem map_toUInt8_map_toNat (block : List UInt8) :
    (block.map UInt8.toNat).map Nat.toUInt8 = block := by
  rw [List.map_map]
  conv => rhs; rw [← List.map_id block]
  exact List.map_congr_left fun byte _ => UInt8.toNat_inj.mp (by simp)

theorem decodeBlock_eq_some {block bytes : List UInt8} (decoded : decodeBlock block = some bytes) :
    ∃ size : Nat, decodedBlockSizes block.length = size ∧ 0 < size ∧ size ≤ fullBlockSize ∧
      encodedBlockSizes.getD size 0 = block.length ∧
      (∀ letter ∈ block, 0 ≤ reverseAlphabet letter) ∧
      ofDigits alphabetSize (block.map digitOf) < 256 ^ size ∧
      bytes = (toDigits 256 size (ofDigits alphabetSize (block.map digitOf))).map Nat.toUInt8 := by
  simp only [decodeBlock] at decoded
  by_cases unknown : decodedBlockSizes block.length ≤ 0
  · rw [if_pos unknown] at decoded
    cases decoded
  rw [if_neg unknown, Option.bind_eq_bind, Option.bind_eq_some_iff] at decoded
  obtain ⟨⟨resNum, order⟩, looped, checked⟩ := decoded
  obtain ⟨sizeBound, encoded⟩ := @encodedBlockSizes_decodedBlockSizes block.length (by omega)
  set size := (decodedBlockSizes block.length).toNat with size_eq
  have lengthBound : block.reverse.length ≤ fullEncodedBlockSize := by
    rw [List.length_reverse, ← encoded]
    exact encodedBlockSizes_le size sizeBound
  obtain ⟨valid, value⟩ :=
    foldlM_decodeLetter_sound block.reverse 0 1 resNum order 0 rfl (by omega) looped
  rw [List.reverse_reverse, UInt64.toNat_zero, pow_zero, Nat.one_mul, Nat.zero_add] at value
  dsimp only at checked
  by_cases tooWide : size < fullBlockSize ∧ (1 : UInt64) <<< (8 * size).toUInt64 ≤ resNum
  · rw [if_pos tooWide] at checked
    cases checked
  rw [if_neg tooWide, Option.some.injEq] at checked
  have fitsWidth : resNum.toNat < 256 ^ size := by
    by_cases partialBlock : size < fullBlockSize
    · have narrow := not_and.mp tooWide partialBlock
      rw [UInt64.le_iff_toNat_le, one_shiftLeft_toNat size partialBlock] at narrow
      omega
    · have full : size = 8 := by unfold fullBlockSize at partialBlock sizeBound; omega
      rw [full]
      exact resNum.toNat_lt
  refine ⟨size, by omega, by omega, sizeBound, encoded,
    fun letter member => valid letter (List.mem_reverse.mpr member), value ▸ fitsWidth, ?_⟩
  rw [← checked, uint64To8be, value]


theorem toDigits_bytes_lt (size value : Nat) : ∀ digit ∈ toDigits 256 size value, digit < 256 :=
  toDigits_lt (by decide) size value

theorem bytes_lt (block : List UInt8) : ∀ digit ∈ block.map UInt8.toNat, digit < 256 := by
  simp only [List.mem_map]
  rintro digit ⟨byte, -, rfl⟩
  exact byte.toNat_lt

theorem encodeBlock_of_decodeBlock {block bytes : List UInt8}
    (decoded : decodeBlock block = some bytes) :
    encodeBlock bytes = block ∧ bytes.length = (decodedBlockSizes block.length).toNat := by
  obtain ⟨size, size_eq, positive, sizeBound, encoded, valid, fits, rfl⟩ :=
    decodeBlock_eq_some decoded
  have digitsSmall : ∀ digit ∈ block.map digitOf, digit < alphabetSize := by
    simp only [List.mem_map]
    rintro digit ⟨letter, member, rfl⟩
    exact (letterOf_digitOf (valid letter member)).1
  have length : ((toDigits 256 size (ofDigits alphabetSize (block.map digitOf))).map
      Nat.toUInt8).length = size := by
    simp
  refine ⟨?_, by rw [length, size_eq, Int.toNat_natCast]⟩
  rw [encodeBlock_eq (by omega) (by omega), length,
    map_toNat_map_toUInt8 (toDigits_bytes_lt _ _), ofDigits_toDigits, Nat.mod_eq_of_lt fits,
    encoded, ← List.length_map digitOf, toDigits_ofDigits _ digitsSmall, List.map_map]
  conv => rhs; rw [← List.map_id block]
  exact List.map_congr_left fun letter member => (letterOf_digitOf (valid letter member)).2

theorem decodeBlock_encodeBlock {block : List UInt8} (nonempty : 0 < block.length)
    (short : block.length ≤ fullBlockSize) : decodeBlock (encodeBlock block) = some block := by
  set value := ofDigits 256 (block.map UInt8.toNat) with value_eq
  have fits : value < alphabetSize ^ (encodedBlockSizes.getD block.length 0) :=
    lt_of_lt_of_le (ofDigits_bytes_lt block) (pow_le_encodedBlockSizes _ short)
  have encoded := encodeBlock_eq nonempty short
  rw [← value_eq] at encoded
  have letterLength : (encodeBlock block).length = (encodedBlockSizes.getD block.length 0) := by simp [encoded]
  have valid : ∀ letter ∈ (encodeBlock block).reverse, 0 ≤ reverseAlphabet letter := by
    intro letter member
    rw [List.mem_reverse, encoded, List.mem_map] at member
    obtain ⟨digit, inDigits, rfl⟩ := member
    rw [reverseAlphabet_letterOf digit (toDigits_lt (by decide) _ _ digit inDigits)]
    exact Int.natCast_nonneg digit
  have digits : (encodeBlock block).map digitOf = toDigits alphabetSize (encodedBlockSizes.getD block.length 0) value := by
    rw [encoded, List.map_map]
    conv => rhs; rw [← List.map_id (toDigits alphabetSize (encodedBlockSizes.getD block.length 0) value)]
    exact List.map_congr_left fun digit member =>
      digitOf_letterOf (toDigits_lt (by decide) _ _ digit member)
  have decodedValue : ofDigits alphabetSize ((encodeBlock block).map digitOf) = value := by
    rw [digits, ofDigits_toDigits, Nat.mod_eq_of_lt fits]
  have blockFits : value < 256 ^ block.length := ofDigits_bytes_lt block
  have wordFits : value < 2 ^ 64 :=
    calc value < 256 ^ block.length := blockFits
      _ ≤ 256 ^ fullBlockSize := Nat.pow_le_pow_right (by decide) short
      _ = 2 ^ 64 := by decide
  obtain ⟨resNum, order, looped, resNum_eq⟩ := foldlM_decodeLetter_complete
    (encodeBlock block).reverse 0 1 0 rfl
    (by rw [List.length_reverse, letterLength, Nat.zero_add]; exact encodedBlockSizes_le _ short) valid
    (by rw [List.reverse_reverse, decodedValue]; simpa using wordFits)
  rw [List.reverse_reverse, decodedValue, UInt64.toNat_zero, pow_zero, Nat.one_mul,
    Nat.zero_add] at resNum_eq
  have size_eq : decodedBlockSizes (encodeBlock block).length = block.length := by
    rw [letterLength]
    exact decodedBlockSizes_encodedBlockSizes _ short
  simp only [decodeBlock, size_eq, Int.toNat_natCast]
  rw [if_neg (by omega), Option.bind_eq_bind, looped, Option.bind_some]
  dsimp only
  have narrow : ¬(block.length < fullBlockSize ∧
      (1 : UInt64) <<< (8 * block.length).toUInt64 ≤ resNum) := by
    rintro ⟨partialBlock, wide⟩
    rw [UInt64.le_iff_toNat_le, one_shiftLeft_toNat _ partialBlock] at wide
    omega
  rw [if_neg narrow, uint64To8be, resNum_eq, value_eq, ← List.length_map UInt8.toNat,
    toDigits_ofDigits _ (bytes_lt block), map_toUInt8_map_toNat]


/-! ### Whole strings -/

theorem length_encodeBlock {block : List UInt8} (nonempty : 0 < block.length)
    (short : block.length ≤ fullBlockSize) :
    (encodeBlock block).length = encodedBlockSizes.getD block.length 0 := by
  simp [encodeBlock_eq nonempty short]

theorem length_take_fullBlock {data : List UInt8} {count : Nat}
    (long : fullBlockSize * (count + 1) ≤ data.length) :
    (data.take fullBlockSize).length = fullBlockSize := by
  rw [List.length_take]
  unfold fullBlockSize at long ⊢
  omega

theorem length_encodeFullBlocks :
    ∀ (count : Nat) (data : List UInt8), fullBlockSize * count ≤ data.length →
      (encodeFullBlocks count data).length = fullEncodedBlockSize * count
  | 0, _, _ => rfl
  | count + 1, data, long => by
      have blockLength := length_take_fullBlock long
      have restLong : fullBlockSize * count ≤ (data.drop fullBlockSize).length := by
        rw [List.length_drop]
        unfold fullBlockSize at long ⊢
        omega
      rw [encodeFullBlocks, List.length_append,
        length_encodeBlock (by rw [blockLength]; decide) (by rw [blockLength]),
        length_encodeFullBlocks count _ restLong, blockLength]
      unfold fullEncodedBlockSize
      rw [show encodedBlockSizes.getD fullBlockSize 0 = 11 from rfl]
      ring

theorem decodeFullBlocks_encodeFullBlocks :
    ∀ (count : Nat) (data rest : List UInt8), fullBlockSize * count ≤ data.length →
      decodeFullBlocks count (encodeFullBlocks count data ++ rest) =
        some (data.take (fullBlockSize * count))
  | 0, _, _, _ => rfl
  | count + 1, data, rest, long => by
      have blockLength := length_take_fullBlock long
      have restLong : fullBlockSize * count ≤ (data.drop fullBlockSize).length := by
        rw [List.length_drop]
        unfold fullBlockSize at long ⊢
        omega
      have encodedLength : (encodeBlock (data.take fullBlockSize)).length = fullEncodedBlockSize := by
        rw [length_encodeBlock (by rw [blockLength]; decide) (by rw [blockLength]), blockLength]
        rfl
      rw [encodeFullBlocks, List.append_assoc, decodeFullBlocks, List.take_left' encodedLength,
        List.drop_left' encodedLength,
        decodeBlock_encodeBlock (by rw [blockLength]; decide) (by rw [blockLength]),
        Option.bind_eq_bind, Option.bind_some,
        decodeFullBlocks_encodeFullBlocks count _ rest restLong]
      rw [Nat.mul_succ, Nat.add_comm, List.take_add]
      rfl

theorem encodeFullBlocks_of_decodeFullBlocks :
    ∀ (count : Nat) (enc data : List UInt8), fullEncodedBlockSize * count ≤ enc.length →
      decodeFullBlocks count enc = some data →
      data.length = fullBlockSize * count ∧
        ∀ rest, encodeFullBlocks count (data ++ rest) = enc.take (fullEncodedBlockSize * count)
  | 0, enc, data, _, decoded => by
      cases decoded
      exact ⟨rfl, fun _ => rfl⟩
  | count + 1, enc, data, long, decoded => by
      rw [decodeFullBlocks, Option.bind_eq_bind, Option.bind_eq_some_iff] at decoded
      obtain ⟨block, first, decoded⟩ := decoded
      rw [Option.bind_eq_some_iff] at decoded
      obtain ⟨later, restDecoded, same⟩ := decoded
      cases same
      have takenLength : (enc.take fullEncodedBlockSize).length = fullEncodedBlockSize := by
        rw [List.length_take]
        unfold fullEncodedBlockSize at long ⊢
        omega
      obtain ⟨encodedBlock, blockLength⟩ := encodeBlock_of_decodeBlock first
      rw [takenLength] at blockLength
      have fullBlock : block.length = fullBlockSize := blockLength
      have restLong : fullEncodedBlockSize * count ≤ (enc.drop fullEncodedBlockSize).length := by
        rw [List.length_drop]
        unfold fullEncodedBlockSize at long ⊢
        omega
      obtain ⟨laterLength, laterEncoded⟩ :=
        encodeFullBlocks_of_decodeFullBlocks count _ later restLong restDecoded
      refine ⟨by rw [List.length_append, fullBlock, laterLength, Nat.mul_succ, Nat.add_comm],
        fun rest => ?_⟩
      rw [encodeFullBlocks, List.append_assoc, List.take_left' fullBlock,
        List.drop_left' fullBlock, encodedBlock, laterEncoded, Nat.mul_succ, Nat.add_comm,
        List.take_add]


theorem encodedBlockSizes_lt :
    ∀ size < fullBlockSize, encodedBlockSizes.getD size 0 < fullEncodedBlockSize := by
  decide

theorem encodedBlockSizes_pos_iff :
    ∀ size < fullBlockSize, 0 < encodedBlockSizes.getD size 0 ↔ 0 < size := by
  decide

theorem decode_encode (data : List UInt8) : decode (encode data) = some data := by
  by_cases empty : data = []
  · subst empty
    rfl
  have split := Nat.div_add_mod data.length fullBlockSize
  set count := data.length / fullBlockSize
  set last := data.length % fullBlockSize
  have lastBound : last < fullBlockSize := Nat.mod_lt _ (by decide)
  have fullLong : fullBlockSize * count ≤ data.length := by omega
  have dropLength : (data.drop (count * fullBlockSize)).length = last := by
    rw [List.length_drop]
    rw [Nat.mul_comm]
    omega
  set lastLetters :=
    if 0 < last then encodeBlock (data.drop (count * fullBlockSize)) else [] with lastLetters_eq
  have lastLength : lastLetters.length = encodedBlockSizes.getD last 0 := by
    by_cases partialBlock : 0 < last
    · rw [lastLetters_eq, if_pos partialBlock, length_encodeBlock (by omega) (by omega),
        dropLength]
    · rw [lastLetters_eq, if_neg partialBlock, show last = 0 by omega]
      rfl
  have encoded : encode data = encodeFullBlocks count data ++ lastLetters := by
    unfold encode
    rw [if_neg (by simpa using empty)]
  have fullLength := length_encodeFullBlocks count data fullLong
  have lastLettersBound := encodedBlockSizes_lt last lastBound
  have positive := encodedBlockSizes_pos_iff last lastBound
  have encLength : (encode data).length =
      count * fullEncodedBlockSize + encodedBlockSizes.getD last 0 := by
    rw [encoded, List.length_append, fullLength, lastLength, Nat.mul_comm]
  have countEq : (encode data).length / fullEncodedBlockSize = count := by
    rw [encLength, Nat.mul_comm, Nat.mul_add_div (by decide), Nat.div_eq_of_lt lastLettersBound,
      Nat.add_zero]
  have lastEq : (encode data).length % fullEncodedBlockSize = encodedBlockSizes.getD last 0 := by
    rw [encLength, Nat.mul_comm, Nat.mul_add_mod, Nat.mod_eq_of_lt lastLettersBound]
  have nonemptyEnc : ¬(encode data).isEmpty = true := by
    rw [List.isEmpty_iff, ← List.length_eq_zero_iff, encLength]
    have dataPositive : 0 < data.length := List.length_pos_iff.mpr empty
    by_cases noFull : count = 0
    · rw [noFull, Nat.mul_zero, Nat.zero_add] at split
      have lastLettersPositive := positive.mpr (by omega)
      omega
    · have fullPositive : 0 < count * fullEncodedBlockSize :=
        Nat.mul_pos (Nat.pos_of_ne_zero noFull) (by decide)
      omega
  unfold decode
  rw [if_neg nonemptyEnc]
  simp only [countEq, lastEq]
  rw [decodedBlockSizes_encodedBlockSizes last (by omega), if_neg (by omega), encoded,
    decodeFullBlocks_encodeFullBlocks count data lastLetters fullLong, Option.bind_eq_bind,
    Option.bind_some, List.drop_left' (by rw [fullLength, Nat.mul_comm])]
  by_cases partialBlock : 0 < last
  · rw [if_pos (positive.mpr partialBlock), lastLetters_eq, if_pos partialBlock,
      decodeBlock_encodeBlock (by omega) (by omega), Option.bind_some, Nat.mul_comm,
      List.take_append_drop]
    rfl
  · have noLast : data.drop (fullBlockSize * count) = [] := by
      rw [List.drop_eq_nil_iff]
      omega
    rw [if_neg (by omega), Option.bind_some]
    conv => rhs; rw [← List.take_append_drop (fullBlockSize * count) data, noLast]
    rfl


theorem encode_of_decode {enc data : List UInt8} (decoded : decode enc = some data) :
    encode data = enc := by
  by_cases empty : enc = []
  · subst empty
    cases decoded
    rfl
  unfold decode at decoded
  rw [if_neg (by simpa using empty)] at decoded
  have split := Nat.div_add_mod enc.length fullEncodedBlockSize
  set count := enc.length / fullEncodedBlockSize
  set last := enc.length % fullEncodedBlockSize
  have lastBound : last < fullEncodedBlockSize := Nat.mod_lt _ (by decide)
  by_cases unknown : decodedBlockSizes last < 0
  · rw [if_pos unknown] at decoded
    cases decoded
  rw [if_neg unknown, Option.bind_eq_bind, Option.bind_eq_some_iff] at decoded
  obtain ⟨full, fullDecoded, decoded⟩ := decoded
  obtain ⟨lastBytes, lastDecoded, rfl⟩ : ∃ lastBytes,
      (if 0 < last then decodeBlock (enc.drop (count * fullEncodedBlockSize)) else some []) =
        some lastBytes ∧ data = full ++ lastBytes := by
    by_cases partialBlock : 0 < last
    · simp only [if_pos partialBlock] at decoded ⊢
      rw [Option.bind_eq_some_iff] at decoded
      obtain ⟨lastBytes, lastDecoded, same⟩ := decoded
      simp only [pure, Option.some.injEq] at same
      exact ⟨lastBytes, lastDecoded, same.symm⟩
    · simp only [if_neg partialBlock, Option.bind_some, pure, Option.some.injEq] at decoded ⊢
      exact ⟨[], rfl, decoded.symm⟩
  obtain ⟨fullLength, fullEncoded⟩ :=
    encodeFullBlocks_of_decodeFullBlocks count enc full (by omega) fullDecoded
  obtain ⟨sizeBound, encodedSize⟩ := encodedBlockSizes_decodedBlockSizes (not_lt.mp unknown)
  set lastSize := (decodedBlockSizes last).toNat
  have lastSizeBound : lastSize < fullBlockSize := by
    by_contra fullSize
    have eight : lastSize = fullBlockSize := by omega
    rw [eight, show encodedBlockSizes.getD fullBlockSize 0 = fullEncodedBlockSize from rfl]
      at encodedSize
    omega
  have dropLength : (enc.drop (count * fullEncodedBlockSize)).length = last := by
    rw [List.length_drop, Nat.mul_comm]
    omega
  obtain ⟨lastLength, lastEncoded⟩ : lastBytes.length = lastSize ∧
      (0 < lastSize → encodeBlock lastBytes = enc.drop (count * fullEncodedBlockSize)) := by
    by_cases partialBlock : 0 < last
    · rw [if_pos partialBlock] at lastDecoded
      obtain ⟨encodedLast, lastLength⟩ := encodeBlock_of_decodeBlock lastDecoded
      rw [dropLength] at lastLength
      exact ⟨lastLength, fun _ => encodedLast⟩
    · rw [if_neg partialBlock, Option.some.injEq] at lastDecoded
      subst lastDecoded
      have noLast : last = 0 := by omega
      have zeroSize : lastSize = 0 := by
        rw [noLast] at encodedSize
        by_contra nonzero
        exact absurd encodedSize (by
          have := encodedBlockSizes_pos_iff lastSize lastSizeBound
          omega)
      exact ⟨by rw [zeroSize]; rfl, fun positive => absurd zeroSize (by omega)⟩
  have dataLength : (full ++ lastBytes).length = fullBlockSize * count + lastSize := by
    rw [List.length_append, fullLength, lastLength]
  have countEq : (full ++ lastBytes).length / fullBlockSize = count := by
    rw [dataLength, Nat.mul_add_div (by decide), Nat.div_eq_of_lt lastSizeBound, Nat.add_zero]
  have lastEq : (full ++ lastBytes).length % fullBlockSize = lastSize := by
    rw [dataLength, Nat.mul_add_mod, Nat.mod_eq_of_lt lastSizeBound]
  have nonemptyData : ¬(full ++ lastBytes).isEmpty = true := by
    rw [List.isEmpty_iff, ← List.length_eq_zero_iff, dataLength]
    have encPositive : 0 < enc.length := List.length_pos_iff.mpr empty
    by_cases noFull : count = 0
    · rw [noFull, Nat.mul_zero, Nat.zero_add] at split
      have := (encodedBlockSizes_pos_iff lastSize lastSizeBound).mp (by omega)
      omega
    · have fullPositive : 0 < fullBlockSize * count :=
        Nat.mul_pos (by decide) (Nat.pos_of_ne_zero noFull)
      omega
  unfold encode
  rw [if_neg nonemptyData]
  simp only [countEq, lastEq]
  rw [fullEncoded, List.drop_left' (by rw [fullLength, Nat.mul_comm])]
  by_cases partialBlock : 0 < lastSize
  · rw [if_pos partialBlock, lastEncoded partialBlock, Nat.mul_comm, List.take_append_drop]
  · have noLast : enc.drop (fullEncodedBlockSize * count) = [] := by
      rw [List.drop_eq_nil_iff]
      have := (encodedBlockSizes_pos_iff lastSize lastSizeBound).not.mpr partialBlock
      omega
    rw [if_neg partialBlock, List.append_nil]
    conv => rhs; rw [← List.take_append_drop (fullEncodedBlockSize * count) enc, noLast]
    rw [List.append_nil]


/-- Base58 is a bijection between byte strings and the strings that decode:
every encoding decodes to its bytes, and every string that decodes is the
encoding of what it decodes to. -/
theorem decode_encode_bijection :
    (∀ data, decode (encode data) = some data) ∧
      ∀ enc data, decode enc = some data → encode data = enc :=
  ⟨decode_encode, fun _ _ decoded => encode_of_decode decoded⟩

theorem zero_byte_round_trip : decode [0x31, 0x31] = some [0] ∧ encode [0] = [0x31, 0x31] := by
  have decoded : decode [0x31, 0x31] = some [0] := by decide
  exact ⟨decoded, decode_encode_bijection.2 _ _ decoded⟩

end Antd.Common.Base58
