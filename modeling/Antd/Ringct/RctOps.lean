import Antd.Ringct.RctTypes
import Antd.Lib.LittleEndian

/-! The amount conversions of `rctTypes.cpp` (`d2h`, `d2b`, `h2d`, `h2b`,
`b2h`, `b2d`) and the amount encryption of `rctOps.cpp` (`ecdhEncode`,
`ecdhDecode`). A `bits` array is 64 `unsigned int`s, the bits of an amount
least significant first; a key holds an amount in its first eight bytes,
little-endian. Every conversion writes all of its output, so its result does
not depend on what the output held before. `cn_fast_hash`, `hash_to_scalar`,
`sc_add` and `sc_sub` are parameters.

The four conversions agree on every 64-bit amount, and in its compact form
(`v2`) decoding an encoded tuple gives back its amount and sets its mask to the
commitment mask of the shared secret. -/

namespace Antd.Ringct

open Antd.Crypto

/-- `rct::bits`: `ATOMS = 64` unsigned ints. -/
@[ext]
structure Bits where
  data : List UInt32
  length_eq : data.length = 64

/-- The `while (val != 0)` loop of `d2h`, `d2b` and `h2b`: the digits of `val`
in base `base`, least significant first, stored from index `i` on, with the
index after the last. The source takes a digit as `val & 0xFF` or `val & 1` and
shifts by dividing, which on an unsigned value is `% base` and `/ base`. -/
def storeDigits {α : Type} (base : Nat) (wide : 1 < base) (digit : Nat → α) (out : List α)
    (i val : Nat) : List α × Nat :=
  match val with
  | 0 => (out, i)
  | val + 1 =>
    storeDigits base wide digit (out.set i (digit ((val + 1) % base))) (i + 1) ((val + 1) / base)
termination_by val
decreasing_by exact Nat.div_lt_self (Nat.succ_pos val) wide

def fillZeros {α : Type} (zero : α) (out : List α) (i limit : Nat) : List α :=
  if i < limit then fillZeros zero (out.set i zero) (i + 1) limit else out
termination_by limit - i

theorem length_storeDigits {α : Type} (base : Nat) (wide : 1 < base) (digit : Nat → α)
    (out : List α) (i val : Nat) : (storeDigits base wide digit out i val).1.length = out.length := by
  induction val using Nat.strong_induction_on generalizing out i with
  | _ val ih =>
    cases val with
    | zero => rw [storeDigits]
    | succ val => rw [storeDigits, ih _ (Nat.div_lt_self (Nat.succ_pos val) wide), List.length_set]

theorem length_fillZeros {α : Type} (zero : α) (out : List α) (i limit : Nat) :
    (fillZeros zero out i limit).length = out.length := by
  induction out, i using fillZeros.induct zero limit with
  | case1 out i below ih => rw [fillZeros, if_pos below, ih, List.length_set]
  | case2 out i past => rw [fillZeros, if_neg past]

def d2h (amount : UInt64) : Key :=
  ⟨(storeDigits 256 (by decide) UInt8.ofNat (List.replicate 32 0) 0 amount.toNat).1, by
    rw [length_storeDigits, List.length_replicate]⟩

def d2b (amountb : Bits) (val : UInt64) : Bits :=
  let stored := storeDigits 2 (by decide) UInt32.ofNat amountb.data 0 val.toNat
  ⟨fillZeros 0 stored.1 stored.2 64, by rw [length_fillZeros, length_storeDigits, amountb.length_eq]⟩

def h2d (test : Key) : UInt64 :=
  (test.data.take 8).foldr (fun byte vali => vali * 256 + byte.toUInt64) 0

def h2bLoop (test : Key) : Nat → Nat → List UInt32 → List UInt32
  | 0, _, out => out
  | count + 1, j, out =>
    let stored := storeDigits 2 (by decide) UInt32.ofNat out (8 * j) (test.data.getD j 0).toNat
    h2bLoop test count (j + 1) (fillZeros 0 stored.1 stored.2 (8 * (j + 1)))

theorem length_h2bLoop (test : Key) (count j : Nat) (out : List UInt32) :
    (h2bLoop test count j out).length = out.length := by
  induction count generalizing j out with
  | zero => rfl
  | succ count ih => rw [h2bLoop, ih, length_fillZeros, length_storeDigits]

def h2b (amountb2 : Bits) (test : Key) : Bits :=
  ⟨h2bLoop test 8 0 amountb2.data, by rw [length_h2bLoop, amountb2.length_eq]⟩

theorem length_foldl_set {α : Type} (value : Nat → α) (indices : List Nat) (out : List α) :
    (indices.foldl (fun out j => out.set j (value j)) out).length = out.length := by
  induction indices generalizing out with
  | nil => rfl
  | cons j indices ih => rw [List.foldl_cons, ih, List.length_set]

def packByte (amountb2 : Bits) (j : Nat) : UInt8 :=
  UInt8.ofNat ((List.range 8).reverse.foldl
    (fun byte i => byte * 2 + (amountb2.data.getD (8 * j + i) 0).toNat) 0)

/-- `b2h`: the key of 64 bits, written over `amountdh`: eight packed bytes, then zeros. -/
def b2h (amountdh : Key) (amountb2 : Bits) : Key :=
  let packed := (List.range 8).foldl (fun out j => out.set j (packByte amountb2 j)) amountdh.data
  ⟨(List.range' 8 24).foldl (fun out j => out.set j 0) packed, by
    rw [length_foldl_set (fun _ => 0), length_foldl_set, amountdh.length_eq]⟩

def b2d (amountb : Bits) : UInt64 :=
  amountb.data.foldr (fun bit vali => vali * 2 + bit.toUInt64) 0

section Ecdh

variable (cnFastHash hashToScalar : List UInt8 → Key) (scAdd scSub : Key → Key → Key)

def ecdhHash (k : Key) : Key := cnFastHash ("amount".toUTF8.data.toList ++ k.data)

def xor8 (v k : Key) : Key :=
  ⟨List.zipWith (· ^^^ ·) (v.data.take 8) (k.data.take 8) ++ v.data.drop 8, by
    simp [v.length_eq, k.length_eq]⟩

def genCommitmentMask (sk : Key) : Key :=
  hashToScalar ("commitment_mask".toUTF8.data.toList ++ sk.data)

/-- `ecdhEncode`: the compact form zeroes the mask and xors the amount with the
hash of the shared secret; the other adds two scalars derived from it. -/
def ecdhEncode (unmasked : EcdhTuple) (sharedSec : Key) (v2 : Bool) : EcdhTuple :=
  if v2 then ⟨Pod.zero 32, xor8 unmasked.amount (ecdhHash cnFastHash sharedSec)⟩
  else
    let sharedSec1 := hashToScalar sharedSec.data
    let sharedSec2 := hashToScalar sharedSec1.data
    ⟨scAdd unmasked.mask sharedSec1, scAdd unmasked.amount sharedSec2⟩

/-- `ecdhDecode`: the compact form sets the mask to the commitment mask and xors
the amount again; the other subtracts the two scalars. -/
def ecdhDecode (masked : EcdhTuple) (sharedSec : Key) (v2 : Bool) : EcdhTuple :=
  if v2 then ⟨genCommitmentMask hashToScalar sharedSec, xor8 masked.amount (ecdhHash cnFastHash sharedSec)⟩
  else
    let sharedSec1 := hashToScalar sharedSec.data
    let sharedSec2 := hashToScalar sharedSec1.data
    ⟨scSub masked.mask sharedSec1, scSub masked.amount sharedSec2⟩

end Ecdh

/-! ### The loops -/

theorem storeDigits_append {α : Type} (base : Nat) (wide : 1 < base) (digit : Nat → α)
    (pre rest : List α) (val : Nat) (room : (Nat.digits base val).length ≤ rest.length) :
    storeDigits base wide digit (pre ++ rest) pre.length val =
      (pre ++ (Nat.digits base val).map digit ++ rest.drop (Nat.digits base val).length,
        pre.length + (Nat.digits base val).length) := by
  induction val using Nat.strong_induction_on generalizing pre rest with
  | _ val ih =>
    cases val with
    | zero => simp [storeDigits]
    | succ val =>
      have split := Nat.digits_def' wide (Nat.succ_pos val)
      rw [split, List.length_cons] at room
      obtain ⟨next, rest, rfl⟩ := List.exists_cons_of_length_pos (by omega : 0 < rest.length)
      have quotient := Nat.div_lt_self (Nat.succ_pos val) wide
      rw [storeDigits, List.set_append_right _ _ le_rfl, Nat.sub_self, List.set_cons_zero,
        ← List.singleton_append, ← List.append_assoc,
        show pre.length + 1 = (pre ++ [digit ((val + 1) % base)]).length by simp,
        ih _ quotient _ _ (by simpa using room), split]
      simp [Nat.add_assoc, Nat.add_comm 1]

theorem fillZeros_append {α : Type} (zero : α) (pre rest : List α) (count : Nat)
    (room : count ≤ rest.length) :
    fillZeros zero (pre ++ rest) pre.length (pre.length + count) =
      pre ++ List.replicate count zero ++ rest.drop count := by
  induction count generalizing pre rest with
  | zero => rw [fillZeros, if_neg (by omega)]; simp
  | succ count ih =>
    obtain ⟨next, rest, rfl⟩ := List.exists_cons_of_length_pos (by omega : 0 < rest.length)
    rw [fillZeros, if_pos (by omega), List.set_append_right _ _ le_rfl, Nat.sub_self,
      List.set_cons_zero, ← List.singleton_append, ← List.append_assoc,
      show pre.length + 1 = (pre ++ [zero]).length by simp,
      show pre.length + (count + 1) = (pre ++ [zero]).length + count by simp; omega,
      ih _ _ (by simpa using room)]
    simp [List.replicate_succ]

theorem map_digits_append_replicate {α : Type} {base count value : Nat} (wide : 1 < base)
    (digit : Nat → α) (fits : value < base ^ count) :
    (Nat.digits base value).map digit ++
        List.replicate (count - (Nat.digits base value).length) (digit 0) =
      (LittleEndian.digitsOf base count value).map digit := by
  rw [← LittleEndian.digits_append_replicate wide fits, List.map_append, List.map_replicate]

theorem data_d2h (amount : UInt64) :
    (d2h amount).data = (LittleEndian.digitsOf 256 32 amount.toNat).map UInt8.ofNat := by
  have fits : amount.toNat < 256 ^ 32 := lt_trans amount.toNat_lt (by decide)
  have short := (Nat.digits_length_le_iff (by decide : 1 < 256) amount.toNat).mpr fits
  have stored := storeDigits_append 256 (by decide) UInt8.ofNat [] (List.replicate 32 0) amount.toNat
    (by simpa using short)
  simp only [List.nil_append, List.length_nil] at stored
  show (storeDigits 256 _ UInt8.ofNat (List.replicate 32 0) 0 amount.toNat).1 = _
  rw [stored, List.drop_replicate, ← map_digits_append_replicate (by decide) UInt8.ofNat fits]
  rfl

theorem fillZeros_storeDigits {α : Type} (base : Nat) (wide : 1 < base) (digit : Nat → α)
    (pre rest : List α) (width value : Nat) (fits : value < base ^ width)
    (room : width ≤ rest.length) :
    fillZeros (digit 0) (storeDigits base wide digit (pre ++ rest) pre.length value).1
        (storeDigits base wide digit (pre ++ rest) pre.length value).2 (pre.length + width) =
      pre ++ (LittleEndian.digitsOf base width value).map digit ++ rest.drop width := by
  have short := (Nat.digits_length_le_iff wide value).mpr fits
  have filled := fillZeros_append (digit 0) (pre ++ (Nat.digits base value).map digit)
    (rest.drop (Nat.digits base value).length) (width - (Nat.digits base value).length)
    (by simp only [List.length_drop]; omega)
  simp only [List.length_append, List.length_map] at filled
  rw [storeDigits_append base wide digit pre rest value (by omega),
    show pre.length + width =
      pre.length + (Nat.digits base value).length + (width - (Nat.digits base value).length) by omega,
    filled, List.drop_drop, Nat.add_sub_cancel' short, List.append_assoc pre,
    map_digits_append_replicate wide digit fits]

theorem data_d2b (amountb : Bits) (val : UInt64) :
    (d2b amountb val).data = (LittleEndian.digitsOf 2 64 val.toNat).map UInt32.ofNat := by
  have written := fillZeros_storeDigits 2 (by decide) UInt32.ofNat [] amountb.data 64 val.toNat
    val.toNat_lt (by rw [amountb.length_eq])
  rw [List.drop_eq_nil_of_le (by rw [amountb.length_eq]), List.append_nil] at written
  exact written

theorem h2bLoop_append (test : Key) (count j : Nat) (pre rest : List UInt32)
    (placed : pre.length = 8 * j) (room : 8 * count ≤ rest.length) :
    h2bLoop test count j (pre ++ rest) =
      pre ++ ((List.range' j count).flatMap fun k =>
        (LittleEndian.digitsOf 2 8 (test.data.getD k 0).toNat).map UInt32.ofNat) ++
        rest.drop (8 * count) := by
  induction count generalizing j pre rest with
  | zero => simp [h2bLoop]
  | succ count ih =>
    have written := fillZeros_storeDigits 2 (by decide) UInt32.ofNat pre rest 8
      (test.data.getD j 0).toNat (UInt8.toNat_lt _) (by omega)
    rw [show UInt32.ofNat 0 = 0 from rfl] at written
    have next := ih (j + 1) (pre ++ (LittleEndian.digitsOf 2 8 (test.data.getD j 0).toNat).map UInt32.ofNat)
      (rest.drop 8) (by simp [placed]; omega) (by simp only [List.length_drop]; omega)
    rw [h2bLoop, ← placed, show 8 * (j + 1) = pre.length + 8 by omega]
    rw [written, next, List.drop_drop, List.range'_succ, List.flatMap_cons]
    simp only [List.append_assoc, Nat.mul_succ, Nat.add_comm 8]

theorem getD_data_d2h (amount : UInt64) {k : Nat} (below : k < 32) :
    ((d2h amount).data.getD k 0).toNat = amount.toNat / 256 ^ k % 256 := by
  rw [data_d2h, List.getD_eq_getElem _ _ (by simpa using below), List.getElem_map,
    LittleEndian.getElem_digitsOf below, UInt8.toNat_ofNat']
  exact Nat.mod_mod _ _

theorem data_h2b (amountb2 : Bits) (amount : UInt64) :
    (h2b amountb2 (d2h amount)).data = (LittleEndian.digitsOf 2 64 amount.toNat).map UInt32.ofNat := by
  have loop := h2bLoop_append (d2h amount) 8 0 [] amountb2.data rfl (by rw [amountb2.length_eq])
  rw [List.drop_eq_nil_of_le (by rw [amountb2.length_eq]), List.append_nil, List.nil_append] at loop
  show h2bLoop (d2h amount) 8 0 amountb2.data = _
  rw [loop, show 64 = 8 * 8 from rfl, LittleEndian.digitsOf_mul, List.map_flatMap,
    List.range_eq_range']
  refine List.flatMap_congr fun k member => ?_
  rw [getD_data_d2h amount (by simp at member; omega)]
  rfl

theorem toNat_foldr_mulAdd (base : UInt64) (positive : 0 < base.toNat) (digits : List UInt64)
    (fits : Nat.ofDigits base.toNat (digits.map UInt64.toNat) < 2 ^ 64) :
    (digits.foldr (fun digit vali => vali * base + digit) 0).toNat =
      Nat.ofDigits base.toNat (digits.map UInt64.toNat) := by
  induction digits with
  | nil => rfl
  | cons digit digits ih =>
    rw [List.map_cons, Nat.ofDigits_cons] at fits ⊢
    have high : Nat.ofDigits base.toNat (digits.map UInt64.toNat) ≤
        base.toNat * Nat.ofDigits base.toNat (digits.map UInt64.toNat) :=
      Nat.le_mul_of_pos_left _ positive
    rw [List.foldr_cons, UInt64.toNat_add, UInt64.toNat_mul, ih (by omega)]
    generalize Nat.ofDigits base.toNat (digits.map UInt64.toNat) = rest at fits high ⊢
    rw [Nat.mul_comm rest, Nat.mod_eq_of_lt (by omega : base.toNat * rest < 2 ^ 64),
      Nat.mod_eq_of_lt (by omega)]
    omega

theorem map_digitsOf_of_lt {base : Nat} (positive : 0 < base) (f : Nat → Nat)
    (keeps : ∀ digit < base, f digit = digit) (count value : Nat) :
    (LittleEndian.digitsOf base count value).map f = LittleEndian.digitsOf base count value := by
  simp only [LittleEndian.digitsOf, List.map_map]
  exact List.map_congr_left fun index _ => keeps _ (Nat.mod_lt _ positive)

theorem h2d_d2h (amount : UInt64) : h2d (d2h amount) = amount := by
  have low : (d2h amount).data.take 8 = (LittleEndian.digitsOf 256 8 amount.toNat).map UInt8.ofNat := by
    rw [data_d2h, ← List.map_take, show 32 = 8 + 24 from rfl, LittleEndian.digitsOf_add,
      List.take_left' (by simp)]
  have folded : h2d (d2h amount) =
      (((d2h amount).data.take 8).map UInt8.toUInt64).foldr (fun digit vali => vali * 256 + digit) 0 := by
    rw [h2d, List.foldr_map]
  have digits : ((((d2h amount).data.take 8).map UInt8.toUInt64).map UInt64.toNat) =
      LittleEndian.digitsOf 256 8 amount.toNat := by
    rw [low, List.map_map, List.map_map]
    exact map_digitsOf_of_lt (by decide) _
      (fun digit below => by simp [UInt8.toNat_ofNat']; omega) 8 amount.toNat
  have value : Nat.ofDigits 256 (LittleEndian.digitsOf 256 8 amount.toNat) = amount.toNat := by
    rw [LittleEndian.ofDigits_digitsOf]
    exact Nat.mod_eq_of_lt amount.toNat_lt
  have base : (256 : UInt64).toNat = 256 := rfl
  apply UInt64.toNat_inj.mp
  rw [folded, toNat_foldr_mulAdd 256 (by decide) _ (by rw [digits, base, value]; exact amount.toNat_lt),
    digits, base, value]

theorem b2d_d2b (amountb : Bits) (val : UInt64) : b2d (d2b amountb val) = val := by
  have folded : b2d (d2b amountb val) =
      ((d2b amountb val).data.map UInt32.toUInt64).foldr (fun digit vali => vali * 2 + digit) 0 := by
    rw [b2d, List.foldr_map]
  have digits : ((d2b amountb val).data.map UInt32.toUInt64).map UInt64.toNat =
      LittleEndian.digitsOf 2 64 val.toNat := by
    rw [data_d2b, List.map_map, List.map_map]
    exact map_digitsOf_of_lt (by decide) _
      (fun digit below => by simp [UInt32.toNat_ofNat']; omega) 64 val.toNat
  have value : Nat.ofDigits 2 (LittleEndian.digitsOf 2 64 val.toNat) = val.toNat := by
    rw [LittleEndian.ofDigits_digitsOf]
    exact Nat.mod_eq_of_lt val.toNat_lt
  have base : (2 : UInt64).toNat = 2 := rfl
  apply UInt64.toNat_inj.mp
  rw [folded, toNat_foldr_mulAdd 2 (by decide) _ (by rw [digits, base, value]; exact val.toNat_lt),
    digits, base, value]

theorem packByte_eq_ofDigits (amountb2 : Bits) (j : Nat) :
    packByte amountb2 j = UInt8.ofNat (Nat.ofDigits 2
      ((List.range 8).map fun i => (amountb2.data.getD (8 * j + i) 0).toNat)) := by
  rw [packByte, List.foldl_reverse, Nat.ofDigits_eq_foldr, List.foldr_map]
  congr 2
  funext i byte
  simp only [Nat.cast_id]
  omega

theorem packByte_d2b (amountb : Bits) (val : UInt64) {j : Nat} (below : j < 8) :
    packByte (d2b amountb val) j = UInt8.ofNat (val.toNat / 256 ^ j % 256) := by
  have bits : ((List.range 8).map fun i => ((d2b amountb val).data.getD (8 * j + i) 0).toNat) =
      LittleEndian.digitsOf 2 8 (val.toNat / 256 ^ j) := by
    refine List.map_congr_left fun i member => ?_
    have place : 8 * j + i < 64 := by simp at member; omega
    rw [data_d2b, List.getD_eq_getElem _ _ (by simpa using place), List.getElem_map,
      LittleEndian.getElem_digitsOf place, UInt32.toNat_ofNat',
      Nat.mod_eq_of_lt (lt_of_lt_of_le (Nat.mod_lt _ (by norm_num)) (by norm_num : 2 ≤ 2 ^ 32)),
      pow_add, pow_mul, ← Nat.div_div_eq_div_mul]
    norm_num
  rw [packByte_eq_ofDigits, bits, LittleEndian.ofDigits_digitsOf]
  norm_num

theorem foldl_set_append {α : Type} (value : Nat → α) (pre rest : List α) (count : Nat)
    (room : count ≤ rest.length) :
    (List.range' pre.length count).foldl (fun out j => out.set j (value j)) (pre ++ rest) =
      pre ++ (List.range' pre.length count).map value ++ rest.drop count := by
  induction count generalizing pre rest with
  | zero => simp
  | succ count ih =>
    obtain ⟨next, rest, rfl⟩ := List.exists_cons_of_length_pos (by omega : 0 < rest.length)
    have step := ih (pre ++ [value pre.length]) rest (by simpa using room)
    rw [List.length_append, List.length_singleton] at step
    rw [List.range'_succ, List.foldl_cons, List.set_append_right _ _ le_rfl, Nat.sub_self,
      List.set_cons_zero, ← List.singleton_append, ← List.append_assoc, step]
    simp

theorem digitsOf_amount (val : UInt64) :
    LittleEndian.digitsOf 256 32 val.toNat =
      LittleEndian.digitsOf 256 8 val.toNat ++ List.replicate 24 0 := by
  have high : val.toNat / 256 ^ 8 = 0 := Nat.div_eq_of_lt val.toNat_lt
  rw [show 32 = 8 + 24 from rfl, LittleEndian.digitsOf_add, high]
  simp [LittleEndian.digitsOf]

theorem data_b2h (amountdh : Key) (amountb : Bits) (val : UInt64) :
    (b2h amountdh (d2b amountb val)).data = (LittleEndian.digitsOf 256 32 val.toNat).map UInt8.ofNat := by
  have packed := foldl_set_append (packByte (d2b amountb val)) [] amountdh.data 8
    (by rw [amountdh.length_eq]; omega)
  simp only [List.nil_append, List.length_nil] at packed
  have zeroed := foldl_set_append (fun _ => (0 : UInt8))
    ((List.range' 0 8).map (packByte (d2b amountb val))) (amountdh.data.drop 8) 24
    (by simp [amountdh.length_eq])
  simp only [List.length_map, List.length_range'] at zeroed
  have bytes : (List.range' 0 8).map (packByte (d2b amountb val)) =
      (LittleEndian.digitsOf 256 8 val.toNat).map UInt8.ofNat := by
    simp only [LittleEndian.digitsOf, List.map_map, ← List.range_eq_range']
    exact List.map_congr_left fun j member => packByte_d2b amountb val (by simpa using member)
  have zeros : (List.range' 8 24).map (fun _ => (0 : UInt8)) = (List.replicate 24 0).map UInt8.ofNat := by
    simp
  simp only [b2h]
  rw [List.range_eq_range', packed, zeroed, List.drop_drop,
    List.drop_eq_nil_of_le (by simp [amountdh.length_eq]), List.append_nil, digitsOf_amount,
    List.map_append, bytes, zeros]

theorem pod_eq_of_data {size : Nat} {a b : Pod size} (same : a.data = b.data) : a = b := by
  cases a
  cases b
  cases same
  rfl

theorem zipWith_xor_xor (values keys : List UInt8) (short : values.length ≤ keys.length) :
    List.zipWith (· ^^^ ·) (List.zipWith (· ^^^ ·) values keys) keys = values := by
  induction values generalizing keys with
  | nil => rfl
  | cons value values ih =>
    cases keys with
    | nil => simp at short
    | cons key keys =>
      rw [List.zipWith_cons_cons, List.zipWith_cons_cons, UInt8.xor_assoc, UInt8.xor_self,
        UInt8.xor_zero, ih keys (by simpa using short)]

theorem xor8_xor8 (v k : Key) : xor8 (xor8 v k) k = v := by
  have eight : (List.zipWith (· ^^^ ·) (v.data.take 8) (k.data.take 8)).length = 8 := by
    simp [v.length_eq, k.length_eq]
  apply pod_eq_of_data
  simp only [xor8]
  rw [List.take_left' eight, List.drop_left' eight,
    zipWith_xor_xor _ _ (by simp [v.length_eq, k.length_eq]), List.take_append_drop]

theorem ecdhDecode_ecdhEncode (cnFastHash hashToScalar : List UInt8 → Key) (scAdd scSub : Key → Key → Key)
    (unmasked : EcdhTuple) (sharedSec : Key) :
    ecdhDecode cnFastHash hashToScalar scSub
        (ecdhEncode cnFastHash hashToScalar scAdd unmasked sharedSec true) sharedSec true =
      ⟨genCommitmentMask hashToScalar sharedSec, unmasked.amount⟩ := by
  rw [ecdhEncode, ecdhDecode, if_pos rfl, if_pos rfl, xor8_xor8]

theorem amount_encodings_agree (cnFastHash hashToScalar : List UInt8 → Key)
    (scAdd scSub : Key → Key → Key) (amount : UInt64) (amountb amountb2 : Bits) (amountdh : Key)
    (unmasked : EcdhTuple) (sharedSec : Key) :
    h2d (d2h amount) = amount ∧ b2d (d2b amountb amount) = amount ∧
      h2b amountb2 (d2h amount) = d2b amountb amount ∧
      b2h amountdh (d2b amountb amount) = d2h amount ∧
      ecdhDecode cnFastHash hashToScalar scSub
          (ecdhEncode cnFastHash hashToScalar scAdd unmasked sharedSec true) sharedSec true =
        ⟨genCommitmentMask hashToScalar sharedSec, unmasked.amount⟩ := by
  refine ⟨h2d_d2h amount, b2d_d2b amountb amount, ?_, ?_,
    ecdhDecode_ecdhEncode cnFastHash hashToScalar scAdd scSub unmasked sharedSec⟩
  · apply Bits.ext
    rw [data_h2b, data_d2b]
  · apply pod_eq_of_data
    rw [data_b2h, data_d2h]

end Antd.Ringct
