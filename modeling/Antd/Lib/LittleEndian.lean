import Mathlib

/-! Little-endian digit strings regrouped into wider words. A string of
`width * count` digits in base `radix` and the `count` words of `width` digits
each, read in base `radix ^ width`, denote the same number (`Nat.ofDigits`). -/

namespace LittleEndian

/-- The `count` low bytes of `value`, least significant first: how a
little-endian host lays out an unsigned integer in memory. -/
def toBytes (count value : Nat) : List UInt8 :=
  (List.range count).map fun index => UInt8.ofNat (value / 256 ^ index)

def ofBytes : List UInt8 → Nat
  | [] => 0
  | low :: high => low.toNat + 256 * ofBytes high

@[simp] theorem length_toBytes (count value : Nat) : (toBytes count value).length = count := by
  simp [toBytes]

theorem toBytes_succ (count value : Nat) :
    toBytes (count + 1) value = UInt8.ofNat value :: toBytes count (value / 256) := by
  simp only [toBytes, List.range_succ_eq_map, List.map_cons, List.map_map, pow_zero,
    Nat.div_one, List.cons.injEq, true_and]
  refine List.map_congr_left fun index _ => ?_
  rw [Function.comp_apply, pow_succ', Nat.div_div_eq_div_mul]

theorem ofBytes_toBytes (count value : Nat) :
    ofBytes (toBytes count value) = value % 256 ^ count := by
  induction count generalizing value with
  | zero => simp [toBytes, ofBytes, Nat.mod_one]
  | succ count ih =>
      rw [toBytes_succ, ofBytes, ih, pow_succ', Nat.mod_mul, UInt8.toNat_ofNat']

theorem ofBytes_lt (bytes : List UInt8) : ofBytes bytes < 256 ^ bytes.length := by
  induction bytes with
  | nil => simp [ofBytes]
  | cons low high ih =>
      have lowBound := low.toNat_lt
      rw [ofBytes, List.length_cons, pow_succ']
      omega

def chunks (width : Nat) : Nat → List Nat → List (List Nat)
  | 0, _ => []
  | count + 1, digits => digits.take width :: chunks width count (digits.drop width)

theorem ofDigits_chunks (radix width count : Nat) (digits : List Nat)
    (length_eq : digits.length = width * count) :
    Nat.ofDigits radix digits =
      Nat.ofDigits (radix ^ width) ((chunks width count digits).map (Nat.ofDigits radix)) := by
  induction count generalizing digits with
  | zero =>
      have empty : digits = [] := List.eq_nil_of_length_eq_zero (by simpa using length_eq)
      simp [empty, chunks]
  | succ count ih =>
      have takeLength : (digits.take width).length = width := by
        rw [List.length_take]
        have enough : width ≤ digits.length := by
          rw [length_eq, Nat.mul_succ]
          omega
        omega
      have dropLength : (digits.drop width).length = width * count := by
        rw [List.length_drop, length_eq, Nat.mul_succ]
        omega
      conv_lhs => rw [← List.take_append_drop width digits]
      rw [Nat.ofDigits_append, takeLength, ih (digits.drop width) dropLength]
      simp [chunks, Nat.ofDigits_cons]

def digitsOf (base count value : Nat) : List Nat :=
  (List.range count).map fun index => value / base ^ index % base

@[simp] theorem length_digitsOf (base count value : Nat) :
    (digitsOf base count value).length = count := by
  simp [digitsOf]

theorem getElem_digitsOf {base count value index : Nat} (below : index < count) :
    getElem (digitsOf base count value) index (by simpa using below) =
      value / base ^ index % base := by
  simp [digitsOf]

theorem digitsOf_add (base fewer more value : Nat) :
    digitsOf base (fewer + more) value =
      digitsOf base fewer value ++ digitsOf base more (value / base ^ fewer) := by
  simp only [digitsOf, List.range_add, List.map_append, List.map_map, List.append_cancel_left_eq]
  refine List.map_congr_left fun index _ => ?_
  simp only [Function.comp_apply, pow_add, Nat.div_div_eq_div_mul]

theorem digitsOf_succ (base count value : Nat) :
    digitsOf base (count + 1) value = value % base :: digitsOf base count (value / base) := by
  rw [Nat.add_comm, digitsOf_add]
  simp [digitsOf]

theorem ofDigits_digitsOf (base count value : Nat) :
    Nat.ofDigits base (digitsOf base count value) = value % base ^ count := by
  induction count generalizing value with
  | zero => simp [digitsOf, Nat.mod_one]
  | succ count ih =>
      rw [digitsOf_succ, Nat.ofDigits_cons, ih, pow_succ', Nat.mod_mul]

theorem digitsOf_mod (base count value : Nat) :
    digitsOf base count (value % base ^ count) = digitsOf base count value := by
  apply List.ext_getElem (by simp)
  intro index below _
  simp only [length_digitsOf] at below
  rw [getElem_digitsOf below, getElem_digitsOf below]
  obtain ⟨rest, split⟩ : ∃ rest, count = index + (rest + 1) := ⟨count - index - 1, by omega⟩
  rw [split, pow_add, Nat.mod_mul_right_div_self,
    Nat.mod_mod_of_dvd _ (dvd_pow_self base (Nat.succ_ne_zero rest))]

theorem digitsOf_mul (base width count value : Nat) :
    digitsOf base (width * count) value =
      (List.range count).flatMap fun word =>
        digitsOf base width (value / (base ^ width) ^ word % base ^ width) := by
  induction count generalizing value with
  | zero => simp [digitsOf]
  | succ count ih =>
      rw [Nat.mul_succ, Nat.add_comm, digitsOf_add, ih, List.range_succ_eq_map, List.flatMap_cons,
        List.flatMap_map, pow_zero, Nat.div_one, digitsOf_mod]
      congr 1
      refine List.flatMap_congr fun word _ => ?_
      rw [pow_succ', Nat.div_div_eq_div_mul]

theorem digits_append_replicate {base count value : Nat} (wide : 1 < base)
    (fits : value < base ^ count) :
    Nat.digits base value ++ List.replicate (count - (Nat.digits base value).length) 0 =
      digitsOf base count value := by
  have short : (Nat.digits base value).length ≤ count :=
    (Nat.digits_length_le_iff wide value).mpr fits
  have lengths : (Nat.digits base value ++
      List.replicate (count - (Nat.digits base value).length) 0).length =
      (digitsOf base count value).length := by
    simp only [List.length_append, List.length_replicate, length_digitsOf]
    omega
  apply List.ext_getElem lengths
  intro index inPadded below
  simp only [length_digitsOf] at below
  rw [getElem_digitsOf below, List.getElem_append]
  split
  · next inDigits =>
    rw [← List.getD_eq_getElem _ 0 inDigits, Nat.getD_digits _ _ wide]
  · next past =>
    have above : value < base ^ index :=
      (Nat.digits_length_le_iff wide value).mp (by omega)
    simp [Nat.div_eq_of_lt above]

end LittleEndian
