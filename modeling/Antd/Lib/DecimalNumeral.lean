import Mathlib

/-! Decimal numerals written as characters: a whole part and a fraction part
of digits, read by `Nat.ofDigitChars 10`, with the exact value
`whole + fraction / 10 ^ |fraction|`. Zeros at the end of the fraction leave
the value as it is, and moving the point past the fraction and some more
zeros gives the integer that the digits without the point spell. A numeral's
point is the first occurrence of the point character, which splits the text
into the part before it and the part after it. -/

namespace DecimalNumeral

def value (whole fraction : List Char) : ℚ :=
  (Nat.ofDigitChars 10 whole 0 : ℚ) + Nat.ofDigitChars 10 fraction 0 / 10 ^ fraction.length

theorem ofDigitChars_append_zero (first second : List Char) :
    Nat.ofDigitChars 10 (first ++ second) 0 =
      10 ^ second.length * Nat.ofDigitChars 10 first 0 + Nat.ofDigitChars 10 second 0 := by
  rw [Nat.ofDigitChars_append, Nat.ofDigitChars_eq_ofDigitChars_zero]

theorem ofDigitChars_append_zeros (digits : List Char) (count : Nat) :
    Nat.ofDigitChars 10 (digits ++ List.replicate count '0') 0 =
      10 ^ count * Nat.ofDigitChars 10 digits 0 := by
  rw [Nat.ofDigitChars_append, Nat.ofDigitChars_replicate_zero]

theorem ofDigitChars_zeros_append (count : Nat) (digits : List Char) :
    Nat.ofDigitChars 10 (List.replicate count '0' ++ digits) 0 = Nat.ofDigitChars 10 digits 0 := by
  rw [Nat.ofDigitChars_append, Nat.ofDigitChars_replicate_zero, Nat.mul_zero]

theorem value_append_zeros (whole fraction : List Char) (count : Nat) :
    value whole (fraction ++ List.replicate count '0') = value whole fraction := by
  have positive : (0 : ℚ) < 10 ^ count := by positivity
  simp only [value, ofDigitChars_append_zeros, List.length_append, List.length_replicate, pow_add]
  push_cast
  rw [mul_comm ((10 : ℚ) ^ fraction.length), mul_div_mul_left _ _ positive.ne']

theorem value_take_of_zeros {whole fraction : List Char} {places : Nat}
    (zeros : fraction.drop places = List.replicate (fraction.length - places) '0') :
    value whole (fraction.take places) = value whole fraction := by
  have unpadded := value_append_zeros whole (fraction.take places) (fraction.length - places)
  rw [← zeros, List.take_append_drop] at unpadded
  exact unpadded.symm

theorem value_mul_pow (whole fraction : List Char) (shift : Nat) :
    value whole fraction * 10 ^ (fraction.length + shift) =
      Nat.ofDigitChars 10 (whole ++ fraction ++ List.replicate shift '0') 0 := by
  have positive : (0 : ℚ) < 10 ^ fraction.length := by positivity
  rw [ofDigitChars_append_zeros, ofDigitChars_append_zero]
  simp only [value, pow_add]
  push_cast
  field_simp

theorem digitValue_lt {c : Char} (digit : c.isDigit) : c.toNat - '0'.toNat < 10 := by
  simp only [Char.isDigit, Bool.and_eq_true, decide_eq_true_eq] at digit
  have high : c.val.toNat ≤ 57 := UInt32.le_iff_toNat_le.mp digit.2
  show c.val.toNat - 48 < 10
  omega

theorem eq_zero_of_digitValue {c : Char} (digit : c.isDigit) (zero : c.toNat - '0'.toNat = 0) :
    c = '0' := by
  simp only [Char.isDigit, Bool.and_eq_true, decide_eq_true_eq] at digit
  have low : 48 ≤ c.val.toNat := UInt32.le_iff_toNat_le.mp digit.1
  apply Char.ext
  apply UInt32.toNat_inj.mp
  change c.val.toNat - 48 = 0 at zero
  show c.val.toNat = 48
  omega

theorem ofDigitChars_lt {digits : List Char} (allDigits : ∀ c ∈ digits, c.isDigit) :
    Nat.ofDigitChars 10 digits 0 < 10 ^ digits.length := by
  induction digits with
  | nil => simp
  | cons first rest ih =>
    have firstBelow := digitValue_lt (allDigits first List.mem_cons_self)
    have restBelow := ih fun c member => allDigits c (List.mem_cons_of_mem _ member)
    have room : 10 ^ rest.length * (first.toNat - '0'.toNat) + 10 ^ rest.length ≤
        10 ^ rest.length * 10 := by
      rw [← Nat.mul_succ]
      exact Nat.mul_le_mul_left _ firstBelow
    rw [Nat.ofDigitChars_cons, Nat.ofDigitChars_eq_ofDigitChars_zero, List.length_cons, pow_succ,
      Nat.mul_zero, Nat.zero_add]
    omega

theorem eq_replicate_of_ofDigitChars_eq_zero {digits : List Char}
    (allDigits : ∀ c ∈ digits, c.isDigit) (zero : Nat.ofDigitChars 10 digits 0 = 0) :
    digits = List.replicate digits.length '0' := by
  induction digits with
  | nil => rfl
  | cons first rest ih =>
    rw [Nat.ofDigitChars_cons, Nat.ofDigitChars_eq_ofDigitChars_zero, Nat.mul_zero, Nat.zero_add]
      at zero
    obtain ⟨firstWeighed, restZero⟩ := Nat.add_eq_zero_iff.mp zero
    have firstZero : first.toNat - '0'.toNat = 0 :=
      (Nat.mul_eq_zero.mp firstWeighed).resolve_left (pow_ne_zero _ (by norm_num))
    rw [List.length_cons, List.replicate_succ,
      eq_zero_of_digitValue (allDigits first List.mem_cons_self) firstZero,
      ← ih (fun c member => allDigits c (List.mem_cons_of_mem _ member)) restZero]

theorem drop_eq_replicate_of_value_mul_pow {whole fraction : List Char} {shift amount : Nat}
    (allDigits : ∀ c ∈ fraction, c.isDigit) (exact : value whole fraction * 10 ^ shift = amount) :
    fraction.drop shift = List.replicate (fraction.length - shift) '0' := by
  by_cases short : fraction.length ≤ shift
  · rw [List.drop_eq_nil_of_le short, Nat.sub_eq_zero_of_le short, List.replicate_zero]
  · set rest := fraction.drop shift with restDef
    have restLength : rest.length = fraction.length - shift := List.length_drop
    have spelled : Nat.ofDigitChars 10 (whole ++ fraction) 0 = amount * 10 ^ rest.length := by
      have shifted := value_mul_pow whole fraction 0
      rw [Nat.add_zero, List.replicate_zero, List.append_nil,
        show fraction.length = shift + rest.length by omega, pow_add, ← mul_assoc, exact] at shifted
      exact_mod_cast shifted.symm
    have parts : Nat.ofDigitChars 10 (whole ++ fraction) 0 =
        10 ^ rest.length * Nat.ofDigitChars 10 (whole ++ fraction.take shift) 0 +
          Nat.ofDigitChars 10 rest 0 := by
      rw [← ofDigitChars_append_zero, List.append_assoc, restDef, List.take_append_drop]
    have divides : 10 ^ rest.length ∣ Nat.ofDigitChars 10 rest 0 := by
      refine (Nat.dvd_add_right
        (Nat.dvd_mul_right _ (Nat.ofDigitChars 10 (whole ++ fraction.take shift) 0))).mp ?_
      rw [← parts, spelled]
      exact Nat.dvd_mul_left _ _
    have restDigits : ∀ c ∈ rest, c.isDigit := fun c member =>
      allDigits c (List.mem_of_mem_drop member)
    rw [← restLength]
    exact eq_replicate_of_ofDigitChars_eq_zero restDigits
      (Nat.eq_zero_of_dvd_of_lt divides (ofDigitChars_lt restDigits))

variable {α : Type}

theorem insertIdx_length_append (point : α) (before after : List α) :
    (before ++ after).insertIdx before.length point = before ++ point :: after := by
  induction before with
  | nil => exact List.insertIdx_zero
  | cons first rest ih => rw [List.cons_append, List.length_cons, List.insertIdx_succ_cons, ih]; rfl

variable [DecidableEq α]

theorem exists_split_first {point : α} {text : List α} (member : point ∈ text) :
    ∃ before after, text = before ++ point :: after ∧ point ∉ before := by
  induction text with
  | nil => simp at member
  | cons first rest ih =>
    by_cases same : first = point
    · exact ⟨[], rest, by rw [same]; rfl, List.not_mem_nil⟩
    · have later : point ∈ rest := by simpa [Ne.symm same] using member
      obtain ⟨before, after, split, absent⟩ := ih later
      refine ⟨first :: before, after, by rw [split]; rfl, ?_⟩
      simpa [Ne.symm same] using absent

theorem idxOf_append_cons {point : α} {before after : List α} (absent : point ∉ before) :
    (before ++ point :: after).idxOf point = before.length := by
  rw [List.idxOf_append, if_neg absent, List.idxOf_cons_self, Nat.zero_add]

end DecimalNumeral
