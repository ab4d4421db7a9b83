import Antd.Lib.DecimalNumeral

/-! Amounts as text, from `cryptonote_format_utils.cpp`. `print_money` writes
an amount with the decimal point `decimal_point` places from the right, and
`parse_amount` reads one back under `default_decimal_point`: it trims
whitespace, drops zeros that the fraction has beyond the decimal point,
refuses a longer fraction, erases the point, pads the fraction with zeros to
the decimal point, and leaves the digits to `get_xtype_from_string`.
`set_default_decimal_point` installs the decimal point, one of 9, 6, 3 or 0.
Strings are lists of characters, and `isspace` and `isdigit` are those of the
C locale. -/

namespace Antd.Cryptonote

open DecimalNumeral

def isspace (c : Char) : Bool :=
  c == ' ' || c == '\t' || c == '\n' || c == '\x0b' || c == '\x0c' || c == '\r'

def trim (str : List Char) : List Char :=
  ((str.dropWhile isspace).reverse.dropWhile isspace).reverse

/-- `boost::lexical_cast<uint64_t>` on a string of digits: it fails on the
empty string and on a value that does not fit. -/
def lexicalCast (str : List Char) : Option UInt64 :=
  if str.isEmpty then none
  else
    let value := Nat.ofDigitChars 10 str 0
    if value < 2 ^ 64 then some value.toUInt64 else none

def getXtypeFromString (strId : List Char) : Option UInt64 :=
  if strId.all Char.isDigit then lexicalCast strId else none

/-- The loop of `parse_amount` that erases zeros at the end while the
fraction is longer than the decimal point. -/
def stripTrailingZeros (defaultDecimalPoint : Nat) (strAmount : List Char) :
    Nat → List Char × Nat
  | 0 => (strAmount, 0)
  | fractionSize + 1 =>
    if defaultDecimalPoint < fractionSize + 1 ∧ strAmount.getLast? = some '0' then
      stripTrailingZeros defaultDecimalPoint strAmount.dropLast fractionSize
    else (strAmount, fractionSize + 1)

/-- The branch of `parse_amount` on the point: the string with the point
erased and the size of its fraction, or `none` for a fraction still longer
than the decimal point once its zeros are gone. -/
def erasePoint (defaultDecimalPoint : Nat) (strAmount : List Char) : Option (List Char × Nat) :=
  let pointIndex := strAmount.idxOf '.'
  if pointIndex < strAmount.length then
    let (strAmount', fractionSize) :=
      stripTrailingZeros defaultDecimalPoint strAmount (strAmount.length - pointIndex - 1)
    if defaultDecimalPoint < fractionSize then none
    else some (strAmount'.eraseIdx pointIndex, fractionSize)
  else some (strAmount, 0)

def parseAmount (defaultDecimalPoint : Nat) (strAmount : List Char) : Option UInt64 :=
  match erasePoint defaultDecimalPoint (trim strAmount) with
  | none => none
  | some (strAmount, fractionSize) =>
    if strAmount.isEmpty then none
    else if fractionSize < defaultDecimalPoint then
      getXtypeFromString (strAmount ++ List.replicate (defaultDecimalPoint - fractionSize) '0')
    else getXtypeFromString strAmount

def setDefaultDecimalPoint (decimalPoint : Nat) : Except String Nat :=
  match decimalPoint with
  | 9 | 6 | 3 | 0 => .ok decimalPoint
  | _ => .error ("Invalid decimal point specification: " ++ toString decimalPoint)

def printMoney (defaultDecimalPoint : Nat) (amount : UInt64) (decimalPoint : Nat) : List Char :=
  let decimalPoint := if decimalPoint = 4294967295 then defaultDecimalPoint else decimalPoint
  let s := Nat.toDigits 10 amount.toNat
  let s :=
    if s.length < decimalPoint + 1 then List.replicate (decimalPoint + 1 - s.length) '0' ++ s
    else s
  if decimalPoint > 0 then s.insertIdx (s.length - decimalPoint) '.' else s

/-! ### Characters and trimming -/

theorem isspace_eq_false_of_isDigit {c : Char} (digit : c.isDigit) : isspace c = false := by
  simp only [isspace, Bool.or_eq_false_iff, beq_eq_false_iff_ne]
  refine ⟨⟨⟨⟨⟨?_, ?_⟩, ?_⟩, ?_⟩, ?_⟩, ?_⟩ <;> rintro rfl <;> exact absurd digit (by decide)

theorem dropWhile_isspace_of_forall {str : List Char} (noSpace : ∀ c ∈ str, isspace c = false) :
    str.dropWhile isspace = str := by
  cases str with
  | nil => rfl
  | cons first rest => rw [List.dropWhile_cons, if_neg (by simp [noSpace first List.mem_cons_self])]

theorem trim_of_forall {str : List Char} (noSpace : ∀ c ∈ str, isspace c = false) :
    trim str = str := by
  have reversed : ∀ c ∈ str.reverse, isspace c = false := fun c member =>
    noSpace c (List.mem_reverse.mp member)
  rw [trim, dropWhile_isspace_of_forall noSpace, dropWhile_isspace_of_forall reversed,
    List.reverse_reverse]

/-! ### The loop on trailing zeros and the point -/

theorem stripTrailingZeros_of_not_lt {defaultDecimalPoint fractionSize : Nat} (strAmount : List Char)
    (within : ¬defaultDecimalPoint < fractionSize) :
    stripTrailingZeros defaultDecimalPoint strAmount fractionSize = (strAmount, fractionSize) := by
  cases fractionSize with
  | zero => rfl
  | succ fractionSize => rw [stripTrailingZeros, if_neg (fun stripping => within stripping.1)]

theorem stripTrailingZeros_spec (defaultDecimalPoint : Nat) (kept : List Char) (n : Nat) :
    ∀ fraction : List Char, fraction.length = n → ∃ fractionSize ≤ n,
      stripTrailingZeros defaultDecimalPoint (kept ++ fraction) n =
        (kept ++ fraction.take fractionSize, fractionSize) ∧
      fraction.drop fractionSize = List.replicate (n - fractionSize) '0' := by
  induction n with
  | zero =>
    intro fraction sized
    rw [List.length_eq_zero_iff.mp sized]
    exact ⟨0, le_rfl, rfl, rfl⟩
  | succ n ih =>
    intro fraction sized
    obtain ⟨rest, last, rfl⟩ := List.eq_nil_or_concat fraction |>.resolve_left
      (fun empty => by simp [empty] at sized)
    rw [List.concat_eq_append] at sized ⊢
    have restSized : rest.length = n := by simpa using sized
    by_cases erasing : defaultDecimalPoint < n + 1 ∧ last = '0'
    · obtain ⟨below, zero⟩ := erasing
      obtain ⟨fractionSize, le, stripped, zeros⟩ := ih rest restSized
      have backZero : (kept ++ (rest ++ [last])).getLast? = some '0' := by
        rw [← List.append_assoc, List.getLast?_concat, zero]
      refine ⟨fractionSize, by omega, ?_, ?_⟩
      · rw [stripTrailingZeros, if_pos ⟨below, backZero⟩, ← List.append_assoc,
          List.dropLast_concat, stripped, List.take_append_of_le_length (by omega)]
      · rw [List.drop_append_of_le_length (by omega), zeros, zero,
          show n + 1 - fractionSize = n - fractionSize + 1 by omega, List.replicate_succ']
    · have stops : ¬(defaultDecimalPoint < n + 1 ∧ (kept ++ (rest ++ [last])).getLast? = some '0') := by
        rw [← List.append_assoc, List.getLast?_concat, Option.some_inj]
        exact erasing
      refine ⟨n + 1, le_rfl, ?_, ?_⟩
      · rw [stripTrailingZeros, if_neg stops, ← sized, List.take_length]
      · rw [← sized, List.drop_length, Nat.sub_self, List.replicate_zero]

theorem stripTrailingZeros_of_zeros (defaultDecimalPoint : Nat) (kept : List Char) (n : Nat) :
    ∀ fraction : List Char, fraction.length = n →
      fraction.drop defaultDecimalPoint = List.replicate (n - defaultDecimalPoint) '0' →
      stripTrailingZeros defaultDecimalPoint (kept ++ fraction) n =
        (kept ++ fraction.take defaultDecimalPoint, (fraction.take defaultDecimalPoint).length) := by
  induction n with
  | zero =>
    intro fraction sized _
    rw [List.length_eq_zero_iff.mp sized, List.take_nil]
    rfl
  | succ n ih =>
    intro fraction sized zeros
    by_cases long : defaultDecimalPoint < n + 1
    · obtain ⟨rest, last, rfl⟩ := List.eq_nil_or_concat fraction |>.resolve_left
        (fun empty => by simp [empty] at sized)
      rw [List.concat_eq_append] at sized zeros ⊢
      have restSized : rest.length = n := by simpa using sized
      rw [List.drop_append_of_le_length (by omega),
        show n + 1 - defaultDecimalPoint = n - defaultDecimalPoint + 1 by omega,
        List.replicate_succ'] at zeros
      obtain ⟨restZeros, lastZero⟩ := List.append_inj' zeros rfl
      have backZero : (kept ++ (rest ++ [last])).getLast? = some '0' := by
        rw [← List.append_assoc, List.getLast?_concat, List.singleton_inj.mp lastZero]
      rw [stripTrailingZeros, if_pos ⟨long, backZero⟩, ← List.append_assoc, List.dropLast_concat,
        ih rest restSized restZeros, List.take_append_of_le_length (by omega)]
    · rw [stripTrailingZeros_of_not_lt _ long, List.take_of_length_le (by omega)]
      exact congrArg _ sized.symm

theorem eraseIdx_append_point (whole rest : List Char) :
    (whole ++ ['.'] ++ rest).eraseIdx whole.length = whole ++ rest := by
  rw [List.append_assoc, List.singleton_append, List.eraseIdx_append_of_length_le le_rfl,
    Nat.sub_self, List.eraseIdx_cons_zero]

theorem erasePoint_append_cons (defaultDecimalPoint : Nat) {whole : List Char}
    (fraction : List Char) (absent : '.' ∉ whole) :
    erasePoint defaultDecimalPoint (whole ++ '.' :: fraction) =
      let (strAmount', fractionSize) :=
        stripTrailingZeros defaultDecimalPoint (whole ++ ['.'] ++ fraction) fraction.length
      if defaultDecimalPoint < fractionSize then none
      else some (strAmount'.eraseIdx whole.length, fractionSize) := by
  have found : (whole ++ '.' :: fraction).idxOf '.' = whole.length := idxOf_append_cons absent
  have fractionLength : (whole ++ '.' :: fraction).length - whole.length - 1 = fraction.length := by
    simp only [List.length_append, List.length_cons]
    omega
  have split : whole ++ '.' :: fraction = whole ++ ['.'] ++ fraction := by simp
  simp only [erasePoint, found, fractionLength]
  rw [if_pos (by simp), split]

theorem erasePoint_eq_some {defaultDecimalPoint fractionSize : Nat} {strAmount erased : List Char}
    (erasing : erasePoint defaultDecimalPoint strAmount = some (erased, fractionSize)) :
    ('.' ∉ strAmount ∧ erased = strAmount ∧ fractionSize = 0) ∨
      ∃ whole fraction, strAmount = whole ++ '.' :: fraction ∧ '.' ∉ whole ∧
        fractionSize ≤ defaultDecimalPoint ∧ fractionSize ≤ fraction.length ∧
        erased = whole ++ fraction.take fractionSize ∧
        fraction.drop fractionSize = List.replicate (fraction.length - fractionSize) '0' := by
  by_cases member : '.' ∈ strAmount
  · obtain ⟨whole, fraction, rfl, absent⟩ := exists_split_first member
    obtain ⟨kept, le, stripped, zeros⟩ :=
      stripTrailingZeros_spec defaultDecimalPoint (whole ++ ['.']) fraction.length fraction rfl
    rw [erasePoint_append_cons _ _ absent, stripped] at erasing
    dsimp only at erasing
    split at erasing
    · cases erasing
    · next within =>
      obtain ⟨rfl, rfl⟩ := Prod.mk.inj (Option.some_inj.mp erasing)
      exact .inr ⟨whole, fraction, rfl, absent, Nat.le_of_not_lt within, le,
        eraseIdx_append_point _ _, zeros⟩
  · have notFound : strAmount.idxOf '.' = strAmount.length := List.idxOf_eq_length member
    simp only [erasePoint, notFound, lt_irrefl, if_false, Option.some_inj, Prod.mk.injEq] at erasing
    exact .inl ⟨member, erasing.1.symm, erasing.2.symm⟩

theorem erasePoint_of_not_mem {defaultDecimalPoint : Nat} {strAmount : List Char}
    (absent : '.' ∉ strAmount) : erasePoint defaultDecimalPoint strAmount = some (strAmount, 0) := by
  simp only [erasePoint, List.idxOf_eq_length absent, lt_irrefl, if_false]

theorem erasePoint_of_zeros {defaultDecimalPoint : Nat} {whole fraction : List Char}
    (absent : '.' ∉ whole)
    (zeros : fraction.drop defaultDecimalPoint =
      List.replicate (fraction.length - defaultDecimalPoint) '0') :
    erasePoint defaultDecimalPoint (whole ++ '.' :: fraction) =
      some (whole ++ fraction.take defaultDecimalPoint,
        (fraction.take defaultDecimalPoint).length) := by
  have within : ¬defaultDecimalPoint < (fraction.take defaultDecimalPoint).length := by
    rw [List.length_take]
    omega
  rw [erasePoint_append_cons _ _ absent, stripTrailingZeros_of_zeros _ _ _ fraction rfl zeros]
  dsimp only
  rw [if_neg within, eraseIdx_append_point]

theorem erasePoint_of_length_eq {whole fraction : List Char} (absent : '.' ∉ whole) :
    erasePoint fraction.length (whole ++ '.' :: fraction) =
      some (whole ++ fraction, fraction.length) := by
  have noZeros : fraction.drop fraction.length =
      List.replicate (fraction.length - fraction.length) '0' := by
    rw [List.drop_length, Nat.sub_self, List.replicate_zero]
  rw [erasePoint_of_zeros absent noZeros, List.take_length]

/-! ### The digit check and `parse_amount` -/

theorem getXtypeFromString_eq_some {strId : List Char} {amount : UInt64} :
    getXtypeFromString strId = some amount ↔
      (∀ c ∈ strId, c.isDigit) ∧ strId ≠ [] ∧ Nat.ofDigitChars 10 strId 0 = amount.toNat := by
  constructor
  · intro read
    simp only [getXtypeFromString, lexicalCast] at read
    split at read
    · next digits =>
      split at read
      · cases read
      · next nonempty =>
        split at read
        · next fits =>
          refine ⟨List.all_eq_true.mp digits, by simpa using nonempty, ?_⟩
          rw [← Option.some_inj.mp read, Nat.toUInt64_eq, UInt64.toNat_ofNat_of_lt' fits]
        · cases read
    · cases read
  · rintro ⟨digits, nonempty, spelled⟩
    have fits : Nat.ofDigitChars 10 strId 0 < 2 ^ 64 := spelled ▸ amount.toNat_lt
    have empty : strId.isEmpty = false := by simpa using nonempty
    rw [getXtypeFromString, if_pos (List.all_eq_true.mpr digits), lexicalCast, if_neg (by simp [empty])]
    dsimp only
    rw [if_pos fits, spelled, Nat.toUInt64_eq, UInt64.ofNat_toNat]

theorem parseAmount_eq_some {defaultDecimalPoint : Nat} {strAmount : List Char} {amount : UInt64} :
    parseAmount defaultDecimalPoint strAmount = some amount ↔
      ∃ erased fractionSize,
        erasePoint defaultDecimalPoint (trim strAmount) = some (erased, fractionSize) ∧ erased ≠ [] ∧
        getXtypeFromString (erased ++ List.replicate (defaultDecimalPoint - fractionSize) '0') =
          some amount := by
  unfold parseAmount
  cases erasePoint defaultDecimalPoint (trim strAmount) with
  | none => simp
  | some result =>
    obtain ⟨erased, fractionSize⟩ := result
    have padded : (if fractionSize < defaultDecimalPoint then
          getXtypeFromString (erased ++ List.replicate (defaultDecimalPoint - fractionSize) '0')
        else getXtypeFromString erased) =
        getXtypeFromString (erased ++ List.replicate (defaultDecimalPoint - fractionSize) '0') := by
      split
      · rfl
      · next long =>
        rw [Nat.sub_eq_zero_of_le (Nat.le_of_not_lt long), List.replicate_zero, List.append_nil]
    dsimp only
    rw [padded]
    by_cases empty : erased = []
    · simp [empty]
    · simp [empty]

theorem parseAmount_sound {defaultDecimalPoint : Nat} {strAmount : List Char} {amount : UInt64}
    (parsed : parseAmount defaultDecimalPoint strAmount = some amount) :
    ∃ whole fraction,
      (trim strAmount = whole ++ '.' :: fraction ∨ trim strAmount = whole ∧ fraction = []) ∧
      (∀ c ∈ whole ++ fraction, c.isDigit) ∧ whole ++ fraction ≠ [] ∧
      value whole fraction * 10 ^ defaultDecimalPoint = amount.toNat := by
  obtain ⟨erased, fractionSize, erasing, nonempty, read⟩ := parseAmount_eq_some.1 parsed
  obtain ⟨digits, -, spelled⟩ := getXtypeFromString_eq_some.1 read
  have erasedDigits : ∀ c ∈ erased, c.isDigit := fun c member =>
    digits c (List.mem_append_left _ member)
  rcases erasePoint_eq_some erasing with
    ⟨-, rfl, rfl⟩ | ⟨whole, fraction, split, -, within, short, rfl, zeros⟩
  · refine ⟨trim strAmount, [], .inr ⟨rfl, rfl⟩, by simpa using erasedDigits, by simpa using nonempty, ?_⟩
    have shifted := value_mul_pow (trim strAmount) [] defaultDecimalPoint
    rw [List.length_nil, Nat.zero_add, List.append_nil] at shifted
    rw [shifted, ← spelled, Nat.sub_zero]
  · have parts : fraction.take fractionSize ++ List.replicate (fraction.length - fractionSize) '0' =
        fraction := by
      rw [← zeros, List.take_append_drop]
    have keptLength : (fraction.take fractionSize).length = fractionSize :=
      List.length_take_of_le short
    have valueKept : value whole fraction = value whole (fraction.take fractionSize) :=
      (value_take_of_zeros zeros).symm
    refine ⟨whole, fraction, .inl split, ?_, ?_, ?_⟩
    · intro c member
      rw [← parts, ← List.append_assoc, List.mem_append] at member
      rcases member with kept | erasedZero
      · exact erasedDigits c kept
      · rw [List.eq_of_mem_replicate erasedZero]
        rfl
    · intro empty
      apply nonempty
      rw [List.append_eq_nil_iff] at empty ⊢
      exact ⟨empty.1, by rw [empty.2, List.take_nil]⟩
    · calc value whole fraction * 10 ^ defaultDecimalPoint
          = value whole (fraction.take fractionSize) *
              10 ^ ((fraction.take fractionSize).length + (defaultDecimalPoint - fractionSize)) := by
            rw [valueKept, keptLength, Nat.add_sub_cancel' within]
        _ = amount.toNat := by rw [value_mul_pow, spelled]

theorem isDigit_of_mem_append_zeros {digits : List Char} {count : Nat}
    (allDigits : ∀ c ∈ digits, c.isDigit) : ∀ c ∈ digits ++ List.replicate count '0', c.isDigit := by
  intro c member
  rcases List.mem_append.mp member with digit | zero
  · exact allDigits c digit
  · rw [List.eq_of_mem_replicate zero]
    rfl

/-! ### What `parse_amount` accepts -/

theorem parseAmount_of_integer {defaultDecimalPoint : Nat} {strAmount : List Char} {amount : UInt64}
    (digits : ∀ c ∈ trim strAmount, c.isDigit) (nonempty : trim strAmount ≠ [])
    (exact : value (trim strAmount) [] * 10 ^ defaultDecimalPoint = amount.toNat) :
    parseAmount defaultDecimalPoint strAmount = some amount := by
  have absent : '.' ∉ trim strAmount := fun member => absurd (digits '.' member) (by decide)
  refine parseAmount_eq_some.2 ⟨trim strAmount, 0, erasePoint_of_not_mem absent, nonempty, ?_⟩
  refine getXtypeFromString_eq_some.2
    ⟨isDigit_of_mem_append_zeros digits, List.append_ne_nil_of_left_ne_nil nonempty _, ?_⟩
  have shifted := value_mul_pow (trim strAmount) [] defaultDecimalPoint
  rw [List.length_nil, Nat.zero_add, List.append_nil, exact] at shifted
  rw [Nat.sub_zero]
  exact_mod_cast shifted.symm

theorem parseAmount_of_point {defaultDecimalPoint : Nat} {strAmount whole fraction : List Char}
    {amount : UInt64} (split : trim strAmount = whole ++ '.' :: fraction)
    (digits : ∀ c ∈ whole ++ fraction, c.isDigit) (nonempty : whole ++ fraction ≠ [])
    (kept : whole ≠ [] ∨ 0 < defaultDecimalPoint)
    (exact : value whole fraction * 10 ^ defaultDecimalPoint = amount.toNat) :
    parseAmount defaultDecimalPoint strAmount = some amount := by
  have fractionDigits : ∀ c ∈ fraction, c.isDigit := fun c member =>
    digits c (List.mem_append_right _ member)
  have absent : '.' ∉ whole := fun member =>
    absurd (digits '.' (List.mem_append_left _ member)) (by decide)
  have zeros := drop_eq_replicate_of_value_mul_pow fractionDigits exact
  have keptDigits : ∀ c ∈ whole ++ fraction.take defaultDecimalPoint, c.isDigit := fun c member =>
    digits c (List.mem_append.mpr ((List.mem_append.mp member).imp id List.mem_of_mem_take))
  have erasedNonempty : whole ++ fraction.take defaultDecimalPoint ≠ [] := by
    intro empty
    obtain ⟨noWhole, noFraction⟩ := List.append_eq_nil_iff.mp empty
    rcases kept with hasWhole | places
    · exact hasWhole noWhole
    · rw [List.take_eq_nil_iff] at noFraction
      rcases noFraction with noPlaces | noDigits
      · omega
      · exact nonempty (by rw [noWhole, noDigits]; rfl)
  have valueKept : value whole (fraction.take defaultDecimalPoint) = value whole fraction :=
    value_take_of_zeros zeros
  refine parseAmount_eq_some.2 ⟨whole ++ fraction.take defaultDecimalPoint,
    (fraction.take defaultDecimalPoint).length, by rw [split, erasePoint_of_zeros absent zeros],
    erasedNonempty, ?_⟩
  refine getXtypeFromString_eq_some.2
    ⟨isDigit_of_mem_append_zeros keptDigits, List.append_ne_nil_of_left_ne_nil erasedNonempty _, ?_⟩
  have shifted := value_mul_pow whole (fraction.take defaultDecimalPoint)
    (defaultDecimalPoint - (fraction.take defaultDecimalPoint).length)
  have keptLength : (fraction.take defaultDecimalPoint).length ≤ defaultDecimalPoint := by
    rw [List.length_take]
    omega
  rw [Nat.add_sub_cancel' keptLength, valueKept, exact] at shifted
  exact_mod_cast shifted.symm

theorem parseAmount_of_leading_point {strAmount fraction : List Char}
    (split : trim strAmount = '.' :: fraction) : parseAmount 0 strAmount = none := by
  rw [Option.eq_none_iff_forall_ne_some]
  intro amount parsed
  obtain ⟨erased, fractionSize, erasing, nonempty, -⟩ := parseAmount_eq_some.1 parsed
  rw [split] at erasing
  rcases erasePoint_eq_some erasing with ⟨absent, -, -⟩ | ⟨whole, rest, same, absent, within, -, rfl, -⟩
  · exact absent List.mem_cons_self
  · have noWhole : whole = [] := by
      cases whole with
      | nil => rfl
      | cons first others =>
        rw [List.cons_append, List.cons.injEq] at same
        exact absurd (by rw [← same.1]; exact List.mem_cons_self) absent
    rw [noWhole, Nat.le_zero.mp within, List.take_zero] at nonempty
    exact nonempty rfl

theorem parse_amount_accepts_exact_numerals (defaultDecimalPoint : Nat)
    (strAmount whole fraction : List Char) (amount : UInt64)
    (digits : ∀ c ∈ whole ++ fraction, c.isDigit) (nonempty : whole ++ fraction ≠ [])
    (exact : value whole fraction * 10 ^ defaultDecimalPoint = amount.toNat) :
    (trim strAmount = whole ∧ fraction = [] →
      parseAmount defaultDecimalPoint strAmount = some amount) ∧
    (trim strAmount = whole ++ '.' :: fraction →
      (parseAmount defaultDecimalPoint strAmount = some amount ↔
        whole ≠ [] ∨ 0 < defaultDecimalPoint)) := by
  refine ⟨?_, fun split => ⟨fun parsed => ?_, (parseAmount_of_point split digits nonempty · exact)⟩⟩
  · rintro ⟨same, rfl⟩
    rw [List.append_nil, ← same] at digits nonempty
    rw [← same] at exact
    exact parseAmount_of_integer digits nonempty exact
  · by_contra refused
    obtain ⟨noWhole, noPlaces⟩ := not_or.mp refused
    rw [not_not] at noWhole
    rw [noWhole, List.nil_append] at split
    rw [Nat.eq_zero_of_not_pos noPlaces, parseAmount_of_leading_point split] at parsed
    cases parsed

/-- The numeral 1.50, with spaces around it, is one and a half at nine places. -/
theorem one_and_a_half_numeral_parses :
    parseAmount 9 [' ', '1', '.', '5', '0', ' '] = some 1500000000 := by
  have one : Nat.ofDigitChars 10 ['1'] 0 = 1 := rfl
  have fifty : Nat.ofDigitChars 10 ['5', '0'] 0 = 50 := rfl
  have amount : UInt64.toNat 1500000000 = 1500000000 := rfl
  have exact : value ['1'] ['5', '0'] * 10 ^ 9 = (UInt64.toNat 1500000000 : ℚ) := by
    rw [value, one, fifty, amount]
    norm_num
  exact ((parse_amount_accepts_exact_numerals 9 [' ', '1', '.', '5', '0', ' '] ['1'] ['5', '0']
    1500000000 (by simp [Char.isDigit]) (by simp) exact).2 (by decide)).mpr (Or.inl (by simp))

/-! ### `print_money` and the round trip -/

/-- The digits `print_money` writes before it places the point: the amount
in decimal with zeros in front up to more than `decimalPoint` digits. -/
def paddedDigits (decimalPoint : Nat) (amount : UInt64) : List Char :=
  List.replicate (decimalPoint + 1 - (Nat.toDigits 10 amount.toNat).length) '0' ++
    Nat.toDigits 10 amount.toNat

theorem printMoney_default (defaultDecimalPoint : Nat) (amount : UInt64) :
    printMoney defaultDecimalPoint amount defaultDecimalPoint =
      if defaultDecimalPoint > 0 then
        (paddedDigits defaultDecimalPoint amount).insertIdx
          ((paddedDigits defaultDecimalPoint amount).length - defaultDecimalPoint) '.'
      else paddedDigits defaultDecimalPoint amount := by
  have padded : (if (Nat.toDigits 10 amount.toNat).length < defaultDecimalPoint + 1 then
        List.replicate (defaultDecimalPoint + 1 - (Nat.toDigits 10 amount.toNat).length) '0' ++
          Nat.toDigits 10 amount.toNat
      else Nat.toDigits 10 amount.toNat) = paddedDigits defaultDecimalPoint amount := by
    split
    · rfl
    · next long =>
      rw [paddedDigits, Nat.sub_eq_zero_of_le (Nat.le_of_not_lt long), List.replicate_zero,
        List.nil_append]
  simp only [printMoney, ite_self]
  rw [padded]

theorem isDigit_of_mem_paddedDigits {decimalPoint : Nat} {amount : UInt64} {c : Char}
    (member : c ∈ paddedDigits decimalPoint amount) : c.isDigit := by
  rcases List.mem_append.mp member with zero | digit
  · rw [List.eq_of_mem_replicate zero]
    rfl
  · exact Nat.isDigit_of_mem_toDigits (by decide) (by decide) digit

theorem length_paddedDigits (decimalPoint : Nat) (amount : UInt64) :
    decimalPoint + 1 ≤ (paddedDigits decimalPoint amount).length := by
  rw [paddedDigits, List.length_append, List.length_replicate]
  omega

theorem paddedDigits_ne_nil (decimalPoint : Nat) (amount : UInt64) :
    paddedDigits decimalPoint amount ≠ [] :=
  List.ne_nil_of_length_pos (Nat.lt_of_lt_of_le (Nat.succ_pos _) (length_paddedDigits _ _))

theorem getXtypeFromString_paddedDigits (decimalPoint : Nat) (amount : UInt64) :
    getXtypeFromString (paddedDigits decimalPoint amount) = some amount := by
  refine getXtypeFromString_eq_some.2
    ⟨fun c member => isDigit_of_mem_paddedDigits member, paddedDigits_ne_nil _ _, ?_⟩
  rw [paddedDigits, ofDigitChars_zeros_append, Nat.ofDigitChars_ten_toDigits]

theorem parseAmount_printMoney (defaultDecimalPoint : Nat) (amount : UInt64) :
    parseAmount defaultDecimalPoint (printMoney defaultDecimalPoint amount defaultDecimalPoint) =
      some amount := by
  have pointFree : ∀ c ∈ paddedDigits defaultDecimalPoint amount, c ≠ '.' := by
    intro c member same
    have digit := isDigit_of_mem_paddedDigits member
    rw [same] at digit
    exact absurd digit (by decide)
  have spaceFree : ∀ c ∈ paddedDigits defaultDecimalPoint amount, isspace c = false :=
    fun c member => isspace_eq_false_of_isDigit (isDigit_of_mem_paddedDigits member)
  have nonempty := paddedDigits_ne_nil defaultDecimalPoint amount
  rw [printMoney_default]
  split
  · next positive =>
    set padded := paddedDigits defaultDecimalPoint amount
    set whole := padded.take (padded.length - defaultDecimalPoint)
    set fraction := padded.drop (padded.length - defaultDecimalPoint)
    have long : defaultDecimalPoint + 1 ≤ padded.length := length_paddedDigits _ _
    have wholeLength : whole.length = padded.length - defaultDecimalPoint :=
      List.length_take_of_le (Nat.sub_le _ _)
    have fractionLength : fraction.length = defaultDecimalPoint := by
      rw [List.length_drop]
      omega
    have printed : padded.insertIdx (padded.length - defaultDecimalPoint) '.' =
        whole ++ '.' :: fraction := by
      rw [← wholeLength, ← insertIdx_length_append, List.take_append_drop]
    have wholePointFree : '.' ∉ whole := fun member =>
      pointFree '.' (List.mem_of_mem_take member) rfl
    have printedSpaceFree : ∀ c ∈ whole ++ '.' :: fraction, isspace c = false := by
      intro c member
      rcases List.mem_append.mp member with inWhole | inRest
      · exact spaceFree c (List.mem_of_mem_take inWhole)
      · rcases List.mem_cons.mp inRest with point | inFraction
        · rw [point]
          rfl
        · exact spaceFree c (List.mem_of_mem_drop inFraction)
    refine parseAmount_eq_some.2 ⟨padded, defaultDecimalPoint, ?_, nonempty, ?_⟩
    · rw [printed, trim_of_forall printedSpaceFree, ← fractionLength,
        erasePoint_of_length_eq wholePointFree, List.take_append_drop]
    · rw [Nat.sub_self, List.replicate_zero, List.append_nil]
      exact getXtypeFromString_paddedDigits _ _
  · next zero =>
    have zero : defaultDecimalPoint = 0 := by omega
    refine parseAmount_eq_some.2 ⟨paddedDigits defaultDecimalPoint amount, 0, ?_, nonempty, ?_⟩
    · rw [trim_of_forall spaceFree, erasePoint_of_not_mem (fun member => pointFree '.' member rfl)]
    · rw [zero, Nat.sub_self, List.replicate_zero, List.append_nil, ← zero]
      exact getXtypeFromString_paddedDigits _ _

theorem setDefaultDecimalPoint_eq (decimalPoint : Nat) :
    setDefaultDecimalPoint decimalPoint =
      if decimalPoint ∈ [9, 6, 3, 0] then .ok decimalPoint
      else .error ("Invalid decimal point specification: " ++ toString decimalPoint) := by
  unfold setDefaultDecimalPoint
  split <;> simp_all

theorem money_prints_and_parses_exactly :
    (∀ decimalPoint ∈ [0, 3, 6, 9], setDefaultDecimalPoint decimalPoint = .ok decimalPoint ∧
      ∀ amount : UInt64,
        parseAmount decimalPoint (printMoney decimalPoint amount decimalPoint) = some amount) ∧
    (∀ (defaultDecimalPoint : Nat) (strAmount : List Char) (amount : UInt64),
      parseAmount defaultDecimalPoint strAmount = some amount →
      ∃ whole fraction,
        (trim strAmount = whole ++ '.' :: fraction ∨ trim strAmount = whole ∧ fraction = []) ∧
        (∀ c ∈ whole ++ fraction, c.isDigit) ∧ whole ++ fraction ≠ [] ∧
        value whole fraction * 10 ^ defaultDecimalPoint = amount.toNat) := by
  refine ⟨?_, fun _ _ _ parsed => parseAmount_sound parsed⟩
  intro decimalPoint allowed
  refine ⟨?_, parseAmount_printMoney decimalPoint⟩
  have installed : decimalPoint ∈ [9, 6, 3, 0] := by
    simp only [List.mem_cons, List.not_mem_nil, or_false] at allowed ⊢
    omega
  rw [setDefaultDecimalPoint_eq, if_pos installed]

/-- One and a half printed at nine places, as 1.500000000, and read back. -/
theorem one_and_a_half_round_trips :
    parseAmount 9 (printMoney 9 1500000000 9) = some 1500000000 :=
  (money_prints_and_parses_exactly.1 9 (by decide)).2 1500000000

end Antd.Cryptonote
