import Antd.Lib.ByteReader

/-! The base-128 integers of `common/varint.h`: seven bits to a byte, least
significant first, the high bit set on every byte but the last.

`tools::read_varint<bits>` reads into an unsigned integer of `bits` bits and
returns the number of bytes it read, or an error code: `EVARINT_OVERFLOW` for a
byte that does not fit, `EVARINT_REPRESENT` for a zero byte after the first.
It also returns the count read when the input ends in the middle of a number,
so a positive result is the canonical encoding of what it stored or a run of
continuation bytes up to the end of the input (`readVarintLoop_sound`).

The binary archive calls it into a 64-bit integer and drops the status
(`// XXX handle failure`), so a read there never fails: it stops at the end of
the input, at a byte that would overflow and at a zero continuation byte, with
the bits it has (`readVarintFrom`, the loop at 64 bits with its status dropped:
`readVarintFrom_eq_readVarintLoop`). -/

namespace Antd.Common

open ByteReader

def writeVarint (value : Nat) : List UInt8 :=
  if value ≥ 0x80 then ((UInt8.ofNat value &&& 0x7f) ||| 0x80) :: writeVarint (value / 0x80)
  else [UInt8.ofNat value]
termination_by value
decreasing_by omega

/-- The loop of `tools::read_varint` into a 64-bit integer, from bit `shift`
on with the bits read so far in `value`; the byte it stops at is consumed. -/
def readVarintFrom (shift value : Nat) : List UInt8 → Nat × List UInt8
  | [] => (value, [])
  | byte :: rest =>
      if shift + 7 ≥ 64 ∧ byte.toNat ≥ 2 ^ (64 - shift) then (value, rest)
      else if byte = 0 ∧ shift ≠ 0 then (value, rest)
      else
        let value := value ||| ((byte &&& 0x7f).toNat <<< shift) % 2 ^ 64
        if byte &&& 0x80 = 0 then (value, rest) else readVarintFrom (shift + 7) value rest

def readVarint : Reader Nat := fun input => some (readVarintFrom 0 0 input)

/-! ### The bytes -/

theorem toNat_and_0x7f (byte : UInt8) : (byte &&& 0x7f).toNat = byte.toNat % 0x80 := by
  rw [UInt8.toNat_and, show (0x7f : UInt8).toNat = 2 ^ 7 - 1 from rfl,
    Nat.and_two_pow_sub_one_eq_mod]

theorem and_0x80_eq_zero_iff (byte : UInt8) : byte &&& 0x80 = 0 ↔ byte.toNat < 0x80 := by
  rw [← UInt8.toNat_inj, UInt8.toNat_and, UInt8.toNat_zero,
    show (0x80 : UInt8).toNat = 2 ^ 7 from rfl, Nat.and_two_pow]
  constructor
  · intro cleared
    by_contra high
    have set : byte.toNat.testBit 7 = true :=
      Nat.testBit_of_two_pow_le_and_two_pow_add_one_gt (by omega) byte.toNat_lt
    rw [set] at cleared
    simp at cleared
  · intro low
    rw [Nat.testBit_lt_two_pow low]
    simp

theorem toNat_continuation (value : Nat) :
    ((UInt8.ofNat value &&& 0x7f) ||| 0x80).toNat = value % 0x80 + 0x80 := by
  have low : (UInt8.ofNat value &&& 0x7f).toNat = value % 0x80 := by
    rw [toNat_and_0x7f, UInt8.toNat_ofNat', Nat.mod_mod_of_dvd _ (by norm_num)]
  rw [UInt8.toNat_or, low, show (0x80 : UInt8).toNat = 2 ^ 7 * 1 from rfl, Nat.or_comm,
    ← Nat.two_pow_add_eq_or_of_lt (Nat.mod_lt _ (by norm_num))]
  omega

theorem or_shiftLeft_eq_add {value digit shift bits : Nat} (below : value < 2 ^ shift)
    (fits : digit * 2 ^ shift < 2 ^ bits) :
    value ||| (digit <<< shift) % 2 ^ bits = value + digit * 2 ^ shift := by
  rw [Nat.shiftLeft_eq, Nat.mod_eq_of_lt fits, Nat.or_comm, Nat.mul_comm,
    ← Nat.two_pow_add_eq_or_of_lt below]
  omega

theorem lt_two_pow_sub_of_fits {digit shift bits : Nat} (fits : digit * 2 ^ shift < 2 ^ bits) :
    digit < 2 ^ (bits - shift) := by
  by_cases within : shift ≤ bits
  · rw [← Nat.pow_sub_mul_pow 2 within] at fits
    exact Nat.lt_of_mul_lt_mul_right fits
  · have beyond : 2 ^ bits < 2 ^ shift := Nat.pow_lt_pow_right (by norm_num) (by omega)
    rw [Nat.sub_eq_zero_of_le (by omega), pow_zero]
    by_contra nonzero
    have : 2 ^ shift ≤ digit * 2 ^ shift := Nat.le_mul_of_pos_left _ (by omega)
    omega

theorem fits_of_lt_two_pow_sub {digit shift bits : Nat} (within : shift ≤ bits)
    (small : digit < 2 ^ (bits - shift)) : digit * 2 ^ shift < 2 ^ bits := by
  rw [← Nat.pow_sub_mul_pow 2 within]
  exact Nat.mul_lt_mul_of_pos_right small (by positivity)

/-! ### The encoding -/

theorem writeVarint_of_lt {value : Nat} (small : value < 0x80) :
    writeVarint value = [UInt8.ofNat value] := by
  rw [writeVarint, if_neg (by omega)]

theorem writeVarint_continuation {byte : UInt8} {high : Nat} (flagged : 0x80 ≤ byte.toNat)
    (nonzero : high ≠ 0) :
    writeVarint (byte.toNat % 0x80 + 0x80 * high) = byte :: writeVarint high := by
  rw [writeVarint, if_pos (by omega)]
  have sameByte : (UInt8.ofNat (byte.toNat % 0x80 + 0x80 * high) &&& 0x7f) ||| 0x80 = byte := by
    rw [← UInt8.toNat_inj, toNat_continuation]
    have := byte.toNat_lt
    omega
  rw [sameByte, show (byte.toNat % 0x80 + 0x80 * high) / 0x80 = high by omega]

theorem writeVarint_ne_nil (value : Nat) : writeVarint value ≠ [] := by
  rw [writeVarint]
  split <;> simp

theorem length_writeVarint_le (count : Nat) :
    ∀ {value : Nat}, value < 2 ^ (7 * (count + 1)) → (writeVarint value).length ≤ count + 1 := by
  induction count with
  | zero =>
      intro value small
      rw [writeVarint, if_neg (by omega)]
      rfl
  | succ count ih =>
      intro value small
      rw [writeVarint]
      split
      · have higher : value / 0x80 < 2 ^ (7 * (count + 1)) := by
          rw [Nat.div_lt_iff_lt_mul (by norm_num)]
          calc value < 2 ^ (7 * (count + 1 + 1)) := small
            _ = 2 ^ (7 * (count + 1)) * 0x80 := by rw [Nat.mul_succ, pow_add]; rfl
        rw [List.length_cons]
        have := ih higher
        omega
      · simp

end Antd.Common

namespace Antd.Tools

open Antd.Common (writeVarint toNat_and_0x7f and_0x80_eq_zero_iff toNat_continuation
  or_shiftLeft_eq_add lt_two_pow_sub_of_fits fits_of_lt_two_pow_sub writeVarint_of_lt
  writeVarint_continuation)

def evarintOverflow : Int := -1

def evarintRepresent : Int := -2

/-- The loop of `tools::read_varint<bits>` from bit `shift`, with `read` bytes
read and the bits read so far in `write`. It gives what the function returns
(the bytes read, or an error code), the integer left in `write`, and the input
past the bytes read (`first` is advanced in place). -/
def readVarintLoop (bits shift read write : Nat) : List UInt8 → Int × Nat × List UInt8
  | [] => (read, write, [])
  | byte :: rest =>
      let read := read + 1
      if shift + 7 ≥ bits ∧ byte.toNat ≥ 2 ^ (bits - shift) then (evarintOverflow, write, rest)
      else if byte = 0 ∧ shift ≠ 0 then (evarintRepresent, write, rest)
      else
        let write := write ||| ((byte &&& 0x7f).toNat <<< shift) % 2 ^ bits
        if byte &&& 0x80 = 0 then (read, write, rest)
        else readVarintLoop bits (shift + 7) read write rest

def readVarint (bits : Nat) (input : List UInt8) : Int × Nat × List UInt8 :=
  readVarintLoop bits 0 0 0 input

variable {bits : Nat}

/-! ### Round trip -/

theorem readVarintLoop_last {high shift read write : Nat} (rest : List UInt8)
    (small : high < 0x80) (below : write < 2 ^ shift) (fits : high * 2 ^ shift < 2 ^ bits)
    (nonzero : shift ≠ 0 → high ≠ 0) :
    readVarintLoop bits shift read write (UInt8.ofNat high :: rest) =
      (↑(read + 1), write + high * 2 ^ shift, rest) := by
  have byteNat : (UInt8.ofNat high).toNat = high := by
    rw [UInt8.toNat_ofNat']
    omega
  have noOverflow : ¬(shift + 7 ≥ bits ∧ (UInt8.ofNat high).toNat ≥ 2 ^ (bits - shift)) := by
    rw [byteNat]
    exact fun ⟨_, overflow⟩ => Nat.not_le.mpr (lt_two_pow_sub_of_fits fits) overflow
  have noRepresent : ¬(UInt8.ofNat high = 0 ∧ shift ≠ 0) := by
    rintro ⟨zero, shifted⟩
    have : (UInt8.ofNat high).toNat = 0 := by rw [zero]; rfl
    exact nonzero shifted (by omega)
  have last : UInt8.ofNat high &&& 0x80 = 0 := by
    rw [and_0x80_eq_zero_iff, byteNat]
    exact small
  rw [readVarintLoop, if_neg noOverflow, if_neg noRepresent]
  simp only [last, if_true, toNat_and_0x7f, byteNat, Nat.mod_eq_of_lt small]
  rw [or_shiftLeft_eq_add below fits]

theorem readVarintLoop_continuation {high shift read write : Nat} (rest : List UInt8)
    (more : 0x80 ≤ high) (below : write < 2 ^ shift) (fits : high * 2 ^ shift < 2 ^ bits) :
    readVarintLoop bits shift read write (((UInt8.ofNat high &&& 0x7f) ||| 0x80) :: rest) =
      readVarintLoop bits (shift + 7) (read + 1) (write + high % 0x80 * 2 ^ shift) rest := by
  set byte := (UInt8.ofNat high &&& 0x7f) ||| 0x80
  have byteNat : byte.toNat = high % 0x80 + 0x80 := toNat_continuation high
  have wide : shift + 7 < bits := by
    have higher : 2 ^ (shift + 7) ≤ high * 2 ^ shift := by
      rw [pow_add, Nat.mul_comm]
      exact Nat.mul_le_mul_right _ more
    exact (Nat.pow_lt_pow_iff_right (by norm_num)).mp (show 2 ^ (shift + 7) < 2 ^ bits by omega)
  have noOverflow : ¬(shift + 7 ≥ bits ∧ byte.toNat ≥ 2 ^ (bits - shift)) :=
    fun ⟨top, _⟩ => by omega
  have noRepresent : ¬(byte = 0 ∧ shift ≠ 0) := by
    rintro ⟨zero, -⟩
    rw [zero] at byteNat
    exact absurd byteNat (by simp)
  have continued : ¬byte &&& 0x80 = 0 := by
    rw [and_0x80_eq_zero_iff, byteNat]
    omega
  have lowDigit : (byte &&& 0x7f).toNat = high % 0x80 := by
    rw [toNat_and_0x7f, byteNat]
    omega
  have lowFits : high % 0x80 * 2 ^ shift < 2 ^ bits :=
    lt_of_le_of_lt (Nat.mul_le_mul_right _ (Nat.mod_le _ _)) fits
  rw [readVarintLoop, if_neg noOverflow, if_neg noRepresent]
  simp only [continued, if_false, lowDigit]
  rw [or_shiftLeft_eq_add below lowFits]

theorem readVarintLoop_writeVarint (high : Nat) :
    ∀ {shift read write : Nat} (rest : List UInt8), write < 2 ^ shift →
      high * 2 ^ shift < 2 ^ bits → (shift ≠ 0 → high ≠ 0) →
      readVarintLoop bits shift read write (writeVarint high ++ rest) =
        (↑(read + (writeVarint high).length), write + high * 2 ^ shift, rest) := by
  induction high using Nat.strong_induction_on with
  | _ high ih =>
    intro shift read write rest below fits nonzero
    rw [writeVarint]
    split
    · rename_i more
      have nextPower : 2 ^ (shift + 7) = 0x80 * 2 ^ shift := by
        rw [pow_add, Nat.mul_comm]
        rfl
      have whole : high % 0x80 * 2 ^ shift + high / 0x80 * 2 ^ (shift + 7) = high * 2 ^ shift := by
        rw [nextPower, ← Nat.mul_assoc, ← Nat.add_mul, Nat.mul_comm (high / 0x80), Nat.mod_add_div]
      have lowBound : high % 0x80 * 2 ^ shift ≤ 0x7f * 2 ^ shift :=
        Nat.mul_le_mul_right _ (by omega)
      have accBound : write + high % 0x80 * 2 ^ shift < 2 ^ (shift + 7) := by
        rw [nextPower]
        omega
      rw [List.cons_append, readVarintLoop_continuation _ more below fits,
        ih (high / 0x80) (by omega) rest accBound (by omega) (fun _ => by omega),
        List.length_cons]
      congr 2
      · omega
      · omega
    · rename_i small
      exact readVarintLoop_last rest (by omega) below fits nonzero

theorem readVarint_writeVarint {value : Nat} (rest : List UInt8) (fits : value < 2 ^ bits) :
    readVarint bits (writeVarint value ++ rest) = (((writeVarint value).length : Int), value, rest) := by
  rw [readVarint, readVarintLoop_writeVarint value rest (by norm_num) (by simpa using fits)
    (fun shifted => absurd rfl shifted)]
  simp

/-! ### What a positive read consumed -/

theorem readVarintLoop_sound :
    ∀ {input : List UInt8} {shift read write : Nat} {status : Int} {value : Nat}
      {rest : List UInt8},
      readVarintLoop bits shift read write input = (status, value, rest) → 0 < status →
      write < 2 ^ shift → shift ≤ bits →
      ∃ high, value = write + high * 2 ^ shift ∧
        ((input = writeVarint high ++ rest ∧ status = ↑(read + (writeVarint high).length) ∧
            (shift ≠ 0 → high ≠ 0)) ∨
          (rest = [] ∧ status = ↑(read + input.length) ∧ ∀ byte ∈ input, byte &&& 0x80 ≠ 0))
  | [], shift, read, write, status, value, rest, ran, _, _, _ => by
      simp only [readVarintLoop, Prod.mk.injEq] at ran
      obtain ⟨rfl, rfl, rfl⟩ := ran
      exact ⟨0, by simp, Or.inr ⟨rfl, by simp, by simp⟩⟩
  | byte :: input, shift, read, write, status, value, rest, ran, positive, below, within => by
      rw [readVarintLoop] at ran
      dsimp only at ran
      split at ran
      · simp only [Prod.mk.injEq] at ran
        rw [← ran.1] at positive
        exact absurd positive (by decide)
      rename_i noOverflow
      split at ran
      · simp only [Prod.mk.injEq] at ran
        rw [← ran.1] at positive
        exact absurd positive (by decide)
      rename_i noRepresent
      rw [toNat_and_0x7f] at ran
      split at ran
      · rename_i last
        rw [and_0x80_eq_zero_iff] at last
        have fits : byte.toNat % 0x80 * 2 ^ shift < 2 ^ bits := by
          rw [Nat.mod_eq_of_lt last]
          by_cases top : shift + 7 ≥ bits
          · exact fits_of_lt_two_pow_sub within (by omega)
          · calc byte.toNat * 2 ^ shift < 0x80 * 2 ^ shift :=
                  Nat.mul_lt_mul_of_pos_right last (by positivity)
              _ = 2 ^ (shift + 7) := by rw [pow_add, Nat.mul_comm]; rfl
              _ ≤ 2 ^ bits := Nat.pow_le_pow_right (by norm_num) (by omega)
        simp only [Prod.mk.injEq] at ran
        obtain ⟨rfl, rfl, rfl⟩ := ran
        refine ⟨byte.toNat, ?_, Or.inl ⟨?_, ?_, ?_⟩⟩
        · rw [or_shiftLeft_eq_add below fits, Nat.mod_eq_of_lt last]
        · rw [writeVarint_of_lt last, UInt8.ofNat_toNat, List.singleton_append]
        · rw [writeVarint_of_lt last]
          rfl
        · intro shifted zero
          exact noRepresent ⟨UInt8.toNat_inj.mp zero, shifted⟩
      · rename_i continued
        rw [and_0x80_eq_zero_iff, Nat.not_lt] at continued
        have wide : shift + 7 < bits := by
          by_contra top
          have small : 2 ^ (bits - shift) ≤ 2 ^ 7 := Nat.pow_le_pow_right (by norm_num) (by omega)
          exact noOverflow ⟨by omega, by omega⟩
        have lowFits : byte.toNat % 0x80 * 2 ^ shift < 2 ^ (shift + 7) := by
          rw [pow_add, Nat.mul_comm (2 ^ shift)]
          exact Nat.mul_lt_mul_of_pos_right (Nat.mod_lt _ (by norm_num)) (by positivity)
        have fits : byte.toNat % 0x80 * 2 ^ shift < 2 ^ bits :=
          lt_of_lt_of_le lowFits (Nat.pow_le_pow_right (by norm_num) (by omega))
        rw [or_shiftLeft_eq_add below fits] at ran
        have accBound : write + byte.toNat % 0x80 * 2 ^ shift < 2 ^ (shift + 7) := by
          have : byte.toNat % 0x80 * 2 ^ shift + 2 ^ shift ≤ 2 ^ (shift + 7) := by
            rw [pow_add, Nat.mul_comm (2 ^ shift), ← Nat.succ_mul]
            exact Nat.mul_le_mul_right _ (Nat.mod_lt _ (by norm_num))
          omega
        obtain ⟨high, valueEq, read⟩ := readVarintLoop_sound ran positive accBound (by omega)
        have nextPower : 2 ^ (shift + 7) = 0x80 * 2 ^ shift := by
          rw [pow_add, Nat.mul_comm]
          rfl
        refine ⟨byte.toNat % 0x80 + 0x80 * high, ?_, ?_⟩
        · rw [valueEq, nextPower]
          ring
        rcases read with ⟨canonical, counted, nonzero⟩ | ⟨ended, counted, flagged⟩
        · have highNonzero := nonzero (by omega)
          refine Or.inl ⟨?_, ?_, fun _ => by omega⟩
          · rw [writeVarint_continuation continued highNonzero, canonical, List.cons_append]
          · rw [counted, writeVarint_continuation continued highNonzero, List.length_cons]
            congr 1
            omega
        · refine Or.inr ⟨ended, ?_, ?_⟩
          · rw [counted, List.length_cons]
            congr 1
            omega
          · intro other member
            rcases List.mem_cons.mp member with rfl | later
            · rw [Ne, and_0x80_eq_zero_iff]
              omega
            · exact flagged other later

theorem readVarintLoop_lt {shift read write : Nat} (below : write < 2 ^ bits) :
    ∀ input, (readVarintLoop bits shift read write input).2.1 < 2 ^ bits := by
  intro input
  induction input generalizing shift read write with
  | nil => exact below
  | cons byte rest ih =>
      have added : write ||| ((byte &&& 0x7f).toNat <<< shift) % 2 ^ bits < 2 ^ bits :=
        Nat.or_lt_two_pow below (Nat.mod_lt _ (by positivity))
      rw [readVarintLoop]
      dsimp only
      split
      · exact below
      · split
        · exact below
        · split
          · exact added
          · exact ih added

theorem readVarint_sound {input rest : List UInt8} {status : Int} {value : Nat}
    (ran : readVarint bits input = (status, value, rest)) (positive : 0 < status) :
    (input = writeVarint value ++ rest ∧ status = (writeVarint value).length) ∨
      (rest = [] ∧ status = input.length ∧ ∀ byte ∈ input, byte &&& 0x80 ≠ 0) := by
  obtain ⟨high, valueEq, read⟩ := readVarintLoop_sound ran positive (by norm_num) (Nat.zero_le _)
  rw [pow_zero, Nat.mul_one, Nat.zero_add] at valueEq
  subst valueEq
  rcases read with ⟨canonical, counted, -⟩ | ⟨ended, counted, flagged⟩
  · exact Or.inl ⟨canonical, by rw [counted, Nat.zero_add]⟩
  · exact Or.inr ⟨ended, by rw [counted, Nat.zero_add], flagged⟩

/-- The first byte of the encoding of a value of two bytes or more reads as a
whole number: `read_varint` returns 1 for it and stores its low seven bits,
which is not what the byte encodes. -/
theorem first_byte_read_as_whole_varint (width value : Nat) (wide : 8 ≤ width)
    (more : 0x80 ≤ value) :
    readVarint width ((writeVarint value).take 1) = (1, value % 0x80, []) ∧
      (writeVarint value).take 1 ≠ writeVarint (value % 0x80) := by
  set byte := (UInt8.ofNat value &&& 0x7f) ||| 0x80
  have byteNat : byte.toNat = value % 0x80 + 0x80 := toNat_continuation value
  have firstByte : (writeVarint value).take 1 = [byte] := by
    rw [writeVarint, if_pos more, List.take_succ_cons, List.take_zero]
  have noOverflow : ¬(0 + 7 ≥ width ∧ byte.toNat ≥ 2 ^ (width - 0)) := fun ⟨top, _⟩ => by omega
  have noRepresent : ¬(byte = 0 ∧ 0 ≠ 0) := fun ⟨_, shifted⟩ => shifted rfl
  have continued : ¬byte &&& 0x80 = 0 := by
    rw [and_0x80_eq_zero_iff, byteNat]
    omega
  have lowBits : 0 ||| ((byte &&& 0x7f).toNat <<< 0) % 2 ^ width = value % 0x80 := by
    rw [toNat_and_0x7f, byteNat, Nat.shiftLeft_zero, Nat.zero_or,
      show (value % 0x80 + 0x80) % 0x80 = value % 0x80 by omega]
    have wordBig : 2 ^ 8 ≤ 2 ^ width := Nat.pow_le_pow_right (by norm_num) wide
    exact Nat.mod_eq_of_lt (by omega)
  rw [firstByte, writeVarint_of_lt (Nat.mod_lt _ (by norm_num))]
  refine ⟨?_, fun same => ?_⟩
  · rw [readVarint, readVarintLoop, if_neg noOverflow, if_neg noRepresent]
    simp only [continued, if_false, lowBits]
    rfl
  · have sameNat := congrArg UInt8.toNat (List.head_eq_of_cons_eq same)
    rw [byteNat, UInt8.toNat_ofNat'] at sameNat
    omega

theorem lone_0x80_read_as_zero :
    readVarint 64 [0x80] = (1, 0, []) ∧ [(0x80 : UInt8)] ≠ writeVarint 0 := by
  have firstByte : (writeVarint 0x80).take 1 = [0x80] := by
    rw [writeVarint, if_pos le_rfl, List.take_succ_cons, List.take_zero]
    rfl
  have whole := first_byte_read_as_whole_varint 64 0x80 (by norm_num) le_rfl
  rwa [firstByte] at whole

/-- `read_varint` at any width takes back what `write_varint` writes of any
value of the word, and a read that returns a positive count read either the
canonical encoding of what it stored, or continuation bytes up to the end of
the input. -/
theorem readVarint_canonical_or_truncated (width : Nat) :
    (∀ value rest, value < 2 ^ width →
      readVarint width (writeVarint value ++ rest) =
        (((writeVarint value).length : Int), value, rest)) ∧
    ∀ input status value rest, readVarint width input = (status, value, rest) → 0 < status →
      (input = writeVarint value ++ rest ∧ status = (writeVarint value).length) ∨
        (rest = [] ∧ status = input.length ∧ ∀ byte ∈ input, byte &&& 0x80 ≠ 0) :=
  ⟨fun _ rest fits => readVarint_writeVarint rest fits,
    fun _ _ _ _ ran positive => readVarint_sound ran positive⟩

theorem varint_of_128_and_lone_0x80 :
    readVarint 64 (writeVarint 128 ++ [7]) = (((writeVarint 128).length : Int), 128, [7]) ∧
      (([0x80] = writeVarint 0 ++ [] ∧ (1 : Int) = (writeVarint 0).length) ∨
        (([] : List UInt8) = [] ∧ (1 : Int) = [(0x80 : UInt8)].length ∧
          ∀ byte ∈ [(0x80 : UInt8)], byte &&& 0x80 ≠ 0)) :=
  ⟨(readVarint_canonical_or_truncated 64).1 128 [7] (by norm_num),
    (readVarint_canonical_or_truncated 64).2 [0x80] 1 0 [] (by decide) (by norm_num)⟩

end Antd.Tools

namespace Antd.Common

open ByteReader

/-! ### The archive's reader -/

theorem readVarintFrom_eq_readVarintLoop (shift value read : Nat) (input : List UInt8) :
    readVarintFrom shift value input =
      ((Tools.readVarintLoop 64 shift read value input).2.1,
        (Tools.readVarintLoop 64 shift read value input).2.2) := by
  induction input generalizing shift value read with
  | nil => rfl
  | cons byte rest ih =>
      rw [readVarintFrom, Tools.readVarintLoop]
      dsimp only
      split
      · rfl
      · split
        · rfl
        · split
          · rfl
          · exact ih _ _ _

theorem reads_readVarint {value : Nat} (fits : value < 2 ^ 64) :
    Reads readVarint value (writeVarint value) := by
  intro rest
  rw [readVarint, readVarintFrom_eq_readVarintLoop 0 0 0,
    Tools.readVarintLoop_writeVarint value rest (by norm_num) (by simpa using fits)
      (fun shifted => absurd rfl shifted)]
  simp

/-! ### What a read can return -/

theorem readVarintFrom_lt {shift value : Nat} (below : value < 2 ^ 64) (input : List UInt8) :
    (readVarintFrom shift value input).1 < 2 ^ 64 := by
  rw [readVarintFrom_eq_readVarintLoop shift value 0]
  exact Tools.readVarintLoop_lt below input

theorem readVarintFrom_suffix (shift value : Nat) :
    ∀ input, (readVarintFrom shift value input).2 <:+ input := by
  intro input
  induction input generalizing shift value with
  | nil => exact List.suffix_refl _
  | cons byte rest ih =>
      have dropped : rest <:+ byte :: rest := List.suffix_cons _ _
      rw [readVarintFrom]
      split
      · exact dropped
      · split
        · exact dropped
        · dsimp only
          split
          · exact dropped
          · exact (ih _ _).trans dropped

theorem suffixing_readVarint : Suffixing readVarint := by
  intro input value rest read
  simp only [readVarint, Option.some.injEq] at read
  have suffix := readVarintFrom_suffix 0 0 input
  rwa [read] at suffix

theorem yields_readVarint : Yields readVarint (· < 2 ^ 64) := by
  intro input value rest read
  simp only [readVarint, Option.some.injEq] at read
  have bound := @readVarintFrom_lt 0 0 (by norm_num) input
  rwa [read] at bound

end Antd.Common
