import Antd.Lib.LittleEndian
import Antd.Lib.StateAdvance

/-! The binary reader of epee's portable storage
(`portable_storage_from_bin.h`), the `load_from_binary` that runs it on a
received blob (`portable_storage.h`), and the varint of its writer
(`portable_storage_to_bin.h`).

Every member function of the reader opens a `RECURSION_LIMITATION` frame, and
a frame opened while 99 are open throws. The model passes each function the
number of frames it may still open, so that the recursion is structural, and
keeps the reader's state (the bytes left and the `reserve` calls made so far)
on a throw as on a return: what `read_ae` reserved before a throw is
allocated all the same. -/

namespace Antd.Epee

open LittleEndian StateAdvance

def portableStorageSignaturea : Nat := 0x01011101

def portableStorageSignatureb : Nat := 0x01020101

def portableStorageFormatVer : Nat := 1

/-- `sizeof(storage_block_header)`, a packed struct of two `uint32_t` and a `uint8_t`. -/
def storageBlockHeaderSize : Nat := 9

def recursionLimit : Nat := 100

def maxStringLenPossible : Nat := 2000000000

def portableRawSizeMarkMask : UInt8 := 0x03

def serializeFlagArray : UInt8 := 0x80

def serializeTypeUint64 : UInt8 := 5
def serializeTypeString : UInt8 := 10
def serializeTypeBool : UInt8 := 11
def serializeTypeObject : UInt8 := 12
def serializeTypeArray : UInt8 := 13

/-- The size of the scalar type with code `type`: `SERIALIZE_TYPE_INT64` to
`SERIALIZE_TYPE_DUOBLE` and `SERIALIZE_TYPE_BOOL`. -/
def podSize (type : UInt8) : Option Nat :=
  match type.toNat with
  | 1 => some 8 | 2 => some 4 | 3 => some 2 | 4 => some 1
  | 5 => some 8 | 6 => some 4 | 7 => some 2 | 8 => some 1
  | 9 => some 8 | 11 => some 1
  | _ => none

/-- The codes of the `switch` of `load_storage_entry`, `SERIALIZE_TYPE_INT64`
to `SERIALIZE_TYPE_ARRAY`. -/
def knownType (type : UInt8) : Bool :=
  1 ≤ type.toNat && type.toNat ≤ 13

/-- `storage_entry`: a scalar with its type code and its bytes, a string, a
section, or an array with the type code of its elements. -/
inductive StorageEntry where
  | pod (type : UInt8) (bytes : List UInt8)
  | string (bytes : List UInt8)
  | section (entries : List (List UInt8 × StorageEntry))
  | array (type : UInt8) (elements : List StorageEntry)

/-- `section`: its `std::map` from names to entries, as the list of the
entries in the order they were inserted. The map keeps them sorted by name,
so where the code iterates in name order the model goes in insertion order. -/
abbrev Section := List (List UInt8 × StorageEntry)

def insertEntry (entries : Section) (entry : List UInt8 × StorageEntry) : Section :=
  if entries.any (·.1 == entry.1) then entries else entries ++ [entry]

/-- The exceptions the reader throws, with the values their messages print. -/
inductive ReadError where
  /-- "recursion limitation (100) exceeded". -/
  | recursionLimitation
  /-- " attempt to read count bytes from buffer with m_count bytes remained". -/
  | bufferUnderrun (count remained : Nat)
  /-- "empty buff, expected place for varint". -/
  | emptyBuffer
  /-- "unknown varint size_mask = ". -/
  | unknownSizeMask (mask : Nat)
  /-- "wrong type sequenses". -/
  | wrongTypeSequence
  /-- "unknown entry_type code = ". -/
  | unknownEntryType (type : UInt8)
  /-- "to big string len value in storage: ". -/
  | stringTooBig (len : Nat)
  /-- "string len count value len goes out of remain storage len m_count". -/
  | stringOutOfStorage (len remained : Nat)
  /-- "Reading array entry is not supported". -/
  | arrayEntryNotSupported

/-- A `reserve` of `read_ae`: the element type, the count it reserves, and the
bytes left in the buffer after the count. -/
structure Reservation where
  type : UInt8
  elements : Nat
  bytesLeft : Nat
  deriving DecidableEq

/-- `throwable_buffer_reader`: the bytes from `m_ptr` on (`m_count` of them),
and the reservations made so far. -/
structure ReaderState where
  input : List UInt8
  reservations : List Reservation

abbrev Parse (α : Type) := EStateM ReadError ReaderState α

/-! ### The reader

Each function takes the frames it may still open: with none left it throws,
and it calls the functions below it with one frame fewer. -/

def readBuffer : Nat → Nat → Parse (List UInt8)
  | 0, _ => throw .recursionLimitation
  | _ + 1, count => do
      let state ← get
      if count ≤ state.input.length then
        set { state with input := state.input.drop count }
        pure (state.input.take count)
      else throw (.bufferUnderrun count state.input.length)

def readPod : Nat → Nat → Parse (List UInt8)
  | 0, _ => throw .recursionLimitation
  | budget + 1, size => readBuffer budget size

def readScalar : Nat → Nat → Parse (List UInt8)
  | 0, _ => throw .recursionLimitation
  | budget + 1, size => readPod budget size

/-- `read_varint`: the two low bits of the first byte give the width, and the
value is the little-endian word of that width shifted right by two. -/
def readVarint : Nat → Parse Nat
  | 0 => throw .recursionLimitation
  | budget + 1 => do
      let state ← get
      match state.input with
      | [] => throw .emptyBuffer
      | first :: _ =>
          let v ← match (first &&& portableRawSizeMarkMask).toNat with
            | 0 => readScalar budget 1
            | 1 => readScalar budget 2
            | 2 => readScalar budget 4
            | 3 => readScalar budget 8
            | mask => throw (.unknownSizeMask mask)
          pure (ofBytes v >>> 2)

def readSecName : Nat → Parse (List UInt8)
  | 0 => throw .recursionLimitation
  | budget + 1 => do
      let nameLen ← readPod budget 1
      readBuffer budget (ofBytes nameLen)

def readString : Nat → Parse (List UInt8)
  | 0 => throw .recursionLimitation
  | budget + 1 => do
      let len ← readVarint budget
      unless len < maxStringLenPossible do throw (.stringTooBig len)
      let state ← get
      unless len ≤ state.input.length do
        throw (.stringOutOfStorage len state.input.length)
      set { state with input := state.input.drop len }
      pure (state.input.take len)

def readArrayEntry : Nat → Parse StorageEntry
  | 0 => throw .recursionLimitation
  | _ + 1 => throw .arrayEntryNotSupported

/-- `array_entry_t::reserve`: a `std::vector` reserves, the `std::deque` of
`bool` does not. -/
def reserve (type : UInt8) (size : Nat) : Parse Unit :=
  modify fun state =>
    if type = serializeTypeBool then state
    else { state with
      reservations := state.reservations ++ [⟨type, size, state.input.length⟩] }

mutual

def readSection : Nat → Parse Section
  | 0 => throw .recursionLimitation
  | budget + 1 => do
      let count ← readVarint budget
      let entries ← repeatM (do
          let secName ← readSecName budget
          let entry ← loadStorageEntry budget
          pure (secName, entry)) count
      pure (entries.foldl insertEntry [])

def loadStorageEntry : Nat → Parse StorageEntry
  | 0 => throw .recursionLimitation
  | budget + 1 => do
      let entType ← readPod budget 1
      let entType := entType.headD 0
      if entType &&& serializeFlagArray ≠ 0 then loadStorageArrayEntry budget entType
      else if knownType entType then readSe budget entType
      else throw (.unknownEntryType entType)

def readSe : Nat → UInt8 → Parse StorageEntry
  | 0, _ => throw .recursionLimitation
  | budget + 1, type =>
      if type = serializeTypeString then readValue budget type
      else if type = serializeTypeObject then .section <$> readSection budget
      else if type = serializeTypeArray then do
        let entType ← readPod budget 1
        let entType := entType.headD 0
        if entType &&& serializeFlagArray = 0 then throw .wrongTypeSequence
        else loadStorageArrayEntry budget entType
      else .pod type <$> readPod budget ((podSize type).getD 0)

/-- `load_storage_array_entry`: the type without its array flag selects the
`read_ae`. -/
def loadStorageArrayEntry : Nat → UInt8 → Parse StorageEntry
  | 0, _ => throw .recursionLimitation
  | budget + 1, type =>
      let type := type &&& ~~~serializeFlagArray
      if knownType type then readAe budget type
      else throw (.unknownEntryType type)

def readAe : Nat → UInt8 → Parse StorageEntry
  | 0, _ => throw .recursionLimitation
  | budget + 1, type => do
      let size ← readVarint budget
      reserve type size
      let elements ← repeatM (readValue budget type) size
      pure (.array type elements)

def readValue : Nat → UInt8 → Parse StorageEntry
  | 0, _ => throw .recursionLimitation
  | budget + 1, type =>
      if type = serializeTypeString then .string <$> readString budget
      else if type = serializeTypeObject then .section <$> readSection budget
      else if type = serializeTypeArray then readArrayEntry budget
      else .pod type <$> readPod budget ((podSize type).getD 0)

end

/-- `portable_storage::load_from_binary`: the root section, or none where the
code returns false, with the reservations the reader made on the way. -/
def loadFromBinary (source : List UInt8) : Option Section × List Reservation :=
  if source.length < storageBlockHeaderSize then (none, [])
  else if ofBytes (source.take 4) ≠ portableStorageSignaturea ∨
      ofBytes ((source.drop 4).take 4) ≠ portableStorageSignatureb then (none, [])
  else if (source.getD 8 0).toNat ≠ portableStorageFormatVer then (none, [])
  else
    let body := source.drop storageBlockHeaderSize
    if body = [] then (none, [])
    else
      match readSection (recursionLimit - 1) ⟨body, []⟩ with
      | .ok root state => (some root, state.reservations)
      | .error _ state => (none, state.reservations)

/-! ### The writer's varint -/

/-- `pack_varint`: the value shifted left by two with the width mark in the
low bits, in 1, 2, 4 or 8 little-endian bytes; none past `2 ^ 62 - 1`, where
the writer throws. -/
def packVarint (val : Nat) : Option (List UInt8) :=
  if val ≤ 63 then some (toBytes 1 (val <<< 2 ||| 0))
  else if val ≤ 16383 then some (toBytes 2 (val <<< 2 ||| 1))
  else if val ≤ 1073741823 then some (toBytes 4 (val <<< 2 ||| 2))
  else if val ≤ 4611686018427387903 then some (toBytes 8 (val <<< 2 ||| 3))
  else none

/-- What `store_to_binary` writes before the root section: the two
signatures and the format version. -/
def storageBlockHeader : List UInt8 :=
  toBytes 4 portableStorageSignaturea ++ toBytes 4 portableStorageSignatureb ++
    [portableStorageFormatVer.toUInt8]

/-! ### Reading a buffer -/

theorem readBuffer_apply (budget count : Nat) (state : ReaderState) :
    readBuffer (budget + 1) count state =
      if count ≤ state.input.length then
        .ok (state.input.take count) { state with input := state.input.drop count }
      else .error (.bufferUnderrun count state.input.length) state := by
  simp only [readBuffer, bind_apply, get_apply]
  split <;> rfl

/-! ### What `read_ae` reserves

A count read from the blob is reserved before any element is read, and
nothing compares it with the bytes left. -/

theorem storageBlockHeader_eq :
    storageBlockHeader = [0x01, 0x11, 0x01, 0x01, 0x01, 0x01, 0x02, 0x01, 0x01] := by decide

theorem loadFromBinary_header {body : List UInt8} (nonempty : body ≠ []) :
    loadFromBinary (storageBlockHeader ++ body) =
      match readSection (recursionLimit - 1) ⟨body, []⟩ with
      | .ok root state => (some root, state.reservations)
      | .error _ state => (none, state.reservations) := by
  have dropHeader : (storageBlockHeader ++ body).drop storageBlockHeaderSize = body :=
    List.drop_left' (by decide)
  unfold loadFromBinary
  rw [if_neg (by simp [storageBlockHeaderSize, storageBlockHeader_eq]),
    if_neg (by simp [storageBlockHeader_eq, ofBytes, portableStorageSignaturea,
      portableStorageSignatureb]),
    if_neg (by simp [storageBlockHeader_eq, portableStorageFormatVer]), dropHeader,
    if_neg nonempty]

theorem reservations_loadFromBinary {body : List UInt8} (nonempty : body ≠ []) :
    (loadFromBinary (storageBlockHeader ++ body)).2 =
      (final (readSection (recursionLimit - 1) ⟨body, []⟩)).reservations := by
  rw [loadFromBinary_header nonempty]
  split
  · next ran => rw [ran]; rfl
  · next ran => rw [ran]; rfl

theorem readPod_append (budget : Nat) (bytes rest : List UInt8)
    (reservations : List Reservation) :
    readPod (budget + 2) bytes.length ⟨bytes ++ rest, reservations⟩ =
      .ok bytes ⟨rest, reservations⟩ := by
  rw [readPod, readBuffer_apply, if_pos (by simp)]
  simp

theorem readPod_byte (budget : Nat) (byte : UInt8) (rest : List UInt8)
    (reservations : List Reservation) :
    readPod (budget + 2) 1 ⟨byte :: rest, reservations⟩ = .ok [byte] ⟨rest, reservations⟩ :=
  readPod_append budget [byte] rest reservations

theorem toNat_and_mask (x : Nat) :
    (UInt8.ofNat x &&& portableRawSizeMarkMask).toNat = x % 4 := by
  rw [UInt8.toNat_and, UInt8.toNat_ofNat']
  show x % 2 ^ 8 &&& 3 = x % 4
  rw [show (3 : Nat) = 2 ^ 2 - 1 from rfl, Nat.and_two_pow_sub_one_eq_mod,
    Nat.mod_mod_of_dvd _ (by norm_num)]

theorem readVarint_toBytes (budget : Nat) {width : Nat} (x : Nat) (rest : List UInt8)
    (reservations : List Reservation)
    (mark : x % 4 = 0 ∧ width = 1 ∨ x % 4 = 1 ∧ width = 2 ∨ x % 4 = 2 ∧ width = 4 ∨
      x % 4 = 3 ∧ width = 8) :
    readVarint (budget + 4) ⟨toBytes width x ++ rest, reservations⟩ =
      .ok ((x % 256 ^ width) >>> 2) ⟨rest, reservations⟩ := by
  have read := readPod_append budget (toBytes width x) rest reservations
  rw [length_toBytes, ← readScalar] at read
  obtain ⟨tail, split⟩ : ∃ tail, toBytes width x ++ rest = UInt8.ofNat x :: tail := by
    obtain ⟨w, rfl⟩ : ∃ w, width = w + 1 := ⟨width - 1, by omega⟩
    exact ⟨_, by rw [toBytes_succ, List.cons_append]⟩
  simp only [readVarint, bind_apply, get_apply]
  rw [split] at read ⊢
  dsimp only
  rw [toNat_and_mask]
  rcases mark with ⟨m, rfl⟩ | ⟨m, rfl⟩ | ⟨m, rfl⟩ | ⟨m, rfl⟩ <;>
    simp only [m, bind_apply, read, ofBytes_toBytes, pure_apply]

theorem shiftLeft_two_or {mark : Nat} (val : Nat) (small : mark < 4) :
    val <<< 2 ||| mark = val * 4 + mark := by
  rw [← Nat.shiftLeft_add_eq_or_of_lt (by simpa using small), Nat.shiftLeft_eq]

theorem readVarint_packVarint {val : Nat} {packed : List UInt8}
    (written : packVarint val = some packed) (budget : Nat) (rest : List UInt8)
    (reservations : List Reservation) :
    readVarint (budget + 4) ⟨packed ++ rest, reservations⟩ = .ok val ⟨rest, reservations⟩ := by
  have decoded : ∀ {mark width : Nat}, mark < 4 → val * 4 + mark < 256 ^ width →
      ((val * 4 + mark) % 256 ^ width) >>> 2 = val := by
    intro mark width small fits
    rw [Nat.mod_eq_of_lt fits, Nat.shiftRight_eq_div_pow]
    omega
  unfold packVarint at written
  split_ifs at written <;> cases written <;>
    rw [shiftLeft_two_or _ (by norm_num), readVarint_toBytes budget _ _ _ (by omega),
      decoded (by norm_num) (by omega)]

theorem packVarint_eq_some_of_lt {val : Nat} (small : val < 2 ^ 62) :
    ∃ packed, packVarint val = some packed := by
  unfold packVarint
  split_ifs <;> first | exact ⟨_, rfl⟩ | omega

theorem packVarint_ne_nil {val : Nat} {packed : List UInt8} (written : packVarint val = some packed) :
    packed ≠ [] := by
  unfold packVarint at written
  split_ifs at written <;> cases written <;>
    exact List.ne_nil_of_length_pos (by rw [length_toBytes]; decide)

/-- The writer packs exactly the values below `2 ^ 62`, and the reader reads
every packed value back from the front of any buffer. -/
theorem varint_round_trip (val : Nat) :
    (packVarint val).isSome = decide (val < 2 ^ 62) ∧
      ∀ packed, packVarint val = some packed →
        ∀ budget rest reservations,
          readVarint (budget + 4) ⟨packed ++ rest, reservations⟩ = .ok val ⟨rest, reservations⟩ := by
  refine ⟨?_, fun packed written => readVarint_packVarint written⟩
  unfold packVarint
  split_ifs <;> simp <;> omega

theorem readAe_reserves {size : Nat} {packed : List UInt8} (written : packVarint size = some packed)
    (budget : Nat) {type : UInt8} (notBool : type ≠ serializeTypeBool) (rest : List UInt8)
    (reservations : List Reservation) :
    readAe (budget + 5) type ⟨packed ++ rest, reservations⟩ =
      (repeatM (readValue (budget + 4) type) size >>= fun elements => pure (.array type elements))
        ⟨rest, reservations ++ [⟨type, size, rest.length⟩]⟩ := by
  have reserved : reserve type size ⟨rest, reservations⟩ =
      .ok () ⟨rest, reservations ++ [⟨type, size, rest.length⟩]⟩ := by
    simp [reserve, notBool]
  rw [readAe, bind_of_ok (readVarint_packVarint written budget rest reservations),
    bind_of_ok reserved]

theorem readSecName_empty (budget : Nat) (rest : List UInt8) (reservations : List Reservation) :
    readSecName (budget + 3) ⟨0 :: rest, reservations⟩ = .ok [] ⟨rest, reservations⟩ := by
  rw [readSecName, bind_of_ok (readPod_byte budget 0 rest reservations)]
  rw [readBuffer_apply, if_pos (by simp [ofBytes])]
  simp [ofBytes]

theorem loadStorageEntry_array (budget : Nat) {entType : UInt8} (rest : List UInt8)
    (reservations : List Reservation) (array : entType &&& serializeFlagArray ≠ 0)
    (known : knownType (entType &&& ~~~serializeFlagArray) = true) :
    loadStorageEntry (budget + 3) ⟨entType :: rest, reservations⟩ =
      readAe (budget + 1) (entType &&& ~~~serializeFlagArray) ⟨rest, reservations⟩ := by
  rw [loadStorageEntry, bind_of_ok (readPod_byte budget entType rest reservations)]
  split
  · rw [loadStorageArrayEntry, List.headD_cons, if_pos known]
  · next notArray => exact absurd array notArray

theorem readValue_empty (budget : Nat) {type : UInt8} (notString : type ≠ serializeTypeString)
    (notObject : type ≠ serializeTypeObject) (notArray : type ≠ serializeTypeArray)
    (positive : 0 < (podSize type).getD 0) (reservations : List Reservation) :
    readValue (budget + 3) type ⟨[], reservations⟩ =
      .error (.bufferUnderrun ((podSize type).getD 0) 0) ⟨[], reservations⟩ := by
  rw [readValue, if_neg notString, if_neg notObject, if_neg notArray, map_apply, readPod,
    readBuffer_apply, if_neg (by simp; omega)]
  rfl

/-- A blob of a header and one entry, an array of `uint64_t` whose count the
writer packs in at most four bytes and no elements, makes `read_ae` reserve
that count of elements with no bytes left after it: for every count below
`2 ^ 30`, so up to `8 * (2 ^ 30 - 1)` bytes for a blob of at most 16. -/
theorem loadFromBinary_reserves_unread_count (count : Nat) (small : count < 2 ^ 30) :
    ∃ packed, packVarint count = some packed ∧
      (storageBlockHeader ++ [0x04, 0x00, 0x85] ++ packed).length ≤ 16 ∧
      (loadFromBinary (storageBlockHeader ++ [0x04, 0x00, 0x85] ++ packed)).2 =
        [⟨serializeTypeUint64, count, 0⟩] := by
  obtain ⟨packed, written, short⟩ :
      ∃ packed, packVarint count = some packed ∧ packed.length ≤ 4 := by
    unfold packVarint
    split_ifs <;> first | omega | exact ⟨_, rfl, by simp⟩
  refine ⟨packed, written, by simp [storageBlockHeader_eq]; omega, ?_⟩
  rw [List.append_assoc, reservations_loadFromBinary (by simp)]
  have one : packVarint 1 = some [0x04] := by decide
  rw [show recursionLimit - 1 = 98 + 1 from rfl, readSection,
    show [0x04, 0x00, 0x85] ++ packed = [0x04] ++ 0x00 :: 0x85 :: packed from rfl,
    bind_of_ok (readVarint_packVarint one _ _ _), repeatM_succ, bind_apply, bind_apply,
    bind_of_ok (readSecName_empty _ _ _), bind_apply, loadStorageEntry_array _ _ _ (by decide) (by decide),
    show packed = packed ++ [] from (List.append_nil packed).symm,
    readAe_reserves written _ (by decide)]
  cases count with
  | zero => rfl
  | succ count =>
      rw [repeatM_succ, bind_apply, bind_apply, readValue_empty _ (by decide) (by decide) (by decide) (by decide)]
      rfl

theorem largest_dword_count_reserved :
    2 ^ 30 - 1 < 2 ^ 30 ∧
      ∃ packed, packVarint (2 ^ 30 - 1) = some packed ∧
        (storageBlockHeader ++ [0x04, 0x00, 0x85] ++ packed).length ≤ 16 ∧
        (loadFromBinary (storageBlockHeader ++ [0x04, 0x00, 0x85] ++ packed)).2 =
          [⟨serializeTypeUint64, 2 ^ 30 - 1, 0⟩] :=
  ⟨by decide, loadFromBinary_reserves_unread_count (2 ^ 30 - 1) (by decide)⟩

end Antd.Epee
