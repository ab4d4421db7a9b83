import Antd.Epee.PortableStorage

/-! The binary writer of epee's portable storage (`portable_storage_to_bin.h`)
and `portable_storage::store_to_binary`, and the round trip through the
reader of `portable_storage_from_bin.h`.

The writer gives an entry of the section a type byte, except an array, which
writes its element type with the array flag itself. Elements of an array are
written without a type byte: scalars as their bytes, strings as a varint
length and the bytes, sections as a count and their entries. A name is a
length byte and the bytes. The writer throws on a name of 255 bytes or more
and on a count past `2 ^ 62 - 1`; the model returns none there, as
`store_to_binary` returns false. -/

namespace Antd.Epee

open LittleEndian StateAdvance

def putString (v : List UInt8) : Option (List UInt8) :=
  (· ++ v) <$> packVarint v.length

mutual

def packStorageEntry : StorageEntry → Option (List UInt8)
  | .pod type bytes => some (type :: bytes)
  | .string bytes => (serializeTypeString :: ·) <$> putString bytes
  | .section entries => do
      let count ← packVarint entries.length
      let body ← packSectionEntries entries
      pure (serializeTypeObject :: count ++ body)
  | .array type elements => do
      let count ← packVarint elements.length
      let body ← packArrayElements elements
      pure ((type ||| serializeFlagArray) :: count ++ body)

/-- The loop of `pack_entry_to_buff(section)` over the entries: a length
byte, the name and the entry. -/
def packSectionEntries : List (List UInt8 × StorageEntry) → Option (List UInt8)
  | [] => some []
  | (name, entry) :: rest => do
      if ¬name.length < 255 then none
      let packed ← packStorageEntry entry
      let others ← packSectionEntries rest
      pure (name.length.toUInt8 :: name ++ packed ++ others)

def packArrayElements : List StorageEntry → Option (List UInt8)
  | [] => some []
  | element :: rest => do
      let packed ← packArrayElement element
      let others ← packArrayElements rest
      pure (packed ++ others)

def packArrayElement : StorageEntry → Option (List UInt8)
  | .pod _ bytes => some bytes
  | .string bytes => putString bytes
  | .section entries => do
      let count ← packVarint entries.length
      let body ← packSectionEntries entries
      pure (count ++ body)
  | .array type elements => do
      let count ← packVarint elements.length
      let body ← packArrayElements elements
      pure ((type ||| serializeFlagArray) :: count ++ body)

end

def packSection (entries : Section) : Option (List UInt8) := do
  let count ← packVarint entries.length
  let body ← packSectionEntries entries
  pure (count ++ body)

def storeToBinary (root : Section) : Option (List UInt8) :=
  (storageBlockHeader ++ ·) <$> packSection root

example : storeToBinary [([0x61], .string [0x62])] =
    some [0x01, 0x11, 0x01, 0x01, 0x01, 0x01, 0x02, 0x01, 0x01, 0x04, 0x01, 0x61, 0x0a, 0x04, 0x62] := by
  decide

/-! ### The values the writer can write

A value of the C++ types: a scalar has the bytes of its type, an array holds
elements of its one type, and a section's `std::map` holds each name once.
On top of these, what the writer and the reader need to agree: names shorter
than 255 bytes, as the writer puts a name's length in one byte; strings
shorter than `MAX_STRING_LEN_POSSIBLE`, the reader's bound; no arrays of
arrays, which the reader refuses; and counts that `pack_varint` can write. -/

/-- The type codes of the values the writer writes: the scalars, strings and sections. -/
def storableType (type : UInt8) : Bool :=
  (podSize type).isSome || type == serializeTypeString || type == serializeTypeObject

def podBytesWellFormed (type : UInt8) (bytes : List UInt8) : Bool :=
  match podSize type with
  | some size => bytes.length == size
  | none => false

mutual

def entryWellFormed : StorageEntry → Bool
  | .pod type bytes => podBytesWellFormed type bytes
  | .string bytes => decide (bytes.length < maxStringLenPossible)
  | .section entries => decide (entries.length < 2 ^ 62) && entriesWellFormed entries
  | .array type elements =>
      storableType type && decide (elements.length < 2 ^ 62) && elementsWellFormed type elements

def entriesWellFormed : List (List UInt8 × StorageEntry) → Bool
  | [] => true
  | (name, entry) :: rest =>
      decide (name.length < 255) && !rest.any (·.1 == name) && entryWellFormed entry &&
        entriesWellFormed rest

def elementsWellFormed (type : UInt8) : List StorageEntry → Bool
  | [] => true
  | element :: rest => elementWellFormed type element && elementsWellFormed type rest

def elementWellFormed (type : UInt8) : StorageEntry → Bool
  | .pod podType bytes => podType == type && podBytesWellFormed type bytes
  | .string bytes => type == serializeTypeString && decide (bytes.length < maxStringLenPossible)
  | .section entries =>
      type == serializeTypeObject && decide (entries.length < 2 ^ 62) && entriesWellFormed entries
  | .array _ _ => false

end

def sectionWellFormed (root : Section) : Bool :=
  decide (root.length < 2 ^ 62) && entriesWellFormed root

/-! ### The frames the reader opens

The most frames the reader has open at once while it reads a value, counting
the frame of the function that reads it: the nesting the recursion limit
bounds. -/

mutual

def entryFrames : StorageEntry → Nat
  | .pod _ _ => 4
  | .string _ => 8
  | .section entries => entriesFrames entries + 3
  | .array _ elements => elementsFrames elements + 3

def entriesFrames : List (List UInt8 × StorageEntry) → Nat
  | [] => 4
  | (_, entry) :: rest => max (entryFrames entry) (entriesFrames rest)

def elementsFrames : List StorageEntry → Nat
  | [] => 4
  | element :: rest => max (elementFrames element) (elementsFrames rest)

def elementFrames : StorageEntry → Nat
  | .pod _ _ => 3
  | .string _ => 6
  | .section entries => entriesFrames entries + 2
  | .array _ _ => 2

end

def sectionFrames (entries : Section) : Nat :=
  entriesFrames entries + 1

theorem four_le_entriesFrames : ∀ entries, 4 ≤ entriesFrames entries
  | [] => le_rfl
  | (_, entry) :: rest => by
      rw [entriesFrames]
      exact le_max_of_le_right (four_le_entriesFrames rest)

theorem four_le_elementsFrames : ∀ elements, 4 ≤ elementsFrames elements
  | [] => le_rfl
  | element :: rest => by
      rw [elementsFrames]
      exact le_max_of_le_right (four_le_elementsFrames rest)

/-! ### Reading back what the writer wrote

`ReadsBack read value written` says that `read` takes `value` from the front
of any buffer that starts with `written` and leaves the rest; only the
reservations `read_ae` makes may change on the way. The rules below build it
for each reader function from its parts, following the writer. -/

def ReadsBack {α : Type} (read : Parse α) (value : α) (written : List UInt8) : Prop :=
  ∀ rest reservations, ∃ after,
    read ⟨written ++ rest, reservations⟩ = .ok value ⟨rest, after⟩

section Rules

variable {α β : Type}

theorem readsBack_pure (a : α) : ReadsBack (pure a) a [] :=
  fun _ reservations => ⟨reservations, rfl⟩

theorem ReadsBack.bind {read : Parse α} {next : α → Parse β} {a : α} {b : β}
    {first second : List UInt8} (readFirst : ReadsBack read a first)
    (readSecond : ReadsBack (next a) b second) :
    ReadsBack (read >>= next) b (first ++ second) := by
  intro rest reservations
  obtain ⟨middle, ranFirst⟩ := readFirst (second ++ rest) reservations
  obtain ⟨after, ranSecond⟩ := readSecond rest middle
  exact ⟨after, by rw [List.append_assoc, bind_of_ok ranFirst, ranSecond]⟩

theorem ReadsBack.map {read : Parse α} {a : α} {written : List UInt8} (f : α → β)
    (readA : ReadsBack read a written) : ReadsBack (f <$> read) (f a) written := by
  intro rest reservations
  obtain ⟨after, ran⟩ := readA rest reservations
  exact ⟨after, by rw [map_apply, ran]⟩

theorem ReadsBack.bind_pure {read : Parse α} {a : α} {written : List UInt8} (f : α → β)
    (readA : ReadsBack read a written) :
    ReadsBack (read >>= fun value => pure (f value)) (f a) written := by
  intro rest reservations
  obtain ⟨after, ran⟩ := readA rest reservations
  exact ⟨after, by rw [bind_of_ok ran]; rfl⟩

theorem ReadsBack.cons {read : Parse α} {count : Nat} {a : α} {others : List α}
    {first second : List UInt8} (readFirst : ReadsBack read a first)
    (readOthers : ReadsBack (repeatM read count) others second) :
    ReadsBack (repeatM read (count + 1)) (a :: others) (first ++ second) := by
  rw [repeatM_succ]
  refine readFirst.bind ?_
  exact readOthers.bind_pure (a :: ·)

end Rules

theorem readsBack_readPod (budget : Nat) (bytes : List UInt8) :
    ReadsBack (readPod (budget + 2) bytes.length) bytes bytes :=
  fun rest reservations => ⟨reservations, readPod_append budget bytes rest reservations⟩

theorem readsBack_readVarint {val : Nat} {packed : List UInt8}
    (written : packVarint val = some packed) (budget : Nat) :
    ReadsBack (readVarint (budget + 4)) val packed :=
  fun rest reservations => ⟨reservations, readVarint_packVarint written budget rest reservations⟩

theorem readsBack_readSecName (budget : Nat) {name : List UInt8} (short : name.length < 255) :
    ReadsBack (readSecName (budget + 3)) name (name.length.toUInt8 :: name) := by
  intro rest reservations
  have lengthByte : ofBytes [name.length.toUInt8] = name.length := by
    simp only [ofBytes, Nat.mul_zero, Nat.add_zero, Nat.toUInt8_eq, UInt8.toNat_ofNat']
    omega
  refine ⟨reservations, ?_⟩
  rw [readSecName, List.cons_append, bind_of_ok (readPod_byte budget _ _ reservations),
    lengthByte, readBuffer_apply, if_pos (by simp)]
  simp

theorem readsBack_readString {bytes : List UInt8} (short : bytes.length < maxStringLenPossible) :
    ∃ written, putString bytes = some written ∧
      ∀ budget, ReadsBack (readString (budget + 5)) bytes written := by
  obtain ⟨count, counted⟩ := packVarint_eq_some_of_lt
    (show bytes.length < 2 ^ 62 by unfold maxStringLenPossible at short; omega)
  refine ⟨count ++ bytes, by rw [putString, counted]; rfl, fun budget rest reservations => ?_⟩
  refine ⟨reservations, ?_⟩
  rw [readString, List.append_assoc,
    bind_of_ok (readVarint_packVarint counted budget (bytes ++ rest) reservations)]
  simp [short, bind_apply, map_apply]
  rfl

set_option maxRecDepth 8000 in
theorem storableType_flags : ∀ type, storableType type = true →
    type &&& serializeFlagArray = 0 ∧ knownType type = true ∧ type ≠ serializeTypeArray ∧
      (type ||| serializeFlagArray) &&& serializeFlagArray ≠ 0 ∧
      (type ||| serializeFlagArray) &&& ~~~serializeFlagArray = type := by
  decide

theorem storableType_of_podSize {type : UInt8} {size : Nat} (sized : podSize type = some size) :
    storableType type = true := by
  simp [storableType, sized]

theorem ne_of_podSize_eq_some {type : UInt8} {size : Nat} (sized : podSize type = some size) :
    type ≠ serializeTypeString ∧ type ≠ serializeTypeObject ∧ type ≠ serializeTypeArray := by
  refine ⟨?_, ?_, ?_⟩ <;> rintro rfl <;> cases sized

theorem podBytesWellFormed_iff {type : UInt8} {bytes : List UInt8} :
    podBytesWellFormed type bytes = true ↔ podSize type = some bytes.length := by
  unfold podBytesWellFormed
  cases podSize type with
  | none => simp
  | some size =>
      simp only [beq_iff_eq, Option.some.injEq]
      exact ⟨Eq.symm, Eq.symm⟩

theorem readsBack_loadStorageEntry_scalar {budget : Nat} {entType : UInt8} {entry : StorageEntry}
    {written : List UInt8} (storable : storableType entType = true)
    (readEntry : ReadsBack (readSe (budget + 2) entType) entry written) :
    ReadsBack (loadStorageEntry (budget + 3)) entry (entType :: written) := by
  obtain ⟨scalar, known, -, -, -⟩ := storableType_flags entType storable
  intro rest reservations
  obtain ⟨after, ran⟩ := readEntry rest reservations
  refine ⟨after, ?_⟩
  rw [List.cons_append, loadStorageEntry, bind_of_ok (readPod_byte budget entType _ reservations)]
  split
  · next array => exact absurd scalar array
  · rw [List.headD_cons, if_pos known, ran]

theorem readsBack_loadStorageEntry_array {budget : Nat} {type : UInt8} {entry : StorageEntry}
    {written : List UInt8} (storable : storableType type = true)
    (readArray : ReadsBack (readAe (budget + 1) type) entry written) :
    ReadsBack (loadStorageEntry (budget + 3)) entry ((type ||| serializeFlagArray) :: written) := by
  obtain ⟨-, -, -, flagged, unflagged⟩ := storableType_flags type storable
  intro rest reservations
  obtain ⟨after, ran⟩ := readArray rest reservations
  refine ⟨after, ?_⟩
  rw [List.cons_append, loadStorageEntry_array budget _ reservations flagged
    (by rw [unflagged]; exact (storableType_flags type storable).2.1), unflagged, ran]

theorem readsBack_reserve (type : UInt8) (size : Nat) : ReadsBack (reserve type size) () [] := by
  intro rest reservations
  unfold reserve
  rw [modify_apply]
  split
  · exact ⟨reservations, rfl⟩
  · exact ⟨_, rfl⟩

theorem foldl_insertEntry : ∀ {entries : Section} (acc : Section),
    entriesWellFormed entries = true → (∀ entry ∈ entries, acc.any (·.1 == entry.1) = false) →
      entries.foldl insertEntry acc = acc ++ entries
  | [], acc, _, _ => by rw [List.foldl_nil, List.append_nil]
  | (name, entry) :: rest, acc, wellFormed, fresh => by
      rw [entriesWellFormed] at wellFormed
      simp only [Bool.and_eq_true, decide_eq_true_eq, Bool.not_eq_true',
        List.any_eq_false, beq_iff_eq] at wellFormed
      obtain ⟨⟨⟨_, later⟩, _⟩, restWellFormed⟩ := wellFormed
      have inserted : insertEntry acc (name, entry) = acc ++ [(name, entry)] := by
        rw [insertEntry, if_neg (by rw [fresh _ List.mem_cons_self]; decide)]
      rw [List.foldl_cons, inserted, foldl_insertEntry _ restWellFormed, List.append_assoc,
        List.singleton_append]
      intro other mem
      simp only [List.any_append, List.any_cons, List.any_nil, Bool.or_false,
        fresh other (List.mem_cons_of_mem _ mem), Bool.false_or, beq_eq_false_iff_ne]
      exact fun same => later other mem same.symm

theorem readsBack_readSection {entries : Section} {count body : List UInt8}
    (counted : packVarint entries.length = some count) (wellFormed : entriesWellFormed entries = true)
    {budget : Nat}
    (readEntries : ReadsBack (repeatM (do
          let secName ← readSecName (budget + 4)
          let entry ← loadStorageEntry (budget + 4)
          pure (secName, entry)) entries.length) entries body) :
    ReadsBack (readSection (budget + 5)) entries (count ++ body) := by
  have folded := readEntries.bind_pure (·.foldl insertEntry [])
  rw [foldl_insertEntry [] wellFormed (fun _ _ => rfl), List.nil_append] at folded
  rw [readSection]
  refine (readsBack_readVarint counted budget).bind ?_
  exact folded

theorem readsBack_readAe {type : UInt8} {elements : List StorageEntry} {count body : List UInt8}
    (counted : packVarint elements.length = some count) {budget : Nat}
    (readElements : ReadsBack (repeatM (readValue (budget + 4) type) elements.length) elements body) :
    ReadsBack (readAe (budget + 5) type) (.array type elements) (count ++ body) := by
  rw [readAe]
  refine (readsBack_readVarint counted budget).bind ?_
  refine (readsBack_reserve type _).bind ?_
  exact readElements.bind_pure (StorageEntry.array type)

/-! ### The round trip

By structural recursion over the section, following the writer: each value
the writer writes, the reader reads back with at least the frames it needs. -/

mutual

theorem packStorageEntry_readsBack : ∀ entry : StorageEntry, entryWellFormed entry = true →
    ∃ written, packStorageEntry entry = some written ∧
      ∀ budget, entryFrames entry ≤ budget → ReadsBack (loadStorageEntry budget) entry written
  | .pod type bytes, wellFormed => by
      rw [entryWellFormed, podBytesWellFormed_iff] at wellFormed
      refine ⟨type :: bytes, rfl, fun budget enough => ?_⟩
      rw [entryFrames] at enough
      obtain ⟨low, rfl⟩ : ∃ low, budget = low + 4 := ⟨budget - 4, by omega⟩
      obtain ⟨notString, notObject, notArray⟩ := ne_of_podSize_eq_some wellFormed
      refine readsBack_loadStorageEntry_scalar (storableType_of_podSize wellFormed) ?_
      rw [readSe, if_neg notString, if_neg notObject, if_neg notArray, wellFormed,
        Option.getD_some]
      exact (readsBack_readPod low bytes).map (StorageEntry.pod type)
  | .string bytes, wellFormed => by
      rw [entryWellFormed, decide_eq_true_eq] at wellFormed
      obtain ⟨written, put, readsString⟩ := readsBack_readString wellFormed
      refine ⟨serializeTypeString :: written, by rw [packStorageEntry, put]; rfl,
        fun budget enough => ?_⟩
      rw [entryFrames] at enough
      obtain ⟨low, rfl⟩ : ∃ low, budget = low + 8 := ⟨budget - 8, by omega⟩
      refine readsBack_loadStorageEntry_scalar (by decide) ?_
      rw [readSe, if_pos rfl, readValue, if_pos rfl]
      exact (readsString low).map StorageEntry.string
  | .section entries, wellFormed => by
      rw [entryWellFormed, Bool.and_eq_true, decide_eq_true_eq] at wellFormed
      obtain ⟨countable, entriesOk⟩ := wellFormed
      obtain ⟨count, counted⟩ := packVarint_eq_some_of_lt countable
      obtain ⟨body, bodyPacked, readsEntries⟩ := packSectionEntries_readsBack entries entriesOk
      refine ⟨serializeTypeObject :: (count ++ body),
        by rw [packStorageEntry, counted, bodyPacked]; rfl, fun budget enough => ?_⟩
      rw [entryFrames] at enough
      have := four_le_entriesFrames entries
      obtain ⟨low, rfl⟩ : ∃ low, budget = low + 7 := ⟨budget - 7, by omega⟩
      refine readsBack_loadStorageEntry_scalar (by decide) ?_
      rw [readSe, if_neg (by decide), if_pos rfl]
      exact (readsBack_readSection counted entriesOk
        (readsEntries (low + 4) (by omega))).map StorageEntry.section
  | .array type elements, wellFormed => by
      rw [entryWellFormed, Bool.and_eq_true, Bool.and_eq_true, decide_eq_true_eq] at wellFormed
      obtain ⟨⟨storable, countable⟩, elementsOk⟩ := wellFormed
      obtain ⟨count, counted⟩ := packVarint_eq_some_of_lt countable
      obtain ⟨body, bodyPacked, readsElements⟩ :=
        packArrayElements_readsBack elements type elementsOk
      refine ⟨(type ||| serializeFlagArray) :: (count ++ body),
        by rw [packStorageEntry, counted, bodyPacked]; rfl, fun budget enough => ?_⟩
      rw [entryFrames] at enough
      have := four_le_elementsFrames elements
      obtain ⟨low, rfl⟩ : ∃ low, budget = low + 7 := ⟨budget - 7, by omega⟩
      exact readsBack_loadStorageEntry_array storable
        (readsBack_readAe counted (readsElements (low + 4) (by omega)))

theorem packSectionEntries_readsBack : ∀ entries : Section, entriesWellFormed entries = true →
    ∃ written, packSectionEntries entries = some written ∧
      ∀ budget, entriesFrames entries ≤ budget →
        ReadsBack (repeatM (do
            let secName ← readSecName budget
            let entry ← loadStorageEntry budget
            pure (secName, entry)) entries.length) entries written
  | [], _ => ⟨[], rfl, fun _ _ => readsBack_pure []⟩
  | (name, entry) :: rest, wellFormed => by
      rw [entriesWellFormed] at wellFormed
      simp only [Bool.and_eq_true, decide_eq_true_eq] at wellFormed
      obtain ⟨⟨⟨short, -⟩, entryOk⟩, restOk⟩ := wellFormed
      obtain ⟨packed, entryPacked, readsEntry⟩ := packStorageEntry_readsBack entry entryOk
      obtain ⟨others, restPacked, readsRest⟩ := packSectionEntries_readsBack rest restOk
      refine ⟨name.length.toUInt8 :: name ++ packed ++ others, ?_, fun budget enough => ?_⟩
      · rw [packSectionEntries, if_neg (not_not.mpr short), entryPacked, restPacked]
        rfl
      · rw [entriesFrames] at enough
        have := four_le_entriesFrames rest
        obtain ⟨low, rfl⟩ : ∃ low, budget = low + 3 := ⟨budget - 3, by omega⟩
        have readsFirst : ReadsBack (do
              let secName ← readSecName (low + 3)
              let entry ← loadStorageEntry (low + 3)
              pure (secName, entry)) (name, entry) (name.length.toUInt8 :: name ++ packed) := by
          refine (readsBack_readSecName low short).bind ?_
          exact (readsEntry (low + 3) (le_of_max_le_left enough)).bind_pure (name, ·)
        exact readsFirst.cons (readsRest (low + 3) (le_of_max_le_right enough))

theorem packArrayElements_readsBack : ∀ (elements : List StorageEntry) (type : UInt8),
    elementsWellFormed type elements = true →
    ∃ written, packArrayElements elements = some written ∧
      ∀ budget, elementsFrames elements ≤ budget →
        ReadsBack (repeatM (readValue budget type) elements.length) elements written
  | [], _, _ => ⟨[], rfl, fun _ _ => readsBack_pure []⟩
  | element :: rest, type, wellFormed => by
      rw [elementsWellFormed, Bool.and_eq_true] at wellFormed
      obtain ⟨elementOk, restOk⟩ := wellFormed
      obtain ⟨packed, elementPacked, readsElement⟩ :=
        packArrayElement_readsBack element type elementOk
      obtain ⟨others, restPacked, readsRest⟩ := packArrayElements_readsBack rest type restOk
      refine ⟨packed ++ others, by rw [packArrayElements, elementPacked, restPacked]; rfl,
        fun budget enough => ?_⟩
      rw [elementsFrames] at enough
      exact (readsElement budget (le_of_max_le_left enough)).cons
        (readsRest budget (le_of_max_le_right enough))

theorem packArrayElement_readsBack : ∀ (element : StorageEntry) (type : UInt8),
    elementWellFormed type element = true →
    ∃ written, packArrayElement element = some written ∧
      ∀ budget, elementFrames element ≤ budget → ReadsBack (readValue budget type) element written
  | .pod podType bytes, type, wellFormed => by
      rw [elementWellFormed, Bool.and_eq_true, beq_iff_eq, podBytesWellFormed_iff] at wellFormed
      obtain ⟨rfl, sized⟩ := wellFormed
      refine ⟨bytes, rfl, fun budget enough => ?_⟩
      rw [elementFrames] at enough
      obtain ⟨low, rfl⟩ : ∃ low, budget = low + 3 := ⟨budget - 3, by omega⟩
      obtain ⟨notString, notObject, notArray⟩ := ne_of_podSize_eq_some sized
      rw [readValue, if_neg notString, if_neg notObject, if_neg notArray, sized, Option.getD_some]
      exact (readsBack_readPod low bytes).map (StorageEntry.pod _)
  | .string bytes, type, wellFormed => by
      rw [elementWellFormed, Bool.and_eq_true, beq_iff_eq, decide_eq_true_eq] at wellFormed
      obtain ⟨rfl, short⟩ := wellFormed
      obtain ⟨written, put, readsString⟩ := readsBack_readString short
      refine ⟨written, put, fun budget enough => ?_⟩
      rw [elementFrames] at enough
      obtain ⟨low, rfl⟩ : ∃ low, budget = low + 6 := ⟨budget - 6, by omega⟩
      rw [readValue, if_pos rfl]
      exact (readsString low).map StorageEntry.string
  | .section entries, type, wellFormed => by
      rw [elementWellFormed, Bool.and_eq_true, Bool.and_eq_true, beq_iff_eq,
        decide_eq_true_eq] at wellFormed
      obtain ⟨⟨rfl, countable⟩, entriesOk⟩ := wellFormed
      obtain ⟨count, counted⟩ := packVarint_eq_some_of_lt countable
      obtain ⟨body, bodyPacked, readsEntries⟩ := packSectionEntries_readsBack entries entriesOk
      refine ⟨count ++ body, by rw [packArrayElement, counted, bodyPacked]; rfl,
        fun budget enough => ?_⟩
      rw [elementFrames] at enough
      have := four_le_entriesFrames entries
      obtain ⟨low, rfl⟩ : ∃ low, budget = low + 6 := ⟨budget - 6, by omega⟩
      rw [readValue, if_neg (by decide), if_pos rfl]
      exact (readsBack_readSection counted entriesOk
        (readsEntries (low + 4) (by omega))).map StorageEntry.section
  | .array _ _, _, wellFormed => by
      rw [elementWellFormed] at wellFormed
      cases wellFormed

end

/-- `store_to_binary` of a section of C++ values, with names below 255 bytes,
strings below `MAX_STRING_LEN_POSSIBLE` and no arrays of arrays, whose reading
stays within the recursion limit, succeeds, and `load_from_binary` reads the
same section back; and every size `pack_varint` takes, `read_varint` reads
back from exactly the bytes written. -/
theorem loadFromBinary_storeToBinary (root : Section) (wellFormed : sectionWellFormed root = true)
    (nested : sectionFrames root ≤ recursionLimit - 1) :
    (∃ blob, storeToBinary root = some blob ∧ (loadFromBinary blob).1 = some root) ∧
      ∀ size, size ≤ 2 ^ 62 - 1 → ∃ packed, packVarint size = some packed ∧
        ∀ budget rest reservations,
          readVarint (budget + 4) ⟨packed ++ rest, reservations⟩ = .ok size ⟨rest, reservations⟩ := by
  refine ⟨?_, fun size small => ?_⟩
  · rw [sectionWellFormed, Bool.and_eq_true, decide_eq_true_eq] at wellFormed
    obtain ⟨countable, entriesOk⟩ := wellFormed
    obtain ⟨count, counted⟩ := packVarint_eq_some_of_lt countable
    obtain ⟨body, bodyPacked, readsEntries⟩ := packSectionEntries_readsBack root entriesOk
    refine ⟨storageBlockHeader ++ (count ++ body),
      by rw [storeToBinary, packSection, counted, bodyPacked]; rfl, ?_⟩
    have readsRoot := readsBack_readSection counted entriesOk
      (readsEntries 98 (by unfold sectionFrames recursionLimit at nested; omega))
    obtain ⟨after, ran⟩ := readsRoot [] []
    rw [List.append_nil] at ran
    have nonempty : count ++ body ≠ [] := by
      simp [packVarint_ne_nil counted]
    rw [loadFromBinary_header nonempty, show recursionLimit - 1 = 94 + 5 from rfl, ran]
  · obtain ⟨packed, written⟩ := packVarint_eq_some_of_lt (show size < 2 ^ 62 by omega)
    exact ⟨packed, written, readVarint_packVarint written⟩

theorem nested_section_round_trips :
    sectionWellFormed [([0x61], .string [0x62]),
        ([0x63], .array 5 [.pod 5 [1, 2, 3, 4, 5, 6, 7, 8]]),
        ([0x64], .section [([0x65], .array 12 [.section [([0x66], .pod 11 [1])]])])] = true ∧
      sectionFrames [([0x61], .string [0x62]),
        ([0x63], .array 5 [.pod 5 [1, 2, 3, 4, 5, 6, 7, 8]]),
        ([0x64], .section [([0x65], .array 12 [.section [([0x66], .pod 11 [1])]])])] ≤
          recursionLimit - 1 ∧
      ((∃ blob, storeToBinary [([0x61], .string [0x62]),
          ([0x63], .array 5 [.pod 5 [1, 2, 3, 4, 5, 6, 7, 8]]),
          ([0x64], .section [([0x65], .array 12 [.section [([0x66], .pod 11 [1])]])])] =
            some blob ∧
          (loadFromBinary blob).1 = some [([0x61], .string [0x62]),
            ([0x63], .array 5 [.pod 5 [1, 2, 3, 4, 5, 6, 7, 8]]),
            ([0x64], .section [([0x65], .array 12 [.section [([0x66], .pod 11 [1])]])])]) ∧
        ∀ size, size ≤ 2 ^ 62 - 1 → ∃ packed, packVarint size = some packed ∧
          ∀ budget rest reservations,
            readVarint (budget + 4) ⟨packed ++ rest, reservations⟩ =
              .ok size ⟨rest, reservations⟩) :=
  ⟨by decide, by decide, loadFromBinary_storeToBinary _ (by decide) (by decide)⟩

end Antd.Epee
