import Antd.Mnemonics.WordLists
import Antd.Lib.ChainedDigits
import Antd.Lib.LittleEndian
import Mathlib

/-! `crypto::ElectrumWords` (`src/mnemonics/electrum-words.cpp`) with the word
maps of `Language::Base` (`src/mnemonics/language_base.h`). Strings are their
bytes. `utf8canonical` is `towlower` of each character in the C locale, which
changes only `A` to `Z`; its errors on malformed UTF-8 are not modelled, as no
word list holds any.

`bytes_to_words` writes each 4-byte group as three base-1626 digits chained by
differences (`ChainedDigits`) and appends a checksum word picked by a CRC-32 of
the words' unique prefixes. `words_to_bytes` tries the languages of
`find_seed_language` in order and matches each word by its unique prefix in
that language, so a seed is read in the first language that knows the prefixes
of all its words and passes that language's checksum. Chinese comes first with
one-character prefixes, English second with three. A word of another language
whose first three characters are an English prefix makes a seed that repeats
it read as English: the German key `02 00 00 00`, eight times over, is written
as "abbilden" twenty-five times and read back as thirty-two zero bytes. -/

namespace Antd.Mnemonics

def wordBytes (word : String) : List UInt8 := word.toUTF8.data.toList

def nwords : Nat := 1626

/-- `Language::Base`: a word list and the number of leading characters that
tell its words apart. -/
structure Language where
  languageName : String
  englishLanguageName : String
  wordList : List (List UInt8)
  uniquePrefixLength : Nat

def chineseSimplified : Language :=
  ⟨"简体中文 (中国)", "Chinese (simplified)", chineseSimplifiedWords.map wordBytes, 1⟩
def english : Language := ⟨"English", "English", englishWords.map wordBytes, 3⟩
def dutch : Language := ⟨"Nederlands", "Dutch", dutchWords.map wordBytes, 4⟩
def french : Language := ⟨"Français", "French", frenchWords.map wordBytes, 4⟩
def spanish : Language := ⟨"Español", "Spanish", spanishWords.map wordBytes, 4⟩
def german : Language := ⟨"Deutsch", "German", germanWords.map wordBytes, 4⟩
def italian : Language := ⟨"Italiano", "Italian", italianWords.map wordBytes, 4⟩
def portuguese : Language := ⟨"Português", "Portuguese", portugueseWords.map wordBytes, 4⟩
def japanese : Language := ⟨"日本語", "Japanese", japaneseWords.map wordBytes, 3⟩
def russian : Language := ⟨"русский язык", "Russian", russianWords.map wordBytes, 4⟩
def esperanto : Language := ⟨"Esperanto", "Esperanto", esperantoWords.map wordBytes, 4⟩
def lojban : Language := ⟨"Lojban", "Lojban", lojbanWords.map wordBytes, 4⟩
def englishOld : Language := ⟨"EnglishOld", "English (old)", englishOldWords.map wordBytes, 4⟩

/-! ### Words up to case, and their prefixes -/

def isContinuation (byte : UInt8) : Bool := byte &&& 0xc0 == 0x80

/-- `Language::utf8prefix`: the first `count` characters of `s`, each a byte
with the continuation bytes that follow it. -/
def utf8Prefix : List UInt8 → Nat → List UInt8
  | [], _ => []
  | _, 0 => []
  | byte :: rest, count + 1 =>
    byte :: rest.takeWhile isContinuation ++ utf8Prefix (rest.dropWhile isContinuation) count

def towlower (byte : UInt8) : UInt8 := if 65 ≤ byte ∧ byte ≤ 90 then byte + 32 else byte

/-- `Language::utf8canonical`: every character lowered by `towlower` and
encoded again in as many bytes. -/
def utf8canonical (s : List UInt8) : List UInt8 := s.map towlower

/-- A word cut to its unique prefix the way `populate_maps` and `checksum_test`
cut it: only when it has more bytes than the prefix has characters. -/
def trimmedWord (word : List UInt8) (uniquePrefixLength : Nat) : List UInt8 :=
  if word.length > uniquePrefixLength then utf8Prefix word uniquePrefixLength else word

/-- What `find` returns from a `std::unordered_map` with `WordHash` and
`WordEqual` whose keys were assigned the indices of `keys` in order: the key
first assigned among those equal to `word`, with the index assigned last. -/
def mapFind (keys : List (List UInt8)) (word : List UInt8) : Option (List UInt8 × Nat) := do
  let stored ← keys.find? fun key => utf8canonical key == utf8canonical word
  let last ← keys.zipIdx.reverse.find? fun entry => utf8canonical entry.1 == utf8canonical word
  pure (stored, last.2)

def Language.trimmedWordMap (language : Language) : List (List UInt8) :=
  language.wordList.map fun word => trimmedWord word language.uniquePrefixLength

def Language.prefixIndex (language : Language) (word : List UInt8) : Option Nat :=
  (mapFind language.trimmedWordMap (utf8Prefix word language.uniquePrefixLength)).map Prod.snd

def Language.wordIndex (language : Language) (word : List UInt8) : Option Nat :=
  (mapFind language.wordList word).map Prod.snd

/-! ### The checksum word -/

/-- One bit of the reflected CRC-32 of `boost::crc_32_type`, polynomial `0x04C11DB7`. -/
def crc32Shift (crc : UInt32) : UInt32 :=
  if crc &&& 1 = 1 then (crc >>> 1) ^^^ 0xEDB88320 else crc >>> 1

def crc32 (bytes : List UInt8) : UInt32 :=
  bytes.foldl (fun crc byte => Nat.repeat crc32Shift 8 (crc ^^^ byte.toUInt32)) 0xFFFFFFFF ^^^ 0xFFFFFFFF

example : crc32 (wordBytes "123456789") = 0xCBF43926 := by decide +kernel

/-- `create_checksum_index`: the CRC-32 of the stored keys of the words'
prefixes, modulo the number of words; `none` where the source throws (a prefix
not in the map) or divides by zero. -/
def createChecksumIndex (wordList : List (List UInt8)) (language : Language) : Option Nat := do
  let trimmedWords ← wordList.mapM fun word =>
    (mapFind language.trimmedWordMap (utf8Prefix word language.uniquePrefixLength)).map Prod.fst
  if wordList.length = 0 then none
  else pure ((crc32 trimmedWords.flatten).toNat % wordList.length)

/-- `checksum_test`: whether the last word of the seed agrees, on its unique
prefix and up to case, with the word of the rest that the checksum picks;
`none` where `create_checksum_index` throws. -/
def checksumTest (seed : List (List UInt8)) (language : Language) : Option Bool :=
  match seed.getLast? with
  | none => some false
  | some lastWord =>
    let seed := seed.dropLast
    (createChecksumIndex seed language).map fun idx =>
      utf8canonical (trimmedWord (seed.getD idx []) language.uniquePrefixLength) ==
        utf8canonical (trimmedWord lastWord language.uniquePrefixLength)

/-! ### Finding the language of a seed -/

def seedLanguageInstances : List Language :=
  [chineseSimplified, english, dutch, french, spanish, german, italian, portuguese, japanese,
    russian, esperanto, lojban, englishOld]

/-- The `matched_indices` of the seed's words in one language: by unique prefix
when the seed has a checksum word, whole when not; `none` at a word the
language lacks. -/
def matchSeedWords (seed : List (List UInt8)) (hasChecksum : Bool) (language : Language) :
    Option (List Nat) :=
  seed.mapM fun word => if hasChecksum then language.prefixIndex word else language.wordIndex word

/-- The loop of `find_seed_language` over the languages left, with the last
language whose words all matched but whose checksum failed as `fallback`:
`none` where `checksum_test` throws, `some none` where no language is found,
and the language with the matched indices otherwise (none for a fallback). -/
def findSeedLanguageFrom (seed : List (List UInt8)) (hasChecksum : Bool) :
    List Language → Option Language → Option (Option (Language × List Nat))
  | [], fallback => some (fallback.map fun language => (language, []))
  | language :: rest, fallback =>
    match matchSeedWords seed hasChecksum language with
    | none => findSeedLanguageFrom seed hasChecksum rest fallback
    | some matchedIndices =>
      if hasChecksum then
        match checksumTest seed language with
        | none => none
        | some true => some (some (language, matchedIndices))
        | some false => findSeedLanguageFrom seed hasChecksum rest (some language)
      else some (some (language, matchedIndices))

def findSeedLanguage (seed : List (List UInt8)) (hasChecksum : Bool) :
    Option (Option (Language × List Nat)) :=
  findSeedLanguageFrom seed hasChecksum seedLanguageInstances none

/-! ### Bytes to words and back -/

/-- `wipeable_string::split` after some bytes: whether the last byte was a
space, and the fields so far. -/
def splitFrom (space : Bool) (fields : List (List UInt8)) : List UInt8 → List (List UInt8)
  | [] => fields
  | c :: rest =>
    if c ≠ 32 then
      splitFrom false ((if space then fields ++ [[]] else fields).modifyLast (· ++ [c])) rest
    else splitFrom true fields rest

def split (s : List UInt8) : List (List UInt8) := splitFrom true [] s

/-- The three indices `bytes_to_words` writes for a group `w0`, in 32-bit arithmetic. -/
def encodeGroup (wordListLength w0 : UInt32) : UInt32 × UInt32 × UInt32 :=
  let w1 := w0 % wordListLength
  let w2 := (w0 / wordListLength + w1) % wordListLength
  let w3 := (w0 / wordListLength / wordListLength + w2) % wordListLength
  (w1, w2, w3)

def decodeGroup (wordListLength w1 w2 w3 : UInt32) : UInt32 :=
  w1 + wordListLength * ((wordListLength - w1 + w2) % wordListLength) +
    wordListLength * wordListLength * ((wordListLength - w2 + w3) % wordListLength)

/-- The loop of `bytes_to_words` over `count` groups of `src`: the words it
writes, each followed by a space, and its `words_store`. -/
def encodeSeed (wordList : List (List UInt8)) (wordListLength : UInt32) :
    Nat → List UInt8 → List UInt8 × List (List UInt8)
  | 0, _ => ([], [])
  | count + 1, src =>
    let w := encodeGroup wordListLength (LittleEndian.ofBytes (src.take 4)).toUInt32
    let group := [wordList.getD w.1.toNat [], wordList.getD w.2.1.toNat [],
      wordList.getD w.2.2.toNat []]
    let rest := encodeSeed wordList wordListLength count (src.drop 4)
    (group.flatMap (· ++ [32]) ++ rest.1, group ++ rest.2)

/-- The loop of `words_to_bytes` over `count` groups of matched indices: the
bytes it appends, or `none` where a group fails its check ("mumble mumble"). -/
def decodeSeed (wordListLength : UInt32) : Nat → List Nat → Option (List UInt8)
  | 0, _ => some []
  | count + 1, matchedIndices =>
    let w1 := (matchedIndices.getD 0 0).toUInt32
    let w0 := decodeGroup wordListLength w1 (matchedIndices.getD 1 0).toUInt32
      (matchedIndices.getD 2 0).toUInt32
    if w0 % wordListLength ≠ w1 then none
    else (decodeSeed wordListLength count (matchedIndices.drop 3)).map
      (LittleEndian.toBytes 4 w0.toNat ++ ·)

def getLanguageList : List Language :=
  [german, english, spanish, french, italian, dutch, portuguese, russian, japanese,
    chineseSimplified, esperanto, lojban]

/-- The language `bytes_to_words` looks up by name: the last of
`get_language_list` with that name or English name. -/
def findLanguage (languageName : String) : Option Language :=
  getLanguageList.foldl (fun found language =>
    if languageName = language.languageName ∨ languageName = language.englishLanguageName then
      some language
    else found) none

/-- `bytes_to_words` into empty `words`: `none` where it throws, `some none`
where it returns false, and the words written otherwise. -/
def bytesToWords (src : List UInt8) (languageName : String) : Option (Option (List UInt8)) :=
  if src.length % 4 ≠ 0 ∨ src.length = 0 then some none
  else
    match findLanguage languageName with
    | none => some none
    | some language =>
      let written := encodeSeed language.wordList language.wordList.length.toUInt32
        (src.length / 4) src
      (createChecksumIndex written.2 language).map fun idx =>
        some (written.1 ++ written.2.getD idx [])

/-- `words_to_bytes` into empty `dst`: `none` where it throws, `some none`
where it returns false, and the bytes written with the name of the language
found otherwise. -/
def wordsToBytes (words : List UInt8) (len : Nat) (duplicate : Bool) :
    Option (Option (List UInt8 × String)) :=
  let seed := split words
  if len % 4 ≠ 0 then some none
  else
    let expected := len * 8 * 3 / 32
    if len ≠ 0 ∧ seed.length ≠ expected / 2 ∧ seed.length ≠ expected ∧
        seed.length ≠ expected + 1 then some none
    else
      let hasChecksum := if len ≠ 0 then seed.length == expected + 1 else true
      match findSeedLanguage seed hasChecksum with
      | none => none
      | some none => some none
      | some (some (language, matchedIndices)) =>
        match (if hasChecksum then checksumTest seed language else some true) with
        | none => none
        | some false => some none
        | some true =>
          let seed := if hasChecksum then seed.dropLast else seed
          match decodeSeed language.wordList.length.toUInt32 (seed.length / 3) matchedIndices with
          | none => some none
          | some dst =>
            let dst := if len > 0 ∧ duplicate ∧ seed.length = len * 3 / 32 / 2 then
              dst ++ [32] ++ dst else dst
            some (some (dst, language.languageName))


/-! ### Prefixes, case and the word maps -/

theorem utf8Prefix_of_length_le {s : List UInt8} {count : Nat} (short : s.length ≤ count) :
    utf8Prefix s count = s := by
  induction count generalizing s with
  | zero =>
    rw [List.eq_nil_of_length_eq_zero (Nat.le_zero.mp short)]
    rfl
  | succ count ih =>
    cases s with
    | nil => rfl
    | cons byte rest =>
      have restShort : (rest.dropWhile isContinuation).length ≤ count := by
        have := List.length_dropWhile_le isContinuation rest
        simp only [List.length_cons] at short
        omega
      rw [utf8Prefix, ih restShort, List.cons_append, List.takeWhile_append_dropWhile]

theorem trimmedWord_eq (word : List UInt8) (uniquePrefixLength : Nat) :
    trimmedWord word uniquePrefixLength = utf8Prefix word uniquePrefixLength := by
  unfold trimmedWord
  split
  · rfl
  · exact (utf8Prefix_of_length_le (by omega)).symm

theorem towlower_lt_iff (byte : UInt8) : (towlower byte).toNat < 128 ↔ byte.toNat < 128 := by
  unfold towlower
  split
  · next upper =>
    have bound : byte.toNat ≤ 90 := UInt8.le_iff_toNat_le.mp upper.2
    rw [UInt8.toNat_add]
    simp only [UInt8.reduceToNat]
    omega
  · rfl

theorem head?_utf8Prefix (s : List UInt8) (count : Nat) :
    (utf8Prefix s (count + 1)).head? = s.head? := by
  cases s <;> rfl

theorem head?_of_utf8canonical_eq {s t : List UInt8} {first : UInt8}
    (same : utf8canonical s = utf8canonical t) (sHead : s.head? = some first) :
    ∃ second, t.head? = some second ∧ (first.toNat < 128 ↔ second.toNat < 128) := by
  have heads := congrArg List.head? same
  rw [utf8canonical, utf8canonical, List.head?_map, List.head?_map, sHead, Option.map_some] at heads
  cases tHead : t.head? with
  | none => rw [tHead, Option.map_none] at heads; cases heads
  | some second =>
    rw [tHead, Option.map_some, Option.some.injEq] at heads
    exact ⟨second, rfl, by rw [← towlower_lt_iff first, heads, towlower_lt_iff]⟩

theorem mapFind_isSome_iff {keys : List (List UInt8)} {word : List UInt8} :
    (mapFind keys word).isSome ↔ ∃ key ∈ keys, utf8canonical key = utf8canonical word := by
  unfold mapFind
  cases first : keys.find? fun key => utf8canonical key == utf8canonical word with
  | none =>
    simp only [Option.bind_eq_bind, Option.bind_none, Option.isSome_none, Bool.false_eq_true,
      false_iff, not_exists, not_and]
    intro key member agrees
    exact List.find?_eq_none.mp first key member (by simp [agrees])
  | some stored =>
    have storedMember := List.mem_of_find?_eq_some first
    have storedAgrees := List.find?_some first
    simp only [beq_iff_eq] at storedAgrees
    obtain ⟨index, indexed⟩ := List.mem_iff_getElem?.mp storedMember
    have entry : (stored, index) ∈ keys.zipIdx := List.mem_zipIdx_iff_getElem?.mpr indexed
    cases last : keys.zipIdx.reverse.find? fun entry =>
        utf8canonical entry.1 == utf8canonical word with
    | none =>
      exact absurd (List.find?_eq_none.mp last (stored, index) (List.mem_reverse.mpr entry))
        (by simp [storedAgrees])
    | some found =>
      simp only [Option.bind_eq_bind, Option.bind_some, Option.pure_def, Option.isSome_some,
        true_iff]
      exact ⟨stored, storedMember, storedAgrees⟩

theorem mapFind_eq_none_iff {keys : List (List UInt8)} {word : List UInt8} :
    mapFind keys word = none ↔ ∀ key ∈ keys, utf8canonical key ≠ utf8canonical word := by
  rw [← Option.not_isSome_iff_eq_none, mapFind_isSome_iff]
  simp

theorem mapFind_trimmedWordMap_isSome {language : Language} {word : List UInt8}
    (member : word ∈ language.wordList) :
    (mapFind language.trimmedWordMap (utf8Prefix word language.uniquePrefixLength)).isSome :=
  mapFind_isSome_iff.2 ⟨trimmedWord word language.uniquePrefixLength,
    List.mem_map_of_mem member, by rw [trimmedWord_eq]⟩

theorem mapM_isSome {α β : Type} {f : α → Option β} {l : List α}
    (each : ∀ a ∈ l, (f a).isSome) : (l.mapM f).isSome := by
  induction l with
  | nil => rfl
  | cons a rest ih =>
    obtain ⟨b, image⟩ := Option.isSome_iff_exists.mp (each a List.mem_cons_self)
    obtain ⟨bs, images⟩ := Option.isSome_iff_exists.mp
      (ih fun a' member => each a' (List.mem_cons_of_mem a member))
    simp [List.mapM_cons, image, images]

theorem mapM_replicate {α β : Type} {f : α → Option β} {a : α} {b : β} (image : f a = some b)
    (n : Nat) : (List.replicate n a).mapM f = some (List.replicate n b) := by
  induction n with
  | zero => rfl
  | succ n ih => simp [List.replicate_succ, List.mapM_cons, image, ih]

/-! ### The checksum -/

theorem createChecksumIndex_of_isSome {wordList : List (List UInt8)} {language : Language}
    (nonempty : wordList ≠ [])
    (found : ∀ word ∈ wordList,
      (mapFind language.trimmedWordMap (utf8Prefix word language.uniquePrefixLength)).isSome) :
    ∃ idx, createChecksumIndex wordList language = some idx ∧ idx < wordList.length := by
  have mapped := mapM_isSome (f := fun word =>
    (mapFind language.trimmedWordMap (utf8Prefix word language.uniquePrefixLength)).map Prod.fst)
    (l := wordList) (fun word member => by simpa using found word member)
  obtain ⟨trimmedWords, trimmed⟩ := Option.isSome_iff_exists.mp mapped
  have positive : 0 < wordList.length := List.length_pos_iff.mpr nonempty
  refine ⟨(crc32 trimmedWords.flatten).toNat % wordList.length, ?_, Nat.mod_lt _ positive⟩
  simp [createChecksumIndex, trimmed, Nat.pos_iff_ne_zero.mp positive]

theorem checksumTest_append_checksum {wordList : List (List UInt8)} {language : Language}
    {idx : Nat} (checksum : createChecksumIndex wordList language = some idx) :
    checksumTest (wordList ++ [wordList.getD idx []]) language = some true := by
  simp [checksumTest, checksum]

/-! ### The arithmetic of a group -/

theorem toNat_nwords : nwords.toUInt32.toNat = nwords := rfl

theorem encodeGroup_eq (w0 : UInt32) :
    encodeGroup nwords.toUInt32 w0 =
      ((ChainedDigits.encode nwords w0.toNat).1.toUInt32,
        (ChainedDigits.encode nwords w0.toNat).2.1.toUInt32,
        (ChainedDigits.encode nwords w0.toNat).2.2.toUInt32) := by
  have bound := w0.toNat_lt
  have first : (w0 % nwords.toUInt32).toNat = w0.toNat % nwords := by
    rw [UInt32.toNat_mod, toNat_nwords]
  have second : (w0 / nwords.toUInt32 + w0 % nwords.toUInt32).toNat =
      w0.toNat / nwords + w0.toNat % nwords := by
    rw [UInt32.toNat_add, UInt32.toNat_div, first, toNat_nwords]
    apply Nat.mod_eq_of_lt
    unfold nwords
    omega
  have third : (w0 / nwords.toUInt32 / nwords.toUInt32 +
      (w0 / nwords.toUInt32 + w0 % nwords.toUInt32) % nwords.toUInt32).toNat =
      w0.toNat / nwords / nwords + (w0.toNat / nwords + w0.toNat % nwords) % nwords := by
    rw [UInt32.toNat_add, UInt32.toNat_div, UInt32.toNat_div, UInt32.toNat_mod, second, toNat_nwords]
    apply Nat.mod_eq_of_lt
    unfold nwords
    omega
  simp only [encodeGroup, ChainedDigits.encode, Prod.mk.injEq]
  have fits (digit : Nat) : digit % nwords % 2 ^ 32 = digit % nwords :=
    Nat.mod_eq_of_lt (lt_trans (Nat.mod_lt _ (by decide)) (by decide))
  refine ⟨?_, ?_, ?_⟩ <;> apply UInt32.toNat_inj.mp
  · rw [first, Nat.toUInt32_eq, UInt32.toNat_ofNat', fits]
  · rw [UInt32.toNat_mod, second, toNat_nwords, Nat.toUInt32_eq, UInt32.toNat_ofNat', fits]
  · rw [UInt32.toNat_mod, third, toNat_nwords, Nat.toUInt32_eq, UInt32.toNat_ofNat', fits]

theorem toNat_decodeGroup {w1 w2 w3 : UInt32} (below1 : w1.toNat < nwords)
    (below2 : w2.toNat < nwords) (below3 : w3.toNat < nwords) :
    (decodeGroup nwords.toUInt32 w1 w2 w3).toNat =
      ChainedDigits.decode nwords (w1.toNat, w2.toNat, w3.toNat) % 2 ^ 32 := by
  have fit1 : nwords - w1.toNat + w2.toNat < 2 ^ 32 := by unfold nwords at *; omega
  have fit2 : nwords - w2.toNat + w3.toNat < 2 ^ 32 := by unfold nwords at *; omega
  have middle : ((nwords.toUInt32 - w1 + w2) % nwords.toUInt32).toNat =
      (nwords - w1.toNat + w2.toNat) % nwords := by
    rw [UInt32.toNat_mod, UInt32.toNat_add, UInt32.toNat_sub_of_le _ _
      (UInt32.le_iff_toNat_le.mpr (by rw [toNat_nwords]; omega)), toNat_nwords,
      Nat.mod_eq_of_lt fit1]
  have high : ((nwords.toUInt32 - w2 + w3) % nwords.toUInt32).toNat =
      (nwords - w2.toNat + w3.toNat) % nwords := by
    rw [UInt32.toNat_mod, UInt32.toNat_add, UInt32.toNat_sub_of_le _ _
      (UInt32.le_iff_toNat_le.mpr (by rw [toNat_nwords]; omega)), toNat_nwords,
      Nat.mod_eq_of_lt fit2]
  simp only [decodeGroup, ChainedDigits.decode, UInt32.toNat_add, UInt32.toNat_mul, middle, high,
    toNat_nwords]
  have middleBelow : (nwords - w1.toNat + w2.toNat) % nwords < nwords := Nat.mod_lt _ (by decide)
  have highBelow : (nwords - w2.toNat + w3.toNat) % nwords < nwords := Nat.mod_lt _ (by decide)
  generalize (nwords - w1.toNat + w2.toNat) % nwords = m at middleBelow ⊢
  generalize (nwords - w2.toNat + w3.toNat) % nwords = h at highBelow ⊢
  unfold nwords at *
  omega

theorem toNat_toUInt32_of_lt {k : Nat} (below : k < nwords) : k.toUInt32.toNat = k := by
  rw [Nat.toUInt32_eq, UInt32.toNat_ofNat', Nat.mod_eq_of_lt (lt_trans below (by decide))]

theorem encodeGroup_of_lt {k : Nat} (below : k < nwords) :
    encodeGroup nwords.toUInt32 k.toUInt32 = (k.toUInt32, k.toUInt32, k.toUInt32) := by
  rw [encodeGroup_eq, toNat_toUInt32_of_lt below, ChainedDigits.encode_of_lt below]

theorem decodeGroup_repeat {k : Nat} (below : k < nwords) :
    decodeGroup nwords.toUInt32 k.toUInt32 k.toUInt32 k.toUInt32 = k.toUInt32 := by
  have index := toNat_toUInt32_of_lt below
  apply UInt32.toNat_inj.mp
  rw [toNat_decodeGroup (by rwa [index]) (by rwa [index]) (by rwa [index]), index,
    ChainedDigits.decode_repeat below, Nat.mod_eq_of_lt (lt_trans below (by decide))]

/-! ### Splitting the words -/

theorem splitFrom_word (fields : List (List UInt8)) (current word rest : List UInt8)
    (noSpace : 32 ∉ word) :
    splitFrom false (fields ++ [current]) (word ++ rest) =
      splitFrom false (fields ++ [current ++ word]) rest := by
  induction word generalizing current with
  | nil => simp
  | cons c word ih =>
    have notSpace : c ≠ 32 := fun same => noSpace (same ▸ List.mem_cons_self)
    rw [List.cons_append, splitFrom, if_pos notSpace]
    simp only [Bool.false_eq_true, if_false, List.modifyLast_concat]
    rw [ih _ (fun member => noSpace (List.mem_cons_of_mem c member))]
    simp

theorem splitFrom_start (fields : List (List UInt8)) (word rest : List UInt8)
    (nonempty : word ≠ []) (noSpace : 32 ∉ word) :
    splitFrom true fields (word ++ rest) = splitFrom false (fields ++ [word]) rest := by
  obtain ⟨c, word, rfl⟩ := List.exists_cons_of_ne_nil nonempty
  have notSpace : c ≠ 32 := fun same => noSpace (same ▸ List.mem_cons_self)
  rw [List.cons_append, splitFrom, if_pos notSpace]
  simp only [if_true, List.modifyLast_concat, List.nil_append]
  rw [splitFrom_word _ _ _ _ (fun member => noSpace (List.mem_cons_of_mem c member))]
  rfl

theorem split_words (words : List (List UInt8)) (last : List UInt8)
    (wellFormed : ∀ word ∈ last :: words, word ≠ [] ∧ 32 ∉ word) :
    split (words.flatMap (· ++ [32]) ++ last) = words ++ [last] := by
  suffices carried : ∀ fields, splitFrom true fields (words.flatMap (· ++ [32]) ++ last) =
      fields ++ words ++ [last] from carried []
  induction words with
  | nil =>
    intro fields
    obtain ⟨nonempty, noSpace⟩ := wellFormed last List.mem_cons_self
    rw [List.flatMap_nil, List.nil_append, ← List.append_nil last,
      splitFrom_start _ _ _ nonempty noSpace]
    simp [splitFrom]
  | cons word words ih =>
    intro fields
    obtain ⟨nonempty, noSpace⟩ := wellFormed word (List.mem_cons_of_mem _ List.mem_cons_self)
    rw [List.flatMap_cons, List.append_assoc, List.append_assoc,
      splitFrom_start _ _ _ nonempty noSpace]
    rw [List.singleton_append, splitFrom, if_neg (by simp)]
    rw [ih (fun other member => wellFormed other (by
      rcases List.mem_cons.mp member with first | later
      · exact first ▸ List.mem_cons_self
      · exact List.mem_cons_of_mem _ (List.mem_cons_of_mem _ later)))]
    simp

/-! ### Seeds of one repeated group -/

theorem take_four_append (k : Nat) (rest : List UInt8) :
    (LittleEndian.toBytes 4 k ++ rest).take 4 = LittleEndian.toBytes 4 k :=
  List.take_left' (LittleEndian.length_toBytes 4 k)

theorem drop_four_append (k : Nat) (rest : List UInt8) :
    (LittleEndian.toBytes 4 k ++ rest).drop 4 = rest :=
  List.drop_left' (LittleEndian.length_toBytes 4 k)

theorem encodeSeed_replicate (wordList : List (List UInt8)) {k : Nat} (below : k < nwords)
    (count : Nat) :
    encodeSeed wordList nwords.toUInt32 count (List.replicate count (LittleEndian.toBytes 4 k)).flatten =
      ((List.replicate (3 * count) (wordList.getD k [])).flatMap (· ++ [32]),
        List.replicate (3 * count) (wordList.getD k [])) := by
  induction count with
  | zero => rfl
  | succ count ih =>
    have value : LittleEndian.ofBytes (LittleEndian.toBytes 4 k) = k := by
      rw [LittleEndian.ofBytes_toBytes, Nat.mod_eq_of_lt (lt_trans below (by decide))]
    have threeMore : 3 * (count + 1) = 3 + 3 * count := by ring
    rw [List.replicate_succ, List.flatten_cons, encodeSeed, take_four_append, drop_four_append,
      value, encodeGroup_of_lt below, ih, toNat_toUInt32_of_lt below, threeMore, List.replicate_add]
    simp [List.replicate_succ]

theorem decodeSeed_replicate {k : Nat} (below : k < nwords) (count extra : Nat) :
    decodeSeed nwords.toUInt32 count (List.replicate (3 * count + extra) k) =
      some (List.replicate count (LittleEndian.toBytes 4 k)).flatten := by
  induction count with
  | zero => rfl
  | succ count ih =>
    have threeMore : 3 * (count + 1) + extra = 3 * count + extra + 1 + 1 + 1 := by ring
    have check : k.toUInt32 % nwords.toUInt32 = k.toUInt32 := by
      apply UInt32.toNat_inj.mp
      rw [UInt32.toNat_mod, toNat_toUInt32_of_lt below, toNat_nwords, Nat.mod_eq_of_lt below]
    rw [threeMore, List.replicate_succ, List.replicate_succ, List.replicate_succ, decodeSeed]
    simp only [List.getD_cons_zero, List.getD_cons_succ, List.drop_succ_cons, List.drop_zero,
      decodeGroup_repeat below, check, ne_eq, not_true_eq_false, if_false, ih, Option.map_some,
      toNat_toUInt32_of_lt below, List.replicate_succ, List.flatten_cons]

/-! ### The word lists -/

set_option maxRecDepth 20000 in
theorem length_wordList {language : Language} (listed : language ∈ getLanguageList) :
    language.wordList.length = nwords := by
  simp only [getLanguageList, List.mem_cons, List.not_mem_nil, or_false] at listed
  rcases listed with rfl | rfl | rfl | rfl | rfl | rfl | rfl | rfl | rfl | rfl | rfl | rfl <;>
    decide

theorem findLanguage_languageName {language : Language} (listed : language ∈ getLanguageList) :
    findLanguage language.languageName = some language := by
  simp only [getLanguageList, List.mem_cons, List.not_mem_nil, or_false] at listed
  rcases listed with rfl | rfl | rfl | rfl | rfl | rfl | rfl | rfl | rfl | rfl | rfl | rfl <;> rfl

theorem getD_mem_wordList {language : Language} (listed : language ∈ getLanguageList) {k : Nat}
    (below : k < nwords) : language.wordList.getD k [] ∈ language.wordList := by
  have inRange : k < language.wordList.length := by rwa [length_wordList listed]
  rw [List.getD_eq_getElem _ _ inRange]
  exact List.getElem_mem inRange

set_option maxRecDepth 20000 in
theorem english_head_ascii :
    ∀ word ∈ english.wordList, word.head?.any (·.toNat < 128) = true := by
  decide

set_option maxRecDepth 20000 in
theorem chineseSimplified_head_not_ascii :
    ∀ word ∈ chineseSimplified.wordList, word.head?.any (128 ≤ ·.toNat) = true := by
  decide

theorem mapFind_index_lt {keys : List (List UInt8)} {word stored : List UInt8} {index : Nat}
    (found : mapFind keys word = some (stored, index)) : index < keys.length := by
  unfold mapFind at found
  cases first : keys.find? fun key => utf8canonical key == utf8canonical word with
  | none => simp [first] at found
  | some first =>
    cases last : keys.zipIdx.reverse.find? fun entry =>
        utf8canonical entry.1 == utf8canonical word with
    | none => simp [first, last] at found
    | some entry =>
      simp only [first, last, Option.bind_eq_bind, Option.bind_some, Option.pure_def,
        Option.some.injEq, Prod.mk.injEq] at found
      have member := List.mem_reverse.mp (List.mem_of_find?_eq_some last)
      have indexed := (List.mem_zipIdx member).2.1
      omega

theorem prefixIndex_chineseSimplified_eq_none {word : List UInt8} {k' : Nat}
    (englishPrefix : english.prefixIndex word = some k') :
    chineseSimplified.prefixIndex word = none := by
  obtain ⟨entry, found, -⟩ := Option.map_eq_some_iff.mp englishPrefix
  obtain ⟨key, member, agrees⟩ := mapFind_isSome_iff.1 (Option.isSome_iff_exists.mpr ⟨entry, found⟩)
  obtain ⟨englishWord, englishListed, rfl⟩ := List.mem_map.mp member
  obtain ⟨first, englishHead, firstAscii⟩ :=
    (Option.any_eq_true _ _).1 (english_head_ascii englishWord englishListed)
  have englishPrefixLength : english.uniquePrefixLength = 2 + 1 := rfl
  obtain ⟨wordFirst, wordHead, firstClass⟩ := head?_of_utf8canonical_eq agrees
    (by rw [trimmedWord_eq, englishPrefixLength, head?_utf8Prefix, englishHead])
  rw [englishPrefixLength, head?_utf8Prefix] at wordHead
  have chinesePrefixLength : chineseSimplified.uniquePrefixLength = 0 + 1 := rfl
  rw [Language.prefixIndex, chinesePrefixLength, Option.map_eq_none_iff, mapFind_eq_none_iff]
  intro chineseKey chineseMember same
  obtain ⟨chineseWord, chineseListed, rfl⟩ := List.mem_map.mp chineseMember
  obtain ⟨lead, chineseHead, leadHigh⟩ :=
    (Option.any_eq_true _ _).1 (chineseSimplified_head_not_ascii chineseWord chineseListed)
  obtain ⟨second, secondHead, leadClass⟩ := head?_of_utf8canonical_eq same
    (by rw [trimmedWord_eq, chinesePrefixLength, head?_utf8Prefix, chineseHead])
  rw [head?_utf8Prefix, wordHead, Option.some.injEq] at secondHead
  have leadAscii : lead.toNat < 128 := leadClass.2 (secondHead ▸ firstClass.1 (by simpa using firstAscii))
  exact absurd leadAscii (by simpa using leadHigh)

/-! ### Both directions on a repeated word -/

theorem checksumTest_replicate {language : Language} {word : List UInt8}
    (found : (mapFind language.trimmedWordMap
      (utf8Prefix word language.uniquePrefixLength)).isSome) (count : Nat) :
    checksumTest (List.replicate (count + 2) word) language = some true := by
  have eachFound : ∀ other ∈ List.replicate (count + 1) word, (mapFind language.trimmedWordMap
      (utf8Prefix other language.uniquePrefixLength)).isSome := fun other member => by
    rwa [List.eq_of_mem_replicate member]
  obtain ⟨idx, checksum, below⟩ := createChecksumIndex_of_isSome (by simp) eachFound
  have picked : (List.replicate (count + 1) word).getD idx [] = word :=
    List.getD_replicate word (by simpa using below)
  have split : List.replicate (count + 2) word =
      List.replicate (count + 1) word ++ [(List.replicate (count + 1) word).getD idx []] := by
    rw [picked, ← List.replicate_succ']
  rw [split]
  exact checksumTest_append_checksum checksum

theorem length_flatten_replicate_toBytes (k count : Nat) :
    (List.replicate count (LittleEndian.toBytes 4 k)).flatten.length = 4 * count := by
  simp [List.length_flatten, List.sum_replicate, Nat.mul_comm]

theorem bytesToWords_replicate {language : Language} (listed : language ∈ getLanguageList)
    {k : Nat} (below : k < nwords) (count : Nat) :
    bytesToWords (List.replicate (count + 1) (LittleEndian.toBytes 4 k)).flatten
        language.languageName =
      some (some ((List.replicate (3 * (count + 1)) (language.wordList.getD k [])).flatMap
        (· ++ [32]) ++ language.wordList.getD k [])) := by
  have word := getD_mem_wordList listed below
  have eachFound : ∀ other ∈ List.replicate (3 * (count + 1)) (language.wordList.getD k []),
      (mapFind language.trimmedWordMap (utf8Prefix other language.uniquePrefixLength)).isSome :=
    fun other member => by
      rw [List.eq_of_mem_replicate member]
      exact mapFind_trimmedWordMap_isSome word
  obtain ⟨idx, checksum, picked⟩ := createChecksumIndex_of_isSome (by simp) eachFound
  unfold bytesToWords
  rw [length_flatten_replicate_toBytes, if_neg (by omega), findLanguage_languageName listed]
  simp only [length_wordList listed, Nat.mul_div_cancel_left _ (by decide : 0 < 4),
    encodeSeed_replicate _ below, checksum, Option.map_some]
  rw [List.getD_replicate _ (by simpa using picked)]

theorem mapFind_english_isSome {word : List UInt8} {k' : Nat}
    (englishPrefix : english.prefixIndex word = some k') :
    (mapFind english.trimmedWordMap (utf8Prefix word english.uniquePrefixLength)).isSome := by
  obtain ⟨entry, found, -⟩ := Option.map_eq_some_iff.mp englishPrefix
  rw [found]
  rfl

theorem findSeedLanguage_replicate {word : List UInt8} {k' : Nat}
    (englishPrefix : english.prefixIndex word = some k') (count : Nat) :
    findSeedLanguage (List.replicate (count + 2) word) true =
      some (some (english, List.replicate (count + 2) k')) := by
  have chinese : matchSeedWords (List.replicate (count + 2) word) true chineseSimplified = none := by
    simp [matchSeedWords, List.replicate_succ, List.mapM_cons,
      prefixIndex_chineseSimplified_eq_none englishPrefix]
  have matched : matchSeedWords (List.replicate (count + 2) word) true english =
      some (List.replicate (count + 2) k') := by
    simp only [matchSeedWords, if_true]
    exact mapM_replicate englishPrefix _
  simp only [findSeedLanguage, seedLanguageInstances, findSeedLanguageFrom, chinese, matched,
    if_true, checksumTest_replicate (mapFind_english_isSome englishPrefix)]

theorem wordsToBytes_of_english_prefix {word : List UInt8} {k' : Nat} (nonempty : word ≠ [])
    (noSpace : 32 ∉ word) (englishPrefix : english.prefixIndex word = some k') (count : Nat) :
    wordsToBytes ((List.replicate (3 * (count + 1)) word).flatMap (· ++ [32]) ++ word)
        (4 * (count + 1)) false =
      some (some ((List.replicate (count + 1) (LittleEndian.toBytes 4 k')).flatten,
        english.languageName)) := by
  have englishListed : english ∈ getLanguageList := by simp [getLanguageList]
  have indexBelow : k' < nwords := by
    obtain ⟨⟨stored, index⟩, found, picked⟩ := Option.map_eq_some_iff.mp englishPrefix
    have below := mapFind_index_lt found
    rw [Language.trimmedWordMap, List.length_map, length_wordList englishListed] at below
    simpa [← picked] using below
  have seedWords : split ((List.replicate (3 * (count + 1)) word).flatMap (· ++ [32]) ++ word) =
      List.replicate (3 * count + 2 + 2) word := by
    rw [split_words _ _ (fun other member => by
      rcases List.mem_cons.mp member with same | repeated
      · exact same ▸ ⟨nonempty, noSpace⟩
      · exact List.eq_of_mem_replicate repeated ▸ ⟨nonempty, noSpace⟩), ← List.replicate_succ']
    congr 1
  have multiple : ¬(4 * (count + 1) % 4 ≠ 0) := by omega
  have expectedWords : ¬(4 * (count + 1) ≠ 0 ∧ 3 * count + 2 + 2 ≠ 4 * (count + 1) * 8 * 3 / 32 / 2 ∧
      3 * count + 2 + 2 ≠ 4 * (count + 1) * 8 * 3 / 32 ∧
      3 * count + 2 + 2 ≠ 4 * (count + 1) * 8 * 3 / 32 + 1) := by omega
  have hasChecksum : (if 4 * (count + 1) ≠ 0 then
      3 * count + 2 + 2 == 4 * (count + 1) * 8 * 3 / 32 + 1 else true) = true := by
    rw [if_pos (by omega)]
    exact beq_iff_eq.mpr (by omega)
  have groups : (List.replicate (3 * count + 2 + 2) word).dropLast.length / 3 = count + 1 := by
    rw [List.length_dropLast, List.length_replicate]
    omega
  have indices : 3 * count + 2 + 2 = 3 * (count + 1) + 1 := by ring
  unfold wordsToBytes
  rw [seedWords, if_neg multiple]
  simp only [List.length_replicate]
  rw [if_neg expectedWords]
  simp only [hasChecksum, findSeedLanguage_replicate englishPrefix, if_true,
    checksumTest_replicate (mapFind_english_isSome englishPrefix), groups,
    length_wordList englishListed]
  rw [indices, decodeSeed_replicate indexBelow]
  simp

theorem words_of_an_english_prefix_restore_as_english {language : Language} {k k' count : Nat}
    (listed : language ∈ getLanguageList) (below : k < nwords)
    (nonempty : language.wordList.getD k [] ≠ []) (noSpace : 32 ∉ language.wordList.getD k [])
    (englishPrefix : english.prefixIndex (language.wordList.getD k []) = some k') :
    bytesToWords (List.replicate (count + 1) (LittleEndian.toBytes 4 k)).flatten
        language.languageName =
      some (some ((List.replicate (3 * (count + 1)) (language.wordList.getD k [])).flatMap
        (· ++ [32]) ++ language.wordList.getD k [])) ∧
    wordsToBytes ((List.replicate (3 * (count + 1)) (language.wordList.getD k [])).flatMap
        (· ++ [32]) ++ language.wordList.getD k []) (4 * (count + 1)) false =
      some (some ((List.replicate (count + 1) (LittleEndian.toBytes 4 k')).flatten,
        english.languageName)) :=
  ⟨bytesToWords_replicate listed below count,
    wordsToBytes_of_english_prefix nonempty noSpace englishPrefix count⟩

/-- The seed of the German key `02 00 00 00` eight times over: "abbilden",
twenty-four times and once more as the checksum word. -/
def abbildenSeed : List UInt8 :=
  (List.replicate 24 (wordBytes "abbilden")).flatMap (· ++ [32]) ++ wordBytes "abbilden"

theorem german_key_restored_as_english_zeros :
    bytesToWords (List.replicate 8 [2, 0, 0, 0]).flatten "Deutsch" = some (some abbildenSeed) ∧
      wordsToBytes abbildenSeed 32 false = some (some (List.replicate 32 0, "English")) := by
  have listed : german ∈ getLanguageList := by simp [getLanguageList]
  have below : 2 < nwords := by decide
  have word : german.wordList.getD 2 [] = wordBytes "abbilden" := by decide +kernel
  have nonempty : german.wordList.getD 2 [] ≠ [] := by rw [word]; decide
  have noSpace : 32 ∉ german.wordList.getD 2 [] := by rw [word]; decide
  have englishPrefix : english.prefixIndex (german.wordList.getD 2 []) = some 0 := by
    rw [word]
    decide +kernel
  have restored :
      bytesToWords (List.replicate (7 + 1) (LittleEndian.toBytes 4 2)).flatten german.languageName =
        some (some ((List.replicate (3 * (7 + 1)) (german.wordList.getD 2 [])).flatMap
          (· ++ [32]) ++ german.wordList.getD 2 [])) ∧
      wordsToBytes ((List.replicate (3 * (7 + 1)) (german.wordList.getD 2 [])).flatMap
          (· ++ [32]) ++ german.wordList.getD 2 []) (4 * (7 + 1)) false =
        some (some ((List.replicate (7 + 1) (LittleEndian.toBytes 4 0)).flatten,
          english.languageName)) :=
    words_of_an_english_prefix_restore_as_english listed below nonempty noSpace englishPrefix
  rw [word] at restored
  exact restored

end Antd.Mnemonics
