import Mathlib

/-! The writing archives of `src/serialization` as the serializers use them.
A serializer makes a sequence of calls on its archive (a tag, the beginning
and end of an object or of an array, a blob, a number) whatever the archive
does with them; a failed check makes it return `false`, and then the calls do
not matter.

`json_archive<true>` (`json_archive.h`) writes the calls as text. The only
brackets in that text are those of `begin_array` and `end_array` and of tag
names: the text written for a sequence of calls has as many `[` more than `]`
as the sequence's `squareBalance` (`squareCount_run`). -/

namespace Antd.Serialization

/-- A call a serializer makes on a writing archive. -/
inductive ArchiveCall where
  | tag (name : String)
  | beginObject
  | endObject
  | beginArray (size : Nat)
  | delimitArray
  | endArray
  /-- `serialize_blob`, for the blob types. -/
  | blob (bytes : List UInt8)
  | int (value : Nat)
  | varint (value : Nat)
  deriving DecidableEq, Repr

namespace ArchiveCall

/-- What a call opens of the arrays, less what it closes: `begin_array` one,
`end_array` one less, and the brackets in a tag's name. -/
def squareWeight : ArchiveCall → Int
  | tag name => (name.toList.count '[' : Int) - name.toList.count ']'
  | beginArray _ => 1
  | endArray => -1
  | _ => 0

end ArchiveCall

def squareBalance (calls : List ArchiveCall) : Int := (calls.map ArchiveCall.squareWeight).sum

/-- `do_serialize_container` writing: `begin_array` with the size, the
elements with `delimit_array` between them, `end_array`. -/
def containerCalls {α : Type} (element : α → List ArchiveCall) (items : List α) :
    List ArchiveCall :=
  .beginArray items.length :: List.intercalate [.delimitArray] (items.map element) ++ [.endArray]

/-- `json_archive<true>` and its stream. -/
structure JsonArchive where
  text : List Char
  indent : Bool
  objectBegin : Bool
  depth : Nat
  innerArraySize : Nat

namespace JsonArchive

def makeIndent (ar : JsonArchive) : List Char :=
  if ar.indent then '\n' :: List.replicate (2 * ar.depth % 2 ^ 64) ' ' else []

def hexByte (byte : UInt8) : List Char :=
  [Nat.digitChar (byte.toNat / 16), Nat.digitChar (byte.toNat % 16)]

def write (ar : JsonArchive) : ArchiveCall → JsonArchive
  | .tag name =>
      let separated := if ar.objectBegin then ar.text else ar.text ++ ", ".toList
      { ar with
        text := separated ++ ar.makeIndent ++ ['"'] ++ name.toList ++ "\": ".toList
        objectBegin := false }
  | .beginObject =>
      { ar with
        text := ar.text ++ ['\x7b']
        depth := (ar.depth + 1) % 2 ^ 64
        objectBegin := true }
  | .endObject =>
      let closed := { ar with depth := (ar.depth + (2 ^ 64 - 1)) % 2 ^ 64 }
      { closed with text := closed.text ++ closed.makeIndent ++ ['\x7d'] }
  | .beginArray size =>
      { ar with
        text := ar.text ++ "[ ".toList
        depth := (ar.depth + 1) % 2 ^ 64
        innerArraySize := size }
  | .delimitArray => { ar with text := ar.text ++ ", ".toList }
  | .endArray =>
      let closed := { ar with depth := (ar.depth + (2 ^ 64 - 1)) % 2 ^ 64 }
      { closed with
        text := closed.text ++ (if 0 < closed.innerArraySize then closed.makeIndent else []) ++ [']'] }
  | .blob bytes => { ar with text := ar.text ++ ['"'] ++ bytes.flatMap hexByte ++ ['"'] }
  | .int value => { ar with text := ar.text ++ Nat.toDigits 10 value }
  | .varint value => { ar with text := ar.text ++ Nat.toDigits 10 value }

def run (ar : JsonArchive) (calls : List ArchiveCall) : JsonArchive := calls.foldl write ar

end JsonArchive

def squareCount (text : List Char) : Int := (text.count '[' : Int) - text.count ']'

/-! ### Balances -/

@[simp] theorem squareBalance_nil : squareBalance [] = 0 := rfl

@[simp] theorem squareBalance_cons (call : ArchiveCall) (calls : List ArchiveCall) :
    squareBalance (call :: calls) = call.squareWeight + squareBalance calls := by
  simp [squareBalance]

@[simp] theorem squareBalance_append (calls calls' : List ArchiveCall) :
    squareBalance (calls ++ calls') = squareBalance calls + squareBalance calls' := by
  simp [squareBalance]

theorem squareBalance_intercalate :
    ∀ elements : List (List ArchiveCall),
      squareBalance (List.intercalate [.delimitArray] elements) = (elements.map squareBalance).sum
  | [] => rfl
  | [element] => by simp
  | element :: next :: more => by
      rw [List.intercalate_cons_cons, squareBalance_append, squareBalance_append,
        squareBalance_intercalate (next :: more)]
      simp [ArchiveCall.squareWeight]

theorem squareBalance_intercalate_of_balanced {elements : List (List ArchiveCall)}
    (balanced : ∀ element ∈ elements, squareBalance element = 0) :
    squareBalance (List.intercalate [.delimitArray] elements) = 0 := by
  rw [squareBalance_intercalate, List.sum_eq_zero]
  intro weight member
  obtain ⟨element, elementMember, rfl⟩ := List.mem_map.mp member
  exact balanced element elementMember

theorem balanced_of_mapM {α : Type} {serialize : α → Option (List ArchiveCall)}
    (balanced : ∀ item calls, serialize item = some calls → squareBalance calls = 0) :
    ∀ {items : List α} {elements : List (List ArchiveCall)}, items.mapM serialize = some elements →
      ∀ element ∈ elements, squareBalance element = 0
  | [], elements, made => by
      rw [List.mapM_nil] at made
      cases made
      simp
  | item :: items, elements, made => by
      rw [List.mapM_cons] at made
      obtain ⟨first, firstMade, restMade⟩ := Option.bind_eq_some_iff.mp made
      obtain ⟨rest, restMapped, restEq⟩ := Option.bind_eq_some_iff.mp restMade
      cases restEq
      intro element member
      rcases List.mem_cons.mp member with rfl | later
      · exact balanced item _ firstMade
      · exact balanced_of_mapM balanced restMapped element later

theorem squareBalance_containerCalls {α : Type} {element : α → List ArchiveCall} (items : List α)
    (balanced : ∀ item, squareBalance (element item) = 0) :
    squareBalance (containerCalls element items) = 0 := by
  rw [containerCalls, squareBalance_append, squareBalance_cons,
    squareBalance_intercalate_of_balanced]
  · simp [ArchiveCall.squareWeight]
  · intro call member
    obtain ⟨item, _, rfl⟩ := List.mem_map.mp member
    exact balanced item

/-! ### The text -/

@[simp] theorem squareCount_append (text text' : List Char) :
    squareCount (text ++ text') = squareCount text + squareCount text' := by
  simp only [squareCount, List.count_append, Nat.cast_add]
  ring

theorem squareCount_of_plain {text : List Char} (noOpen : '[' ∉ text) (noClose : ']' ∉ text) :
    squareCount text = 0 := by
  rw [squareCount, List.count_eq_zero.mpr noOpen, List.count_eq_zero.mpr noClose]
  rfl

theorem squareCount_makeIndent (ar : JsonArchive) : squareCount ar.makeIndent = 0 := by
  unfold JsonArchive.makeIndent
  split
  · apply squareCount_of_plain <;> simp [List.mem_replicate]
  · rfl

theorem hexByte_plain (byte : UInt8) :
    '[' ∉ JsonArchive.hexByte byte ∧ ']' ∉ JsonArchive.hexByte byte := by
  have digit : ∀ value : Fin 16, Nat.digitChar value.val ≠ '[' ∧ Nat.digitChar value.val ≠ ']' := by
    decide
  have high := digit ⟨byte.toNat / 16, by have := byte.toNat_lt; omega⟩
  have low := digit ⟨byte.toNat % 16, Nat.mod_lt _ (by norm_num)⟩
  simp only [JsonArchive.hexByte, List.mem_cons, List.mem_nil_iff, or_false, not_or]
  exact ⟨⟨high.1.symm, low.1.symm⟩, ⟨high.2.symm, low.2.symm⟩⟩

theorem squareCount_hexBytes (bytes : List UInt8) :
    squareCount (bytes.flatMap JsonArchive.hexByte) = 0 := by
  apply squareCount_of_plain
  · simp only [List.mem_flatMap, not_exists, not_and]
    exact fun byte _ => (hexByte_plain byte).1
  · simp only [List.mem_flatMap, not_exists, not_and]
    exact fun byte _ => (hexByte_plain byte).2

theorem squareCount_toDigits (value : Nat) : squareCount (Nat.toDigits 10 value) = 0 := by
  apply squareCount_of_plain <;>
  · intro member
    have isDigit := Nat.isDigit_of_mem_toDigits (by norm_num) le_rfl member
    revert isDigit
    decide

theorem write_text (ar : JsonArchive) (call : ArchiveCall) :
    ∃ written, (ar.write call).text = ar.text ++ written ∧
      squareCount written = call.squareWeight := by
  cases call with
  | tag name =>
      refine ⟨(if ar.objectBegin then [] else ", ".toList) ++ ar.makeIndent ++ ['"'] ++
        name.toList ++ "\": ".toList, ?_, ?_⟩
      · simp only [JsonArchive.write]
        split <;> simp
      · simp only [squareCount_append, squareCount_makeIndent, ArchiveCall.squareWeight]
        split <;> simp [squareCount]
  | beginObject => exact ⟨['\x7b'], rfl, by decide⟩
  | endObject =>
      refine ⟨JsonArchive.makeIndent { ar with depth := (ar.depth + (2 ^ 64 - 1)) % 2 ^ 64 } ++
        ['\x7d'], by simp [JsonArchive.write], ?_⟩
      rw [squareCount_append, squareCount_makeIndent]
      decide
  | beginArray size =>
      refine ⟨"[ ".toList, rfl, ?_⟩
      simp only [ArchiveCall.squareWeight]
      decide
  | delimitArray => exact ⟨", ".toList, rfl, by decide⟩
  | endArray =>
      let closed := { ar with depth := (ar.depth + (2 ^ 64 - 1)) % 2 ^ 64 }
      refine ⟨(if 0 < closed.innerArraySize then closed.makeIndent else []) ++ [']'],
        by simp [JsonArchive.write, closed], ?_⟩
      rw [squareCount_append]
      split
      · rw [squareCount_makeIndent]
        decide
      · decide
  | blob bytes =>
      refine ⟨['"'] ++ bytes.flatMap JsonArchive.hexByte ++ ['"'], by simp [JsonArchive.write], ?_⟩
      rw [squareCount_append, squareCount_append, squareCount_hexBytes]
      simp only [ArchiveCall.squareWeight]
      decide
  | int value => exact ⟨_, rfl, squareCount_toDigits value⟩
  | varint value => exact ⟨_, rfl, squareCount_toDigits value⟩

theorem squareCount_run :
    ∀ (calls : List ArchiveCall) (ar : JsonArchive),
      squareCount (ar.run calls).text = squareCount ar.text + squareBalance calls
  | [], ar => by simp [JsonArchive.run]
  | call :: calls, ar => by
      obtain ⟨written, textEq, weight⟩ := write_text ar call
      have rest := squareCount_run calls (ar.write call)
      rw [JsonArchive.run, List.foldl_cons] at *
      rw [rest, textEq, squareCount_append, weight, squareBalance_cons]
      ring

end Antd.Serialization
