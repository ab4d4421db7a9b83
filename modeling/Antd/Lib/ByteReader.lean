import Mathlib

/-! Readers of byte strings, as a decoder reads a stream: a reader takes what
it decodes from the front of its input and leaves the rest, or fails.

`Reads read a encoded` says that `read` takes `a` from `encoded` whatever
follows it; the rules below build it for a decoder from its parts, so that a
round trip is proved by following the encoder. `Suffixing read` says that a
reader only ever consumes input, which is what ends a loop that reads until
the input is used up. -/

namespace ByteReader

/-- The value decoded from the front of the input and the rest of the input,
or `none` when the read fails. -/
def Reader (α : Type) : Type := List UInt8 → Option (α × List UInt8)

namespace Reader

variable {α β : Type}

instance : Monad Reader where
  pure a := fun input => some (a, input)
  bind read next := fun input => (read input).bind fun result => next result.1 result.2

@[simp] theorem pure_apply (a : α) (input : List UInt8) :
    (pure a : Reader α) input = some (a, input) := rfl

@[simp] theorem bind_apply (read : Reader α) (next : α → Reader β) (input : List UInt8) :
    (read >>= next) input = (read input).bind fun result => next result.1 result.2 := rfl

@[simp] theorem map_apply (f : α → β) (read : Reader α) (input : List UInt8) :
    (f <$> read) input = (read input).map fun result => (f result.1, result.2) := by
  show (read input).bind (fun result => some (f result.1, result.2)) = _
  cases read input <;> rfl

def fail : Reader α := fun _ => none

def byte : Reader UInt8
  | [] => none
  | first :: rest => some (first, rest)

def bytes (count : Nat) : Reader (List UInt8) := fun input =>
  if count ≤ input.length then some (input.take count, input.drop count) else none

def atLeast (count : Nat) : Reader Unit := fun input =>
  if count ≤ input.length then some ((), input) else none

def replicate (read : Reader α) : Nat → Reader (List α)
  | 0 => pure []
  | count + 1 => do
      let first ← read
      let rest ← replicate read count
      pure (first :: rest)

def readAll (read : Reader α) (input : List UInt8) : Option α :=
  match read input with
  | some (a, []) => some a
  | _ => none

end Reader

open Reader

variable {α β : Type}

/-! ### Round trips -/

def Reads (read : Reader α) (a : α) (encoded : List UInt8) : Prop :=
  ∀ rest, read (encoded ++ rest) = some (a, rest)

theorem reads_pure (a : α) : Reads (pure a) a [] := fun _ => rfl

theorem Reads.bind {read : Reader α} {next : α → Reader β} {a : α} {b : β}
    {first second : List UInt8} (readFirst : Reads read a first)
    (readSecond : Reads (next a) b second) :
    Reads (read >>= next) b (first ++ second) := by
  intro rest
  rw [bind_apply, List.append_assoc, readFirst]
  exact readSecond rest

theorem Reads.bind_pure {read : Reader α} {next : α → Reader β} {a : α} {b : β}
    {encoded : List UInt8} (readA : Reads read a encoded) (ends : next a = pure b) :
    Reads (read >>= next) b encoded := by
  rw [← List.append_nil encoded]
  exact readA.bind (ends ▸ reads_pure b)

theorem Reads.map {read : Reader α} {a : α} {encoded : List UInt8} (f : α → β)
    (readA : Reads read a encoded) : Reads (f <$> read) (f a) encoded := by
  intro rest
  rw [map_apply, readA]
  rfl

theorem reads_byte (b : UInt8) : Reads byte b [b] := fun _ => rfl

theorem reads_bytes (encoded : List UInt8) : Reads (bytes encoded.length) encoded encoded := by
  intro rest
  simp [bytes]

theorem Reads.atLeast {count : Nat} {next : Reader β} {b : β} {encoded : List UInt8}
    (enough : count ≤ encoded.length) (readNext : Reads next b encoded) :
    Reads (Reader.atLeast count >>= fun _ => next) b encoded := by
  intro rest
  have left : count ≤ (encoded ++ rest).length := by
    rw [List.length_append]
    omega
  simp only [bind_apply, Reader.atLeast, if_pos left, Option.bind_some]
  exact readNext rest

theorem reads_replicate {read : Reader α} (encode : α → List UInt8) :
    ∀ (values : List α), (∀ a ∈ values, Reads read a (encode a)) →
      Reads (replicate read values.length) values (values.flatMap encode)
  | [], _ => reads_pure []
  | a :: values, each => by
      have readRest := reads_replicate encode values
        (fun other member => each other (List.mem_cons_of_mem a member))
      rw [List.flatMap_cons, ← List.append_nil (encode a ++ _), List.append_assoc]
      exact (each a List.mem_cons_self).bind (readRest.bind (reads_pure (a :: values)))

theorem Reads.readAll {read : Reader α} {a : α} {encoded : List UInt8}
    (readA : Reads read a encoded) : Reader.readAll read encoded = some a := by
  have whole := readA []
  rw [List.append_nil] at whole
  simp [Reader.readAll, whole]

/-! ### What a reader returns -/

def Yields (read : Reader α) (holds : α → Prop) : Prop :=
  ∀ (input : List UInt8) (a : α) (rest : List UInt8), read input = some (a, rest) → holds a

theorem yields_pure {holds : α → Prop} {a : α} (holdsA : holds a) : Yields (pure a) holds := by
  intro input b rest read
  cases read
  exact holdsA

theorem yields_fail (holds : α → Prop) : Yields fail holds := by
  intro input a rest read
  cases read

theorem Yields.bind {read : Reader α} {next : α → Reader β} {first : α → Prop}
    {second : β → Prop} (readFirst : Yields read first)
    (readSecond : ∀ a, first a → Yields (next a) second) : Yields (read >>= next) second := by
  intro input b rest readBoth
  rw [bind_apply, Option.bind_eq_some_iff] at readBoth
  obtain ⟨⟨a, middle⟩, readA, readB⟩ := readBoth
  exact readSecond a (readFirst _ _ _ readA) _ _ _ readB

theorem Yields.map {read : Reader α} {holds : α → Prop} {after : β → Prop} (f : α → β)
    (yields : Yields read holds) (mapped : ∀ a, holds a → after (f a)) :
    Yields (f <$> read) after := by
  intro input b rest readB
  rw [map_apply, Option.map_eq_some_iff] at readB
  obtain ⟨⟨a, middle⟩, readA, same⟩ := readB
  cases same
  exact mapped a (yields _ _ _ readA)

theorem Yields.mono {read : Reader α} {holds weaker : α → Prop} (yields : Yields read holds)
    (implies : ∀ a, holds a → weaker a) : Yields read weaker :=
  fun input a rest readA => implies a (yields input a rest readA)

theorem yields_true (read : Reader α) : Yields read fun _ => True :=
  fun _ _ _ _ => trivial

theorem yields_bytes (count : Nat) : Yields (bytes count) fun taken => taken.length = count := by
  intro input taken rest read
  unfold bytes at read
  split at read
  · cases read
    rw [List.length_take]
    omega
  · cases read

theorem Yields.replicate {read : Reader α} {holds : α → Prop} (yields : Yields read holds) :
    ∀ count, Yields (Reader.replicate read count)
      fun values => values.length = count ∧ ∀ a ∈ values, holds a
  | 0 => yields_pure ⟨rfl, fun _ member => by cases member⟩
  | count + 1 =>
      yields.bind fun first holdsFirst =>
        (Yields.replicate yields count).bind fun rest holdsRest =>
          yields_pure ⟨by rw [List.length_cons, holdsRest.1], fun a member => by
            rcases List.mem_cons.mp member with rfl | later
            · exact holdsFirst
            · exact holdsRest.2 a later⟩

theorem Yields.readAll {read : Reader α} {holds : α → Prop} (yields : Yields read holds)
    {input : List UInt8} {a : α} (readA : Reader.readAll read input = some a) : holds a := by
  unfold Reader.readAll at readA
  split at readA
  · rename_i whole
    cases readA
    exact yields _ _ _ whole
  · cases readA

/-! ### Readers consume input -/

def Suffixing (read : Reader α) : Prop :=
  ∀ (input : List UInt8) (a : α) (rest : List UInt8), read input = some (a, rest) → rest <:+ input

theorem suffixing_pure (a : α) : Suffixing (pure a : Reader α) := by
  intro input b rest read
  cases read
  exact List.suffix_refl _

theorem Suffixing.bind {read : Reader α} {next : α → Reader β} (first : Suffixing read)
    (second : ∀ a, Suffixing (next a)) : Suffixing (read >>= next) := by
  intro input b rest readBoth
  rw [bind_apply, Option.bind_eq_some_iff] at readBoth
  obtain ⟨⟨a, middle⟩, readA, readB⟩ := readBoth
  exact (second a _ _ _ readB).trans (first _ _ _ readA)

theorem Suffixing.map {read : Reader α} (f : α → β) (suffixing : Suffixing read) :
    Suffixing (f <$> read) := by
  intro input b rest readB
  rw [map_apply, Option.map_eq_some_iff] at readB
  obtain ⟨⟨a, middle⟩, readA, same⟩ := readB
  cases same
  exact suffixing _ _ _ readA

theorem suffixing_fail : Suffixing (fail : Reader α) := by
  intro input a rest read
  cases read

theorem suffixing_bytes (count : Nat) : Suffixing (bytes count) := by
  intro input taken rest read
  unfold bytes at read
  split at read
  · cases read
    exact List.drop_suffix count input
  · cases read

theorem suffixing_atLeast (count : Nat) : Suffixing (Reader.atLeast count) := by
  intro input checked rest read
  unfold Reader.atLeast at read
  split at read
  · cases read
    exact List.suffix_refl _
  · cases read

theorem Suffixing.replicate {read : Reader α} (suffixing : Suffixing read) :
    ∀ count, Suffixing (Reader.replicate read count)
  | 0 => suffixing_pure []
  | count + 1 =>
      Suffixing.bind suffixing fun _ =>
        Suffixing.bind (Suffixing.replicate suffixing count) fun _ => suffixing_pure _

theorem length_lt_of_byte_bind {next : UInt8 → Reader β} (suffixing : ∀ b, Suffixing (next b))
    {input rest : List UInt8} {b : β} (read : (byte >>= next) input = some (b, rest)) :
    rest.length < input.length := by
  rw [bind_apply, Option.bind_eq_some_iff] at read
  obtain ⟨⟨first, middle⟩, readByte, readNext⟩ := read
  cases input with
  | nil => cases readByte
  | cons head tail =>
      simp only [byte, Option.some.injEq, Prod.mk.injEq] at readByte
      obtain ⟨rfl, rfl⟩ := readByte
      have shorter : rest.length ≤ tail.length := (suffixing _ _ _ _ readNext).length_le
      simp only [List.length_cons]
      omega

end ByteReader
