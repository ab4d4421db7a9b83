import Mathlib

/-! `epee::net_utils::buffer` (`net/buffer.h`, `buffer.cpp`): a byte queue
kept in a vector, with an offset past the bytes already consumed. `append`
moves the bytes left to the front, or copies them to a new vector, when the
new bytes do not fit after them; `erase` and `carve` advance the offset.
Whatever the storage does, the bytes from the offset on behave as a FIFO
queue: `contents` is the abstraction, and every operation acts on it as the
list operation of the same name. -/

namespace Antd.Epee

def sizeMax : Nat := 2 ^ 64 - 1

/-- `net_utils::buffer`: the vector (with its capacity) and the offset, which
the checks of `erase` and `carve` keep within it. -/
structure Buffer where
  storage : List UInt8
  capacity : Nat
  offset : Nat
  offset_le : offset ≤ storage.length
  length_le : storage.length ≤ capacity

namespace Buffer

def init (reserve : Nat) : Buffer := ⟨[], reserve, 0, le_rfl, Nat.zero_le _⟩

def size (b : Buffer) : Nat := b.storage.length - b.offset

def contents (b : Buffer) : List UInt8 := b.storage.drop b.offset

def compact (b : Buffer) : Buffer :=
  ⟨b.storage.drop b.offset, b.capacity, 0, Nat.zero_le _,
    by rw [List.length_drop]; exact le_trans (Nat.sub_le _ _) b.length_le⟩

def reallocate (b : Buffer) (reserve : Nat) : Buffer :=
  ⟨b.storage.drop b.offset, max reserve b.size, 0, Nat.zero_le _,
    by rw [List.length_drop]; exact le_max_right _ _⟩

def insertEnd (b : Buffer) (data : List UInt8) : Buffer :=
  ⟨b.storage ++ data, max b.capacity (b.storage.length + data.length), b.offset,
    by rw [List.length_append]; exact le_trans b.offset_le (Nat.le_add_right _ _),
    by rw [List.length_append]; exact le_max_right _ _⟩

def append (b : Buffer) (data : List UInt8) : Option Buffer :=
  let sz := data.length
  let avail := b.capacity - b.storage.length
  if b.storage.length < sizeMax - sz then
    let placed :=
      if sz > avail then
        if b.size + sz ≤ b.capacity then b.compact
        else b.reallocate (((UInt64.ofNat (b.size + sz) * 3 / 2) + 4095) &&& ~~~4095).toNat
      else if b.size ≤ 4096 ∧ b.offset > 4096 * 16 ∧ b.offset ≥ b.capacity / 2 then b.compact
      else b
    some (placed.insertEnd data)
  else none

def erase (b : Buffer) (sz : Nat) : Option Buffer :=
  if within : b.offset + sz ≤ b.storage.length then
    if b.offset + sz = b.storage.length then some ⟨[], b.capacity, 0, le_rfl, Nat.zero_le _⟩
    else some ⟨b.storage, b.capacity, b.offset + sz, within, b.length_le⟩
  else none

def span (b : Buffer) (sz : Nat) : Option (List UInt8) :=
  if sz ≤ b.size then some (b.contents.take sz) else none

def carve (b : Buffer) (sz : Nat) : Option (List UInt8 × Buffer) :=
  if within : sz ≤ b.size then
    some (b.contents.take sz, ⟨b.storage, b.capacity, b.offset + sz,
      by have := b.offset_le; unfold size at within; omega, b.length_le⟩)
  else none

/-! ### The queue -/

variable {b b' : Buffer}

theorem size_eq_length (b : Buffer) : b.size = b.contents.length := by
  rw [size, contents, List.length_drop]

@[simp] theorem contents_init (reserve : Nat) : (init reserve).contents = [] := rfl

@[simp] theorem contents_compact (b : Buffer) : b.compact.contents = b.contents := by
  simp [compact, contents]

@[simp] theorem contents_reallocate (b : Buffer) (reserve : Nat) :
    (b.reallocate reserve).contents = b.contents := by
  simp [reallocate, contents]

@[simp] theorem contents_insertEnd (b : Buffer) (data : List UInt8) :
    (b.insertEnd data).contents = b.contents ++ data :=
  List.drop_append_of_le_length b.offset_le

theorem contents_append {data : List UInt8} (appended : b.append data = some b') :
    b'.contents = b.contents ++ data := by
  unfold append at appended
  dsimp only at appended
  by_cases small : b.storage.length < sizeMax - data.length
  · rw [if_pos small, Option.some.injEq] at appended
    subst appended
    rw [contents_insertEnd]
    split
    · split <;> simp
    · split <;> simp
  · rw [if_neg small] at appended
    cases appended

theorem append_eq_some {data : List UInt8} (small : b.storage.length + data.length < sizeMax) :
    ∃ b', b.append data = some b' := by
  unfold append
  rw [if_pos (by omega)]
  exact ⟨_, rfl⟩

theorem contents_erase {sz : Nat} (erased : b.erase sz = some b') :
    b'.contents = b.contents.drop sz := by
  unfold erase at erased
  split at erased
  · split at erased
    · next consumed =>
        cases erased
        simp [contents, List.drop_drop, List.drop_eq_nil_of_le, consumed]
    · cases erased
      simp [contents, List.drop_drop, Nat.add_comm]
  · cases erased

theorem span_eq (b : Buffer) (sz : Nat) :
    b.span sz = if sz ≤ b.contents.length then some (b.contents.take sz) else none := by
  rw [span, size_eq_length]

theorem contents_carve {sz : Nat} {taken : List UInt8} (carved : b.carve sz = some (taken, b')) :
    taken = b.contents.take sz ∧ b'.contents = b.contents.drop sz := by
  unfold carve at carved
  split at carved
  · cases carved
    exact ⟨rfl, by simp [contents, List.drop_drop, Nat.add_comm]⟩
  · cases carved

end Buffer

end Antd.Epee
