import Mathlib

/-! Finite maps as `std::map` keeps them: the entries in increasing key order,
each key once. Iteration visits the keys in order; `set` writes a new value
under a key; `insert` adds a key the map does not hold and leaves the value of
one it does. -/

/-- A map whose entries have strictly increasing keys. -/
structure SortedMap (κ ν : Type) [LinearOrder κ] where
  entries : List (κ × ν)
  sorted : (entries.map Prod.fst).Pairwise (· < ·)

namespace SortedMap

variable {κ ν : Type} [LinearOrder κ]

def keys (m : SortedMap κ ν) : List κ :=
  m.entries.map Prod.fst

def find? (m : SortedMap κ ν) (key : κ) : Option ν :=
  m.entries.lookup key

def setEntries (key : κ) (value : ν) (entries : List (κ × ν)) : List (κ × ν) :=
  entries.map fun entry => if entry.1 = key then (key, value) else entry

theorem map_fst_setEntries (key : κ) (value : ν) (entries : List (κ × ν)) :
    (setEntries key value entries).map Prod.fst = entries.map Prod.fst := by
  simp only [setEntries, List.map_map]
  apply List.map_congr_left
  intro entry _
  by_cases same : entry.1 = key
  · simp [same]
  · simp [same]

def set (m : SortedMap κ ν) (key : κ) (value : ν) : SortedMap κ ν :=
  ⟨setEntries key value m.entries, by rw [map_fst_setEntries]; exact m.sorted⟩

def erase (m : SortedMap κ ν) (key : κ) : SortedMap κ ν :=
  ⟨m.entries.filter fun entry => entry.1 ≠ key,
    m.sorted.sublist (List.filter_sublist.map Prod.fst)⟩

def insertEntry (key : κ) (value : ν) : List (κ × ν) → List (κ × ν)
  | [] => [(key, value)]
  | entry :: rest =>
    if key < entry.1 then (key, value) :: entry :: rest
    else if key = entry.1 then entry :: rest
    else entry :: insertEntry key value rest

theorem mem_insertEntry {key : κ} {value : ν} {entries : List (κ × ν)} {entry : κ × ν}
    (member : entry ∈ insertEntry key value entries) : entry = (key, value) ∨ entry ∈ entries := by
  induction entries with
  | nil => simpa [insertEntry] using member
  | cons first rest ih =>
    unfold insertEntry at member
    split at member
    · simpa using member
    · split at member
      · exact Or.inr member
      · rcases List.mem_cons.mp member with same | later
        · exact Or.inr (same ▸ List.mem_cons_self)
        · rcases ih later with added | old
          · exact Or.inl added
          · exact Or.inr (List.mem_cons_of_mem _ old)

theorem sorted_insertEntry (key : κ) (value : ν) {entries : List (κ × ν)}
    (sorted : (entries.map Prod.fst).Pairwise (· < ·)) :
    ((insertEntry key value entries).map Prod.fst).Pairwise (· < ·) := by
  induction entries with
  | nil => simp [insertEntry]
  | cons first rest ih =>
    simp only [List.map_cons, List.pairwise_cons, List.mem_map] at sorted
    obtain ⟨firstBelow, restSorted⟩ := sorted
    unfold insertEntry
    split
    · next below =>
      simp only [List.map_cons, List.pairwise_cons, List.mem_cons, List.mem_map]
      refine ⟨?_, ?_, restSorted⟩
      · rintro other (same | ⟨entry, member, rfl⟩)
        · exact same ▸ below
        · exact below.trans (firstBelow _ ⟨entry, member, rfl⟩)
      · rintro other ⟨entry, member, rfl⟩
        exact firstBelow _ ⟨entry, member, rfl⟩
    · split
      · simp only [List.map_cons, List.pairwise_cons, List.mem_map]
        exact ⟨firstBelow, restSorted⟩
      · next notBelow notSame =>
        have above : first.1 < key := lt_of_le_of_ne (not_lt.mp notBelow) (Ne.symm notSame)
        simp only [List.map_cons, List.pairwise_cons, List.mem_map]
        refine ⟨?_, ih restSorted⟩
        rintro other ⟨entry, member, rfl⟩
        rcases mem_insertEntry member with added | old
        · exact added ▸ above
        · exact firstBelow _ ⟨entry, old, rfl⟩

def insert (m : SortedMap κ ν) (key : κ) (value : ν) : SortedMap κ ν :=
  ⟨insertEntry key value m.entries, sorted_insertEntry key value m.sorted⟩

theorem keys_set (m : SortedMap κ ν) (key : κ) (value : ν) : (m.set key value).keys = m.keys :=
  map_fst_setEntries key value m.entries

theorem mem_set {m : SortedMap κ ν} {key : κ} {value : ν} {entry : κ × ν}
    (member : entry ∈ (m.set key value).entries) : entry = (key, value) ∨ entry ∈ m.entries := by
  obtain ⟨old, oldMember, written⟩ := List.mem_map.mp member
  by_cases same : old.1 = key
  · rw [if_pos same] at written
    exact Or.inl written.symm
  · rw [if_neg same] at written
    exact Or.inr (written ▸ oldMember)

theorem mem_insert {m : SortedMap κ ν} {key : κ} {value : ν} {entry : κ × ν}
    (member : entry ∈ (m.insert key value).entries) : entry = (key, value) ∨ entry ∈ m.entries :=
  mem_insertEntry member

theorem isSome_find?_iff {m : SortedMap κ ν} {key : κ} : (m.find? key).isSome ↔ key ∈ m.keys := by
  rw [find?, keys]
  induction m.entries with
  | nil => simp
  | cons first rest ih =>
    rw [List.lookup_cons]
    by_cases same : key = first.1
    · simp [same]
    · have different : (key == first.1) = false := by simpa using same
      simp [different, ih, same]

theorem lookup_of_mem {entries : List (κ × ν)} (sorted : (entries.map Prod.fst).Pairwise (· < ·))
    {entry : κ × ν} (member : entry ∈ entries) : entries.lookup entry.1 = some entry.2 := by
  induction entries with
  | nil => simp at member
  | cons first rest ih =>
    simp only [List.map_cons, List.pairwise_cons, List.mem_map] at sorted
    rw [List.lookup_cons]
    rcases List.mem_cons.mp member with same | later
    · subst same
      simp
    · have below : first.1 < entry.1 := sorted.1 _ ⟨entry, later, rfl⟩
      have different : (entry.1 == first.1) = false := by simpa using below.ne'
      simp only [different]
      exact ih sorted.2 later

theorem find?_of_mem {m : SortedMap κ ν} {entry : κ × ν} (member : entry ∈ m.entries) :
    m.find? entry.1 = some entry.2 :=
  lookup_of_mem m.sorted member

end SortedMap
