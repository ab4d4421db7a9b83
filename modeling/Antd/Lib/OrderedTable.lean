import Mathlib

/-! A table of an ordered key-value store, as the list of its entries in key
order. A bulk append requires a key above every key of the table, as a B-tree
append does; a lookup finds the first entry of a key and a delete removes it.
An entry added under a key the table does not hold is the one a later lookup
finds and a later delete removes, so a delete undoes the add. -/

namespace OrderedTable

variable {κ ν : Type*}

section Lookup

variable [DecidableEq κ]

def find? (key : κ) (table : List (κ × ν)) : Option ν :=
  (table.find? fun entry => entry.1 = key).map Prod.snd

def delete (key : κ) (table : List (κ × ν)) : Option (List (κ × ν)) :=
  if table.any fun entry => entry.1 = key then some (table.eraseP fun entry => entry.1 = key)
  else none

def insertNew (key : κ) (value : ν) (table : List (κ × ν)) : Option (List (κ × ν)) :=
  if table.any fun entry => entry.1 = key then none else some (table ++ [(key, value)])

variable {key : κ} {value : ν} {table : List (κ × ν)}

def Fresh (key : κ) (table : List (κ × ν)) : Prop := ∀ entry ∈ table, entry.1 ≠ key

theorem find?_append_fresh (fresh : Fresh key table) :
    find? key (table ++ [(key, value)]) = some value := by
  have none : table.find? (fun entry => decide (entry.1 = key)) = Option.none :=
    List.find?_eq_none.mpr fun entry member => by simpa using fresh entry member
  simp [find?, List.find?_append, none]

theorem insertNew_eq_some {table' : List (κ × ν)}
    (inserted : insertNew key value table = some table') :
    Fresh key table ∧ table' = table ++ [(key, value)] := by
  unfold insertNew at inserted
  split at inserted
  · cases inserted
  · rename_i absent
    cases inserted
    refine ⟨fun entry member same => absent ?_, rfl⟩
    exact List.any_eq_true.mpr ⟨entry, member, by simpa using same⟩

theorem mem_of_find?_eq_some (found : find? key table = some value) : (key, value) ∈ table := by
  unfold find? at found
  obtain ⟨entry, located, rfl⟩ := Option.map_eq_some_iff.mp found
  have under := List.find?_some located
  simp only [decide_eq_true_eq] at under
  rw [← under]
  exact List.mem_of_find?_eq_some located

theorem find?_of_mem (nodup : (table.map Prod.fst).Nodup) (member : (key, value) ∈ table) :
    find? key table = some value := by
  induction table with
  | nil => cases member
  | cons entry rest ih =>
      rw [List.map_cons, List.nodup_cons] at nodup
      rcases List.mem_cons.mp member with same | later
      · simp [find?, ← same]
      · have differs : entry.1 ≠ key := fun same =>
          nodup.1 (same ▸ List.mem_map_of_mem (f := Prod.fst) later)
        simpa [find?, differs] using ih nodup.2 later

theorem insertNew_of_fresh (fresh : Fresh key table) :
    insertNew key value table = some (table ++ [(key, value)]) := by
  unfold insertNew
  rw [if_neg]
  intro held
  obtain ⟨entry, member, same⟩ := List.any_eq_true.mp held
  exact fresh entry member (of_decide_eq_true same)

theorem find?_map_range {n i : Nat} (keyOf : Nat → κ) (valueOf : Nat → ν)
    (keyInj : ∀ a < n, ∀ b < n, keyOf a = keyOf b → a = b) (below : i < n) :
    find? (keyOf i) ((List.range n).map fun j => (keyOf j, valueOf j)) = some (valueOf i) := by
  refine find?_of_mem ?_ (List.mem_map.mpr ⟨i, List.mem_range.mpr below, rfl⟩)
  rw [List.map_map]
  exact List.Nodup.map_on (fun a member b member' same => keyInj a (List.mem_range.mp member) b
    (List.mem_range.mp member') same) List.nodup_range

def put (key : κ) (value : ν) (table : List (κ × ν)) : List (κ × ν) :=
  (table.filter fun entry => entry.1 ≠ key) ++ [(key, value)]

variable {other : κ} {table' : List (κ × ν)}

theorem find?_eq_none_iff : find? key table = none ↔ Fresh key table := by
  simp [find?, Fresh, List.find?_eq_none]

theorem find?_append_ne (ne : other ≠ key) :
    find? other (table ++ [(key, value)]) = find? other table := by
  simp [find?, List.find?_append, Ne.symm ne]

theorem find?_put_self : find? key (put key value table) = some value :=
  find?_append_fresh fun entry member => by simpa using (List.mem_filter.mp member).2

theorem find?_put_ne (ne : other ≠ key) : find? other (put key value table) = find? other table := by
  rw [put, find?_append_ne ne, find?, find?, List.find?_filter]
  congr 1
  apply List.find?_congr
  intro entry _
  by_cases same : entry.1 = other
  · simp [same, ne]
  · simp [same]

theorem fresh_of_delete_eq_none (deleted : delete key table = none) : Fresh key table := by
  unfold delete at deleted
  split at deleted
  · cases deleted
  · next absent =>
      intro entry member same
      exact absent (List.any_eq_true.mpr ⟨entry, member, by simpa using same⟩)

theorem find?_delete_ne (ne : other ≠ key) (deleted : delete key table = some table') :
    find? other table' = find? other table := by
  unfold delete at deleted
  split at deleted
  · cases deleted
    induction table with
    | nil => rfl
    | cons entry rest ih =>
        by_cases under : entry.1 = key
        · rw [List.eraseP_cons_of_pos (by simpa using under)]
          simp [find?, under, Ne.symm ne]
        · rw [List.eraseP_cons_of_neg (by simpa using under)]
          by_cases isOther : entry.1 = other
          · simp [find?, isOther]
          · have restAny : rest.any (fun entry => decide (entry.1 = key)) = true := by
              simp_all
            simpa [find?, isOther] using ih restAny
  · cases deleted

theorem keys_nodup_delete (nodup : (table.map Prod.fst).Nodup)
    (deleted : delete key table = some table') : (table'.map Prod.fst).Nodup := by
  unfold delete at deleted
  split at deleted
  · cases deleted
    exact (List.eraseP_sublist.map Prod.fst).nodup nodup
  · cases deleted

theorem find?_delete_self (nodup : (table.map Prod.fst).Nodup)
    (deleted : delete key table = some table') : find? key table' = none := by
  unfold delete at deleted
  split at deleted
  · cases deleted
    induction table with
    | nil => rfl
    | cons entry rest ih =>
        rw [List.map_cons, List.nodup_cons] at nodup
        by_cases under : entry.1 = key
        · rw [List.eraseP_cons_of_pos (by simpa using under), find?_eq_none_iff]
          intro later member same
          exact nodup.1 (under ▸ same ▸ List.mem_map_of_mem member)
        · rw [List.eraseP_cons_of_neg (by simpa using under)]
          have restAny : rest.any (fun entry => decide (entry.1 = key)) = true := by
            simp_all
          simpa [find?, under] using ih nodup.2 restAny
  · cases deleted

theorem keys_nodup_put (nodup : (table.map Prod.fst).Nodup) :
    ((put key value table).map Prod.fst).Nodup := by
  rw [put, List.map_append, List.nodup_append]
  refine ⟨(List.filter_sublist.map Prod.fst).nodup nodup, List.nodup_singleton _, ?_⟩
  intro kept member new added
  simp only [List.mem_map, List.mem_filter] at member
  obtain ⟨entry, ⟨_, notKey⟩, rfl⟩ := member
  simp only [List.map_cons, List.map_nil, List.mem_singleton] at added
  simp_all

end Lookup

section Append

variable [LinearOrder κ]

/-- `MDB_APPEND`: adds an entry under a key above every key of the table,
and fails otherwise. -/
def append (key : κ) (value : ν) (table : List (κ × ν)) : Option (List (κ × ν)) :=
  if table.all fun entry => entry.1 < key then some (table ++ [(key, value)]) else none

variable {key : κ} {value : ν} {table table' : List (κ × ν)}

theorem append_eq_some (appended : append key value table = some table') :
    (∀ entry ∈ table, entry.1 < key) ∧ table' = table ++ [(key, value)] := by
  unfold append at appended
  split at appended
  · rename_i below
    cases appended
    exact ⟨fun entry member => by simpa using List.all_eq_true.mp below entry member, rfl⟩
  · cases appended

theorem append_of_below (below : ∀ entry ∈ table, entry.1 < key) :
    append key value table = some (table ++ [(key, value)]) := by
  unfold append
  rw [if_pos (List.all_eq_true.mpr fun entry member => decide_eq_true (below entry member))]

theorem fresh_of_below (below : ∀ entry ∈ table, entry.1 < key) : Fresh key table :=
  fun entry member => ne_of_lt (below entry member)

theorem find?_of_append (appended : append key value table = some table') :
    find? key table' = some value := by
  obtain ⟨below, rfl⟩ := append_eq_some appended
  exact find?_append_fresh (fresh_of_below below)

theorem ne_of_find?_of_append {other : κ} (appended : append key value table = some table')
    (found : (find? other table).isSome) : other ≠ key := by
  obtain ⟨below, -⟩ := append_eq_some appended
  obtain ⟨held, holds⟩ := Option.isSome_iff_exists.mp found
  exact ne_of_lt (below _ (mem_of_find?_eq_some holds))

theorem keys_nodup_append (nodup : (table.map Prod.fst).Nodup)
    (appended : append key value table = some table') : (table'.map Prod.fst).Nodup := by
  obtain ⟨below, rfl⟩ := append_eq_some appended
  rw [List.map_append, List.nodup_append]
  refine ⟨nodup, List.nodup_singleton _, ?_⟩
  intro old member new added same
  simp only [List.mem_map] at member
  simp only [List.map_cons, List.map_nil, List.mem_singleton] at added
  obtain ⟨entry, inTable, rfl⟩ := member
  exact ne_of_lt (below entry inTable) (same.trans added)

end Append

end OrderedTable
