import Mathlib

/-! A container with an ordered unique index by a key and an ordered
non-unique index by a time, as a `boost::multi_index_container` of two such
indices keeps it: the list of its elements in the order of the time index.
The key index is used for lookups only.

An insertion links the element after every element of no later time, where
an ordered non-unique index links it (the upper bound of its time). A
replacement keeps the element's place when its new time still fits between
its neighbours, and otherwise unlinks it and links it again. Trimming erases
from the front of the time index, so it erases the elements of the earliest
times. Each operation keeps the list sorted by time and the keys distinct. -/

namespace MultiIndex

variable {α κ β : Type*} [DecidableEq κ] [LinearOrder β] (key : α → κ) (time : α → β)

def Sorted (l : List α) : Prop := l.Pairwise fun a b => time a ≤ time b

def KeysUnique (l : List α) : Prop := (l.map key).Nodup

def Fresh (k : κ) (l : List α) : Prop := ∀ a ∈ l, key a ≠ k

def insert (x : α) (l : List α) : List α := l.orderedInsert (fun a b => time a < time b) x

def find? (k : κ) (l : List α) : Option α := l.find? fun a => key a = k

def erase (k : κ) (l : List α) : List α := l.eraseP fun a => key a = k

/-- `replace` of the element of key `key x` by `x`: in place where `x`'s time
still fits between the neighbours, else unlinked and linked at the upper bound
of its time. -/
def replace (x : α) (l : List α) : List α :=
  let i := l.findIdx fun a => key a = key x
  if l.length ≤ i then l
  else
    let before := l.take i
    let after := l.drop (i + 1)
    if (before.getLast?.all fun prev => time prev ≤ time x) ∧
        (after.head?.all fun next => time x ≤ time next) then
      before ++ x :: after
    else insert time x (before ++ after)

def trim (limit : Nat) : List α → List α
  | [] => []
  | a :: rest => if limit < (a :: rest).length then trim limit rest else a :: rest

variable {key time}

/-! ### Insertion -/

theorem perm_insert (x : α) (l : List α) : List.Perm (insert time x l) (x :: l) :=
  List.perm_orderedInsert _ x l

theorem mem_insert {x a : α} {l : List α} : a ∈ insert time x l ↔ a = x ∨ a ∈ l := by
  rw [(perm_insert x l).mem_iff, List.mem_cons]

theorem sorted_insert (x : α) : ∀ {l : List α}, Sorted time l → Sorted time (insert time x l)
  | [], _ => List.pairwise_singleton _ x
  | b :: l, sorted => by
      obtain ⟨headFirst, restSorted⟩ := List.pairwise_cons.mp sorted
      unfold insert
      rw [List.orderedInsert_cons]
      split
      · rename_i earlier
        refine List.pairwise_cons.mpr ⟨?_, sorted⟩
        intro a member
        rcases List.mem_cons.mp member with rfl | later
        · exact earlier.le
        · exact earlier.le.trans (headFirst a later)
      · rename_i notEarlier
        refine List.pairwise_cons.mpr ⟨?_, sorted_insert x restSorted⟩
        intro a member
        rcases mem_insert.1 member with rfl | later
        · exact not_lt.mp notEarlier
        · exact headFirst a later

omit [DecidableEq κ] in
theorem keysUnique_insert {x : α} {l : List α} (unique : KeysUnique key l) (fresh : Fresh key (key x) l) :
    KeysUnique key (insert time x l) := by
  have keys : (x :: l).map key = key x :: l.map key := rfl
  refine ((perm_insert x l).map key).nodup_iff.mpr ?_
  rw [keys, List.nodup_cons]
  refine ⟨fun member => ?_, unique⟩
  obtain ⟨a, inList, same⟩ := List.mem_map.mp member
  exact fresh a inList same

/-! ### Lookup and erasure -/

theorem find?_eq_none_iff {k : κ} {l : List α} : find? key k l = none ↔ Fresh key k l := by
  simp [find?, Fresh]

theorem find?_eq_some {k : κ} {l : List α} {a : α} (found : find? key k l = some a) :
    a ∈ l ∧ key a = k :=
  ⟨List.mem_of_find?_eq_some found, by simpa using List.find?_some found⟩

theorem find?_of_mem {l : List α} {a : α} (unique : KeysUnique key l) (member : a ∈ l) :
    find? key (key a) l = some a := by
  have present : (find? key (key a) l).isSome := List.find?_isSome.mpr ⟨a, member, decide_eq_true rfl⟩
  obtain ⟨b, found⟩ := Option.isSome_iff_exists.mp present
  obtain ⟨inList, sameKey⟩ := find?_eq_some found
  rw [found, List.inj_on_of_nodup_map unique inList member sameKey]

theorem erase_sublist (k : κ) (l : List α) : (erase key k l).Sublist l := List.eraseP_sublist

theorem mem_erase {k : κ} {a : α} : ∀ {l : List α}, KeysUnique key l →
    (a ∈ erase key k l ↔ a ∈ l ∧ key a ≠ k)
  | [], _ => by simp [erase]
  | b :: l, unique => by
      obtain ⟨headFresh, restUnique⟩ := List.nodup_cons.mp unique
      unfold erase
      rw [List.eraseP_cons]
      by_cases isKey : key b = k
      · simp only [isKey, decide_true, cond_true, List.mem_cons]
        constructor
        · intro inRest
          refine ⟨Or.inr inRest, fun same => headFresh ?_⟩
          rw [isKey, ← same]
          exact List.mem_map_of_mem inRest
        · rintro ⟨rfl | inRest, differs⟩
          · exact absurd isKey differs
          · exact inRest
      · simp only [isKey, decide_false, cond_false, List.mem_cons]
        rw [← erase, mem_erase restUnique]
        constructor
        · rintro (rfl | ⟨inRest, differs⟩)
          · exact ⟨Or.inl rfl, isKey⟩
          · exact ⟨Or.inr inRest, differs⟩
        · rintro ⟨rfl | inRest, differs⟩
          · exact Or.inl rfl
          · exact Or.inr ⟨inRest, differs⟩

theorem fresh_erase {k : κ} {l : List α} (unique : KeysUnique key l) : Fresh key k (erase key k l) :=
  fun _ member => ((mem_erase unique).mp member).2

theorem Sorted.sublist {l l' : List α} (sorted : Sorted time l) (sub : l'.Sublist l) : Sorted time l' :=
  List.Pairwise.sublist sub sorted

omit [DecidableEq κ] in
theorem KeysUnique.sublist {l l' : List α} (unique : KeysUnique key l) (sub : l'.Sublist l) :
    KeysUnique key l' :=
  List.Nodup.sublist (sub.map key) unique

/-! ### Replacement -/

section Replace

variable {x : α} {l : List α}

theorem split_at_key (found : ∃ a ∈ l, key a = key x) :
    let i := l.findIdx fun a => key a = key x
    i < l.length ∧ erase key (key x) l = l.take i ++ l.drop (i + 1) := by
  intro i
  have inside : i < l.length := List.findIdx_lt_length_of_exists (by simpa using found)
  have indexed : l.findIdx? (fun a => decide (key a = key x)) = some i :=
    List.findIdx?_eq_some_iff_findIdx_eq.mpr ⟨inside, rfl⟩
  refine ⟨inside, ?_⟩
  rw [erase, List.eraseP_eq_eraseIdx, indexed]
  exact List.eraseIdx_eq_take_drop_succ l i

theorem perm_replace (found : ∃ a ∈ l, key a = key x) :
    List.Perm (replace key time x l) (x :: erase key (key x) l) := by
  obtain ⟨inside, erased⟩ := split_at_key found
  unfold replace
  dsimp only
  rw [if_neg (not_le.mpr inside), erased]
  split
  · exact List.perm_middle
  · exact perm_insert x _

theorem le_of_getLast? {l : List α} {last : α} (sorted : Sorted time l)
    (isLast : l.getLast? = some last) : ∀ a ∈ l, time a ≤ time last := by
  obtain ⟨init, rfl⟩ := List.getLast?_eq_some_iff.mp isLast
  intro a member
  rcases List.mem_append.mp member with inInit | isLastOne
  · exact (List.pairwise_append.mp sorted).2.2 a inInit last (List.mem_singleton_self last)
  · rw [List.mem_singleton.mp isLastOne]

theorem le_of_head? {l : List α} {first : α} (sorted : Sorted time l)
    (isFirst : l.head? = some first) : ∀ a ∈ l, time first ≤ time a := by
  obtain ⟨rest, rfl⟩ := List.head?_eq_some_iff.mp isFirst
  intro a member
  rcases List.mem_cons.mp member with rfl | later
  · exact le_rfl
  · exact (List.pairwise_cons.mp sorted).1 a later

theorem sorted_replace (sorted : Sorted time l) : Sorted time (replace key time x l) := by
  unfold replace
  dsimp only
  split
  · exact sorted
  rename_i inside
  set i := l.findIdx fun a => key a = key x
  have whole : l = l.take i ++ l[i] :: l.drop (i + 1) := by
    rw [← List.drop_eq_getElem_cons (not_le.mp inside), List.take_append_drop]
  rw [whole] at sorted
  obtain ⟨beforeSorted, aroundSorted, beforeFirst⟩ := List.pairwise_append.mp sorted
  have afterSorted := (List.pairwise_cons.mp aroundSorted).2
  split
  · rename_i fits
    obtain ⟨afterPrev, beforeNext⟩ := fits
    refine List.pairwise_append.mpr ⟨beforeSorted, List.pairwise_cons.mpr ⟨?_, afterSorted⟩, ?_⟩
    · intro b member
      cases nextEq : (l.drop (i + 1)).head? with
      | none => exact absurd (List.head?_eq_none_iff.mp nextEq ▸ member) List.not_mem_nil
      | some next =>
          rw [nextEq] at beforeNext
          have nextFirst : time x ≤ time next := by simpa using beforeNext
          exact nextFirst.trans (le_of_head? afterSorted nextEq b member)
    · intro a inBefore b member
      rcases List.mem_cons.mp member with rfl | inAfter
      · cases prevEq : (l.take i).getLast? with
        | none => exact absurd (List.getLast?_eq_none_iff.mp prevEq ▸ inBefore) List.not_mem_nil
        | some prev =>
            rw [prevEq] at afterPrev
            exact (le_of_getLast? beforeSorted prevEq a inBefore).trans (by simpa using afterPrev)
      · exact beforeFirst a inBefore b (List.mem_cons_of_mem _ inAfter)
  · exact sorted_insert x (List.pairwise_append.mpr ⟨beforeSorted, afterSorted,
      fun a inBefore b inAfter => beforeFirst a inBefore b (List.mem_cons_of_mem _ inAfter)⟩)

theorem keysUnique_replace (unique : KeysUnique key l) (found : ∃ a ∈ l, key a = key x) :
    KeysUnique key (replace key time x l) := by
  have erased : KeysUnique key (erase key (key x) l) := unique.sublist (erase_sublist _ _)
  refine (((perm_replace found).map key).nodup_iff).mpr ?_
  rw [List.map_cons, List.nodup_cons]
  refine ⟨fun member => ?_, erased⟩
  obtain ⟨a, inErased, same⟩ := List.mem_map.mp member
  exact fresh_erase unique a inErased same

theorem mem_replace {a : α} (unique : KeysUnique key l) (found : ∃ b ∈ l, key b = key x) :
    a ∈ replace key time x l ↔ a = x ∨ a ∈ l ∧ key a ≠ key x := by
  rw [(perm_replace found).mem_iff, List.mem_cons, mem_erase unique]

theorem length_replace (found : ∃ a ∈ l, key a = key x) : (replace key time x l).length = l.length := by
  obtain ⟨a, member, sameKey⟩ := found
  have nonempty : 0 < l.length := List.length_pos_of_mem member
  rw [(perm_replace ⟨a, member, sameKey⟩).length_eq, List.length_cons, erase,
    List.length_eraseP_of_mem member (by simpa using sameKey)]
  omega

end Replace

/-! ### Trimming -/

theorem trim_eq_drop (limit : Nat) : ∀ l : List α, trim limit l = l.drop (l.length - limit)
  | [] => by rw [trim, List.drop_nil]
  | a :: rest => by
      rw [trim]
      split
      · rename_i tooLong
        rw [trim_eq_drop limit rest, List.length_cons,
          show rest.length + 1 - limit = rest.length - limit + 1 by
            rw [List.length_cons] at tooLong
            omega,
          List.drop_succ_cons]
      · rename_i within
        rw [show (a :: rest).length - limit = 0 by omega, List.drop_zero]

theorem trim_sublist (limit : Nat) (l : List α) : (trim limit l).Sublist l := by
  rw [trim_eq_drop]
  exact List.drop_sublist _ _

theorem length_trim_le (limit : Nat) (l : List α) : (trim limit l).length ≤ limit := by
  rw [trim_eq_drop, List.length_drop]
  omega

theorem trim_removes_earliest {l : List α} (limit : Nat) (sorted : Sorted time l) :
    ∀ a ∈ l.take (l.length - limit), ∀ b ∈ trim limit l, time a ≤ time b := by
  rw [trim_eq_drop]
  rw [← List.take_append_drop (l.length - limit) l] at sorted
  exact (List.pairwise_append.mp sorted).2.2

end MultiIndex
