import Mathlib

/-! Grouping a list by a key: for each key of a list of keys in turn, the
elements that have that key, in the order they came. This is a stable sort by
the position of the key in the list of keys, of the elements whose key is
listed; the others are dropped. A pass that picks every element of one kind,
then every element of the next, computes it. -/

namespace Grouping

variable {α κ : Type*} [DecidableEq κ]

def groupByKeys (keys : List κ) (key : α → κ) (l : List α) : List α :=
  keys.flatMap fun k => l.filter fun a => key a = k

variable {keys : List κ} {key : α → κ}

@[simp] theorem groupByKeys_nil (l : List α) : groupByKeys [] key l = [] := rfl

@[simp] theorem groupByKeys_cons (k : κ) (keys : List κ) (l : List α) :
    groupByKeys (k :: keys) key l = l.filter (fun a => key a = k) ++ groupByKeys keys key l := rfl

theorem groupByKeys_append (keys others : List κ) (l : List α) :
    groupByKeys (keys ++ others) key l = groupByKeys keys key l ++ groupByKeys others key l := by
  rw [groupByKeys, List.flatMap_append]
  rfl

theorem mem_groupByKeys {l : List α} {a : α} :
    a ∈ groupByKeys keys key l ↔ a ∈ l ∧ key a ∈ keys := by
  simp only [groupByKeys, List.mem_flatMap, List.mem_filter, decide_eq_true_eq]
  constructor
  · rintro ⟨k, listed, member, rfl⟩
    exact ⟨member, listed⟩
  · rintro ⟨member, listed⟩
    exact ⟨key a, listed, member, rfl⟩

theorem filter_groupByKeys (nodup : keys.Nodup) {k : κ} (listed : k ∈ keys) (l : List α) :
    (groupByKeys keys key l).filter (fun a => key a = k) = l.filter fun a => key a = k := by
  induction keys with
  | nil => cases listed
  | cons first keys ih =>
      obtain ⟨firstNew, nodup⟩ := List.nodup_cons.mp nodup
      rw [groupByKeys_cons, List.filter_append, List.filter_filter]
      by_cases same : first = k
      · subst same
        have later : (groupByKeys keys key l).filter (fun a => key a = first) = [] := by
          rw [List.filter_eq_nil_iff]
          intro a member keyed
          have listedLater : key a ∈ keys := (mem_groupByKeys.1 member).2
          rw [decide_eq_true_eq] at keyed
          exact firstNew (keyed ▸ listedLater)
        rw [later, List.append_nil]
        simp
      · have first : l.filter (fun a => decide (key a = k) && decide (key a = first)) = [] := by
          rw [List.filter_eq_nil_iff]
          intro a _ both
          simp only [Bool.and_eq_true, decide_eq_true_eq] at both
          exact same (both.2.symm.trans both.1)
        rw [first, List.nil_append]
        exact ih nodup (List.mem_of_ne_of_mem (Ne.symm same) listed)

theorem groupByKeys_groupByKeys (nodup : keys.Nodup) (l : List α) :
    groupByKeys keys key (groupByKeys keys key l) = groupByKeys keys key l :=
  List.flatMap_congr fun _ listed => filter_groupByKeys nodup listed l

end Grouping
