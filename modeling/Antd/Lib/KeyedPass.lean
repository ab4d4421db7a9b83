import Mathlib

/-! A pass of a fallible step over a list of entries with distinct keys, such
as a cursor walk over a table that only touches the records of the entry it
is on. When each step succeeds from every good state, keeps it good, and
changes what the state holds under the entry's key only, the pass succeeds
and what it leaves under each key is read off the one entry with that key. -/

namespace KeyedPass

variable {σ ε κ β : Type}

/-- The step on entry `e` succeeds from every state that `good` accepts, keeps
`good`, and changes the `view` of the state only under `key e`, as `update e`
says. -/
def Pointwise (good : σ → Prop) (step : σ → ε → Option σ) (key : ε → κ)
    (view : σ → κ → β) (update : ε → β → β) (e : ε) : Prop :=
  ∀ state, good state → ∃ state', step state e = some state' ∧ good state' ∧
    view state' (key e) = update e (view state (key e)) ∧
    ∀ other, other ≠ key e → view state' other = view state other

variable {good : σ → Prop} {step : σ → ε → Option σ} {key : ε → κ} {view : σ → κ → β}
  {update : ε → β → β}

theorem foldlM_pointwise : ∀ (entries : List ε) (state : σ), good state →
    (entries.map key).Nodup → (∀ e ∈ entries, Pointwise good step key view update e) →
    ∃ state', entries.foldlM step state = some state' ∧ good state' ∧
      (∀ e ∈ entries, view state' (key e) = update e (view state (key e))) ∧
      ∀ other, other ∉ entries.map key → view state' other = view state other
  | [], state, isGood, _, _ => ⟨state, rfl, isGood, fun _ => by simp, fun _ _ => rfl⟩
  | e :: rest, state, isGood, distinct, each => by
      rw [List.map_cons, List.nodup_cons] at distinct
      obtain ⟨middle, stepped, middleGood, atKey, elsewhere⟩ :=
        each e List.mem_cons_self state isGood
      obtain ⟨final, passed, finalGood, restAtKey, restElsewhere⟩ :=
        foldlM_pointwise rest middle middleGood distinct.2
          fun other member => each other (List.mem_cons_of_mem e member)
      have whole : (e :: rest).foldlM step state = some final := by
        rw [List.foldlM_cons, stepped]
        exact passed
      refine ⟨final, whole, finalGood, ?_, ?_⟩
      · intro entry member
        rcases List.mem_cons.mp member with rfl | later
        · rw [restElsewhere _ distinct.1, atKey]
        · have differs : key entry ≠ key e := fun same =>
            distinct.1 (same ▸ List.mem_map_of_mem later)
          rw [restAtKey entry later, elsewhere _ differs]
      · intro other absent
        rw [List.map_cons, List.mem_cons, not_or] at absent
        rw [restElsewhere other absent.2, elsewhere other absent.1]

theorem foldlM_of_forall_eq {step : σ → ε → Option σ} {state : σ} :
    ∀ (entries : List ε), (∀ e ∈ entries, step state e = some state) →
      entries.foldlM step state = some state
  | [], _ => rfl
  | e :: rest, unchanged => by
      rw [List.foldlM_cons, unchanged e List.mem_cons_self]
      exact foldlM_of_forall_eq rest fun other member =>
        unchanged other (List.mem_cons_of_mem e member)

end KeyedPass
