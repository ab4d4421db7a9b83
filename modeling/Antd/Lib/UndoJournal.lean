import Mathlib

/-! Undo journals. A state is changed step by step, and each change appends
to a log the entries that take it back. Undoing the entries from the last one
back returns a state equivalent to the one the change began in; for an
equivalence that undoing respects, such changes compose, so a whole run is
taken back by undoing its log.

A rollback pops entries from the back of the log while their height is at
least a bound. Over a log made of older entries below the bound followed by a
run's entries at or above it, the rollback undoes exactly the run and keeps
the older entries. -/

namespace UndoJournal

variable {σ ε η : Type}

section Undo

variable (undo : ε → σ → Option σ)

/-- Undoes `entries` from the last one back; `none` as soon as one cannot be undone. -/
def undoAll (entries : List ε) (state : σ) : Option σ :=
  entries.foldr (fun entry undone => undone.bind (undo entry)) (some state)

@[simp] theorem undoAll_nil (state : σ) : undoAll undo [] state = some state := rfl

@[simp] theorem undoAll_singleton (entry : ε) (state : σ) :
    undoAll undo [entry] state = undo entry state := rfl

theorem foldr_undo_bind (entries : List ε) (start : Option σ) :
    entries.foldr (fun entry undone => undone.bind (undo entry)) start =
      start.bind (undoAll undo entries) := by
  induction entries with
  | nil => cases start <;> rfl
  | cons entry entries ih =>
    rw [List.foldr_cons, ih, Option.bind_assoc]
    rfl

theorem undoAll_append (first rest : List ε) (state : σ) :
    undoAll undo (first ++ rest) state = (undoAll undo rest state).bind (undoAll undo first) := by
  rw [undoAll, List.foldr_append, foldr_undo_bind]
  rfl

def Respects (R : σ → σ → Prop) : Prop :=
  ∀ entry s t, R s t → Option.Rel R (undo entry s) (undo entry t)

variable {undo} {R : σ → σ → Prop}

theorem undoAll_respects (respects : Respects undo R) (entries : List ε) {s t : σ}
    (related : R s t) : Option.Rel R (undoAll undo entries s) (undoAll undo entries t) := by
  induction entries with
  | nil => exact .some related
  | cons entry entries ih =>
    change Option.Rel R ((undoAll undo entries s).bind (undo entry))
      ((undoAll undo entries t).bind (undo entry))
    generalize undoAll undo entries s = left, undoAll undo entries t = right at ih ⊢
    cases ih with
    | none => exact .none
    | some undone => exact respects entry _ _ undone

end Undo

section Changes

variable {undo : ε → σ → Option σ} {R : σ → σ → Prop}

def Undoes (undo : ε → σ → Option σ) (R : σ → σ → Prop) (state : σ) (entries : List ε)
    (changed : σ) : Prop :=
  ∃ restored, undoAll undo entries changed = some restored ∧ R restored state

theorem undoes_nil {state changed : σ} (related : R changed state) :
    Undoes undo R state [] changed :=
  ⟨changed, rfl, related⟩

theorem undoes_single {state changed restored : σ} {entry : ε}
    (undone : undo entry changed = some restored) (related : R restored state) :
    Undoes undo R state [entry] changed :=
  ⟨restored, undone, related⟩

theorem Undoes.append (equivalence : Equivalence R) (respects : Respects undo R)
    {state middle changed : σ} {first rest : List ε} (firstUndoes : Undoes undo R state first middle)
    (restUndoes : Undoes undo R middle rest changed) :
    Undoes undo R state (first ++ rest) changed := by
  obtain ⟨restRestored, restUndone, restRelated⟩ := restUndoes
  obtain ⟨restored, undone, related⟩ := firstUndoes
  have relatedAgain := undoAll_respects respects first restRelated
  rw [undone] at relatedAgain
  generalize again : undoAll undo first restRestored = undoneAgain at relatedAgain
  cases relatedAgain with
  | some closeRestored =>
    refine ⟨_, ?_, equivalence.trans closeRestored related⟩
    rw [undoAll_append, restUndone, Option.bind_some, again]

theorem Undoes.of_related (equivalence : Equivalence R) (respects : Respects undo R)
    {state changed other : σ} {entries : List ε} (undoes : Undoes undo R state entries changed)
    (related : R other changed) : Undoes undo R state entries other := by
  obtain ⟨restored, undone, restoredRelated⟩ := undoes
  have relatedAgain := undoAll_respects respects entries related
  rw [undone] at relatedAgain
  generalize again : undoAll undo entries other = undoneAgain at relatedAgain
  cases relatedAgain with
  | some close => exact ⟨_, again, equivalence.trans close restoredRelated⟩

/-- A change of a state that carries its own log: the log grows by entries,
each of them `admissible`, that undo the change. -/
def Journaled (log : σ → List ε) (undo : ε → σ → Option σ) (R : σ → σ → Prop)
    (admissible : ε → Prop) (state changed : σ) : Prop :=
  ∃ entries, log changed = log state ++ entries ∧ (∀ entry ∈ entries, admissible entry) ∧
    Undoes undo R state entries changed

variable {log : σ → List ε} {admissible : ε → Prop}

theorem Journaled.refl (equivalence : Equivalence R) (state : σ) :
    Journaled log undo R admissible state state :=
  ⟨[], (List.append_nil _).symm, fun _ absent => absurd absent List.not_mem_nil,
    undoes_nil (equivalence.refl state)⟩

theorem Journaled.trans (equivalence : Equivalence R) (respects : Respects undo R)
    {state middle changed : σ} (first : Journaled log undo R admissible state middle)
    (rest : Journaled log undo R admissible middle changed) :
    Journaled log undo R admissible state changed := by
  obtain ⟨firstEntries, firstLog, firstAdmissible, firstUndoes⟩ := first
  obtain ⟨restEntries, restLog, restAdmissible, restUndoes⟩ := rest
  refine ⟨firstEntries ++ restEntries, ?_, ?_,
    Undoes.append equivalence respects firstUndoes restUndoes⟩
  · rw [restLog, firstLog, List.append_assoc]
  · intro entry member
    rcases List.mem_append.mp member with early | late
    · exact firstAdmissible entry early
    · exact restAdmissible entry late

/-- A reflexive and transitive relation that every pass of a fold keeps
relates the fold's start to its end. -/
theorem foldl_related {α β : Type} (J : σ → σ → Prop) (reflexive : ∀ state, J state state)
    (transitive : ∀ ⦃first middle last⦄, J first middle → J middle last → J first last)
    (view : β → σ) (pass : β → α → β) (passRelated : ∀ acc item, J (view acc) (view (pass acc item))) :
    ∀ (items : List α) (acc : β), J (view acc) (view (items.foldl pass acc))
  | [], acc => reflexive (view acc)
  | item :: items, acc =>
    transitive (passRelated acc item)
      (foldl_related J reflexive transitive view pass passRelated items (pass acc item))

theorem journaled_foldl {α β : Type} (equivalence : Equivalence R) (respects : Respects undo R)
    (view : β → σ) (pass : β → α → β)
    (passJournaled : ∀ acc item, Journaled log undo R admissible (view acc) (view (pass acc item))) :
    ∀ (items : List α) (acc : β),
      Journaled log undo R admissible (view acc) (view (items.foldl pass acc)) :=
  foldl_related _ (Journaled.refl equivalence) (fun _ _ _ first rest => first.trans equivalence respects rest)
    view pass passJournaled

theorem journaled_foldlM {α φ : Type} (equivalence : Equivalence R) (respects : Respects undo R)
    (pass : σ → α → Except φ σ)
    (passJournaled : ∀ state item changed, pass state item = .ok changed →
      Journaled log undo R admissible state changed) :
    ∀ (items : List α) (state changed : σ), items.foldlM pass state = .ok changed →
      Journaled log undo R admissible state changed
  | [], state, changed, returned => by
    cases returned
    exact Journaled.refl equivalence state
  | item :: items, state, changed, returned => by
    rw [List.foldlM_cons] at returned
    cases passed : pass state item with
    | error fault =>
      rw [passed] at returned
      cases returned
    | ok middle =>
      rw [passed] at returned
      exact (passJournaled state item middle passed).trans equivalence respects
        (journaled_foldlM equivalence respects pass passJournaled items middle changed returned)

end Changes

/-! ### Undoing into a larger state

Where undoing may lose part of a state, an undone change is only known to give
back something below the state it began in. `R` is then an order, and a
simulation carries undoing from a state up to any state above it. -/

section Retracts

variable {undo : ε → σ → Option σ} {R : σ → σ → Prop}

/-- Whatever an entry undoes in a state it undoes in any state above, and the
results stay in order. -/
def Simulates (undo : ε → σ → Option σ) (R : σ → σ → Prop) : Prop :=
  ∀ entry s t s', R s t → undo entry s = some s' → ∃ t', undo entry t = some t' ∧ R s' t'

theorem undoAll_simulates (simulates : Simulates undo R) :
    ∀ (entries : List ε) {s t s' : σ}, R s t → undoAll undo entries s = some s' →
      ∃ t', undoAll undo entries t = some t' ∧ R s' t'
  | [], _, t, _, related, undone => by
    cases undone
    exact ⟨t, rfl, related⟩
  | entry :: entries, _, t, _, related, undone => by
    obtain ⟨middle, restUndone, entryUndone⟩ := Option.bind_eq_some_iff.mp undone
    obtain ⟨middle', restUndone', middleRelated⟩ :=
      undoAll_simulates simulates entries related restUndone
    obtain ⟨t', entryUndone', related'⟩ := simulates entry _ _ _ middleRelated entryUndone
    refine ⟨t', ?_, related'⟩
    change (undoAll undo entries t).bind (undo entry) = some t'
    rw [restUndone', Option.bind_some, entryUndone']

/-- Undoing `entries`, where it gets through them all, gives back a state
below `state`. -/
def Retracts (undo : ε → σ → Option σ) (R : σ → σ → Prop) (state : σ) (entries : List ε)
    (changed : σ) : Prop :=
  ∀ restored, undoAll undo entries changed = some restored → R restored state

theorem Undoes.retracts {R' : σ → σ → Prop} (weaker : ∀ a b, R a b → R' a b) {state changed : σ}
    {entries : List ε} (undoes : Undoes undo R state entries changed) :
    Retracts undo R' state entries changed := by
  intro restored undone
  obtain ⟨restored', undone', related⟩ := undoes
  rw [undone] at undone'
  cases undone'
  exact weaker _ _ related

theorem Retracts.append (transitive : ∀ ⦃a b c⦄, R a b → R b c → R a c)
    (simulates : Simulates undo R) {state middle changed : σ} {first rest : List ε}
    (firstRetracts : Retracts undo R state first middle)
    (restRetracts : Retracts undo R middle rest changed) :
    Retracts undo R state (first ++ rest) changed := by
  intro restored undone
  rw [undoAll_append] at undone
  obtain ⟨partly, restUndone, firstUndone⟩ := Option.bind_eq_some_iff.mp undone
  obtain ⟨again, firstAgain, related⟩ :=
    undoAll_simulates simulates first (restRetracts partly restUndone) firstUndone
  exact transitive related (firstRetracts again firstAgain)

/-- A change of a state that carries its own log, whose entries, each of them
`admissible`, give back a state below the one it began in. -/
def Retracted (log : σ → List ε) (undo : ε → σ → Option σ) (R : σ → σ → Prop)
    (admissible : ε → Prop) (state changed : σ) : Prop :=
  ∃ entries, log changed = log state ++ entries ∧ (∀ entry ∈ entries, admissible entry) ∧
    Retracts undo R state entries changed

variable {log : σ → List ε} {admissible : ε → Prop}

theorem Retracted.refl (reflexive : ∀ state, R state state) (state : σ) :
    Retracted log undo R admissible state state :=
  ⟨[], (List.append_nil _).symm, fun _ absent => absurd absent List.not_mem_nil,
    fun _ undone => Option.some_inj.mp undone ▸ reflexive state⟩

theorem Retracted.trans (transitive : ∀ ⦃a b c⦄, R a b → R b c → R a c)
    (simulates : Simulates undo R) {state middle changed : σ}
    (first : Retracted log undo R admissible state middle)
    (rest : Retracted log undo R admissible middle changed) :
    Retracted log undo R admissible state changed := by
  obtain ⟨firstEntries, firstLog, firstAdmissible, firstRetracts⟩ := first
  obtain ⟨restEntries, restLog, restAdmissible, restRetracts⟩ := rest
  refine ⟨firstEntries ++ restEntries, ?_, ?_,
    Retracts.append transitive simulates firstRetracts restRetracts⟩
  · rw [restLog, firstLog, List.append_assoc]
  · intro entry member
    rcases List.mem_append.mp member with early | late
    · exact firstAdmissible entry early
    · exact restAdmissible entry late

theorem Journaled.retracted {R' : σ → σ → Prop} (weaker : ∀ a b, R a b → R' a b)
    {state changed : σ} (journaled : Journaled log undo R admissible state changed) :
    Retracted log undo R' admissible state changed :=
  let ⟨entries, logged, admitted, undoes⟩ := journaled
  ⟨entries, logged, admitted, Undoes.retracts weaker undoes⟩

end Retracts

section Rollback

variable (undo : ε → σ → Option σ) (height : ε → η) [LE η] [DecidableLE η]

/-- Pops entries from the back of a log, given here last entry first, while
their height is at least `bound`, undoing each: the state reached and the
entries left (last first), or `none` at an entry that cannot be undone. -/
def popWhile (bound : η) : List ε → σ → Option (σ × List ε)
  | [], state => some (state, [])
  | entry :: older, state =>
    if bound ≤ height entry then (undo entry state).bind (popWhile bound older)
    else some (state, entry :: older)

theorem popWhile_reverse_append {bound : η} {kept recorded : List ε}
    (keptBelow : ∀ entry ∈ kept, ¬bound ≤ height entry)
    (recordedAbove : ∀ entry ∈ recorded, bound ≤ height entry) (state : σ) :
    popWhile undo height bound (kept ++ recorded).reverse state =
      (undoAll undo recorded state).map (·, kept.reverse) := by
  rw [List.reverse_append]
  induction recorded using List.reverseRecOn generalizing state with
  | nil =>
    cases reversed : kept.reverse with
    | nil => rfl
    | cons last older =>
      have below := keptBelow last (List.mem_reverse.mp (reversed ▸ List.mem_cons_self))
      simp only [List.reverse_nil, List.nil_append, popWhile, if_neg below, undoAll_nil,
        Option.map_some]
  | append_singleton recorded last ih =>
    have lastAbove := recordedAbove last (List.mem_append_right _ (List.mem_singleton_self last))
    rw [List.reverse_append, List.reverse_singleton, List.singleton_append, List.cons_append,
      popWhile, if_pos lastAbove, undoAll_append, undoAll_singleton, Option.map_bind]
    congr 1
    funext undone
    exact ih (fun entry member => recordedAbove entry (List.mem_append_left _ member)) undone

theorem popWhile_undoes {undo : ε → σ → Option σ} {height : ε → η} {R : σ → σ → Prop}
    {bound : η} {kept recorded : List ε} {start current : σ}
    (keptBelow : ∀ entry ∈ kept, ¬bound ≤ height entry)
    (recordedAbove : ∀ entry ∈ recorded, bound ≤ height entry)
    (undoes : Undoes undo R start recorded current) :
    ∃ restored, popWhile undo height bound (kept ++ recorded).reverse current =
      some (restored, kept.reverse) ∧ R restored start := by
  obtain ⟨restored, undone, related⟩ := undoes
  refine ⟨restored, ?_, related⟩
  rw [popWhile_reverse_append undo height keptBelow recordedAbove, undone, Option.map_some]

/-- A property of the state that undoing each entry keeps holds after a
rollback, which keeps a suffix of the log it was given. -/
theorem popWhile_invariant {undo : ε → σ → Option σ} {height : ε → η} {bound : η}
    (invariant : σ → Prop) :
    ∀ {entries : List ε}, (∀ entry ∈ entries, ∀ state undone, invariant state →
        undo entry state = some undone → invariant undone) →
      ∀ {state restored : σ} {kept : List ε}, invariant state →
        popWhile undo height bound entries state = some (restored, kept) →
          invariant restored ∧ kept <:+ entries
  | [], _, state, restored, kept, holds, popped => by
    cases popped
    exact ⟨holds, List.suffix_refl _⟩
  | entry :: older, preserved, state, restored, kept, holds, popped => by
    rw [popWhile] at popped
    split at popped
    · obtain ⟨undone, undid, rest⟩ := Option.bind_eq_some_iff.mp popped
      obtain ⟨restoredHolds, suffix⟩ := popWhile_invariant invariant
        (fun other member => preserved other (List.mem_cons_of_mem _ member))
        (preserved entry List.mem_cons_self state undone holds undid) rest
      exact ⟨restoredHolds, suffix.trans (List.suffix_cons _ _)⟩
    · cases popped
      exact ⟨holds, List.suffix_refl _⟩

/-- A rollback that meets no entry at or above its bound undoes nothing. -/
theorem popWhile_of_below {bound : η} {entries : List ε}
    (below : ∀ entry ∈ entries, ¬bound ≤ height entry) (state : σ) :
    popWhile undo height bound entries state = some (state, entries) := by
  cases entries with
  | nil => rfl
  | cons entry older => exact if_neg (below entry List.mem_cons_self)

variable {undo height}

end Rollback

end UndoJournal
