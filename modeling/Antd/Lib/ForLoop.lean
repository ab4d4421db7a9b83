import Mathlib

/-! A counted `for` loop whose body may fail, as a loop in code that throws:
the body runs at the indices `start`, `start + 1`, ... for `count` passes, and
the first failure ends the loop. Properties of the loop come from what one pass
preserves (`forRange_invariant`). -/

namespace ForLoop

variable {σ : Type*} (body : Nat → σ → Option σ)

def forRange : Nat → Nat → σ → Option σ
  | 0, _, state => some state
  | count + 1, start, state => (body start state).bind (forRange count (start + 1))

@[simp] theorem forRange_zero (start : Nat) (state : σ) :
    forRange body 0 start state = some state := rfl

theorem forRange_succ (count start : Nat) (state : σ) :
    forRange body (count + 1) start state =
      (body start state).bind (forRange body count (start + 1)) := rfl

theorem forRange_invariant (motive : Nat → σ → Prop) {stop : Nat}
    (preserved : ∀ index state next, index < stop → motive index state →
      body index state = some next → motive (index + 1) next) :
    ∀ {count start : Nat} {state final : σ}, start + count ≤ stop →
      forRange body count start state = some final → motive start state →
      motive (start + count) final := by
  intro count
  induction count with
  | zero =>
      intro start state final _ ran holds
      cases ran
      exact holds
  | succ count ih =>
      intro start state final within ran holds
      rw [forRange_succ, Option.bind_eq_some_iff] at ran
      obtain ⟨next, passed, rest⟩ := ran
      have moved := ih (by omega) rest (preserved start state next (by omega) holds passed)
      rwa [Nat.add_assoc, Nat.add_comm 1 count] at moved

end ForLoop
