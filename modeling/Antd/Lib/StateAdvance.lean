import Mathlib

/-! Programs over `EStateM`, run on a state: the state a run ends in,
whether it returns or throws, the rules that take a bind apart at the first
program's result, and a counted loop. -/

namespace StateAdvance

variable {ε σ α β : Type}

def final : EStateM.Result ε σ α → σ
  | .ok _ state => state
  | .error _ state => state

@[simp] theorem final_ok (a : α) (state : σ) :
    final (.ok a state : EStateM.Result ε σ α) = state := rfl

@[simp] theorem final_error (e : ε) (state : σ) :
    final (.error e state : EStateM.Result ε σ α) = state := rfl

theorem bind_apply (program : EStateM ε σ α) (next : α → EStateM ε σ β) (state : σ) :
    (program >>= next) state = match program state with
      | .ok a state => next a state
      | .error e state => .error e state := rfl

theorem map_apply (f : α → β) (program : EStateM ε σ α) (state : σ) :
    (f <$> program) state = match program state with
      | .ok a state => .ok (f a) state
      | .error e state => .error e state := rfl

theorem bind_of_ok {program : EStateM ε σ α} {next : α → EStateM ε σ β} {state middle : σ}
    {a : α} (ran : program state = .ok a middle) : (program >>= next) state = next a middle := by
  rw [bind_apply, ran]

@[simp] theorem pure_apply (a : α) (state : σ) :
    (pure a : EStateM ε σ α) state = .ok a state := rfl

@[simp] theorem throw_apply (e : ε) (state : σ) :
    (throw e : EStateM ε σ α) state = .error e state := rfl

@[simp] theorem get_apply (state : σ) :
    (get : EStateM ε σ σ) state = .ok state state := rfl

@[simp] theorem modify_apply (f : σ → σ) (state : σ) :
    (modify f : EStateM ε σ PUnit) state = .ok ⟨⟩ (f state) := rfl

def repeatM (act : EStateM ε σ α) : Nat → EStateM ε σ (List α)
  | 0 => pure []
  | count + 1 => do
      let first ← act
      let rest ← repeatM act count
      pure (first :: rest)

@[simp] theorem repeatM_zero (act : EStateM ε σ α) : repeatM act 0 = pure [] := rfl

theorem repeatM_succ (act : EStateM ε σ α) (count : Nat) :
    repeatM act (count + 1) =
      (act >>= fun first => repeatM act count >>= fun rest => pure (first :: rest)) := rfl

end StateAdvance
