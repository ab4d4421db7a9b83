import Mathlib

/-! Postconditions of computations in `Except`, up to the errors a caller
allows: a computation meets `post` when it returns a value satisfying `post`
or fails with an allowed error. The rules follow the monad (`pure`, `throw`,
`bind`), so a program built from binds is proved one computation at a time,
and a loop written as a recursion by induction over it. -/

namespace ExceptSpec

variable {ε α β : Type}

/-- `computation` returns a value satisfying `post` or fails with an error
that `allowed` admits. -/
def Holds (allowed : ε → Prop) (post : α → Prop) : Except ε α → Prop
  | .ok value => post value
  | .error error => allowed error

variable {allowed : ε → Prop}

theorem holds_pure {post : α → Prop} {value : α} (holds : post value) :
    Holds allowed post (pure value) :=
  holds

theorem holds_throw {post : α → Prop} {error : ε} (permitted : allowed error) :
    Holds allowed post (throw error) :=
  permitted

theorem holds_bind {mid : α → Prop} {post : β → Prop} {first : Except ε α}
    {rest : α → Except ε β} (firstHolds : Holds allowed mid first)
    (restHolds : ∀ value, mid value → Holds allowed post (rest value)) :
    Holds allowed post (first >>= rest) := by
  cases first with
  | error error => exact firstHolds
  | ok value => exact restHolds value firstHolds

theorem Holds.mono {post weaker : α → Prop} {computation : Except ε α}
    (holds : Holds allowed post computation) (implies : ∀ value, post value → weaker value) :
    Holds allowed weaker computation := by
  cases computation with
  | error error => exact holds
  | ok value => exact implies value holds

theorem holds_iff {post : α → Prop} {computation : Except ε α} :
    Holds allowed post computation ↔
      (∃ value, computation = .ok value ∧ post value) ∨
        ∃ error, computation = .error error ∧ allowed error := by
  cases computation with
  | error error => simp [Holds]
  | ok value => simp [Holds]

theorem post_of_holds {post : α → Prop} {computation : Except ε α}
    (holds : Holds allowed post computation) {value : α} (returned : computation = .ok value) :
    post value := by
  subst returned
  exact holds

theorem holds_foldlM {φ : Type} {invariant : φ → Prop} {pass : φ → α → Except ε φ}
    (passHolds : ∀ state, invariant state → ∀ item, Holds allowed invariant (pass state item)) :
    ∀ (items : List α) {state : φ}, invariant state →
      Holds allowed invariant (items.foldlM pass state)
  | [], _, holds => holds_pure holds
  | item :: items, state, holds => by
    rw [List.foldlM_cons]
    exact holds_bind (passHolds state holds item) fun _ middleHolds =>
      holds_foldlM passHolds items middleHolds

end ExceptSpec
