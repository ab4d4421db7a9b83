import Mathlib

/-! `tools::apply_permutation` (`src/common/apply_permutation.h`): it checks
that every index below the size occurs in the permutation, then walks each
cycle in place. From each `i` it follows `next = permutation[current]`, swaps
`current` with `next` and marks `current` done by writing
`permutation[current] = current`, until the walk comes back to `i`. The generic
form reports each swap to a callback; the vector form swaps two elements of
the vector. Transaction construction sorts its inputs this way.

The walks end for every permutation, after at most `n - 1` swaps in all, and
leave `v[p[j]]` at every `j`. A walk from `i` keeps one invariant: the
permutation with the position that points to `i` redirected to `current` is a
bijection, and the vector holds at each position what that bijection and the
permutation say it should. -/

namespace Antd.Common

def permutationCheck (permutation : List Nat) : Bool :=
  (List.range permutation.length).all fun n => permutation.contains n

def swapElems {α : Type} (v : List α) (i0 i1 : Nat) : List α :=
  match v[i0]?, v[i1]? with
  | some x0, some x1 => (v.set i0 x1).set i1 x0
  | _, _ => v

/-- The loop `while (i != permutation[current])` from `current`, for at most
`fuel` passes: the permutation, the swaps so far and the last `current`, or
`none` once the fuel is out. -/
def walkCycle (i : Nat) : Nat → Nat → List Nat → List (Nat × Nat) →
    Option (List Nat × List (Nat × Nat) × Nat)
  | fuel, current, permutation, swaps =>
    if i = permutation.getD current 0 then some (permutation, swaps, current)
    else
      match fuel with
      | 0 => none
      | fuel + 1 =>
        let next := permutation.getD current 0
        walkCycle i fuel next (permutation.set current current) (swaps ++ [(current, next)])

/-- The loop `for (i = 0; i < permutation.size(); ++i)` over `indices`: a walk
from each, then `permutation[current] = current`. -/
def walkCycles (fuel : Nat) : List Nat → List Nat → List (Nat × Nat) →
    Option (List Nat × List (Nat × Nat))
  | [], permutation, swaps => some (permutation, swaps)
  | i :: rest, permutation, swaps =>
    match walkCycle i fuel i permutation swaps with
    | none => none
    | some (permutation, swaps, current) => walkCycles fuel rest (permutation.set current current) swaps

/-- `apply_permutation(permutation, swap)`: the calls of `swap` in order, or the
exception, which comes before any call. `none` stands for a walk of more than
`permutation.size()` passes, which no permutation needs. -/
def applyPermutation (permutation : List Nat) : Option (Except String (List (Nat × Nat))) :=
  if permutationCheck permutation then
    (walkCycles permutation.length (List.range permutation.length) permutation []).map
      fun result => .ok result.2
  else some (.error "Bad permutation")

def applySwaps {α : Type} (v : List α) (swaps : List (Nat × Nat)) : List α :=
  swaps.foldl (fun v swap => swapElems v swap.1 swap.2) v

def applyPermutationTo {α : Type} (permutation : List Nat) (v : List α) :
    Option (Except String (List α)) :=
  if permutation.length = v.length then
    (applyPermutation permutation).map fun result => result.map (applySwaps v)
  else some (.error "Mismatched vector sizes")

/-! ### Reading the arrays -/

theorem getD_set_of_lt {order : List Nat} {i j value : Nat} (within : i < order.length) :
    (order.set i value).getD j 0 = if j = i then value else order.getD j 0 := by
  rw [List.getD_eq_getElem?_getD, List.getElem?_set, List.getD_eq_getElem?_getD]
  by_cases same : j = i
  · subst same
    simp [within]
  · simp [same, Ne.symm same]

@[simp] theorem length_swapElems {α : Type} (v : List α) (i0 i1 : Nat) :
    (swapElems v i0 i1).length = v.length := by
  unfold swapElems
  split <;> simp

theorem getElem?_swapElems {α : Type} {v : List α} {i0 i1 : Nat} (in0 : i0 < v.length)
    (in1 : i1 < v.length) (k : Nat) :
    (swapElems v i0 i1)[k]? = if k = i1 then v[i0]? else if k = i0 then v[i1]? else v[k]? := by
  unfold swapElems
  rw [List.getElem?_eq_getElem in0, List.getElem?_eq_getElem in1]
  simp only [List.getElem?_set, List.length_set]
  by_cases first : k = i1
  · subst first
    simp [in1]
  · by_cases second : k = i0
    · subst second
      simp [Ne.symm first, first, in0]
    · simp [Ne.symm first, Ne.symm second, first, second]

@[simp] theorem length_applySwaps {α : Type} (v : List α) (swaps : List (Nat × Nat)) :
    (applySwaps v swaps).length = v.length := by
  induction swaps generalizing v with
  | nil => rfl
  | cons swap swaps ih =>
    simp only [applySwaps, List.foldl_cons] at ih ⊢
    rw [ih, length_swapElems]

theorem applySwaps_concat {α : Type} (v : List α) (swaps : List (Nat × Nat)) (i0 i1 : Nat) :
    applySwaps v (swaps ++ [(i0, i1)]) = swapElems (applySwaps v swaps) i0 i1 := by
  rw [applySwaps, List.foldl_append]
  rfl

def misplaced (order : List Nat) : Finset Nat :=
  (Finset.range order.length).filter fun j => order.getD j 0 ≠ j

theorem card_misplaced_le (order : List Nat) : (misplaced order).card ≤ order.length := by
  calc (misplaced order).card ≤ (Finset.range order.length).card := Finset.card_filter_le _ _
    _ = order.length := Finset.card_range _

/-- `order` is a permutation of `0 .. n-1` written as an array of indices: its
entries are below its length and distinct. -/
structure IndexPerm (order : List Nat) : Prop where
  lt : ∀ j < order.length, order.getD j 0 < order.length
  injective : ∀ j < order.length, ∀ k < order.length, order.getD j 0 = order.getD k 0 → j = k

theorem indexPerm_iff_perm {order : List Nat} :
    IndexPerm order ↔ order.Perm (List.range order.length) := by
  constructor
  · intro perm
    have nodup : order.Nodup := by
      refine List.nodup_iff_injective_get.mpr fun j k same => Fin.ext ?_
      have inJ := j.isLt
      have inK := k.isLt
      apply perm.injective j j.isLt k k.isLt
      rw [List.getD_eq_getElem _ _ inJ, List.getD_eq_getElem _ _ inK]
      simpa using same
    have subset : order ⊆ List.range order.length := by
      intro x member
      obtain ⟨j, within, rfl⟩ := List.mem_iff_getElem.mp member
      have below := perm.lt j within
      rw [List.getD_eq_getElem _ _ within] at below
      exact List.mem_range.mpr below
    exact (nodup.subperm subset).perm_of_length_le (by simp)
  · intro perm
    have nodup := perm.nodup_iff.mpr List.nodup_range
    constructor
    · intro j within
      rw [List.getD_eq_getElem _ _ within]
      exact List.mem_range.mp (perm.subset (List.getElem_mem within))
    · intro j inJ k inK same
      rw [List.getD_eq_getElem _ _ inJ, List.getD_eq_getElem _ _ inK] at same
      exact (nodup.getElem_inj_iff).mp same

theorem permutationCheck_iff {permutation : List Nat} :
    permutationCheck permutation = true ↔ permutation.Perm (List.range permutation.length) := by
  unfold permutationCheck
  rw [List.all_eq_true]
  constructor
  · intro present
    have subset : List.range permutation.length ⊆ permutation := fun n member => by
      simpa using present n member
    exact ((List.nodup_range.subperm subset).perm_of_length_le (by simp)).symm
  · intro perm n member
    simpa using perm.symm.subset member

theorem IndexPerm.exists_getD_eq {order : List Nat} (perm : IndexPerm order) {i : Nat}
    (below : i < order.length) : ∃ last < order.length, order.getD last 0 = i := by
  have member : i ∈ order := (indexPerm_iff_perm.1 perm).symm.subset (List.mem_range.mpr below)
  obtain ⟨last, within, found⟩ := List.mem_iff_getElem.mp member
  exact ⟨last, within, by rw [List.getD_eq_getElem _ _ within, found]⟩

theorem IndexPerm.swap {order swapped : List Nat} (perm : IndexPerm order) {a b : Nat}
    (inA : a < order.length) (inB : b < order.length) (length_eq : swapped.length = order.length)
    (values : ∀ j, swapped.getD j 0 = order.getD (Equiv.swap a b j) 0) : IndexPerm swapped := by
  have swapLt : ∀ j < order.length, Equiv.swap a b j < order.length := by
    intro j within
    rw [Equiv.swap_apply_def]
    split_ifs <;> assumption
  constructor
  · intro j within
    rw [values, length_eq]
    exact perm.lt _ (swapLt j (length_eq ▸ within))
  · intro j inJ k inK same
    rw [values, values] at same
    exact (Equiv.swap a b).injective
      (perm.injective _ (swapLt j (length_eq ▸ inJ)) _ (swapLt k (length_eq ▸ inK)) same)

theorem card_misplaced_swap_lt {order swapped : List Nat} {a b : Nat} (inA : a < order.length)
    (length_eq : swapped.length = order.length)
    (values : ∀ j, swapped.getD j 0 = order.getD (Equiv.swap a b j) 0)
    (holdsA : order.getD b 0 = a) (moves : order.getD a 0 ≠ a) :
    (misplaced swapped).card < (misplaced order).card := by
  have distinct : a ≠ b := fun same => moves (same ▸ holdsA)
  apply Finset.card_lt_card
  rw [Finset.ssubset_iff_of_subset]
  · refine ⟨a, ?_, ?_⟩
    · simp only [misplaced, Finset.mem_filter, Finset.mem_range]
      exact ⟨inA, moves⟩
    · simp only [misplaced, Finset.mem_filter, Finset.mem_range, not_and, not_not]
      intro _
      rw [values, Equiv.swap_apply_left, holdsA]
  · intro j member
    simp only [misplaced, Finset.mem_filter, Finset.mem_range, length_eq] at member ⊢
    obtain ⟨within, movesJ⟩ := member
    refine ⟨within, ?_⟩
    rw [values, Equiv.swap_apply_def] at movesJ
    by_cases atA : j = a
    · rw [if_pos atA, holdsA] at movesJ
      exact absurd atA.symm movesJ
    · by_cases atB : j = b
      · rw [atB, holdsA]
        exact distinct
      · rwa [if_neg atA, if_neg atB] at movesJ

theorem two_le_card_misplaced {order : List Nat} {a b : Nat} (inA : a < order.length)
    (inB : b < order.length) (distinct : a ≠ b) (movesA : order.getD a 0 ≠ a)
    (movesB : order.getD b 0 ≠ b) : 2 ≤ (misplaced order).card := by
  apply Finset.one_lt_card.mpr
  refine ⟨a, ?_, b, ?_, distinct⟩
  · simp only [misplaced, Finset.mem_filter, Finset.mem_range]
    exact ⟨inA, movesA⟩
  · simp only [misplaced, Finset.mem_filter, Finset.mem_range]
    exact ⟨inB, movesB⟩

section Walk

variable {α : Type} (p : List Nat) (w : List α)

/-- What the walk from `i` keeps at `current`, with `last` the position that
still points to `i`. Redirected from `i` to `current`, the permutation is a
bijection, and the vector holds at the position it gives `j` the element
`w[p[j]]` that belongs at `j`; the element that belongs at `last` waits at
`current`. -/
structure WalkInv (i current last : Nat) (order : List Nat) (swaps : List (Nat × Nat)) : Prop where
  length_eq : order.length = p.length
  start_lt : i < p.length
  current_lt : current < p.length
  last_lt : last < p.length
  last_points : order.getD last 0 = i
  redirected : IndexPerm (order.set last current)
  placed : ∀ j < p.length,
    (applySwaps w swaps)[(order.set last current).getD j 0]? = w[p.getD j 0]?
  started : current ≠ i → order.getD i 0 = i ∧ last ≠ i
  fixed_below : ∀ j < i, order.getD j 0 = j
  bound : swaps.length + (misplaced (order.set last current)).card ≤ (misplaced p).card
  bound_of_swap : 0 < swaps.length → swaps.length + 1 ≤ (misplaced p).card

/-- What holds between the walks, before the walk from `i`. -/
structure OuterInv (i : Nat) (order : List Nat) (swaps : List (Nat × Nat)) : Prop where
  length_eq : order.length = p.length
  bijective : IndexPerm order
  placed : ∀ j < p.length, (applySwaps w swaps)[order.getD j 0]? = w[p.getD j 0]?
  fixed_below : ∀ j < i, order.getD j 0 = j
  bound : swaps.length + (misplaced order).card ≤ (misplaced p).card
  bound_of_swap : 0 < swaps.length → swaps.length + 1 ≤ (misplaced p).card

variable {p w}

theorem OuterInv.start {i : Nat} {order : List Nat} {swaps : List (Nat × Nat)}
    (inv : OuterInv p w i order swaps) (below : i < p.length) :
    ∃ last, WalkInv p w i i last order swaps := by
  obtain ⟨last, lastIn, points⟩ := inv.bijective.exists_getD_eq (by rw [inv.length_eq]; exact below)
  have unchanged : order.set last i = order := by
    rw [← points, List.getD_eq_getElem _ _ lastIn, List.set_getElem_self]
  refine ⟨last, ⟨inv.length_eq, below, below, inv.length_eq ▸ lastIn, points, ?_, ?_,
    fun moved => absurd rfl moved, inv.fixed_below, ?_, inv.bound_of_swap⟩⟩
  · rw [unchanged]
    exact inv.bijective
  · rw [unchanged]
    exact inv.placed
  · rw [unchanged]
    exact inv.bound

namespace WalkInv

variable {i current last : Nat} {order : List Nat} {swaps : List (Nat × Nat)}

theorem last_lt_length (inv : WalkInv p w i current last order swaps) : last < order.length := by
  rw [inv.length_eq]
  exact inv.last_lt

theorem current_lt_length (inv : WalkInv p w i current last order swaps) :
    current < order.length := by
  rw [inv.length_eq]
  exact inv.current_lt

theorem length_redirected (inv : WalkInv p w i current last order swaps) :
    (order.set last current).length = p.length := by
  rw [List.length_set, inv.length_eq]

theorem redirected_last (inv : WalkInv p w i current last order swaps) :
    (order.set last current).getD last 0 = current := by
  rw [getD_set_of_lt inv.last_lt_length, if_pos rfl]

theorem redirected_of_ne (inv : WalkInv p w i current last order swaps) {j : Nat} (away : j ≠ last) :
    (order.set last current).getD j 0 = order.getD j 0 := by
  rw [getD_set_of_lt inv.last_lt_length, if_neg away]

theorem continuing (inv : WalkInv p w i current last order swaps) (going : order.getD current 0 ≠ i) :
    current ≠ last ∧ order.getD current 0 ≠ current ∧ order.getD current 0 < p.length := by
  have away : current ≠ last := fun same => going (same ▸ inv.last_points)
  have currentIn : current < (order.set last current).length := by
    rw [inv.length_redirected]
    exact inv.current_lt
  refine ⟨away, fun self => away ?_, ?_⟩
  · apply inv.redirected.injective current currentIn last (by rw [inv.length_redirected]; exact inv.last_lt)
    rw [inv.redirected_of_ne away, inv.redirected_last, self]
  · have below := inv.redirected.lt current currentIn
    rwa [inv.redirected_of_ne away, inv.length_redirected] at below

theorem step_values (inv : WalkInv p w i current last order swaps) (away : current ≠ last) (j : Nat) :
    ((order.set current current).set last (order.getD current 0)).getD j 0 =
      (order.set last current).getD (Equiv.swap current last j) 0 := by
  rw [getD_set_of_lt (by rw [List.length_set]; exact inv.last_lt_length),
    getD_set_of_lt inv.current_lt_length, getD_set_of_lt inv.last_lt_length, Equiv.swap_apply_def]
  by_cases atLast : j = last
  · simp [atLast, away, Ne.symm away]
  · by_cases atCurrent : j = current
    · simp [atCurrent, away]
    · simp [atLast, atCurrent]

theorem two_le_card (inv : WalkInv p w i current last order swaps) (going : order.getD current 0 ≠ i) :
    2 ≤ (misplaced (order.set last current)).card := by
  obtain ⟨away, moves, -⟩ := inv.continuing going
  exact two_le_card_misplaced (by rw [inv.length_redirected]; exact inv.current_lt)
    (by rw [inv.length_redirected]; exact inv.last_lt) away
    (by rw [inv.redirected_of_ne away]; exact moves) (by rw [inv.redirected_last]; exact away)

theorem step (inv : WalkInv p w i current last order swaps) (going : order.getD current 0 ≠ i)
    (wLength : w.length = p.length) :
    WalkInv p w i (order.getD current 0) last (order.set current current)
        (swaps ++ [(current, order.getD current 0)]) ∧
      (misplaced ((order.set current current).set last (order.getD current 0))).card <
        (misplaced (order.set last current)).card := by
  obtain ⟨away, moves, nextLt⟩ := inv.continuing going
  have values := inv.step_values away
  have currentIn : current < (order.set last current).length := by
    rw [inv.length_redirected]
    exact inv.current_lt
  have lastIn : last < (order.set last current).length := by
    rw [inv.length_redirected]
    exact inv.last_lt
  have lengthStepped :
      ((order.set current current).set last (order.getD current 0)).length =
        (order.set last current).length := by
    simp
  have redirectedCurrent := inv.redirected_of_ne away
  have fewer := card_misplaced_swap_lt (a := current) (b := last) currentIn lengthStepped values
    inv.redirected_last (by rw [redirectedCurrent]; exact moves)
  have tLength : (applySwaps w swaps).length = p.length := by rw [length_applySwaps, wLength]
  refine ⟨⟨by rw [List.length_set, inv.length_eq], inv.start_lt, nextLt, inv.last_lt, ?_,
    inv.redirected.swap currentIn lastIn lengthStepped values, ?_, ?_, ?_, ?_, ?_⟩, fewer⟩
  · rw [getD_set_of_lt inv.current_lt_length, if_neg (Ne.symm away)]
    exact inv.last_points
  · intro j within
    rw [applySwaps_concat, getElem?_swapElems (by rw [tLength]; exact inv.current_lt)
      (by rw [tLength]; exact nextLt), values]
    by_cases atCurrent : j = current
    · rw [atCurrent, Equiv.swap_apply_left, inv.redirected_last, if_neg (Ne.symm moves), if_pos rfl,
        ← redirectedCurrent]
      exact inv.placed current inv.current_lt
    · by_cases atLast : j = last
      · rw [atLast, Equiv.swap_apply_right, redirectedCurrent, if_pos rfl, ← inv.redirected_last]
        exact inv.placed last inv.last_lt
      · have within' : j < (order.set last current).length := by
          rw [inv.length_redirected]
          exact within
        rw [Equiv.swap_apply_of_ne_of_ne atCurrent atLast]
        have notNext : (order.set last current).getD j 0 ≠ order.getD current 0 := fun same =>
          atCurrent (inv.redirected.injective j within' current currentIn
            (same.trans redirectedCurrent.symm))
        have notCurrent : (order.set last current).getD j 0 ≠ current := fun same =>
          atLast (inv.redirected.injective j within' last lastIn
            (same.trans inv.redirected_last.symm))
        rw [if_neg notNext, if_neg notCurrent]
        exact inv.placed j within
  · intro _
    by_cases atStart : current = i
    · refine ⟨by rw [getD_set_of_lt inv.current_lt_length, if_pos atStart.symm, atStart], ?_⟩
      intro lastStart
      exact away (atStart.trans lastStart.symm)
    · obtain ⟨startDone, lastNe⟩ := inv.started atStart
      refine ⟨?_, lastNe⟩
      rw [getD_set_of_lt inv.current_lt_length, if_neg (Ne.symm atStart)]
      exact startDone
  · intro j below
    rw [getD_set_of_lt inv.current_lt_length]
    by_cases atCurrent : j = current
    · rw [if_pos atCurrent, atCurrent]
    · rw [if_neg atCurrent]
      exact inv.fixed_below j below
  · rw [List.length_append, List.length_singleton]
    have bound := inv.bound
    omega
  · intro _
    have two := inv.two_le_card going
    have bound := inv.bound
    rw [List.length_append, List.length_singleton]
    omega

theorem finish (inv : WalkInv p w i current last order swaps) (back : order.getD current 0 = i) :
    OuterInv p w (i + 1) (order.set current current) swaps := by
  have atLast : current = last := by
    by_contra away
    have currentIn : current < (order.set last current).length := by
      rw [inv.length_redirected]
      exact inv.current_lt
    by_cases atStart : current = i
    · apply away
      apply inv.redirected.injective current currentIn last
        (by rw [inv.length_redirected]; exact inv.last_lt)
      rw [inv.redirected_of_ne away, inv.redirected_last, back, atStart]
    · obtain ⟨startDone, lastNe⟩ := inv.started atStart
      apply atStart
      apply inv.redirected.injective current currentIn i
        (by rw [inv.length_redirected]; exact inv.start_lt)
      rw [inv.redirected_of_ne away, inv.redirected_of_ne (Ne.symm lastNe), back, startDone]
  subst atLast
  refine ⟨by rw [List.length_set, inv.length_eq], inv.redirected, inv.placed, ?_, inv.bound,
    inv.bound_of_swap⟩
  intro j below
  rw [getD_set_of_lt inv.current_lt_length]
  by_cases atCurrent : j = current
  · rw [if_pos atCurrent, atCurrent]
  · rw [if_neg atCurrent]
    rcases Nat.lt_succ_iff_lt_or_eq.mp below with earlier | atStart
    · exact inv.fixed_below j earlier
    · rw [atStart] at atCurrent ⊢
      exact (inv.started (Ne.symm atCurrent)).1

end WalkInv

theorem walkCycle_spec (wLength : w.length = p.length) (i : Nat) :
    ∀ (fuel current last : Nat) (order : List Nat) (swaps : List (Nat × Nat)),
      WalkInv p w i current last order swaps → (misplaced (order.set last current)).card ≤ fuel →
      ∃ order' swaps' current', walkCycle i fuel current order swaps = some (order', swaps', current') ∧
        order'.getD current' 0 = i ∧ WalkInv p w i current' last order' swaps' := by
  intro fuel
  induction fuel with
  | zero =>
    intro current last order swaps inv enough
    rw [walkCycle]
    split
    · next back => exact ⟨order, swaps, current, rfl, back.symm, inv⟩
    · next going =>
      have two := inv.two_le_card (Ne.symm going)
      omega
  | succ fuel ih =>
    intro current last order swaps inv enough
    rw [walkCycle]
    split
    · next back => exact ⟨order, swaps, current, rfl, back.symm, inv⟩
    · next going =>
      obtain ⟨stepped, fewer⟩ := inv.step (Ne.symm going) wLength
      exact ih _ last _ _ stepped (by omega)

theorem walkCycles_spec (wLength : w.length = p.length) :
    ∀ (count i : Nat) (order : List Nat) (swaps : List (Nat × Nat)), i + count = p.length →
      OuterInv p w i order swaps →
      ∃ order' swaps', walkCycles p.length (List.range' i count) order swaps = some (order', swaps') ∧
        OuterInv p w p.length order' swaps' := by
  intro count
  induction count with
  | zero =>
    intro i order swaps ends inv
    exact ⟨order, swaps, rfl, (by omega : i = p.length) ▸ inv⟩
  | succ count ih =>
    intro i order swaps ends inv
    obtain ⟨last, start⟩ := inv.start (by omega)
    have enough : (misplaced (order.set last i)).card ≤ p.length := by
      calc (misplaced (order.set last i)).card ≤ (order.set last i).length := card_misplaced_le _
        _ = p.length := start.length_redirected
    obtain ⟨order', swaps', current', walked, back, walkInv⟩ :=
      walkCycle_spec wLength i p.length i last order swaps start enough
    rw [List.range'_succ, walkCycles, walked]
    exact ih (i + 1) _ _ (by omega) (walkInv.finish back)

end Walk

theorem applyPermutation_of_perm {α : Type} {p : List Nat} (perm : p.Perm (List.range p.length))
    (v : List α) (vLength : v.length = p.length) :
    ∃ swaps, applyPermutation p = some (.ok swaps) ∧ swaps.length ≤ p.length - 1 ∧
      ∀ j < p.length, (applySwaps v swaps)[j]? = v[p.getD j 0]? := by
  have initial : OuterInv p v 0 p [] :=
    ⟨rfl, indexPerm_iff_perm.2 perm, fun j _ => rfl, fun j below => absurd below (Nat.not_lt_zero j),
      by simp, fun empty => absurd empty (by simp)⟩
  obtain ⟨order, swaps, walked, final⟩ := walkCycles_spec vLength p.length 0 p [] (by omega) initial
  refine ⟨swaps, ?_, ?_, fun j below => ?_⟩
  · rw [applyPermutation, if_pos (permutationCheck_iff.2 perm), List.range_eq_range', walked]
    rfl
  · by_cases noSwap : swaps.length = 0
    · omega
    · have paid := final.bound_of_swap (by omega)
      have most := card_misplaced_le p
      omega
  · have placed := final.placed j below
    rwa [final.fixed_below j below] at placed

theorem applyPermutation_of_not_perm {p : List Nat} (notPerm : ¬p.Perm (List.range p.length)) :
    applyPermutation p = some (.error "Bad permutation") := by
  rw [applyPermutation, if_neg fun check => notPerm (permutationCheck_iff.1 check)]

theorem apply_permutation_reorders {α : Type} (p : List Nat) (v : List α) :
    (p.Perm (List.range p.length) → p.length = v.length →
      ∃ swaps v', applyPermutation p = some (.ok swaps) ∧ swaps.length ≤ p.length - 1 ∧
        applyPermutationTo p v = some (.ok v') ∧ v'.length = v.length ∧
        ∀ i (below : i < p.length), v'[i]? = v[p[i]]?) ∧
    (¬p.Perm (List.range p.length) →
      applyPermutation p = some (.error "Bad permutation") ∧
        (p.length = v.length → applyPermutationTo p v = some (.error "Bad permutation"))) := by
  constructor
  · intro perm sameLength
    obtain ⟨swaps, applied, few, placed⟩ := applyPermutation_of_perm perm v sameLength.symm
    refine ⟨swaps, applySwaps v swaps, applied, few, ?_, length_applySwaps v swaps, fun i below => ?_⟩
    · rw [applyPermutationTo, if_pos sameLength, applied]
      rfl
    · rw [placed i below, List.getD_eq_getElem _ _ below]
  · intro notPerm
    have thrown := applyPermutation_of_not_perm notPerm
    refine ⟨thrown, fun sameLength => ?_⟩
    rw [applyPermutationTo, if_pos sameLength, thrown]
    rfl

theorem unit_test_permutation_reorders :
    ∃ swaps, applyPermutation [3, 5, 6, 1, 2, 4, 0] = some (.ok swaps) ∧ swaps.length ≤ 6 ∧
      applyPermutationTo [3, 5, 6, 1, 2, 4, 0] [8, 4, 6, 1, 7, 2, 4] =
        some (.ok [1, 2, 4, 4, 6, 7, 8]) := by
  obtain ⟨swaps, v', applied, few, reordered, length_eq, placed⟩ :=
    (apply_permutation_reorders [3, 5, 6, 1, 2, 4, 0] [8, 4, 6, 1, 7, 2, 4]).1 (by decide) rfl
  refine ⟨swaps, applied, few, ?_⟩
  have sorted : v' = [1, 2, 4, 4, 6, 7, 8] := by
    apply List.ext_getElem?
    intro i
    by_cases below : i < 7
    · rw [placed i below]
      interval_cases i <;> rfl
    · rw [List.getElem?_eq_none (by simp at length_eq; omega), List.getElem?_eq_none (by simp; omega)]
  rw [reordered, sorted]

end Antd.Common
