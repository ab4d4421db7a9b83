import Mathlib

/-! Full binary trees over a level of nodes. A level goes one level up by
combining each two neighbours; the root of a tree of depth `depth` is what is
left once a level of `2 ^ depth` nodes has gone up `depth` times.

Arrays compute a level in place: a pass writes node `j` of the next level at
index `j` from indices `2 j` and `2 j + 1`, which it has not written yet, so
after the pass the first half of the array is the next level. The loops here
are those passes, as `for (; j < cnt; i += 2, ++j)` loops over a list. -/

namespace PairTree

variable {α : Type} (f : α → α → α) (d : α)

def pairUp : List α → List α
  | a :: b :: rest => f a b :: pairUp rest
  | _ => []

def fullRoot : Nat → List α → α
  | 0, level => level.headD d
  | depth + 1, level => fullRoot depth (pairUp f level)

/-- `for (; j < cnt; i += 2, ++j) dst[j] = f(src[i], src[i + 1])`: nodes of a
level written into `dst` from pairs of another array. It also gives where `i`
stopped. -/
def pairFrom (src : List α) (cnt : Nat) (i j : Nat) (dst : List α) : List α × Nat :=
  if j < cnt then
    pairFrom src cnt (i + 2) (j + 1) (dst.set j (f (src.getD i d) (src.getD (i + 1) d)))
  else (dst, i)
termination_by cnt - j

/-- The same loop reading from the array it writes: the level above the first
`2 cnt` entries, written over the first `cnt`. -/
def pairInPlace (cnt : Nat) (i j : Nat) (ints : List α) : List α :=
  if j < cnt then
    pairInPlace cnt (i + 2) (j + 1) (ints.set j (f (ints.getD i d) (ints.getD (i + 1) d)))
  else ints
termination_by cnt - j

/-- `while (cnt > 2) { cnt >>= 1; for (i = 0, j = 0; j < cnt; i += 2, ++j) ... }`:
the array halved in place until two nodes are left. -/
def halveWhile (cnt : Nat) (ints : List α) : Nat × List α :=
  if 2 < cnt then halveWhile (cnt >>> 1) (pairInPlace f d (cnt >>> 1) 0 0 ints)
  else (cnt, ints)
termination_by cnt
decreasing_by
  rw [Nat.shiftRight_eq_div_pow]
  omega

/-! ### Levels -/

theorem length_pairUp : ∀ level : List α, (pairUp f level).length = level.length / 2
  | a :: b :: rest => by
      rw [pairUp, List.length_cons, length_pairUp rest, List.length_cons, List.length_cons]
      omega
  | [] => by simp [pairUp]
  | [_] => by simp [pairUp]

theorem getElem?_pairUp : ∀ (level : List α) (k : Nat),
    (pairUp f level)[k]? =
      if 2 * k + 1 < level.length then some (f (level.getD (2 * k) d) (level.getD (2 * k + 1) d))
      else none
  | a :: b :: rest, 0 => by simp [pairUp]
  | a :: b :: rest, k + 1 => by
      have first : (a :: b :: rest).getD (2 * (k + 1)) d = rest.getD (2 * k) d := by
        rw [show 2 * (k + 1) = 2 * k + 1 + 1 by ring]
        rfl
      have second : (a :: b :: rest).getD (2 * (k + 1) + 1) d = rest.getD (2 * k + 1) d := by
        rw [show 2 * (k + 1) + 1 = 2 * k + 1 + 1 + 1 by ring]
        rfl
      rw [pairUp, List.getElem?_cons_succ, getElem?_pairUp rest k, first, second,
        List.length_cons, List.length_cons]
      by_cases inside : 2 * k + 1 < rest.length
      · rw [if_pos inside, if_pos (by omega)]
      · rw [if_neg inside, if_neg (by omega)]
  | [], k => by simp [pairUp]
  | [_], k => by simp [pairUp]

/-! ### The loops -/

theorem length_pairInPlace (cnt : Nat) (i j : Nat) (ints : List α) :
    (pairInPlace f d cnt i j ints).length = ints.length := by
  fun_induction pairInPlace f d cnt i j ints with
  | case1 i j ints _ ih => rw [ih, List.length_set]
  | case2 => rfl

theorem pairFrom_spec (src : List α) (cnt : Nat) (i j : Nat) (dst : List α) :
    j ≤ cnt → cnt ≤ dst.length →
      (pairFrom f d src cnt i j dst).2 = i + 2 * (cnt - j) ∧
        ∀ k, (pairFrom f d src cnt i j dst).1[k]? =
          if j ≤ k ∧ k < cnt then
            some (f (src.getD (i + 2 * (k - j)) d) (src.getD (i + 2 * (k - j) + 1) d))
          else dst[k]? := by
  fun_induction pairFrom f d src cnt i j dst with
  | case1 i j dst less ih =>
      intro _ room
      obtain ⟨stopped, entries⟩ := ih less (by rw [List.length_set]; exact room)
      refine ⟨by omega, fun k => ?_⟩
      rw [entries k]
      by_cases written : k = j
      · subst written
        rw [if_neg (by omega), if_pos ⟨le_rfl, less⟩, List.getElem?_set_self (by omega)]
        simp
      · rw [List.getElem?_set_ne (Ne.symm written)]
        by_cases later : j + 1 ≤ k ∧ k < cnt
        · rw [if_pos later, if_pos ⟨by omega, later.2⟩]
          have index : i + 2 + 2 * (k - (j + 1)) = i + 2 * (k - j) := by omega
          rw [index]
        · rw [if_neg later, if_neg (by omega)]
  | case2 i j dst notLess =>
      intro within _
      refine ⟨by omega, fun k => ?_⟩
      rw [if_neg (by omega)]

theorem pairInPlace_spec (orig : List α) (cnt : Nat) (i j : Nat) (ints : List α) :
    i = 2 * j → j ≤ cnt → cnt ≤ ints.length →
      (∀ k, j ≤ k → ints[k]? = orig[k]?) →
      (∀ k, k < j → ints[k]? = some (f (orig.getD (2 * k) d) (orig.getD (2 * k + 1) d))) →
      ∀ k, (pairInPlace f d cnt i j ints)[k]? =
        if k < cnt then some (f (orig.getD (2 * k) d) (orig.getD (2 * k + 1) d)) else orig[k]? := by
  fun_induction pairInPlace f d cnt i j ints with
  | case1 i j ints less ih =>
      intro atPair _ room untouched done
      have readPair : ∀ index, j ≤ index → ints.getD index d = orig.getD index d := by
        intro index past
        rw [List.getD_eq_getElem?_getD, List.getD_eq_getElem?_getD, untouched index past]
      apply ih (by omega) less (by rw [List.length_set]; exact room)
      · intro k past
        rw [List.getElem?_set_ne (by omega), untouched k (by omega)]
      · intro k below
        by_cases written : k = j
        · subst written
          rw [List.getElem?_set_self (by omega), readPair i (by omega),
            readPair (i + 1) (by omega), atPair]
        · rw [List.getElem?_set_ne (Ne.symm written), done k (by omega)]
  | case2 i j ints notLess =>
      intro _ within _ untouched done k
      split
      · exact done k (by omega)
      · exact untouched k (by omega)

theorem take_pairInPlace (cnt : Nat) (orig : List α) (room : 2 * cnt ≤ orig.length) :
    (pairInPlace f d cnt 0 0 orig).take cnt = pairUp f (orig.take (2 * cnt)) := by
  have entries := pairInPlace_spec f d orig cnt 0 0 orig rfl (Nat.zero_le _) (by omega)
    (fun _ _ => rfl) (fun _ below => absurd below (Nat.not_lt_zero _))
  apply List.ext_getElem?
  intro k
  rw [List.getElem?_take, entries k, getElem?_pairUp f d, List.length_take]
  by_cases below : k < cnt
  · rw [if_pos below, if_pos below, if_pos (by omega)]
    simp only [List.getD_eq_getElem?_getD, List.getElem?_take,
      if_pos (show 2 * k < 2 * cnt by omega), if_pos (show 2 * k + 1 < 2 * cnt by omega)]
  · rw [if_neg below, if_neg (by omega)]

theorem halveWhile_pow (depth : Nat) : ∀ ints : List α, 2 ^ (depth + 1) ≤ ints.length →
    ∃ rest, halveWhile f d (2 ^ (depth + 1)) ints = (2, rest) ∧
      f (rest.getD 0 d) (rest.getD 1 d) = fullRoot f d (depth + 1) (ints.take (2 ^ (depth + 1))) := by
  induction depth with
  | zero =>
      intro ints room
      match ints, room with
      | a :: b :: rest, _ =>
          refine ⟨a :: b :: rest, by rw [halveWhile]; rfl, ?_⟩
          rfl
  | succ depth ih =>
      intro ints room
      have half : 2 ^ (depth + 1 + 1) >>> 1 = 2 ^ (depth + 1) := by
        rw [Nat.shiftRight_eq_div_pow, pow_succ, pow_one, Nat.mul_div_cancel _ (by norm_num)]
      have twice : 2 * 2 ^ (depth + 1) = 2 ^ (depth + 1 + 1) := by ring
      have more : 2 < 2 ^ (depth + 1 + 1) := by
        calc 2 < 2 ^ 2 := by norm_num
          _ ≤ 2 ^ (depth + 1 + 1) := Nat.pow_le_pow_right (by norm_num) (by omega)
      have passRoom : 2 ^ (depth + 1) ≤ (pairInPlace f d (2 ^ (depth + 1)) 0 0 ints).length := by
        rw [length_pairInPlace]
        omega
      obtain ⟨rest, halved, root⟩ := ih _ passRoom
      refine ⟨rest, ?_, ?_⟩
      · rw [halveWhile, if_pos more, half, halved]
      · rw [root, take_pairInPlace f d _ ints (by omega), twice]
        rfl

end PairTree
