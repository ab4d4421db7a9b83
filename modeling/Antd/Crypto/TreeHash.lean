import Antd.Lib.PairTree
import Antd.Crypto.Types

/-! `tree_hash` and `tree_hash_cnt` (`src/crypto/tree-hash.c`): the root of
the hashes of a block's transactions. For `count ≥ 3`, with `cnt` the largest
power of two below `count`, the first `2 cnt - count` hashes go into a buffer
of `cnt` nodes as they are and the others are hashed in pairs after them; the
buffer is then halved in place down to two nodes, whose hash is the root.

That is the root of the full binary tree over that level of `cnt` nodes
(`merkleRoot`, the tree the comments describe) for every count. -/

namespace Antd.Crypto

open PairTree

/-- The loop of `tree_hash_cnt` with `pow = 2 ^ e`: `pow <<= 1` while
`pow < count`, then `pow >> 1`. -/
def treeHashCntLoop (count e : Nat) : Nat :=
  if 2 ^ e < count then treeHashCntLoop count (e + 1) else 2 ^ e >>> 1
termination_by count - 2 ^ e
decreasing_by
  have doubled : 2 ^ e < 2 ^ (e + 1) := Nat.pow_lt_pow_right (by norm_num) (by omega)
  omega

def treeHashCnt (count : Nat) : Nat := treeHashCntLoop count 1

def largestPowBelow (count : Nat) : Nat := 2 ^ Nat.log 2 (count - 1)

section TreeHash

variable (cnFastHash : List UInt8 → Hash)

def hashPair (left right : Hash) : Hash := cnFastHash (left.data ++ right.data)

def treeHash (hashes : List Hash) : Option Hash :=
  let count := hashes.length
  if count = 0 then none
  else if count = 1 then some (hashes.getD 0 nullHash)
  else if count = 2 then
    some (hashPair cnFastHash (hashes.getD 0 nullHash) (hashes.getD 1 nullHash))
  else
    let cnt := treeHashCnt count
    let ints := hashes.take (2 * cnt - count) ++ List.replicate (cnt - (2 * cnt - count)) nullHash
    let (ints, i) := pairFrom (hashPair cnFastHash) nullHash hashes cnt (2 * cnt - count)
      (2 * cnt - count) ints
    if i ≠ count then none
    else
      let (_, ints) := halveWhile (hashPair cnFastHash) nullHash cnt ints
      some (hashPair cnFastHash (ints.getD 0 nullHash) (ints.getD 1 nullHash))

/-- The tree `tree_hash` is meant to compute: the hash itself for one hash,
the hash of the two for two, and otherwise the root of the full binary tree
over the level of `c` nodes, `c` the largest power of two below the count,
made of the first `2 c - count` hashes followed by the others hashed in pairs. -/
def merkleRoot (hashes : List Hash) : Option Hash :=
  match hashes with
  | [] => none
  | [hash] => some hash
  | [first, second] => some (hashPair cnFastHash first second)
  | _ =>
      let depth := Nat.log 2 (hashes.length - 1)
      let leaves := 2 * 2 ^ depth - hashes.length
      some (fullRoot (hashPair cnFastHash) nullHash depth
        (hashes.take leaves ++ pairUp (hashPair cnFastHash) (hashes.drop leaves)))

end TreeHash

/-! ### `tree_hash_cnt` -/

theorem treeHashCntLoop_eq (count e : Nat) :
    1 ≤ e → 2 ^ (e - 1) < count → treeHashCntLoop count e = 2 ^ Nat.log 2 (count - 1) := by
  fun_induction treeHashCntLoop count e with
  | case1 e less ih =>
      intro _ _
      exact ih (by omega) (by rwa [Nat.add_sub_cancel])
  | case2 e notLess =>
      intro positive half
      have logEq : Nat.log 2 (count - 1) = e - 1 := by
        have countPos : 0 < count := lt_of_le_of_lt (Nat.zero_le _) half
        refine Nat.log_eq_of_pow_le_of_lt_pow (by omega) ?_
        rw [Nat.sub_add_cancel positive]
        omega
      rw [logEq, Nat.shiftRight_eq_div_pow, pow_one]
      obtain ⟨e, rfl⟩ : ∃ below, e = below + 1 := ⟨e - 1, by omega⟩
      rw [pow_succ, Nat.mul_div_cancel _ (by norm_num), Nat.add_sub_cancel]

theorem treeHashCnt_eq {count : Nat} (three : 3 ≤ count) :
    treeHashCnt count = largestPowBelow count :=
  treeHashCntLoop_eq count 1 le_rfl (by norm_num; omega)

theorem largestPowBelow_bounds {count : Nat} (two : 2 ≤ count) :
    largestPowBelow count < count ∧ count ≤ 2 * largestPowBelow count := by
  have atMost : 2 ^ Nat.log 2 (count - 1) ≤ count - 1 := Nat.pow_log_le_self 2 (by omega)
  have above : count - 1 < 2 ^ (Nat.log 2 (count - 1) + 1) :=
    Nat.lt_pow_succ_log_self (by norm_num) _
  rw [pow_succ] at above
  unfold largestPowBelow
  omega

/-! ### The level of `cnt` nodes -/

section Level

variable {cnFastHash : List UInt8 → Hash}

theorem pairFrom_leaves {hashes : List Hash} {cnt : Nat} (below : cnt < hashes.length)
    (within : hashes.length ≤ 2 * cnt) :
    pairFrom (hashPair cnFastHash) nullHash hashes cnt (2 * cnt - hashes.length)
        (2 * cnt - hashes.length)
        (hashes.take (2 * cnt - hashes.length) ++
          List.replicate (cnt - (2 * cnt - hashes.length)) nullHash) =
      (hashes.take (2 * cnt - hashes.length) ++
          pairUp (hashPair cnFastHash) (hashes.drop (2 * cnt - hashes.length)),
        hashes.length) := by
  set leaves := 2 * cnt - hashes.length with leavesEq
  have bufferLength : (hashes.take leaves ++ List.replicate (cnt - leaves) nullHash).length = cnt := by
    rw [List.length_append, List.length_take, List.length_replicate]
    omega
  have levelLength :
      (hashes.take leaves ++ pairUp (hashPair cnFastHash) (hashes.drop leaves)).length = cnt := by
    rw [List.length_append, List.length_take, length_pairUp, List.length_drop]
    omega
  obtain ⟨stopped, entries⟩ := pairFrom_spec (hashPair cnFastHash) nullHash hashes cnt leaves leaves
    _ (by omega) bufferLength.ge
  refine Prod.ext (List.ext_getElem? fun k => ?_) (by rw [stopped]; omega)
  dsimp only
  rw [entries k]
  by_cases copied : k < leaves
  · rw [if_neg (by omega), List.getElem?_append_left (by rw [List.length_take]; omega),
      List.getElem?_append_left (by rw [List.length_take]; omega)]
  by_cases paired : k < cnt
  · rw [if_pos ⟨by omega, paired⟩, List.getElem?_append_right (by rw [List.length_take]; omega),
      List.length_take, Nat.min_eq_left (by omega), getElem?_pairUp (hashPair cnFastHash) nullHash,
      List.length_drop, if_pos (by omega)]
    simp only [List.getD_eq_getElem?_getD, List.getElem?_drop]
    congr 4
  · rw [if_neg (by omega), List.getElem?_eq_none (by rw [bufferLength]; omega),
      List.getElem?_eq_none (by rw [levelLength]; omega)]

theorem treeHash_of_three_le {hashes : List Hash} (three : 3 ≤ hashes.length) :
    treeHash cnFastHash hashes =
      some (fullRoot (hashPair cnFastHash) nullHash (Nat.log 2 (hashes.length - 1))
        (hashes.take (2 * largestPowBelow hashes.length - hashes.length) ++
          pairUp (hashPair cnFastHash)
            (hashes.drop (2 * largestPowBelow hashes.length - hashes.length)))) := by
  obtain ⟨below, within⟩ := largestPowBelow_bounds (by omega : 2 ≤ hashes.length)
  have depthPos : 1 ≤ Nat.log 2 (hashes.length - 1) := Nat.log_pos (by norm_num) (by omega)
  have powEq : largestPowBelow hashes.length = 2 ^ (Nat.log 2 (hashes.length - 1) - 1 + 1) := by
    rw [Nat.sub_add_cancel depthPos]
    rfl
  rw [treeHash]
  dsimp only
  rw [if_neg (by omega), if_neg (by omega), if_neg (by omega), treeHashCnt_eq three,
    pairFrom_leaves below within]
  dsimp only
  rw [if_neg (not_not.mpr rfl)]
  set level := hashes.take (2 * largestPowBelow hashes.length - hashes.length) ++
    pairUp (hashPair cnFastHash) (hashes.drop (2 * largestPowBelow hashes.length - hashes.length))
  have levelLength : level.length = largestPowBelow hashes.length := by
    rw [List.length_append, List.length_take, length_pairUp, List.length_drop]
    omega
  obtain ⟨rest, halved, root⟩ := halveWhile_pow (hashPair cnFastHash) nullHash
    (Nat.log 2 (hashes.length - 1) - 1) level (by rw [levelLength, powEq])
  rw [← powEq] at halved root
  rw [halved]
  dsimp only
  rw [root, List.take_of_length_le levelLength.le, Nat.sub_add_cancel depthPos]

end Level

/-- `tree_hash` computes the root of the reference tree for every list of
hashes, and for three or more `tree_hash_cnt` is the largest power of two
below the count. -/
theorem treeHash_matches_merkleRoot (cnFastHash : List UInt8 → Hash) (hashes : List Hash) :
    treeHash cnFastHash hashes = merkleRoot cnFastHash hashes ∧
      (3 ≤ hashes.length → treeHashCnt hashes.length = largestPowBelow hashes.length ∧
        largestPowBelow hashes.length < hashes.length ∧
        hashes.length ≤ 2 * largestPowBelow hashes.length) := by
  refine ⟨?_, fun three => ⟨treeHashCnt_eq three, largestPowBelow_bounds (by omega)⟩⟩
  match hashes with
  | [] => rfl
  | [hash] => rfl
  | [first, second] => rfl
  | first :: second :: third :: more =>
      rw [treeHash_of_three_le (by simp)]
      rfl

theorem tree_of_514_hashes :
    treeHash (fun _ => nullHash) (List.replicate 514 nullHash) =
        merkleRoot (fun _ => nullHash) (List.replicate 514 nullHash) ∧
      treeHashCnt 514 = largestPowBelow 514 ∧ largestPowBelow 514 < 514 ∧
        514 ≤ 2 * largestPowBelow 514 := by
  have tree := treeHash_matches_merkleRoot (fun _ => nullHash) (List.replicate 514 nullHash)
  rw [List.length_replicate] at tree
  exact ⟨tree.1, tree.2 (by norm_num)⟩

end Antd.Crypto
