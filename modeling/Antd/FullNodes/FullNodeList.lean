import Antd.FullNodes.Deregister

/-! The registered nodes of `full_node_list` (`full_node_list.h`) and the
quorum each block draws from them (`full_node_list.cpp`): the fully funded
nodes in key order, their indices shuffled by `antd_shuffle` from the block
hash, the first `QUORUM_SIZE` for the quorum and the next ones for the nodes
to test.

The results hold for every engine whose draws reach the lower half of the
64-bit range from every state, so that the rejection loop of
`uniform_distribution_portable` ends; `std::mt19937_64` is one
(`MersenneTwister.lean`). With any such engine the shuffle is a
permutation (`antdShuffle_perm`), every draw stays below its bound, and the
quorum and the nodes to test are distinct fully funded nodes
(`storeQuorumStateFromRewardsList_sound`). -/

namespace Antd.FullNodes

open Antd.Crypto Antd.Cryptonote

structure Contribution where
  version : UInt8
  keyImagePubKey : PublicKey
  keyImage : KeyImage
  amount : UInt64

structure Contributor where
  version : UInt8
  amount : UInt64
  reserved : UInt64
  address : AccountPublicAddress
  lockedContributions : List Contribution

structure FullNodeInfo where
  version : UInt8
  registrationHeight : UInt64
  requestedUnlockHeight : UInt64
  lastRewardBlockHeight : UInt64
  lastRewardTransactionIndex : UInt32
  contributors : List Contributor
  totalContributed : UInt64
  totalReserved : UInt64
  stakingRequirement : UInt64
  portionsForOperator : UInt64
  swarmId : UInt64
  operatorAddress : AccountPublicAddress

def FullNodeInfo.isFullyFunded (info : FullNodeInfo) : Bool :=
  decide (info.totalContributed ≥ info.stakingRequirement)

def nthOfTheNetworkToTest : Nat := 100

def minNodesToTest : Nat := 50

/-- `full_node_list::get_full_nodes_pubkeys`: the keys of the fully funded
nodes, in `memcmp` order. -/
def getFullNodesPubkeys (infos : List (PublicKey × FullNodeInfo)) : List PublicKey :=
  ((infos.filter fun entry => entry.2.isFullyFunded).map Prod.fst).insertionSort
    fun a b => memcmpLt a.data b.data = true

/-! ### The random engine -/

/-- An engine like `std::mt19937_64`: seeded from a 64-bit value, each draw
returns a 64-bit value and the next state. From every state, some later draw
is below `2 ^ 63`. -/
structure RandomEngine (σ : Type) where
  seed : UInt64 → σ
  next : σ → UInt64 × σ
  eventuallyLow : ∀ state, ∃ skipped : Nat,
    (next ((fun current => (next current).2)^[skipped] state)).1.toNat < 2 ^ 63

variable {σ : Type}

def RandomEngine.skip (engine : RandomEngine σ) (skipped : Nat) (state : σ) : σ :=
  (fun current => (engine.next current).2)^[skipped] state

theorem RandomEngine.exists_draw_below (engine : RandomEngine σ) {bound : UInt64}
    (low : 2 ^ 63 ≤ bound.toNat) (state : σ) :
    ∃ skipped, (engine.next (engine.skip skipped state)).1 < bound := by
  obtain ⟨skipped, below⟩ := engine.eventuallyLow state
  exact ⟨skipped, UInt64.lt_iff_toNat_lt.mpr (by unfold RandomEngine.skip; omega)⟩

def maxValue : UInt64 := 0xFFFFFFFFFFFFFFFF

/-- `uniform_distribution_portable`: draws until a value below the largest
multiple of `n` that fits, and scales it down below `n`. For `n = 0`, where
the code divides by zero, the model returns 0. -/
def uniformDistributionPortable (engine : RandomEngine σ) (state : σ) (n : UInt64) :
    UInt64 × σ :=
  let secureMax := maxValue - maxValue % n
  if low : 2 ^ 63 ≤ secureMax.toNat then
    let skipped := Nat.find (engine.exists_draw_below low state)
    let (x, state) := engine.next (engine.skip skipped state)
    (x / (secureMax / n), state)
  else (0, state)

def shuffleLoop {α : Type} (engine : RandomEngine σ) : Nat → Nat → Array α × σ → Array α × σ
  | 0, _, current => current
  | count + 1, i, (a, state) =>
      let draw := uniformDistributionPortable engine state (i + 1).toUInt64
      let j := draw.1
      let a := if i ≠ j.toNat then a.swapIfInBounds i j.toNat else a
      shuffleLoop engine count (i + 1) (a, draw.2)

def antdShuffle {α : Type} (engine : RandomEngine σ) (a : Array α) (seed : UInt64) : Array α :=
  if a.size ≤ 1 then a
  else (shuffleLoop engine (a.size - 1) 1 (a, engine.seed seed)).1

/-- `full_node_list::store_quorum_state_from_rewards_list`: the quorum state
stored for the block with hash `blockHash`, or none for the null hash. -/
def storeQuorumStateFromRewardsList (engine : RandomEngine σ)
    (infos : List (PublicKey × FullNodeInfo)) (blockHash : Hash) : Option QuorumState :=
  if blockHash = nullHash then none
  else
    let fullNodeList := getFullNodesPubkeys infos
    let seed := (LittleEndian.ofBytes (blockHash.data.take 8)).toUInt64
    let pubKeysIndexes := antdShuffle engine (Array.range fullNodeList.length) seed
    let quorumSize := min fullNodeList.length quorumSize
    let quorum := (List.range quorumSize).map fun i =>
      fullNodeList.getD (pubKeysIndexes.getD i 0) nullPkey
    let numRemainingNodes := pubKeysIndexes.size - quorum.length
    let numNodesToTest := max (numRemainingNodes / nthOfTheNetworkToTest)
      (min minNodesToTest numRemainingNodes)
    let pubKeysOffset := quorum.length
    let nodesToTest := (List.range numNodesToTest).map fun i =>
      fullNodeList.getD (pubKeysIndexes.getD (pubKeysOffset + i) 0) nullPkey
    some ⟨quorum, nodesToTest⟩

/-! ### Draws and the shuffle -/

theorem maxValue_toNat : maxValue.toNat = 2 ^ 64 - 1 := rfl

theorem secureMax_spec {n : UInt64} (positive : 0 < n.toNat) :
    (maxValue - maxValue % n).toNat = n.toNat * ((2 ^ 64 - 1) / n.toNat) ∧
      2 ^ 63 ≤ (maxValue - maxValue % n).toNat := by
  have split := Nat.div_add_mod (2 ^ 64 - 1) n.toNat
  have small := Nat.mod_lt (2 ^ 64 - 1) positive
  have below := n.toNat_lt
  have remainder : (maxValue % n).toNat = (2 ^ 64 - 1) % n.toNat := by
    rw [UInt64.toNat_mod, maxValue_toNat]
  have difference : (maxValue - maxValue % n).toNat = 2 ^ 64 - 1 - (2 ^ 64 - 1) % n.toNat := by
    rw [UInt64.toNat_sub_of_le _ _ (UInt64.le_iff_toNat_le.mpr (by rw [remainder, maxValue_toNat]; omega)),
      remainder, maxValue_toNat]
  refine ⟨by rw [difference]; omega, ?_⟩
  rw [difference]
  by_cases half : n.toNat ≤ 2 ^ 63
  · omega
  · have quotient : (2 ^ 64 - 1) / n.toNat = 1 := by
      apply Nat.div_eq_of_lt_le <;> omega
    rw [quotient] at split
    omega

theorem uniformDistributionPortable_lt (engine : RandomEngine σ) (state : σ) {n : UInt64}
    (positive : 0 < n.toNat) : (uniformDistributionPortable engine state n).1.toNat < n.toNat := by
  obtain ⟨multiple, low⟩ := secureMax_spec positive
  rw [uniformDistributionPortable, dif_pos low]
  dsimp only
  have accepted := Nat.find_spec (engine.exists_draw_below low state)
  generalize Nat.find (engine.exists_draw_below low state) = skipped at accepted ⊢
  rw [UInt64.lt_iff_toNat_lt, multiple] at accepted
  have quotientPositive : 0 < (2 ^ 64 - 1) / n.toNat := by
    rw [multiple] at low
    rcases Nat.eq_zero_or_pos ((2 ^ 64 - 1) / n.toNat) with zero | pos
    · rw [zero, Nat.mul_zero] at low
      omega
    · exact pos
  rw [UInt64.toNat_div, UInt64.toNat_div, multiple, Nat.mul_div_cancel_left _ positive,
    Nat.div_lt_iff_lt_mul quotientPositive]
  simpa using accepted

theorem uniformDistributionPortable_of_accepted (engine : RandomEngine σ) (state : σ) {n : UInt64}
    (positive : 0 < n.toNat) (accepted : (engine.next state).1 < maxValue - maxValue % n) :
    uniformDistributionPortable engine state n =
      ((engine.next state).1 / ((maxValue - maxValue % n) / n), (engine.next state).2) := by
  have low := (secureMax_spec positive).2
  have first : Nat.find (engine.exists_draw_below low state) = 0 :=
    (Nat.find_eq_zero _).mpr accepted
  rw [uniformDistributionPortable, dif_pos low, first]
  rfl

theorem shuffle_draw_le (engine : RandomEngine σ) (state : σ) {i : Nat} (fits : i + 1 < 2 ^ 64) :
    (uniformDistributionPortable engine state (i + 1).toUInt64).1.toNat ≤ i := by
  have bound : ((i + 1).toUInt64).toNat = i + 1 := by
    rw [Nat.toUInt64_eq, UInt64.toNat_ofNat', Nat.mod_eq_of_lt fits]
  have below := uniformDistributionPortable_lt engine state (n := (i + 1).toUInt64) (by omega)
  omega

theorem swapIfInBounds_perm {α : Type} (a : Array α) (i j : Nat) :
    (a.swapIfInBounds i j).toList.Perm a.toList := by
  unfold Array.swapIfInBounds
  split
  · split
    · exact (Array.swap_perm _ _).toList
    · exact List.Perm.refl _
  · exact List.Perm.refl _

theorem shuffleLoop_perm {α : Type} (engine : RandomEngine σ) :
    ∀ (count i : Nat) (a : Array α) (state : σ),
      (shuffleLoop engine count i (a, state)).1.toList.Perm a.toList := by
  intro count
  induction count with
  | zero => intro i a state; exact List.Perm.refl _
  | succ count ih =>
      intro i a state
      rw [shuffleLoop]
      refine (ih _ _ _).trans ?_
      split
      · exact swapIfInBounds_perm a _ _
      · exact List.Perm.refl _

theorem antdShuffle_perm {α : Type} (engine : RandomEngine σ) (a : Array α) (seed : UInt64) :
    (antdShuffle engine a seed).toList.Perm a.toList := by
  unfold antdShuffle
  split
  · exact List.Perm.refl _
  · exact shuffleLoop_perm engine _ _ _ _

/-! ### The quorum

The keys are distinct when the entries are (the list is read from an
`unordered_map` keyed by the node's key), so the reads at distinct shuffled
positions are distinct keys. -/

theorem mem_getFullNodesPubkeys {infos : List (PublicKey × FullNodeInfo)} {key : PublicKey} :
    key ∈ getFullNodesPubkeys infos ↔ ∃ info, (key, info) ∈ infos ∧ info.isFullyFunded = true := by
  rw [getFullNodesPubkeys, (List.perm_insertionSort _ _).mem_iff]
  simp

theorem getFullNodesPubkeys_nodup {infos : List (PublicKey × FullNodeInfo)}
    (distinct : (infos.map Prod.fst).Nodup) : (getFullNodesPubkeys infos).Nodup := by
  rw [getFullNodesPubkeys, (List.perm_insertionSort _ _).nodup_iff]
  exact distinct.sublist (List.filter_sublist.map _)

theorem length_getFullNodesPubkeys_le (infos : List (PublicKey × FullNodeInfo)) :
    (getFullNodesPubkeys infos).length ≤ infos.length := by
  rw [getFullNodesPubkeys, List.length_insertionSort, List.length_map]
  exact List.length_filter_le _ _

theorem map_getD_range {α : Type} (l : List α) (d : α) {k : Nat} (within : k ≤ l.length) :
    (List.range k).map (fun i => l.getD i d) = l.take k := by
  apply List.ext_getElem
  · simp only [List.length_map, List.length_range, List.length_take]
    omega
  · intro i _ below
    rw [List.length_take] at below
    simp [List.getElem?_eq_getElem (show i < l.length by omega)]

theorem reads_of_perm {α : Type} {l : List α} (d : α) {order : List Nat}
    (perm : order.Perm (List.range l.length)) (nodup : l.Nodup) (k : Nat) :
    ((order.take k).map fun i => l.getD i d).Subperm l ∧
      ((order.take k).map fun i => l.getD i d).Nodup := by
  have reordered : (order.map fun i => l.getD i d).Perm l := by
    have := perm.map fun i => l.getD i d
    rwa [map_getD_range l d le_rfl, List.take_length] at this
  rw [List.map_take]
  exact ⟨(List.take_sublist _ _).subperm.trans reordered.subperm,
    (reordered.nodup_iff.mpr nodup).sublist (List.take_sublist _ _)⟩

theorem quorum_append_nodesToTest {α : Type} (l : List α) (d : α) (order : Array Nat)
    {quorum toTest : Nat} (within : quorum + toTest ≤ order.size) :
    (List.range quorum).map (fun i => l.getD (order.getD i 0) d) ++
        (List.range toTest).map (fun i => l.getD (order.getD (quorum + i) 0) d) =
      (order.toList.take (quorum + toTest)).map fun i => l.getD i d := by
  rw [← map_getD_range order.toList 0 (by simpa using within), List.range_add,
    List.map_append, List.map_append, List.map_map, List.map_map, List.map_map]
  simp [Function.comp_def, Array.getD_eq_getD_getElem?]

theorem numNodesToTest_le (remaining : Nat) :
    max (remaining / nthOfTheNetworkToTest) (min minNodesToTest remaining) ≤ remaining := by
  simp only [nthOfTheNetworkToTest, minNodesToTest]
  omega

/-- For every engine and every non-null block hash, the stored quorum has
`min n QUORUM_SIZE` keys and the nodes to test the count the code computes,
every read stays in range (each draw of the shuffle at pass `i` is at most
`i`, and the quorum and the nodes to test take at most `n` indices), and the
two lists are distinct keys of fully funded nodes. -/
theorem storeQuorumStateFromRewardsList_sound (engine : RandomEngine σ)
    (infos : List (PublicKey × FullNodeInfo)) (blockHash : Hash)
    (distinct : (infos.map Prod.fst).Nodup) (fewNodes : infos.length < 2 ^ 64)
    (notNull : blockHash ≠ nullHash) :
    let n := (getFullNodesPubkeys infos).length
    let q := min n quorumSize
    (∀ (i : Nat) (state : σ), i < n →
      (uniformDistributionPortable engine state (i + 1).toUInt64).1.toNat ≤ i) ∧
    ∃ state, storeQuorumStateFromRewardsList engine infos blockHash = some state ∧
      state.quorumNodes.length = q ∧
      state.nodesToTest.length =
        max ((n - q) / nthOfTheNetworkToTest) (min minNodesToTest (n - q)) ∧
      q + state.nodesToTest.length ≤ n ∧
      (state.quorumNodes ++ state.nodesToTest).Subperm (getFullNodesPubkeys infos) ∧
      (∀ key ∈ state.quorumNodes ++ state.nodesToTest,
        ∃ info, (key, info) ∈ infos ∧ info.isFullyFunded = true) ∧
      (state.quorumNodes ++ state.nodesToTest).Nodup := by
  dsimp only
  have fewer := length_getFullNodesPubkeys_le infos
  refine ⟨fun i state below => shuffle_draw_le engine state (by omega), ?_⟩
  rw [storeQuorumStateFromRewardsList, if_neg notNull]
  refine ⟨_, rfl, ?_⟩
  dsimp only
  simp only [List.length_map, List.length_range, true_and]
  have perm := antdShuffle_perm engine (Array.range (getFullNodesPubkeys infos).length)
    (LittleEndian.ofBytes (blockHash.data.take 8)).toUInt64
  rw [Array.toList_range] at perm
  generalize antdShuffle engine _ _ = order at perm ⊢
  have size : order.size = (getFullNodesPubkeys infos).length := by
    simpa using perm.length_eq
  have toTest := numNodesToTest_le
    ((getFullNodesPubkeys infos).length - min (getFullNodesPubkeys infos).length quorumSize)
  rw [size, quorum_append_nodesToTest _ _ order (by omega)]
  obtain ⟨subperm, nodup⟩ := reads_of_perm nullPkey perm
    (getFullNodesPubkeys_nodup distinct) _
  refine ⟨rfl, by omega, subperm, fun key read => ?_, nodup⟩
  exact mem_getFullNodesPubkeys.mp (subperm.subset read)

/-- An engine for the examples: a 64-bit counter whose draws are its halves,
all below `2 ^ 63`. -/
def halvingCounter : RandomEngine UInt64 where
  seed := id
  next state := (state >>> 1, state + 1)
  eventuallyLow state := ⟨0, by
    have below := state.toNat_lt
    simp only [Function.iterate_zero, id, UInt64.toNat_shiftRight, UInt64.toNat_one,
      Nat.shiftRight_eq_div_pow, Nat.one_mod, pow_one]
    omega⟩

@[simp] theorem halvingCounter_seed (seed : UInt64) : halvingCounter.seed seed = seed := rfl

theorem two_node_quorum_distinct :
    let node (byte : UInt8) : PublicKey × FullNodeInfo :=
      (⟨List.replicate 32 byte, List.length_replicate⟩,
        ⟨0, 0, 0, 0, 0, [], 1, 0, 1, 0, 0, ⟨nullPkey, nullPkey⟩⟩)
    let blockHash : Hash := ⟨List.replicate 32 7, List.length_replicate⟩
    ∃ state, storeQuorumStateFromRewardsList halvingCounter [node 1, node 2] blockHash = some state ∧
      state.quorumNodes.length = 2 ∧ (state.quorumNodes ++ state.nodesToTest).Nodup := by
  intro node blockHash
  obtain ⟨-, state, stored, quorum, -, -, -, -, nodup⟩ :=
    storeQuorumStateFromRewardsList_sound halvingCounter [node 1, node 2] blockHash
      (by decide) (by decide) (by decide)
  have twoNodes : (getFullNodesPubkeys [node 1, node 2]).length = 2 := by decide
  rw [twoNodes] at quorum
  exact ⟨state, stored, quorum, nodup⟩

end Antd.FullNodes
