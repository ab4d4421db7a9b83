import Antd.FullNodes.RegistrationTx
import Antd.Cryptonote.MinerTx
import Antd.Lib.UndoJournal

/-! The list of full nodes as `full_node_list` keeps it from block to block
(`m_transient_state`, `full_node_list.h`): the registered nodes, the key
images blacklisted after a deregistration, the quorum of each recent height,
and the rollback events that let `blockchain_detached` take blocks back.

`block_added_generic` records, before each change to a node or to the
blacklist, an event that undoes it, and `blockchain_detached` undoes the
events of the detached heights from the last one back; where an event cannot
be undone it falls back to `init()`, which rebuilds the list from the chain.
Every change a block makes is logged so (`blockAddedGeneric_journaled`),
except a re-registration during the version-10 grace period, which is logged
as a new node. So detaching at most thirty blocks from a list gives its nodes
and blacklist back (`blockchainDetached_restores`), for blocks of any version
from 9 but 10; detaching a version-10 block that registers a node again takes
the node off the list.

`std::unordered_map` iterates in an order the standard leaves open; the
model keeps the nodes in Mathlib's `AList`, newest write first. -/

namespace Antd.FullNodes

open Antd.Crypto Antd.Cryptonote Antd.Epee UndoJournal

attribute [local instance] uint64LinearOrder

def keyImageAwaitingUnlockHeight : UInt64 := 0

def stakingRequirementLockBlocksExcess : UInt64 := 20

/-- `QUORUM_LIFETIME`: six times `DEREGISTER_LIFETIME_BY_HEIGHT`, which is
`VOTE_LIFETIME_BY_HEIGHT`. -/
def quorumLifetime : UInt64 := 6 * voteLifetimeByHeight.toUInt64

def rollbackEventExpirationBlocks : UInt64 := 30

def getLockedKeyImageUnlockHeight (nettype : NetworkType) (currHeight : UInt64) : UInt64 :=
  currHeight + stakingNumLockBlocks nettype / 2

def generateRequestStakeUnlockHash (nonce : UInt32) : Hash :=
  ⟨(List.replicate 8 (LittleEndian.toBytes 4 nonce.toNat)).flatten, by simp⟩

/-- `key_image_blacklist_entry`, without the version its serialization writes. -/
structure KeyImageBlacklistEntry where
  keyImage : KeyImage
  unlockHeight : UInt64
  deriving DecidableEq

/-- `full_node_list::rollback_event_variant`: each event with the height of
the block that recorded it. -/
inductive RollbackEvent where
  /-- `rollback_change`: the node `key` had `info` before. -/
  | change (blockHeight : UInt64) (key : PublicKey) (info : FullNodeInfo)
  /-- `rollback_new`: the node `key` was registered. -/
  | new (blockHeight : UInt64) (key : PublicKey)
  /-- `prevent_rollback`: no rollback goes past it. -/
  | prevent (blockHeight : UInt64)
  /-- `rollback_key_image_blacklist`: `entry` was added to the blacklist, or
  removed from it. -/
  | keyImageBlacklist (blockHeight : UInt64) (entry : KeyImageBlacklistEntry)
      (wasAddingToBlacklist : Bool)
  /-- `rollback_key_image_unlock`: the node `key` requested its unlock. -/
  | keyImageUnlock (blockHeight : UInt64) (key : PublicKey)

def RollbackEvent.blockHeight : RollbackEvent → UInt64
  | .change blockHeight _ _ | .new blockHeight _ | .prevent blockHeight
  | .keyImageBlacklist blockHeight _ _ | .keyImageUnlock blockHeight _ => blockHeight

abbrev FullNodesInfos := AList fun _ : PublicKey => FullNodeInfo

/-- `full_node_list::m_transient_state`. The rollback events are the deque
from its front. -/
structure TransientState where
  fullNodesInfos : FullNodesInfos
  keyImageBlacklist : List KeyImageBlacklistEntry
  rollbackEvents : List RollbackEvent
  quorumStates : SortedMap UInt64 QuorumState
  height : UInt64

/-- `full_node_list::clear`: no node, no event, and the height at which
version 9 starts. -/
def clear (hardfork9FromHeight : UInt64) : TransientState :=
  ⟨∅, [], [], ⟨[], List.Pairwise.nil⟩, hardfork9FromHeight⟩

/-- The fields of `cryptonote::block` the list reads. -/
structure Block where
  timestamp : UInt64
  minerTx : Transaction

/-- What `full_node_list` reads from `m_blockchain` beyond the staking
context, and the generator of its shuffles. -/
structure ListContext (σ : Type) extends StakingContext where
  getBlockIdByHeight : UInt64 → Hash
  /-- `m_blockchain.get_blocks(height, 1)` and the block's transactions;
  `none` where either call fails. -/
  getBlock : UInt64 → Option (Block × List Transaction)
  engine : RandomEngine σ
  /-- The draws the model's `get_new_swarm_id` may make. -/
  swarmFuel : Nat

/-! ### Rolling back -/

/-- One case of the switch of `blockchain_detached`: the state with `event`
undone, or `none` where the code sets `rollback_applied` to false. -/
def applyRollback : RollbackEvent → TransientState → Option TransientState
  | .change _ key info, s => some { s with fullNodesInfos := s.fullNodesInfos.insert key info }
  | .new _ key, s =>
    if key ∈ s.fullNodesInfos then some { s with fullNodesInfos := s.fullNodesInfos.erase key }
    else none
  | .prevent _, _ => none
  | .keyImageBlacklist _ entry true, s =>
    if entry ∈ s.keyImageBlacklist then
      some { s with keyImageBlacklist := s.keyImageBlacklist.erase entry }
    else none
  | .keyImageBlacklist _ entry false, s =>
    some { s with keyImageBlacklist := s.keyImageBlacklist ++ [entry] }
  | .keyImageUnlock _ key, s =>
    match s.fullNodesInfos.lookup key with
    | none => none
    | some info =>
      let awaiting := { info with requestedUnlockHeight := keyImageAwaitingUnlockHeight }
      some { s with fullNodesInfos := s.fullNodesInfos.insert key awaiting }

/-- The entries of a `std::map` left by erasing its last entry while its key
is at least `height`. -/
def eraseFrom {ν : Type} (height : UInt64) (m : SortedMap UInt64 ν) : SortedMap UInt64 ν :=
  ⟨(m.entries.reverse.dropWhile fun entry => entry.1 ≥ height).reverse, by
    have kept : ((m.entries.reverse.dropWhile fun entry => entry.1 ≥ height).reverse).Sublist
        m.entries.reverse.reverse := (List.dropWhile_sublist _).reverse
    rw [List.reverse_reverse] at kept
    exact m.sorted.sublist (kept.map Prod.fst)⟩

/-- The entries of a `std::map` left by erasing its first entry while its key
is below `height`. -/
def eraseBelow {ν : Type} (height : UInt64) (m : SortedMap UInt64 ν) : SortedMap UInt64 ν :=
  ⟨m.entries.dropWhile (·.1 < height), m.sorted.sublist ((List.dropWhile_sublist _).map Prod.fst)⟩

def blockchainDetached (reinit : TransientState) (height : UInt64) (s : TransientState) :
    TransientState :=
  let s := match popWhile applyRollback RollbackEvent.blockHeight height s.rollbackEvents.reverse s with
    | some (s, kept) => { s with rollbackEvents := kept.reverse }
    | none => reinit
  { s with quorumStates := eraseFrom height s.quorumStates, height := height }

/-! ### Adding a block -/

section Block

variable {σ : Type} (ctx : ListContext σ)

def cullHeight (blockHeight : UInt64) : UInt64 :=
  if blockHeight < rollbackEventExpirationBlocks then blockHeight
  else blockHeight - rollbackEventExpirationBlocks

/-- The start of `block_added_generic`: the height moves on, the events more
than `ROLLBACK_EVENT_EXPIRATION_BLOCKS` below the block go from the front,
and a `prevent_rollback` goes to the front in their place. -/
def removeOldRollbackEvents (blockHeight : UInt64) (s : TransientState) : TransientState :=
  { s with
    height := s.height + 1
    rollbackEvents := .prevent (cullHeight blockHeight) ::
      s.rollbackEvents.dropWhile (·.blockHeight < cullHeight blockHeight) }

@[simp] theorem removeOldRollbackEvents_rollbackEvents (blockHeight : UInt64) (s : TransientState) :
    (removeOldRollbackEvents blockHeight s).rollbackEvents =
      .prevent (cullHeight blockHeight) ::
        s.rollbackEvents.dropWhile (·.blockHeight < cullHeight blockHeight) := rfl

/-- The blacklisted key images whose unlock height the block reaches leave
the blacklist, each with an event. -/
def removeExpiredBlacklist (blockHeight : UInt64) (s : TransientState) : TransientState :=
  let expired := s.keyImageBlacklist.filter fun entry => blockHeight ≥ entry.unlockHeight
  { s with
    keyImageBlacklist := s.keyImageBlacklist.filter fun entry => ¬blockHeight ≥ entry.unlockHeight
    rollbackEvents := s.rollbackEvents ++ expired.map (.keyImageBlacklist blockHeight · false) }

def updateAndGetExpiredNodes (blockHeight : UInt64) (s : TransientState) : List PublicKey :=
  let lockBlocks := stakingNumLockBlocks ctx.nettype
  if ctx.getHardForkVersion blockHeight = networkVersion9FullNodes then
    if blockHeight < lockBlocks then []
    else
      let expiredNodesBlockHeight := blockHeight - lockBlocks
      match ctx.getBlock expiredNodesBlockHeight with
      | none => []
      | some (block, txs) =>
        txs.zipIdx.filterMap fun (tx, index) =>
          (isRegistrationTx ctx.toStakingContext tx block.timestamp expiredNodesBlockHeight
            index.toUInt32).map Prod.fst
  else
    s.fullNodesInfos.entries.filterMap fun entry =>
      let info := entry.2
      if ctx.getHardForkVersion info.registrationHeight ≥ networkVersion11InfiniteStaking then
        if info.requestedUnlockHeight ≠ keyImageAwaitingUnlockHeight ∧
            blockHeight > info.requestedUnlockHeight then some entry.1
        else none
      else
        let nodeExpiryHeight :=
          info.registrationHeight + lockBlocks + stakingRequirementLockBlocksExcess
        if blockHeight > nodeExpiryHeight then some entry.1 else none

def TransientState.removeNode (s : TransientState) (blockHeight : UInt64) (key : PublicKey)
    (info : FullNodeInfo) : TransientState :=
  { s with
    rollbackEvents := s.rollbackEvents ++ [.change blockHeight key info]
    fullNodesInfos := s.fullNodesInfos.erase key }

def TransientState.changeNode (s : TransientState) (blockHeight : UInt64) (key : PublicKey)
    (info changed : FullNodeInfo) : TransientState :=
  { s with
    rollbackEvents := s.rollbackEvents ++ [.change blockHeight key info]
    fullNodesInfos := s.fullNodesInfos.insert key changed }

def expireNodes (blockHeight : UInt64) (expired : List PublicKey) (s : TransientState) :
    Nat × TransientState :=
  expired.foldl (fun (count, s) pubkey =>
    match s.fullNodesInfos.lookup pubkey with
    | none => (count, s)
    | some info => (count + 1, s.removeNode blockHeight pubkey info)) (0, s)

/-- The winner of the block goes to the back of the reward queue, as though
it registered again at transaction index `UINT32_MAX`. -/
def advanceWinner (block : Block) (blockHeight : UInt64) (s : TransientState) : TransientState :=
  let winnerPubkey := getFullNodeWinnerFromTxExtra block.minerTx.extra
  match s.fullNodesInfos.lookup winnerPubkey with
  | none => s
  | some info =>
    s.changeNode blockHeight winnerPubkey info
      { info with lastRewardBlockHeight := blockHeight, lastRewardTransactionIndex := 0xFFFFFFFF }

def processRegistrationTx (tx : Transaction) (blockTimestamp blockHeight : UInt64)
    (index : UInt32) (s : TransientState) : Bool × TransientState :=
  match isRegistrationTx ctx.toStakingContext tx blockTimestamp blockHeight index with
  | none => (false, s)
  | some (key, info) =>
    let hardForkVersion := ctx.getHardForkVersion blockHeight
    let registered := fun (info : FullNodeInfo) =>
      (true, { s with
        rollbackEvents := s.rollbackEvents ++ [.new blockHeight key]
        fullNodesInfos := s.fullNodesInfos.insert key info })
    if hardForkVersion ≥ networkVersion11InfiniteStaking then
      if key ∈ s.fullNodesInfos then (false, s) else registered info
    else
      match s.fullNodesInfos.lookup key with
      | none => registered info
      | some oldInfo =>
        if hardForkVersion ≥ networkVersion10Bulletproofs then
          let expiryHeight := oldInfo.registrationHeight + stakingNumLockBlocks ctx.nettype
          if blockHeight < expiryHeight then (false, s)
          else registered { info with
            lastRewardBlockHeight := oldInfo.lastRewardBlockHeight
            lastRewardTransactionIndex := oldInfo.lastRewardTransactionIndex }
        else (false, s)

/-- The key images a contribution adds are locked while the node holds fewer
than `MAX_KEY_IMAGES_PER_CONTRIBUTOR * MAX_NUMBER_OF_CONTRIBUTORS`. -/
def lockContributions (position : Nat) : List Contribution → FullNodeInfo → FullNodeInfo
  | [], info => info
  | contribution :: rest, info =>
    if info.totalNumLockedContributions < maxKeyImagesPerContributor * maxNumberOfContributors then
      lockContributions position rest { info with
        contributors := info.contributors.modify position fun contributor =>
          { contributor with
            lockedContributions := contributor.lockedContributions ++ [contribution] } }
    else info

/-- The update of an accepted contribution: the contributor at `position`
puts in what the node still lacks of its requirement at most, and reserves
what it puts in beyond its reservation. -/
def addContribution (hfVersion : Nat) (blockHeight : UInt64) (index : UInt32)
    (parsed : ParsedTxContribution) (position : Nat) (info : FullNodeInfo) : FullNodeInfo :=
  match info.contributors[position]? with
  | none => info
  | some contributor =>
    let canIncreaseReservedBy := info.stakingRequirement - info.totalReserved
    let maxAmount := contributor.reserved + canIncreaseReservedBy
    let transferred := min (maxAmount - contributor.amount) parsed.transferred
    let amount := contributor.amount + transferred
    let grown := amount > contributor.reserved
    let info := { info with
      contributors := info.contributors.set position { contributor with
        amount := amount
        reserved := if grown then amount else contributor.reserved }
      totalContributed := info.totalContributed + transferred
      totalReserved := if grown then info.totalReserved + (amount - contributor.reserved)
        else info.totalReserved
      lastRewardBlockHeight := blockHeight
      lastRewardTransactionIndex := index }
    if hfVersion ≥ networkVersion11InfiniteStaking then
      lockContributions position parsed.lockedContributions info
    else info

def processContributionTx (tx : Transaction) (blockHeight : UInt64) (index : UInt32)
    (s : TransientState) : TransientState :=
  match getFullNodePubkeyFromTxExtra tx.extra with
  | none => s
  | some pubkey =>
    let hfVersion := ctx.getHardForkVersion blockHeight
    match getContribution ctx.toStakingContext hfVersion tx blockHeight,
      s.fullNodesInfos.lookup pubkey with
    | some parsed, some info =>
      if info.isFullyFunded ∨ (getTxSecretKeyFromTxExtra tx.extra).isNone then s
      else
        match info.contributors.findIdx? (·.address = parsed.address) with
        | some position =>
          s.changeNode blockHeight pubkey info
            (addContribution hfVersion blockHeight index parsed position info)
        | none =>
          if info.contributors.length ≥ maxNumberOfContributors ∨
              parsed.transferred < getMinNodeContribution hfVersion info.stakingRequirement
                info.totalReserved info.totalNumLockedContributions then s
          else
            let newContributor : Contributor :=
              ⟨getMinFullNodeInfoVersionForHf hfVersion, 0, 0, parsed.address, []⟩
            s.changeNode blockHeight pubkey info
              (addContribution hfVersion blockHeight index parsed info.contributors.length
                { info with contributors := info.contributors ++ [newContributor] })
    | _, _ => s

def blacklistEntries (unlockHeight : UInt64) (info : FullNodeInfo) : List KeyImageBlacklistEntry :=
  (info.contributors.flatMap (·.lockedContributions)).map fun contribution =>
    ⟨contribution.keyImage, unlockHeight⟩

def processDeregistrationTx (tx : Transaction) (blockHeight : UInt64) (s : TransientState) :
    Bool × TransientState :=
  if tx.getType ≠ .deregister then (false, s)
  else
    match getFullNodeDeregisterFromTxExtra tx.extra with
    | none => (false, s)
    | some deregister =>
      match s.quorumStates.find? deregister.blockHeight.toUInt64 with
      | none => (false, s)
      | some state =>
        match state.nodesToTest[deregister.fullNodeIndex]? with
        | none => (false, s)
        | some key =>
          match s.fullNodesInfos.lookup key with
          | none => (false, s)
          | some info =>
            let s := { s with rollbackEvents := s.rollbackEvents ++ [RollbackEvent.change blockHeight key info] }
            let s :=
              if ctx.getHardForkVersion blockHeight ≥ networkVersion11InfiniteStaking then
                let entries := blacklistEntries (blockHeight + stakingNumLockBlocks ctx.nettype) info
                { s with
                  keyImageBlacklist := s.keyImageBlacklist ++ entries
                  rollbackEvents :=
                    s.rollbackEvents ++ entries.map (RollbackEvent.keyImageBlacklist blockHeight · true) }
              else s
            (true, { s with fullNodesInfos := s.fullNodesInfos.erase key })

/-- The key image unlock branch of the transaction loop of
`block_added_generic`: a node that has not asked yet asks to unlock its stake,
signed with the key of one of its locked key images. -/
def processKeyImageUnlockTx (tx : Transaction) (blockHeight : UInt64) (s : TransientState) :
    TransientState :=
  match getFullNodePubkeyFromTxExtra tx.extra with
  | none => s
  | some snodeKey =>
    match s.fullNodesInfos.lookup snodeKey, getTxKeyImageUnlockFromTxExtra tx.extra with
    | some nodeInfo, some unlock =>
      if nodeInfo.requestedUnlockHeight ≠ keyImageAwaitingUnlockHeight then s
      else
        let unlockHeight := getLockedKeyImageUnlockHeight ctx.nettype blockHeight
        match (nodeInfo.contributors.flatMap (·.lockedContributions)).find?
            (·.keyImage = unlock.keyImage) with
        | none => s
        | some lockedContribution =>
          let hash := generateRequestStakeUnlockHash unlock.nonce.toUInt32
          if !ctx.crypto.checkSignature hash lockedContribution.keyImagePubKey unlock.signature then s
          else { s with
            rollbackEvents := s.rollbackEvents ++ [.keyImageUnlock blockHeight snodeKey]
            fullNodesInfos := s.fullNodesInfos.insert snodeKey
              { nodeInfo with requestedUnlockHeight := unlockHeight } }
    | _, _ => s

/-- One pass of the transaction loop of `block_added_generic`, with the
numbers of registrations and deregistrations so far. -/
def processTx (block : Block) (blockHeight : UInt64) (acc : Nat × Nat × TransientState)
    (entry : Transaction × Nat) : Nat × Nat × TransientState :=
  let (registrations, deregistrations, s) := acc
  let (tx, index) := entry
  match tx.getType with
  | .standard =>
    let (registered, s) := processRegistrationTx ctx tx block.timestamp blockHeight index.toUInt32 s
    (if registered then registrations + 1 else registrations, deregistrations,
      processContributionTx ctx tx blockHeight index.toUInt32 s)
  | .deregister =>
    let (deregistered, s) := processDeregistrationTx ctx tx blockHeight s
    (registrations, if deregistered then deregistrations + 1 else deregistrations, s)
  | .keyImageUnlock => (registrations, deregistrations, processKeyImageUnlockTx ctx tx blockHeight s)

def pushSwarmMember (swarms : SwarmMap) (swarmId : UInt64) (key : PublicKey) : SwarmMap :=
  (swarms.insert swarmId []).set swarmId (((swarms.find? swarmId).getD []) ++ [key])

def existingSwarms (infos : FullNodesInfos) : SwarmMap :=
  infos.entries.foldl (fun swarms entry => pushSwarmMember swarms entry.2.swarmId entry.1)
    ⟨[], List.Pairwise.nil⟩

/-- A node of swarm `swarmId` after `calc_swarm_changes` moves there, with an
event; `at` throws for a key the list does not hold. -/
def applySwarmChange (height swarmId : UInt64) (s : TransientState) (snode : PublicKey) :
    Except SwarmFault TransientState :=
  match s.fullNodesInfos.lookup snode with
  | none => throw .outOfRange
  | some snInfo =>
    if snInfo.swarmId = swarmId then pure s
    else pure (s.changeNode height snode snInfo { snInfo with swarmId := swarmId })

def updateSwarms (height : UInt64) (s : TransientState) : Except SwarmFault TransientState := do
  let hash := ctx.getBlockIdByHeight height
  let seed := (LittleEndian.ofBytes (hash.data.take 8)).toUInt64
  let swarms ← calcSwarmChanges ctx.engine ctx.swarmFuel (existingSwarms s.fullNodesInfos) seed
  swarms.entries.foldlM (fun s entry => entry.2.foldlM (applySwarmChange height entry.1) s) s

/-- `store_quorum_state_from_rewards_list` and the end of
`block_added_generic`: the quorum of the block is stored, and those more than
`QUORUM_LIFETIME` below it are dropped. -/
def updateQuorum (blockHeight : UInt64) (s : TransientState) : TransientState :=
  let cacheStateFromHeight :=
    if blockHeight < quorumLifetime then 0 else blockHeight - quorumLifetime
  let quorumStates :=
    match storeQuorumStateFromRewardsList ctx.engine
        (s.fullNodesInfos.entries.map fun entry => (entry.1, entry.2))
        (ctx.getBlockIdByHeight blockHeight) with
    | none => s.quorumStates
    | some state => (s.quorumStates.erase blockHeight).insert blockHeight state
  { s with quorumStates := eraseBelow cacheStateFromHeight quorumStates }

def blockAddedGeneric (block : Block) (txs : List Transaction) (s : TransientState) :
    Except SwarmFault TransientState := do
  let blockHeight := getBlockHeight block.minerTx
  if ctx.getHardForkVersion blockHeight < 9 then return s
  let s := removeOldRollbackEvents blockHeight s
  let s := removeExpiredBlacklist blockHeight s
  let (expiredCount, s) := expireNodes blockHeight (updateAndGetExpiredNodes ctx blockHeight s) s
  let s := advanceWinner block blockHeight s
  let (registrations, deregistrations, s) :=
    txs.zipIdx.foldl (processTx ctx block blockHeight) (0, 0, s)
  let s ← if registrations ≠ 0 ∨ deregistrations ≠ 0 ∨ expiredCount ≠ 0 then
      updateSwarms ctx blockHeight s
    else pure s
  pure (updateQuorum ctx blockHeight s)

def addBlocks (blocks : List (Block × List Transaction)) (s : TransientState) :
    Except SwarmFault TransientState :=
  blocks.foldlM (fun s block => blockAddedGeneric ctx block.1 block.2 s) s

end Block

/-! ### Logged changes

Two states hold the same list when they hold the same nodes and the same
blacklisted key images, the latter in any order. A change of the list is
logged at a height when the events it appends, all of that height, undo it
back to the same list. -/


def SameList (s t : TransientState) : Prop :=
  (∀ key, s.fullNodesInfos.lookup key = t.fullNodesInfos.lookup key) ∧
    s.keyImageBlacklist.Perm t.keyImageBlacklist

theorem sameList_equivalence : Equivalence SameList where
  refl _ := ⟨fun _ => rfl, List.Perm.refl _⟩
  symm related := ⟨fun key => (related.1 key).symm, related.2.symm⟩
  trans first second := ⟨fun key => (first.1 key).trans (second.1 key), first.2.trans second.2⟩

theorem applyRollback_respects : Respects applyRollback SameList := by
  intro event s t ⟨sameInfos, sameBlacklist⟩
  have inserted : ∀ key (info : FullNodeInfo) other,
      (s.fullNodesInfos.insert key info).lookup other =
        (t.fullNodesInfos.insert key info).lookup other := by
    intro key info other
    by_cases same : other = key
    · subst same
      rw [AList.lookup_insert, AList.lookup_insert]
    · rw [AList.lookup_insert_ne same, AList.lookup_insert_ne same, sameInfos]
  cases event with
  | change _ key info => exact .some ⟨inserted key info, sameBlacklist⟩
  | new _ key =>
    have sameMember : key ∈ s.fullNodesInfos ↔ key ∈ t.fullNodesInfos := by
      rw [← AList.lookup_isSome, ← AList.lookup_isSome, sameInfos]
    by_cases member : key ∈ s.fullNodesInfos
    · simp only [applyRollback, if_pos member, if_pos (sameMember.mp member)]
      refine .some ⟨fun other => ?_, sameBlacklist⟩
      by_cases same : other = key
      · subst same
        rw [AList.lookup_erase, AList.lookup_erase]
      · rw [AList.lookup_erase_ne same, AList.lookup_erase_ne same, sameInfos]
    · simp only [applyRollback, if_neg member, if_neg (mt sameMember.mpr member)]
      exact .none
  | prevent _ => exact .none
  | keyImageBlacklist _ entry adding =>
    cases adding with
    | true =>
      by_cases member : entry ∈ s.keyImageBlacklist
      · simp only [applyRollback, if_pos member, if_pos (sameBlacklist.mem_iff.mp member)]
        exact .some ⟨sameInfos, sameBlacklist.erase entry⟩
      · simp only [applyRollback, if_neg member, if_neg (mt sameBlacklist.mem_iff.mpr member)]
        exact .none
    | false => exact .some ⟨sameInfos, sameBlacklist.append_right [entry]⟩
  | keyImageUnlock _ key =>
    simp only [applyRollback, sameInfos key]
    cases t.fullNodesInfos.lookup key with
    | none => exact .none
    | some info => exact .some ⟨inserted key _, sameBlacklist⟩

def Logged (blockHeight : UInt64) (s t : TransientState) : Prop :=
  Journaled TransientState.rollbackEvents applyRollback SameList (·.blockHeight = blockHeight) s t

theorem Logged.rfl {blockHeight : UInt64} {s : TransientState} : Logged blockHeight s s :=
  Journaled.refl sameList_equivalence s

theorem Logged.trans {blockHeight : UInt64} {s middle t : TransientState}
    (first : Logged blockHeight s middle) (rest : Logged blockHeight middle t) :
    Logged blockHeight s t :=
  Journaled.trans sameList_equivalence applyRollback_respects first rest

theorem logged_single {blockHeight : UInt64} {s t restored : TransientState} {event : RollbackEvent}
    (appended : t.rollbackEvents = s.rollbackEvents ++ [event])
    (height : event.blockHeight = blockHeight) (undone : applyRollback event t = some restored)
    (same : SameList restored s) : Logged blockHeight s t :=
  ⟨[event], appended, fun _ member => List.mem_singleton.mp member ▸ height,
    undoes_single undone same⟩

theorem lookup_insert_restores {infos changed : FullNodesInfos} {key : PublicKey}
    {info : FullNodeInfo} (present : infos.lookup key = some info)
    (frame : ∀ other, other ≠ key → changed.lookup other = infos.lookup other) (other : PublicKey) :
    (changed.insert key info).lookup other = infos.lookup other := by
  by_cases same : other = key
  · subst same
    rw [AList.lookup_insert, present]
  · rw [AList.lookup_insert_ne same, frame other same]

theorem logged_changeNode {blockHeight : UInt64} {s : TransientState} {key : PublicKey}
    {info : FullNodeInfo} (present : s.fullNodesInfos.lookup key = some info)
    (changed : FullNodeInfo) : Logged blockHeight s (s.changeNode blockHeight key info changed) :=
  logged_single rfl rfl rfl
    ⟨lookup_insert_restores present fun _ other => AList.lookup_insert_ne other, List.Perm.refl _⟩

theorem logged_removeNode {blockHeight : UInt64} {s : TransientState} {key : PublicKey}
    {info : FullNodeInfo} (present : s.fullNodesInfos.lookup key = some info) :
    Logged blockHeight s (s.removeNode blockHeight key info) :=
  logged_single rfl rfl rfl
    ⟨lookup_insert_restores present fun _ other => AList.lookup_erase_ne other, List.Perm.refl _⟩

theorem logged_register {blockHeight : UInt64} {s : TransientState} {key : PublicKey}
    (absent : key ∉ s.fullNodesInfos) (info : FullNodeInfo) :
    Logged blockHeight s { s with
      rollbackEvents := s.rollbackEvents ++ [.new blockHeight key]
      fullNodesInfos := s.fullNodesInfos.insert key info } := by
  have member : key ∈ s.fullNodesInfos.insert key info :=
    (AList.mem_insert _).mpr (Or.inl rfl)
  have undone : applyRollback (.new blockHeight key) { s with
      rollbackEvents := s.rollbackEvents ++ [.new blockHeight key]
      fullNodesInfos := s.fullNodesInfos.insert key info } =
      some { s with
        rollbackEvents := s.rollbackEvents ++ [.new blockHeight key]
        fullNodesInfos := (s.fullNodesInfos.insert key info).erase key } := by
    simp only [applyRollback, if_pos member]
  refine logged_single rfl rfl undone ⟨fun other => ?_, List.Perm.refl _⟩
  by_cases same : other = key
  · subst same
    rw [AList.lookup_erase, AList.lookup_eq_none.mpr absent]
  · rw [AList.lookup_erase_ne same, AList.lookup_insert_ne same]

theorem logged_blacklist {blockHeight : UInt64} (entries : List KeyImageBlacklistEntry) :
    ∀ s : TransientState, Logged blockHeight s { s with
      keyImageBlacklist := s.keyImageBlacklist ++ entries
      rollbackEvents := s.rollbackEvents ++
        entries.map (RollbackEvent.keyImageBlacklist blockHeight · true) } := by
  induction entries with
  | nil => intro s; simpa using Logged.rfl
  | cons entry entries ih =>
    intro s
    have member : entry ∈ s.keyImageBlacklist ++ [entry] :=
      List.mem_append_right _ (List.mem_singleton_self _)
    have undone : applyRollback (.keyImageBlacklist blockHeight entry true) { s with
        keyImageBlacklist := s.keyImageBlacklist ++ [entry]
        rollbackEvents := s.rollbackEvents ++ [.keyImageBlacklist blockHeight entry true] } =
        some { s with
          keyImageBlacklist := (s.keyImageBlacklist ++ [entry]).erase entry
          rollbackEvents := s.rollbackEvents ++ [.keyImageBlacklist blockHeight entry true] } := by
      simp only [applyRollback, if_pos member]
    have first : Logged blockHeight s { s with
        keyImageBlacklist := s.keyImageBlacklist ++ [entry]
        rollbackEvents := s.rollbackEvents ++ [.keyImageBlacklist blockHeight entry true] } :=
      logged_single rfl rfl undone ⟨fun _ => rfl, by
        simpa using (List.perm_append_singleton entry s.keyImageBlacklist).erase entry⟩
    simpa using first.trans (ih _)

theorem logged_removeExpiredBlacklist (blockHeight : UInt64) (s : TransientState) :
    Logged blockHeight s (removeExpiredBlacklist blockHeight s) := by
  have appended : ∀ (entries : List KeyImageBlacklistEntry) (t : TransientState),
      undoAll applyRollback (entries.map (RollbackEvent.keyImageBlacklist blockHeight · false)) t =
        some { t with keyImageBlacklist := t.keyImageBlacklist ++ entries.reverse } := by
    intro entries t
    induction entries with
    | nil => simp
    | cons entry entries ih =>
      change (undoAll applyRollback _ t).bind _ = _
      rw [ih]
      simp [applyRollback]
  refine ⟨_, rfl, fun event member => ?_, _, appended _ _, fun _ => rfl, ?_⟩
  · obtain ⟨entry, -, rfl⟩ := List.mem_map.mp member
    rfl
  · have split := List.filter_append_perm (fun entry : KeyImageBlacklistEntry =>
      decide (blockHeight ≥ entry.unlockHeight)) s.keyImageBlacklist
    refine (List.perm_append_comm.trans ?_).trans split
    simp only [removeExpiredBlacklist, decide_not]
    exact List.Perm.append_right _ (List.reverse_perm _)

theorem logged_unlock {blockHeight : UInt64} {s : TransientState} {key : PublicKey}
    {info : FullNodeInfo} (present : s.fullNodesInfos.lookup key = some info)
    (awaiting : info.requestedUnlockHeight = keyImageAwaitingUnlockHeight) (unlockHeight : UInt64) :
    Logged blockHeight s { s with
      rollbackEvents := s.rollbackEvents ++ [.keyImageUnlock blockHeight key]
      fullNodesInfos := s.fullNodesInfos.insert key { info with requestedUnlockHeight := unlockHeight } } := by
  have undone : applyRollback (.keyImageUnlock blockHeight key) { s with
      rollbackEvents := s.rollbackEvents ++ [.keyImageUnlock blockHeight key]
      fullNodesInfos := s.fullNodesInfos.insert key { info with requestedUnlockHeight := unlockHeight } } =
      some { s with
        rollbackEvents := s.rollbackEvents ++ [.keyImageUnlock blockHeight key]
        fullNodesInfos := (s.fullNodesInfos.insert key { info with requestedUnlockHeight := unlockHeight }).insert
          key { { info with requestedUnlockHeight := unlockHeight } with
            requestedUnlockHeight := keyImageAwaitingUnlockHeight } } := by
    simp only [applyRollback, AList.lookup_insert]
  have back : { { info with requestedUnlockHeight := unlockHeight } with
      requestedUnlockHeight := keyImageAwaitingUnlockHeight } = info := by
    cases info
    subst awaiting
    rfl
  refine logged_single rfl rfl undone ⟨?_, List.Perm.refl _⟩
  rw [back]
  exact lookup_insert_restores present fun _ other => AList.lookup_insert_ne other

/-! ### Every step of a block is logged -/

section Steps

variable {σ : Type} (ctx : ListContext σ)

theorem logged_expireNodes (blockHeight : UInt64) (expired : List PublicKey) (s : TransientState) :
    Logged blockHeight s (expireNodes blockHeight expired s).2 := by
  unfold expireNodes
  refine journaled_foldl sameList_equivalence applyRollback_respects Prod.snd _ ?_ expired (0, s)
  rintro ⟨count, t⟩ pubkey
  dsimp only
  cases found : t.fullNodesInfos.lookup pubkey with
  | none => exact Logged.rfl
  | some info => exact logged_removeNode found

theorem logged_advanceWinner (block : Block) (blockHeight : UInt64) (s : TransientState) :
    Logged blockHeight s (advanceWinner block blockHeight s) := by
  unfold advanceWinner
  dsimp only
  cases found : s.fullNodesInfos.lookup (getFullNodeWinnerFromTxExtra block.minerTx.extra) with
  | none => exact Logged.rfl
  | some info => exact logged_changeNode found _

theorem logged_processRegistrationTx {tx : Transaction} {blockTimestamp blockHeight : UInt64}
    {index : UInt32} (s : TransientState)
    (notGrace : ctx.getHardForkVersion blockHeight ≠ networkVersion10Bulletproofs) :
    Logged blockHeight s (processRegistrationTx ctx tx blockTimestamp blockHeight index s).2 := by
  unfold processRegistrationTx
  cases isRegistrationTx ctx.toStakingContext tx blockTimestamp blockHeight index with
  | none => exact Logged.rfl
  | some registration =>
    obtain ⟨key, info⟩ := registration
    dsimp only
    by_cases infiniteStaking : ctx.getHardForkVersion blockHeight ≥ networkVersion11InfiniteStaking
    · rw [if_pos infiniteStaking]
      by_cases member : key ∈ s.fullNodesInfos
      · rw [if_pos member]
        exact Logged.rfl
      · rw [if_neg member]
        exact logged_register member info
    · rw [if_neg infiniteStaking]
      cases old : s.fullNodesInfos.lookup key with
      | none => exact logged_register (AList.lookup_eq_none.mp old) info
      | some oldInfo =>
        have beforeGrace : ¬ctx.getHardForkVersion blockHeight ≥ networkVersion10Bulletproofs := by
          rw [networkVersion11InfiniteStaking] at infiniteStaking
          rw [networkVersion10Bulletproofs] at notGrace ⊢
          omega
        dsimp only
        rw [if_neg beforeGrace]
        exact Logged.rfl

theorem logged_processContributionTx {tx : Transaction} {blockHeight : UInt64} {index : UInt32}
    (s : TransientState) : Logged blockHeight s (processContributionTx ctx tx blockHeight index s) := by
  unfold processContributionTx
  cases getFullNodePubkeyFromTxExtra tx.extra with
  | none => exact Logged.rfl
  | some pubkey =>
    dsimp only
    cases getContribution ctx.toStakingContext (ctx.getHardForkVersion blockHeight) tx blockHeight with
    | none => exact Logged.rfl
    | some parsed =>
      cases found : s.fullNodesInfos.lookup pubkey with
      | none => exact Logged.rfl
      | some info =>
        dsimp only
        split
        · exact Logged.rfl
        · split
          · exact logged_changeNode found _
          · split
            · exact Logged.rfl
            · exact logged_changeNode found _

theorem logged_processDeregistrationTx {tx : Transaction} {blockHeight : UInt64}
    (s : TransientState) : Logged blockHeight s (processDeregistrationTx ctx tx blockHeight s).2 := by
  unfold processDeregistrationTx
  split
  · exact Logged.rfl
  · cases getFullNodeDeregisterFromTxExtra tx.extra with
    | none => exact Logged.rfl
    | some deregister =>
      dsimp only
      cases s.quorumStates.find? deregister.blockHeight.toUInt64 with
      | none => exact Logged.rfl
      | some state =>
        dsimp only
        cases state.nodesToTest[deregister.fullNodeIndex]? with
        | none => exact Logged.rfl
        | some key =>
          dsimp only
          cases found : s.fullNodesInfos.lookup key with
          | none => exact Logged.rfl
          | some info =>
            dsimp only
            have removed : Logged blockHeight s (s.removeNode blockHeight key info) :=
              logged_removeNode found
            split
            · exact removed.trans (logged_blacklist _ _)
            · exact removed

theorem logged_processKeyImageUnlockTx {tx : Transaction} {blockHeight : UInt64}
    (s : TransientState) : Logged blockHeight s (processKeyImageUnlockTx ctx tx blockHeight s) := by
  unfold processKeyImageUnlockTx
  cases getFullNodePubkeyFromTxExtra tx.extra with
  | none => exact Logged.rfl
  | some snodeKey =>
    dsimp only
    cases found : s.fullNodesInfos.lookup snodeKey with
    | none => exact Logged.rfl
    | some nodeInfo =>
      cases getTxKeyImageUnlockFromTxExtra tx.extra with
      | none => exact Logged.rfl
      | some unlock =>
        dsimp only
        split
        · exact Logged.rfl
        · next awaiting =>
          split
          · exact Logged.rfl
          · split
            · exact Logged.rfl
            · rw [not_not] at awaiting
              exact logged_unlock found awaiting _

theorem logged_applySwarmChange {height swarmId : UInt64} {s t : TransientState} {snode : PublicKey}
    (applied : applySwarmChange height swarmId s snode = .ok t) : Logged height s t := by
  unfold applySwarmChange at applied
  cases found : s.fullNodesInfos.lookup snode with
  | none =>
    rw [found] at applied
    cases applied
  | some snInfo =>
    rw [found] at applied
    dsimp only at applied
    split at applied
    · cases applied
      exact Logged.rfl
    · cases applied
      exact logged_changeNode found _

theorem logged_updateSwarms {height : UInt64} {s t : TransientState}
    (updated : updateSwarms ctx height s = .ok t) : Logged height s t := by
  unfold updateSwarms at updated
  dsimp only at updated
  cases changes : calcSwarmChanges ctx.engine ctx.swarmFuel (existingSwarms s.fullNodesInfos)
      (LittleEndian.ofBytes ((ctx.getBlockIdByHeight height).data.take 8)).toUInt64 with
  | error fault =>
    rw [changes] at updated
    cases updated
  | ok swarms =>
    rw [changes] at updated
    exact journaled_foldlM sameList_equivalence applyRollback_respects _
      (fun middle entry changed passed =>
        journaled_foldlM sameList_equivalence applyRollback_respects _
          (fun _ _ _ applied => logged_applySwarmChange applied) entry.2 middle changed passed)
      swarms.entries s t updated

theorem logged_updateQuorum (blockHeight : UInt64) (s : TransientState) :
    Logged blockHeight s (updateQuorum ctx blockHeight s) :=
  ⟨[], (List.append_nil _).symm, fun _ absent => absurd absent List.not_mem_nil,
    undoes_nil ⟨fun _ => rfl, List.Perm.refl _⟩⟩

theorem logged_processTx (block : Block) {blockHeight : UInt64}
    (notGrace : ctx.getHardForkVersion blockHeight ≠ networkVersion10Bulletproofs)
    (acc : Nat × Nat × TransientState) (entry : Transaction × Nat) :
    Logged blockHeight acc.2.2 (processTx ctx block blockHeight acc entry).2.2 := by
  obtain ⟨registrations, deregistrations, s⟩ := acc
  obtain ⟨tx, index⟩ := entry
  unfold processTx
  dsimp only
  split
  · have registered : Logged blockHeight s
        (processRegistrationTx ctx tx block.timestamp blockHeight index.toUInt32 s).2 :=
      logged_processRegistrationTx ctx s notGrace
    generalize processRegistrationTx ctx tx block.timestamp blockHeight index.toUInt32 s = result
      at registered ⊢
    obtain ⟨_, middle⟩ := result
    exact registered.trans (logged_processContributionTx ctx middle)
  · have deregistered : Logged blockHeight s (processDeregistrationTx ctx tx blockHeight s).2 :=
      logged_processDeregistrationTx ctx s
    generalize processDeregistrationTx ctx tx blockHeight s = result at deregistered ⊢
    obtain ⟨_, changed⟩ := result
    exact deregistered
  · exact logged_processKeyImageUnlockTx ctx s

/-- Below version 9 `block_added_generic` returns at once. -/
theorem blockAddedGeneric_of_unversioned {block : Block} {txs : List Transaction}
    {s t : TransientState} (older : ctx.getHardForkVersion (getBlockHeight block.minerTx) < 9)
    (added : blockAddedGeneric ctx block txs s = .ok t) : t = s := by
  unfold blockAddedGeneric at added
  dsimp only at added
  rw [if_pos older] at added
  cases added
  rfl

/-- What `block_added_generic` does from version 9 on, stage by stage: the
cull of old events and of the blacklist, the expiry, the winner, the
transactions, the swarms when the list changed, and the quorum. -/
theorem blockAddedGeneric_stages {block : Block} {txs : List Transaction} {s t : TransientState}
    (versioned : ¬ctx.getHardForkVersion (getBlockHeight block.minerTx) < 9)
    (added : blockAddedGeneric ctx block txs s = .ok t) :
    ∃ cleaned looped swarmed,
      cleaned = removeExpiredBlacklist (getBlockHeight block.minerTx)
        (removeOldRollbackEvents (getBlockHeight block.minerTx) s) ∧
      looped = (txs.zipIdx.foldl (processTx ctx block (getBlockHeight block.minerTx))
        (0, 0, advanceWinner block (getBlockHeight block.minerTx)
          (expireNodes (getBlockHeight block.minerTx)
            (updateAndGetExpiredNodes ctx (getBlockHeight block.minerTx) cleaned) cleaned).2)).2.2 ∧
      (swarmed = looped ∨ updateSwarms ctx (getBlockHeight block.minerTx) looped = .ok swarmed) ∧
      t = updateQuorum ctx (getBlockHeight block.minerTx) swarmed := by
  unfold blockAddedGeneric at added
  dsimp only at added
  rw [if_neg versioned] at added
  generalize getBlockHeight block.minerTx = blockHeight at added ⊢
  generalize cleanedEq : removeExpiredBlacklist blockHeight (removeOldRollbackEvents blockHeight s) =
    cleaned at added
  generalize expiredEq : expireNodes blockHeight (updateAndGetExpiredNodes ctx blockHeight cleaned)
    cleaned = expired at added
  obtain ⟨expiredCount, expired⟩ := expired
  generalize loopedEq : txs.zipIdx.foldl (processTx ctx block blockHeight)
    (0, 0, advanceWinner block blockHeight expired) = looped at added
  obtain ⟨registrations, deregistrations, looped⟩ := looped
  have staged : looped = (txs.zipIdx.foldl (processTx ctx block blockHeight)
      (0, 0, advanceWinner block blockHeight (expireNodes blockHeight
        (updateAndGetExpiredNodes ctx blockHeight cleaned) cleaned).2)).2.2 := by
    rw [expiredEq, loopedEq]
  split at added
  · cases swarmedEq : updateSwarms ctx blockHeight looped with
    | error fault =>
      rw [swarmedEq] at added
      cases added
    | ok swarmed =>
      rw [swarmedEq] at added
      cases added
      exact ⟨cleaned, looped, swarmed, rfl, staged, .inr swarmedEq, rfl⟩
  · cases added
    exact ⟨cleaned, looped, looped, rfl, staged, .inl rfl, rfl⟩

theorem blockAddedGeneric_journaled {block : Block} {txs : List Transaction} {s t : TransientState}
    (versioned : ¬ctx.getHardForkVersion (getBlockHeight block.minerTx) < 9)
    (notGrace : ctx.getHardForkVersion (getBlockHeight block.minerTx) ≠ networkVersion10Bulletproofs)
    (added : blockAddedGeneric ctx block txs s = .ok t) :
    Logged (getBlockHeight block.minerTx)
      (removeOldRollbackEvents (getBlockHeight block.minerTx) s) t := by
  obtain ⟨cleaned, looped, swarmed, cleanedEq, loopedEq, swarms, rfl⟩ :=
    blockAddedGeneric_stages ctx versioned added
  generalize getBlockHeight block.minerTx = blockHeight at notGrace cleanedEq loopedEq swarms ⊢
  have beforeLoop : Logged blockHeight (removeOldRollbackEvents blockHeight s)
      (advanceWinner block blockHeight
        (expireNodes blockHeight (updateAndGetExpiredNodes ctx blockHeight cleaned) cleaned).2) := by
    rw [cleanedEq]
    exact (logged_removeExpiredBlacklist blockHeight _).trans
      ((logged_expireNodes blockHeight _ _).trans (logged_advanceWinner block blockHeight _))
  have transactions : Logged blockHeight _ looped := loopedEq ▸
    journaled_foldl sameList_equivalence applyRollback_respects
      (fun acc : Nat × Nat × TransientState => acc.2.2) (processTx ctx block blockHeight)
      (logged_processTx ctx block notGrace) txs.zipIdx (0, 0, advanceWinner block blockHeight
        (expireNodes blockHeight (updateAndGetExpiredNodes ctx blockHeight cleaned) cleaned).2)
  have swarmsLogged : Logged blockHeight looped swarmed := by
    rcases swarms with rfl | updated
    · exact Logged.rfl
    · exact logged_updateSwarms ctx updated
  exact (beforeLoop.trans transactions).trans (swarmsLogged.trans (logged_updateQuorum ctx _ _))

end Steps

/-! ### Detaching what a run of blocks added -/

theorem dropWhile_append_of_forall {α : Type} {p : α → Bool} {front back : List α}
    (kept : ∀ entry ∈ back, p entry = false) :
    (front ++ back).dropWhile p = front.dropWhile p ++ back := by
  have backKept : back.dropWhile p = back := by
    cases back with
    | nil => rfl
    | cons first rest =>
      exact List.dropWhile_cons_of_neg (by simp [kept first List.mem_cons_self])
  rw [List.dropWhile_append]
  split
  · next emptied =>
    rw [List.isEmpty_iff.mp emptied, List.nil_append, backKept]
  · rfl

/-- The log during a run of blocks at heights from `height` on: older events
below `height`, then the events of the run, which undo it back to `start`. -/
def RunLogged (height : UInt64) (start current : TransientState) : Prop :=
  ∃ kept recorded, current.rollbackEvents = kept ++ recorded ∧
    (∀ event ∈ kept, event.blockHeight < height) ∧
    (∀ event ∈ recorded, height ≤ event.blockHeight) ∧
    Undoes applyRollback SameList start recorded current

/-- The heights of the blocks a rollback to `height` can take back: from
`height` on, fewer than `ROLLBACK_EVENT_EXPIRATION_BLOCKS` above it, and past
the first thirty blocks, where the cull height follows the block. -/
structure WithinRollback (height blockHeight : UInt64) : Prop where
  pastStart : 30 ≤ blockHeight.toNat
  atOrAbove : height.toNat ≤ blockHeight.toNat
  belowExpiry : blockHeight.toNat < height.toNat + 30

theorem cullHeight_lt {height blockHeight : UInt64} (within : WithinRollback height blockHeight) :
    cullHeight blockHeight < height := by
  have pastStart := within.pastStart
  have belowExpiry := within.belowExpiry
  have notEarly : ¬blockHeight < rollbackEventExpirationBlocks := by
    rw [UInt64.lt_iff_toNat_lt, rollbackEventExpirationBlocks]
    simpa using pastStart
  rw [cullHeight, if_neg notEarly, UInt64.lt_iff_toNat_lt, UInt64.toNat_sub_of_le _ _
    (UInt64.le_iff_toNat_le.mpr (by rw [rollbackEventExpirationBlocks]; simpa using pastStart))]
  rw [rollbackEventExpirationBlocks]
  simp only [UInt64.reduceToNat]
  omega

section Run

variable {σ : Type} (ctx : ListContext σ)

theorem runLogged_blockAddedGeneric {height : UInt64} {start current next : TransientState}
    {block : Block} {txs : List Transaction} (within : WithinRollback height (getBlockHeight block.minerTx))
    (versioned : 9 ≤ ctx.getHardForkVersion (getBlockHeight block.minerTx))
    (notGrace : ctx.getHardForkVersion (getBlockHeight block.minerTx) ≠ networkVersion10Bulletproofs)
    (logged : RunLogged height start current) (added : blockAddedGeneric ctx block txs current = .ok next) :
    RunLogged height start next := by
  obtain ⟨kept, recorded, split, keptBelow, recordedAbove, undoes⟩ := logged
  obtain ⟨entries, appended, entriesAt, entriesUndo⟩ :=
    blockAddedGeneric_journaled ctx (by omega) notGrace added
  have cullBelow := cullHeight_lt within
  have recordedKept : ∀ event ∈ recorded,
      decide (event.blockHeight < cullHeight (getBlockHeight block.minerTx)) = false := by
    intro event member
    have above := UInt64.le_iff_toNat_le.mp (recordedAbove event member)
    have cull := UInt64.lt_iff_toNat_lt.mp cullBelow
    simp only [decide_eq_false_iff_not, UInt64.lt_iff_toNat_lt]
    omega
  refine ⟨.prevent (cullHeight (getBlockHeight block.minerTx)) ::
      kept.dropWhile (·.blockHeight < cullHeight (getBlockHeight block.minerTx)),
    recorded ++ entries, ?_, ?_, ?_, ?_⟩
  · rw [appended, removeOldRollbackEvents_rollbackEvents, split,
      dropWhile_append_of_forall recordedKept]
    simp only [List.cons_append, List.append_assoc]
  · intro event member
    rcases List.mem_cons.mp member with rfl | later
    · exact cullBelow
    · exact keptBelow event ((List.dropWhile_sublist _).subset later)
  · intro event member
    rcases List.mem_append.mp member with early | late
    · exact recordedAbove event early
    · rw [entriesAt event late]
      exact UInt64.le_iff_toNat_le.mpr within.atOrAbove
  · exact Undoes.append sameList_equivalence applyRollback_respects
      (Undoes.of_related sameList_equivalence applyRollback_respects undoes
        ⟨fun _ => rfl, List.Perm.refl _⟩) entriesUndo

/-- A block a rollback to `height` can take back, of a version whose changes
are all logged. -/
structure Detachable (height : UInt64) (block : Block) : Prop where
  within : WithinRollback height (getBlockHeight block.minerTx)
  versioned : 9 ≤ ctx.getHardForkVersion (getBlockHeight block.minerTx)
  notGrace : ctx.getHardForkVersion (getBlockHeight block.minerTx) ≠ networkVersion10Bulletproofs

theorem runLogged_addBlocks {height : UInt64} {start : TransientState}
    {blocks : List (Block × List Transaction)}
    (detachable : ∀ block ∈ blocks, Detachable ctx height block.1) :
    ∀ {current final : TransientState}, RunLogged height start current →
      addBlocks ctx blocks current = .ok final → RunLogged height start final := by
  induction blocks with
  | nil =>
    intro current final logged added
    cases added
    exact logged
  | cons block rest ih =>
    intro current final logged added
    have first := detachable block List.mem_cons_self
    rw [addBlocks, List.foldlM_cons] at added
    cases step : blockAddedGeneric ctx block.1 block.2 current with
    | error fault =>
      rw [step] at added
      cases added
    | ok next =>
      rw [step] at added
      exact ih (fun other member => detachable other (List.mem_cons_of_mem _ member))
        (runLogged_blockAddedGeneric ctx first.within first.versioned first.notGrace logged step)
        added

/-- Detaching at `height` what a run of blocks added, to a list whose log
holds only older events, gives the list's nodes and blacklist back and leaves
a log of older events only. -/
theorem blockchainDetached_restores (reinit : TransientState) {height : UInt64}
    {start final : TransientState} {blocks : List (Block × List Transaction)}
    (older : ∀ event ∈ start.rollbackEvents, event.blockHeight < height)
    (detachable : ∀ block ∈ blocks, Detachable ctx height block.1)
    (added : addBlocks ctx blocks start = .ok final) :
    SameList (blockchainDetached reinit height final) start ∧
      ∀ event ∈ (blockchainDetached reinit height final).rollbackEvents,
        event.blockHeight < height := by
  have started : RunLogged height start start := by
    refine ⟨start.rollbackEvents, [], (List.append_nil _).symm, older, ?_,
      undoes_nil (sameList_equivalence.refl start)⟩
    simp
  obtain ⟨kept, recorded, split, keptBelow, recordedAbove, undoes⟩ :=
    runLogged_addBlocks ctx detachable started added
  have keptNotAbove : ∀ event ∈ kept, ¬height ≤ event.blockHeight :=
    fun event member => UInt64.not_le.mpr (keptBelow event member)
  obtain ⟨restored, popped, related⟩ := popWhile_undoes keptNotAbove recordedAbove undoes
  unfold blockchainDetached
  rw [split, popped]
  exact ⟨related, by simpa using keptBelow⟩

end Run

/-! ### A re-registration in the grace period

A fake chain at version 10, whose primitives accept every key and signature,
registers the node `keyOf 1` at height 10 and, after the staking period of
thirty blocks, registers it again at height 45, before it expires at height 60.
Detaching the block at height 45 then takes the node off the list. -/

def acceptingPrimitives : Primitives where
  cnFastHash _ := nullHash
  checkSignature _ _ _ := true
  checkKey _ := true
  generateKeyDerivation _ _ := some (Pod.zero 32)
  derivePublicKey _ _ _ := none
  recoverKeys secret := (nullPkey, secret)

/-- Every block of version 10, every staking output worth the whole staking
requirement, and the null hash for every block id, so that no quorum is
stored. -/
def graceContext : ListContext UInt64 where
  nettype := .fakechain
  getHardForkVersion _ := networkVersion10Bulletproofs
  crypto := acceptingPrimitives
  checkRingSignature _ _ _ _ := true
  decodeOutputAmount _ _ _ := getStakingRequirement .fakechain
  getBlockIdByHeight _ := nullHash
  getBlock _ := none
  engine := halvingCounter
  swarmFuel := 0

def stakerAddress : AccountPublicAddress := ⟨keyOf 2, keyOf 3⟩

/-- A registration of `keyOf 1` by one contributor who reserves the whole
stake, with one staking output locked until `unlockTime`. -/
def stakeRegistration (unlockTime : UInt64) : Transaction :=
  { version := 2, unlockTime, vin := [], vout := [⟨0, .toKey (keyOf 4)⟩],
    extra := [.fullNodePubkey (keyOf 1),
      .fullNodeRegister ⟨[stakerAddress.spendPublicKey], [stakerAddress.viewPublicKey],
        stakingPortions.toNat, [stakingPortions.toNat], 1000, Pod.zero 64⟩,
      .fullNodeContributor stakerAddress, .txSecretKey (Pod.zero 32)],
    outputUnlockTimes := [], type := .standard }

def blockAt (height : UInt64) : Block :=
  ⟨0, { Transaction.null with version := 2, vin := [.gen height] }⟩

/-- The blocks at heights 10 to 44: the first registers `keyOf 1`, the
others hold no transaction. -/
def registrationRun : List (Block × List Transaction) :=
  (blockAt 10, [stakeRegistration 100]) ::
    (List.range 34).map fun i => (blockAt (11 + i.toUInt64), [])

/- The kernel evaluates the run: `calc_swarm_changes` sorts the swarm ids with
the well-founded `List.mergeSort`, which the elaborator does not unfold. -/
set_option maxRecDepth 20000 in
theorem detach_erases_grace_reregistration :
    ((addBlocks graceContext registrationRun (clear 10)).toOption.bind fun held =>
      (addBlocks graceContext [(blockAt 45, [stakeRegistration 200])] held).toOption.map
        fun added =>
          (held.height, (held.fullNodesInfos.lookup (keyOf 1)).map (·.registrationHeight),
            (added.fullNodesInfos.lookup (keyOf 1)).map (·.registrationHeight),
            ((blockchainDetached held 45 added).fullNodesInfos.lookup (keyOf 1)).isSome)) =
      some (45, some 10, some 45, false) := by
  decide +kernel

end Antd.FullNodes
