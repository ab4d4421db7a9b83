import Antd.FullNodes.ListState
import Antd.Lib.ExceptSpec

/-! The staking accounts of the nodes `full_node_list` holds. A registration
accepted by `is_registration_tx` is accounted for (`isRegistrationTx_accounted`):
what its contributors reserved adds up to its `total_reserved`, at most its
staking requirement, and nothing is put in yet. A contribution keeps the
accounts: it puts in no more than the contributor may still reserve, and
`process_contribution_tx` subtracts only what the accounts keep non-negative.
Every other change of `block_added_generic` leaves the stakes alone, and a
rollback restores a node as a `rollback_change` recorded it, from a list that
was accounted for. So every list reachable from `clear()` holds accounted
nodes only.

The argument over a run is stated once for any property of a node that the
steps keep (`NodeInvariant`): registration, contribution, the reward queue,
the unlock request and the swarm update each owe one obligation, and
`reachable_listHolds` carries such a property along every run. Being
accounted for is the first such property; the reward queue uses a stronger
one. -/

namespace Antd.FullNodes

open Antd.Crypto Antd.Cryptonote ExceptSpec UndoJournal

attribute [local instance] uint64LinearOrder

/-! ### One node -/

/-- What a contributor put in and what it reserved. -/
def Contributor.stake (contributor : Contributor) : UInt64 × UInt64 :=
  (contributor.amount, contributor.reserved)

theorem Accounted.of_stakes {info changed : FullNodeInfo} (accounted : Accounted info)
    (stakes : changed.contributors.map Contributor.stake = info.contributors.map Contributor.stake)
    (contributed : changed.totalContributed = info.totalContributed)
    (reserved : changed.totalReserved = info.totalReserved)
    (requirement : changed.stakingRequirement = info.stakingRequirement) : Accounted changed := by
  have amounts : changed.contributors.map (·.amount.toNat) = info.contributors.map (·.amount.toNat) := by
    have projected := congrArg (List.map fun stake : UInt64 × UInt64 => stake.1.toNat) stakes
    simpa only [List.map_map, Function.comp_def, Contributor.stake] using projected
  have reservations :
      changed.contributors.map (·.reserved.toNat) = info.contributors.map (·.reserved.toNat) := by
    have projected := congrArg (List.map fun stake : UInt64 × UInt64 => stake.2.toNat) stakes
    simpa only [List.map_map, Function.comp_def, Contributor.stake] using projected
  refine ⟨?_, ?_, ?_, ?_, ?_⟩
  · rw [reservations, reserved]
    exact accounted.totalReserved_eq
  · rw [amounts, contributed]
    exact accounted.totalContributed_eq
  · intro contributor member
    have listed : contributor.stake ∈ info.contributors.map Contributor.stake :=
      stakes ▸ List.mem_map_of_mem member
    obtain ⟨original, present, same⟩ := List.mem_map.mp listed
    have kept := accounted.amount_le_reserved original present
    simp only [Contributor.stake, Prod.mk.injEq] at same
    rw [← same.1, ← same.2]
    exact kept
  · rw [contributed, reserved]
    exact accounted.totalContributed_le
  · rw [reserved, requirement]
    exact accounted.totalReserved_le

theorem map_modify_of_forall {α β : Type} {view : α → β} {change : α → α}
    (keeps : ∀ item, view (change item) = view item) (items : List α) (position : Nat) :
    (items.modify position change).map view = items.map view := by
  apply List.ext_getElem
  · simp
  · intro index _ _
    simp only [List.getElem_map, List.getElem_modify]
    split
    · exact keeps _
    · rfl

theorem lockContributions_accounted (position : Nat) :
    ∀ (contributions : List Contribution) {info : FullNodeInfo}, Accounted info →
      Accounted (lockContributions position contributions info)
  | [], _, accounted => accounted
  | contribution :: rest, info, accounted => by
    unfold lockContributions
    split
    · refine lockContributions_accounted position rest (Accounted.of_stakes accounted ?_ rfl rfl rfl)
      refine map_modify_of_forall ?_ info.contributors position
      intro contributor
      rfl
    · exact accounted

theorem sum_set_add {values : List Nat} {position : Nat} (below : position < values.length)
    (value : Nat) : (values.set position value).sum + values[position] = values.sum + value := by
  have split := List.sum_take_add_sum_drop values position
  rw [List.drop_eq_getElem_cons below, List.sum_cons] at split
  rw [List.sum_set, if_pos below]
  omega

/-- The accounts after the contributor at `position` holds `amount` of a
reservation `reserved`, having put in `transferred` more: `total_contributed`
grows by what was put in, and `total_reserved` is given with the reservation
replaced. That `total_contributed` does not wrap follows from the accounts
themselves: what is put in stays within what is reserved. -/
theorem set_stake_accounted {info : FullNodeInfo} {position : Nat} {contributor : Contributor}
    (accounted : Accounted info) (found : info.contributors[position]? = some contributor)
    {amount reserved transferred totalReserved : UInt64} (amountLe : amount ≤ reserved)
    (amountEq : amount.toNat = contributor.amount.toNat + transferred.toNat)
    (reservedSum : totalReserved.toNat + contributor.reserved.toNat =
      info.totalReserved.toNat + reserved.toNat)
    (reservedLe : totalReserved ≤ info.stakingRequirement) :
    Accounted { info with
      contributors := info.contributors.set position { contributor with amount, reserved }
      totalContributed := info.totalContributed + transferred
      totalReserved } := by
  obtain ⟨below, atPosition⟩ := List.getElem?_eq_some_iff.mp found
  have amounts := sum_set_add
    (show position < (info.contributors.map (·.amount.toNat)).length by simpa using below) amount.toNat
  have reservations := sum_set_add
    (show position < (info.contributors.map (·.reserved.toNat)).length by simpa using below) reserved.toNat
  simp only [List.getElem_map, atPosition] at amounts reservations
  rw [← accounted.totalContributed_eq] at amounts
  rw [← accounted.totalReserved_eq] at reservations
  have elementwise : ∀ other ∈ info.contributors.set position { contributor with amount, reserved },
      other.amount ≤ other.reserved := by
    intro other member
    rcases List.mem_or_eq_of_mem_set member with original | updated
    · exact accounted.amount_le_reserved other original
    · rw [updated]
      exact amountLe
  have dominated := List.sum_le_sum fun other member =>
    UInt64.le_iff_toNat_le.mp (elementwise other member)
  simp only [List.map_set] at dominated
  have requirementBound := info.stakingRequirement.toNat_lt
  have totalBound := UInt64.le_iff_toNat_le.mp reservedLe
  have contributedSum : (info.totalContributed + transferred).toNat =
      info.totalContributed.toNat + transferred.toNat := by
    rw [UInt64.toNat_add]
    omega
  refine ⟨?_, ?_, elementwise, ?_, reservedLe⟩
  · show totalReserved.toNat = ((info.contributors.set position _).map (·.reserved.toNat)).sum
    simp only [List.map_set]
    omega
  · show (info.totalContributed + transferred).toNat =
      ((info.contributors.set position _).map (·.amount.toNat)).sum
    simp only [List.map_set]
    omega
  · show info.totalContributed + transferred ≤ totalReserved
    rw [UInt64.le_iff_toNat_le]
    omega

/-- A contribution of `transferred`, no more than the contributor may still
reserve, keeps the accounts. -/
theorem contribute_accounted {info : FullNodeInfo} {position : Nat} {contributor : Contributor}
    (accounted : Accounted info) (found : info.contributors[position]? = some contributor)
    {transferred : UInt64}
    (fits : transferred.toNat + contributor.amount.toNat ≤
      contributor.reserved.toNat + (info.stakingRequirement.toNat - info.totalReserved.toNat))
    (blockHeight : UInt64) (index : UInt32) :
    Accounted { info with
      contributors := info.contributors.set position { contributor with
        amount := contributor.amount + transferred
        reserved := if contributor.amount + transferred > contributor.reserved
          then contributor.amount + transferred else contributor.reserved }
      totalContributed := info.totalContributed + transferred
      totalReserved := if contributor.amount + transferred > contributor.reserved
        then info.totalReserved + (contributor.amount + transferred - contributor.reserved)
        else info.totalReserved
      lastRewardBlockHeight := blockHeight
      lastRewardTransactionIndex := index } := by
  have present : contributor ∈ info.contributors := List.mem_of_getElem? found
  have ownReservation : contributor.reserved.toNat ≤ info.totalReserved.toNat := by
    rw [accounted.totalReserved_eq]
    exact List.le_sum_of_mem (List.mem_map_of_mem present)
  have reservedBound := UInt64.le_iff_toNat_le.mp accounted.totalReserved_le
  have requirementBound := info.stakingRequirement.toNat_lt
  have amountEq : (contributor.amount + transferred).toNat =
      contributor.amount.toNat + transferred.toNat := by
    rw [UInt64.toNat_add]
    omega
  by_cases grown : contributor.amount + transferred > contributor.reserved
  · have grownNat := UInt64.lt_iff_toNat_lt.mp grown
    have excess : (contributor.amount + transferred - contributor.reserved).toNat =
        contributor.amount.toNat + transferred.toNat - contributor.reserved.toNat := by
      rw [UInt64.toNat_sub_of_le _ _ (le_of_lt grown), amountEq]
    have total : (info.totalReserved + (contributor.amount + transferred - contributor.reserved)).toNat =
        info.totalReserved.toNat + (contributor.amount.toNat + transferred.toNat -
          contributor.reserved.toNat) := by
      rw [UInt64.toNat_add, excess]
      omega
    simp only [if_pos grown]
    refine Accounted.of_stakes (set_stake_accounted accounted found (le_refl _) amountEq ?_ ?_)
      rfl rfl rfl rfl
    · rw [total, amountEq]
      omega
    · rw [UInt64.le_iff_toNat_le, total]
      omega
  · simp only [if_neg grown]
    exact Accounted.of_stakes (set_stake_accounted accounted found (not_lt.mp grown) amountEq rfl
      accounted.totalReserved_le) rfl rfl rfl rfl

theorem addContribution_accounted (hfVersion : Nat) (blockHeight : UInt64) (index : UInt32)
    (parsed : ParsedTxContribution) (position : Nat) {info : FullNodeInfo}
    (accounted : Accounted info) :
    Accounted (addContribution hfVersion blockHeight index parsed position info) := by
  unfold addContribution
  split
  · exact accounted
  · rename_i contributor found
    have present : contributor ∈ info.contributors := List.mem_of_getElem? found
    have ownStake := UInt64.le_iff_toNat_le.mp (accounted.amount_le_reserved contributor present)
    have ownReservation : contributor.reserved.toNat ≤ info.totalReserved.toNat := by
      rw [accounted.totalReserved_eq]
      exact List.le_sum_of_mem (List.mem_map_of_mem present)
    have reservedBound := UInt64.le_iff_toNat_le.mp accounted.totalReserved_le
    have requirementBound := info.stakingRequirement.toNat_lt
    have room : (contributor.reserved + (info.stakingRequirement - info.totalReserved) -
        contributor.amount).toNat + contributor.amount.toNat =
          contributor.reserved.toNat + (info.stakingRequirement.toNat - info.totalReserved.toNat) := by
      rw [UInt64.toNat_sub, UInt64.toNat_add, UInt64.toNat_sub]
      omega
    have locked : ∀ {updated : FullNodeInfo}, Accounted updated →
        Accounted (if hfVersion ≥ networkVersion11InfiniteStaking then
          lockContributions position parsed.lockedContributions updated else updated) := by
      intro updated updatedAccounted
      split
      · exact lockContributions_accounted position _ updatedAccounted
      · exact updatedAccounted
    dsimp only
    refine locked (contribute_accounted accounted found ?_ blockHeight index)
    have taken := UInt64.le_iff_toNat_le.mp (min_le_left
      (contributor.reserved + (info.stakingRequirement - info.totalReserved) - contributor.amount)
      parsed.transferred)
    omega

theorem Accounted.append_unstaked {info : FullNodeInfo} (accounted : Accounted info)
    {contributor : Contributor} (nothingIn : contributor.amount = 0)
    (nothingReserved : contributor.reserved = 0) :
    Accounted { info with contributors := info.contributors ++ [contributor] } := by
  refine ⟨?_, ?_, ?_, accounted.totalContributed_le, accounted.totalReserved_le⟩
  · show info.totalReserved.toNat = ((info.contributors ++ [contributor]).map (·.reserved.toNat)).sum
    rw [List.map_append, List.sum_append, List.map_singleton, List.sum_singleton, nothingReserved,
      accounted.totalReserved_eq]
    rfl
  · show info.totalContributed.toNat = ((info.contributors ++ [contributor]).map (·.amount.toNat)).sum
    rw [List.map_append, List.sum_append, List.map_singleton, List.sum_singleton, nothingIn,
      accounted.totalContributed_eq]
    rfl
  · intro other member
    rcases List.mem_append.mp member with old | new
    · exact accounted.amount_le_reserved other old
    · rw [List.mem_singleton.mp new, nothingIn]
      exact UInt64.zero_le

/-! ### What each change of a node keeps

`block_added_generic` and `blockchain_detached` change a node in six ways:
a registration makes it, a contribution adds to a contributor's stake, a new
contributor joins, the reward queue moves it, its unlock is requested or
withdrawn, and the swarms move it. A property of nodes that each of these
keeps holds of every node of every reachable list. -/

/-- `good` holds of every node a registration makes and is kept by every
other change a node goes through. -/
structure NodeInvariant (good : FullNodeInfo → Prop) : Prop where
  registered : ∀ {ctx : StakingContext} {tx : Transaction} {blockTimestamp blockHeight : UInt64}
    {index : UInt32} {key : PublicKey} {info : FullNodeInfo},
    isRegistrationTx ctx tx blockTimestamp blockHeight index = some (key, info) → good info
  contributed : ∀ (hfVersion : Nat) (blockHeight : UInt64) (index : UInt32)
    (parsed : ParsedTxContribution) (position : Nat) {info : FullNodeInfo},
    good info → good (addContribution hfVersion blockHeight index parsed position info)
  joined : ∀ {info : FullNodeInfo} {contributor : Contributor}, good info →
    contributor.amount = 0 → contributor.reserved = 0 →
    info.contributors.findIdx? (·.address = contributor.address) = none →
    good { info with contributors := info.contributors ++ [contributor] }
  queued : ∀ {info : FullNodeInfo} (blockHeight : UInt64) (index : UInt32), good info →
    good { info with lastRewardBlockHeight := blockHeight, lastRewardTransactionIndex := index }
  unlocking : ∀ {info : FullNodeInfo} (unlockHeight : UInt64), good info →
    good { info with requestedUnlockHeight := unlockHeight }
  swarmed : ∀ {info : FullNodeInfo} (swarmId : UInt64), good info →
    good { info with swarmId := swarmId }

theorem accounted_invariant : NodeInvariant Accounted where
  registered := isRegistrationTx_accounted
  contributed := addContribution_accounted
  joined accounted nothingIn nothingReserved _ :=
    Accounted.append_unstaked accounted nothingIn nothingReserved
  queued _ _ accounted := Accounted.of_stakes accounted rfl rfl rfl rfl
  unlocking _ accounted := Accounted.of_stakes accounted rfl rfl rfl rfl
  swarmed _ accounted := Accounted.of_stakes accounted rfl rfl rfl rfl

/-! ### A list -/

section Lists

variable {good : FullNodeInfo → Prop}

variable (good) in
def NodesHold (infos : FullNodesInfos) : Prop :=
  ∀ key info, infos.lookup key = some info → good info

variable (good) in
/-- What a rollback event would restore satisfies `good`. -/
def RollbackEvent.Restores : RollbackEvent → Prop
  | .change _ _ info => good info
  | _ => True

variable (good) in
/-- Every node of a list satisfies `good`, and so does every node its
rollback events would restore. -/
structure ListHolds (s : TransientState) : Prop where
  nodes : NodesHold good s.fullNodesInfos
  events : ∀ event ∈ s.rollbackEvents, event.Restores good

theorem NodesHold.insert {infos : FullNodesInfos} (holds : NodesHold good infos)
    (key : PublicKey) {info : FullNodeInfo} (infoGood : good info) :
    NodesHold good (infos.insert key info) := by
  intro other otherInfo found
  by_cases same : other = key
  · subst same
    rw [AList.lookup_insert] at found
    cases found
    exact infoGood
  · rw [AList.lookup_insert_ne same] at found
    exact holds other otherInfo found

theorem NodesHold.erase {infos : FullNodesInfos} (holds : NodesHold good infos)
    (key : PublicKey) : NodesHold good (infos.erase key) := by
  intro other info found
  by_cases same : other = key
  · subst same
    rw [AList.lookup_erase] at found
    cases found
  · rw [AList.lookup_erase_ne same] at found
    exact holds other info found

theorem listHolds_append {s t : TransientState} {appended : List RollbackEvent}
    (holds : ListHolds good s) (nodes : NodesHold good t.fullNodesInfos)
    (events : t.rollbackEvents = s.rollbackEvents ++ appended)
    (appendedRestore : ∀ event ∈ appended, event.Restores good) : ListHolds good t := by
  refine ⟨nodes, fun event member => ?_⟩
  rw [events] at member
  rcases List.mem_append.mp member with old | new
  · exact holds.events event old
  · exact appendedRestore event new

theorem listHolds_changeNode {s : TransientState} {blockHeight : UInt64} {key : PublicKey}
    {info changed : FullNodeInfo} (holds : ListHolds good s)
    (found : s.fullNodesInfos.lookup key = some info) (changedGood : good changed) :
    ListHolds good (s.changeNode blockHeight key info changed) :=
  listHolds_append holds (NodesHold.insert holds.nodes key changedGood) rfl
    fun event member => by
      rw [List.mem_singleton.mp member]
      exact holds.nodes key info found

theorem listHolds_removeNode {s : TransientState} {blockHeight : UInt64} {key : PublicKey}
    {info : FullNodeInfo} (holds : ListHolds good s)
    (found : s.fullNodesInfos.lookup key = some info) :
    ListHolds good (s.removeNode blockHeight key info) :=
  listHolds_append holds (NodesHold.erase holds.nodes key) rfl
    fun event member => by
      rw [List.mem_singleton.mp member]
      exact holds.nodes key info found

theorem nodesHold_applyRollback (invariant : NodeInvariant good) {event : RollbackEvent}
    {s t : TransientState} (restores : event.Restores good)
    (holds : NodesHold good s.fullNodesInfos) (undone : applyRollback event s = some t) :
    NodesHold good t.fullNodesInfos := by
  cases event with
  | change _ key info =>
    cases undone
    exact NodesHold.insert holds key restores
  | new _ key =>
    simp only [applyRollback] at undone
    split at undone
    · cases undone
      exact NodesHold.erase holds key
    · cases undone
  | prevent _ => cases undone
  | keyImageBlacklist _ entry adding =>
    cases adding with
    | true =>
      simp only [applyRollback] at undone
      split at undone
      · cases undone
        exact holds
      · cases undone
    | false =>
      cases undone
      exact holds
  | keyImageUnlock _ key =>
    simp only [applyRollback] at undone
    cases found : s.fullNodesInfos.lookup key with
    | none =>
      rw [found] at undone
      cases undone
    | some info =>
      rw [found] at undone
      cases undone
      exact NodesHold.insert holds key (invariant.unlocking _ (holds key info found))

/-! ### Every step of a block keeps the invariant -/

section Steps

variable {σ : Type} (ctx : ListContext σ) (invariant : NodeInvariant good)

theorem listHolds_removeOldRollbackEvents (blockHeight : UInt64) {s : TransientState}
    (holds : ListHolds good s) : ListHolds good (removeOldRollbackEvents blockHeight s) := by
  refine ⟨holds.nodes, fun event member => ?_⟩
  rw [removeOldRollbackEvents_rollbackEvents] at member
  rcases List.mem_cons.mp member with prevented | kept
  · rw [prevented]
    trivial
  · exact holds.events event ((List.dropWhile_sublist _).subset kept)

theorem listHolds_removeExpiredBlacklist (blockHeight : UInt64) {s : TransientState}
    (holds : ListHolds good s) : ListHolds good (removeExpiredBlacklist blockHeight s) :=
  listHolds_append holds holds.nodes rfl fun event member => by
    obtain ⟨entry, -, rfl⟩ := List.mem_map.mp member
    trivial

theorem listHolds_expireNodes (blockHeight : UInt64) (expired : List PublicKey)
    {s : TransientState} (holds : ListHolds good s) :
    ListHolds good (expireNodes blockHeight expired s).2 := by
  unfold expireNodes
  refine List.foldlRecOn (motive := fun acc : Nat × TransientState => ListHolds good acc.2)
    expired _ holds fun acc accHolds pubkey _ => ?_
  obtain ⟨count, t⟩ := acc
  dsimp only
  cases found : t.fullNodesInfos.lookup pubkey with
  | none => exact accHolds
  | some info => exact listHolds_removeNode accHolds found

include invariant in
theorem listHolds_advanceWinner (block : Block) (blockHeight : UInt64) {s : TransientState}
    (holds : ListHolds good s) : ListHolds good (advanceWinner block blockHeight s) := by
  unfold advanceWinner
  dsimp only
  cases found : s.fullNodesInfos.lookup (getFullNodeWinnerFromTxExtra block.minerTx.extra) with
  | none => exact holds
  | some info =>
    exact listHolds_changeNode holds found (invariant.queued _ _ (holds.nodes _ info found))

include invariant in
theorem listHolds_processRegistrationTx {tx : Transaction} {blockTimestamp blockHeight : UInt64}
    {index : UInt32} {s : TransientState} (holds : ListHolds good s) :
    ListHolds good (processRegistrationTx ctx tx blockTimestamp blockHeight index s).2 := by
  unfold processRegistrationTx
  cases registered : isRegistrationTx ctx.toStakingContext tx blockTimestamp blockHeight index with
  | none => exact holds
  | some registration =>
    obtain ⟨key, info⟩ := registration
    have infoGood := invariant.registered registered
    have register : ∀ {kept : FullNodeInfo}, good kept → ListHolds good { s with
        rollbackEvents := s.rollbackEvents ++ [.new blockHeight key]
        fullNodesInfos := s.fullNodesInfos.insert key kept } := fun keptGood =>
      listHolds_append holds (NodesHold.insert holds.nodes key keptGood) rfl
        fun event member => by
          rw [List.mem_singleton.mp member]
          trivial
    dsimp only
    split
    · split
      · exact holds
      · exact register infoGood
    · cases s.fullNodesInfos.lookup key with
      | none => exact register infoGood
      | some oldInfo =>
        dsimp only
        split
        · split
          · exact holds
          · exact register (invariant.queued _ _ infoGood)
        · exact holds

include invariant in
theorem listHolds_processContributionTx {tx : Transaction} {blockHeight : UInt64}
    {index : UInt32} {s : TransientState} (holds : ListHolds good s) :
    ListHolds good (processContributionTx ctx tx blockHeight index s) := by
  unfold processContributionTx
  cases getFullNodePubkeyFromTxExtra tx.extra with
  | none => exact holds
  | some pubkey =>
    dsimp only
    cases getContribution ctx.toStakingContext (ctx.getHardForkVersion blockHeight) tx blockHeight with
    | none => exact holds
    | some parsed =>
      cases found : s.fullNodesInfos.lookup pubkey with
      | none => exact holds
      | some info =>
        have infoGood := holds.nodes pubkey info found
        dsimp only
        split
        · exact holds
        · split
          · exact listHolds_changeNode holds found (invariant.contributed _ _ _ _ _ infoGood)
          · rename_i absent
            split
            · exact holds
            · exact listHolds_changeNode holds found
                (invariant.contributed _ _ _ _ _ (invariant.joined infoGood rfl rfl absent))

theorem listHolds_processDeregistrationTx {tx : Transaction} {blockHeight : UInt64}
    {s : TransientState} (holds : ListHolds good s) :
    ListHolds good (processDeregistrationTx ctx tx blockHeight s).2 := by
  unfold processDeregistrationTx
  split
  · exact holds
  · cases getFullNodeDeregisterFromTxExtra tx.extra with
    | none => exact holds
    | some deregister =>
      dsimp only
      cases s.quorumStates.find? deregister.blockHeight.toUInt64 with
      | none => exact holds
      | some state =>
        dsimp only
        cases state.nodesToTest[deregister.fullNodeIndex]? with
        | none => exact holds
        | some key =>
          dsimp only
          cases found : s.fullNodesInfos.lookup key with
          | none => exact holds
          | some info =>
            dsimp only
            have removed : ListHolds good (s.removeNode blockHeight key info) :=
              listHolds_removeNode holds found
            split
            · exact listHolds_append removed removed.nodes rfl fun event member => by
                obtain ⟨entry, -, rfl⟩ := List.mem_map.mp member
                trivial
            · exact removed

include invariant in
theorem listHolds_processKeyImageUnlockTx {tx : Transaction} {blockHeight : UInt64}
    {s : TransientState} (holds : ListHolds good s) :
    ListHolds good (processKeyImageUnlockTx ctx tx blockHeight s) := by
  unfold processKeyImageUnlockTx
  cases getFullNodePubkeyFromTxExtra tx.extra with
  | none => exact holds
  | some snodeKey =>
    dsimp only
    cases found : s.fullNodesInfos.lookup snodeKey with
    | none => exact holds
    | some nodeInfo =>
      cases getTxKeyImageUnlockFromTxExtra tx.extra with
      | none => exact holds
      | some unlock =>
        dsimp only
        split
        · exact holds
        · split
          · exact holds
          · split
            · exact holds
            · exact listHolds_append holds
                (NodesHold.insert holds.nodes snodeKey
                  (invariant.unlocking _ (holds.nodes snodeKey nodeInfo found)))
                rfl fun event member => by
                  rw [List.mem_singleton.mp member]
                  trivial

include invariant in
theorem holds_applySwarmChange {height swarmId : UInt64} {s : TransientState} (snode : PublicKey)
    (holds : ListHolds good s) :
    Holds (fun _ => True) (ListHolds good) (applySwarmChange height swarmId s snode) := by
  unfold applySwarmChange
  cases found : s.fullNodesInfos.lookup snode with
  | none => trivial
  | some snInfo =>
    dsimp only
    split
    · exact holds
    · exact listHolds_changeNode holds found
        (invariant.swarmed _ (holds.nodes snode snInfo found))

include invariant in
theorem listHolds_updateSwarms {height : UInt64} {s t : TransientState}
    (holds : ListHolds good s) (updated : updateSwarms ctx height s = .ok t) :
    ListHolds good t := by
  unfold updateSwarms at updated
  dsimp only at updated
  cases changes : calcSwarmChanges ctx.engine ctx.swarmFuel (existingSwarms s.fullNodesInfos)
      (LittleEndian.ofBytes ((ctx.getBlockIdByHeight height).data.take 8)).toUInt64 with
  | error fault =>
    rw [changes] at updated
    cases updated
  | ok swarms =>
    rw [changes] at updated
    have swarmsHold : Holds (fun _ : SwarmFault => True) (ListHolds good)
        (swarms.entries.foldlM (fun s entry => entry.2.foldlM (applySwarmChange height entry.1) s) s) :=
      holds_foldlM (fun _ middleHolds entry => holds_foldlM
        (fun _ stateHolds snode => holds_applySwarmChange invariant snode stateHolds)
        entry.2 middleHolds) swarms.entries holds
    exact post_of_holds swarmsHold updated

theorem listHolds_updateQuorum (blockHeight : UInt64) {s : TransientState}
    (holds : ListHolds good s) : ListHolds good (updateQuorum ctx blockHeight s) :=
  ⟨holds.nodes, holds.events⟩

include invariant in
theorem listHolds_processTx (block : Block) (blockHeight : UInt64)
    (acc : Nat × Nat × TransientState) (entry : Transaction × Nat)
    (holds : ListHolds good acc.2.2) :
    ListHolds good (processTx ctx block blockHeight acc entry).2.2 := by
  obtain ⟨registrations, deregistrations, s⟩ := acc
  obtain ⟨tx, index⟩ := entry
  unfold processTx
  dsimp only
  split
  · have registered : ListHolds good
        (processRegistrationTx ctx tx block.timestamp blockHeight index.toUInt32 s).2 :=
      listHolds_processRegistrationTx ctx invariant holds
    generalize processRegistrationTx ctx tx block.timestamp blockHeight index.toUInt32 s = result
      at registered ⊢
    obtain ⟨_, middle⟩ := result
    exact listHolds_processContributionTx ctx invariant registered
  · have deregistered : ListHolds good (processDeregistrationTx ctx tx blockHeight s).2 :=
      listHolds_processDeregistrationTx ctx holds
    generalize processDeregistrationTx ctx tx blockHeight s = result at deregistered ⊢
    obtain ⟨_, changed⟩ := result
    exact deregistered
  · exact listHolds_processKeyImageUnlockTx ctx invariant holds

include invariant in
theorem listHolds_blockAddedGeneric {block : Block} {txs : List Transaction}
    {s t : TransientState} (holds : ListHolds good s)
    (added : blockAddedGeneric ctx block txs s = .ok t) : ListHolds good t := by
  by_cases older : ctx.getHardForkVersion (getBlockHeight block.minerTx) < 9
  · rw [blockAddedGeneric_of_unversioned ctx older added]
    exact holds
  obtain ⟨cleaned, looped, swarmed, cleanedEq, loopedEq, swarms, rfl⟩ :=
    blockAddedGeneric_stages ctx older added
  generalize getBlockHeight block.minerTx = blockHeight at cleanedEq loopedEq swarms ⊢
  have cleanedHolds : ListHolds good cleaned := by
    rw [cleanedEq]
    exact listHolds_removeExpiredBlacklist blockHeight
      (listHolds_removeOldRollbackEvents blockHeight holds)
  have winner := listHolds_advanceWinner invariant block blockHeight
    (listHolds_expireNodes blockHeight (updateAndGetExpiredNodes ctx blockHeight cleaned) cleanedHolds)
  have transactions : ListHolds good looped := by
    rw [loopedEq]
    exact List.foldlRecOn (motive := fun acc : Nat × Nat × TransientState => ListHolds good acc.2.2)
      txs.zipIdx _ winner fun acc accHolds entry _ =>
        listHolds_processTx ctx invariant block blockHeight acc entry accHolds
  have swarmsHold : ListHolds good swarmed := by
    rcases swarms with rfl | updated
    · exact transactions
    · exact listHolds_updateSwarms ctx invariant transactions updated
  exact listHolds_updateQuorum ctx blockHeight swarmsHold

end Steps

/-! ### Every reachable list -/

theorem listHolds_blockchainDetached (invariant : NodeInvariant good) {reinit s : TransientState}
    (height : UInt64) (holds : ListHolds good s) (reinitHolds : ListHolds good reinit) :
    ListHolds good (blockchainDetached reinit height s) := by
  unfold blockchainDetached
  dsimp only
  cases popped : popWhile applyRollback RollbackEvent.blockHeight height s.rollbackEvents.reverse s with
  | none => exact ⟨reinitHolds.nodes, reinitHolds.events⟩
  | some result =>
    obtain ⟨restored, kept⟩ := result
    obtain ⟨restoredHolds, suffix⟩ :=
      popWhile_invariant (fun state : TransientState => NodesHold good state.fullNodesInfos)
        (fun event member _ _ stateHolds undid => nodesHold_applyRollback invariant
          (holds.events event (List.mem_reverse.mp member)) stateHolds undid) holds.nodes popped
    refine ⟨restoredHolds, fun event member => ?_⟩
    exact holds.events event (List.mem_reverse.mp (suffix.subset (List.mem_reverse.mp member)))

theorem listHolds_clear (hardfork9FromHeight : UInt64) :
    ListHolds good (clear hardfork9FromHeight) := by
  refine ⟨fun key info found => ?_, fun _ absent => absurd absent List.not_mem_nil⟩
  rw [clear, AList.lookup_empty] at found
  cases found

end Lists

/-- The lists `full_node_list` reaches from `clear()` by adding blocks and
detaching them. A rollback that falls back to `init()` gets a list that
`init()` rebuilds from the chain, which is taken to be reachable too. -/
inductive Reachable {σ : Type} (ctx : ListContext σ) : TransientState → Prop
  | cleared (hardfork9FromHeight : UInt64) : Reachable ctx (clear hardfork9FromHeight)
  | added {s t : TransientState} (block : Block) (txs : List Transaction) :
      Reachable ctx s → blockAddedGeneric ctx block txs s = .ok t → Reachable ctx t
  | detached {s reinit : TransientState} (height : UInt64) :
      Reachable ctx s → Reachable ctx reinit → Reachable ctx (blockchainDetached reinit height s)

theorem reachable_listHolds {good : FullNodeInfo → Prop} (invariant : NodeInvariant good)
    {σ : Type} {ctx : ListContext σ} {s : TransientState} (reachable : Reachable ctx s) :
    ListHolds good s := by
  induction reachable with
  | cleared hardfork9FromHeight => exact listHolds_clear hardfork9FromHeight
  | added block txs _ added ih => exact listHolds_blockAddedGeneric ctx invariant ih added
  | detached height _ _ ih reinitIh =>
    exact listHolds_blockchainDetached invariant height ih reinitIh

theorem reachable_nodes_accounted {σ : Type} {ctx : ListContext σ} {s : TransientState}
    (reachable : Reachable ctx s) {key : PublicKey} {info : FullNodeInfo}
    (found : s.fullNodesInfos.lookup key = some info) : Accounted info :=
  (reachable_listHolds accounted_invariant reachable).nodes key info found

/- The kernel evaluates the block, as `calc_swarm_changes` sorts with the
well-founded `List.mergeSort`. -/
theorem registered_node_accounted :
    ∃ held info, Reachable graceContext held ∧
      held.fullNodesInfos.lookup (keyOf 1) = some info ∧ Accounted info := by
  have ran : ((blockAddedGeneric graceContext (blockAt 10) [stakeRegistration 100]
      (clear 10)).toOption.bind fun held => held.fullNodesInfos.lookup (keyOf 1)).isSome = true := by
    decide +kernel
  cases added : blockAddedGeneric graceContext (blockAt 10) [stakeRegistration 100] (clear 10) with
  | error fault =>
    rw [added] at ran
    cases ran
  | ok held =>
    rw [added] at ran
    cases found : held.fullNodesInfos.lookup (keyOf 1) with
    | none =>
      rw [Except.toOption, Option.bind_some, found] at ran
      cases ran
    | some info =>
      have reachable := Reachable.added (blockAt 10) [stakeRegistration 100] (Reachable.cleared 10)
        added
      exact ⟨held, info, reachable, found, reachable_nodes_accounted reachable found⟩

end Antd.FullNodes
