import Antd.FullNodes.StakingAccounts
import Antd.FullNodes.Synced

/-! The reward queue of `full_node_list`: `select_winner` picks the fully
funded node that has waited longest for a reward, and
`get_winner_addresses_and_portions` splits the winner's reward among its
contributors in portions of `STAKING_PORTIONS`. A contributor's portion is
its share of the staking requirement in what the operator leaves, taken in
128 bits and kept in the low word; the operator's address adds the operator's
cut.

Along a chain no two nodes share a place in the queue, so the winner is the
funded node that has waited longest, whatever order the `unordered_map` walks
its nodes in. On every reachable list the contributors of a node have
distinct addresses and have put in no more than the requirement, so each
portion is computed exactly and the portions add up to at most
`STAKING_PORTIONS`; the outputs `validate_miner_tx` asks for then add up to at
most the full-node reward. -/

namespace Antd.FullNodes

open Antd.Crypto Antd.Cryptonote Antd.Epee

/-- `operator<` of `std::pair<uint64_t, uint32_t>`. -/
def waitingLt (waitingSince oldestWaiting : UInt64 × UInt32) : Bool :=
  decide (waitingSince.1 < oldestWaiting.1) ||
    (!decide (oldestWaiting.1 < waitingSince.1) && decide (waitingSince.2 < oldestWaiting.2))

/-- One pass of the loop of `select_winner`: a fully funded node that has
waited longer than the oldest so far takes its place. -/
def considerWinner (oldest : (UInt64 × UInt32) × PublicKey)
    (entry : (_ : PublicKey) × FullNodeInfo) : (UInt64 × UInt32) × PublicKey :=
  if entry.2.isFullyFunded then
    let waitingSince := (entry.2.lastRewardBlockHeight, entry.2.lastRewardTransactionIndex)
    if waitingLt waitingSince oldest.1 then (waitingSince, entry.1) else oldest
  else oldest

/-- `full_node_list::select_winner`, over the nodes in the model's order. -/
def selectWinner (infos : FullNodesInfos) : PublicKey :=
  (infos.entries.foldl considerWinner ((0xFFFFFFFFFFFFFFFF, 0xFFFFFFFF), nullPkey)).2

/-- The portion of `contributor` in `get_winner_addresses_and_portions`: the
low word of `amount * (STAKING_PORTIONS - portions_for_operator)` over the
staking requirement, with the operator's cut added at the operator's address. -/
def winnerPortion (info : FullNodeInfo) (contributor : Contributor) : UInt64 :=
  let remainingPortions := stakingPortions - info.portionsForOperator
  let product := mul128 contributor.amount remainingPortions
  let resultlo := (div128_64 product.2 product.1 info.stakingRequirement).2.2
  if contributor.address = info.operatorAddress then resultlo + info.portionsForOperator
  else resultlo

/-- `full_node_list::get_winner_addresses_and_portions`; `none` where
`full_nodes_infos.at` throws. -/
def getWinnerAddressesAndPortions (infos : FullNodesInfos) :
    Option (List (AccountPublicAddress × UInt64)) :=
  let key := selectWinner infos
  if key = nullPkey then some [(nullAddress, stakingPortions)]
  else
    match infos.lookup key with
    | none => none
    | some info => some (info.contributors.map fun contributor =>
        (contributor.address, winnerPortion info contributor))

/-! ### The winner is a node of the list -/

theorem waitingLt_iff (place other : UInt64 × UInt32) :
    waitingLt place other = true ↔ queuePosition place < queuePosition other := by
  have placeIndex := place.2.toNat_lt
  have otherIndex := other.2.toNat_lt
  simp only [waitingLt, queuePosition, Bool.or_eq_true, Bool.and_eq_true, Bool.not_eq_true',
    decide_eq_true_eq, decide_eq_false_iff_not, UInt64.lt_iff_toNat_lt, UInt32.lt_iff_toNat_lt]
  constructor
  · intro earlier
    omega
  · intro earlier
    omega

/-- One pass of `select_winner`: a funded node ahead of the oldest so far takes
its place, and the oldest so far stays ahead of every other funded node. -/
theorem considerWinner_cases (oldest : (UInt64 × UInt32) × PublicKey)
    (entry : (_ : PublicKey) × FullNodeInfo) :
    (considerWinner oldest entry = oldest ∧ (entry.2.isFullyFunded = true →
        queuePosition oldest.1 ≤ queuePosition (waitingSince entry.2))) ∨
      (entry.2.isFullyFunded = true ∧
        queuePosition (waitingSince entry.2) < queuePosition oldest.1 ∧
        considerWinner oldest entry = (waitingSince entry.2, entry.1)) := by
  unfold considerWinner
  by_cases funded : entry.2.isFullyFunded = true
  · rw [if_pos funded]
    dsimp only
    by_cases earlier :
        waitingLt (entry.2.lastRewardBlockHeight, entry.2.lastRewardTransactionIndex) oldest.1 = true
    · rw [if_pos earlier]
      exact .inr ⟨funded, (waitingLt_iff _ _).mp earlier, rfl⟩
    · rw [if_neg earlier]
      exact .inl ⟨rfl, fun _ => Nat.not_lt.mp (mt (waitingLt_iff _ _).mpr earlier)⟩
  · rw [if_neg funded]
    exact .inl ⟨rfl, fun funded' => absurd funded' funded⟩

/-- Where the fold of `select_winner` over `entries` ends, from `oldest`: at
`oldest` or a funded node of `entries`, and ahead of neither `oldest` nor any
funded node of `entries` in the queue. -/
structure WinsOver (entries : List ((_ : PublicKey) × FullNodeInfo))
    (oldest winner : (UInt64 × UInt32) × PublicKey) : Prop where
  chosen : winner = oldest ∨
    ∃ entry ∈ entries, entry.2.isFullyFunded = true ∧ winner = (waitingSince entry.2, entry.1)
  noLater : queuePosition winner.1 ≤ queuePosition oldest.1
  first : ∀ entry ∈ entries, entry.2.isFullyFunded = true →
    queuePosition winner.1 ≤ queuePosition (waitingSince entry.2)

theorem foldl_considerWinner_winsOver :
    ∀ (entries : List ((_ : PublicKey) × FullNodeInfo)) (oldest : (UInt64 × UInt32) × PublicKey),
      WinsOver entries oldest (entries.foldl considerWinner oldest)
  | [], oldest => ⟨.inl rfl, le_refl _, fun _ member => absurd member List.not_mem_nil⟩
  | entry :: rest, oldest => by
    rw [List.foldl_cons]
    have later := foldl_considerWinner_winsOver rest (considerWinner oldest entry)
    -- the pass over `entry` either keeps the oldest so far or replaces it by `entry`
    have passed : queuePosition (considerWinner oldest entry).1 ≤ queuePosition oldest.1 ∧
        (entry.2.isFullyFunded = true →
          queuePosition (considerWinner oldest entry).1 ≤ queuePosition (waitingSince entry.2)) ∧
        (considerWinner oldest entry = oldest ∨ entry.2.isFullyFunded = true ∧
          considerWinner oldest entry = (waitingSince entry.2, entry.1)) := by
      rcases considerWinner_cases oldest entry with ⟨kept, behind⟩ | ⟨funded, earlier, taken⟩
      · rw [kept]
        exact ⟨le_refl _, behind, .inl rfl⟩
      · rw [taken]
        exact ⟨earlier.le, fun _ => le_refl _, .inr ⟨funded, rfl⟩⟩
    refine ⟨?_, le_trans later.noLater passed.1, fun other member funded => ?_⟩
    · rcases later.chosen with same | ⟨chosen, member, funded, winner⟩
      · rcases passed.2.2 with kept | ⟨funded, taken⟩
        · exact .inl (same.trans kept)
        · exact .inr ⟨entry, List.mem_cons_self, funded, same.trans taken⟩
      · exact .inr ⟨chosen, List.mem_cons_of_mem _ member, funded, winner⟩
    · rcases List.mem_cons.mp member with rfl | rest'
      · exact le_trans later.noLater (passed.2.1 funded)
      · exact later.first other rest' funded

theorem selectWinner_present {infos : FullNodesInfos} (selected : selectWinner infos ≠ nullPkey) :
    ∃ info, infos.lookup (selectWinner infos) = some info := by
  rcases (foldl_considerWinner_winsOver infos.entries ((0xFFFFFFFFFFFFFFFF, 0xFFFFFFFF), nullPkey)).chosen
    with start | ⟨chosen, member, -, winner⟩
  · exact absurd (congrArg Prod.snd start) selected
  · exact ⟨chosen.2, by rw [selectWinner, winner]; exact AList.mem_lookup_iff.mpr member⟩

/-! ### The winner is the funded node that waited longest -/

/-- The fold ends at a funded node whenever one stands ahead of its start. -/
theorem WinsOver.funded {entries : List ((_ : PublicKey) × FullNodeInfo)}
    {oldest winner : (UInt64 × UInt32) × PublicKey} (wins : WinsOver entries oldest winner)
    {entry : (_ : PublicKey) × FullNodeInfo} (member : entry ∈ entries)
    (funded : entry.2.isFullyFunded = true)
    (ahead : queuePosition (waitingSince entry.2) < queuePosition oldest.1) :
    ∃ chosen ∈ entries, chosen.2.isFullyFunded = true ∧ winner = (waitingSince chosen.2, chosen.1) := by
  rcases wins.chosen with same | chosen
  · have behind := wins.first entry member funded
    rw [same] at behind
    exact absurd ahead (Nat.not_lt.mpr behind)
  · exact chosen

/-- A list along a chain is reachable: the runs of `Synced` are runs of
`Reachable` that keep to the chain's heights. -/
theorem Synced.reachable {σ : Type} {ctx : ListContext σ} {s : TransientState}
    (synced : Synced ctx s) : Reachable ctx s := by
  induction synced with
  | cleared hardfork9FromHeight => exact Reachable.cleared hardfork9FromHeight
  | added block txs _ _ _ _ added ih => exact Reachable.added block txs ih added
  | detached height _ _ _ _ ih reinitIh => exact Reachable.detached height ih reinitIh

/-! ### What a winner is paid -/

/-- What every node of a reachable list keeps, beyond its accounts, for the
split of its reward: distinct contributors, an operator's cut within
`STAKING_PORTIONS`, and a requirement to divide by. -/
structure Payable (info : FullNodeInfo) : Prop where
  accounted : Accounted info
  addresses_nodup : (info.contributors.map (·.address)).Nodup
  portionsForOperator_le : info.portionsForOperator ≤ stakingPortions
  stakingRequirement_pos : 0 < info.stakingRequirement.toNat

theorem getStakingRequirement_pos (nettype : NetworkType) :
    0 < (getStakingRequirement nettype).toNat := by
  cases nettype <;> decide

theorem lockContributions_addresses (position : Nat) :
    ∀ (contributions : List Contribution) (info : FullNodeInfo),
      (lockContributions position contributions info).contributors.map (·.address) =
          info.contributors.map (·.address) ∧
        (lockContributions position contributions info).portionsForOperator =
          info.portionsForOperator ∧
        (lockContributions position contributions info).stakingRequirement =
          info.stakingRequirement
  | [], _ => ⟨rfl, rfl, rfl⟩
  | contribution :: rest, info => by
    unfold lockContributions
    split
    · obtain ⟨addresses, operator, requirement⟩ := lockContributions_addresses position rest _
      refine ⟨addresses.trans ?_, operator, requirement⟩
      refine map_modify_of_forall ?_ info.contributors position
      intro contributor
      rfl
    · exact ⟨rfl, rfl, rfl⟩

theorem addContribution_addresses (hfVersion : Nat) (blockHeight : UInt64) (index : UInt32)
    (parsed : ParsedTxContribution) (position : Nat) (info : FullNodeInfo) :
    (addContribution hfVersion blockHeight index parsed position info).contributors.map
        (·.address) = info.contributors.map (·.address) ∧
      (addContribution hfVersion blockHeight index parsed position info).portionsForOperator =
        info.portionsForOperator ∧
      (addContribution hfVersion blockHeight index parsed position info).stakingRequirement =
        info.stakingRequirement := by
  unfold addContribution
  split
  · exact ⟨rfl, rfl, rfl⟩
  · rename_i contributor found
    obtain ⟨below, atPosition⟩ := List.getElem?_eq_some_iff.mp found
    have setAddresses : ∀ changed : Contributor, changed.address = contributor.address →
        (info.contributors.set position changed).map (·.address) =
          info.contributors.map (·.address) := by
      intro changed sameAddress
      rw [List.map_set, sameAddress]
      have belowMapped : position < (info.contributors.map (·.address)).length := by
        simpa using below
      have same : (info.contributors.map (·.address))[position] = contributor.address := by
        rw [List.getElem_map, atPosition]
      rw [← same, List.set_getElem_self]
    dsimp only
    split
    · obtain ⟨addresses, operator, requirement⟩ := lockContributions_addresses position
        parsed.lockedContributions _
      exact ⟨addresses.trans (setAddresses _ rfl), operator, requirement⟩
    · exact ⟨setAddresses _ rfl, rfl, rfl⟩

theorem payable_invariant : NodeInvariant Payable where
  registered registered := by
    obtain ⟨addresses, portions, bounded, finished⟩ := isRegistrationTx_registering registered
    refine ⟨Registering.accounted bounded finished, finished.addresses_nodup,
      finished.portionsForOperator_le, ?_⟩
    rw [finished.stakingRequirement_eq]
    exact getStakingRequirement_pos _
  contributed hfVersion blockHeight index parsed position info payable := by
    obtain ⟨addresses, operator, requirement⟩ :=
      addContribution_addresses hfVersion blockHeight index parsed position info
    refine ⟨addContribution_accounted hfVersion blockHeight index parsed position payable.accounted,
      ?_, ?_, ?_⟩
    · rw [addresses]
      exact payable.addresses_nodup
    · rw [operator]
      exact payable.portionsForOperator_le
    · rw [requirement]
      exact payable.stakingRequirement_pos
  joined := by
    intro info contributor payable nothingIn nothingReserved absent
    refine ⟨Accounted.append_unstaked payable.accounted nothingIn nothingReserved, ?_,
      payable.portionsForOperator_le, payable.stakingRequirement_pos⟩
    show ((info.contributors ++ [contributor]).map (·.address)).Nodup
    rw [List.map_append, List.map_singleton, List.nodup_append_comm, List.singleton_append,
      List.nodup_cons]
    refine ⟨fun listed => ?_, payable.addresses_nodup⟩
    obtain ⟨other, member, same⟩ := List.mem_map.mp listed
    have differs := List.findIdx?_eq_none_iff.mp absent other member
    simp only [decide_eq_false_iff_not] at differs
    exact differs same
  queued blockHeight index payable :=
    ⟨accounted_invariant.queued blockHeight index payable.accounted, payable.addresses_nodup,
      payable.portionsForOperator_le, payable.stakingRequirement_pos⟩
  unlocking unlockHeight payable :=
    ⟨accounted_invariant.unlocking unlockHeight payable.accounted, payable.addresses_nodup,
      payable.portionsForOperator_le, payable.stakingRequirement_pos⟩
  swarmed swarmId payable :=
    ⟨accounted_invariant.swarmed swarmId payable.accounted, payable.addresses_nodup,
      payable.portionsForOperator_le, payable.stakingRequirement_pos⟩

/-- The cut the operator's address adds to its portion. -/
def operatorCut (info : FullNodeInfo) (contributor : Contributor) : Nat :=
  if contributor.address = info.operatorAddress then info.portionsForOperator.toNat else 0

theorem winnerPortion_toNat {info : FullNodeInfo} (payable : Payable info)
    {contributor : Contributor} (member : contributor ∈ info.contributors) :
    (winnerPortion info contributor).toNat =
      (stakingPortions.toNat - info.portionsForOperator.toNat) * contributor.amount.toNat /
        info.stakingRequirement.toNat + operatorCut info contributor := by
  have operatorBound := UInt64.le_iff_toNat_le.mp payable.portionsForOperator_le
  have remaining : (stakingPortions - info.portionsForOperator).toNat =
      stakingPortions.toNat - info.portionsForOperator.toNat :=
    UInt64.toNat_sub_of_le _ _ payable.portionsForOperator_le
  have ownStake := UInt64.le_iff_toNat_le.mp (payable.accounted.amount_le_reserved contributor member)
  have ownReservation : contributor.reserved.toNat ≤ info.totalReserved.toNat := by
    rw [payable.accounted.totalReserved_eq]
    exact List.le_sum_of_mem (List.mem_map_of_mem member)
  have reservedBound := UInt64.le_iff_toNat_le.mp payable.accounted.totalReserved_le
  have amountBound : contributor.amount.toNat ≤ info.stakingRequirement.toNat := by omega
  have share : (stakingPortions.toNat - info.portionsForOperator.toNat) * contributor.amount.toNat /
      info.stakingRequirement.toNat ≤ stakingPortions.toNat - info.portionsForOperator.toNat := by
    apply Nat.div_le_of_le_mul
    rw [Nat.mul_comm info.stakingRequirement.toNat]
    exact Nat.mul_le_mul_left _ amountBound
  have portionsBound : stakingPortions.toNat = 2 ^ 64 - 4 := stakingPortions_toNat
  have quotient := div128_64_mul128_toNat contributor.amount (stakingPortions - info.portionsForOperator)
    info.stakingRequirement payable.stakingRequirement_pos
    (by rw [remaining, Nat.mul_comm contributor.amount.toNat]; omega)
  rw [remaining, Nat.mul_comm] at quotient
  unfold winnerPortion operatorCut
  dsimp only
  split
  · rw [UInt64.toNat_add, quotient]
    omega
  · rw [quotient, Nat.add_zero]

theorem sum_operatorCut_le {info : FullNodeInfo} :
    ∀ {contributors : List Contributor}, (contributors.map (·.address)).Nodup →
      (contributors.map (operatorCut info)).sum ≤ info.portionsForOperator.toNat
  | [], _ => Nat.zero_le _
  | contributor :: rest, distinct => by
    rw [List.map_cons, List.nodup_cons] at distinct
    rw [List.map_cons, List.sum_cons]
    by_cases operator : contributor.address = info.operatorAddress
    · have noOther : (rest.map (operatorCut info)).sum = 0 := by
        refine List.sum_eq_zero fun cut listed => ?_
        obtain ⟨other, member, rfl⟩ := List.mem_map.mp listed
        have differs : other.address ≠ info.operatorAddress := fun same =>
          distinct.1 (operator ▸ same ▸ List.mem_map_of_mem member)
        simp only [operatorCut, if_neg differs]
      rw [noOther, operatorCut, if_pos operator, Nat.add_zero]
    · rw [operatorCut, if_neg operator, Nat.zero_add]
      exact sum_operatorCut_le distinct.2

/-- On every reachable list, when `select_winner` picks a node,
`get_winner_addresses_and_portions` gives one entry for each of its
contributors, each portion computed exactly from the contributor's stake and
the operator's cut, and the portions add up to at most `STAKING_PORTIONS`; so
the rewards `validate_miner_tx` asks for add up to at most the full-node
reward. -/
theorem reachable_winner_portions_within_stake {σ : Type} {ctx : ListContext σ}
    {s : TransientState} (reachable : Reachable ctx s)
    (selected : selectWinner s.fullNodesInfos ≠ nullPkey) :
    ∃ info winners, s.fullNodesInfos.lookup (selectWinner s.fullNodesInfos) = some info ∧
      getWinnerAddressesAndPortions s.fullNodesInfos = some winners ∧
      winners.map Prod.fst = info.contributors.map (·.address) ∧
      winners.map (·.2.toNat) = info.contributors.map (fun contributor =>
        (stakingPortions.toNat - info.portionsForOperator.toNat) * contributor.amount.toNat /
          info.stakingRequirement.toNat + operatorCut info contributor) ∧
      portionsOf winners ≤ stakingPortions.toNat ∧
      ∀ totalFullNodeReward : UInt64,
        (calculateSumOfPortions winners totalFullNodeReward).toNat ≤ totalFullNodeReward.toNat := by
  obtain ⟨info, found⟩ := selectWinner_present selected
  have payable := (reachable_listHolds payable_invariant reachable).nodes _ info found
  have portions : (info.contributors.map fun contributor =>
      (contributor.address, winnerPortion info contributor)).map (·.2.toNat) =
        info.contributors.map (fun contributor =>
          (stakingPortions.toNat - info.portionsForOperator.toNat) * contributor.amount.toNat /
            info.stakingRequirement.toNat + operatorCut info contributor) := by
    rw [List.map_map]
    exact List.map_congr_left fun contributor member => winnerPortion_toNat payable member
  have contributed : (info.contributors.map (·.amount.toNat)).sum ≤ info.stakingRequirement.toNat := by
    rw [← payable.accounted.totalContributed_eq]
    exact Nat.le_trans (UInt64.le_iff_toNat_le.mp payable.accounted.totalContributed_le)
      (UInt64.le_iff_toNat_le.mp payable.accounted.totalReserved_le)
  have shares := sum_map_mul_div_le_factor
    (stakingPortions.toNat - info.portionsForOperator.toNat) contributed
  rw [List.map_map] at shares
  have cuts : (info.contributors.map (operatorCut info)).sum ≤ info.portionsForOperator.toNat :=
    sum_operatorCut_le payable.addresses_nodup
  have operatorBound := UInt64.le_iff_toNat_le.mp payable.portionsForOperator_le
  have within : portionsOf (info.contributors.map fun contributor =>
      (contributor.address, winnerPortion info contributor)) ≤ stakingPortions.toNat := by
    rw [portionsOf, portions, List.sum_map_add]
    have sharesEq : (info.contributors.map fun contributor =>
        (stakingPortions.toNat - info.portionsForOperator.toNat) * contributor.amount.toNat /
          info.stakingRequirement.toNat).sum =
        (info.contributors.map ((fun amount =>
          (stakingPortions.toNat - info.portionsForOperator.toNat) * amount /
            info.stakingRequirement.toNat) ∘ (·.amount.toNat))).sum := rfl
    omega
  refine ⟨info, _, found, ?_, ?_, portions, within, fun totalFullNodeReward => ?_⟩
  · simp only [getWinnerAddressesAndPortions, if_neg selected, found]
  · rw [List.map_map]
    rfl
  · rw [calculateSumOfPortions_toNat totalFullNodeReward within]
    exact sharesOf_le_total totalFullNodeReward within

/- The node registered at height 10 of the grace-period run is fully funded
by its one contributor, so it is the winner of the next block. -/
theorem registered_winner_portions_within_stake :
    ∃ held, Reachable graceContext held ∧ selectWinner held.fullNodesInfos ≠ nullPkey ∧
      ∃ info winners,
        held.fullNodesInfos.lookup (selectWinner held.fullNodesInfos) = some info ∧
        getWinnerAddressesAndPortions held.fullNodesInfos = some winners ∧
        winners.map Prod.fst = info.contributors.map (·.address) ∧
        winners.map (·.2.toNat) = info.contributors.map (fun contributor =>
          (stakingPortions.toNat - info.portionsForOperator.toNat) * contributor.amount.toNat /
            info.stakingRequirement.toNat + operatorCut info contributor) ∧
        portionsOf winners ≤ stakingPortions.toNat ∧
        ∀ totalFullNodeReward : UInt64,
          (calculateSumOfPortions winners totalFullNodeReward).toNat ≤
            totalFullNodeReward.toNat := by
  -- the run goes through the swarm update's merge sort, which only the kernel evaluates
  have ran : ((blockAddedGeneric graceContext (blockAt 10) [stakeRegistration 100]
      (clear 10)).toOption.map fun held => decide (selectWinner held.fullNodesInfos ≠ nullPkey)) =
        some true := by
    decide +kernel
  cases added : blockAddedGeneric graceContext (blockAt 10) [stakeRegistration 100] (clear 10) with
  | error fault =>
    rw [added] at ran
    cases ran
  | ok held =>
    rw [added, Except.toOption, Option.map_some, Option.some_inj] at ran
    have selected := of_decide_eq_true ran
    have reachable := Reachable.added (blockAt 10) [stakeRegistration 100] (Reachable.cleared 10)
      added
    exact ⟨held, reachable, selected, reachable_winner_portions_within_stake reachable selected⟩

end Antd.FullNodes
