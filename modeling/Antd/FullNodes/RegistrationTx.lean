import Antd.FullNodes.Swarms
import Antd.FullNodes.QuorumCop
import Antd.Lib.LittleEndian

/-! The staking transactions of `full_node_list.cpp`: `is_registration_tx`,
which reads a registration and checks its first contribution, and
`get_contribution`, which reads what a contribution transfers and, from
version 11, the key images it locks.

The elliptic-curve work (the key derivation, the ring signature of a key
image proof, the RingCT decoding of an output amount) is taken as primitives.
A registration is signed over `get_registration_hash`, which refuses portions
adding up to more than `STAKING_PORTIONS` without wrapping, so every node that
`is_registration_tx` accepts reserves at most its staking requirement, in
amounts that add up to its `total_reserved` (`isRegistrationTx_accounted`),
even though `check_full_node_portions` lets a wrapped sum through. -/

namespace Antd.Cryptonote

open Antd.Crypto

/-- `get_full_node_register_from_tx_extra`: it fails when the spend and view
keys differ in number. -/
def getFullNodeRegisterFromTxExtra (extra : List TxExtraField) :
    Option TxExtraFullNodeRegister :=
  match extra.findSome? (fun | .fullNodeRegister register => some register | _ => none) with
  | some registration =>
    if registration.publicSpendKeys.length = registration.publicViewKeys.length then
      some registration
    else none
  | none => none

def getTxKeyImageProofsFromTxExtra (extra : List TxExtraField) : Option (List KeyImageProof) :=
  extra.findSome? fun
    | .txKeyImageProofs proofs => some proofs
    | _ => none

def getTxKeyImageUnlockFromTxExtra (extra : List TxExtraField) :
    Option TxExtraTxKeyImageUnlock :=
  extra.findSome? fun
    | .txKeyImageUnlock unlock => some unlock
    | _ => none

end Antd.Cryptonote

namespace Antd.FullNodes

open Antd.Crypto Antd.Cryptonote Antd.Epee ForLoop

def networkVersion9FullNodes : Nat := 9

def cryptonoteMaxBlockNumber : UInt64 := 500000000

def version3PerOutputUnlockTimes : Nat := 3

def blocksExpectedInDays (days : UInt64) : UInt64 :=
  60 * 60 / 120 * 24 * days

def stakingNumLockBlocks : NetworkType → UInt64
  | .fakechain => 30
  | .testnet => blocksExpectedInDays 2
  | _ => blocksExpectedInDays 30

def getStakingRequirement (nettype : NetworkType) : UInt64 :=
  if nettype = .testnet ∨ nettype = .fakechain then coin * 100 else coin * 100000

def getMinFullNodeInfoVersionForHf (hfVersion : Nat) : UInt8 :=
  if 7 ≤ hfVersion ∧ hfVersion ≤ networkVersion9FullNodes then 0
  else if hfVersion = networkVersion10Bulletproofs then 1
  else 2

def FullNodeInfo.totalNumLockedContributions (info : FullNodeInfo) : Nat :=
  (info.contributors.map (·.lockedContributions.length)).sum

/-- What the staking code reads from the chain, and the primitives it calls. -/
structure StakingContext where
  nettype : NetworkType
  getHardForkVersion : UInt64 → Nat
  crypto : Primitives
  /-- `check_ring_signature` over a ring of one key. -/
  checkRingSignature : Hash → KeyImage → PublicKey → Signature → Bool
  /-- The amount of output `i` decoded with the scalar of `derivation`
  (`decodeRct` or `decodeRctSimple`); 0 where the decoding throws or the
  RingCT type is neither. -/
  decodeOutputAmount : Transaction → Nat → KeyDerivation → UInt64

structure ParsedTxContribution where
  address : AccountPublicAddress
  transferred : UInt64
  txKey : SecretKey
  lockedContributions : List Contribution

def getRegTxStakingOutputContribution (ctx : StakingContext) (tx : Transaction) (i : Nat)
    (derivation : KeyDerivation) : UInt64 :=
  match tx.vout[i]? with
  | some ⟨_, .toKey _⟩ => ctx.decodeOutputAmount tx i derivation
  | _ => 0

def keyImageHash (keyImage : KeyImage) : Hash :=
  ⟨keyImage.data, keyImage.length_eq⟩

/-- The state of the output loop of `get_contribution` from version 11: the
key image proofs not used yet, the contributions locked and the amount
transferred. -/
structure LockedScan where
  proofs : List KeyImageProof
  lockedContributions : List Contribution
  transferred : UInt64

/-- One pass of that loop: an output that pays the contributor, to the key
derived for it, locks the first unused proof whose signature checks. -/
def scanStakingOutput (ctx : StakingContext) (tx : Transaction) (derivation : KeyDerivation)
    (address : AccountPublicAddress) (scan : LockedScan) (outputIndex : Nat) : LockedScan :=
  let transferred := getRegTxStakingOutputContribution ctx tx outputIndex derivation
  if transferred = 0 then scan
  else
    match ctx.crypto.derivePublicKey derivation outputIndex address.spendPublicKey with
    | none => scan
    | some ephemeralPubKey =>
      match tx.vout[outputIndex]? with
      | some ⟨_, .toKey key⟩ =>
        if key ≠ ephemeralPubKey then scan
        else
          let signed := fun (proof : KeyImageProof) =>
            ctx.checkRingSignature (keyImageHash proof.keyImage) proof.keyImage ephemeralPubKey
              proof.signature
          match scan.proofs.find? signed with
          | none => scan
          | some proof =>
            { proofs := scan.proofs.erase proof
              lockedContributions :=
                scan.lockedContributions ++ [⟨2, ephemeralPubKey, proof.keyImage, transferred⟩]
              transferred := scan.transferred + transferred }
      | _ => scan

/-- One pass of the output loop before version 11: an output locked for at
least the staking period, and not past the block-number range, counts. -/
def unlockedStakingOutput (ctx : StakingContext) (tx : Transaction) (blockHeight : UInt64)
    (derivation : KeyDerivation) (transferred : UInt64) (i : Nat) : UInt64 :=
  let unlockTime :=
    if tx.version ≥ version3PerOutputUnlockTimes then tx.outputUnlockTimes.getD i 0
    else tx.unlockTime
  let minHeight := blockHeight + stakingNumLockBlocks ctx.nettype
  if unlockTime < cryptonoteMaxBlockNumber ∧ unlockTime ≥ minHeight then
    transferred + getRegTxStakingOutputContribution ctx tx i derivation
  else transferred

def getContribution (ctx : StakingContext) (hardForkVersion : Nat) (tx : Transaction)
    (blockHeight : UInt64) : Option ParsedTxContribution := do
  let address ← getFullNodeContributorFromTxExtra tx.extra
  let txKey ← getTxSecretKeyFromTxExtra tx.extra
  let derivation ← ctx.crypto.generateKeyDerivation address.viewPublicKey txKey
  if hardForkVersion ≥ networkVersion11InfiniteStaking then
    let proofs ← getTxKeyImageProofsFromTxExtra tx.extra
    let scan := (List.range tx.vout.length).foldl (scanStakingOutput ctx tx derivation address)
      ⟨proofs, [], 0⟩
    pure ⟨address, scan.transferred, txKey, scan.lockedContributions⟩
  else
    let transferred := (List.range tx.vout.length).foldl
      (unlockedStakingOutput ctx tx blockHeight derivation) 0
    pure ⟨address, transferred, txKey, []⟩

/-- What `reg_tx_extract_fields` reads from a registration. -/
structure RegistrationFields where
  addresses : List AccountPublicAddress
  portionsForOperator : UInt64
  portions : List UInt64
  expirationTimestamp : UInt64
  fullNodeKey : PublicKey
  signature : Signature

def regTxExtractFields (tx : Transaction) : Option RegistrationFields := do
  let registration ← getFullNodeRegisterFromTxExtra tx.extra
  let fullNodeKey ← getFullNodePubkeyFromTxExtra tx.extra
  pure
    { addresses := List.zipWith (fun spend view => ⟨spend, view⟩) registration.publicSpendKeys
        registration.publicViewKeys
      portionsForOperator := registration.portionsForOperator.toUInt64
      portions := registration.portions.map Nat.toUInt64
      expirationTimestamp := registration.expirationTimestamp.toUInt64
      fullNodeKey := fullNodeKey
      signature := registration.fullNodeSignature }

/-- The loop of `get_registration_hash` over the portions: what is left of
`portionsLeft`, or `none` at a portion larger than what is left. -/
def portionsLeftAfter : UInt64 → List UInt64 → Option UInt64
  | portionsLeft, [] => some portionsLeft
  | portionsLeft, portion :: rest =>
    if portion > portionsLeft then none else portionsLeftAfter (portionsLeft - portion) rest

/-- `get_registration_hash`: `cn_fast_hash` of the operator's portions, each
address with its portions, and the expiration, laid out as a little-endian
host lays them out. -/
def getRegistrationHash (crypto : Primitives) (addresses : List AccountPublicAddress)
    (operatorPortions : UInt64) (portions : List UInt64) (expirationTimestamp : UInt64) :
    Option Hash :=
  if addresses.length ≠ portions.length then none
  else
    match portionsLeftAfter stakingPortions portions with
    | none => none
    | some _ =>
      let entries := List.zipWith (fun (address : AccountPublicAddress) (portion : UInt64) =>
        address.spendPublicKey.data ++ address.viewPublicKey.data ++
          LittleEndian.toBytes 8 portion.toNat) addresses portions
      some (crypto.cnFastHash (LittleEndian.toBytes 8 operatorPortions.toNat ++ entries.flatten ++
        LittleEndian.toBytes 8 expirationTimestamp.toNat))

/-- One pass of the contributor loop of `is_registration_tx`: the address at
`i` reserves its portions of the staking requirement, or the registration is
refused when the address came before. The reserved amount is the product and
quotient of `portions_to_amount`. -/
def registerContributor (hfVersion : Nat) (addresses : List AccountPublicAddress)
    (portions : List UInt64) (i : Nat) (info : FullNodeInfo) : Option FullNodeInfo :=
  let address := addresses.getD i nullAddress
  if address ∈ addresses.take i then none
  else
    let reserved := portionsToAmount (portions.getD i 0) info.stakingRequirement
    let contributor : Contributor := ⟨getMinFullNodeInfoVersionForHf hfVersion, 0, reserved, address, []⟩
    some { info with contributors := info.contributors ++ [contributor]
                     totalReserved := info.totalReserved + reserved }

/-- `full_node_list::is_registration_tx`: the key and the new node of a
registration at `blockHeight`, the `index`-th transaction of its block. -/
def isRegistrationTx (ctx : StakingContext) (tx : Transaction) (blockTimestamp blockHeight : UInt64)
    (index : UInt32) : Option (PublicKey × FullNodeInfo) := do
  let fields ← regTxExtractFields tx
  let hfVersion := ctx.getHardForkVersion blockHeight
  let hash ← getRegistrationHash ctx.crypto fields.addresses fields.portionsForOperator
    fields.portions fields.expirationTimestamp
  let parsed ← getContribution ctx hfVersion tx blockHeight
  let stakingRequirement := getStakingRequirement ctx.nettype
  let totalNumOfAddr :=
    if parsed.address ∈ fields.addresses then fields.addresses.length else fields.addresses.length + 1
  if fields.portions.length ≠ fields.addresses.length ∨ fields.portions = [] ∨
      !checkFullNodePortions hfVersion fields.portions ∨
      fields.portionsForOperator > stakingPortions ∨
      !ctx.crypto.checkKey fields.fullNodeKey ∨
      !ctx.crypto.checkSignature hash fields.fullNodeKey fields.signature ∨
      fields.expirationTimestamp < blockTimestamp ∨
      parsed.transferred < getMinNodeContribution hfVersion stakingRequirement 0 0 ∨
      totalNumOfAddr > maxNumberOfContributors then
    none
  else
    let info : FullNodeInfo :=
      { version := getMinFullNodeInfoVersionForHf hfVersion
        registrationHeight := blockHeight
        requestedUnlockHeight := 0
        lastRewardBlockHeight := blockHeight
        lastRewardTransactionIndex := index
        contributors := []
        totalContributed := 0
        totalReserved := 0
        stakingRequirement := stakingRequirement
        portionsForOperator := fields.portionsForOperator
        swarmId := queueSwarmId
        operatorAddress := fields.addresses.headD nullAddress }
    let info ← forRange (registerContributor hfVersion fields.addresses fields.portions)
      fields.addresses.length 0 info
    pure (fields.fullNodeKey, info)

/-! ### What a registration reserves -/

/-- The staking accounts of a node, over unbounded integers: `total_reserved`
and `total_contributed` are the sums of what its contributors reserved and put
in, none put in more than it reserved, and the node reserved no more than its
staking requirement. -/
structure Accounted (info : FullNodeInfo) : Prop where
  totalReserved_eq : info.totalReserved.toNat = (info.contributors.map (·.reserved.toNat)).sum
  totalContributed_eq : info.totalContributed.toNat = (info.contributors.map (·.amount.toNat)).sum
  amount_le_reserved : ∀ contributor ∈ info.contributors, contributor.amount ≤ contributor.reserved
  totalContributed_le : info.totalContributed ≤ info.totalReserved
  totalReserved_le : info.totalReserved ≤ info.stakingRequirement

theorem portionsLeftAfter_sum : ∀ {portionsLeft left : UInt64} {portions : List UInt64},
    portionsLeftAfter portionsLeft portions = some left →
      (portions.map UInt64.toNat).sum + left.toNat = portionsLeft.toNat
  | portionsLeft, left, [], passed => by
    cases passed
    simp
  | portionsLeft, left, portion :: rest, passed => by
    rw [portionsLeftAfter] at passed
    split at passed
    · cases passed
    · rename_i fits
      have below : portion ≤ portionsLeft := UInt64.not_lt.mp fits
      have restSum := portionsLeftAfter_sum passed
      rw [UInt64.toNat_sub_of_le _ _ below] at restSum
      have belowNat := UInt64.le_iff_toNat_le.mp below
      simp only [List.map_cons, List.sum_cons]
      omega

theorem getRegistrationHash_portions {crypto : Primitives} {addresses : List AccountPublicAddress}
    {operatorPortions expirationTimestamp : UInt64} {portions : List UInt64} {hash : Hash}
    (signed : getRegistrationHash crypto addresses operatorPortions portions expirationTimestamp =
      some hash) :
    (portions.map UInt64.toNat).sum ≤ stakingPortions.toNat := by
  unfold getRegistrationHash at signed
  split at signed
  · cases signed
  · split at signed
    · cases signed
    · rename_i left passed
      have summed := portionsLeftAfter_sum passed
      omega

/-- What the contributor loop of `is_registration_tx` has built after `count`
passes: a contributor for each address so far, each address once, who reserved
its share of the requirement and put in nothing. -/
structure Registering (requirement : UInt64) (addresses : List AccountPublicAddress)
    (portions : List UInt64) (count : Nat) (info : FullNodeInfo) : Prop where
  stakingRequirement_eq : info.stakingRequirement = requirement
  totalContributed_eq : info.totalContributed = 0
  amount_eq : ∀ contributor ∈ info.contributors, contributor.amount = 0
  totalReserved_eq : info.totalReserved.toNat = (info.contributors.map (·.reserved.toNat)).sum
  reserved_sum : (info.contributors.map (·.reserved.toNat)).sum =
    ((portions.take count).map fun portion =>
      requirement.toNat * portion.toNat / stakingPortions.toNat).sum
  addresses_eq : info.contributors.map (·.address) = addresses.take count
  addresses_nodup : (info.contributors.map (·.address)).Nodup
  portionsForOperator_le : info.portionsForOperator ≤ stakingPortions

theorem registerContributor_registering {hfVersion : Nat} {addresses : List AccountPublicAddress}
    {portions : List UInt64} {requirement : UInt64} {index : Nat} {info next : FullNodeInfo}
    (bounded : (portions.map UInt64.toNat).sum ≤ stakingPortions.toNat)
    (below : index < portions.length) (belowAddresses : index < addresses.length)
    (holds : Registering requirement addresses portions index info)
    (passed : registerContributor hfVersion addresses portions index info = some next) :
    Registering requirement addresses portions (index + 1) next := by
  dsimp only [registerContributor] at passed
  split at passed
  · cases passed
  · rename_i fresh
    cases passed
    have portionBound : portions[index].toNat ≤ stakingPortions.toNat :=
      (List.le_sum_of_mem (List.mem_map_of_mem (List.getElem_mem below))).trans bounded
    have share : (portionsToAmount (portions.getD index 0) info.stakingRequirement).toNat =
        requirement.toNat * portions[index].toNat / stakingPortions.toNat := by
      rw [List.getD_eq_getElem _ _ below, portionsToAmount, holds.stakingRequirement_eq,
        getPortionOfReward_toNat_of_le _ portionBound]
    have summed : ((portions.take (index + 1)).map fun portion =>
        requirement.toNat * portion.toNat / stakingPortions.toNat).sum =
          (info.contributors.map (·.reserved.toNat)).sum +
            requirement.toNat * portions[index].toNat / stakingPortions.toNat := by
      rw [List.take_add_one, List.getElem?_eq_getElem below, Option.toList_some, List.map_append,
        List.sum_append, ← holds.reserved_sum]
      simp
    have fits : ((portions.take (index + 1)).map fun portion =>
        requirement.toNat * portion.toNat / stakingPortions.toNat).sum ≤ requirement.toNat := by
      have prefixBound : ((portions.take (index + 1)).map UInt64.toNat).sum ≤ stakingPortions.toNat :=
        (((List.take_sublist _ _).map _).sum_le_sum fun _ _ => Nat.zero_le _).trans bounded
      have bounded := sum_map_mul_div_le_factor requirement.toNat prefixBound
      rw [List.map_map] at bounded
      exact bounded
    have requirementBound := requirement.toNat_lt
    refine ⟨holds.stakingRequirement_eq, holds.totalContributed_eq, ?_, ?_, ?_, ?_, ?_,
      holds.portionsForOperator_le⟩
    · intro contributor member
      rcases List.mem_append.mp member with old | new
      · exact holds.amount_eq contributor old
      · rw [List.mem_singleton.mp new]
    · rw [UInt64.toNat_add, share, holds.totalReserved_eq, List.map_append, List.sum_append]
      simp only [List.map_cons, List.map_nil, List.sum_cons, List.sum_nil, share, Nat.add_zero]
      omega
    · rw [List.map_append, List.sum_append, summed]
      simp only [List.map_cons, List.map_nil, List.sum_cons, List.sum_nil, share, Nat.add_zero]
    · rw [List.map_append, holds.addresses_eq, List.take_add_one,
        List.getElem?_eq_getElem belowAddresses, Option.toList_some, List.map_singleton,
        List.getD_eq_getElem _ _ belowAddresses]
    · rw [List.map_append, List.map_singleton, List.nodup_append_comm, List.singleton_append,
        List.nodup_cons]
      refine ⟨?_, holds.addresses_nodup⟩
      rw [holds.addresses_eq]
      exact fresh

theorem Registering.accounted {requirement : UInt64} {addresses : List AccountPublicAddress}
    {portions : List UInt64} {info : FullNodeInfo}
    (bounded : (portions.map UInt64.toNat).sum ≤ stakingPortions.toNat)
    (holds : Registering requirement addresses portions portions.length info) : Accounted info := by
  have nothingIn : (info.contributors.map (·.amount.toNat)).sum = 0 := by
    refine List.sum_eq_zero fun amount member => ?_
    obtain ⟨contributor, present, rfl⟩ := List.mem_map.mp member
    rw [holds.amount_eq contributor present]
    rfl
  have reservedBound : (info.contributors.map (·.reserved.toNat)).sum ≤ requirement.toNat := by
    have shares := sum_map_mul_div_le_factor requirement.toNat bounded
    rw [List.map_map] at shares
    rw [holds.reserved_sum, List.take_length]
    exact shares
  refine ⟨holds.totalReserved_eq, ?_, ?_, ?_, ?_⟩
  · rw [holds.totalContributed_eq, nothingIn]
    rfl
  · intro contributor member
    rw [holds.amount_eq contributor member]
    exact UInt64.zero_le
  · rw [holds.totalContributed_eq]
    exact UInt64.zero_le
  · rw [holds.stakingRequirement_eq, UInt64.le_iff_toNat_le, holds.totalReserved_eq]
    exact reservedBound

/-- What a registration that `is_registration_tx` accepts is built from:
portions that add up to at most `STAKING_PORTIONS`, one for each address, and
the contributor loop run over all of them. -/
theorem isRegistrationTx_registering {ctx : StakingContext} {tx : Transaction}
    {blockTimestamp blockHeight : UInt64} {index : UInt32} {key : PublicKey} {info : FullNodeInfo}
    (registered : isRegistrationTx ctx tx blockTimestamp blockHeight index = some (key, info)) :
    ∃ addresses portions, (portions.map UInt64.toNat).sum ≤ stakingPortions.toNat ∧
      Registering (getStakingRequirement ctx.nettype) addresses portions portions.length info := by
  rw [isRegistrationTx] at registered
  obtain ⟨fields, -, registered⟩ := Option.bind_eq_some_iff.mp registered
  obtain ⟨hash, signed, registered⟩ := Option.bind_eq_some_iff.mp registered
  obtain ⟨parsed, -, registered⟩ := Option.bind_eq_some_iff.mp registered
  obtain ⟨checks, registered⟩ := Option.ite_none_left_eq_some.mp registered
  obtain ⟨built, loop, same⟩ := Option.bind_eq_some_iff.mp registered
  cases same
  simp only [not_or] at checks
  have sameLength : fields.portions.length = fields.addresses.length := not_not.mp checks.1
  have bounded := getRegistrationHash_portions signed
  have started : Registering (getStakingRequirement ctx.nettype) fields.addresses fields.portions 0
      { version := getMinFullNodeInfoVersionForHf (ctx.getHardForkVersion blockHeight)
        registrationHeight := blockHeight
        requestedUnlockHeight := 0
        lastRewardBlockHeight := blockHeight
        lastRewardTransactionIndex := index
        contributors := []
        totalContributed := 0
        totalReserved := 0
        stakingRequirement := getStakingRequirement ctx.nettype
        portionsForOperator := fields.portionsForOperator
        swarmId := queueSwarmId
        operatorAddress := fields.addresses.headD nullAddress } :=
    ⟨rfl, rfl, fun _ member => absurd member List.not_mem_nil, rfl, by simp, by simp,
      List.nodup_nil, UInt64.not_lt.mp checks.2.2.2.1⟩
  have finished := forRange_invariant _
    (Registering (getStakingRequirement ctx.nettype) fields.addresses fields.portions)
    (fun _ _ _ (below : _ < fields.addresses.length) holds passed =>
      registerContributor_registering bounded (sameLength ▸ below) below holds passed)
    (Nat.zero_add _).le loop started
  rw [Nat.zero_add, ← sameLength] at finished
  exact ⟨fields.addresses, fields.portions, bounded, finished⟩

/-- Every node that `is_registration_tx` accepts is accounted for: its
contributors reserve their shares of the requirement, which add up to no
more than the requirement since the signed portions do not exceed
`STAKING_PORTIONS`. -/
theorem isRegistrationTx_accounted {ctx : StakingContext} {tx : Transaction}
    {blockTimestamp blockHeight : UInt64} {index : UInt32} {key : PublicKey} {info : FullNodeInfo}
    (registered : isRegistrationTx ctx tx blockTimestamp blockHeight index = some (key, info)) :
    Accounted info := by
  obtain ⟨addresses, portions, bounded, finished⟩ := isRegistrationTx_registering registered
  exact Registering.accounted bounded finished

end Antd.FullNodes
