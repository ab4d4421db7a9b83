import Antd.Cryptonote.Reward
import Antd.Lib.LittleEndian

/-! The coinbase transaction. `construct_miner_tx` (`cryptonote_tx_utils.cpp`)
lays out the miner output at index 0, one output per contributor of the
winning full node at `1..n` and the control output last; the node checks it
in `Blockchain::validate_miner_transaction` (`blockchain.cpp`), which runs the
one registered hook, `full_node_list::validate_miner_tx`, on the full node
outputs. The full node and control outputs are paid to keys derived from the
deterministic key pair of the block height, which the checks derive again. -/

namespace Antd.Cryptonote

open Antd.Crypto Antd.Epee

structure Keypair where
  pub : PublicKey
  sec : SecretKey

structure AntdMinerTxContext where
  nettype : NetworkType
  snodeWinnerKey : PublicKey
  snodeWinnerInfo : List (AccountPublicAddress × UInt64)
  batchedControl : UInt64

def AntdMinerTxContext.fullNodeInfo (context : AntdMinerTxContext) :
    List (AccountPublicAddress × UInt64) :=
  if context.snodeWinnerInfo.isEmpty then nullWinner else context.snodeWinnerInfo

def AntdMinerTxContext.blockRewardContext (context : AntdMinerTxContext) (height fee : UInt64) :
    AntdBlockRewardContext :=
  { height := height, fee := fee, batchedControl := context.batchedControl
    snodeWinnerInfo := context.snodeWinnerInfo }

def cryptonoteMinedMoneyUnlockWindow : UInt64 := 35

/-- `CONTROL_REWARD_INTERVAL_IN_BLOCKS` of `get_config`, which sets the
mainnet value to 100 on the fake chain. `get_config` throws on any other
network type; a running node has one of the four, and `undefined` reads as
mainnet here. -/
def controlRewardIntervalInBlocks : NetworkType → UInt64
  | .testnet => 1000
  | .stagenet => 60 * 60 * 24 * 7 / 120
  | .fakechain => 100
  | .mainnet | .undefined => 60 * 60 * 24 / 120

def heightHasControlOutput (nettype : NetworkType) (hardForkVersion : Nat) (height : UInt64) :
    Bool :=
  if height = 0 then false
  else if hardForkVersion ≤ 9 then true
  else height % controlRewardIntervalInBlocks nettype = 0

/-- What the coinbase code reads from outside the modelled functions: the curve
primitives, and the address `get_account_address_from_str` parses out of
`get_config(nettype, version).CONTROL_WALLET_ADDRESS`. -/
structure MinerTxEnvironment where
  crypto : Primitives
  controlWalletAddress : NetworkType → Nat → AccountPublicAddress

section Keys

variable (crypto : Primitives)

/-- The seed of `get_deterministic_keypair_from_height`: the height's eight
bytes, then zeros. -/
def heightSecretKey (height : UInt64) : SecretKey :=
  ⟨LittleEndian.toBytes 8 height.toNat ++ List.replicate 24 0, by simp [LittleEndian.toBytes]⟩

def getDeterministicKeypairFromHeight (height : UInt64) : Keypair :=
  ⟨(crypto.recoverKeys (heightSecretKey height)).1, (crypto.recoverKeys (heightSecretKey height)).2⟩

def getDeterministicOutputKey (address : AccountPublicAddress) (txKey : Keypair)
    (outputIndex : Nat) : Option PublicKey := do
  let derivation ← crypto.generateKeyDerivation address.viewPublicKey txKey.sec
  crypto.derivePublicKey derivation outputIndex address.spendPublicKey

def validateControlRewardKey (height : UInt64) (controlWalletAddress : AccountPublicAddress)
    (outputIndex : Nat) (outputKey : PublicKey) : Bool :=
  match getDeterministicOutputKey crypto controlWalletAddress
      (getDeterministicKeypairFromHeight crypto height) outputIndex with
  | none => false
  | some correctKey => correctKey == outputKey

end Keys

/-! ### Construction -/

/-- The `tx_extra` of `construct_miner_tx`: the transaction key and the
nonce, sorted, then the height's control key once coins exist, then the
winner. -/
def minerTxExtra (txKey ctrlKey : Keypair) (extraNonce : List UInt8)
    (alreadyGeneratedCoins : UInt64) (snodeWinnerKey : PublicKey) :
    Option (List TxExtraField) := do
  let extra := [TxExtraField.pubKey txKey.pub]
  let extra ← if extraNonce.isEmpty then pure extra else addExtraNonceToTxExtra extra extraNonce
  let extra ← sortTxExtra extra
  let extra := if alreadyGeneratedCoins ≠ 0 then extra ++ [.pubKey ctrlKey.pub] else extra
  pure (extra ++ [.fullNodeWinner snodeWinnerKey])

/-- The loop over `full_node_info`, from output index `1 + index` on; its
derivation is that of `get_deterministic_output_key` with the height's key. -/
def fullNodeOutputs (crypto : Primitives) (ctrlKey : Keypair) (fullNodeTotal : UInt64) :
    Nat → List (AccountPublicAddress × UInt64) → Option (List TxOut)
  | _, [] => some []
  | index, (address, portions) :: rest => do
      let outEphPublicKey ← getDeterministicOutputKey crypto address ctrlKey (1 + index)
      let outputs ← fullNodeOutputs crypto ctrlKey fullNodeTotal (index + 1) rest
      pure (⟨getPortionOfReward portions fullNodeTotal, .toKey outEphPublicKey⟩ :: outputs)

/-- The control distribution block of `construct_miner_tx`: the control
output goes after `vout` once coins exist, unless the share is zero, which is
an error before hard fork 10. -/
def appendControlOutput (crypto : Primitives) (controlWalletAddress : AccountPublicAddress)
    (alreadyGeneratedCoins : UInt64) (hardForkVersion : Nat) (rewardParts : BlockRewardParts)
    (ctrlKey : Keypair) (vout : List TxOut) : Option (List TxOut) :=
  if alreadyGeneratedCoins ≠ 0 then
    if rewardParts.control = 0 then
      if 10 ≤ hardForkVersion then some vout else none
    else
      (getDeterministicOutputKey crypto controlWalletAddress ctrlKey vout.length).map
        fun controlKey => vout ++ [⟨rewardParts.control, .toKey controlKey⟩]
  else some vout

/-- The outputs of `construct_miner_tx`: the miner's, keyed by the random
transaction key, then the full nodes' from hard fork 9, then the control
output. -/
def minerTxOutputs (crypto : Primitives) (controlWalletAddress : AccountPublicAddress)
    (alreadyGeneratedCoins : UInt64) (minerAddress : AccountPublicAddress)
    (hardForkVersion : Nat) (fullNodeInfo : List (AccountPublicAddress × UInt64))
    (rewardParts : BlockRewardParts) (txKey ctrlKey : Keypair) : Option (List TxOut) := do
  let minerKey ← getDeterministicOutputKey crypto minerAddress txKey 0
  let nodeOutputs ← (if 9 ≤ hardForkVersion then
      fullNodeOutputs crypto ctrlKey rewardParts.fullNodeTotal 0 fullNodeInfo else pure [])
  appendControlOutput crypto controlWalletAddress alreadyGeneratedCoins hardForkVersion rewardParts
    ctrlKey (⟨rewardParts.minerReward, .toKey minerKey⟩ :: nodeOutputs)

def sumAmounts (outputs : List TxOut) : UInt64 :=
  outputs.foldl (fun sum out => sum + out.amount) 0

def constructMinerTx (env : MinerTxEnvironment) (height medianWeight alreadyGeneratedCoins
    currentBlockWeight fee : UInt64) (minerAddress : AccountPublicAddress)
    (extraNonce : List UInt8) (hardForkVersion : Nat) (minerTxContext : AntdMinerTxContext)
    (txKey : Keypair) : Option Transaction := do
  let ctrlKey := getDeterministicKeypairFromHeight env.crypto height
  let extra ← minerTxExtra txKey ctrlKey extraNonce alreadyGeneratedCoins
    minerTxContext.snodeWinnerKey
  let rewardParts ← getAntdBlockReward medianWeight currentBlockWeight alreadyGeneratedCoins
    hardForkVersion (minerTxContext.blockRewardContext height fee)
  let vout ← minerTxOutputs env.crypto
    (env.controlWalletAddress minerTxContext.nettype hardForkVersion) alreadyGeneratedCoins
    minerAddress hardForkVersion minerTxContext.fullNodeInfo rewardParts txKey ctrlKey
  if sumAmounts vout ≠ rewardParts.minerReward + rewardParts.control + rewardParts.fullNodePaid then
    none
  else
    pure { version := if 9 ≤ hardForkVersion then 3 else 2
           unlockTime := height + cryptonoteMinedMoneyUnlockWindow
           vin := [.gen height]
           vout := vout
           extra := extra
           outputUnlockTimes := vout.map fun _ => height + cryptonoteMinedMoneyUnlockWindow
           type := .standard }

/-! ### What construction writes -/

theorem minerTxExtra_winner {txKey ctrlKey : Keypair} {extraNonce : List UInt8}
    {alreadyGeneratedCoins : UInt64} {snodeWinnerKey : PublicKey} {extra : List TxExtraField}
    (built : minerTxExtra txKey ctrlKey extraNonce alreadyGeneratedCoins snodeWinnerKey =
      some extra) :
    getFullNodeWinnerFromTxExtra extra = snodeWinnerKey := by
  obtain ⟨start, started, sorted, sortedEq, rfl⟩ : ∃ start, (start = [.pubKey txKey.pub] ∨
      ∃ nonce, start = [.pubKey txKey.pub, .nonce nonce]) ∧ ∃ sorted,
      sortTxExtra start = some sorted ∧
      extra = (if alreadyGeneratedCoins ≠ 0 then sorted ++ [.pubKey ctrlKey.pub] else sorted) ++
        [.fullNodeWinner snodeWinnerKey] := by
    unfold minerTxExtra at built
    by_cases empty : extraNonce.isEmpty = true
    · simp only [empty, if_true, Option.pure_def, Option.bind_eq_bind, Option.bind_some,
        Option.bind_eq_some_iff, Option.some.injEq] at built
      obtain ⟨sorted, sortedEq, rfl⟩ := built
      exact ⟨_, .inl rfl, sorted, sortedEq, rfl⟩
    · simp only [empty, Bool.false_eq_true, if_false, addExtraNonceToTxExtra, Option.pure_def,
        Option.bind_eq_bind] at built
      split at built
      · simp only [Option.bind_some, Option.bind_eq_some_iff, Option.some.injEq] at built
        obtain ⟨sorted, sortedEq, rfl⟩ := built
        exact ⟨_, .inr ⟨extraNonce, rfl⟩, sorted, sortedEq, rfl⟩
      · cases built
  have keysAndNonce : ∀ field ∈ start, ∀ key, field ≠ .fullNodeWinner key := by
    rcases started with rfl | ⟨nonce, rfl⟩ <;> simp
  apply getFullNodeWinnerFromTxExtra_append_winner
  intro field member key
  split at member
  · rcases List.mem_append.mp member with kept | added
    · exact keysAndNonce field (mem_of_sortTxExtra sortedEq kept) key
    · simp only [List.mem_singleton] at added
      subst added
      simp
  · exact keysAndNonce field (mem_of_sortTxExtra sortedEq member) key

theorem fullNodeOutputs_cons {crypto : Primitives} {ctrlKey : Keypair} {fullNodeTotal : UInt64}
    {index : Nat} {address : AccountPublicAddress} {portions : UInt64}
    {rest : List (AccountPublicAddress × UInt64)} {outputs : List TxOut}
    (built : fullNodeOutputs crypto ctrlKey fullNodeTotal index ((address, portions) :: rest) =
      some outputs) :
    ∃ key restOutputs, getDeterministicOutputKey crypto address ctrlKey (1 + index) = some key ∧
      fullNodeOutputs crypto ctrlKey fullNodeTotal (index + 1) rest = some restOutputs ∧
      outputs = ⟨getPortionOfReward portions fullNodeTotal, .toKey key⟩ :: restOutputs := by
  simp only [fullNodeOutputs, Option.bind_eq_bind, Option.pure_def, Option.bind_eq_some_iff,
    Option.some.injEq] at built
  obtain ⟨key, keyed, restOutputs, restBuilt, rfl⟩ := built
  exact ⟨key, restOutputs, keyed, restBuilt, rfl⟩

theorem length_of_fullNodeOutputs {crypto : Primitives} {ctrlKey : Keypair}
    {fullNodeTotal : UInt64} {index : Nat} {info : List (AccountPublicAddress × UInt64)}
    {outputs : List TxOut}
    (built : fullNodeOutputs crypto ctrlKey fullNodeTotal index info = some outputs) :
    outputs.length = info.length := by
  induction info generalizing index outputs with
  | nil =>
      simp only [fullNodeOutputs, Option.some.injEq] at built
      simp [← built]
  | cons winner rest ih =>
      obtain ⟨_, _, _, restBuilt, rfl⟩ := fullNodeOutputs_cons built
      simp [ih restBuilt]

theorem appendControlOutput_eq_some {crypto : Primitives}
    {controlWalletAddress : AccountPublicAddress} {alreadyGeneratedCoins : UInt64}
    {hardForkVersion : Nat} {rewardParts : BlockRewardParts} {ctrlKey : Keypair}
    {vout result : List TxOut}
    (appended : appendControlOutput crypto controlWalletAddress alreadyGeneratedCoins
      hardForkVersion rewardParts ctrlKey vout = some result) :
    ((alreadyGeneratedCoins = 0 ∨ rewardParts.control = 0) ∧ result = vout ∧
        (alreadyGeneratedCoins ≠ 0 → 10 ≤ hardForkVersion)) ∨
      (alreadyGeneratedCoins ≠ 0 ∧ rewardParts.control ≠ 0 ∧ ∃ controlKey,
        getDeterministicOutputKey crypto controlWalletAddress ctrlKey vout.length =
          some controlKey ∧
        result = vout ++ [⟨rewardParts.control, .toKey controlKey⟩]) := by
  unfold appendControlOutput at appended
  by_cases generated : alreadyGeneratedCoins ≠ 0
  · rw [if_pos generated] at appended
    by_cases zero : rewardParts.control = 0
    · rw [if_pos zero] at appended
      by_cases late : 10 ≤ hardForkVersion
      · rw [if_pos late, Option.some.injEq] at appended
        exact .inl ⟨.inr zero, appended.symm, fun _ => late⟩
      · rw [if_neg late] at appended
        cases appended
    · rw [if_neg zero, Option.map_eq_some_iff] at appended
      obtain ⟨controlKey, keyed, rfl⟩ := appended
      exact .inr ⟨generated, zero, controlKey, keyed, rfl⟩
  · rw [if_neg generated, Option.some.injEq] at appended
    exact .inl ⟨.inl (not_not.mp generated), appended.symm, fun nonzero => absurd nonzero generated⟩

theorem minerTxOutputs_eq_some {crypto : Primitives} {controlWalletAddress : AccountPublicAddress}
    {alreadyGeneratedCoins : UInt64} {minerAddress : AccountPublicAddress}
    {hardForkVersion : Nat} {fullNodeInfo : List (AccountPublicAddress × UInt64)}
    {rewardParts : BlockRewardParts} {txKey ctrlKey : Keypair} {vout : List TxOut}
    (built : minerTxOutputs crypto controlWalletAddress alreadyGeneratedCoins minerAddress
      hardForkVersion fullNodeInfo rewardParts txKey ctrlKey = some vout) :
    ∃ minerKey nodeOutputs,
      getDeterministicOutputKey crypto minerAddress txKey 0 = some minerKey ∧
      (if 9 ≤ hardForkVersion then
        fullNodeOutputs crypto ctrlKey rewardParts.fullNodeTotal 0 fullNodeInfo
        else some []) = some nodeOutputs ∧
      appendControlOutput crypto controlWalletAddress alreadyGeneratedCoins hardForkVersion
        rewardParts ctrlKey (⟨rewardParts.minerReward, .toKey minerKey⟩ :: nodeOutputs) =
        some vout := by
  simp only [minerTxOutputs, Option.bind_eq_bind, Option.pure_def, Option.bind_eq_some_iff]
    at built
  obtain ⟨minerKey, minerKeyed, nodeOutputs, nodesBuilt, appended⟩ := built
  exact ⟨minerKey, nodeOutputs, minerKeyed, nodesBuilt, appended⟩

theorem constructMinerTx_eq_some {env : MinerTxEnvironment}
    {height medianWeight alreadyGeneratedCoins currentBlockWeight fee : UInt64}
    {minerAddress : AccountPublicAddress} {extraNonce : List UInt8} {hardForkVersion : Nat}
    {minerTxContext : AntdMinerTxContext} {txKey : Keypair} {tx : Transaction}
    (constructed : constructMinerTx env height medianWeight alreadyGeneratedCoins
      currentBlockWeight fee minerAddress extraNonce hardForkVersion minerTxContext txKey =
      some tx) :
    ∃ extra rewardParts vout,
      minerTxExtra txKey (getDeterministicKeypairFromHeight env.crypto height) extraNonce
        alreadyGeneratedCoins minerTxContext.snodeWinnerKey = some extra ∧
      getAntdBlockReward medianWeight currentBlockWeight alreadyGeneratedCoins hardForkVersion
        (minerTxContext.blockRewardContext height fee) = some rewardParts ∧
      minerTxOutputs env.crypto (env.controlWalletAddress minerTxContext.nettype hardForkVersion)
        alreadyGeneratedCoins minerAddress hardForkVersion minerTxContext.fullNodeInfo rewardParts
        txKey (getDeterministicKeypairFromHeight env.crypto height) = some vout ∧
      sumAmounts vout = rewardParts.minerReward + rewardParts.control + rewardParts.fullNodePaid ∧
      tx = { version := if 9 ≤ hardForkVersion then 3 else 2
             unlockTime := height + cryptonoteMinedMoneyUnlockWindow
             vin := [.gen height]
             vout := vout
             extra := extra
             outputUnlockTimes := vout.map fun _ => height + cryptonoteMinedMoneyUnlockWindow
             type := .standard } := by
  simp only [constructMinerTx, Option.bind_eq_bind, Option.pure_def, Option.bind_eq_some_iff]
    at constructed
  obtain ⟨extra, extraBuilt, rewardParts, produced, vout, outputsBuilt, checked⟩ := constructed
  split at checked
  · cases checked
  · rename_i summed
    rw [Option.some.injEq] at checked
    exact ⟨extra, rewardParts, vout, extraBuilt, produced, outputsBuilt, not_not.mp summed,
      checked.symm⟩

/-! ### Validation -/

/-- `get_block_height`: the height of the coinbase input, 0 when the miner
transaction has no single such input. -/
def getBlockHeight (minerTx : Transaction) : UInt64 :=
  match minerTx.vin with
  | [.gen height] => height
  | _ => 0

/-- The loop of `full_node_list::validate_miner_tx`, from output index
`index + 1` on. -/
def checkFullNodeOutputs (crypto : Primitives) (ctrlKey : Keypair) (totalFullNodeReward : UInt64)
    (vout : List TxOut) : Nat → List (AccountPublicAddress × UInt64) → Bool
  | _, [] => true
  | index, (address, portions) :: rest =>
      match vout[index + 1]? with
      | none => false
      | some out =>
          if out.amount ≠ getPortionOfReward portions totalFullNodeReward then false
          else
            match out.target with
            | .toKey key =>
                match getDeterministicOutputKey crypto address ctrlKey (index + 1) with
                | none => false
                | some outEphPublicKey =>
                    if key ≠ outEphPublicKey then false
                    else checkFullNodeOutputs crypto ctrlKey totalFullNodeReward vout (index + 1) rest
            | _ => false

/-- `full_node_list::validate_miner_tx`: `winner` is what `select_winner`
returns and `addressesAndPortions` what `get_winner_addresses_and_portions`
returns. The caller has checked that there are outputs. -/
def validateMinerTx (crypto : Primitives) (winner : PublicKey)
    (addressesAndPortions : List (AccountPublicAddress × UInt64)) (minerTx : Transaction)
    (height : UInt64) (hardForkVersion : Nat) (rewardParts : BlockRewardParts) : Bool :=
  if hardForkVersion < 9 then true
  else
    let totalFullNodeReward := fullNodeRewardFormula rewardParts.originalBaseReward hardForkVersion
    if getFullNodeWinnerFromTxExtra minerTx.extra ≠ winner then false
    else if minerTx.vout.length - 1 < addressesAndPortions.length then false
    else
      checkFullNodeOutputs crypto (getDeterministicKeypairFromHeight crypto height)
        totalFullNodeReward minerTx.vout 0 addressesAndPortions

/-- The control output block of `validate_miner_transaction`; a last output
that is not `txout_to_key` makes `boost::get` throw, which rejects the block. -/
def checkControlOutput (crypto : Primitives) (controlWalletAddress : AccountPublicAddress)
    (nettype : NetworkType) (minerTx : Transaction) (majorVersion : Nat)
    (chainHeight alreadyGeneratedCoins : UInt64) (version : Nat) (rewardParts : BlockRewardParts) :
    Bool :=
  if alreadyGeneratedCoins ≠ 0 ∧ heightHasControlOutput nettype majorVersion (getBlockHeight minerTx)
  then
    if 10 ≤ version ∧ rewardParts.control = 0 then false
    else
      match minerTx.vout.getLast? with
      | none => false
      | some last =>
          if last.amount ≠ rewardParts.control then false
          else
            match last.target with
            | .toKey key =>
                validateControlRewardKey crypto chainHeight controlWalletAddress
                  (minerTx.vout.length - 1) key
            | _ => false
  else true

/-- `Blockchain::validate_miner_transaction`, returning the `base_reward` and
`partial_block_reward` it writes back. `majorVersion` is the block's,
`chainHeight` is `m_db->height()`, `medianWeight` the median of the last
block weights, `batchedControl` what `calc_batched_control_reward` computes,
and `winner` and `addressesAndPortions` what the full node list's hook reads. -/
def validateMinerTransaction (env : MinerTxEnvironment) (nettype : NetworkType)
    (minerTx : Transaction) (majorVersion : Nat) (chainHeight : UInt64)
    (cumulativeBlockWeight fee alreadyGeneratedCoins medianWeight batchedControl : UInt64)
    (version : Nat) (winner : PublicKey)
    (addressesAndPortions : List (AccountPublicAddress × UInt64)) : Option (UInt64 × Bool) :=
  let moneyInUse := sumAmounts minerTx.vout
  if minerTx.vout.isEmpty then none
  else
    match getAntdBlockReward medianWeight cumulativeBlockWeight alreadyGeneratedCoins version
        { height := getBlockHeight minerTx, fee := fee, batchedControl := batchedControl
          snodeWinnerInfo := [] } with
    | none => none
    | some rewardParts =>
        if !validateMinerTx env.crypto winner addressesAndPortions minerTx chainHeight version
            rewardParts then none
        else if !checkControlOutput env.crypto (env.controlWalletAddress nettype version) nettype
            minerTx majorVersion chainHeight alreadyGeneratedCoins version rewardParts then none
        else
          let baseReward := rewardParts.adjustedBaseReward
          if baseReward + fee < moneyInUse then none
          else if ¬(moneyInUse - fee ≤ baseReward) then none
          else some (moneyInUse - fee, baseReward ≠ moneyInUse)

theorem checkFullNodeOutputs_of_fullNodeOutputs {crypto : Primitives} {ctrlKey : Keypair}
    {fullNodeTotal : UInt64} {index : Nat} {info : List (AccountPublicAddress × UInt64)}
    {outputs : List TxOut}
    (built : fullNodeOutputs crypto ctrlKey fullNodeTotal index info = some outputs)
    (before after : List TxOut) (placed : before.length = index + 1) :
    checkFullNodeOutputs crypto ctrlKey fullNodeTotal (before ++ outputs ++ after) index info =
      true := by
  induction info generalizing index outputs before with
  | nil => rfl
  | cons winner rest ih =>
      obtain ⟨address, portions⟩ := winner
      obtain ⟨key, restOutputs, keyed, restBuilt, rfl⟩ := fullNodeOutputs_cons built
      have output : (before ++ (⟨getPortionOfReward portions fullNodeTotal, .toKey key⟩ ::
          restOutputs) ++ after)[index + 1]? =
          some ⟨getPortionOfReward portions fullNodeTotal, .toKey key⟩ := by
        rw [List.append_assoc, List.getElem?_append_right (by omega), placed, Nat.sub_self]
        rfl
      rw [Nat.add_comm] at keyed
      have later := ih restBuilt
        (before ++ [⟨getPortionOfReward portions fullNodeTotal, .toKey key⟩]) (by simp [placed])
      simp only [List.append_assoc, List.cons_append] at later
      simp only [checkFullNodeOutputs, output, keyed, ne_eq, not_true_eq_false, if_false]
      simpa using later

theorem validateMinerTx_of_layout {crypto : Primitives} {winner : PublicKey}
    {addressesAndPortions : List (AccountPublicAddress × UInt64)} {minerTx : Transaction}
    {height : UInt64} {hardForkVersion : Nat} {rewardParts : BlockRewardParts}
    {minerOutput : TxOut} {nodeOutputs controlOutputs : List TxOut}
    (named : getFullNodeWinnerFromTxExtra minerTx.extra = winner)
    (layout : minerTx.vout = minerOutput :: (nodeOutputs ++ controlOutputs))
    (built : 9 ≤ hardForkVersion →
      fullNodeOutputs crypto (getDeterministicKeypairFromHeight crypto height)
        (fullNodeRewardFormula rewardParts.originalBaseReward hardForkVersion) 0
        addressesAndPortions = some nodeOutputs) :
    validateMinerTx crypto winner addressesAndPortions minerTx height hardForkVersion rewardParts =
      true := by
  unfold validateMinerTx
  by_cases early : hardForkVersion < 9
  · rw [if_pos early]
  · rw [if_neg early]
    have nodesBuilt := built (by omega)
    have enough : addressesAndPortions.length ≤ minerTx.vout.length - 1 := by
      rw [layout, List.length_cons, List.length_append, length_of_fullNodeOutputs nodesBuilt]
      omega
    simp only [named, ne_eq, not_true_eq_false, if_false]
    rw [if_neg (by omega), layout]
    exact checkFullNodeOutputs_of_fullNodeOutputs nodesBuilt [minerOutput] controlOutputs rfl

theorem checkControlOutput_of_last {crypto : Primitives}
    {controlWalletAddress : AccountPublicAddress} {nettype : NetworkType} {minerTx : Transaction}
    {majorVersion : Nat} {chainHeight alreadyGeneratedCoins : UInt64} {version : Nat}
    {rewardParts : BlockRewardParts} (key : PublicKey)
    (paid : ¬(10 ≤ version ∧ rewardParts.control = 0))
    (last : minerTx.vout.getLast? = some ⟨rewardParts.control, .toKey key⟩)
    (keyed : getDeterministicOutputKey crypto controlWalletAddress
      (getDeterministicKeypairFromHeight crypto chainHeight) (minerTx.vout.length - 1) = some key) :
    checkControlOutput crypto controlWalletAddress nettype minerTx majorVersion chainHeight
      alreadyGeneratedCoins version rewardParts = true := by
  unfold checkControlOutput validateControlRewardKey
  by_cases checked : alreadyGeneratedCoins ≠ 0 ∧
      heightHasControlOutput nettype majorVersion (getBlockHeight minerTx) = true
  · rw [if_pos checked, if_neg paid, last]
    simp [keyed]
  · rw [if_neg checked]

theorem validateMinerTransaction_eq_some {env : MinerTxEnvironment} {nettype : NetworkType}
    {minerTx : Transaction} {majorVersion : Nat} {chainHeight : UInt64}
    {cumulativeBlockWeight fee alreadyGeneratedCoins medianWeight batchedControl : UInt64}
    {version : Nat} {winner : PublicKey}
    {addressesAndPortions : List (AccountPublicAddress × UInt64)} {rewardParts : BlockRewardParts}
    (nonempty : minerTx.vout ≠ [])
    (produced : getAntdBlockReward medianWeight cumulativeBlockWeight alreadyGeneratedCoins version
      { height := getBlockHeight minerTx, fee := fee, batchedControl := batchedControl
        snodeWinnerInfo := [] } = some rewardParts)
    (hooked : validateMinerTx env.crypto winner addressesAndPortions minerTx chainHeight version
      rewardParts = true)
    (controlled : checkControlOutput env.crypto (env.controlWalletAddress nettype version) nettype
      minerTx majorVersion chainHeight alreadyGeneratedCoins version rewardParts = true)
    (paidOut : sumAmounts minerTx.vout = rewardParts.adjustedBaseReward + fee) :
    validateMinerTransaction env nettype minerTx majorVersion chainHeight cumulativeBlockWeight fee
      alreadyGeneratedCoins medianWeight batchedControl version winner addressesAndPortions =
      some (rewardParts.adjustedBaseReward, decide (fee ≠ 0)) := by
  have notEmpty : minerTx.vout.isEmpty = false := List.isEmpty_eq_false_iff.mpr nonempty
  unfold validateMinerTransaction
  simp [notEmpty, produced, hooked, controlled, paidOut]

theorem validateMinerTransaction_constructMinerTx {env : MinerTxEnvironment}
    {height medianWeight alreadyGeneratedCoins currentBlockWeight fee : UInt64}
    {minerAddress : AccountPublicAddress} {extraNonce : List UInt8} {hardForkVersion : Nat}
    {minerTxContext : AntdMinerTxContext} {txKey : Keypair} {tx : Transaction}
    {rewardParts : BlockRewardParts}
    (produced : getAntdBlockReward medianWeight currentBlockWeight alreadyGeneratedCoins
      hardForkVersion (minerTxContext.blockRewardContext height fee) = some rewardParts)
    (constructed : constructMinerTx env height medianWeight alreadyGeneratedCoins
      currentBlockWeight fee minerAddress extraNonce hardForkVersion minerTxContext txKey = some tx)
    (generated : alreadyGeneratedCoins ≠ 0)
    (paysControl : 10 ≤ hardForkVersion →
      heightHasControlOutput minerTxContext.nettype hardForkVersion height = true →
      minerTxContext.batchedControl ≠ 0) :
    validateMinerTransaction env minerTxContext.nettype tx hardForkVersion height
      currentBlockWeight fee alreadyGeneratedCoins medianWeight minerTxContext.batchedControl
      hardForkVersion minerTxContext.snodeWinnerKey minerTxContext.fullNodeInfo =
      some (rewardParts.adjustedBaseReward, decide (fee ≠ 0)) := by
  obtain ⟨extra, parts, vout, extraBuilt, producedAgain, outputsBuilt, summed, rfl⟩ :=
    constructMinerTx_eq_some constructed
  have same : rewardParts = parts := Option.some.inj (produced.symm.trans producedAgain)
  subst same
  obtain ⟨minerKey, nodeOutputs, -, nodesBuilt, appended⟩ := minerTxOutputs_eq_some outputsBuilt
  obtain ⟨validatorParts, validated, sameOriginal, sameAdjusted, sameControl, -⟩ :=
    getAntdBlockReward_other_winners produced []
  obtain ⟨_, -, -, original, total, -, -, -, late, -⟩ := getAntdBlockReward_eq_some produced generated
  obtain ⟨controlOutputs, layout⟩ : ∃ controlOutputs,
      vout = ⟨rewardParts.minerReward, .toKey minerKey⟩ :: (nodeOutputs ++ controlOutputs) := by
    rcases appendControlOutput_eq_some appended with ⟨-, rfl, -⟩ | ⟨-, -, -, -, rfl⟩
    · exact ⟨[], by rw [List.append_nil]⟩
    · exact ⟨_, List.cons_append⟩
  rw [← sameAdjusted]
  apply validateMinerTransaction_eq_some
  · simp [layout]
  · exact validated
  · refine validateMinerTx_of_layout (minerTxExtra_winner extraBuilt) layout (fun forked => ?_)
    rw [if_pos forked, total, ← original] at nodesBuilt
    rw [sameOriginal]
    exact nodesBuilt
  · by_cases due : heightHasControlOutput minerTxContext.nettype hardForkVersion height = true
    · rcases appendControlOutput_eq_some appended with
        ⟨unpaid, -, forked⟩ | ⟨-, nonzero, controlKey, controlKeyed, rfl⟩
      · have zero : rewardParts.control = 0 := unpaid.resolve_left generated
        have forked := forked generated
        exact absurd ((late forked).1.symm.trans zero) (paysControl forked due)
      · refine checkControlOutput_of_last controlKey
          (fun zero => nonzero (sameControl ▸ zero.2)) ?_ ?_
        · simp only [sameControl, List.getLast?_concat]
        · simpa [Nat.add_comm] using controlKeyed
    · unfold checkControlOutput
      rw [if_neg (fun checked => due checked.2)]
  · rw [summed, sameAdjusted, minerReward_add_eq produced generated]
    rfl

/-- The block reward split of every block after hard fork 9 is exact, for a
winner list of at most `STAKING_PORTIONS` and an adjusted base reward that
fits in 64 bits; and the miner transaction built from it pays out that split
and passes `validate_miner_transaction` on a node whose full node list has
the context's winner, unless a control payout height after hard fork 10 has
no batched control to pay. -/
theorem blockReward_split_and_minerTx_accepted (env : MinerTxEnvironment)
    (height medianWeight alreadyGeneratedCoins currentBlockWeight fee : UInt64)
    (minerAddress : AccountPublicAddress) (extraNonce : List UInt8) (hardForkVersion : Nat)
    (minerTxContext : AntdMinerTxContext) (txKey : Keypair) (rewardParts : BlockRewardParts)
    (produced : getAntdBlockReward medianWeight currentBlockWeight alreadyGeneratedCoins
      hardForkVersion (minerTxContext.blockRewardContext height fee) = some rewardParts)
    (generated : alreadyGeneratedCoins ≠ 0) (forked : 9 ≤ hardForkVersion)
    (portionsBound : portionsOf minerTxContext.snodeWinnerInfo ≤ stakingPortions.toNat)
    (adjustedFits : 10 ≤ hardForkVersion →
      rewardParts.originalBaseReward.toNat - rewardParts.originalBaseReward.toNat / 6 +
        minerTxContext.batchedControl.toNat < 2 ^ 64)
    (paysControl : 10 ≤ hardForkVersion →
      heightHasControlOutput minerTxContext.nettype hardForkVersion height = true →
      minerTxContext.batchedControl ≠ 0) :
    rewardParts.fullNodePaid.toNat ≤ rewardParts.fullNodeTotal.toNat ∧
      rewardParts.fullNodeTotal.toNat ≤ rewardParts.originalBaseReward.toNat ∧
      rewardParts.baseMiner.toNat + rewardParts.control.toNat + rewardParts.fullNodePaid.toNat =
        rewardParts.adjustedBaseReward.toNat ∧
      ∀ tx, constructMinerTx env height medianWeight alreadyGeneratedCoins currentBlockWeight fee
          minerAddress extraNonce hardForkVersion minerTxContext txKey = some tx →
        sumAmounts tx.vout =
          rewardParts.minerReward + rewardParts.control + rewardParts.fullNodePaid ∧
        validateMinerTransaction env minerTxContext.nettype tx hardForkVersion height
          currentBlockWeight fee alreadyGeneratedCoins medianWeight minerTxContext.batchedControl
          hardForkVersion minerTxContext.snodeWinnerKey minerTxContext.fullNodeInfo =
          some (rewardParts.adjustedBaseReward, decide (fee ≠ 0)) := by
  obtain ⟨paidLe, totalLe, exact⟩ :=
    getAntdBlockReward_split produced generated forked portionsBound adjustedFits
  refine ⟨paidLe, totalLe, exact, fun tx constructed => ⟨?_, ?_⟩⟩
  · obtain ⟨_, parts, _, _, producedAgain, _, summed, rfl⟩ := constructMinerTx_eq_some constructed
    have same : rewardParts = parts := Option.some.inj (produced.symm.trans producedAgain)
    subst same
    exact summed
  · exact validateMinerTransaction_constructMinerTx produced constructed generated paysControl

/-- Primitives under which every key derivation succeeds, to run the coinbase
code at fixed inputs. -/
def deriveAllEnvironment : MinerTxEnvironment :=
  ⟨⟨fun _ => nullHash, fun _ _ _ => true, fun _ => true, fun _ _ => some nullPkey,
    fun _ _ _ => some nullPkey, fun secret => (nullPkey, secret)⟩, fun _ _ => nullAddress⟩

-- the 128 rounds of `div128_64` in the full node share nest deeper than the default
set_option maxRecDepth 2000 in
theorem blockReward_split_and_minerTx_accepted_at_payout :
    ∃ tx, constructMinerTx deriveAllEnvironment 720 300000 1 0 5 nullAddress [] 10
        ⟨.mainnet, nullPkey, [], 500 * coin⟩ ⟨nullPkey, nullPkey⟩ = some tx ∧
      validateMinerTransaction deriveAllEnvironment .mainnet tx 10 720 0 5 1 300000 (500 * coin)
        10 nullPkey nullWinner = some (1000 * coin, true) := by
  refine ⟨_, rfl, ?_⟩
  have accepted := blockReward_split_and_minerTx_accepted deriveAllEnvironment
    720 300000 1 0 5 nullAddress [] 10 ⟨.mainnet, nullPkey, [], 500 * coin⟩ ⟨nullPkey, nullPkey⟩
    _ rfl (by decide) (by decide) (by decide) (by decide) (by decide)
  exact (accepted.2.2.2 _ rfl).2

set_option maxRecDepth 2000 in
/-- A batched control amount near `2^64` wraps the adjusted base reward, and a
mainnet payout height after hard fork 10 with nothing batched gets a miner
transaction without a control output, which the check then rejects. -/
theorem blockReward_wraps_and_payout_rejected :
    (∃ parts, getAntdBlockReward 300000 0 1 10 ⟨720, 0, 0xFFFFFFFFFFFFFFFF, []⟩ = some parts ∧
      parts.baseMiner.toNat + parts.control.toNat + parts.fullNodePaid.toNat ≠
        parts.adjustedBaseReward.toNat) ∧
    ∃ tx, constructMinerTx deriveAllEnvironment 720 300000 1 0 0 nullAddress [] 10
        ⟨.mainnet, nullPkey, [], 0⟩ ⟨nullPkey, nullPkey⟩ = some tx ∧
      validateMinerTransaction deriveAllEnvironment .mainnet tx 10 720 0 0 1 300000 0 10 nullPkey
        nullWinner = none :=
  ⟨⟨_, rfl, by decide⟩, _, rfl, rfl⟩

end Antd.Cryptonote
