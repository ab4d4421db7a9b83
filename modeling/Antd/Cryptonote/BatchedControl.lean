import Antd.Cryptonote.MinerTx
import Antd.Cryptonote.HardFork

/-! The batched control payout of `Blockchain::calc_batched_control_reward`
(`blockchain.cpp`). From hard fork 10 a block pays no control share of its
own; every `CONTROL_REWARD_INTERVAL_IN_BLOCKS`-th block pays the shares the
blocks of the interval before it withheld. The withheld amounts are not
stored: `derive_control_from_block_reward` (`cryptonote_tx_utils.cpp`) works
each one out again from the full node outputs of a block's miner
transaction, taking twice their sum as the block's base reward. -/

namespace Antd.Cryptonote

open Antd.Crypto

/-- What the payout code reads of a block. -/
structure MinedBlock where
  majorVersion : Nat
  minerTx : Transaction
  deriving DecidableEq

def blockHasControlOutput (nettype : NetworkType) (block : MinedBlock) : Bool :=
  heightHasControlOutput nettype block.majorVersion (getBlockHeight block.minerTx)

/-- `derive_control_from_block_reward`: the control share of a base reward
twice the full node outputs, the outputs after the miner's at index 0 and
before the control output where the block has one. Its sanity check returns
`false`, that is 0, when the block reward worked out so is more than the
block pays. -/
def deriveControlFromBlockReward (nettype : NetworkType) (block : MinedBlock) : UInt64 :=
  let voutEnd :=
    if blockHasControlOutput nettype block then block.minerTx.vout.length - 1
    else block.minerTx.vout.length
  let snodeReward := sumAmounts ((block.minerTx.vout.take voutEnd).drop 1)
  let baseReward := snodeReward * fullNodeBaseRewardDivisor
  let control := controlRewardFormula baseReward
  let blockReward := baseReward - control
  if blockReward ≤ sumAmounts block.minerTx.vout then control else 0

def getBlocks (blocks : List MinedBlock) (startOffset count : Nat) : Option (List MinedBlock) :=
  if startOffset ≥ blocks.length then none else some ((blocks.drop startOffset).take count)

/-- The loop of `calc_batched_control_reward`: the control shares the blocks
of major version 10 on withheld, as `derive_control_from_block_reward` works
them out, summed in `uint64_t`. -/
def batchedControlOf (nettype : NetworkType) (window : List MinedBlock) : UInt64 :=
  window.foldl (fun reward block =>
    if block.majorVersion ≥ 10 then reward + deriveControlFromBlockReward nettype block
    else reward) 0

/-- `Blockchain::calc_batched_control_reward` over the main chain `blocks`,
genesis first; `none` where it returns `false`. -/
def calcBatchedControlReward (cfg : HardForkConfig) (nettype : NetworkType)
    (blocks : List MinedBlock) (height : UInt64) : Option UInt64 :=
  let hardForkVersion := (cfg.getIdealVersion height.toNat).toNat
  if hardForkVersion ≤ 9 then some 0
  else if !heightHasControlOutput nettype hardForkVersion height then some 0
  else
    let interval := controlRewardIntervalInBlocks nettype
    let (startHeight, numBlocks) :=
      if height < interval then ((0 : UInt64), height) else (height - interval, interval)
    (getBlocks blocks startHeight.toNat numBlocks.toNat).map (batchedControlOf nettype)

theorem calcBatchedControlReward_of_payout {cfg : HardForkConfig} {nettype : NetworkType}
    {blocks : List MinedBlock} {height : UInt64}
    (forked : ¬(cfg.getIdealVersion height.toNat).toNat ≤ 9)
    (payout : heightHasControlOutput nettype (cfg.getIdealVersion height.toNat).toNat height) :
    controlRewardIntervalInBlocks nettype ≤ height ∧
      calcBatchedControlReward cfg nettype blocks height =
        (getBlocks blocks (height - controlRewardIntervalInBlocks nettype).toNat
          (controlRewardIntervalInBlocks nettype).toNat).map (batchedControlOf nettype) := by
  unfold heightHasControlOutput at payout
  rw [if_neg forked] at payout
  split at payout
  · cases payout
  · rename_i nonzero
    have multiple : height % controlRewardIntervalInBlocks nettype = 0 := by simpa using payout
    have above : controlRewardIntervalInBlocks nettype ≤ height := by
      rw [UInt64.le_iff_toNat_le]
      have divides : height.toNat % (controlRewardIntervalInBlocks nettype).toNat = 0 := by
        rw [← UInt64.toNat_mod, multiple, UInt64.toNat_zero]
      have heightPos : 0 < height.toNat :=
        Nat.pos_of_ne_zero fun zero => nonzero (UInt64.toNat_inj.mp zero)
      exact Nat.le_of_dvd heightPos (Nat.dvd_of_mod_eq_zero divides)
    refine ⟨above, ?_⟩
    unfold calcBatchedControlReward
    simp only [if_neg forked, heightHasControlOutput, if_neg nonzero, multiple,
      if_neg (UInt64.not_lt.mpr above)]
    rfl

/-! ### Construction at every height

Under `deriveAllEnvironment` the height enters a miner transaction only
through its unlock times and its coinbase input: the key derivations succeed
whatever the height's secret key is, and the reward does not read the height. -/

def Transaction.atHeight (tx : Transaction) (height : UInt64) : Transaction :=
  { tx with
    unlockTime := height + cryptonoteMinedMoneyUnlockWindow
    vin := [.gen height]
    outputUnlockTimes := tx.vout.map fun _ => height + cryptonoteMinedMoneyUnlockWindow }

theorem getDeterministicOutputKey_deriveAll (address : AccountPublicAddress) (key : Keypair)
    (index : Nat) :
    getDeterministicOutputKey deriveAllEnvironment.crypto address key index = some nullPkey :=
  rfl

theorem fullNodeOutputs_deriveAll (ctrlKey : Keypair) (total : UInt64) :
    ∀ (index : Nat) (info : List (AccountPublicAddress × UInt64)),
      fullNodeOutputs deriveAllEnvironment.crypto ctrlKey total index info =
        some (info.map fun winner => ⟨getPortionOfReward winner.2 total, .toKey nullPkey⟩) := by
  intro index info
  induction info generalizing index with
  | nil => rfl
  | cons winner rest ih =>
      simp [fullNodeOutputs, getDeterministicOutputKey_deriveAll, ih]

theorem minerTxOutputs_deriveAll_ctrlKey (controlWalletAddress : AccountPublicAddress)
    (alreadyGeneratedCoins : UInt64) (minerAddress : AccountPublicAddress) (hardForkVersion : Nat)
    (fullNodeInfo : List (AccountPublicAddress × UInt64)) (rewardParts : BlockRewardParts)
    (txKey ctrlKey otherKey : Keypair) :
    minerTxOutputs deriveAllEnvironment.crypto controlWalletAddress alreadyGeneratedCoins
        minerAddress hardForkVersion fullNodeInfo rewardParts txKey ctrlKey =
      minerTxOutputs deriveAllEnvironment.crypto controlWalletAddress alreadyGeneratedCoins
        minerAddress hardForkVersion fullNodeInfo rewardParts txKey otherKey := by
  simp only [minerTxOutputs, appendControlOutput, fullNodeOutputs_deriveAll,
    getDeterministicOutputKey_deriveAll]

theorem getAntdBlockReward_blockRewardContext_height (medianWeight currentBlockWeight
    alreadyGeneratedCoins : UInt64) (hardForkVersion : Nat) (minerTxContext : AntdMinerTxContext)
    (height fee : UInt64) :
    getAntdBlockReward medianWeight currentBlockWeight alreadyGeneratedCoins hardForkVersion
        (minerTxContext.blockRewardContext height fee) =
      getAntdBlockReward medianWeight currentBlockWeight alreadyGeneratedCoins hardForkVersion
        (minerTxContext.blockRewardContext 0 fee) :=
  rfl

theorem constructMinerTx_deriveAll_atHeight (height medianWeight alreadyGeneratedCoins
    currentBlockWeight fee : UInt64) (minerAddress : AccountPublicAddress)
    (extraNonce : List UInt8) (hardForkVersion : Nat) (minerTxContext : AntdMinerTxContext)
    (txKey : Keypair) :
    constructMinerTx deriveAllEnvironment height medianWeight alreadyGeneratedCoins
        currentBlockWeight fee minerAddress extraNonce hardForkVersion minerTxContext txKey =
      (constructMinerTx deriveAllEnvironment 0 medianWeight alreadyGeneratedCoins
        currentBlockWeight fee minerAddress extraNonce hardForkVersion minerTxContext txKey).map
        (Transaction.atHeight · height) := by
  have extraSame :
      minerTxExtra txKey (getDeterministicKeypairFromHeight deriveAllEnvironment.crypto height)
        extraNonce alreadyGeneratedCoins minerTxContext.snodeWinnerKey =
      minerTxExtra txKey (getDeterministicKeypairFromHeight deriveAllEnvironment.crypto 0)
        extraNonce alreadyGeneratedCoins minerTxContext.snodeWinnerKey := rfl
  simp only [constructMinerTx, extraSame, getAntdBlockReward_blockRewardContext_height _ _ _ _ _ height,
    minerTxOutputs_deriveAll_ctrlKey _ _ _ _ _ _ _
      (getDeterministicKeypairFromHeight deriveAllEnvironment.crypto height)
      (getDeterministicKeypairFromHeight deriveAllEnvironment.crypto 0),
    Option.bind_eq_bind, Option.pure_def, Option.map_bind, Function.comp_def]
  congr 1
  funext extra
  congr 1
  funext parts
  congr 1
  funext vout
  split
  · rfl
  · rfl

/-! ### A chain paid to a split stake

A fake chain past hard fork 12 whose blocks pay the full reward of 600 coins
to a full node staked a quarter and one portion by one contributor and the
rest by another. Each share is rounded down, so the full nodes are paid one
atomic unit less than their half of the base reward, and the control share
worked out again from that is one unit less than the block withheld. -/

def splitStakeContext : AntdMinerTxContext :=
  ⟨.fakechain, nullPkey, [(nullAddress, 0x4000000000000000), (nullAddress, 0xbffffffffffffffc)], 0⟩

def splitStakeMinerTx : Transaction :=
  { version := 3
    unlockTime := cryptonoteMinedMoneyUnlockWindow
    vin := [.gen 0]
    vout := [⟨200000000001, .toKey nullPkey⟩, ⟨75000000000, .toKey nullPkey⟩,
      ⟨224999999999, .toKey nullPkey⟩]
    extra := [.pubKey nullPkey, .pubKey nullPkey, .fullNodeWinner nullPkey]
    outputUnlockTimes := [35, 35, 35]
    type := .standard }

/-- The fake chain up to height 100: its genesis block, then the split stake's
blocks of major version 12 at the heights 1 to 99. -/
def splitStakeChain : List MinedBlock :=
  ⟨1, .null⟩ :: (List.range' 1 99).map fun height =>
    ⟨12, splitStakeMinerTx.atHeight (UInt64.ofNat height)⟩

-- the 128 rounds of `div128_64` in each share nest deeper than the default
set_option maxRecDepth 4000 in
/-- Every block of the chain is what `construct_miner_tx` returns at its
height, and withholds a control share of 100 coins; at the payout height 100
the 99 blocks of the interval pay back 99 times one unit less. -/
theorem batched_control_pays_less_than_withheld :
    (∀ height : UInt64,
      constructMinerTx deriveAllEnvironment height 300000 1 0 0 nullAddress [] 12
        splitStakeContext ⟨nullPkey, nullPkey⟩ = some (splitStakeMinerTx.atHeight height)) ∧
    (∀ height : UInt64, ∃ parts,
      getAntdBlockReward 300000 0 1 12 (splitStakeContext.blockRewardContext height 0) =
        some parts ∧ parts.control = 0 ∧ controlRewardFormula parts.originalBaseReward = 100 * coin) ∧
    heightHasControlOutput .fakechain 12 100 = true ∧
    calcBatchedControlReward regtestConfig .fakechain splitStakeChain 100 =
      some (99 * (100 * coin - 1)) := by
  refine ⟨fun height => ?_, fun height => ?_, by decide, by decide⟩
  · have atZero : constructMinerTx deriveAllEnvironment 0 300000 1 0 0 nullAddress [] 12
        splitStakeContext ⟨nullPkey, nullPkey⟩ = some splitStakeMinerTx := by decide
    rw [constructMinerTx_deriveAll_atHeight, atZero]
    rfl
  · rw [getAntdBlockReward_blockRewardContext_height]
    exact ⟨_, rfl, by decide, by decide⟩

end Antd.Cryptonote
