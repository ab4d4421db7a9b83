import Antd.Cryptonote.Basic
import Antd.Lib.OrderedTable

/-! The tables of `BlockchainLMDB` (`db_lmdb.cpp`) and its methods that add
and remove blocks, transactions, outputs and key images.

Each integer-keyed table is the list of its entries in key order
(`OrderedTable`); `block_info`, `output_txs` and each amount of
`output_amounts` hold their entries as duplicates sorted on one field, and are
keyed here by that field. The hash-keyed tables `block_heights` and
`tx_indices` keep their entries in the order they were added, and the key
image and blacklist tables are sets. A blob is the value it serializes.
A method that throws returns `none`: its batch is then aborted by the caller,
which leaves the tables as they were. -/

namespace Antd.BlockchainDb

open Antd.Crypto Antd.Cryptonote OrderedTable

abbrev RctKey := Pod 32

/-- A transaction as the database keeps it: `serialize_base` writes the
prefix and the RingCT base, whose output commitments
(`rct_signatures.outPk[i].mask`) `add_output` stores, to the pruned table;
the prunable rest (signatures and range proofs) is kept as its bytes. -/
structure DbTransaction where
  txPrefix : Transaction
  outPkMasks : List RctKey
  prunable : List UInt8
  deriving DecidableEq

/-- `block`: the fields the database reads. -/
structure Block where
  majorVersion : UInt8
  timestamp : UInt64
  prevId : Hash
  minerTx : DbTransaction
  txHashes : List Hash
  deriving DecidableEq

/-- `mdb_block_info`; the cumulative difficulty is the 128-bit value the
two halves `bi_diff_hi` and `bi_diff_lo` hold. -/
structure BlockInfo where
  height : Nat
  timestamp : UInt64
  coins : UInt64
  weight : Nat
  cumulativeDifficulty : Nat
  hash : Hash
  cumRct : Nat
  longTermBlockWeight : Nat
  deriving DecidableEq

structure TxData where
  txId : Nat
  unlockTime : UInt64
  blockId : Nat
  deriving DecidableEq

/-- `outtx` without its key, the global output id. -/
structure OutTx where
  txHash : Hash
  localIndex : Nat
  deriving DecidableEq

/-- `outkey` without its key, the amount index; a RingCT output (amount 0)
carries its commitment, a pre-RingCT one (`pre_rct_outkey`) none. -/
structure OutKey where
  outputId : Nat
  pubkey : PublicKey
  unlockTime : UInt64
  height : Nat
  commitment : Option RctKey
  deriving DecidableEq

/-- The tables of the database, and the pruning seed it was opened with. -/
structure Lmdb where
  blocks : List (Nat × Block)
  blockInfo : List (Nat × BlockInfo)
  blockHeights : List (Hash × Nat)
  txIndices : List (Hash × TxData)
  txsPruned : List (Nat × (Transaction × List RctKey))
  txsPrunable : List (Nat × List UInt8)
  txsPrunableHash : List (Nat × Hash)
  txsPrunableTip : List (Nat × Nat)
  txOutputs : List (Nat × List Nat)
  outputTxs : List (Nat × OutTx)
  outputAmounts : UInt64 → List (Nat × OutKey)
  spentKeys : Finset KeyImage
  outputBlacklist : Finset Nat
  pruningSeed : Nat

namespace Lmdb

def empty : Lmdb :=
  { blocks := [], blockInfo := [], blockHeights := [], txIndices := [], txsPruned := [],
    txsPrunable := [], txsPrunableHash := [], txsPrunableTip := [], txOutputs := [],
    outputTxs := [], outputAmounts := fun _ => [], spentKeys := ∅, outputBlacklist := ∅,
    pruningSeed := 0 }

/-! ### Counters -/

def height (db : Lmdb) : Nat := db.blocks.length

def getTxCount (db : Lmdb) : Nat := db.txsPruned.length

def numOutputs (db : Lmdb) : Nat :=
  match db.outputTxs.getLast? with
  | some (outputId, _) => outputId + 1
  | none => 0

/-! ### Key images and the blacklist -/

def addSpentKey (kImage : KeyImage) (db : Lmdb) : Option Lmdb :=
  if kImage ∈ db.spentKeys then none else some { db with spentKeys := insert kImage db.spentKeys }

def removeSpentKey (kImage : KeyImage) (db : Lmdb) : Lmdb :=
  { db with spentKeys := db.spentKeys.erase kImage }

def addOutputBlacklist (blacklist : List Nat) (db : Lmdb) : Lmdb :=
  if blacklist.isEmpty then db
  else { db with outputBlacklist := db.outputBlacklist ∪ blacklist.toFinset }

/-! ### Transactions -/

/-- `add_transaction_data`: the index under the hash and the blobs under the
next transaction id, which it returns. -/
def addTransactionData (tx : DbTransaction) (txHash prunableHash : Hash) (db : Lmdb) :
    Option (Nat × Lmdb) := do
  let txId := db.getTxCount
  let txIndices ← insertNew txHash ⟨txId, tx.txPrefix.unlockTime, db.height⟩ db.txIndices
  let txsPruned ← append txId (tx.txPrefix, tx.outPkMasks) db.txsPruned
  let txsPrunable ← append txId tx.prunable db.txsPrunable
  let txsPrunableTip :=
    if db.pruningSeed ≠ 0 then
      (db.txsPrunableTip.filter fun entry => entry.1 ≠ txId) ++ [(txId, db.height)]
    else db.txsPrunableTip
  let txsPrunableHash ←
    if tx.txPrefix.version > 1 then append txId prunableHash db.txsPrunableHash
    else some db.txsPrunableHash
  pure (txId, { db with txIndices, txsPruned, txsPrunable, txsPrunableTip, txsPrunableHash })

/-- `add_output`: the entry under the next global output id and the entry
under the next index of the output's amount, which it returns. -/
def addOutput (txHash : Hash) (txOutput : TxOut) (localIndex : Nat) (unlockTime : UInt64)
    (commitment : Option RctKey) (db : Lmdb) : Option (Nat × Lmdb) :=
  match txOutput.target with
  | .toKey pubkey =>
      if txOutput.amount = 0 ∧ commitment = none then none
      else do
        let outputId := db.numOutputs
        let outputTxs ← append outputId ⟨txHash, localIndex⟩ db.outputTxs
        let sameAmount := db.outputAmounts txOutput.amount
        let amountIndex := sameAmount.length
        let outKey : OutKey := ⟨outputId, pubkey, unlockTime, db.height,
          if txOutput.amount = 0 then commitment else none⟩
        let sameAmount ← append amountIndex outKey sameAmount
        pure (amountIndex, { db with
          outputTxs, outputAmounts := Function.update db.outputAmounts txOutput.amount sameAmount })
  | _ => none

def addTxAmountOutputIndices (txId : Nat) (amountOutputIndices : List Nat) (db : Lmdb) :
    Option Lmdb := do
  let txOutputs ← append txId amountOutputIndices db.txOutputs
  pure { db with txOutputs }

/-- `get_tx_amount_output_indices(tx_id, 1)`; a transaction without an entry
reads as one without indices. -/
def getTxAmountOutputIndices (txId : Nat) (db : Lmdb) : List Nat :=
  (find? txId db.txOutputs).getD []

/-- `remove_output`: the entry of the amount index, and the global output
entry it names. -/
def removeOutput (amount : UInt64) (outIndex : Nat) (db : Lmdb) : Option Lmdb := do
  let outKey ← find? outIndex (db.outputAmounts amount)
  let outputTxs ← delete outKey.outputId db.outputTxs
  let sameAmount ← delete outIndex (db.outputAmounts amount)
  pure { db with outputTxs, outputAmounts := Function.update db.outputAmounts amount sameAmount }

/-- The loop of `remove_tx_outputs` over the outputs with their indices,
from the last to the first; a RingCT coinbase output is under amount 0. -/
def removeOutputs (isPseudoRct : Bool) : List (TxOut × Nat) → Lmdb → Option Lmdb
  | [], db => some db
  | (output, index) :: rest, db => do
      let db ← removeOutputs isPseudoRct rest db
      db.removeOutput (if isPseudoRct then 0 else output.amount) index

/-- Whether a transaction is a coinbase of version 2 or later: one `txin_gen`
input. -/
def isPseudoRct (tx : Transaction) : Bool :=
  decide (tx.version ≥ 2) &&
    match tx.vin with
    | [.gen _] => true
    | _ => false

/-- `remove_tx_outputs`. Fewer indices than outputs throw: none at all is
"tx has outputs, but no output indices found", and a shorter list would be
read past its end. -/
def removeTxOutputs (txId : Nat) (tx : Transaction) (db : Lmdb) : Option Lmdb :=
  let amountOutputIndices := db.getTxAmountOutputIndices txId
  if amountOutputIndices.length < tx.vout.length then none
  else removeOutputs (isPseudoRct tx) (tx.vout.zip amountOutputIndices) db

/-- Deletes the entry under `key` when there is one, as the `MDB_SET`
lookups of `remove_transaction_data` that accept `MDB_NOTFOUND` do. -/
def deleteIfPresent {ν : Type} (key : Nat) (table : List (Nat × ν)) : List (Nat × ν) :=
  (delete key table).getD table

def removeTransactionData (txHash : Hash) (tx : Transaction) (db : Lmdb) : Option Lmdb := do
  let txData ← find? txHash db.txIndices
  let txId := txData.txId
  let txsPruned ← delete txId db.txsPruned
  let txsPrunable := deleteIfPresent txId db.txsPrunable
  let txsPrunableTip := deleteIfPresent txId db.txsPrunableTip
  let txsPrunableHash ←
    if tx.version > 1 then delete txId db.txsPrunableHash else some db.txsPrunableHash
  let db ← removeTxOutputs txId tx
    { db with txsPruned, txsPrunable, txsPrunableTip, txsPrunableHash }
  let txOutputs := deleteIfPresent txId db.txOutputs
  let txIndices ← delete txHash db.txIndices
  pure { db with txOutputs, txIndices }

def getPrunedTx (txHash : Hash) (db : Lmdb) : Option DbTransaction := do
  let txData ← find? txHash db.txIndices
  let (txPrefix, outPkMasks) ← find? txData.txId db.txsPruned
  pure ⟨txPrefix, outPkMasks, []⟩

/-- `get_tx`, and `get_pruned_tx` where the prunable blob is gone, as
`pop_block` reads them. -/
def getTx (txHash : Hash) (db : Lmdb) : Option DbTransaction := do
  let txData ← find? txHash db.txIndices
  let (txPrefix, outPkMasks) ← find? txData.txId db.txsPruned
  pure ⟨txPrefix, outPkMasks, (find? txData.txId db.txsPrunable).getD []⟩

/-! ### Blocks -/

def addBlock (blk : Block) (blockWeight longTermBlockWeight cumulativeDifficulty : Nat)
    (coinsGenerated : UInt64) (numRctOuts : Nat) (blkHash : Hash) (db : Lmdb) : Option Lmdb := do
  let height := db.height
  let blockHeights ← insertNew blkHash height db.blockHeights
  if height > 0 then
    let parentHeight ← find? blk.prevId db.blockHeights
    if parentHeight ≠ height - 1 then none
  let blocks ← append height blk db.blocks
  let cumRct ←
    if blk.majorVersion ≥ 4 ∧ height > 0 then do
      let previous ← find? (height - 1) db.blockInfo
      pure (numRctOuts + previous.cumRct)
    else some numRctOuts
  let blockInfo ← append height ⟨height, blk.timestamp, coinsGenerated, blockWeight,
    cumulativeDifficulty, blkHash, cumRct, longTermBlockWeight⟩ db.blockInfo
  pure { db with blocks, blockInfo, blockHeights }

def getTopBlock (db : Lmdb) : Option Block :=
  find? (db.height - 1) db.blocks

def removeBlock (db : Lmdb) : Option Lmdb := do
  let height := db.height
  if height = 0 then none
  let info ← find? (height - 1) db.blockInfo
  let blockHeights ← delete info.hash db.blockHeights
  let blocks ← delete (height - 1) db.blocks
  let blockInfo ← delete (height - 1) db.blockInfo
  pure { db with blocks, blockInfo, blockHeights }

/-! ### What the adds do -/

section Adds

variable {db db' : Lmdb}

theorem addOutput_eq_some {txHash : Hash} {output : TxOut} {localIndex : Nat}
    {unlockTime : UInt64} {commitment : Option RctKey} {amountIndex : Nat}
    (added : db.addOutput txHash output localIndex unlockTime commitment = some (amountIndex, db')) :
    ∃ (outputTxs : List (Nat × OutTx)) (sameAmount : List (Nat × OutKey)) (outKey : OutKey),
      append db.numOutputs ⟨txHash, localIndex⟩ db.outputTxs = some outputTxs ∧
      amountIndex = (db.outputAmounts output.amount).length ∧
      outKey.outputId = db.numOutputs ∧
      append amountIndex outKey (db.outputAmounts output.amount) = some sameAmount ∧
      db' = { db with
        outputTxs, outputAmounts := Function.update db.outputAmounts output.amount sameAmount } := by
  rcases target : output.target with _ | _ | pubkey
  · simp [addOutput, target] at added
  · simp [addOutput, target] at added
  · by_cases missing : output.amount = 0 ∧ commitment = none
    · simp [addOutput, target, missing] at added
    · simp only [addOutput, target, if_neg missing, Option.bind_eq_bind, Option.bind_eq_some_iff]
        at added
      obtain ⟨outputTxs, appendedTxs, sameAmount, appendedAmount, same⟩ := added
      simp only [pure, Option.some.injEq, Prod.mk.injEq] at same
      obtain ⟨rfl, rfl⟩ := same
      exact ⟨outputTxs, sameAmount, _, appendedTxs, rfl, rfl, appendedAmount, rfl⟩

theorem addTransactionData_eq_some {tx : DbTransaction} {txHash prunableHash : Hash} {txId : Nat}
    (added : db.addTransactionData tx txHash prunableHash = some (txId, db')) :
    txId = db.getTxCount ∧
      Fresh txHash db.txIndices ∧
      append txId (tx.txPrefix, tx.outPkMasks) db.txsPruned = some db'.txsPruned ∧
      append txId tx.prunable db.txsPrunable = some db'.txsPrunable ∧
      (if tx.txPrefix.version > 1 then append txId prunableHash db.txsPrunableHash
        else some db.txsPrunableHash) = some db'.txsPrunableHash ∧
      db' = { db with
        txIndices := db.txIndices ++ [(txHash, ⟨txId, tx.txPrefix.unlockTime, db.height⟩)]
        txsPruned := db'.txsPruned
        txsPrunable := db'.txsPrunable
        txsPrunableTip :=
          if db.pruningSeed ≠ 0 then
            (db.txsPrunableTip.filter fun entry => entry.1 ≠ txId) ++ [(txId, db.height)]
          else db.txsPrunableTip
        txsPrunableHash := db'.txsPrunableHash } := by
  by_cases hashed : tx.txPrefix.version > 1
  · simp only [addTransactionData, if_pos hashed, Option.bind_eq_bind, Option.bind_eq_some_iff]
      at added
    obtain ⟨txIndices, inserted, txsPruned, appendedPruned, txsPrunable, appendedPrunable,
      txsPrunableHash, appendedHash, same⟩ := added
    simp only [pure, Option.some.injEq, Prod.mk.injEq] at same
    obtain ⟨rfl, rfl⟩ := same
    obtain ⟨fresh, rfl⟩ := insertNew_eq_some inserted
    exact ⟨rfl, fresh, appendedPruned, appendedPrunable, by rw [if_pos hashed]; exact appendedHash,
      rfl⟩
  · simp only [addTransactionData, if_neg hashed, Option.bind_eq_bind, Option.bind_some,
      Option.bind_eq_some_iff] at added
    obtain ⟨txIndices, inserted, txsPruned, appendedPruned, txsPrunable, appendedPrunable, same⟩ :=
      added
    simp only [pure, Option.some.injEq, Prod.mk.injEq] at same
    obtain ⟨rfl, rfl⟩ := same
    obtain ⟨fresh, rfl⟩ := insertNew_eq_some inserted
    exact ⟨rfl, fresh, appendedPruned, appendedPrunable, by rw [if_neg hashed], rfl⟩

theorem addBlock_eq_some {blk : Block} {blockWeight longTermBlockWeight cumulativeDifficulty : Nat}
    {coinsGenerated : UInt64} {numRctOuts : Nat} {blkHash : Hash}
    (added : db.addBlock blk blockWeight longTermBlockWeight cumulativeDifficulty coinsGenerated
      numRctOuts blkHash = some db') :
    ∃ blocks blockInfo blockHeights, append db.height blk db.blocks = some blocks ∧
      db' = { db with blocks, blockInfo, blockHeights } := by
  unfold addBlock at added
  simp only [Option.bind_eq_some_iff, bind, pure] at added
  obtain ⟨blockHeights, -, added⟩ := added
  split at added
  on_goal 1 =>
    obtain ⟨_, -, added⟩ := Option.bind_eq_some_iff.mp added
    split at added
    · simp at added
  all_goals
    obtain ⟨blocks, appended, added⟩ := Option.bind_eq_some_iff.mp added
    split at added <;> simp only [Option.bind_eq_some_iff] at added
  · obtain ⟨_, -, _, -, blockInfo, -, same⟩ := added
    exact ⟨blocks, blockInfo, blockHeights, appended, (Option.some.inj same).symm⟩
  · obtain ⟨_, -, blockInfo, -, same⟩ := added
    exact ⟨blocks, blockInfo, blockHeights, appended, (Option.some.inj same).symm⟩
  · obtain ⟨_, -, _, -, blockInfo, -, same⟩ := added
    exact ⟨blocks, blockInfo, blockHeights, appended, (Option.some.inj same).symm⟩
  · obtain ⟨_, -, blockInfo, -, same⟩ := added
    exact ⟨blocks, blockInfo, blockHeights, appended, (Option.some.inj same).symm⟩

end Adds

end Lmdb

end Antd.BlockchainDb
