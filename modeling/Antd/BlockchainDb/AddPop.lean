import Antd.BlockchainDb.Lmdb

/-! `BlockchainDB::add_block` and `BlockchainDB::pop_block`
(`blockchain_db.cpp`): a block is added with its miner transaction and its
transactions, each with its key images and outputs, and popped by removing
the block and then its transactions from the last to the first.

Nothing on the way back touches the output blacklist: the outputs that
`add_transaction` puts on it stay there after the block is popped. -/

namespace Antd.BlockchainDb

open Antd.Crypto Antd.Cryptonote OrderedTable

/-- The hashes the database computes with code the development does not
model, and `rct::zeroCommit`. -/
structure DbHashes where
  getBlockHash : Block → Hash
  getTransactionHash : DbTransaction → Hash
  getTransactionPrunableHash : DbTransaction → Hash
  zeroCommit : UInt64 → RctKey

def keyImages (vin : List TxInV) : List KeyImage :=
  vin.filterMap fun
    | .toKey _ _ kImage => some kImage
    | _ => none

def removeSpentKeys (vin : List TxInV) (db : Lmdb) : Lmdb :=
  (keyImages vin).foldl (fun db kImage => db.removeSpentKey kImage) db

/-- What the input loop of `add_transaction` leaves. -/
inductive InputsAdded
  | added (minerTx : Bool) (db : Lmdb)
  | unsupported (db : Lmdb)

/-- The input loop of `add_transaction` over the inputs `rest` of `vin`: a
`txin_gen` input marks a miner transaction. -/
def addInputs (vin : List TxInV) : List TxInV → Bool → Lmdb → Option InputsAdded
  | [], minerTx, db => some (.added minerTx db)
  | .toKey _ _ kImage :: rest, minerTx, db => do
      let db ← db.addSpentKey kImage
      addInputs vin rest minerTx db
  | .gen _ :: rest, _, db => addInputs vin rest true db
  | _ :: _, _, db => some (.unsupported (removeSpentKeys vin db))

/-- The output loop of `add_transaction`, from output `index` on; it returns
the amount index of each output. -/
def addOutputs (hashes : DbHashes) (txHash : Hash) (tx : DbTransaction) (minerTx : Bool) :
    Nat → List TxOut → Lmdb → Option (List Nat × Lmdb)
  | _, [], db => some ([], db)
  | index, output :: rest, db => do
      let unlockTime :=
        if tx.txPrefix.version > 2 then tx.txPrefix.outputUnlockTimes.getD index 0
        else tx.txPrefix.unlockTime
      let (amountIndex, db) ←
        if minerTx ∧ tx.txPrefix.version ≥ 2 then
          db.addOutput txHash { output with amount := 0 } index unlockTime
            (some (hashes.zeroCommit output.amount))
        else
          db.addOutput txHash output index unlockTime
            (if tx.txPrefix.version > 1 then tx.outPkMasks[index]? else none)
      let (amountIndices, db) ← addOutputs hashes txHash tx minerTx (index + 1) rest db
      pure (amountIndex :: amountIndices, db)

/-- Whether `add_transaction` blacklists the outputs: a transaction of
version 2 or later with a secret key and a contributor in its extra. -/
def hasBlacklistedOutputs (tx : Transaction) : Bool :=
  decide (tx.version ≥ 2) && (getTxSecretKeyFromTxExtra tx.extra).isSome &&
    (getFullNodeContributorFromTxExtra tx.extra).isSome

/-- `BlockchainDB::add_transaction`; without a hash it computes one, as it
does for a miner transaction. -/
def addTransaction (hashes : DbHashes) (tx : DbTransaction) (txHash : Option Hash)
    (db : Lmdb) : Option Lmdb := do
  let txHash := txHash.getD (hashes.getTransactionHash tx)
  match ← addInputs tx.txPrefix.vin tx.txPrefix.vin false db with
  | .unsupported db => pure db
  | .added minerTx db =>
      let (txId, db) ← db.addTransactionData tx txHash (hashes.getTransactionPrunableHash tx)
      let (amountOutputIndices, db) ←
        addOutputs hashes txHash tx minerTx 0 tx.txPrefix.vout db
      let db :=
        if hasBlacklistedOutputs tx.txPrefix then db.addOutputBlacklist amountOutputIndices
        else db
      db.addTxAmountOutputIndices txId amountOutputIndices

/-- The transactions of a block after its miner transaction, each under the
hash the block lists for it. -/
def addTransactions (hashes : DbHashes) : List (Hash × DbTransaction) → Lmdb → Option Lmdb
  | [], db => some db
  | (txHash, tx) :: rest, db => do
      let db ← addTransaction hashes tx (some txHash) db
      addTransactions hashes rest db

/-- The RingCT outputs a block adds: every output of a miner transaction of
version 2 or later, and the outputs of amount 0 of the others. -/
def numRctOuts (minerTx : Transaction) (txs : List DbTransaction) : Nat :=
  (if minerTx.version ≥ 2 then minerTx.vout.length else 0) +
    (txs.map fun tx => (tx.txPrefix.vout.filter fun output => output.amount = 0).length).sum

/-- `BlockchainDB::add_block`; it returns the height the block is added at.
Its call of `HardFork::add` changes the hard-fork state of `HardFork.lean`,
not the tables. -/
def addBlock (hashes : DbHashes) (blk : Block)
    (blockWeight longTermBlockWeight cumulativeDifficulty : Nat) (coinsGenerated : UInt64)
    (txs : List DbTransaction) (db : Lmdb) : Option (Nat × Lmdb) :=
  if blk.txHashes.length ≠ txs.length then none
  else do
    let blkHash := hashes.getBlockHash blk
    let prevHeight := db.height
    let db ← addTransaction hashes blk.minerTx none db
    let db ← addTransactions hashes (blk.txHashes.zip txs) db
    let db ← db.addBlock blk blockWeight longTermBlockWeight cumulativeDifficulty coinsGenerated
      (numRctOuts blk.minerTx.txPrefix txs) blkHash
    pure (prevHeight, db)

def removeTransaction (txHash : Hash) (db : Lmdb) : Option Lmdb := do
  let tx ← db.getPrunedTx txHash
  (removeSpentKeys tx.txPrefix.vin db).removeTransactionData txHash tx.txPrefix

/-- The loop of `pop_block` over the hashes of the block's transactions
from the last to the first: each transaction is read, then removed. -/
def popTransactions : List Hash → Lmdb → Option (List DbTransaction × Lmdb)
  | [], db => some ([], db)
  | txHash :: rest, db => do
      let tx ← db.getTx txHash
      let db ← removeTransaction txHash db
      let (txs, db) ← popTransactions rest db
      pure (tx :: txs, db)

/-- `BlockchainDB::pop_block`: the top block, and its transactions in the
order they were removed, from the last to the first. -/
def popBlock (hashes : DbHashes) (db : Lmdb) : Option (Block × List DbTransaction × Lmdb) := do
  let blk ← db.getTopBlock
  let db ← db.removeBlock
  let (txs, db) ← popTransactions blk.txHashes.reverse db
  let db ← removeTransaction (hashes.getTransactionHash blk.minerTx) db
  pure (blk, txs, db)

/-! ### What a pop leaves of the blacklist -/

section Pops

variable {db db' : Lmdb}

theorem outputBlacklist_removeSpentKeys (vin : List TxInV) (db : Lmdb) :
    (removeSpentKeys vin db).outputBlacklist = db.outputBlacklist := by
  unfold removeSpentKeys
  induction keyImages vin generalizing db with
  | nil => rfl
  | cons kImage rest ih =>
      rw [List.foldl_cons, ih]
      rfl

theorem outputBlacklist_removeOutput {amount : UInt64} {outIndex : Nat}
    (removed : db.removeOutput amount outIndex = some db') :
    db'.outputBlacklist = db.outputBlacklist := by
  unfold Lmdb.removeOutput at removed
  obtain ⟨_, _, removed⟩ := Option.bind_eq_some_iff.mp removed
  obtain ⟨_, _, removed⟩ := Option.bind_eq_some_iff.mp removed
  obtain ⟨_, _, same⟩ := Option.bind_eq_some_iff.mp removed
  cases same
  rfl

theorem outputBlacklist_removeOutputs (isPseudoRct : Bool) :
    ∀ (outputs : List (TxOut × Nat)) (db db' : Lmdb),
      Lmdb.removeOutputs isPseudoRct outputs db = some db' →
        db'.outputBlacklist = db.outputBlacklist
  | [], db, db', removed => by
      rw [Lmdb.removeOutputs] at removed
      cases removed
      rfl
  | (output, index) :: rest, db, db', removed => by
      rw [Lmdb.removeOutputs] at removed
      obtain ⟨middle, restRemoved, removed⟩ := Option.bind_eq_some_iff.mp removed
      rw [outputBlacklist_removeOutput removed,
        outputBlacklist_removeOutputs isPseudoRct rest db middle restRemoved]

theorem outputBlacklist_removeTxOutputs {txId : Nat} {tx : Transaction}
    (removed : db.removeTxOutputs txId tx = some db') :
    db'.outputBlacklist = db.outputBlacklist := by
  unfold Lmdb.removeTxOutputs at removed
  dsimp only at removed
  split at removed
  · cases removed
  · exact outputBlacklist_removeOutputs _ _ _ _ removed

theorem outputBlacklist_removeTransactionData {txHash : Hash} {tx : Transaction}
    (removed : db.removeTransactionData txHash tx = some db') :
    db'.outputBlacklist = db.outputBlacklist := by
  unfold Lmdb.removeTransactionData at removed
  dsimp only at removed
  obtain ⟨_, _, removed⟩ := Option.bind_eq_some_iff.mp removed
  obtain ⟨_, _, removed⟩ := Option.bind_eq_some_iff.mp removed
  split at removed <;>
  · obtain ⟨_, _, removed⟩ := Option.bind_eq_some_iff.mp removed
    obtain ⟨middle, outputsRemoved, removed⟩ := Option.bind_eq_some_iff.mp removed
    obtain ⟨_, _, same⟩ := Option.bind_eq_some_iff.mp removed
    cases same
    have kept := outputBlacklist_removeTxOutputs outputsRemoved
    exact kept

theorem outputBlacklist_removeTransaction {txHash : Hash}
    (removed : removeTransaction txHash db = some db') :
    db'.outputBlacklist = db.outputBlacklist := by
  unfold removeTransaction at removed
  obtain ⟨_, _, removed⟩ := Option.bind_eq_some_iff.mp removed
  rw [outputBlacklist_removeTransactionData removed, outputBlacklist_removeSpentKeys]

theorem outputBlacklist_popTransactions :
    ∀ (txHashes : List Hash) (db : Lmdb) (popped : List DbTransaction × Lmdb),
      popTransactions txHashes db = some popped → popped.2.outputBlacklist = db.outputBlacklist
  | [], db, popped, poppedOk => by
      rw [popTransactions] at poppedOk
      cases poppedOk
      rfl
  | txHash :: rest, db, popped, poppedOk => by
      rw [popTransactions] at poppedOk
      obtain ⟨_, _, poppedOk⟩ := Option.bind_eq_some_iff.mp poppedOk
      obtain ⟨middle, removed, poppedOk⟩ := Option.bind_eq_some_iff.mp poppedOk
      obtain ⟨restPopped, restOk, same⟩ := Option.bind_eq_some_iff.mp poppedOk
      cases same
      rw [outputBlacklist_popTransactions rest middle restPopped restOk,
        outputBlacklist_removeTransaction removed]

theorem outputBlacklist_removeBlock (removed : db.removeBlock = some db') :
    db'.outputBlacklist = db.outputBlacklist := by
  unfold Lmdb.removeBlock at removed
  dsimp only at removed
  split at removed
  · cases removed
  · obtain ⟨_, _, removed⟩ := Option.bind_eq_some_iff.mp removed
    obtain ⟨_, _, removed⟩ := Option.bind_eq_some_iff.mp removed
    obtain ⟨_, _, removed⟩ := Option.bind_eq_some_iff.mp removed
    obtain ⟨_, _, same⟩ := Option.bind_eq_some_iff.mp removed
    cases same
    rfl

theorem outputBlacklist_popBlock {hashes : DbHashes} {blk : Block} {txs : List DbTransaction}
    (popped : popBlock hashes db = some (blk, txs, db')) :
    db'.outputBlacklist = db.outputBlacklist := by
  unfold popBlock at popped
  obtain ⟨_, _, popped⟩ := Option.bind_eq_some_iff.mp popped
  obtain ⟨withoutBlock, blockRemoved, popped⟩ := Option.bind_eq_some_iff.mp popped
  obtain ⟨⟨_, withoutTxs⟩, txsPopped, popped⟩ := Option.bind_eq_some_iff.mp popped
  obtain ⟨withoutMiner, minerRemoved, same⟩ := Option.bind_eq_some_iff.mp popped
  cases same
  rw [outputBlacklist_removeTransaction minerRemoved,
    outputBlacklist_popTransactions _ _ _ txsPopped, outputBlacklist_removeBlock blockRemoved]

end Pops

/-! ### A contribution added and popped -/

def hashOf (n : Nat) : Hash :=
  ⟨n.toUInt8 :: List.replicate 31 0, by simp⟩

def timestampHashes : DbHashes where
  getBlockHash blk := hashOf blk.timestamp.toNat
  getTransactionHash tx := hashOf tx.txPrefix.unlockTime.toNat
  getTransactionPrunableHash _ := nullHash
  zeroCommit _ := Pod.zero 32

def emptyMinerTx (unlockTime : UInt64) : DbTransaction :=
  ⟨{ version := 2, unlockTime, vin := [.gen 0], vout := [], extra := [],
     outputUnlockTimes := [], type := .standard }, [], []⟩

def genesisBlock : Block :=
  { majorVersion := 7, timestamp := 0, prevId := nullHash, minerTx := emptyMinerTx 0,
    txHashes := [] }

/-- A contribution: a version 2 transaction with a secret key and a
contributor in its extra, and one RingCT output. -/
def contributionTx : DbTransaction :=
  ⟨{ version := 2, unlockTime := 2, vin := [.toKey 0 [0] (Pod.zero 32)],
     vout := [⟨0, .toKey (Pod.zero 32)⟩],
     extra := [.txSecretKey (Pod.zero 32), .fullNodeContributor ⟨Pod.zero 32, Pod.zero 32⟩],
     outputUnlockTimes := [], type := .standard }, [Pod.zero 32], []⟩

def contributionBlock : Block :=
  { majorVersion := 7, timestamp := 1, prevId := hashOf 0, minerTx := emptyMinerTx 1,
    txHashes := [hashOf 2] }

theorem popBlock_after_addBlock_keeps_blacklist :
    ((addBlock timestampHashes genesisBlock 0 0 0 0 [] Lmdb.empty).bind fun (_, chain) =>
      (addBlock timestampHashes contributionBlock 0 0 0 0 [contributionTx] chain).bind
        fun (_, added) => (popBlock timestampHashes added).map fun (blk, txs, popped) =>
          (blk, txs, chain.outputBlacklist, popped.outputBlacklist)) =
      some (contributionBlock, [contributionTx], ∅, {0}) := by
  decide

end Antd.BlockchainDb
