import Antd.BlockchainDb.AddPop
import Antd.Common.Pruning
import Antd.Lib.KeyedPass
import Antd.Lib.LittleEndian

/-! `BlockchainLMDB::prune_worker` (`db_lmdb.cpp`) and the three calls made of
it: `prune_blockchain` stores a seed and walks every transaction,
`update_pruning` walks the tip table only, and `check_pruning` walks every
transaction again and reports what does not match the seed.

A transaction whose block is within `CRYPTONOTE_PRUNING_TIP_BLOCKS` of the
top has an entry in `txs_prunable_tip`; one whose block has left the tip zone
keeps its prunable data only where `has_unpruned_block` says so, or where it is
a version 1 transaction. The passes run in one LMDB transaction: one that
throws changes nothing, and the model returns none. -/

namespace Antd.BlockchainDb

open Antd.Crypto Antd.Cryptonote Antd.Tools OrderedTable KeyedPass

/-- The modes of `prune_worker`. -/
inductive PruneMode
  | prune
  | update
  | check
  deriving DecidableEq

/-- The inconsistencies the check reports (its `MERROR`s), with the heights
and the seed they print. -/
inductive PruningError
  /-- "Transaction not found in prunable tip table for height ". -/
  | tipMissing (blockHeight blockchainHeight pruningSeed : Nat)
  /-- "Prunable data found for pruned height ". -/
  | prunableFound (blockHeight blockchainHeight pruningSeed : Nat)
  /-- "Prunable data not found for unpruned height ". -/
  | prunableMissing (blockHeight blockchainHeight pruningSeed : Nat)
  deriving DecidableEq

def getRandomStripe (random : UInt8) : Nat :=
  1 + random.toNat % (1 <<< cryptonotePruningLogStripes)

/-- `is_v1_tx` on the pruned blob of `txId`: its version is at most 1. None
where the blob is missing, where it throws. -/
def isV1Tx (txsPruned : List (Nat × (Transaction × List RctKey))) (txId : Nat) : Option Bool :=
  (find? txId txsPruned).map fun pruned => decide (pruned.1.version ≤ 1)

/-- Whether the pass drops the prunable data of a transaction: its block is
pruned under the seed and it is not a version 1 transaction. `is_v1_tx` is
only asked when the block is pruned. -/
def dropsPrunable (pruningSeed blockchainHeight : Nat)
    (txsPruned : List (Nat × (Transaction × List RctKey))) (txId blockHeight : Nat) :
    Option Bool :=
  if !hasUnprunedBlock blockHeight blockchainHeight pruningSeed then
    (! ·) <$> isV1Tx txsPruned txId
  else some false

/-- The two tables the passes change. -/
structure PrunableTables where
  txsPrunable : List (Nat × List UInt8)
  txsPrunableTip : List (Nat × Nat)

/-- One entry of the walk over `txs_prunable_tip`: an entry whose block has
left the tip zone is deleted, and with it the prunable data the seed drops
(`MDB_NOTFOUND` there is only a warning). -/
def pruneTipEntry (pruningSeed blockchainHeight : Nat)
    (txsPruned : List (Nat × (Transaction × List RctKey))) (tables : PrunableTables)
    (entry : Nat × Nat) : Option PrunableTables :=
  if entry.2 + cryptonotePruningTipBlocks < blockchainHeight then do
    let drop ← dropsPrunable pruningSeed blockchainHeight txsPruned entry.1 entry.2
    let txsPrunable :=
      if drop then Lmdb.deleteIfPresent entry.1 tables.txsPrunable else tables.txsPrunable
    pure ⟨txsPrunable, Lmdb.deleteIfPresent entry.1 tables.txsPrunableTip⟩
  else pure tables

/-- The state of the walk over `tx_indices`: the tables and the errors the
check has reported. -/
structure IndexPass where
  tables : PrunableTables
  errors : List PruningError

/-- One entry of the walk over `tx_indices`. In the tip zone the check looks
for a tip entry and the prune puts one; then the prune deletes the prunable
data the seed drops, and the check reports prunable data that is there when
it should not be, or missing when it should be there. -/
def pruneIndexEntry (mode : PruneMode) (pruningSeed blockchainHeight : Nat)
    (txsPruned : List (Nat × (Transaction × List RctKey))) (pass : IndexPass)
    (entry : Hash × TxData) : Option IndexPass := do
  let txId := entry.2.txId
  let blockHeight := entry.2.blockId
  let pass : IndexPass :=
    if blockHeight + cryptonotePruningTipBlocks ≥ blockchainHeight then
      if mode = .check then
        if (find? txId pass.tables.txsPrunableTip).isNone then
          { pass with
            errors := pass.errors ++ [.tipMissing blockHeight blockchainHeight pruningSeed] }
        else pass
      else
        { pass with tables := { pass.tables with
            txsPrunableTip := put txId blockHeight pass.tables.txsPrunableTip } }
    else pass
  let drop ← dropsPrunable pruningSeed blockchainHeight txsPruned txId blockHeight
  let present := (find? txId pass.tables.txsPrunable).isSome
  if drop then
    if mode = .check then
      pure (if present then
        { pass with
          errors := pass.errors ++ [.prunableFound blockHeight blockchainHeight pruningSeed] }
        else pass)
    else
      pure { pass with tables := { pass.tables with
        txsPrunable := Lmdb.deleteIfPresent txId pass.tables.txsPrunable } }
  else if mode = .check ∧ !present then
    pure { pass with
      errors := pass.errors ++ [.prunableMissing blockHeight blockchainHeight pruningSeed] }
  else pure pass

/-- The walk of `prune_worker` under the seed `pruningSeed`: over the tip
table, or over every transaction. -/
def prunePass (mode : PruneMode) (pruningSeed : Nat) (pruneTipTable : Bool) (db : Lmdb) :
    Option (Lmdb × List PruningError) :=
  let blockchainHeight := db.height
  if pruneTipTable then do
    let tables ← db.txsPrunableTip.foldlM (pruneTipEntry pruningSeed blockchainHeight db.txsPruned)
      ⟨db.txsPrunable, db.txsPrunableTip⟩
    pure ({ db with txsPrunable := tables.txsPrunable, txsPrunableTip := tables.txsPrunableTip },
      [])
  else do
    let pass ← db.txIndices.foldlM
      (pruneIndexEntry mode pruningSeed blockchainHeight db.txsPruned)
      ⟨⟨db.txsPrunable, db.txsPrunableTip⟩, []⟩
    pure ({ db with
      txsPrunable := pass.tables.txsPrunable, txsPrunableTip := pass.tables.txsPrunableTip },
      pass.errors)

/-- `prune_worker(mode, pruning_seed)`; `random` is the byte
`get_random_stripe` draws. A database without a stored seed (`pruningSeed`
0) is only pruned by the prune mode, which stores one; a stored seed must
agree with the one asked for. -/
def pruneWorker (mode : PruneMode) (pruningSeed : Nat) (random : UInt8) (db : Lmdb) :
    Option (Lmdb × List PruningError) :=
  let logStripes := getPruningLogStripes pruningSeed
  if logStripes ≠ 0 ∧ logStripes ≠ cryptonotePruningLogStripes then none
  else
    let stripe := getPruningStripe pruningSeed
    if stripe > 1 <<< cryptonotePruningLogStripes then none
    else if db.pruningSeed = 0 then
      if mode ≠ .prune then some (db, [])
      else do
        let stripe := if stripe = 0 then getRandomStripe random else stripe
        let seed ← makePruningSeed stripe cryptonotePruningLogStripes
        prunePass mode seed false { db with pruningSeed := seed }
    else
      let data := db.pruningSeed
      let stripe := if stripe = 0 then getPruningStripe data else stripe
      if getPruningStripe data ≠ stripe then none
      else if getPruningLogStripes data ≠ cryptonotePruningLogStripes then none
      else do
        let seed ← makePruningSeed stripe cryptonotePruningLogStripes
        prunePass mode seed (mode = .update) db

def pruneBlockchain (pruningSeed : Nat) (random : UInt8) (db : Lmdb) : Option Lmdb :=
  (·.1) <$> pruneWorker .prune pruningSeed random db

def updatePruning (db : Lmdb) : Option Lmdb :=
  (·.1) <$> pruneWorker .update 0 0 db

def checkPruning (db : Lmdb) : Option (List PruningError) :=
  (·.2) <$> pruneWorker .check 0 0 db

/-! ### What the passes read

Adding a block touches the tables the passes read only through
`add_transaction_data`, which indexes the transaction at the current height,
appends its blobs under the next id, and puts a tip entry once the database
has a seed; and through the block itself, which raises the height. -/

/-- The tables the passes read and write, the stored seed and the height. -/
structure PruningView where
  txIndices : List (Hash × TxData)
  txsPruned : List (Nat × (Transaction × List RctKey))
  txsPrunable : List (Nat × List UInt8)
  txsPrunableTip : List (Nat × Nat)
  pruningSeed : Nat
  height : Nat

def Lmdb.pruningView (db : Lmdb) : PruningView :=
  ⟨db.txIndices, db.txsPruned, db.txsPrunable, db.txsPrunableTip, db.pruningSeed, db.height⟩

def AddsTx (view view' : PruningView) : Prop :=
  ∃ (txHash : Hash) (txId : Nat) (unlockTime : UInt64) (pruned : Transaction × List RctKey)
    (prunable : List UInt8),
    append txId pruned view.txsPruned = some view'.txsPruned ∧
    append txId prunable view.txsPrunable = some view'.txsPrunable ∧
    view'.txIndices = view.txIndices ++ [(txHash, ⟨txId, unlockTime, view.height⟩)] ∧
    view'.txsPrunableTip =
      (if view.pruningSeed ≠ 0 then put txId view.height view.txsPrunableTip
        else view.txsPrunableTip) ∧
    view'.pruningSeed = view.pruningSeed ∧ view'.height = view.height

/-- Transactions added one after another. -/
abbrev TxsAdded : PruningView → PruningView → Prop := Relation.ReflTransGen AddsTx

section Frames

variable {db db' : Lmdb}

theorem pruningView_addSpentKey {kImage : KeyImage} (added : db.addSpentKey kImage = some db') :
    db'.pruningView = db.pruningView := by
  unfold Lmdb.addSpentKey at added
  split at added
  · cases added
  · cases added
    rfl

theorem pruningView_removeSpentKeys (vin : List TxInV) (db : Lmdb) :
    (removeSpentKeys vin db).pruningView = db.pruningView := by
  unfold removeSpentKeys
  induction keyImages vin generalizing db with
  | nil => rfl
  | cons kImage rest ih =>
      rw [List.foldl_cons, ih]
      rfl

theorem pruningView_addInputs (vin : List TxInV) :
    ∀ (inputs : List TxInV) (minerTx : Bool) (db : Lmdb) (result : InputsAdded),
      addInputs vin inputs minerTx db = some result →
        match result with
        | .added _ db' => db'.pruningView = db.pruningView
        | .unsupported db' => db'.pruningView = db.pruningView
  | [], minerTx, db, result, added => by
      rw [addInputs] at added
      cases added
      rfl
  | .toKey _ _ kImage :: rest, minerTx, db, result, added => by
      rw [addInputs, Option.bind_eq_bind, Option.bind_eq_some_iff] at added
      obtain ⟨middle, spent, rest_added⟩ := added
      have restFrame := pruningView_addInputs vin rest minerTx middle result rest_added
      rw [pruningView_addSpentKey spent] at restFrame
      exact restFrame
  | .gen _ :: rest, _, db, result, added => by
      rw [addInputs] at added
      exact pruningView_addInputs vin rest true db result added
  | .toScript _ _ _ :: _, _, db, result, added => by
      simp only [addInputs, Option.some.injEq] at added
      subst added
      exact pruningView_removeSpentKeys vin db
  | .toScripthash _ _ _ _ :: _, _, db, result, added => by
      simp only [addInputs, Option.some.injEq] at added
      subst added
      exact pruningView_removeSpentKeys vin db

theorem pruningView_addOutput {txHash : Hash} {output : TxOut} {localIndex : Nat}
    {unlockTime : UInt64} {commitment : Option RctKey} {amountIndex : Nat}
    (added : db.addOutput txHash output localIndex unlockTime commitment = some (amountIndex, db')) :
    db'.pruningView = db.pruningView := by
  obtain ⟨_, _, _, _, _, _, _, rfl⟩ := Lmdb.addOutput_eq_some added
  rfl

theorem pruningView_addOutputs (hashes : DbHashes) (txHash : Hash) (tx : DbTransaction)
    (minerTx : Bool) :
    ∀ (index : Nat) (outputs : List TxOut) (db db' : Lmdb) (indices : List Nat),
      addOutputs hashes txHash tx minerTx index outputs db = some (indices, db') →
        db'.pruningView = db.pruningView
  | _, [], db, db', indices, added => by
      rw [addOutputs] at added
      cases added
      rfl
  | index, output :: rest, db, db', indices, added => by
      rw [addOutputs] at added
      split at added <;>
      · obtain ⟨⟨amountIndex, middle⟩, first, added⟩ := Option.bind_eq_some_iff.mp added
        obtain ⟨⟨restIndices, final⟩, restAdded, same⟩ := Option.bind_eq_some_iff.mp added
        simp only [pure, Option.some.injEq, Prod.mk.injEq] at same
        obtain ⟨rfl, rfl⟩ := same
        rw [pruningView_addOutputs hashes txHash tx minerTx (index + 1) rest middle final
          restIndices restAdded, pruningView_addOutput first]

theorem pruningView_addOutputBlacklist (blacklist : List Nat) (db : Lmdb) :
    (db.addOutputBlacklist blacklist).pruningView = db.pruningView := by
  unfold Lmdb.addOutputBlacklist
  split <;> rfl

theorem pruningView_addTxAmountOutputIndices {txId : Nat} {amountOutputIndices : List Nat}
    (added : db.addTxAmountOutputIndices txId amountOutputIndices = some db') :
    db'.pruningView = db.pruningView := by
  rw [Lmdb.addTxAmountOutputIndices, Option.bind_eq_bind, Option.bind_eq_some_iff] at added
  obtain ⟨_, _, same⟩ := added
  cases same
  rfl

theorem addsTx_addTransactionData {tx : DbTransaction} {txHash prunableHash : Hash} {txId : Nat}
    (added : db.addTransactionData tx txHash prunableHash = some (txId, db')) :
    AddsTx db.pruningView db'.pruningView := by
  obtain ⟨rfl, _, pruned, prunable, _, same⟩ := Lmdb.addTransactionData_eq_some added
  refine ⟨txHash, db.getTxCount, tx.txPrefix.unlockTime, (tx.txPrefix, tx.outPkMasks),
    tx.prunable, pruned, prunable, ?_, ?_, ?_, ?_⟩ <;> rw [same] <;> rfl

theorem pruningView_addBlock {blk : Block} {blockWeight longTermBlockWeight cumulativeDifficulty : Nat}
    {coinsGenerated : UInt64} {numRctOuts : Nat} {blkHash : Hash}
    (added : db.addBlock blk blockWeight longTermBlockWeight cumulativeDifficulty coinsGenerated
      numRctOuts blkHash = some db') :
    db'.pruningView = { db.pruningView with height := db.height + 1 } := by
  obtain ⟨blocks, blockInfo, blockHeights, appended, rfl⟩ := Lmdb.addBlock_eq_some added
  obtain ⟨_, rfl⟩ := append_eq_some appended
  simp [Lmdb.pruningView, Lmdb.height]

theorem txsAdded_addTransaction {hashes : DbHashes} {tx : DbTransaction} {txHash : Option Hash}
    (added : addTransaction hashes tx txHash db = some db') :
    TxsAdded db.pruningView db'.pruningView := by
  unfold addTransaction at added
  obtain ⟨inputs, inputsAdded, added⟩ := Option.bind_eq_some_iff.mp added
  have inputsFrame := pruningView_addInputs _ _ _ _ _ inputsAdded
  cases inputs with
  | unsupported middle =>
      cases added
      rw [inputsFrame]
  | added minerTx middle =>
      obtain ⟨⟨txId, withData⟩, dataAdded, added⟩ := Option.bind_eq_some_iff.mp added
      obtain ⟨⟨indices, withOutputs⟩, outputsAdded, added⟩ := Option.bind_eq_some_iff.mp added
      have after : db'.pruningView = withData.pruningView := by
        rw [pruningView_addTxAmountOutputIndices added]
        split
        · rw [pruningView_addOutputBlacklist, pruningView_addOutputs _ _ _ _ _ _ _ _ _ outputsAdded]
        · rw [pruningView_addOutputs _ _ _ _ _ _ _ _ _ outputsAdded]
      rw [after, ← inputsFrame]
      exact Relation.ReflTransGen.single (addsTx_addTransactionData dataAdded)

theorem txsAdded_addTransactions {hashes : DbHashes} :
    ∀ (txs : List (Hash × DbTransaction)) (db db' : Lmdb),
      addTransactions hashes txs db = some db' → TxsAdded db.pruningView db'.pruningView
  | [], db, db', added => by
      rw [addTransactions] at added
      cases added
      exact Relation.ReflTransGen.refl
  | (txHash, tx) :: rest, db, db', added => by
      rw [addTransactions] at added
      obtain ⟨middle, first, added⟩ := Option.bind_eq_some_iff.mp added
      exact (txsAdded_addTransaction first).trans (txsAdded_addTransactions rest middle db' added)

theorem pruningView_addBlockWithTxs {hashes : DbHashes} {blk : Block}
    {blockWeight longTermBlockWeight cumulativeDifficulty : Nat} {coinsGenerated : UInt64}
    {txs : List DbTransaction} {prevHeight : Nat}
    (added : addBlock hashes blk blockWeight longTermBlockWeight cumulativeDifficulty coinsGenerated
      txs db = some (prevHeight, db')) :
    ∃ view, TxsAdded db.pruningView view ∧ db'.pruningView = { view with height := view.height + 1 } := by
  unfold addBlock at added
  split at added
  · cases added
  · obtain ⟨withMiner, minerAdded, added⟩ := Option.bind_eq_some_iff.mp added
    obtain ⟨withTxs, txsAdded, added⟩ := Option.bind_eq_some_iff.mp added
    obtain ⟨withBlock, blockAdded, same⟩ := Option.bind_eq_some_iff.mp added
    simp only [pure, Option.some.injEq, Prod.mk.injEq] at same
    obtain ⟨-, rfl⟩ := same
    exact ⟨withTxs.pruningView,
      (txsAdded_addTransaction minerAdded).trans (txsAdded_addTransactions _ _ _ txsAdded),
      pruningView_addBlock blockAdded⟩

end Frames

/-! ### Deleting what may be there -/

section Delete

variable {ν : Type} {key other : Nat} {table : List (Nat × ν)}

theorem find?_deleteIfPresent_self (nodup : (table.map Prod.fst).Nodup) :
    find? key (Lmdb.deleteIfPresent key table) = none := by
  unfold Lmdb.deleteIfPresent
  cases deleted : delete key table with
  | none => exact find?_eq_none_iff.mpr (fresh_of_delete_eq_none deleted)
  | some table' => exact find?_delete_self nodup deleted

theorem find?_deleteIfPresent_ne (ne : other ≠ key) :
    find? other (Lmdb.deleteIfPresent key table) = find? other table := by
  unfold Lmdb.deleteIfPresent
  cases deleted : delete key table with
  | none => rfl
  | some table' => exact find?_delete_ne ne deleted

theorem keys_nodup_deleteIfPresent (nodup : (table.map Prod.fst).Nodup) :
    ((Lmdb.deleteIfPresent key table).map Prod.fst).Nodup := by
  unfold Lmdb.deleteIfPresent
  cases deleted : delete key table with
  | none => exact nodup
  | some table' => exact keys_nodup_delete nodup deleted

end Delete

/-! ### The invariants

Before pruning, every indexed transaction has both blobs and there is no
tip entry. After a pass at height `passHeight` under `seed`, a transaction
keeps its prunable data unless the pass drops it, has a tip entry exactly
while its block is within the tip zone of that height, and the tip table
holds no other entry. Transactions added since are in the tip zone of the
pass's height, and keep everything. -/

/-- The state of a database no pass has pruned. -/
structure Unpruned (view : PruningView) : Prop where
  unseeded : view.pruningSeed = 0
  noTip : view.txsPrunableTip = []
  indexed : ∀ entry ∈ view.txIndices,
    (find? entry.2.txId view.txsPruned).isSome ∧ (find? entry.2.txId view.txsPrunable).isSome
  distinct : (view.txIndices.map (·.2.txId)).Nodup
  prunableKeys : (view.txsPrunable.map Prod.fst).Nodup

/-- The state a pass at height `passHeight` under `seed` leaves, kept by the
blocks added since. -/
structure PrunedAt (seed passHeight : Nat) (view : PruningView) : Prop where
  seeded : view.pruningSeed = seed
  made : ∃ stripe, makePruningSeed stripe cryptonotePruningLogStripes = some seed
  reached : passHeight ≤ view.height
  indexed : ∀ entry ∈ view.txIndices, (find? entry.2.txId view.txsPruned).isSome
  distinct : (view.txIndices.map (·.2.txId)).Nodup
  prunableKeys : (view.txsPrunable.map Prod.fst).Nodup
  tipKeys : (view.txsPrunableTip.map Prod.fst).Nodup
  prunable : ∀ entry ∈ view.txIndices, (find? entry.2.txId view.txsPrunable).isSome =
    (dropsPrunable seed passHeight view.txsPruned entry.2.txId entry.2.blockId != some true)
  tip : ∀ entry ∈ view.txIndices, find? entry.2.txId view.txsPrunableTip =
    if passHeight ≤ entry.2.blockId + cryptonotePruningTipBlocks then some entry.2.blockId
    else none
  tipIndexed : ∀ txId, (find? txId view.txsPrunableTip).isSome →
    ∃ entry ∈ view.txIndices, entry.2.txId = txId

theorem isV1Tx_append_ne {txsPruned txsPruned' : List (Nat × (Transaction × List RctKey))}
    {txId other : Nat} {pruned : Transaction × List RctKey}
    (appended : append txId pruned txsPruned = some txsPruned') (ne : other ≠ txId) :
    isV1Tx txsPruned' other = isV1Tx txsPruned other := by
  obtain ⟨_, rfl⟩ := append_eq_some appended
  rw [isV1Tx, isV1Tx, find?_append_ne ne]

theorem dropsPrunable_isSome {pruningSeed blockchainHeight txId blockHeight : Nat}
    {txsPruned : List (Nat × (Transaction × List RctKey))} (found : (find? txId txsPruned).isSome) :
    (dropsPrunable pruningSeed blockchainHeight txsPruned txId blockHeight).isSome := by
  unfold dropsPrunable isV1Tx
  split <;> simp [found]

theorem dropsPrunable_of_tip {pruningSeed blockchainHeight txId blockHeight : Nat}
    {txsPruned : List (Nat × (Transaction × List RctKey))}
    (inTip : blockchainHeight ≤ blockHeight + cryptonotePruningTipBlocks) :
    dropsPrunable pruningSeed blockchainHeight txsPruned txId blockHeight = some false := by
  rw [dropsPrunable, hasUnprunedBlock_of_tip pruningSeed inTip]
  rfl

theorem ne_of_indexed {view view' : PruningView} {txId : Nat} {pruned : Transaction × List RctKey}
    (appended : append txId pruned view.txsPruned = some view'.txsPruned)
    (indexed : ∀ entry ∈ view.txIndices, (find? entry.2.txId view.txsPruned).isSome) :
    ∀ entry ∈ view.txIndices, entry.2.txId ≠ txId :=
  fun entry member => ne_of_find?_of_append appended (indexed entry member)

theorem distinct_append {view : PruningView} {txId : Nat} {txHash : Hash} {unlockTime : UInt64}
    (distinct : (view.txIndices.map (·.2.txId)).Nodup)
    (fresh : ∀ entry ∈ view.txIndices, entry.2.txId ≠ txId) :
    ((view.txIndices ++ [(txHash, (⟨txId, unlockTime, view.height⟩ : TxData))]).map
      (·.2.txId)).Nodup := by
  rw [List.map_append, List.nodup_append]
  refine ⟨distinct, List.nodup_singleton _, ?_⟩
  intro old member new added same
  simp only [List.mem_map] at member
  simp only [List.map_cons, List.map_nil, List.mem_singleton] at added
  obtain ⟨entry, inIndex, rfl⟩ := member
  exact fresh entry inIndex (same.trans added)

theorem Unpruned.addsTx {view view' : PruningView} (unpruned : Unpruned view)
    (adds : AddsTx view view') : Unpruned view' := by
  obtain ⟨txHash, txId, unlockTime, pruned, prunable, prunedAppended, prunableAppended,
    indices, tip, seed, -⟩ := adds
  have fresh := ne_of_indexed prunedAppended fun entry member => (unpruned.indexed entry member).1
  refine ⟨seed.trans unpruned.unseeded, ?_, ?_, ?_, keys_nodup_append unpruned.prunableKeys
    prunableAppended⟩
  · rw [tip, if_neg (not_not.mpr unpruned.unseeded), unpruned.noTip]
  · rw [indices]
    intro entry member
    rcases List.mem_append.mp member with old | new
    · obtain ⟨inPruned, inPrunable⟩ := unpruned.indexed entry old
      obtain ⟨_, prunedEq⟩ := append_eq_some prunedAppended
      obtain ⟨_, prunableEq⟩ := append_eq_some prunableAppended
      rw [prunedEq, prunableEq, find?_append_ne (fresh entry old),
        find?_append_ne (fresh entry old)]
      exact ⟨inPruned, inPrunable⟩
    · rw [List.mem_singleton] at new
      subst new
      rw [find?_of_append prunedAppended, find?_of_append prunableAppended]
      exact ⟨rfl, rfl⟩
  · rw [indices]
    exact distinct_append unpruned.distinct fresh

theorem PrunedAt.addsTx {seed passHeight : Nat} {view view' : PruningView}
    (prunedAt : PrunedAt seed passHeight view) (adds : AddsTx view view') :
    PrunedAt seed passHeight view' := by
  obtain ⟨txHash, txId, unlockTime, pruned, prunable, prunedAppended, prunableAppended,
    indices, tip, seedKept, heightKept⟩ := adds
  have fresh := ne_of_indexed prunedAppended prunedAt.indexed
  have seeded : view.pruningSeed ≠ 0 := by
    obtain ⟨stripe, made⟩ := prunedAt.made
    rw [prunedAt.seeded]
    obtain ⟨rfl, -, -, -⟩ := makePruningSeed_fields made
    unfold cryptonotePruningLogStripes
    omega
  rw [if_pos seeded] at tip
  obtain ⟨_, prunedEq⟩ := append_eq_some prunedAppended
  obtain ⟨_, prunableEq⟩ := append_eq_some prunableAppended
  have newInTip : passHeight ≤ view.height + cryptonotePruningTipBlocks :=
    le_add_right prunedAt.reached
  refine ⟨seedKept.trans prunedAt.seeded, prunedAt.made, heightKept ▸ prunedAt.reached, ?_,
    indices ▸ distinct_append prunedAt.distinct fresh,
    keys_nodup_append prunedAt.prunableKeys prunableAppended,
    tip ▸ keys_nodup_put prunedAt.tipKeys, ?_, ?_, ?_⟩
  · rw [indices]
    intro entry member
    rcases List.mem_append.mp member with old | new
    · rw [prunedEq, find?_append_ne (fresh entry old)]
      exact prunedAt.indexed entry old
    · rw [List.mem_singleton] at new
      subst new
      rw [find?_of_append prunedAppended]
      rfl
  · rw [indices]
    intro entry member
    rcases List.mem_append.mp member with old | new
    · rw [prunableEq, find?_append_ne (fresh entry old), prunedAt.prunable entry old,
        dropsPrunable, dropsPrunable, isV1Tx_append_ne prunedAppended (fresh entry old)]
    · rw [List.mem_singleton] at new
      subst new
      rw [find?_of_append prunableAppended, dropsPrunable_of_tip newInTip]
      rfl
  · rw [indices]
    intro entry member
    rcases List.mem_append.mp member with old | new
    · rw [tip, find?_put_ne (fresh entry old)]
      exact prunedAt.tip entry old
    · rw [List.mem_singleton] at new
      subst new
      rw [tip, find?_put_self, if_pos newInTip]
  · intro other found
    rw [tip] at found
    by_cases isNew : other = txId
    · subst isNew
      exact ⟨(txHash, ⟨other, unlockTime, view.height⟩), indices ▸ List.mem_append_right _
        (List.mem_singleton_self _), rfl⟩
    · rw [find?_put_ne isNew] at found
      obtain ⟨entry, member, same⟩ := prunedAt.tipIndexed other found
      exact ⟨entry, indices ▸ List.mem_append_left _ member, same⟩

theorem PrunedAt.raise {seed passHeight : Nat} {view : PruningView}
    (prunedAt : PrunedAt seed passHeight view) :
    PrunedAt seed passHeight { view with height := view.height + 1 } :=
  { prunedAt with reached := Nat.le_succ_of_le prunedAt.reached }

theorem Unpruned.raise {view : PruningView} (unpruned : Unpruned view) :
    Unpruned { view with height := view.height + 1 } :=
  { unpruned with }

theorem Unpruned.txsAdded {view view' : PruningView} (unpruned : Unpruned view)
    (added : TxsAdded view view') : Unpruned view' := by
  induction added with
  | refl => exact unpruned
  | tail _ step ih => exact ih.addsTx step

theorem PrunedAt.txsAdded {seed passHeight : Nat} {view view' : PruningView}
    (prunedAt : PrunedAt seed passHeight view) (added : TxsAdded view view') :
    PrunedAt seed passHeight view' := by
  induction added with
  | refl => exact prunedAt
  | tail _ step ih => exact ih.addsTx step

/-! ### Runs -/

/-- The arguments of one `BlockchainDB::add_block` call. -/
structure AddBlockCall where
  hashes : DbHashes
  blk : Block
  blockWeight : Nat
  longTermBlockWeight : Nat
  cumulativeDifficulty : Nat
  coinsGenerated : UInt64
  txs : List DbTransaction

def AddBlockCall.run (call : AddBlockCall) (db : Lmdb) : Lmdb :=
  match addBlock call.hashes call.blk call.blockWeight call.longTermBlockWeight
      call.cumulativeDifficulty call.coinsGenerated call.txs db with
  | some (_, db') => db'
  | none => db

def buildChain (calls : List AddBlockCall) : Lmdb :=
  calls.foldl (fun db call => call.run db) Lmdb.empty

/-- What happens to a pruned database: blocks are added, and
`Blockchain::update_blockchain_pruning` runs the update pass. -/
inductive PruningOp
  | addBlock (call : AddBlockCall)
  | updatePruning

def PruningOp.run : PruningOp → Lmdb → Lmdb
  | .addBlock call, db => call.run db
  | .updatePruning, db => (BlockchainDb.updatePruning db).getD db

def runPruningOps (ops : List PruningOp) (db : Lmdb) : Lmdb :=
  ops.foldl (fun db op => op.run db) db

theorem Unpruned.run {db : Lmdb} (unpruned : Unpruned db.pruningView) (call : AddBlockCall) :
    Unpruned (call.run db).pruningView := by
  unfold AddBlockCall.run
  split
  · next added =>
      obtain ⟨view, txsAdded, raised⟩ := pruningView_addBlockWithTxs added
      rw [raised]
      exact (unpruned.txsAdded txsAdded).raise
  · exact unpruned

theorem PrunedAt.run {seed passHeight : Nat} {db : Lmdb}
    (prunedAt : PrunedAt seed passHeight db.pruningView) (call : AddBlockCall) :
    PrunedAt seed passHeight (call.run db).pruningView := by
  unfold AddBlockCall.run
  split
  · next added =>
      obtain ⟨view, txsAdded, raised⟩ := pruningView_addBlockWithTxs added
      rw [raised]
      exact (prunedAt.txsAdded txsAdded).raise
  · exact prunedAt

theorem unpruned_buildChain (calls : List AddBlockCall) :
    Unpruned (buildChain calls).pruningView := by
  unfold buildChain
  induction calls using List.reverseRecOn with
  | nil => exact ⟨rfl, rfl, (fun _ member => by cases member), List.nodup_nil, List.nodup_nil⟩
  | append_singleton calls call ih =>
      rw [List.foldl_append, List.foldl_cons, List.foldl_nil]
      exact ih.run call

/-! ### The passes -/

theorem pruneIndexEntry_prune {pruningSeed blockchainHeight : Nat}
    {txsPruned : List (Nat × (Transaction × List RctKey))} {pass : IndexPass}
    {entry : Hash × TxData} {drop : Bool}
    (drops : dropsPrunable pruningSeed blockchainHeight txsPruned entry.2.txId entry.2.blockId =
      some drop) :
    pruneIndexEntry .prune pruningSeed blockchainHeight txsPruned pass entry =
      some { pass with tables :=
        { txsPrunable :=
            if drop then Lmdb.deleteIfPresent entry.2.txId pass.tables.txsPrunable
            else pass.tables.txsPrunable
          txsPrunableTip :=
            if blockchainHeight ≤ entry.2.blockId + cryptonotePruningTipBlocks then
              put entry.2.txId entry.2.blockId pass.tables.txsPrunableTip
            else pass.tables.txsPrunableTip } } := by
  unfold pruneIndexEntry
  by_cases inTip : blockchainHeight ≤ entry.2.blockId + cryptonotePruningTipBlocks <;>
    cases drop <;> simp [inTip, drops]

theorem pruneTipEntry_eq {pruningSeed blockchainHeight : Nat}
    {txsPruned : List (Nat × (Transaction × List RctKey))} {tables : PrunableTables}
    {entry : Nat × Nat} {drop : Bool}
    (drops : dropsPrunable pruningSeed blockchainHeight txsPruned entry.1 entry.2 = some drop) :
    pruneTipEntry pruningSeed blockchainHeight txsPruned tables entry =
      some (if entry.2 + cryptonotePruningTipBlocks < blockchainHeight then
        ⟨if drop then Lmdb.deleteIfPresent entry.1 tables.txsPrunable else tables.txsPrunable,
          Lmdb.deleteIfPresent entry.1 tables.txsPrunableTip⟩
        else tables) := by
  unfold pruneTipEntry
  split
  · rw [drops]
    rfl
  · rfl

theorem pruneIndexEntry_check {pruningSeed blockchainHeight : Nat}
    {txsPruned : List (Nat × (Transaction × List RctKey))} {pass : IndexPass}
    {entry : Hash × TxData} {drop : Bool}
    (drops : dropsPrunable pruningSeed blockchainHeight txsPruned entry.2.txId entry.2.blockId =
      some drop)
    (tipHeld : blockchainHeight ≤ entry.2.blockId + cryptonotePruningTipBlocks →
      (find? entry.2.txId pass.tables.txsPrunableTip).isSome)
    (prunableHeld : (find? entry.2.txId pass.tables.txsPrunable).isSome = !drop) :
    pruneIndexEntry .check pruningSeed blockchainHeight txsPruned pass entry = some pass := by
  have prunableCases : (drop = false ∧ ∃ blob, find? entry.2.txId pass.tables.txsPrunable = some blob) ∨
      (drop = true ∧ find? entry.2.txId pass.tables.txsPrunable = none) := by
    cases drop
    · exact Or.inl ⟨rfl, Option.isSome_iff_exists.mp prunableHeld⟩
    · exact Or.inr ⟨rfl, Option.not_isSome_iff_eq_none.mp (by simpa using prunableHeld)⟩
  unfold pruneIndexEntry
  by_cases inTip : blockchainHeight ≤ entry.2.blockId + cryptonotePruningTipBlocks
  · obtain ⟨height, tipFound⟩ := Option.isSome_iff_exists.mp (tipHeld inTip)
    rcases prunableCases with ⟨rfl, blob, blobFound⟩ | ⟨rfl, gone⟩
    · simp [inTip, drops, tipFound, blobFound]
    · simp [inTip, drops, tipFound, gone]
  · rcases prunableCases with ⟨rfl, blob, blobFound⟩ | ⟨rfl, gone⟩
    · simp [inTip, drops, blobFound]
    · simp [inTip, drops, gone]

def TablesGood (tables : PrunableTables) : Prop :=
  (tables.txsPrunable.map Prod.fst).Nodup ∧ (tables.txsPrunableTip.map Prod.fst).Nodup

def tablesAt (tables : PrunableTables) (txId : Nat) : Option (List UInt8) × Option Nat :=
  (find? txId tables.txsPrunable, find? txId tables.txsPrunableTip)

/-- What the walk over `tx_indices` leaves under the entry's id: the
prunable data unless the seed drops it, and a tip entry in the tip zone. -/
def indexUpdate (pruningSeed blockchainHeight : Nat)
    (txsPruned : List (Nat × (Transaction × List RctKey))) (entry : Hash × TxData)
    (held : Option (List UInt8) × Option Nat) : Option (List UInt8) × Option Nat :=
  (if dropsPrunable pruningSeed blockchainHeight txsPruned entry.2.txId entry.2.blockId = some true
    then none else held.1,
   if blockchainHeight ≤ entry.2.blockId + cryptonotePruningTipBlocks then some entry.2.blockId
    else held.2)

/-- What the walk over `txs_prunable_tip` leaves under the entry's id: past
the tip zone, no tip entry, and the prunable data unless the seed drops it. -/
def tipUpdate (pruningSeed blockchainHeight : Nat)
    (txsPruned : List (Nat × (Transaction × List RctKey))) (entry : Nat × Nat)
    (held : Option (List UInt8) × Option Nat) : Option (List UInt8) × Option Nat :=
  if entry.2 + cryptonotePruningTipBlocks < blockchainHeight then
    (if dropsPrunable pruningSeed blockchainHeight txsPruned entry.1 entry.2 = some true then none
      else held.1, none)
  else held

theorem pruneIndexEntry_pointwise {pruningSeed blockchainHeight : Nat}
    {txsPruned : List (Nat × (Transaction × List RctKey))} {entry : Hash × TxData}
    (found : (find? entry.2.txId txsPruned).isSome) :
    Pointwise (fun pass : IndexPass => pass.errors = [] ∧ TablesGood pass.tables)
      (pruneIndexEntry .prune pruningSeed blockchainHeight txsPruned) (·.2.txId)
      (fun pass => tablesAt pass.tables) (indexUpdate pruningSeed blockchainHeight txsPruned)
      entry := by
  intro pass ⟨noErrors, prunableKeys, tipKeys⟩
  obtain ⟨drop, drops⟩ := Option.isSome_iff_exists.mp (dropsPrunable_isSome found)
  refine ⟨_, pruneIndexEntry_prune drops, ⟨noErrors, ?_, ?_⟩, ?_, ?_⟩
  · dsimp only
    split
    · exact keys_nodup_deleteIfPresent prunableKeys
    · exact prunableKeys
  · dsimp only
    split
    · exact keys_nodup_put tipKeys
    · exact tipKeys
  · unfold tablesAt indexUpdate
    rw [drops]
    cases drop <;> by_cases inTip : blockchainHeight ≤ entry.2.blockId + cryptonotePruningTipBlocks <;>
      simp [inTip, find?_deleteIfPresent_self prunableKeys, find?_put_self]
  · intro other differs
    unfold tablesAt
    cases drop <;> by_cases inTip : blockchainHeight ≤ entry.2.blockId + cryptonotePruningTipBlocks <;>
      simp [inTip, find?_deleteIfPresent_ne differs, find?_put_ne differs]

theorem pruneTipEntry_pointwise {pruningSeed blockchainHeight : Nat}
    {txsPruned : List (Nat × (Transaction × List RctKey))} {entry : Nat × Nat}
    (found : (find? entry.1 txsPruned).isSome) :
    Pointwise TablesGood (pruneTipEntry pruningSeed blockchainHeight txsPruned) Prod.fst tablesAt
      (tipUpdate pruningSeed blockchainHeight txsPruned) entry := by
  intro tables ⟨prunableKeys, tipKeys⟩
  obtain ⟨drop, drops⟩ := Option.isSome_iff_exists.mp (dropsPrunable_isSome found)
  refine ⟨_, pruneTipEntry_eq drops, ?_, ?_, ?_⟩
  · split
    · refine ⟨?_, keys_nodup_deleteIfPresent tipKeys⟩
      split
      · exact keys_nodup_deleteIfPresent prunableKeys
      · exact prunableKeys
    · exact ⟨prunableKeys, tipKeys⟩
  · unfold tablesAt tipUpdate
    rw [drops]
    cases drop <;> by_cases left : entry.2 + cryptonotePruningTipBlocks < blockchainHeight <;>
      simp [left, find?_deleteIfPresent_self prunableKeys, find?_deleteIfPresent_self tipKeys]
  · intro other differs
    unfold tablesAt
    cases drop <;> by_cases left : entry.2 + cryptonotePruningTipBlocks < blockchainHeight <;>
      simp [left, find?_deleteIfPresent_ne differs]

theorem prunedAt_prunePass {seed : Nat} {db : Lmdb}
    (made : ∃ stripe, makePruningSeed stripe cryptonotePruningLogStripes = some seed)
    (unpruned : Unpruned db.pruningView) :
    ∃ db', prunePass .prune seed false { db with pruningSeed := seed } = some (db', []) ∧
      db'.height = db.height ∧ PrunedAt seed db.height db'.pruningView := by
  have noTip : db.txsPrunableTip = [] := unpruned.noTip
  have pointwise : ∀ entry ∈ db.txIndices,
      Pointwise (fun pass : IndexPass => pass.errors = [] ∧ TablesGood pass.tables)
        (pruneIndexEntry .prune seed db.height db.txsPruned) (·.2.txId)
        (fun pass => tablesAt pass.tables) (indexUpdate seed db.height db.txsPruned) entry :=
    fun entry member => pruneIndexEntry_pointwise (unpruned.indexed entry member).1
  obtain ⟨pass, passed, ⟨noErrors, prunableKeys, tipKeys⟩, atKey, elsewhere⟩ :=
    foldlM_pointwise db.txIndices ⟨⟨db.txsPrunable, db.txsPrunableTip⟩, []⟩
      ⟨rfl, unpruned.prunableKeys, by rw [noTip]; exact List.nodup_nil⟩ unpruned.distinct pointwise
  refine ⟨{ db with pruningSeed := seed, txsPrunable := pass.tables.txsPrunable,
                    txsPrunableTip := pass.tables.txsPrunableTip }, ?_, rfl, ?_⟩
  · unfold prunePass
    rw [if_neg Bool.false_ne_true]
    simp only [Lmdb.height] at passed ⊢
    rw [passed, ← noErrors]
    rfl
  · refine ⟨rfl, made, le_rfl, fun entry member => (unpruned.indexed entry member).1,
      unpruned.distinct, prunableKeys, tipKeys, ?_, ?_, ?_⟩
    · intro entry member
      have kept : find? entry.2.txId pass.tables.txsPrunable = _ :=
        (Prod.ext_iff.mp (atKey entry member)).1
      simp only [tablesAt, indexUpdate] at kept
      obtain ⟨blob, blobFound⟩ : ∃ blob, find? entry.2.txId db.txsPrunable = some blob :=
        Option.isSome_iff_exists.mp (unpruned.indexed entry member).2
      show (find? entry.2.txId pass.tables.txsPrunable).isSome =
        (dropsPrunable seed db.height db.txsPruned entry.2.txId entry.2.blockId != some true)
      rw [kept, blobFound]
      split
      · next dropped => rw [dropped]; rfl
      · next kept => rw [bne_iff_ne.mpr kept]; rfl
    · intro entry member
      have kept := (Prod.ext_iff.mp (atKey entry member)).2
      simp only [tablesAt, indexUpdate, noTip] at kept
      exact kept
    · intro txId found
      by_contra unindexed
      have absent : txId ∉ db.txIndices.map (·.2.txId) := fun inIndex => by
        obtain ⟨entry, member, same⟩ := List.mem_map.mp inIndex
        exact unindexed ⟨entry, member, same⟩
      have untouched : find? txId pass.tables.txsPrunableTip = find? txId db.txsPrunableTip :=
        (Prod.ext_iff.mp (elsewhere txId absent)).2
      change (find? txId pass.tables.txsPrunableTip).isSome at found
      rw [untouched, noTip] at found
      simp [find?] at found

theorem PrunedAt.prunable_of_tip {seed passHeight : Nat} {view : PruningView}
    (prunedAt : PrunedAt seed passHeight view) {entry : Hash × TxData}
    (member : entry ∈ view.txIndices)
    (inTip : passHeight ≤ entry.2.blockId + cryptonotePruningTipBlocks) :
    (find? entry.2.txId view.txsPrunable).isSome := by
  rw [prunedAt.prunable entry member, dropsPrunable_of_tip inTip]
  rfl

theorem PrunedAt.prunable_of_left {seed passHeight : Nat} {view : PruningView}
    (prunedAt : PrunedAt seed passHeight view) {entry : Hash × TxData}
    (member : entry ∈ view.txIndices)
    (left : entry.2.blockId + cryptonotePruningTipBlocks < passHeight) :
    (find? entry.2.txId view.txsPrunable).isSome =
      (dropsPrunable seed view.height view.txsPruned entry.2.txId entry.2.blockId != some true) := by
  rw [prunedAt.prunable entry member, dropsPrunable, dropsPrunable,
    hasUnprunedBlock_of_left_tip seed left prunedAt.reached]

theorem prunedAt_pruneTipPass {seed passHeight : Nat} {db : Lmdb}
    (prunedAt : PrunedAt seed passHeight db.pruningView) :
    ∃ db', prunePass .update seed true db = some (db', []) ∧
      db'.height = db.height ∧ PrunedAt seed db.height db'.pruningView := by
  have reached : passHeight ≤ db.height := prunedAt.reached
  have tipFound : ∀ entry ∈ db.txsPrunableTip, find? entry.1 db.txsPrunableTip = some entry.2 :=
    fun entry member => find?_of_mem prunedAt.tipKeys member
  have tipPruned : ∀ entry ∈ db.txsPrunableTip, (find? entry.1 db.txsPruned).isSome := by
    intro entry member
    obtain ⟨indexed, inIndex, same⟩ :=
      prunedAt.tipIndexed entry.1 (Option.isSome_iff_exists.mpr ⟨_, tipFound entry member⟩)
    rw [← same]
    exact prunedAt.indexed indexed inIndex
  obtain ⟨tables, passed, ⟨prunableKeys, tipKeys⟩, atKey, elsewhere⟩ :=
    foldlM_pointwise db.txsPrunableTip ⟨db.txsPrunable, db.txsPrunableTip⟩
      ⟨prunedAt.prunableKeys, prunedAt.tipKeys⟩ prunedAt.tipKeys
      fun entry member => pruneTipEntry_pointwise (tipPruned entry member)
  have leaves : ∀ entry ∈ db.txIndices,
      (find? entry.2.txId tables.txsPrunable).isSome =
        (dropsPrunable seed db.height db.txsPruned entry.2.txId entry.2.blockId != some true) ∧
      find? entry.2.txId tables.txsPrunableTip =
        if db.height ≤ entry.2.blockId + cryptonotePruningTipBlocks then some entry.2.blockId
        else none := by
    intro entry member
    have tip : find? entry.2.txId db.txsPrunableTip = _ := prunedAt.tip entry member
    by_cases inPassTip : passHeight ≤ entry.2.blockId + cryptonotePruningTipBlocks
    · rw [if_pos inPassTip] at tip
      have held : (find? entry.2.txId db.txsPrunable).isSome :=
        prunedAt.prunable_of_tip member inPassTip
      have walked := atKey (entry.2.txId, entry.2.blockId) (mem_of_find?_eq_some tip)
      dsimp only [tipUpdate] at walked
      by_cases inTip : db.height ≤ entry.2.blockId + cryptonotePruningTipBlocks
      · rw [if_neg (show ¬entry.2.blockId + cryptonotePruningTipBlocks < db.height by omega)]
          at walked
        simp only [tablesAt, Prod.mk.injEq] at walked
        rw [walked.1, walked.2, tip, dropsPrunable_of_tip inTip, if_pos inTip]
        exact ⟨held, rfl⟩
      · rw [if_pos (show entry.2.blockId + cryptonotePruningTipBlocks < db.height by omega)]
          at walked
        simp only [tablesAt, Prod.mk.injEq] at walked
        rw [walked.1, walked.2, if_neg inTip]
        refine ⟨?_, rfl⟩
        split
        · next dropped => rw [dropped]; rfl
        · next kept => rw [held, bne_iff_ne.mpr kept]
    · rw [if_neg inPassTip] at tip
      have absent : entry.2.txId ∉ db.txsPrunableTip.map Prod.fst := by
        intro inTable
        obtain ⟨other, otherMember, same⟩ := List.mem_map.mp inTable
        exact find?_eq_none_iff.mp tip other otherMember same
      have untouched := elsewhere _ absent
      simp only [tablesAt, Prod.mk.injEq] at untouched
      rw [untouched.1, untouched.2, tip, if_neg (by omega)]
      exact ⟨prunedAt.prunable_of_left member (by omega), rfl⟩
  refine ⟨{ db with txsPrunable := tables.txsPrunable, txsPrunableTip := tables.txsPrunableTip },
    ?_, rfl, ?_⟩
  · unfold prunePass
    rw [if_pos rfl, passed]
    rfl
  · refine ⟨prunedAt.seeded, prunedAt.made, le_rfl, prunedAt.indexed, prunedAt.distinct,
      prunableKeys, tipKeys, fun entry member => (leaves entry member).1,
      fun entry member => (leaves entry member).2, ?_⟩
    intro txId found
    change (find? txId tables.txsPrunableTip).isSome at found
    by_cases inTable : txId ∈ db.txsPrunableTip.map Prod.fst
    · obtain ⟨entry, member, rfl⟩ := List.mem_map.mp inTable
      exact prunedAt.tipIndexed entry.1 (Option.isSome_iff_exists.mpr ⟨_, tipFound entry member⟩)
    · have untouched : find? txId tables.txsPrunableTip = find? txId db.txsPrunableTip :=
        (Prod.ext_iff.mp (elsewhere txId inTable)).2
      rw [untouched] at found
      exact prunedAt.tipIndexed txId found

theorem checkPass_of_prunedAt {seed : Nat} {db : Lmdb}
    (prunedAt : PrunedAt seed db.height db.pruningView) :
    prunePass .check seed false db = some (db, []) := by
  have unchanged : ∀ entry ∈ db.txIndices,
      pruneIndexEntry .check seed db.height db.txsPruned ⟨⟨db.txsPrunable, db.txsPrunableTip⟩, []⟩
        entry = some ⟨⟨db.txsPrunable, db.txsPrunableTip⟩, []⟩ := by
    intro entry member
    obtain ⟨drop, drops⟩ := Option.isSome_iff_exists.mp
      (dropsPrunable_isSome (prunedAt.indexed entry member))
    refine pruneIndexEntry_check drops (fun inTip => ?_) ?_
    · have tip : find? entry.2.txId db.txsPrunableTip = _ := prunedAt.tip entry member
      rw [tip, if_pos inTip]
      rfl
    · have kept : (find? entry.2.txId db.txsPrunable).isSome = _ := prunedAt.prunable entry member
      rw [kept, drops]
      cases drop <;> rfl
  unfold prunePass
  rw [if_neg Bool.false_ne_true]
  simp only [Lmdb.height] at unchanged ⊢
  rw [foldlM_of_forall_eq db.txIndices unchanged]
  rfl

/-! ### The calls -/

theorem prunePass_frame {mode : PruneMode} {seed : Nat} {pruneTipTable : Bool} {db : Lmdb}
    {result : Lmdb × List PruningError} (passed : prunePass mode seed pruneTipTable db = some result) :
    result.1.txIndices = db.txIndices ∧ result.1.txsPruned = db.txsPruned ∧
      result.1.height = db.height := by
  unfold prunePass at passed
  split at passed
  all_goals
    obtain ⟨_, -, returned⟩ := Option.bind_eq_some_iff.mp passed
    cases returned
    exact ⟨rfl, rfl, rfl⟩

theorem pruneWorker_frame {mode : PruneMode} {pruningSeed : Nat} {random : UInt8} {db : Lmdb}
    {result : Lmdb × List PruningError} (ran : pruneWorker mode pruningSeed random db = some result) :
    result.1.txIndices = db.txIndices ∧ result.1.txsPruned = db.txsPruned ∧
      result.1.height = db.height := by
  unfold pruneWorker at ran
  dsimp only at ran
  split_ifs at ran
  all_goals first
    | (cases ran <;> exact ⟨rfl, rfl, rfl⟩)
    | obtain ⟨seed, -, passed⟩ := Option.bind_eq_some_iff.mp ran
      obtain ⟨indices, pruned, height⟩ := prunePass_frame passed
      exact ⟨indices, pruned, height⟩

theorem pruneBlockchain_frame {pruningSeed : Nat} {random : UInt8} {db pruned : Lmdb}
    (accepted : pruneBlockchain pruningSeed random db = some pruned) :
    pruned.txIndices = db.txIndices ∧ pruned.txsPruned = db.txsPruned ∧ pruned.height = db.height := by
  obtain ⟨result, ran, rfl⟩ := Option.map_eq_some_iff.mp accepted
  exact pruneWorker_frame ran

theorem updatePruning_frame (db : Lmdb) :
    ((updatePruning db).getD db).txIndices = db.txIndices ∧
      ((updatePruning db).getD db).txsPruned = db.txsPruned ∧
      ((updatePruning db).getD db).height = db.height := by
  unfold updatePruning
  cases ran : pruneWorker .update 0 0 db with
  | none => exact ⟨rfl, rfl, rfl⟩
  | some result => exact pruneWorker_frame ran

theorem pruneWorker_of_stored {mode : PruneMode} {seed : Nat} {random : UInt8} {db : Lmdb}
    (stored : db.pruningSeed = seed)
    (made : ∃ stripe, makePruningSeed stripe cryptonotePruningLogStripes = some seed) :
    pruneWorker mode 0 random db = prunePass mode seed (mode = .update) db := by
  obtain ⟨stripe, seeded⟩ := made
  have stripeOf : getPruningStripe seed = stripe :=
    getPruningStripe_of_seed seeded (by decide)
  have logOf : getPruningLogStripes seed = cryptonotePruningLogStripes :=
    getPruningLogStripes_of_seed seeded
  have seedNonzero : seed ≠ 0 := by
    obtain ⟨rfl, -, -, -⟩ := makePruningSeed_fields seeded
    unfold cryptonotePruningLogStripes
    omega
  unfold pruneWorker
  simp only [show getPruningLogStripes 0 = 0 from rfl, show getPruningStripe 0 = 0 from rfl]
  rw [if_neg (by simp), if_neg (by simp), stored, if_neg seedNonzero, if_pos trivial,
    if_neg (by simp), if_neg (by rw [logOf]; simp), stripeOf, seeded]
  rfl

theorem pruneWorker_of_unseeded {pruningSeed : Nat} {random : UInt8} {db : Lmdb}
    {result : Lmdb × List PruningError} (unseeded : db.pruningSeed = 0)
    (accepted : pruneWorker .prune pruningSeed random db = some result) :
    ∃ seed, makePruningSeed
        (if getPruningStripe pruningSeed = 0 then getRandomStripe random
          else getPruningStripe pruningSeed) cryptonotePruningLogStripes = some seed ∧
      prunePass .prune seed false { db with pruningSeed := seed } = some result := by
  unfold pruneWorker at accepted
  dsimp only at accepted
  rw [if_pos unseeded, if_neg (show ¬PruneMode.prune ≠ .prune from not_not.mpr rfl)] at accepted
  split at accepted
  · cases accepted
  · split at accepted
    · cases accepted
    · exact Option.bind_eq_some_iff.mp accepted

theorem makePruningSeed_of_asked {pruningSeed stripe : Nat} (random : UInt8)
    (asked : makePruningSeed stripe cryptonotePruningLogStripes = some pruningSeed) :
    makePruningSeed
        (if getPruningStripe pruningSeed = 0 then getRandomStripe random
          else getPruningStripe pruningSeed) cryptonotePruningLogStripes = some pruningSeed := by
  obtain ⟨-, -, positive, -⟩ := makePruningSeed_fields asked
  rw [getPruningStripe_of_seed asked (by decide), if_neg (by omega), asked]

theorem prunedAt_pruneBlockchain {pruningSeed : Nat} {random : UInt8} {db pruned : Lmdb}
    (unpruned : Unpruned db.pruningView)
    (accepted : pruneBlockchain pruningSeed random db = some pruned) :
    PrunedAt pruned.pruningSeed pruned.height pruned.pruningView ∧
      ∀ stripe, makePruningSeed stripe cryptonotePruningLogStripes = some pruningSeed →
        pruned.pruningSeed = pruningSeed := by
  obtain ⟨result, workerAccepted, rfl⟩ := Option.map_eq_some_iff.mp accepted
  obtain ⟨seed, made, passed⟩ := pruneWorker_of_unseeded unpruned.unseeded workerAccepted
  obtain ⟨db', passed', sameHeight, prunedAt⟩ := prunedAt_prunePass ⟨_, made⟩ unpruned
  rw [passed'] at passed
  cases passed
  have seeded : db'.pruningSeed = seed := prunedAt.seeded
  refine ⟨?_, fun stripe asked => ?_⟩
  · rw [seeded, sameHeight]
    exact prunedAt
  · rw [seeded]
    exact Option.some.inj (made.symm.trans (makePruningSeed_of_asked random asked))

theorem pruneBlockchain_of_unpruned {pruningSeed stripe : Nat} (random : UInt8) {db : Lmdb}
    (unpruned : Unpruned db.pruningView)
    (asked : makePruningSeed stripe cryptonotePruningLogStripes = some pruningSeed) :
    ∃ pruned, pruneBlockchain pruningSeed random db = some pruned := by
  obtain ⟨db', passed, -, -⟩ := prunedAt_prunePass ⟨stripe, asked⟩ unpruned
  obtain ⟨-, -, positive, atMost⟩ := makePruningSeed_fields asked
  have eightAtMost : stripe ≤ 8 := by simpa [cryptonotePruningLogStripes] using atMost
  have unseeded : db.pruningSeed = 0 := unpruned.unseeded
  refine ⟨db', ?_⟩
  unfold pruneBlockchain pruneWorker
  simp only [getPruningLogStripes_of_seed asked, getPruningStripe_of_seed asked (by decide),
    unseeded, ne_eq, not_true_eq_false, and_false, if_false, if_true]
  rw [if_neg (by simp [cryptonotePruningLogStripes]; omega), if_neg (by omega), asked]
  simp only [bind, Option.bind_some, passed]
  rfl

theorem PrunedAt.update {seed passHeight : Nat} {db : Lmdb}
    (prunedAt : PrunedAt seed passHeight db.pruningView) :
    ∃ db', updatePruning db = some db' ∧ db'.height = db.height ∧
      PrunedAt seed db.height db'.pruningView := by
  obtain ⟨db', passed, sameHeight, prunedAt'⟩ := prunedAt_pruneTipPass prunedAt
  refine ⟨db', ?_, sameHeight, prunedAt'⟩
  unfold updatePruning
  rw [pruneWorker_of_stored prunedAt.seeded prunedAt.made]
  show (·.1) <$> prunePass .update seed true db = some db'
  rw [passed]
  rfl

theorem checkPruning_of_prunedAt {seed : Nat} {db : Lmdb}
    (prunedAt : PrunedAt seed db.height db.pruningView) : checkPruning db = some [] := by
  unfold checkPruning
  rw [pruneWorker_of_stored prunedAt.seeded prunedAt.made]
  show (·.2) <$> prunePass .check seed false db = some []
  rw [checkPass_of_prunedAt prunedAt]
  rfl

theorem runPruningOps_append_singleton (ops : List PruningOp) (op : PruningOp) (db : Lmdb) :
    runPruningOps (ops ++ [op]) db = op.run (runPruningOps ops db) := by
  simp [runPruningOps]

theorem prunedAt_runPruningOps {seed passHeight : Nat} {db : Lmdb}
    (prunedAt : PrunedAt seed passHeight db.pruningView) (ops : List PruningOp) :
    ∃ lastPass, PrunedAt seed lastPass (runPruningOps ops db).pruningView ∧
      (ops.getLast? = some .updatePruning → lastPass = (runPruningOps ops db).height) := by
  induction ops using List.reverseRecOn with
  | nil => exact ⟨passHeight, prunedAt, fun last => by cases last⟩
  | append_singleton ops op ih =>
      obtain ⟨lastPass, before, -⟩ := ih
      rw [runPruningOps_append_singleton, List.getLast?_concat]
      cases op with
      | addBlock call => exact ⟨lastPass, before.run call, fun last => by cases last⟩
      | updatePruning =>
          obtain ⟨db', updated, sameHeight, after⟩ := before.update
          refine ⟨(runPruningOps ops db).height, ?_, fun _ => ?_⟩
          · rw [PruningOp.run, updated, Option.getD_some]
            exact after
          · rw [PruningOp.run, updated, Option.getD_some, sameHeight]

/-! ### What a pruned database promises -/

/-- The data a database keeps under its seed: a seed of this base; the
prunable data of every transaction of version 1, or whose block the seed
keeps; a tip entry for every transaction in the tip zone and for no other;
and a check that finds nothing to report. -/
structure KeepsSeedPromise (db : Lmdb) : Prop where
  seedValid : ∃ stripe, makePruningSeed stripe cryptonotePruningLogStripes = some db.pruningSeed
  prunable : ∀ entry ∈ db.txIndices, ∃ tx, find? entry.2.txId db.txsPruned = some tx ∧
    ((find? entry.2.txId db.txsPrunable).isSome ↔
      tx.1.version ≤ 1 ∨ hasUnprunedBlock entry.2.blockId db.height db.pruningSeed)
  tip : ∀ entry ∈ db.txIndices, find? entry.2.txId db.txsPrunableTip =
    if db.height ≤ entry.2.blockId + cryptonotePruningTipBlocks then some entry.2.blockId
    else none
  tipIndexed : ∀ txId, (find? txId db.txsPrunableTip).isSome →
    ∃ entry ∈ db.txIndices, entry.2.txId = txId
  checked : checkPruning db = some []

theorem PrunedAt.prunable_iff {seed : Nat} {view : PruningView}
    (prunedAt : PrunedAt seed view.height view) {entry : Hash × TxData}
    (member : entry ∈ view.txIndices) :
    ∃ tx, find? entry.2.txId view.txsPruned = some tx ∧
      ((find? entry.2.txId view.txsPrunable).isSome ↔
        tx.1.version ≤ 1 ∨ hasUnprunedBlock entry.2.blockId view.height seed) := by
  obtain ⟨tx, found⟩ := Option.isSome_iff_exists.mp (prunedAt.indexed entry member)
  refine ⟨tx, found, ?_⟩
  rw [prunedAt.prunable entry member, dropsPrunable, isV1Tx, found]
  cases hasUnprunedBlock entry.2.blockId view.height seed <;>
    by_cases v1 : tx.1.version ≤ 1 <;> simp [v1]

theorem PrunedAt.keepsSeedPromise {seed : Nat} {db : Lmdb}
    (prunedAt : PrunedAt seed db.height db.pruningView) : KeepsSeedPromise db := by
  have seeded : db.pruningSeed = seed := prunedAt.seeded
  refine ⟨seeded ▸ prunedAt.made, fun entry member => ?_, prunedAt.tip, prunedAt.tipIndexed,
    checkPruning_of_prunedAt prunedAt⟩
  rw [seeded]
  exact prunedAt.prunable_iff (show entry ∈ db.pruningView.txIndices from member)

theorem pruned_database_matches_seed {calls : List AddBlockCall} {pruningSeed : Nat}
    {random : UInt8} {pruned : Lmdb}
    (accepted : pruneBlockchain pruningSeed random (buildChain calls) = some pruned)
    (ops : List PruningOp) (afterPass : ops = [] ∨ ops.getLast? = some .updatePruning) :
    KeepsSeedPromise (runPruningOps ops pruned) ∧
      ∀ stripe, makePruningSeed stripe cryptonotePruningLogStripes = some pruningSeed →
        (runPruningOps ops pruned).pruningSeed = pruningSeed := by
  obtain ⟨prunedAt, asked⟩ := prunedAt_pruneBlockchain (unpruned_buildChain calls) accepted
  obtain ⟨lastPass, finalPruned, lastUpdate⟩ := prunedAt_runPruningOps prunedAt ops
  have seedKept : (runPruningOps ops pruned).pruningSeed = pruned.pruningSeed :=
    finalPruned.seeded
  refine ⟨?_, fun stripe made => seedKept.trans (asked stripe made)⟩
  rcases afterPass with rfl | last
  · exact prunedAt.keepsSeedPromise
  · rw [lastUpdate last] at finalPruned
    exact finalPruned.keepsSeedPromise

/-! ### A chain of empty blocks

Blocks told apart by their timestamps, each carrying a miner transaction of
version 2: every add succeeds, so the chain of the first `n` blocks is a
database of known tables. -/

def wordHash (n : Nat) : Hash :=
  ⟨LittleEndian.toBytes 8 n ++ List.replicate 24 0, by simp⟩

theorem wordHash_inj {a b : Nat} (aSmall : a < 2 ^ 64) (bSmall : b < 2 ^ 64)
    (same : wordHash a = wordHash b) : a = b := by
  have bytes : LittleEndian.toBytes 8 a = LittleEndian.toBytes 8 b := by
    have data := congrArg (fun hash : Hash => hash.data.take 8) same
    simpa [wordHash] using data
  have values := congrArg LittleEndian.ofBytes bytes
  rw [LittleEndian.ofBytes_toBytes, LittleEndian.ofBytes_toBytes] at values
  rwa [Nat.mod_eq_of_lt (by norm_num; omega), Nat.mod_eq_of_lt (by norm_num; omega)] at values

def wordHashes : DbHashes where
  getBlockHash blk := wordHash blk.timestamp.toNat
  getTransactionHash tx := wordHash tx.txPrefix.unlockTime.toNat
  getTransactionPrunableHash _ := nullHash
  zeroCommit _ := Pod.zero 32

def chainBlock (n : Nat) : Block :=
  { majorVersion := 7, timestamp := n.toUInt64, prevId := wordHash (n - 1),
    minerTx := emptyMinerTx n.toUInt64, txHashes := [] }

def chainCall (n : Nat) : AddBlockCall := ⟨wordHashes, chainBlock n, 0, 0, 0, 0, []⟩

def chainDb (n : Nat) : Lmdb :=
  { Lmdb.empty with
    blocks := (List.range n).map fun i => (i, chainBlock i)
    blockInfo := (List.range n).map fun i =>
      (i, ⟨i, i.toUInt64, 0, 0, 0, wordHash i, 0, 0⟩)
    blockHeights := (List.range n).map fun i => (wordHash i, i)
    txIndices := (List.range n).map fun i => (wordHash i, ⟨i, i.toUInt64, i⟩)
    txsPruned := (List.range n).map fun i => (i, ((emptyMinerTx i.toUInt64).txPrefix, []))
    txsPrunable := (List.range n).map fun i => (i, [])
    txsPrunableHash := (List.range n).map fun i => (i, nullHash)
    txOutputs := (List.range n).map fun i => (i, []) }

def chainDbWithMinerTx (n : Nat) : Lmdb :=
  { chainDb (n + 1) with
    blocks := (chainDb n).blocks
    blockInfo := (chainDb n).blockInfo
    blockHeights := (chainDb n).blockHeights }

@[simp] theorem chainDb_height (n : Nat) : (chainDb n).height = n := by
  simp [chainDb, Lmdb.height]

@[simp] theorem chainDb_getTxCount (n : Nat) : (chainDb n).getTxCount = n := by
  simp [chainDb, Lmdb.getTxCount]

theorem toNat_toUInt64_of_lt {n : Nat} (small : n < 2 ^ 64) : n.toUInt64.toNat = n := by
  simp only [Nat.toUInt64_eq, UInt64.toNat_ofNat', Nat.mod_eq_of_lt small]

theorem fresh_wordHash {ν : Type} {n : Nat} (small : n < 2 ^ 64) (value : Nat → ν) :
    Fresh (wordHash n) ((List.range n).map fun i => (wordHash i, value i)) := by
  intro entry member same
  obtain ⟨i, below, rfl⟩ := List.mem_map.mp member
  rw [List.mem_range] at below
  have := wordHash_inj (by omega) small same
  omega

theorem below_range {ν : Type} (n : Nat) (value : Nat → ν) :
    ∀ entry ∈ (List.range n).map (fun i => (i, value i)), entry.1 < n := by
  intro entry member
  obtain ⟨i, below, rfl⟩ := List.mem_map.mp member
  exact List.mem_range.mp below

theorem addTransactionData_chain {n : Nat} (small : n < 2 ^ 64) :
    (chainDb n).addTransactionData (emptyMinerTx n.toUInt64) (wordHash n) nullHash =
      some (n, { chainDbWithMinerTx n with txOutputs := (chainDb n).txOutputs }) := by
  unfold Lmdb.addTransactionData
  simp only [chainDb_getTxCount, chainDb_height]
  dsimp only [chainDb, Lmdb.empty]
  rw [insertNew_of_fresh (fresh_wordHash small _), append_of_below (below_range _ _),
    append_of_below (below_range _ _)]
  simp [append_of_below (below_range _ _), chainDbWithMinerTx, chainDb, List.range_succ,
    emptyMinerTx, Lmdb.empty]

theorem addTransaction_chain {n : Nat} (small : n < 2 ^ 64) :
    addTransaction wordHashes (emptyMinerTx n.toUInt64) none (chainDb n) =
      some (chainDbWithMinerTx n) := by
  have hashed : wordHashes.getTransactionHash (emptyMinerTx n.toUInt64) = wordHash n := by
    simp only [wordHashes, emptyMinerTx, toNat_toUInt64_of_lt small]
  have inputs : addInputs (emptyMinerTx n.toUInt64).txPrefix.vin
      (emptyMinerTx n.toUInt64).txPrefix.vin false (chainDb n) = some (.added true (chainDb n)) :=
    rfl
  unfold addTransaction
  simp only [Option.getD_none, hashed]
  rw [inputs]
  simp only [Option.bind_eq_bind, Option.bind_some, show wordHashes.getTransactionPrunableHash
    (emptyMinerTx n.toUInt64) = nullHash from rfl, addTransactionData_chain small]
  simp [addOutputs, emptyMinerTx, hasBlacklistedOutputs, Lmdb.addTxAmountOutputIndices,
    getTxSecretKeyFromTxExtra, append_of_below (below_range _ _), chainDbWithMinerTx, chainDb,
    List.range_succ]

theorem lmdbAddBlock_chain {n : Nat} (small : n < 2 ^ 64) :
    (chainDbWithMinerTx n).addBlock (chainBlock n) 0 0 0 0 0 (wordHash n) =
      some (chainDb (n + 1)) := by
  have hashInj : ∀ a < n, ∀ b < n, wordHash a = wordHash b → a = b :=
    fun a aBelow b bBelow same => wordHash_inj (by omega) (by omega) same
  unfold Lmdb.addBlock
  dsimp only [chainDbWithMinerTx, chainDb, Lmdb.empty, Lmdb.height]
  simp only [List.length_map, List.length_range]
  rw [insertNew_of_fresh (fresh_wordHash small _)]
  rcases n with _ | n
  · simp [append, chainBlock]
  · have parent := find?_map_range wordHash (fun j => j) hashInj (show n < n + 1 by omega)
    have previous := find?_map_range (fun j => j) (fun i =>
      (⟨i, i.toUInt64, 0, 0, 0, wordHash i, 0, 0⟩ : BlockInfo)) (fun a _ b _ same => same)
      (show n < n + 1 by omega)
    simp only [chainBlock, Nat.add_sub_cancel, parent, previous, append_of_below (below_range _ _),
      Option.bind_eq_bind, Option.bind_some, gt_iff_lt, Nat.zero_lt_succ, if_true, ne_eq,
      not_true_eq_false, if_false, ge_iff_le]
    simp [List.range_succ]

theorem addBlock_chain {n : Nat} (small : n < 2 ^ 64) :
    addBlock wordHashes (chainBlock n) 0 0 0 0 [] (chainDb n) = some (n, chainDb (n + 1)) := by
  have hashed : wordHashes.getBlockHash (chainBlock n) = wordHash n := by
    simp only [wordHashes, chainBlock, toNat_toUInt64_of_lt small]
  have noRctOuts : numRctOuts (chainBlock n).minerTx.txPrefix [] = 0 := rfl
  unfold addBlock
  rw [if_neg (by simp [chainBlock]), hashed, noRctOuts, chainDb_height]
  simp only [chainBlock, Option.bind_eq_bind, addTransaction_chain small, Option.bind_some,
    addTransactions, List.zip_nil_left]
  rw [← chainBlock, lmdbAddBlock_chain small]
  rfl

theorem buildChain_chainCalls {n : Nat} (small : n ≤ 2 ^ 64) :
    buildChain ((List.range n).map chainCall) = chainDb n := by
  induction n with
  | zero => rfl
  | succ n ih =>
    rw [List.range_succ, List.map_append, buildChain, List.foldl_append, ← buildChain,
      ih (by omega), List.map_singleton, List.foldl_cons, List.foldl_nil, AddBlockCall.run]
    simp only [chainCall, addBlock_chain (show n < 2 ^ 64 by omega)]

theorem mem_chainDb_txIndices {n i : Nat} (below : i < n) :
    (wordHash i, ⟨i, i.toUInt64, i⟩) ∈ (chainDb n).txIndices :=
  List.mem_map.mpr ⟨i, List.mem_range.mpr below, rfl⟩

theorem find?_chainDb_txsPruned {n i : Nat} (below : i < n) :
    find? i (chainDb n).txsPruned = some ((emptyMinerTx i.toUInt64).txPrefix, []) :=
  find?_map_range (fun j => j) (fun j => ((emptyMinerTx j.toUInt64).txPrefix, []))
    (fun _ _ _ _ same => same) below

theorem pruning_chain_then_updating :
    ∃ pruned, pruneBlockchain 385 0 (buildChain ((List.range 5502).map chainCall)) = some pruned ∧
      ([PruningOp.updatePruning] = [] ∨ [PruningOp.updatePruning].getLast? = some .updatePruning) ∧
      (KeepsSeedPromise (runPruningOps [.updatePruning] pruned) ∧
        ∀ stripe, makePruningSeed stripe cryptonotePruningLogStripes = some 385 →
          (runPruningOps [.updatePruning] pruned).pruningSeed = 385) ∧
      (runPruningOps [.updatePruning] pruned).height = 5502 ∧
      (wordHash 0, ⟨0, 0, 0⟩) ∈ (runPruningOps [.updatePruning] pruned).txIndices ∧
      (wordHash 5501, ⟨5501, 5501, 5501⟩) ∈ (runPruningOps [.updatePruning] pruned).txIndices ∧
      (find? 0 (runPruningOps [.updatePruning] pruned).txsPruned).map (·.1.version) = some 2 ∧
      (find? 5501 (runPruningOps [.updatePruning] pruned).txsPruned).map (·.1.version) = some 2 ∧
      find? 0 (runPruningOps [.updatePruning] pruned).txsPrunable = none ∧
      (find? 5501 (runPruningOps [.updatePruning] pruned).txsPrunable).isSome ∧
      find? 0 (runPruningOps [.updatePruning] pruned).txsPrunableTip = none ∧
      find? 5501 (runPruningOps [.updatePruning] pruned).txsPrunableTip = some 5501 := by
  have built := buildChain_chainCalls (n := 5502) (by norm_num)
  obtain ⟨pruned, accepted⟩ := pruneBlockchain_of_unpruned 0
    (unpruned_buildChain ((List.range 5502).map chainCall))
    (show makePruningSeed 2 cryptonotePruningLogStripes = some 385 by decide)
  obtain ⟨keeps, seedKept⟩ := pruned_database_matches_seed accepted [.updatePruning] (Or.inr rfl)
  have final : runPruningOps [.updatePruning] pruned = (updatePruning pruned).getD pruned := rfl
  obtain ⟨indicesPruned, prunedPruned, heightPruned⟩ := pruneBlockchain_frame accepted
  obtain ⟨indicesFinal, prunedFinal, heightFinal⟩ := updatePruning_frame pruned
  rw [built] at indicesPruned prunedPruned heightPruned
  rw [← final] at indicesFinal prunedFinal heightFinal
  have height : (runPruningOps [.updatePruning] pruned).height = 5502 := by
    rw [heightFinal, heightPruned, chainDb_height]
  have indexed : ∀ i < 5502, (wordHash i, ⟨i, i.toUInt64, i⟩) ∈
      (runPruningOps [.updatePruning] pruned).txIndices := fun i below => by
    rw [indicesFinal, indicesPruned]
    exact mem_chainDb_txIndices below
  have versioned : ∀ i < 5502, find? i (runPruningOps [.updatePruning] pruned).txsPruned =
      some ((emptyMinerTx i.toUInt64).txPrefix, []) := fun i below => by
    rw [prunedFinal, prunedPruned]
    exact find?_chainDb_txsPruned below
  have seeded : (runPruningOps [.updatePruning] pruned).pruningSeed = 385 := seedKept 2 (by decide)
  obtain ⟨first, firstFound, firstKept⟩ := keeps.prunable _ (indexed 0 (by norm_num))
  obtain ⟨last, lastFound, lastKept⟩ := keeps.prunable _ (indexed 5501 (by norm_num))
  rw [versioned 0 (by norm_num), Option.some.injEq] at firstFound
  rw [versioned 5501 (by norm_num), Option.some.injEq] at lastFound
  subst firstFound lastFound
  rw [height, seeded] at firstKept lastKept
  have firstTip := keeps.tip _ (indexed 0 (by norm_num))
  have lastTip := keeps.tip _ (indexed 5501 (by norm_num))
  rw [height] at firstTip lastTip
  refine ⟨pruned, accepted, Or.inr rfl, ⟨keeps, seedKept⟩, height, indexed 0 (by norm_num),
    indexed 5501 (by norm_num), by rw [versioned 0 (by norm_num)]; rfl,
    by rw [versioned 5501 (by norm_num)]; rfl, ?_, ?_, ?_, ?_⟩
  · have dropped : hasUnprunedBlock 0 5502 385 = false := by decide
    simpa [dropped, emptyMinerTx] using firstKept
  · exact lastKept.2 (Or.inr (by decide))
  · rw [firstTip, if_neg (by decide)]
  · rw [lastTip, if_pos (by decide)]

end Antd.BlockchainDb
