import Antd.Cryptonote.Difficulty
import Antd.Lib.SlidingWindow
import Antd.Lib.ForLoop

/-! The difficulty of the next block in `blockchain.cpp`. The node computes it
three ways: `get_difficulty_for_next_block` for the main chain, through a cache
keyed by the top block hash and a window of timestamps and cumulative
difficulties kept in `m_timestamps` and `m_difficulties`;
`get_next_difficulty_for_alternative_chain`, which splices main chain blocks
below an alternative chain; and `recalculate_difficulties`, which recomputes
the cumulative difficulties of the main chain from a height up and corrects the
database. Each feeds `next_difficulty` the timestamps and cumulative
difficulties of the last `DIFFICULTY_BLOCKS_COUNT_V2` blocks below the new
one, leaving out the genesis block (`difficultyWindow`).

The database is the main chain as a list, genesis first; `m_db->height()` is
its length. The main chain changes through the operations of `ChainOp`. -/

namespace Antd.Cryptonote

open Antd.Crypto

/-- What the database keeps of a main chain block that the difficulty code reads. -/
structure BlockDifficultyInfo where
  hash : Hash
  timestamp : UInt64
  cumulativeDifficulty : DifficultyType
  deriving DecidableEq

section Database

variable (db : List BlockDifficultyInfo)

def getBlockTimestamp (height : Nat) : UInt64 :=
  (db[height]?.map (·.timestamp)).getD 0

def getBlockCumulativeDifficulty (height : Nat) : DifficultyType :=
  (db[height]?.map (·.cumulativeDifficulty)).getD 0

def getTailId : Hash :=
  (db.getLast?.map (·.hash)).getD nullHash

end Database

/-- The blocks the next block's difficulty is computed from: the last
`DIFFICULTY_BLOCKS_COUNT_V2` of `chain`, without the genesis block. -/
def difficultyWindow (chain : List BlockDifficultyInfo) : List BlockDifficultyInfo :=
  SlidingWindow.window 1 difficultyBlocksCountV2 chain.length chain

def nextDifficultyFor (chain : List BlockDifficultyInfo) : DifficultyType :=
  nextDifficulty ((difficultyWindow chain).map (·.timestamp))
    ((difficultyWindow chain).map (·.cumulativeDifficulty)) difficultyTargetV2

/-- The members of `Blockchain` the difficulty code reads and writes. -/
structure Blockchain where
  db : List BlockDifficultyInfo
  fixedDifficulty : DifficultyType
  timestampsAndDifficultiesHeight : Nat
  timestamps : List UInt64
  difficulties : List DifficultyType
  difficultyForNextBlockTopHash : Hash
  difficultyForNextBlock : DifficultyType

def Blockchain.init (db : List BlockDifficultyInfo) (fixedDifficulty : DifficultyType) :
    Blockchain :=
  { db := db, fixedDifficulty := fixedDifficulty, timestampsAndDifficultiesHeight := 0
    timestamps := [], difficulties := [], difficultyForNextBlockTopHash := nullHash
    difficultyForNextBlock := 1 }

/-! ### The main chain -/

/-- The timestamps and cumulative difficulties `get_difficulty_for_next_block`
passes on: its cached window with the block below the top added, when the
chain has grown by that one block since and the cache is full; a scan of the
database otherwise. -/
def difficultyInputs (blockchain : Blockchain) : List UInt64 × List DifficultyType :=
  let height := blockchain.db.length
  if blockchain.timestampsAndDifficultiesHeight ≠ 0 ∧
      height - blockchain.timestampsAndDifficultiesHeight = 1 ∧
      difficultyBlocksCountV2 ≤ blockchain.timestamps.length then
    let index := height - 1
    (SlidingWindow.keepLast difficultyBlocksCountV2
        (blockchain.timestamps ++ [getBlockTimestamp blockchain.db index]),
      SlidingWindow.keepLast difficultyBlocksCountV2
        (blockchain.difficulties ++ [getBlockCumulativeDifficulty blockchain.db index]))
  else
    let offset := height - min height difficultyBlocksCountV2
    let offset := if offset = 0 then 1 else offset
    ((List.range' offset (height - offset)).map (getBlockTimestamp blockchain.db),
      (List.range' offset (height - offset)).map (getBlockCumulativeDifficulty blockchain.db))

def getDifficultyForNextBlock (blockchain : Blockchain) : DifficultyType × Blockchain :=
  if blockchain.fixedDifficulty ≠ 0 then
    (if blockchain.db.length ≠ 0 then blockchain.fixedDifficulty else 1, blockchain)
  else if getTailId blockchain.db = blockchain.difficultyForNextBlockTopHash then
    (blockchain.difficultyForNextBlock, blockchain)
  else
    let inputs := difficultyInputs blockchain
    let diff := nextDifficulty inputs.1 inputs.2 difficultyTargetV2
    (diff, { blockchain with
      timestampsAndDifficultiesHeight := blockchain.db.length
      timestamps := inputs.1
      difficulties := inputs.2
      difficultyForNextBlockTopHash := getTailId blockchain.db
      difficultyForNextBlock := diff })

/-! ### Alternative chains -/

/-- The `block_extended_info` fields the alternative chain code reads. -/
structure BlockExtendedInfo where
  height : Nat
  hash : Hash
  timestamp : UInt64
  cumulativeDifficulty : DifficultyType

def BlockExtendedInfo.info (block : BlockExtendedInfo) : BlockDifficultyInfo :=
  ⟨block.hash, block.timestamp, block.cumulativeDifficulty⟩

/-- The height the alternative chain leaves the main chain at: that of its
first block, or of the new block when it forks off by itself. -/
def mainChainStopOffset (altChain : List BlockExtendedInfo) (bei : BlockExtendedInfo) : Nat :=
  match altChain.head? with
  | some front => front.height
  | none => bei.height

/-- `get_next_difficulty_for_alternative_chain` for the block `bei` on top of
`altChain`. A failed size check returns `false`, which converts to 0. -/
def getNextDifficultyForAlternativeChain (blockchain : Blockchain)
    (altChain : List BlockExtendedInfo) (bei : BlockExtendedInfo) : DifficultyType :=
  if blockchain.fixedDifficulty ≠ 0 then
    if blockchain.db.length ≠ 0 then blockchain.fixedDifficulty else 1
  else if altChain.length < difficultyBlocksCountV2 then
    let mainChainStopOffset := mainChainStopOffset altChain bei
    let mainChainCount :=
      min (difficultyBlocksCountV2 - min difficultyBlocksCountV2 altChain.length)
        mainChainStopOffset
    let mainChainStartOffset := mainChainStopOffset - mainChainCount
    let mainChainStartOffset := if mainChainStartOffset = 0 then 1 else mainChainStartOffset
    let heights := List.range' mainChainStartOffset (mainChainStopOffset - mainChainStartOffset)
    let timestamps := heights.map (getBlockTimestamp blockchain.db)
    let cumulativeDifficulties := heights.map (getBlockCumulativeDifficulty blockchain.db)
    if altChain.length + timestamps.length ≤ difficultyBlocksCountV2 then
      nextDifficulty (timestamps ++ altChain.map (·.timestamp))
        (cumulativeDifficulties ++ altChain.map (·.cumulativeDifficulty)) difficultyTargetV2
    else 0
  else
    nextDifficulty
      (SlidingWindow.fillBack (List.replicate difficultyBlocksCountV2 0)
        (difficultyBlocksCountV2 - 1) (altChain.map (·.timestamp)).reverse)
      (SlidingWindow.fillBack (List.replicate difficultyBlocksCountV2 0)
        (difficultyBlocksCountV2 - 1) (altChain.map (·.cumulativeDifficulty)).reverse)
      difficultyTargetV2

/-! ### Recalculation -/

/-- The locals of the loop of `recalculate_difficulties`. -/
structure RecalculationState where
  timestamps : List UInt64
  difficulties : List DifficultyType
  lastCumDiff : DifficultyType
  driftStartHeight : Nat
  newCumulativeDifficulties : List DifficultyType

def recalculationStep (db : List BlockDifficultyInfo) (height : Nat)
    (state : RecalculationState) : Option RecalculationState :=
  let recalculatedDiff := nextDifficulty state.timestamps state.difficulties difficultyTargetV2
  if fits : recalculatedDiff.val + state.lastCumDiff.val < 2 ^ 128 then
    let recalculatedCumDiff : DifficultyType := ⟨recalculatedDiff.val + state.lastCumDiff.val, fits⟩
    let driftStartHeight :=
      if state.driftStartHeight = 0 ∧
          recalculatedCumDiff ≠ getBlockCumulativeDifficulty db height then height
      else state.driftStartHeight
    let newCumulativeDifficulties :=
      if driftStartHeight > 0 then state.newCumulativeDifficulties ++ [recalculatedCumDiff]
      else state.newCumulativeDifficulties
    let timestamps :=
      if height > 0 then state.timestamps ++ [getBlockTimestamp db height] else state.timestamps
    let difficulties :=
      if height > 0 then state.difficulties ++ [recalculatedCumDiff] else state.difficulties
    if timestamps.length > difficultyBlocksCountV2 then
      if timestamps.length ≠ difficultyBlocksCountV2 + 1 then none
      else
        some ⟨timestamps.tail, difficulties.tail, recalculatedCumDiff, driftStartHeight,
          newCumulativeDifficulties⟩
    else
      some ⟨timestamps, difficulties, recalculatedCumDiff, driftStartHeight,
        newCumulativeDifficulties⟩
  else none

def recalculationLoop (db : List BlockDifficultyInfo) :
    Nat → Nat → RecalculationState → Option RecalculationState :=
  ForLoop.forRange (recalculationStep db)

def correctBlockCumulativeDifficulties (db : List BlockDifficultyInfo) (startHeight : Nat)
    (newCumulativeDifficulties : List DifficultyType) : Option (List BlockDifficultyInfo) :=
  if startHeight + newCumulativeDifficulties.length ≠ db.length then none
  else
    some (db.mapIdx fun height block =>
      if startHeight ≤ height then
        { block with cumulativeDifficulty := newCumulativeDifficulties.getD (height - startHeight) 0 }
      else block)

/-- The loop's locals before its first pass: the window below `startHeight`,
read from the database, and the cumulative difficulty below it, which for the
first two heights is `startHeight` itself. -/
def recalculationStart (db : List BlockDifficultyInfo) (startHeight : Nat) : RecalculationState :=
  let below :=
    if startHeight > 1 then
      SlidingWindow.fillBelow
        (fun height => (getBlockTimestamp db height, getBlockCumulativeDifficulty db height))
        startHeight difficultyBlocksCountV2 0 []
    else []
  let lastCumDiff : DifficultyType :=
    if low : startHeight ≤ 1 then ⟨startHeight, lt_of_le_of_lt low (by norm_num)⟩
    else ((below.map Prod.snd).getLast?).getD 0
  ⟨below.map Prod.fst, below.map Prod.snd, lastCumDiff, 0, []⟩

/-- `recalculate_difficulties` from `startHeight`, returning the number of
corrected blocks; `none` where it throws, which it does on an empty database,
whose top height `m_db->height() - 1` wraps. A failed write is caught, and the
caches are cleared whenever a drift was found. -/
def recalculateDifficulties (blockchain : Blockchain) (startHeight : Nat) :
    Option (Nat × Blockchain) :=
  if blockchain.fixedDifficulty ≠ 0 then some (0, blockchain)
  else if blockchain.db = [] then none
  else
    let db := blockchain.db
    let topHeight := db.length - 1
    match recalculationLoop db (topHeight + 1 - startHeight) startHeight
        (recalculationStart db startHeight) with
    | none => none
    | some final =>
        if final.driftStartHeight > 0 then
          let corrected := (correctBlockCumulativeDifficulties db final.driftStartHeight
            final.newCumulativeDifficulties).getD db
          some (final.newCumulativeDifficulties.length,
            { blockchain with db := corrected, difficultyForNextBlockTopHash := nullHash
                              timestampsAndDifficultiesHeight := 0 })
        else some (final.newCumulativeDifficulties.length, blockchain)

/-! ### Runs -/

/-- What changes the main chain and the difficulty caches: `m_db->add_block`
in `handle_block_to_main_chain`, `pop_block_from_blockchain`, the resets of
`m_timestamps_and_difficulties_height` on entry to `init`,
`handle_alternative_block`, `switch_to_alternative_blockchain` and
`rollback_blockchain_switching`, and the calls of the two functions above. -/
inductive ChainOp
  | addBlock (block : BlockDifficultyInfo)
  | popBlock
  | resetCachedHeight
  | difficultyQuery
  | recalculate (startHeight : Nat)

def applyChainOp (blockchain : Blockchain) : ChainOp → Blockchain
  | .addBlock block => { blockchain with db := blockchain.db ++ [block] }
  | .popBlock => { blockchain with db := blockchain.db.dropLast, timestampsAndDifficultiesHeight := 0 }
  | .resetCachedHeight => { blockchain with timestampsAndDifficultiesHeight := 0 }
  | .difficultyQuery => (getDifficultyForNextBlock blockchain).2
  | .recalculate startHeight =>
      match recalculateDifficulties blockchain startHeight with
      | some (_, recalculated) => recalculated
      | none => blockchain

def runChain (blockchain : Blockchain) (ops : List ChainOp) : Blockchain :=
  ops.foldl applyChainOp blockchain

/-! ### Reading the database -/

section Reads

variable {db : List BlockDifficultyInfo}

theorem getBlockTimestamp_of_lt {height : Nat} (below : height < db.length) :
    getBlockTimestamp db height = db[height].timestamp := by
  simp [getBlockTimestamp, below]

theorem getBlockCumulativeDifficulty_of_lt {height : Nat} (below : height < db.length) :
    getBlockCumulativeDifficulty db height = db[height].cumulativeDifficulty := by
  simp [getBlockCumulativeDifficulty, below]

theorem map_range'_getBlockTimestamp {start stop : Nat} (within : stop ≤ db.length) :
    (List.range' start (stop - start)).map (getBlockTimestamp db) =
      ((db.take stop).drop start).map (·.timestamp) :=
  SlidingWindow.map_range'_getElem? _ 0 within

theorem map_range'_getBlockCumulativeDifficulty {start stop : Nat} (within : stop ≤ db.length) :
    (List.range' start (stop - start)).map (getBlockCumulativeDifficulty db) =
      ((db.take stop).drop start).map (·.cumulativeDifficulty) :=
  SlidingWindow.map_range'_getElem? _ 0 within

end Reads

/-! ### The main chain caches -/

/-- The window `m_timestamps` and `m_difficulties` stand for: the difficulty
window at the cached height. -/
def cachedWindow (blockchain : Blockchain) : List BlockDifficultyInfo :=
  SlidingWindow.window 1 difficultyBlocksCountV2 blockchain.timestampsAndDifficultiesHeight
    blockchain.db

/-- The difficulty caches agree with the database: the cached window is the
difficulty window at the cached height, and a cached difficulty is that of a
chain of `chains` with the cached top hash. -/
structure DifficultyCacheSound (blockchain : Blockchain)
    (chains : List (List BlockDifficultyInfo)) : Prop where
  cachedHeight_le : blockchain.timestampsAndDifficultiesHeight ≤ blockchain.db.length
  cachedTimestamps : blockchain.timestampsAndDifficultiesHeight ≠ 0 →
    blockchain.timestamps = (cachedWindow blockchain).map (·.timestamp)
  cachedDifficulties : blockchain.timestampsAndDifficultiesHeight ≠ 0 →
    blockchain.difficulties = (cachedWindow blockchain).map (·.cumulativeDifficulty)
  cachedNext : blockchain.difficultyForNextBlockTopHash = nullHash ∨
    ∃ chain ∈ chains, getTailId chain = blockchain.difficultyForNextBlockTopHash ∧
      blockchain.difficultyForNextBlock = nextDifficultyFor chain

theorem difficultyInputs_eq {blockchain : Blockchain} {chains : List (List BlockDifficultyInfo)}
    (sound : DifficultyCacheSound blockchain chains) :
    difficultyInputs blockchain = ((difficultyWindow blockchain.db).map (·.timestamp),
      (difficultyWindow blockchain.db).map (·.cumulativeDifficulty)) := by
  unfold difficultyInputs
  dsimp only
  split
  · rename_i incremental
    obtain ⟨cached, grown, -⟩ := incremental
    have below : blockchain.timestampsAndDifficultiesHeight < blockchain.db.length := by omega
    have top : blockchain.db.length - 1 = blockchain.timestampsAndDifficultiesHeight := by omega
    have moved := SlidingWindow.window_succ (by decide : 0 < difficultyBlocksCountV2)
      (Nat.one_le_iff_ne_zero.mpr cached) below
    have next : blockchain.timestampsAndDifficultiesHeight + 1 = blockchain.db.length := by omega
    rw [next] at moved
    rw [top, sound.cachedTimestamps cached, sound.cachedDifficulties cached,
      getBlockTimestamp_of_lt below, getBlockCumulativeDifficulty_of_lt below, cachedWindow,
      ← List.map_singleton, ← List.map_singleton, ← List.map_append, ← List.map_append,
      SlidingWindow.keepLast_map, SlidingWindow.keepLast_map, moved]
    rfl
  · have offset : (if blockchain.db.length - min blockchain.db.length difficultyBlocksCountV2 = 0
        then 1 else blockchain.db.length - min blockchain.db.length difficultyBlocksCountV2) =
        max 1 (blockchain.db.length - difficultyBlocksCountV2) := by
      split <;> omega
    simp only [offset, map_range'_getBlockTimestamp le_rfl,
      map_range'_getBlockCumulativeDifficulty le_rfl]
    rfl

theorem DifficultyCacheSound.mono {blockchain : Blockchain}
    {chains more : List (List BlockDifficultyInfo)} (sound : DifficultyCacheSound blockchain chains)
    (subset : chains ⊆ more) : DifficultyCacheSound blockchain more := by
  refine ⟨sound.cachedHeight_le, sound.cachedTimestamps, sound.cachedDifficulties, ?_⟩
  rcases sound.cachedNext with cleared | ⟨chain, member, named, computed⟩
  · exact .inl cleared
  · exact .inr ⟨chain, subset member, named, computed⟩

theorem DifficultyCacheSound.init (db : List BlockDifficultyInfo) :
    DifficultyCacheSound (Blockchain.init db 0) [db] :=
  ⟨Nat.zero_le _, fun unset => absurd rfl unset, fun unset => absurd rfl unset, .inl rfl⟩

theorem nextDifficultyFor_eq (chain : List BlockDifficultyInfo) :
    nextDifficultyFor chain = nextDifficulty ((difficultyWindow chain).map (·.timestamp))
      ((difficultyWindow chain).map (·.cumulativeDifficulty)) difficultyTargetV2 := rfl

theorem nextDifficultyFor_congr {chain other : List BlockDifficultyInfo}
    (sameWindow : difficultyWindow chain = difficultyWindow other) :
    nextDifficultyFor chain = nextDifficultyFor other := by
  rw [nextDifficultyFor, nextDifficultyFor, sameWindow]

theorem getDifficultyForNextBlock_sound {blockchain : Blockchain}
    {chains : List (List BlockDifficultyInfo)} (sound : DifficultyCacheSound blockchain chains) :
    DifficultyCacheSound (getDifficultyForNextBlock blockchain).2 (blockchain.db :: chains) := by
  have kept := sound.mono (List.subset_cons_self blockchain.db chains)
  unfold getDifficultyForNextBlock
  split
  · exact kept
  · split
    · exact kept
    · dsimp only
      rw [difficultyInputs_eq sound]
      refine ⟨le_rfl, fun _ => rfl, fun _ => rfl,
        .inr ⟨blockchain.db, List.mem_cons_self, rfl, ?_⟩⟩
      simp only [nextDifficultyFor_eq]

theorem getDifficultyForNextBlock_eq {blockchain : Blockchain}
    {chains : List (List BlockDifficultyInfo)} (sound : DifficultyCacheSound blockchain chains)
    (unfixed : blockchain.fixedDifficulty = 0) (named : getTailId blockchain.db ≠ nullHash)
    (identified : ∀ chain ∈ chains, getTailId chain = getTailId blockchain.db →
      difficultyWindow chain = difficultyWindow blockchain.db) :
    (getDifficultyForNextBlock blockchain).1 = nextDifficultyFor blockchain.db := by
  unfold getDifficultyForNextBlock
  rw [if_neg (fun fixed => fixed unfixed)]
  split
  · rename_i cachedTop
    rcases sound.cachedNext with cleared | ⟨chain, member, chainTop, computed⟩
    · exact absurd (cachedTop.trans cleared) named
    · show blockchain.difficultyForNextBlock = _
      rw [computed]
      exact nextDifficultyFor_congr (identified chain member (chainTop.trans cachedTop.symm))
  · dsimp only
    rw [difficultyInputs_eq sound]
    simp only [nextDifficultyFor_eq]

/-! ### What a recalculation pass does -/

theorem keepLast_of_length_le_succ {α : Type} {count : Nat} {xs : List α}
    (atMost : xs.length ≤ count + 1) :
    SlidingWindow.keepLast count xs = if xs.length > count then xs.tail else xs := by
  unfold SlidingWindow.keepLast
  split
  · rw [show xs.length - count = 1 by omega, List.drop_one]
  · rw [show xs.length - count = 0 by omega, List.drop_zero]

theorem recalculationStep_eq_some {db : List BlockDifficultyInfo} {height : Nat}
    {state next : RecalculationState} (stepped : recalculationStep db height state = some next) :
    next.lastCumDiff.val = (nextDifficulty state.timestamps state.difficulties
      difficultyTargetV2).val + state.lastCumDiff.val ∧
    next.driftStartHeight = (if state.driftStartHeight = 0 ∧
      next.lastCumDiff ≠ getBlockCumulativeDifficulty db height then height
      else state.driftStartHeight) ∧
    next.newCumulativeDifficulties = (if next.driftStartHeight > 0 then
      state.newCumulativeDifficulties ++ [next.lastCumDiff]
      else state.newCumulativeDifficulties) ∧
    (state.timestamps.length ≤ difficultyBlocksCountV2 →
      state.difficulties.length = state.timestamps.length →
      next.timestamps = SlidingWindow.keepLast difficultyBlocksCountV2
        (if height > 0 then state.timestamps ++ [getBlockTimestamp db height]
          else state.timestamps) ∧
      next.difficulties = SlidingWindow.keepLast difficultyBlocksCountV2
        (if height > 0 then state.difficulties ++ [next.lastCumDiff] else state.difficulties)) := by
  unfold recalculationStep at stepped
  by_cases fits : (nextDifficulty state.timestamps state.difficulties difficultyTargetV2).val +
      state.lastCumDiff.val < 2 ^ 128
  case neg => rw [dif_neg fits] at stepped; cases stepped
  rw [dif_pos fits] at stepped
  dsimp only at stepped
  have trimmed : ∀ {α : Type} (xs : List α) (pushed : α), xs.length ≤ difficultyBlocksCountV2 →
      SlidingWindow.keepLast difficultyBlocksCountV2
        (if height > 0 then xs ++ [pushed] else xs) =
      if (if height > 0 then xs ++ [pushed] else xs).length > difficultyBlocksCountV2 then
        (if height > 0 then xs ++ [pushed] else xs).tail
      else if height > 0 then xs ++ [pushed] else xs := by
    intro α xs pushed short
    apply keepLast_of_length_le_succ
    split
    · rw [List.length_append, List.length_singleton]
      omega
    · omega
  have sameLength : state.difficulties.length = state.timestamps.length →
      (if height > 0 then state.difficulties ++ [(⟨_, fits⟩ : DifficultyType)]
        else state.difficulties).length =
      (if height > 0 then state.timestamps ++ [getBlockTimestamp db height]
        else state.timestamps).length := by
    intro same
    split
    · simp only [List.length_append, List.length_singleton, same]
    · exact same
  by_cases long : (if height > 0 then state.timestamps ++ [getBlockTimestamp db height]
      else state.timestamps).length > difficultyBlocksCountV2
  · rw [if_pos long] at stepped
    by_cases tooLong : (if height > 0 then state.timestamps ++ [getBlockTimestamp db height]
        else state.timestamps).length ≠ difficultyBlocksCountV2 + 1
    · rw [if_pos tooLong] at stepped
      cases stepped
    · rw [if_neg tooLong] at stepped
      cases stepped
      refine ⟨rfl, rfl, rfl, fun short same => ⟨?_, ?_⟩⟩
      · rw [trimmed _ _ short, if_pos long]
      · have longDs := lt_of_lt_of_eq long (sameLength same).symm
        rw [trimmed _ _ (same ▸ short), if_pos longDs]
  · rw [if_neg long] at stepped
    cases stepped
    refine ⟨rfl, rfl, rfl, fun short same => ⟨?_, ?_⟩⟩
    · rw [trimmed _ _ short, if_neg long]
    · have shortDs : ¬_ := fun longDs => long (lt_of_lt_of_eq longDs (sameLength same))
      rw [trimmed _ _ (same ▸ short), if_neg shortDs]

def RecalculationState.DriftTracked (state : RecalculationState) : Prop :=
  state.driftStartHeight = 0 ↔ state.newCumulativeDifficulties = []

theorem recalculationStep_driftTracked {db : List BlockDifficultyInfo} {height : Nat}
    {state next : RecalculationState} (stepped : recalculationStep db height state = some next)
    (tracked : state.DriftTracked) : next.DriftTracked := by
  obtain ⟨-, drift, news, -⟩ := recalculationStep_eq_some stepped
  unfold RecalculationState.DriftTracked
  rw [news]
  by_cases found : next.driftStartHeight > 0
  · rw [if_pos found]
    exact ⟨fun unfound => absurd unfound (by omega), fun collected => by simp at collected⟩
  · rw [if_neg found]
    have unfound : state.driftStartHeight = 0 := by
      rw [drift] at found
      split at found
      · rename_i noted
        exact noted.1
      · omega
    exact ⟨fun _ => tracked.mp unfound, fun _ => by omega⟩

theorem recalculateDifficulties_cases {blockchain result : Blockchain} {startHeight count : Nat}
    (recalculated : recalculateDifficulties blockchain startHeight = some (count, result)) :
    (count = 0 ∧ result = blockchain) ∨
      (count ≠ 0 ∧ result.fixedDifficulty = blockchain.fixedDifficulty ∧
        result.timestampsAndDifficultiesHeight = 0 ∧
        result.difficultyForNextBlockTopHash = nullHash) := by
  unfold recalculateDifficulties at recalculated
  split at recalculated
  · cases recalculated
    exact .inl ⟨rfl, rfl⟩
  split at recalculated
  · cases recalculated
  dsimp only at recalculated
  split at recalculated
  · cases recalculated
  rename_i final looped
  have tracked : final.driftStartHeight = 0 ↔ final.newCumulativeDifficulties = [] :=
    ForLoop.forRange_invariant _ (fun _ state => state.DriftTracked)
      (fun _ _ _ _ tracked stepped => recalculationStep_driftTracked stepped tracked)
      le_rfl looped (show (recalculationStart _ _).DriftTracked from ⟨fun _ => rfl, fun _ => rfl⟩)
  split at recalculated
  · rename_i found
    cases recalculated
    refine .inr ⟨?_, rfl, rfl, rfl⟩
    rw [Ne, List.length_eq_zero_iff, ← tracked]
    omega
  · rename_i unfound
    cases recalculated
    exact .inl ⟨List.length_eq_zero_iff.mpr (tracked.mp (by omega)), rfl⟩

/-! ### Runs keep the caches sound -/

theorem getDifficultyForNextBlock_keeps (blockchain : Blockchain) :
    (getDifficultyForNextBlock blockchain).2.db = blockchain.db ∧
      (getDifficultyForNextBlock blockchain).2.fixedDifficulty = blockchain.fixedDifficulty := by
  unfold getDifficultyForNextBlock
  split
  · exact ⟨rfl, rfl⟩
  · split <;> exact ⟨rfl, rfl⟩

def ChainOp.correctsDatabase (blockchain : Blockchain) : ChainOp → Bool
  | .recalculate startHeight =>
      match recalculateDifficulties blockchain startHeight with
      | some (count, _) => count ≠ 0
      | none => false
  | _ => false

theorem applyChainOp_recalculate (blockchain : Blockchain) (startHeight : Nat) :
    ((ChainOp.recalculate startHeight).correctsDatabase blockchain = false ∧
        applyChainOp blockchain (.recalculate startHeight) = blockchain) ∨
      ((ChainOp.recalculate startHeight).correctsDatabase blockchain = true ∧
        (applyChainOp blockchain (.recalculate startHeight)).fixedDifficulty =
          blockchain.fixedDifficulty ∧
        (applyChainOp blockchain (.recalculate startHeight)).timestampsAndDifficultiesHeight = 0 ∧
        (applyChainOp blockchain (.recalculate startHeight)).difficultyForNextBlockTopHash =
          nullHash) := by
  unfold ChainOp.correctsDatabase applyChainOp
  dsimp only
  cases recalculated : recalculateDifficulties blockchain startHeight with
  | none => exact .inl ⟨rfl, rfl⟩
  | some result =>
      obtain ⟨count, result⟩ := result
      dsimp only
      rcases recalculateDifficulties_cases recalculated with
        ⟨unchanged, same⟩ | ⟨corrects, fixed, noHeight, noTop⟩
      · exact .inl ⟨by simp [unchanged], same⟩
      · exact .inr ⟨by simp [corrects], fixed, noHeight, noTop⟩

theorem applyChainOp_fixedDifficulty (blockchain : Blockchain) (op : ChainOp) :
    (applyChainOp blockchain op).fixedDifficulty = blockchain.fixedDifficulty := by
  cases op with
  | difficultyQuery => exact (getDifficultyForNextBlock_keeps blockchain).2
  | recalculate startHeight =>
      rcases applyChainOp_recalculate blockchain startHeight with ⟨-, same⟩ | ⟨-, fixed, -⟩
      · rw [same]
      · exact fixed
  | _ => rfl

theorem runChain_fixedDifficulty (ops : List ChainOp) :
    ∀ blockchain : Blockchain,
      (runChain blockchain ops).fixedDifficulty = blockchain.fixedDifficulty := by
  induction ops with
  | nil => intro blockchain; rfl
  | cons op ops ih =>
      intro blockchain
      exact (ih (applyChainOp blockchain op)).trans (applyChainOp_fixedDifficulty blockchain op)

theorem DifficultyCacheSound.of_cleared {blockchain : Blockchain}
    (chains : List (List BlockDifficultyInfo)) (noHeight : blockchain.timestampsAndDifficultiesHeight = 0)
    (noTop : blockchain.difficultyForNextBlockTopHash = nullHash) :
    DifficultyCacheSound blockchain chains :=
  ⟨noHeight ▸ Nat.zero_le _, fun unset => absurd noHeight unset,
    fun unset => absurd noHeight unset, .inl noTop⟩

/-- A step of a run with the chains a cached difficulty can come from: every
main chain since the database was last corrected. -/
def epochStep (current : Blockchain × List (List BlockDifficultyInfo)) (op : ChainOp) :
    Blockchain × List (List BlockDifficultyInfo) :=
  let next := applyChainOp current.1 op
  (next, if op.correctsDatabase current.1 then [next.db] else next.db :: current.2)

def epochChains (blockchain : Blockchain) (ops : List ChainOp) : List (List BlockDifficultyInfo) :=
  (ops.foldl epochStep (blockchain, [blockchain.db])).2

theorem foldl_epochStep_fst (ops : List ChainOp) :
    ∀ (blockchain : Blockchain) (chains : List (List BlockDifficultyInfo)),
      (ops.foldl epochStep (blockchain, chains)).1 = runChain blockchain ops := by
  induction ops with
  | nil => intro blockchain chains; rfl
  | cons op ops ih =>
      intro blockchain chains
      exact ih _ _

theorem applyChainOp_sound {blockchain : Blockchain} {chains : List (List BlockDifficultyInfo)}
    (sound : DifficultyCacheSound blockchain chains) {op : ChainOp}
    (keeps : op.correctsDatabase blockchain = false) :
    DifficultyCacheSound (applyChainOp blockchain op) ((applyChainOp blockchain op).db :: chains) := by
  cases op with
  | addBlock block =>
      have below := sound.cachedHeight_le
      have sameWindow : cachedWindow (applyChainOp blockchain (.addBlock block)) =
          cachedWindow blockchain :=
        SlidingWindow.window_append_of_le [block] below
      refine ⟨below.trans (by simp [applyChainOp]), ?_, ?_,
        (sound.mono (List.subset_cons_self _ _)).cachedNext⟩
      · intro cached
        rw [sameWindow]
        exact sound.cachedTimestamps cached
      · intro cached
        rw [sameWindow]
        exact sound.cachedDifficulties cached
  | popBlock =>
      refine ⟨Nat.zero_le _, fun unset => absurd rfl unset, fun unset => absurd rfl unset,
        (sound.mono (List.subset_cons_self _ _)).cachedNext⟩
  | resetCachedHeight =>
      refine ⟨Nat.zero_le _, fun unset => absurd rfl unset, fun unset => absurd rfl unset,
        (sound.mono (List.subset_cons_self _ _)).cachedNext⟩
  | difficultyQuery =>
      show DifficultyCacheSound (getDifficultyForNextBlock blockchain).2
        ((getDifficultyForNextBlock blockchain).2.db :: chains)
      rw [(getDifficultyForNextBlock_keeps blockchain).1]
      exact getDifficultyForNextBlock_sound sound
  | recalculate startHeight =>
      rcases applyChainOp_recalculate blockchain startHeight with ⟨-, unchanged⟩ | ⟨corrects, -⟩
      · rw [unchanged]
        exact sound.mono (List.subset_cons_self _ _)
      · exact absurd (keeps.symm.trans corrects) Bool.false_ne_true

theorem epochStep_sound {blockchain : Blockchain} {chains : List (List BlockDifficultyInfo)}
    (sound : DifficultyCacheSound blockchain chains) (op : ChainOp) :
    DifficultyCacheSound (epochStep (blockchain, chains) op).1 (epochStep (blockchain, chains) op).2 := by
  unfold epochStep
  dsimp only
  cases corrects : op.correctsDatabase blockchain
  · rw [if_neg Bool.false_ne_true]
    exact applyChainOp_sound sound corrects
  · rw [if_pos rfl]
    cases op with
    | recalculate startHeight =>
        rcases applyChainOp_recalculate blockchain startHeight with
          ⟨keeps, -⟩ | ⟨-, -, noHeight, noTop⟩
        · exact absurd (keeps.symm.trans corrects) Bool.false_ne_true
        · exact DifficultyCacheSound.of_cleared _ noHeight noTop
    | _ => cases corrects

theorem foldl_epochStep_sound (ops : List ChainOp) :
    ∀ {blockchain : Blockchain} {chains : List (List BlockDifficultyInfo)},
      DifficultyCacheSound blockchain chains →
      DifficultyCacheSound (ops.foldl epochStep (blockchain, chains)).1
        (ops.foldl epochStep (blockchain, chains)).2 := by
  induction ops with
  | nil => intro blockchain chains sound; exact sound
  | cons op ops ih =>
      intro blockchain chains sound
      exact ih (epochStep_sound sound op)

theorem runChain_getDifficultyForNextBlock_eq (db : List BlockDifficultyInfo) (ops : List ChainOp)
    (named : getTailId (runChain (Blockchain.init db 0) ops).db ≠ nullHash)
    (identified : ∀ chain ∈ epochChains (Blockchain.init db 0) ops,
      getTailId chain = getTailId (runChain (Blockchain.init db 0) ops).db →
      difficultyWindow chain = difficultyWindow (runChain (Blockchain.init db 0) ops).db) :
    (getDifficultyForNextBlock (runChain (Blockchain.init db 0) ops)).1 =
      nextDifficultyFor (runChain (Blockchain.init db 0) ops).db := by
  have sound := foldl_epochStep_sound ops (DifficultyCacheSound.init db)
  rw [foldl_epochStep_fst] at sound
  exact getDifficultyForNextBlock_eq sound (runChain_fixedDifficulty ops _) named identified

/-! ### Alternative chains -/

@[simp] theorem map_info_timestamp (altChain : List BlockExtendedInfo) :
    (altChain.map (·.info)).map (·.timestamp) = altChain.map (·.timestamp) := by
  rw [List.map_map]
  rfl

@[simp] theorem map_info_cumulativeDifficulty (altChain : List BlockExtendedInfo) :
    (altChain.map (·.info)).map (·.cumulativeDifficulty) = altChain.map (·.cumulativeDifficulty) := by
  rw [List.map_map]
  rfl

theorem getNextDifficultyForAlternativeChain_eq {blockchain : Blockchain}
    (unfixed : blockchain.fixedDifficulty = 0) (altChain : List BlockExtendedInfo)
    (bei : BlockExtendedInfo) (aboveGenesis : 1 ≤ mainChainStopOffset altChain bei)
    (onMainChain : mainChainStopOffset altChain bei ≤ blockchain.db.length) :
    getNextDifficultyForAlternativeChain blockchain altChain bei =
      nextDifficultyFor (blockchain.db.take (mainChainStopOffset altChain bei) ++
        altChain.map (·.info)) := by
  have preLength : (blockchain.db.take (mainChainStopOffset altChain bei)).length =
      mainChainStopOffset altChain bei := by
    rw [List.length_take]
    omega
  have altLength : (altChain.map (·.info)).length = altChain.length := List.length_map _
  unfold getNextDifficultyForAlternativeChain
  rw [if_neg (fun fixed => fixed unfixed)]
  split
  · rename_i short
    have start : (if mainChainStopOffset altChain bei - min (difficultyBlocksCountV2 -
          min difficultyBlocksCountV2 altChain.length) (mainChainStopOffset altChain bei) = 0 then 1
        else mainChainStopOffset altChain bei - min (difficultyBlocksCountV2 -
          min difficultyBlocksCountV2 altChain.length) (mainChainStopOffset altChain bei)) =
        max 1 (mainChainStopOffset altChain bei - (difficultyBlocksCountV2 - altChain.length)) := by
      split <;> omega
    have window : difficultyWindow (blockchain.db.take (mainChainStopOffset altChain bei) ++
          altChain.map (·.info)) =
        (blockchain.db.take (mainChainStopOffset altChain bei)).drop
          (max 1 (mainChainStopOffset altChain bei - (difficultyBlocksCountV2 - altChain.length))) ++
          altChain.map (·.info) := by
      rw [difficultyWindow, List.length_append, SlidingWindow.window_append_short (by omega)
        (by omega), SlidingWindow.window, List.take_length, preLength, altLength]
    dsimp only
    simp only [start, map_range'_getBlockTimestamp onMainChain,
      map_range'_getBlockCumulativeDifficulty onMainChain]
    rw [if_pos (by simp only [List.length_map, List.length_drop]; omega), nextDifficultyFor_eq,
      window, List.map_append, List.map_append, map_info_timestamp, map_info_cumulativeDifficulty]
  · rename_i long
    have window : difficultyWindow (blockchain.db.take (mainChainStopOffset altChain bei) ++
          altChain.map (·.info)) = SlidingWindow.keepLast difficultyBlocksCountV2 (altChain.map (·.info)) := by
      rw [difficultyWindow, List.length_append, SlidingWindow.window_append_long (by omega)
        (by omega)]
    rw [SlidingWindow.fillBack_replicate_reverse (0 : UInt64) (by decide) (by simp; omega),
      SlidingWindow.fillBack_replicate_reverse (0 : DifficultyType) (by decide) (by simp; omega),
      nextDifficultyFor_eq, window, ← SlidingWindow.keepLast_map, ← SlidingWindow.keepLast_map,
      map_info_timestamp, map_info_cumulativeDifficulty]

/-! ### A recalculation computes each height from the window below it -/

def withCumulative (chain : List BlockDifficultyInfo) (values : Nat → DifficultyType) :
    List BlockDifficultyInfo :=
  chain.mapIdx fun height block => { block with cumulativeDifficulty := values height }

section WithCumulative

variable {chain : List BlockDifficultyInfo} {values : Nat → DifficultyType}

@[simp] theorem length_withCumulative : (withCumulative chain values).length = chain.length :=
  List.length_mapIdx

theorem getElem?_withCumulative (height : Nat) :
    (withCumulative chain values)[height]? =
      chain[height]?.map fun block => { block with cumulativeDifficulty := values height } :=
  List.getElem?_mapIdx

theorem timestamp_getElem_withCumulative {height : Nat}
    (inChain : height < (withCumulative chain values).length) :
    (withCumulative chain values)[height].timestamp = getBlockTimestamp chain height := by
  rw [length_withCumulative] at inChain
  simp [withCumulative, getBlockTimestamp_of_lt inChain]

theorem cumulativeDifficulty_getElem_withCumulative {height : Nat}
    (inChain : height < (withCumulative chain values).length) :
    (withCumulative chain values)[height].cumulativeDifficulty = values height := by
  simp [withCumulative]

theorem getBlockCumulativeDifficulty_withCumulative {height : Nat}
    (inChain : height < chain.length) :
    getBlockCumulativeDifficulty (withCumulative chain values) height = values height := by
  rw [getBlockCumulativeDifficulty_of_lt (by rw [length_withCumulative]; exact inChain),
    cumulativeDifficulty_getElem_withCumulative]

theorem withCumulative_getBlockCumulativeDifficulty :
    withCumulative chain (getBlockCumulativeDifficulty chain) = chain := by
  apply List.ext_getElem?
  intro height
  rw [getElem?_withCumulative]
  cases read : chain[height]? with
  | none => rfl
  | some block => simp [getBlockCumulativeDifficulty, read]

theorem window_withCumulative_congr {other : Nat → DifficultyType} {lower count height : Nat}
    (agree : ∀ below < height, values below = other below) :
    SlidingWindow.window lower count height (withCumulative chain values) =
      SlidingWindow.window lower count height (withCumulative chain other) := by
  apply SlidingWindow.window_congr (by simp)
  intro index _ below
  rw [getElem?_withCumulative, getElem?_withCumulative, agree index below]

end WithCumulative

theorem difficultyWindow_take {chain : List BlockDifficultyInfo} {height : Nat}
    (within : height ≤ chain.length) :
    difficultyWindow (chain.take height) =
      SlidingWindow.window 1 difficultyBlocksCountV2 height chain := by
  rw [difficultyWindow, List.length_take, min_eq_left within, SlidingWindow.window_take]

theorem nextDifficultyFor_nil : nextDifficultyFor [] = 1 :=
  nextDifficulty_of_length_le_one _ _ (by decide)

/-- Where the drift stands against the values computed below `height`: none
found and the values agree with the database above the genesis block, or
found at a height from which the values are collected. -/
def DriftRecorded (db : List BlockDifficultyInfo) (startHeight height : Nat)
    (state : RecalculationState) (values : Nat → DifficultyType) : Prop :=
  (state.driftStartHeight = 0 ∧ state.newCumulativeDifficulties = [] ∧
      ∀ below, startHeight ≤ below → below < height → 0 < below →
        values below = getBlockCumulativeDifficulty db below) ∨
    (startHeight ≤ state.driftStartHeight ∧ 0 < state.driftStartHeight ∧
      state.driftStartHeight < height ∧
      state.newCumulativeDifficulties =
        (List.range' state.driftStartHeight (height - state.driftStartHeight)).map values ∧
      ∀ below, startHeight ≤ below → below < state.driftStartHeight → 0 < below →
        values below = getBlockCumulativeDifficulty db below)

theorem DriftRecorded.step {db : List BlockDifficultyInfo} {startHeight height : Nat}
    {state next : RecalculationState} {values : Nat → DifficultyType}
    (recorded : DriftRecorded db startHeight height state values) (above : startHeight ≤ height)
    (drift : next.driftStartHeight = (if state.driftStartHeight = 0 ∧
      next.lastCumDiff ≠ getBlockCumulativeDifficulty db height then height
      else state.driftStartHeight))
    (news : next.newCumulativeDifficulties = (if next.driftStartHeight > 0 then
      state.newCumulativeDifficulties ++ [next.lastCumDiff]
      else state.newCumulativeDifficulties)) :
    DriftRecorded db startHeight (height + 1) next
      (Function.update values height next.lastCumDiff) := by
  have same : ∀ below < height, Function.update values height next.lastCumDiff below = values below :=
    fun below lt => Function.update_of_ne (by omega) _ _
  rcases recorded with ⟨unfound, empty, agree⟩ | ⟨low, positive, found, collected, agree⟩
  · by_cases differs : next.lastCumDiff ≠ getBlockCumulativeDifficulty db height
    · rw [if_pos ⟨unfound, differs⟩] at drift
      by_cases genesis : height = 0
      · left
        refine ⟨drift.trans genesis, ?_, fun below _ lt positive => by omega⟩
        rw [news, if_neg (by omega), empty]
      · right
        refine ⟨by omega, by omega, by omega, ?_, ?_⟩
        · rw [news, if_pos (by omega), empty, drift, Nat.add_sub_cancel_left]
          simp
        · intro below low lt positive
          rw [drift] at lt
          rw [same below lt]
          exact agree below low lt positive
    · rw [not_not] at differs
      rw [if_neg (fun noted => noted.2 differs)] at drift
      left
      refine ⟨drift.trans unfound, ?_, ?_⟩
      · rw [news, if_neg (by omega), empty]
      · intro below low lt positive
        by_cases top : below = height
        · rw [top, Function.update_self]
          exact differs
        · rw [same below (by omega)]
          exact agree below low (by omega) positive
  · rw [if_neg (fun noted => by omega)] at drift
    right
    refine ⟨drift ▸ low, drift ▸ positive, by omega, ?_, ?_⟩
    · have count : height + 1 - state.driftStartHeight = height - state.driftStartHeight + 1 := by
        omega
      have top : state.driftStartHeight + 1 * (height - state.driftStartHeight) = height := by
        omega
      rw [news, if_pos (by omega), collected, drift, count, List.range'_concat, top, List.map_append,
        List.map_singleton, Function.update_self]
      congr 1
      apply List.map_congr_left
      intro below member
      rw [List.mem_range'_1] at member
      exact (same below (by omega)).symm
    · intro below low lt positive
      rw [drift] at lt
      rw [same below (by omega)]
      exact agree below low lt positive

/-- What holds before the pass at `height` of a recalculation from
`startHeight` that began with `initial` as the cumulative difficulty below it:
`values` are the cumulative difficulties computed so far, each the one below
plus `next_difficulty` of the window of the chain with the computed values, and
the loop's window is that chain's window at `height`. -/
structure RecalculationInvariant (db : List BlockDifficultyInfo) (startHeight : Nat)
    (initial : DifficultyType) (height : Nat) (state : RecalculationState)
    (values : Nat → DifficultyType) : Prop where
  belowStart : ∀ below < startHeight, values below = getBlockCumulativeDifficulty db below
  timestamps : state.timestamps = (SlidingWindow.window 1 difficultyBlocksCountV2 height
    (withCumulative db values)).map (·.timestamp)
  difficulties : state.difficulties = (SlidingWindow.window 1 difficultyBlocksCountV2 height
    (withCumulative db values)).map (·.cumulativeDifficulty)
  lastCumDiff : state.lastCumDiff = if height = startHeight then initial else values (height - 1)
  computed : ∀ below, startHeight ≤ below → below < height →
    (values below).val = (if below = startHeight then initial else values (below - 1)).val +
      (nextDifficultyFor ((withCumulative db values).take below)).val
  drift : DriftRecorded db startHeight height state values

theorem RecalculationInvariant.step {db : List BlockDifficultyInfo} {startHeight : Nat}
    {initial : DifficultyType} {height : Nat} {state next : RecalculationState}
    {values : Nat → DifficultyType}
    (invariant : RecalculationInvariant db startHeight initial height state values)
    (above : startHeight ≤ height) (inChain : height < db.length)
    (stepped : recalculationStep db height state = some next) :
    RecalculationInvariant db startHeight initial (height + 1) next
      (Function.update values height next.lastCumDiff) := by
  obtain ⟨sum, drift, news, windows⟩ := recalculationStep_eq_some stepped
  have same : ∀ below < height, Function.update values height next.lastCumDiff below = values below :=
    fun below lt => Function.update_of_ne (by omega) _ _
  have newValue : Function.update values height next.lastCumDiff height = next.lastCumDiff :=
    Function.update_self ..
  have inChain' : height < (withCumulative db (Function.update values height next.lastCumDiff)).length := by
    rw [length_withCumulative]
    exact inChain
  have sameWindow : ∀ below ≤ height,
      SlidingWindow.window 1 difficultyBlocksCountV2 below
          (withCumulative db (Function.update values height next.lastCumDiff)) =
        SlidingWindow.window 1 difficultyBlocksCountV2 below (withCumulative db values) :=
    fun below le => window_withCumulative_congr (fun other lt => same other (by omega))
  have sameFor : ∀ below ≤ height,
      nextDifficultyFor ((withCumulative db (Function.update values height next.lastCumDiff)).take
          below) = nextDifficultyFor ((withCumulative db values).take below) := by
    intro below le
    rw [nextDifficultyFor_eq, nextDifficultyFor_eq, difficultyWindow_take (by simp; omega),
      difficultyWindow_take (by simp; omega), sameWindow below le]
  have lengths : state.timestamps.length ≤ difficultyBlocksCountV2 ∧
      state.difficulties.length = state.timestamps.length := by
    rw [invariant.timestamps, invariant.difficulties, List.length_map, List.length_map]
    exact ⟨SlidingWindow.length_window_le _ _ _ _, rfl⟩
  obtain ⟨nextTimestamps, nextDifficulties⟩ := windows lengths.1 lengths.2
  have pushed : ∀ {β : Type} (f : BlockDifficultyInfo → β) (xs : List β) (x : β),
      xs = (SlidingWindow.window 1 difficultyBlocksCountV2 height
        (withCumulative db values)).map f →
      x = f (withCumulative db (Function.update values height next.lastCumDiff))[height] →
      SlidingWindow.keepLast difficultyBlocksCountV2 (if height > 0 then xs ++ [x] else xs) =
        (SlidingWindow.window 1 difficultyBlocksCountV2 (height + 1)
          (withCumulative db (Function.update values height next.lastCumDiff))).map f := by
    intro β f xs x read top
    split
    · rename_i positive
      rw [read, top, ← sameWindow height le_rfl, ← List.map_singleton, ← List.map_append,
        SlidingWindow.keepLast_map, SlidingWindow.window_succ (by decide) positive inChain']
    · rw [read, SlidingWindow.window_of_le _ (by omega), SlidingWindow.window_of_le _ (by omega)]
      rfl
  refine ⟨?_, ?_, ?_, ?_, ?_, invariant.drift.step above drift news⟩
  · intro below lt
    rw [same below (by omega)]
    exact invariant.belowStart below lt
  · rw [nextTimestamps]
    exact pushed _ _ _ invariant.timestamps (timestamp_getElem_withCumulative inChain').symm
  · rw [nextDifficulties]
    exact pushed _ _ _ invariant.difficulties
      (by rw [cumulativeDifficulty_getElem_withCumulative, newValue])
  · rw [if_neg (by omega), Nat.add_sub_cancel, newValue]
  · intro below low lt
    have prev : ∀ other ≤ height, (if other = startHeight then initial
        else Function.update values height next.lastCumDiff (other - 1)) =
        if other = startHeight then initial else values (other - 1) := by
      intro other le
      split
      · rfl
      · exact same _ (by omega)
    by_cases top : below = height
    · rw [top, newValue, sum, prev height le_rfl, ← invariant.lastCumDiff, sameFor height le_rfl,
        nextDifficultyFor_eq, difficultyWindow_take (by simp; omega), ← invariant.timestamps,
        ← invariant.difficulties, Nat.add_comm]
    · have lt' : below < height := by omega
      rw [same below lt', sameFor below lt'.le, prev below lt'.le]
      exact invariant.computed below low lt'

theorem recalculationStart_window {db : List BlockDifficultyInfo} {startHeight : Nat}
    (within : startHeight ≤ db.length) :
    (recalculationStart db startHeight).timestamps =
        (SlidingWindow.window 1 difficultyBlocksCountV2 startHeight db).map (·.timestamp) ∧
      (recalculationStart db startHeight).difficulties =
        (SlidingWindow.window 1 difficultyBlocksCountV2 startHeight db).map
          (·.cumulativeDifficulty) := by
  unfold recalculationStart
  dsimp only
  split
  · simp only [SlidingWindow.fillBelow_eq, Nat.sub_zero, List.append_nil, List.map_map,
      Function.comp_def]
    rw [map_range'_getBlockTimestamp within, map_range'_getBlockCumulativeDifficulty within]
    exact ⟨rfl, rfl⟩
  · rw [SlidingWindow.window_of_le _ (by omega)]
    exact ⟨rfl, rfl⟩

theorem recalculationStart_lastCumDiff_of_le_one (db : List BlockDifficultyInfo) {startHeight : Nat}
    (low : startHeight ≤ 1) : (recalculationStart db startHeight).lastCumDiff.val = startHeight := by
  unfold recalculationStart
  dsimp only
  rw [dif_pos low]

theorem recalculationStart_lastCumDiff_of_one_lt (db : List BlockDifficultyInfo) {startHeight : Nat}
    (high : 1 < startHeight) :
    (recalculationStart db startHeight).lastCumDiff =
      getBlockCumulativeDifficulty db (startHeight - 1) := by
  unfold recalculationStart
  dsimp only
  rw [dif_neg (by omega), if_pos high]
  simp only [SlidingWindow.fillBelow_eq, Nat.sub_zero, List.append_nil, List.map_map,
    Function.comp_def]
  have positive : 0 < difficultyBlocksCountV2 := by decide
  have count : startHeight - max 1 (startHeight - difficultyBlocksCountV2) =
      startHeight - 1 - max 1 (startHeight - difficultyBlocksCountV2) + 1 := by omega
  have top : max 1 (startHeight - difficultyBlocksCountV2) +
      1 * (startHeight - 1 - max 1 (startHeight - difficultyBlocksCountV2)) = startHeight - 1 := by
    omega
  rw [count, List.range'_concat, top, List.map_append, List.map_singleton, List.getLast?_concat]
  rfl

theorem recalculationStart_invariant {db : List BlockDifficultyInfo} {startHeight : Nat}
    (within : startHeight ≤ db.length) :
    RecalculationInvariant db startHeight (recalculationStart db startHeight).lastCumDiff startHeight
      (recalculationStart db startHeight) (getBlockCumulativeDifficulty db) := by
  obtain ⟨timestamps, difficulties⟩ := recalculationStart_window within
  refine ⟨fun _ _ => rfl, ?_, ?_, (if_pos rfl).symm, fun below low lt => absurd lt (by omega),
    .inl ⟨rfl, rfl, fun below low lt => absurd lt (by omega)⟩⟩
  · rw [withCumulative_getBlockCumulativeDifficulty]
    exact timestamps
  · rw [withCumulative_getBlockCumulativeDifficulty]
    exact difficulties

theorem recalculationLoop_invariant {db : List BlockDifficultyInfo} {startHeight : Nat}
    {final : RecalculationState} (within : startHeight ≤ db.length)
    (looped : recalculationLoop db (db.length - startHeight) startHeight
      (recalculationStart db startHeight) = some final) :
    ∃ values, RecalculationInvariant db startHeight (recalculationStart db startHeight).lastCumDiff
      db.length final values := by
  have ran := ForLoop.forRange_invariant (recalculationStep db)
    (fun height state => startHeight ≤ height ∧ ∃ values, RecalculationInvariant db startHeight
      (recalculationStart db startHeight).lastCumDiff height state values)
    (fun height state next inChain ⟨above, values, invariant⟩ stepped =>
      ⟨by omega, _, invariant.step above inChain stepped⟩)
    (Nat.add_sub_cancel' within).le looped ⟨le_rfl, _, recalculationStart_invariant within⟩
  rw [Nat.add_sub_cancel' within] at ran
  exact ran.2

section Written

variable {db : List BlockDifficultyInfo} {startHeight : Nat} {initial : DifficultyType}
  {final : RecalculationState} {values : Nat → DifficultyType}

theorem RecalculationInvariant.stored_of_lt
    (invariant : RecalculationInvariant db startHeight initial db.length final values)
    {height : Nat} (positive : 0 < height) (inChain : height < db.length)
    (belowDrift : final.driftStartHeight = 0 ∨ height < final.driftStartHeight) :
    values height = getBlockCumulativeDifficulty db height := by
  by_cases low : height < startHeight
  · exact invariant.belowStart height low
  rcases invariant.drift with ⟨-, -, agree⟩ | ⟨-, found, -, -, agree⟩
  · exact agree height (by omega) inChain positive
  · exact agree height (by omega) (by omega) positive

theorem RecalculationInvariant.agree_of_unfound
    (invariant : RecalculationInvariant db startHeight initial db.length final values)
    (unfound : ¬final.driftStartHeight > 0) (height : Nat) (positive : 0 < height) :
    db[height]? = (withCumulative db values)[height]? := by
  rw [getElem?_withCumulative]
  cases read : db[height]? with
  | none => rfl
  | some block =>
      have inChain : height < db.length := (List.getElem?_eq_some_iff.mp read).1
      have stored := invariant.stored_of_lt positive inChain (.inl (by omega))
      rw [getBlockCumulativeDifficulty, read] at stored
      simp only [Option.map_some, stored]
      rfl

theorem RecalculationInvariant.corrected
    (invariant : RecalculationInvariant db startHeight initial db.length final values)
    (found : final.driftStartHeight > 0) :
    ∃ corrected, correctBlockCumulativeDifficulties db final.driftStartHeight
        final.newCumulativeDifficulties = some corrected ∧
      (∀ height, 0 < height → corrected[height]? = (withCumulative db values)[height]?) ∧
      ∀ height < max startHeight 1, corrected[height]? = db[height]? := by
  rcases invariant.drift with ⟨unfound, -⟩ | ⟨low, -, below, collected, -⟩
  · omega
  have fits : final.driftStartHeight + final.newCumulativeDifficulties.length = db.length := by
    rw [collected, List.length_map, List.length_range']
    omega
  refine ⟨_, by rw [correctBlockCumulativeDifficulties, if_neg (by omega)], ?_, ?_⟩
  · intro height positive
    rw [List.getElem?_mapIdx, getElem?_withCumulative]
    cases read : db[height]? with
    | none => rfl
    | some block =>
        have inChain : height < db.length := (List.getElem?_eq_some_iff.mp read).1
        simp only [Option.map_some]
        split
        · rw [collected, List.getD_eq_getElem?_getD, List.getElem?_map,
            List.getElem?_range' (by omega)]
          simp only [Option.map_some, Option.getD_some, Nat.one_mul]
          rw [Nat.add_sub_cancel' ‹_›]
        · have stored := invariant.stored_of_lt positive inChain (.inr (by omega))
          rw [getBlockCumulativeDifficulty, read] at stored
          simp only [stored]
          rfl
  · intro height lt
    rw [List.getElem?_mapIdx]
    cases db[height]? with
    | none => rfl
    | some block => simp only [Option.map_some, if_neg (show ¬final.driftStartHeight ≤ height by omega)]

theorem RecalculationInvariant.recurrence {written : List BlockDifficultyInfo}
    (invariant : RecalculationInvariant db startHeight
      (recalculationStart db startHeight).lastCumDiff db.length final values)
    (above : ∀ height, 0 < height → written[height]? = (withCumulative db values)[height]?)
    (below : ∀ height < max startHeight 1, written[height]? = db[height]?) :
    written.map (fun block => (block.hash, block.timestamp)) =
        db.map (fun block => (block.hash, block.timestamp)) ∧
      ∀ height, max startHeight 1 ≤ height → height < written.length →
        (getBlockCumulativeDifficulty written height).val =
          (if height = 1 then 1 else (getBlockCumulativeDifficulty written (height - 1)).val) +
            (nextDifficultyFor (written.take height)).val := by
  have kept : written.map (fun block => (block.hash, block.timestamp)) =
      db.map (fun block => (block.hash, block.timestamp)) := by
    apply List.ext_getElem?
    intro height
    rw [List.getElem?_map, List.getElem?_map]
    by_cases low : height < max startHeight 1
    · rw [below height low]
    · rw [above height (by omega), getElem?_withCumulative, Option.map_map]
      rfl
  have sameLength : written.length = db.length := by
    simpa using congrArg List.length kept
  have value : ∀ height, 0 < height → height < db.length →
      getBlockCumulativeDifficulty written height = values height := by
    intro height positive inChain
    have computed : getBlockCumulativeDifficulty (withCumulative db values) height = values height :=
      getBlockCumulativeDifficulty_withCumulative inChain
    rw [← computed]
    simp only [getBlockCumulativeDifficulty, above height positive]
  refine ⟨kept, fun height low inChain => ?_⟩
  rw [sameLength] at inChain
  have window : nextDifficultyFor (written.take height) =
      nextDifficultyFor ((withCumulative db values).take height) := by
    rw [nextDifficultyFor_eq, nextDifficultyFor_eq, difficultyWindow_take (by omega),
      difficultyWindow_take (by simp; omega),
      SlidingWindow.window_congr (by simp [sameLength]) (fun index low _ => above index (by omega))]
  rw [value height (by omega) inChain, invariant.computed height (by omega) inChain, window,
    Nat.add_right_cancel_iff]
  by_cases first : height = startHeight
  · rw [if_pos first]
    by_cases one : height = 1
    · rw [if_pos one, recalculationStart_lastCumDiff_of_le_one db (by omega)]
      omega
    · rw [if_neg one, recalculationStart_lastCumDiff_of_one_lt db (by omega), getBlockCumulativeDifficulty,
        getBlockCumulativeDifficulty, below _ (by omega), first]
  · rw [if_neg first]
    by_cases one : height = 1
    · have genesis := invariant.computed 0 (by omega) (by omega)
      rw [if_pos (by omega), recalculationStart_lastCumDiff_of_le_one db (by omega), List.take_zero,
        nextDifficultyFor_nil] at genesis
      have unit : ((1 : DifficultyType) : Nat) = 1 := rfl
      rw [if_pos one, one, genesis, unit]
      omega
    · rw [if_neg one, value (height - 1) (by omega) (by omega)]

end Written

theorem recalculateDifficulties_spec {blockchain result : Blockchain} {startHeight count : Nat}
    (unfixed : blockchain.fixedDifficulty = 0)
    (recalculated : recalculateDifficulties blockchain startHeight = some (count, result)) :
    (∀ height < max startHeight 1, result.db[height]? = blockchain.db[height]?) ∧
      result.db.map (fun block => (block.hash, block.timestamp)) =
        blockchain.db.map (fun block => (block.hash, block.timestamp)) ∧
      ∀ height, max startHeight 1 ≤ height → height < result.db.length →
        (getBlockCumulativeDifficulty result.db height).val =
          (if height = 1 then 1 else (getBlockCumulativeDifficulty result.db (height - 1)).val) +
            (nextDifficultyFor (result.db.take height)).val := by
  unfold recalculateDifficulties at recalculated
  rw [if_neg (fun fixed => fixed unfixed)] at recalculated
  split at recalculated
  · cases recalculated
  rename_i nonempty
  dsimp only at recalculated
  have count : blockchain.db.length - 1 + 1 - startHeight = blockchain.db.length - startHeight := by
    have positive := List.length_pos_iff.mpr nonempty
    omega
  rw [count] at recalculated
  split at recalculated
  · cases recalculated
  rename_i final looped
  by_cases within : startHeight ≤ blockchain.db.length
  · obtain ⟨values, invariant⟩ := recalculationLoop_invariant within looped
    split at recalculated
    · rename_i found
      obtain ⟨corrected, correctedEq, above, below⟩ := invariant.corrected found
      cases recalculated
      rw [correctedEq, Option.getD_some]
      exact ⟨below, invariant.recurrence above below⟩
    · rename_i unfound
      cases recalculated
      exact ⟨fun _ _ => rfl, invariant.recurrence (invariant.agree_of_unfound unfound)
        (fun _ _ => rfl)⟩
  · rw [show blockchain.db.length - startHeight = 0 by omega] at looped
    cases looped
    rw [if_neg (show ¬(recalculationStart blockchain.db startHeight).driftStartHeight > 0 from
      lt_irrefl 0)] at recalculated
    cases recalculated
    exact ⟨fun _ _ => rfl, rfl, fun height low inChain => absurd inChain (by omega)⟩

/-- The three ways the node computes the next difficulty read the difficulty
window of the chain they are for. Over every run from a freshly opened
database without a fixed difficulty, where the top block's hash is not
`null_hash` and the main chains since the last correction that end in the same
block have the same window: `get_difficulty_for_next_block` returns
`next_difficulty` of the main chain's window; for every alternative chain that
leaves the main chain above the genesis block,
`get_next_difficulty_for_alternative_chain` returns that of the chain it would
make; and `recalculate_difficulties` leaves hashes, timestamps and the blocks
below its start as they were, and each cumulative difficulty from its start up
the one below plus `next_difficulty` of the window below it. -/
theorem difficulty_paths_read_window (db : List BlockDifficultyInfo) (ops : List ChainOp)
    (named : getTailId (runChain (Blockchain.init db 0) ops).db ≠ nullHash)
    (identified : ∀ chain ∈ epochChains (Blockchain.init db 0) ops,
      getTailId chain = getTailId (runChain (Blockchain.init db 0) ops).db →
      difficultyWindow chain = difficultyWindow (runChain (Blockchain.init db 0) ops).db) :
    (getDifficultyForNextBlock (runChain (Blockchain.init db 0) ops)).1 =
        nextDifficultyFor (runChain (Blockchain.init db 0) ops).db ∧
      (∀ (altChain : List BlockExtendedInfo) (bei : BlockExtendedInfo),
        1 ≤ mainChainStopOffset altChain bei →
        mainChainStopOffset altChain bei ≤ (runChain (Blockchain.init db 0) ops).db.length →
        getNextDifficultyForAlternativeChain (runChain (Blockchain.init db 0) ops) altChain bei =
          nextDifficultyFor ((runChain (Blockchain.init db 0) ops).db.take
            (mainChainStopOffset altChain bei) ++ altChain.map (·.info))) ∧
      ∀ (startHeight count : Nat) (result : Blockchain),
        recalculateDifficulties (runChain (Blockchain.init db 0) ops) startHeight =
          some (count, result) →
        (∀ height < max startHeight 1,
          result.db[height]? = (runChain (Blockchain.init db 0) ops).db[height]?) ∧
        result.db.map (fun block => (block.hash, block.timestamp)) =
          (runChain (Blockchain.init db 0) ops).db.map (fun block => (block.hash, block.timestamp)) ∧
        ∀ height, max startHeight 1 ≤ height → height < result.db.length →
          (getBlockCumulativeDifficulty result.db height).val =
            (if height = 1 then 1 else (getBlockCumulativeDifficulty result.db (height - 1)).val) +
              (nextDifficultyFor (result.db.take height)).val := by
  have unfixed : (runChain (Blockchain.init db 0) ops).fixedDifficulty = 0 :=
    runChain_fixedDifficulty ops _
  refine ⟨runChain_getDifficultyForNextBlock_eq db ops named identified, ?_, ?_⟩
  · intro altChain bei aboveGenesis onMainChain
    exact getNextDifficultyForAlternativeChain_eq unfixed altChain bei aboveGenesis onMainChain
  · intro startHeight count result recalculated
    exact recalculateDifficulties_spec unfixed recalculated

def taggedBlock (tag : UInt8) (timestamp : UInt64) (cumulativeDifficulty : DifficultyType) :
    BlockDifficultyInfo :=
  ⟨⟨List.replicate 32 tag, List.length_replicate⟩, timestamp, cumulativeDifficulty⟩

/-- A chain grown by two blocks, queried, popped and grown again. -/
theorem difficulty_paths_read_window_on_regrown_chain :
    (getDifficultyForNextBlock (runChain (Blockchain.init [taggedBlock 1 0 1] 0)
        [.addBlock (taggedBlock 2 120 2), .difficultyQuery, .addBlock (taggedBlock 3 250 3),
          .difficultyQuery, .popBlock, .addBlock (taggedBlock 3 250 3)])).1 =
      nextDifficultyFor (runChain (Blockchain.init [taggedBlock 1 0 1] 0)
        [.addBlock (taggedBlock 2 120 2), .difficultyQuery, .addBlock (taggedBlock 3 250 3),
          .difficultyQuery, .popBlock, .addBlock (taggedBlock 3 250 3)]).db :=
  (difficulty_paths_read_window _ _ (by decide) (by decide)).1

/-- With `--fixed-difficulty` the main chain's next difficulty is the fixed
one, not that of its window. -/
theorem fixed_difficulty_ignores_window :
    (getDifficultyForNextBlock (Blockchain.init [taggedBlock 1 0 1] 5)).1 = 5 ∧
      nextDifficultyFor [taggedBlock 1 0 1] = 1 :=
  ⟨rfl, nextDifficulty_of_length_le_one _ _ (by decide)⟩

end Antd.Cryptonote
