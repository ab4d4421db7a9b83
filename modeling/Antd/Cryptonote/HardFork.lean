import Antd.Lib.SlidingWindow
import Antd.Lib.Histogram

/-! The hard-fork state of `hardfork.cpp`. A `HardFork` object keeps a table of
forks built by `add_fork`, a rolling window `versions` of the votes of the last
`window_size` blocks, the histogram `last_versions` of those votes and the
index of the fork in force. Blocks reach it through `BlockchainDB::add_block`,
which calls `add` at the block's height; `on_block_popped`,
`reorganize_from_block_height` and `rescan_from_block_height` rewind or rebuild
the window when the chain shrinks or is replaced.

Versions and votes are `uint8_t`, the counters of `last_versions` are
`unsigned int` and `window_size` is `uint64_t`, as in the source. The database
keeps, per height, the block's two version bytes and the fork version
`set_hard_fork_version` stored there. -/

namespace Antd.Cryptonote

/-- `hardfork_t`: a fork of the table. -/
structure Hardfork where
  version : UInt8
  height : Nat
  threshold : UInt8
  time : Int
  deriving DecidableEq, Repr

def Hardfork.Precedes (earlier later : Hardfork) : Prop :=
  earlier.version < later.version ∧ earlier.height < later.height ∧ earlier.time < later.time

instance (earlier later : Hardfork) : Decidable (earlier.Precedes later) :=
  inferInstanceAs (Decidable (_ ∧ _ ∧ _))

/-! ### The fork table -/

def appendFork (heights : List Hardfork) (fork : Hardfork) : Option (List Hardfork) :=
  if fork.threshold > 100 then none else some (heights ++ [fork])

/-- `HardFork::add_fork`: the table with `fork` appended, or `none` where the
source returns `false` and leaves the table as it was. -/
def addFork (heights : List Hardfork) (fork : Hardfork) : Option (List Hardfork) :=
  if fork.version = 0 then none
  else
    match heights.getLast? with
    | some last =>
        if fork.version ≤ last.version ∨ fork.height ≤ last.height ∨ fork.time ≤ last.time then none
        else appendFork heights fork
    | none => appendFork heights fork

theorem Hardfork.precedes_trans {first second third : Hardfork} (before : first.Precedes second)
    (after : second.Precedes third) : first.Precedes third :=
  ⟨UInt8.lt_trans before.1 after.1, Nat.lt_trans before.2.1 after.2.1,
    Int.lt_trans before.2.2 after.2.2⟩

/-- A fork table as `add_fork` builds it: versions above 0, thresholds of at
most 100 percent, and versions, heights and times strictly increasing. -/
structure ForkTable where
  heights : List Hardfork
  versionsPositive : ∀ fork ∈ heights, 0 < fork.version
  thresholdsBounded : ∀ fork ∈ heights, fork.threshold ≤ 100
  increasing : heights.Pairwise Hardfork.Precedes

theorem addFork_keeps {heights extended : List Hardfork} {fork : Hardfork}
    (added : addFork heights fork = some extended) (increasing : heights.Pairwise Hardfork.Precedes) :
    (extended = heights ++ [fork] ∧ 0 < fork.version ∧ fork.threshold ≤ 100) ∧
      extended.Pairwise Hardfork.Precedes := by
  unfold addFork at added
  have appended : ∀ {extended}, appendFork heights fork = some extended →
      extended = heights ++ [fork] ∧ fork.threshold ≤ 100 := by
    intro extended appended
    unfold appendFork at appended
    split at appended
    · cases appended
    · exact ⟨(Option.some.inj appended).symm, UInt8.not_lt.mp ‹_›⟩
  by_cases zero : fork.version = 0
  · rw [if_pos zero] at added
    cases added
  rw [if_neg zero] at added
  have positive : 0 < fork.version := by
    rw [UInt8.lt_iff_toNat_lt]
    have : fork.version.toNat ≠ 0 := fun isZero => zero (UInt8.toNat_inj.mp isZero)
    simp only [UInt8.toNat_zero]
    omega
  cases lastFork : heights.getLast? with
  | none =>
      rw [lastFork] at added
      obtain ⟨rfl, bounded⟩ := appended added
      rw [List.getLast?_eq_none_iff] at lastFork
      subst lastFork
      exact ⟨⟨rfl, positive, bounded⟩, List.pairwise_singleton _ _⟩
  | some last =>
      rw [lastFork] at added
      dsimp only at added
      split at added
      · cases added
      rename_i above
      obtain ⟨rfl, bounded⟩ := appended added
      refine ⟨⟨rfl, positive, bounded⟩, ?_⟩
      have afterLast : last.Precedes fork := by
        simp only [not_or, UInt8.not_le, Nat.not_le, Int.not_le] at above
        exact ⟨above.1, above.2.1, above.2.2⟩
      obtain ⟨front, rfl⟩ := List.getLast?_eq_some_iff.mp lastFork
      have belowLast := (List.pairwise_append.mp increasing).2.2
      rw [List.pairwise_append]
      refine ⟨increasing, List.pairwise_singleton _ _, ?_⟩
      intro earlier inHeights later inLater
      rw [List.mem_singleton] at inLater
      subst inLater
      rcases List.mem_append.mp inHeights with inFront | isLast
      · exact Hardfork.precedes_trans (belowLast earlier inFront last (List.mem_singleton_self _))
          afterLast
      · rw [List.mem_singleton] at isLast
        subst isLast
        exact afterLast

def ForkTable.addFork (table : ForkTable) (fork : Hardfork) : Option ForkTable :=
  match added : Antd.Cryptonote.addFork table.heights fork with
  | none => none
  | some extended =>
      have kept := addFork_keeps added table.increasing
      some { heights := extended
             versionsPositive := by
               rw [kept.1.1]
               intro entry member
               rcases List.mem_append.mp member with old | new
               · exact table.versionsPositive entry old
               · rw [List.mem_singleton.mp new]
                 exact kept.1.2.1
             thresholdsBounded := by
               rw [kept.1.1]
               intro entry member
               rcases List.mem_append.mp member with old | new
               · exact table.thresholdsBounded entry old
               · rw [List.mem_singleton.mp new]
                 exact kept.1.2.2
             increasing := kept.2 }

/-- The members of a `HardFork` fixed once `init` has run: `original_version`,
`window_size` (the constructor throws on 0) and the table of `add_fork`. -/
structure HardForkConfig where
  originalVersion : UInt8
  windowSize : UInt64
  table : ForkTable
  windowPositive : 0 < windowSize

namespace HardForkConfig

variable (cfg : HardForkConfig)

/-- `heights` after `init`, which puts a fork of `original_version` at height 0
into an empty table. -/
def heights : List Hardfork :=
  if cfg.table.heights = [] then [⟨cfg.originalVersion, 0, 0, 0⟩] else cfg.table.heights

def fork (index : Nat) : Hardfork :=
  cfg.heights.getD index ⟨0, 0, 0, 0⟩

def getEffectiveVersion (votingVersion : UInt8) : UInt8 :=
  match cfg.heights.getLast? with
  | some last => if votingVersion > last.version then last.version else votingVersion
  | none => votingVersion

/-- The vote count `get_voted_fork_index` needs for a fork of `threshold`
percent: `(window_size * threshold + 99) / 100` in 64 bits, kept in 32. -/
def voteThreshold (threshold : UInt8) : UInt32 :=
  ((cfg.windowSize * threshold.toUInt64 + 99) / 100).toUInt32

def idealVersionFrom (height : Nat) : Nat → UInt8
  | 0 => cfg.originalVersion
  | index + 1 =>
      if height ≥ (cfg.fork (index + 1)).height then (cfg.fork (index + 1)).version
      else idealVersionFrom height index

/-- `get_ideal_version(height)`: the version of the last fork whose height is
reached, by the table alone; `original_version` below the second fork. -/
def getIdealVersion (height : Nat) : UInt8 :=
  cfg.idealVersionFrom height (cfg.heights.length - 1)

end HardForkConfig

namespace HardForkConfig

variable (cfg : HardForkConfig)

theorem heights_pairwise : cfg.heights.Pairwise Hardfork.Precedes := by
  unfold heights
  split
  · exact List.pairwise_singleton _ _
  · exact cfg.table.increasing

theorem length_heights_pos : 0 < cfg.heights.length := by
  unfold heights
  split
  · simp
  · exact List.length_pos_iff.mpr ‹_›

theorem fork_eq_getElem {index : Nat} (inTable : index < cfg.heights.length) :
    cfg.fork index = cfg.heights[index] :=
  List.getD_eq_getElem _ _ inTable

theorem fork_precedes {earlier later : Nat} (before : earlier < later)
    (inTable : later < cfg.heights.length) : (cfg.fork earlier).Precedes (cfg.fork later) := by
  rw [fork_eq_getElem cfg (Nat.lt_trans before inTable), fork_eq_getElem cfg inTable]
  exact List.pairwise_iff_getElem.mp cfg.heights_pairwise earlier later _ inTable before

theorem eq_zero_of_fork_height_zero {index : Nat} (inTable : index < cfg.heights.length)
    (atGenesis : (cfg.fork index).height ≤ 0) : index = 0 := by
  by_contra nonzero
  have above := (cfg.fork_precedes (Nat.pos_of_ne_zero nonzero) inTable).2.1
  omega

end HardForkConfig

/-! ### The tables of `hardforks.cpp` -/

def mainnetHardForks : List Hardfork :=
  [⟨7, 1, 0, 1744823806⟩, ⟨8, 50, 0, 1744824295⟩, ⟨9, 300, 0, 1744825855⟩,
    ⟨10, 400, 0, 1744826995⟩, ⟨11, 450, 0, 1749055791⟩, ⟨12, 460, 0, 1749055891⟩]

def mainnetForkTable : ForkTable :=
  ⟨mainnetHardForks, by decide, by decide, by decide⟩

def defaultWindowSize : UInt64 := 10080

def mainnetConfig : HardForkConfig :=
  ⟨7, defaultWindowSize, mainnetForkTable, by decide⟩

/-- The table `Blockchain::init` builds on the fake chain from
`regtest_hard_forks` (`cryptonote_core.cpp`), with `add_fork(version, height, 0, n + 1)`. -/
def regtestConfig : HardForkConfig :=
  ⟨7, defaultWindowSize, ⟨[⟨1, 0, 0, 1⟩, ⟨12, 1, 0, 2⟩], by decide, by decide, by decide⟩, by decide⟩

/-- What `HardFork` reads of a block. -/
structure BlockVersion where
  majorVersion : UInt8
  minorVersion : UInt8
  deriving DecidableEq, Repr

/-- `get_block_vote`: blocks from before voting carry minor version 0, which
counts as a vote for version 1. -/
def getBlockVote (block : BlockVersion) : UInt8 :=
  if block.minorVersion = 0 then 1 else block.minorVersion

def HardForkConfig.effectiveVote (cfg : HardForkConfig) (block : BlockVersion) : UInt8 :=
  cfg.getEffectiveVersion (getBlockVote block)

/-- The database as `HardFork` sees it: the main chain, genesis first, and the
`hf_versions` table of the fork version stored for each height. -/
structure HardForkDb where
  blocks : List BlockVersion
  hfVersions : Nat → Option UInt8

namespace HardForkDb

variable (db : HardForkDb)

def empty : HardForkDb := ⟨[], fun _ => none⟩

def height : Nat := db.blocks.length

def getBlockFromHeight (height : Nat) : BlockVersion :=
  db.blocks.getD height ⟨0, 0⟩

def getHardForkVersion (height : Nat) : Option UInt8 :=
  db.hfVersions height

def setHardForkVersion (height : Nat) (version : UInt8) : HardForkDb :=
  { db with hfVersions := Function.update db.hfVersions height (some version) }

def addBlock (block : BlockVersion) : HardForkDb :=
  { db with blocks := db.blocks ++ [block] }

/-- `pop_block`, which leaves the `hf_versions` entry of the popped height in place. -/
def popBlock : HardForkDb :=
  { db with blocks := db.blocks.dropLast }

end HardForkDb

/-- A `HardFork` object over its database: the window `versions` of the last
votes, their histogram `last_versions` and `current_fork_index`. -/
@[ext] structure HardFork where
  db : HardForkDb
  versions : List UInt8
  lastVersions : UInt8 → UInt32
  currentForkIndex : Nat

namespace HardFork

def withDb (s : HardFork) (db : HardForkDb) : HardFork :=
  { s with db }

section WithDb

variable (s : HardFork) (db : HardForkDb)

@[simp] theorem withDb_db : (s.withDb db).db = db := rfl
@[simp] theorem withDb_versions : (s.withDb db).versions = s.versions := rfl
@[simp] theorem withDb_lastVersions : (s.withDb db).lastVersions = s.lastVersions := rfl
@[simp] theorem withDb_currentForkIndex : (s.withDb db).currentForkIndex = s.currentForkIndex := rfl
@[simp] theorem withDb_withDb (other : HardForkDb) : (s.withDb other).withDb db = s.withDb db := rfl
@[simp] theorem withDb_self : s.withDb s.db = s := rfl

end WithDb

variable (cfg : HardForkConfig)

def cleared (db : HardForkDb) : HardFork := ⟨db, [], fun _ => 0, 0⟩

def getCurrentVersion (s : HardFork) : UInt8 :=
  (cfg.fork s.currentForkIndex).version

def doCheck (s : HardFork) (blockVersion votingVersion : UInt8) : Bool :=
  blockVersion == getCurrentVersion cfg s && decide (votingVersion ≥ getCurrentVersion cfg s)

def check (s : HardFork) (block : BlockVersion) : Bool :=
  doCheck cfg s block.majorVersion (getBlockVote block)

/-- The loop of `get_voted_fork_index` from the fork `index` down, with the
votes for the forks above it already added up. It reads `last_versions` and
`current_fork_index`. -/
def votedForkIndexFrom (lastVersions : UInt8 → UInt32) (currentForkIndex height : Nat) :
    Nat → UInt32 → Nat
  | 0, _ => currentForkIndex
  | index + 1, accumulatedVotes =>
      if currentForkIndex < index + 1 then
        let accumulated := accumulatedVotes + lastVersions (cfg.fork (index + 1)).version
        if (cfg.fork (index + 1)).height ≤ height ∧
            cfg.voteThreshold (cfg.fork (index + 1)).threshold ≤ accumulated then index + 1
        else votedForkIndexFrom lastVersions currentForkIndex height index accumulated
      else currentForkIndex

/-- `get_voted_fork_index`: the highest fork above the current one whose
height is reached and whose votes, counted with those for later forks, reach
its threshold; the current fork if there is none. -/
def getVotedForkIndex (s : HardFork) (height : Nat) : Nat :=
  votedForkIndexFrom cfg s.lastVersions s.currentForkIndex height (cfg.heights.length - 1) 0

/-- The step after each rebuild of the window: a voted fork above the current
one becomes current. -/
def adoptVotedFork (s : HardFork) (height : Nat) : HardFork :=
  if getVotedForkIndex cfg s height > s.currentForkIndex then
    { s with currentForkIndex := getVotedForkIndex cfg s height }
  else s

def pushVersion (s : HardFork) (vote : UInt8) : HardFork :=
  { s with versions := s.versions ++ [vote]
           lastVersions := Function.update s.lastVersions vote (s.lastVersions vote + 1) }

def popOldVersions (windowSize : Nat) : List UInt8 → (UInt8 → UInt32) → List UInt8 × (UInt8 → UInt32)
  | [], lastVersions => ([], lastVersions)
  | old :: rest, lastVersions =>
      if windowSize ≤ rest.length + 1 then
        popOldVersions windowSize rest (Function.update lastVersions old (lastVersions old - 1))
      else (old :: rest, lastVersions)

/-- The pop and push of `add`: the oldest votes leave a full window and the
block's effective vote comes in. -/
def slideWindow (s : HardFork) (votingVersion : UInt8) : HardFork :=
  let popped := popOldVersions cfg.windowSize.toNat s.versions s.lastVersions
  pushVersion { s with versions := popped.1, lastVersions := popped.2 } (cfg.getEffectiveVersion votingVersion)

/-- What `add` does once the block has passed `do_check` and its height has
its version stored: slide the window and adopt a fork voted in for the next
height. -/
def recordVote (s : HardFork) (votingVersion : UInt8) (height : Nat) : HardFork :=
  adoptVotedFork cfg (slideWindow cfg s votingVersion) (height + 1)

/-- `HardFork::add`: `none` where the source returns `false`, leaving
everything as it was. -/
def add (s : HardFork) (blockVersion votingVersion : UInt8) (height : Nat) : Option HardFork :=
  if doCheck cfg s blockVersion votingVersion then
    some (recordVote cfg
      (s.withDb (s.db.setHardForkVersion height (getCurrentVersion cfg s))) votingVersion height)
  else none

def addFromBlock (s : HardFork) (block : BlockVersion) (height : Nat) : Option HardFork :=
  add cfg s block.majorVersion (getBlockVote block) height

/-- The loop of `reorganize_from_block_height` and `rescan_from_block_height`
that pushes the votes of the blocks at `start`, `start + 1`, ... -/
def pushVotes (s : HardFork) (start count : Nat) : HardFork :=
  (List.range' start count).foldl
    (fun s height => pushVersion s (cfg.effectiveVote (s.db.getBlockFromHeight height))) s

/-- The loop of `reorganize_from_block_height` that re-adds the blocks above
the rebuilt window; it ignores what `add` returns. -/
def readdBlocks (s : HardFork) (start count : Nat) : HardFork :=
  (List.range' start count).foldl
    (fun s height => (addFromBlock cfg s (s.db.getBlockFromHeight height) height).getD s) s

def rewindForkIndex (startVersion : UInt8) : Nat → Nat
  | 0 => 0
  | index + 1 =>
      if (cfg.fork (index + 1)).version > startVersion then rewindForkIndex startVersion index
      else index + 1

/-- `rescan_height` of `reorganize_from_block_height`: the lowest height of a
full window that ends at `height`. -/
def rescanHeightFor (height : Nat) : Nat :=
  if height ≥ cfg.windowSize.toNat - 1 then height - (cfg.windowSize.toNat - 1) else 0

/-- `start_version` of `reorganize_from_block_height`: the version stored for
`height`, or `original_version` at the genesis block. -/
def startVersionAt (s : HardFork) (height : Nat) : Option UInt8 :=
  if height = 0 then some cfg.originalVersion else s.db.getHardForkVersion height

/-- What `reorganize_from_block_height` does once it has read `start_version`:
rewind the fork index to it, rebuild the window over the blocks up to
`height`, adopt the voted fork and re-add the blocks above. -/
def reorganizeFrom (s : HardFork) (height : Nat) (startVersion : UInt8) : HardFork :=
  let rebuilt := pushVotes cfg
    ⟨s.db, [], fun _ => 0, rewindForkIndex cfg startVersion s.currentForkIndex⟩
    (rescanHeightFor cfg height) (height + 1 - rescanHeightFor cfg height)
  readdBlocks cfg (adoptVotedFork cfg rebuilt (height + 1)) (height + 1) (s.db.height - (height + 1))

/-- `reorganize_from_block_height`. The source returns `false` and changes
nothing when `height` is not below the top; `none` is the exception
`get_hard_fork_version` throws. -/
def reorganizeFromBlockHeight (s : HardFork) (height : Nat) : Option HardFork :=
  if height ≥ s.db.height then some s
  else (startVersionAt cfg s height).map (reorganizeFrom cfg s height)

/-- What `rescan_from_block_height` does once it has read the version stored
for the top block: rebuild the window over every block from `height` to the
top, take as current the first fork of that version (the last fork if none
matches) and adopt the voted fork. -/
def rescanFrom (s : HardFork) (height : Nat) (lastVersion : UInt8) : HardFork :=
  let rebuilt := pushVotes cfg (cleared s.db) height (s.db.height - height)
  let index := cfg.heights.dropLast.findIdx (fun fork => fork.version == lastVersion)
  adoptVotedFork cfg { rebuilt with currentForkIndex := index } s.db.height

def rescanFromBlockHeight (s : HardFork) (height : Nat) : Option HardFork :=
  if height ≥ s.db.height then some s
  else (s.db.getHardForkVersion (s.db.height - 1)).map (rescanFrom cfg s height)

def rescanFromChainHeight (s : HardFork) (height : Nat) : Option HardFork :=
  if height = 0 then some s else rescanFromBlockHeight cfg s (height - 1)

/-- The chain height `init` rescans from: the bottom of the last window, or
the genesis block. -/
def initRescanHeight (db : HardForkDb) : Nat :=
  if db.height > cfg.windowSize.toNat then db.height - (cfg.windowSize.toNat - 1) else 1

def init (db : HardForkDb) : Option HardFork :=
  rescanFromChainHeight cfg (cleared db) (initRescanHeight cfg db)

/-- The loop of `on_block_popped` from the height `height` down: drop the
newest entry of the window and put the stored version of `height` in front. -/
def popVersionsDown (db : HardForkDb) : Nat → Nat → List UInt8 → Option (List UInt8)
  | 0, _, versions => some versions
  | count + 1, height, versions => do
      let version ← db.getHardForkVersion height
      popVersionsDown db count (height - 1) (version :: versions.dropLast)

/-- The last loop of `on_block_popped`: the highest fork whose height is at or
below `height`, by the table alone. -/
def forkIndexAtHeight (height : Nat) : Nat → Nat
  | 0 => 0
  | index + 1 => if height ≥ (cfg.fork (index + 1)).height then index + 1 else forkIndexAtHeight height index

/-- `on_block_popped(nblocks)` after the database has dropped `nblocks`
blocks. It leaves `last_versions` alone. With the chain down to nothing the
height of its loop wraps below 0 and the read past the top throws. -/
def onBlockPopped (s : HardFork) (nblocks : Nat) : Option HardFork :=
  if nblocks = 0 ∨ s.db.height = 0 then none
  else do
    let versions ← popVersionsDown s.db nblocks (s.db.height + nblocks - 1) s.versions
    some { s with versions
                  currentForkIndex := forkIndexAtHeight cfg (s.db.height - 1) (cfg.heights.length - 1) }

/-- `get(height)`: the version stored for a height below the top, the current
version at the top, and 255 above it. -/
def get (s : HardFork) (height : Nat) : Option UInt8 :=
  if height > s.db.height then some 255
  else if height = s.db.height then some (getCurrentVersion cfg s)
  else s.db.getHardForkVersion height

/-! ### The chain -/

/-- `BlockchainDB::add_block` for a block the chain accepted: the block goes on
top and through `add` at its height. `none` where `add` refuses it, which
`handle_block_to_main_chain` rules out by checking the block first. -/
def acceptBlock (s : HardFork) (block : BlockVersion) : Option HardFork :=
  addFromBlock cfg (s.withDb (s.db.addBlock block)) block s.db.height

def addBlocks (s : HardFork) (blocks : List BlockVersion) : Option HardFork :=
  blocks.foldlM (acceptBlock cfg) s

/-- `Blockchain::pop_block_from_blockchain`: the database drops its top block,
then `on_block_popped(1)`. -/
def popBlock (s : HardFork) : Option HardFork :=
  if s.db.blocks = [] then none else onBlockPopped cfg (s.withDb s.db.popBlock) 1

def popBlocks (s : HardFork) : Nat → Option HardFork
  | 0 => some s
  | count + 1 => (popBlock cfg s).bind (popBlocks · count)

/-- The calls the hard-fork state sees over a chain. -/
inductive HardForkOp
  | init
  | addBlock (block : BlockVersion)
  | popBlock
  | reorganizeFromBlockHeight (height : Nat)
  | rescanFromBlockHeight (height : Nat)
  deriving DecidableEq, Repr

/-- One call; `addBlock` is `BlockchainDB::add_block`, which ignores what `add` returns. -/
def applyHardForkOp (s : HardFork) : HardForkOp → Option HardFork
  | .init => init cfg s.db
  | .addBlock block => some ((acceptBlock cfg s block).getD (s.withDb (s.db.addBlock block)))
  | .popBlock => popBlock cfg s
  | .reorganizeFromBlockHeight height => reorganizeFromBlockHeight cfg s height
  | .rescanFromBlockHeight height => rescanFromBlockHeight cfg s height

def runHardForkOps (s : HardFork) (ops : List HardForkOp) : Option HardFork :=
  ops.foldlM (applyHardForkOp cfg) s

/-! ### What each step changes -/

section Fields

variable (s : HardFork)

@[simp] theorem pushVersion_db (vote : UInt8) : (pushVersion s vote).db = s.db := rfl
@[simp] theorem pushVersion_versions (vote : UInt8) :
    (pushVersion s vote).versions = s.versions ++ [vote] := rfl
@[simp] theorem pushVersion_currentForkIndex (vote : UInt8) :
    (pushVersion s vote).currentForkIndex = s.currentForkIndex := rfl

theorem getVotedForkIndex_withDb (db : HardForkDb) (height : Nat) :
    getVotedForkIndex cfg (s.withDb db) height = getVotedForkIndex cfg s height := rfl

theorem adoptVotedFork_withDb (db : HardForkDb) (height : Nat) :
    adoptVotedFork cfg (s.withDb db) height = (adoptVotedFork cfg s height).withDb db := by
  unfold adoptVotedFork
  rw [getVotedForkIndex_withDb, withDb_currentForkIndex]
  by_cases raised : getVotedForkIndex cfg s height > s.currentForkIndex
  · rw [if_pos raised, if_pos raised]
    rfl
  · rw [if_neg raised, if_neg raised]

@[simp] theorem adoptVotedFork_db (height : Nat) : (adoptVotedFork cfg s height).db = s.db := by
  unfold adoptVotedFork
  split <;> rfl

@[simp] theorem adoptVotedFork_versions (height : Nat) :
    (adoptVotedFork cfg s height).versions = s.versions := by
  unfold adoptVotedFork
  split <;> rfl

@[simp] theorem adoptVotedFork_lastVersions (height : Nat) :
    (adoptVotedFork cfg s height).lastVersions = s.lastVersions := by
  unfold adoptVotedFork
  split <;> rfl

theorem slideWindow_withDb (db : HardForkDb) (vote : UInt8) :
    slideWindow cfg (s.withDb db) vote = (slideWindow cfg s vote).withDb db := rfl

@[simp] theorem slideWindow_db (vote : UInt8) : (slideWindow cfg s vote).db = s.db := rfl
@[simp] theorem slideWindow_currentForkIndex (vote : UInt8) :
    (slideWindow cfg s vote).currentForkIndex = s.currentForkIndex := rfl

theorem recordVote_withDb (db : HardForkDb) (vote : UInt8) (height : Nat) :
    recordVote cfg (s.withDb db) vote height = (recordVote cfg s vote height).withDb db := by
  rw [recordVote, slideWindow_withDb, adoptVotedFork_withDb, recordVote]

@[simp] theorem recordVote_db (vote : UInt8) (height : Nat) :
    (recordVote cfg s vote height).db = s.db := by
  simp [recordVote]

@[simp] theorem pushVotes_db (start count : Nat) : (pushVotes cfg s start count).db = s.db := by
  unfold pushVotes
  induction List.range' start count generalizing s with
  | nil => rfl
  | cons height rest ih => rw [List.foldl_cons, ih, pushVersion_db]

end Fields

theorem popOldVersions_fst {windowSize : Nat} (positive : 0 < windowSize) :
    ∀ (versions : List UInt8) (lastVersions : UInt8 → UInt32),
      (popOldVersions windowSize versions lastVersions).1 =
        SlidingWindow.keepLast (windowSize - 1) versions
  | [], _ => by simp [popOldVersions, SlidingWindow.keepLast]
  | old :: rest, lastVersions => by
      unfold popOldVersions
      split
      · rw [popOldVersions_fst positive rest, SlidingWindow.keepLast, SlidingWindow.keepLast,
          List.length_cons, show rest.length + 1 - (windowSize - 1) =
            rest.length - (windowSize - 1) + 1 by omega, List.drop_succ_cons]
      · rw [SlidingWindow.keepLast, show (old :: rest).length - (windowSize - 1) = 0 by
          simp only [List.length_cons]; omega, List.drop_zero]

theorem popOldVersions_snd (windowSize : Nat) :
    ∀ versions : List UInt8,
      (popOldVersions windowSize versions (Histogram.histogram versions)).2 =
        Histogram.histogram (popOldVersions windowSize versions (Histogram.histogram versions)).1
  | [] => rfl
  | old :: rest => by
      unfold popOldVersions
      split
      · rw [← Histogram.histogram_of_cons]
        exact popOldVersions_snd windowSize rest
      · rfl

/-! ### The histogram and the size of the window -/

def Counted (s : HardFork) : Prop :=
  s.lastVersions = Histogram.histogram s.versions

def WindowBounded (s : HardFork) : Prop :=
  s.versions.length ≤ cfg.windowSize.toNat

theorem windowSize_pos : 0 < cfg.windowSize.toNat := by
  have positive := cfg.windowPositive
  rw [UInt64.lt_iff_toNat_lt] at positive
  simpa using positive

theorem counted_cleared (db : HardForkDb) : Counted (cleared db) := rfl

theorem windowBounded_cleared (db : HardForkDb) : WindowBounded cfg (cleared db) := Nat.zero_le _

theorem counted_withDb {s : HardFork} (counted : Counted s) (db : HardForkDb) :
    Counted (s.withDb db) := counted

theorem pushVersion_counted {s : HardFork} (counted : Counted s) (vote : UInt8) :
    Counted (pushVersion s vote) := by
  unfold Counted at counted ⊢
  rw [pushVersion_versions, Histogram.histogram_append_singleton, ← counted]
  rfl

theorem adoptVotedFork_counted {s : HardFork} (counted : Counted s) (height : Nat) :
    Counted (adoptVotedFork cfg s height) := by
  unfold Counted at counted ⊢
  rwa [adoptVotedFork_lastVersions, adoptVotedFork_versions]

theorem recordVote_versions (s : HardFork) (vote : UInt8) (height : Nat) :
    (recordVote cfg s vote height).versions =
      SlidingWindow.keepLast cfg.windowSize.toNat (s.versions ++ [cfg.getEffectiveVersion vote]) := by
  simp only [recordVote, slideWindow, adoptVotedFork_versions, pushVersion_versions]
  rw [popOldVersions_fst (windowSize_pos cfg),
    SlidingWindow.keepLast_append_singleton (windowSize_pos cfg)]

theorem recordVote_counted {s : HardFork} (counted : Counted s) (vote : UInt8) (height : Nat) :
    Counted (recordVote cfg s vote height) := by
  apply adoptVotedFork_counted
  apply pushVersion_counted
  show (popOldVersions _ s.versions s.lastVersions).2 = Histogram.histogram (popOldVersions _ s.versions s.lastVersions).1
  rw [counted]
  exact popOldVersions_snd _ s.versions

theorem recordVote_windowBounded (s : HardFork) (vote : UInt8) (height : Nat) :
    WindowBounded cfg (recordVote cfg s vote height) := by
  rw [WindowBounded, recordVote_versions, SlidingWindow.length_keepLast]
  exact Nat.min_le_left _ _

theorem add_eq_some {s t : HardFork} {blockVersion votingVersion : UInt8} {height : Nat}
    (added : add cfg s blockVersion votingVersion height = some t) :
    doCheck cfg s blockVersion votingVersion = true ∧
      t = recordVote cfg (s.withDb (s.db.setHardForkVersion height (getCurrentVersion cfg s)))
        votingVersion height := by
  unfold add at added
  split at added
  · exact ⟨‹_›, (Option.some.inj added).symm⟩
  · cases added

theorem addFromBlock_getD {motive : HardFork → Prop} {s : HardFork} {block : BlockVersion} {height : Nat}
    (unchanged : motive s)
    (accepted : ∀ vote, motive (recordVote cfg
      (s.withDb (s.db.setHardForkVersion height (getCurrentVersion cfg s))) vote height)) :
    motive ((addFromBlock cfg s block height).getD s) := by
  cases added : addFromBlock cfg s block height with
  | none => exact unchanged
  | some t =>
      rw [(add_eq_some cfg added).2]
      exact accepted _

theorem pushVotes_versions (s : HardFork) (start count : Nat) :
    (pushVotes cfg s start count).versions =
      s.versions ++ (List.range' start count).map (fun height => cfg.effectiveVote (s.db.getBlockFromHeight height)) := by
  unfold pushVotes
  induction List.range' start count generalizing s with
  | nil => simp
  | cons height rest ih =>
      rw [List.foldl_cons, ih, pushVersion_versions, pushVersion_db, List.map_cons, List.append_assoc,
        List.singleton_append]

theorem pushVotes_counted {s : HardFork} (counted : Counted s) (start count : Nat) :
    Counted (pushVotes cfg s start count) := by
  unfold pushVotes
  induction List.range' start count generalizing s with
  | nil => exact counted
  | cons height rest ih => exact ih (pushVersion_counted counted _)

theorem pushVotes_currentForkIndex (s : HardFork) (start count : Nat) :
    (pushVotes cfg s start count).currentForkIndex = s.currentForkIndex := by
  unfold pushVotes
  induction List.range' start count generalizing s with
  | nil => rfl
  | cons height rest ih => rw [List.foldl_cons, ih, pushVersion_currentForkIndex]

theorem readdBlocks_induction {motive : HardFork → Prop}
    (accepted : ∀ s db vote height, motive s → motive (recordVote cfg (s.withDb db) vote height)) :
    ∀ {s : HardFork} (start count : Nat), motive s → motive (readdBlocks cfg s start count) := by
  intro s start count holds
  unfold readdBlocks
  induction List.range' start count generalizing s with
  | nil => exact holds
  | cons height rest ih =>
      rw [List.foldl_cons]
      exact ih (addFromBlock_getD cfg holds (fun vote => accepted _ _ vote height holds))

theorem reorganizeFromBlockHeight_eq_some {s t : HardFork} {height : Nat}
    (reorganized : reorganizeFromBlockHeight cfg s height = some t) :
    (s.db.height ≤ height ∧ t = s) ∨
      (height < s.db.height ∧ ∃ startVersion, startVersionAt cfg s height = some startVersion ∧
        t = reorganizeFrom cfg s height startVersion) := by
  unfold reorganizeFromBlockHeight at reorganized
  split at reorganized
  · exact .inl ⟨‹_›, (Option.some.inj reorganized).symm⟩
  · obtain ⟨startVersion, read, rebuilt⟩ := Option.map_eq_some_iff.mp reorganized
    exact .inr ⟨by omega, startVersion, read, rebuilt.symm⟩

theorem rescanFromBlockHeight_eq_some {s t : HardFork} {height : Nat}
    (rescanned : rescanFromBlockHeight cfg s height = some t) :
    (s.db.height ≤ height ∧ t = s) ∨
      (height < s.db.height ∧ ∃ lastVersion, s.db.getHardForkVersion (s.db.height - 1) = some lastVersion ∧
        t = rescanFrom cfg s height lastVersion) := by
  unfold rescanFromBlockHeight at rescanned
  split at rescanned
  · exact .inl ⟨‹_›, (Option.some.inj rescanned).symm⟩
  · obtain ⟨lastVersion, read, rebuilt⟩ := Option.map_eq_some_iff.mp rescanned
    exact .inr ⟨by omega, lastVersion, read, rebuilt.symm⟩

theorem reorganizeFrom_counted (s : HardFork) (height : Nat) (startVersion : UInt8) :
    Counted (reorganizeFrom cfg s height startVersion) := by
  unfold reorganizeFrom
  apply readdBlocks_induction cfg (motive := Counted)
    (fun _ db vote height counted => recordVote_counted cfg (counted_withDb counted db) vote height)
  apply adoptVotedFork_counted
  apply pushVotes_counted
  exact counted_cleared s.db

theorem rescanFrom_counted (s : HardFork) (height : Nat) (lastVersion : UInt8) :
    Counted (rescanFrom cfg s height lastVersion) := by
  unfold rescanFrom
  apply adoptVotedFork_counted
  exact pushVotes_counted cfg (counted_cleared s.db) _ _

theorem reorganizeFrom_windowBounded (s : HardFork) (height : Nat) (startVersion : UInt8) :
    WindowBounded cfg (reorganizeFrom cfg s height startVersion) := by
  unfold reorganizeFrom
  apply readdBlocks_induction cfg (motive := WindowBounded cfg)
    (fun _ _ vote height _ => recordVote_windowBounded cfg _ vote height)
  rw [WindowBounded, adoptVotedFork_versions, pushVotes_versions, List.length_append, List.length_map,
    List.length_range']
  have positive := windowSize_pos cfg
  simp only [List.length_nil, rescanHeightFor]
  split <;> omega

theorem init_eq_rescan (db : HardForkDb) :
    init cfg db = rescanFromBlockHeight cfg (cleared db) (initRescanHeight cfg db - 1) := by
  unfold init rescanFromChainHeight
  rw [if_neg (by unfold initRescanHeight; split <;> omega)]

theorem init_windowBounded {db : HardForkDb} {s : HardFork} (initialised : init cfg db = some s) :
    WindowBounded cfg s := by
  rw [init_eq_rescan] at initialised
  have positive := windowSize_pos cfg
  rcases rescanFromBlockHeight_eq_some cfg initialised with ⟨_, rfl⟩ | ⟨below, lastVersion, _, rfl⟩
  · exact windowBounded_cleared cfg db
  · rw [WindowBounded, rescanFrom, adoptVotedFork_versions, pushVotes_versions, List.length_append,
      List.length_map, List.length_range']
    simp only [cleared, List.length_nil, initRescanHeight] at below ⊢
    by_cases long : db.height > cfg.windowSize.toNat
    · rw [if_pos long] at below ⊢
      omega
    · rw [if_neg long] at below ⊢
      omega

theorem init_counted {db : HardForkDb} {s : HardFork} (initialised : init cfg db = some s) :
    Counted s := by
  rw [init_eq_rescan] at initialised
  rcases rescanFromBlockHeight_eq_some cfg initialised with ⟨_, rfl⟩ | ⟨_, lastVersion, _, rfl⟩
  · exact counted_cleared db
  · exact rescanFrom_counted cfg _ _ _

theorem popVersionsDown_length_le (db : HardForkDb) :
    ∀ (count height : Nat) (versions popped : List UInt8),
      popVersionsDown db count height versions = some popped → popped.length ≤ max 1 versions.length
  | 0, _, versions, popped, ran => by
      cases ran
      exact le_max_right _ _
  | count + 1, height, versions, popped, ran => by
      simp only [popVersionsDown, Option.bind_eq_bind, Option.bind_eq_some_iff] at ran
      obtain ⟨version, _, rest⟩ := ran
      have shorter := popVersionsDown_length_le db count (height - 1) _ popped rest
      simp only [List.length_cons, List.length_dropLast] at shorter
      omega

theorem onBlockPopped_eq_some {s t : HardFork} {nblocks : Nat}
    (popped : onBlockPopped cfg s nblocks = some t) :
    0 < nblocks ∧ 0 < s.db.height ∧ ∃ versions,
      popVersionsDown s.db nblocks (s.db.height + nblocks - 1) s.versions = some versions ∧
      t = { s with versions
                   currentForkIndex := forkIndexAtHeight cfg (s.db.height - 1) (cfg.heights.length - 1) } := by
  unfold onBlockPopped at popped
  split at popped
  · cases popped
  rename_i nonzero
  simp only [Option.bind_eq_bind, Option.bind_eq_some_iff, Option.some.injEq] at popped
  obtain ⟨versions, read, rfl⟩ := popped
  exact ⟨by omega, by omega, versions, read, rfl⟩

theorem popBlock_windowBounded {s t : HardFork} (bounded : WindowBounded cfg s)
    (popped : popBlock cfg s = some t) : WindowBounded cfg t := by
  unfold popBlock at popped
  split at popped
  · cases popped
  obtain ⟨-, -, versions, read, rfl⟩ := onBlockPopped_eq_some cfg popped
  have shorter := popVersionsDown_length_le _ _ _ _ _ read
  have positive := windowSize_pos cfg
  unfold WindowBounded at bounded ⊢
  exact shorter.trans (max_le positive bounded)

theorem runHardForkOps_induction (motive : HardFork → Prop) (allowed : HardForkOp → Prop)
    (step : ∀ s op t, allowed op → motive s → applyHardForkOp cfg s op = some t → motive t) :
    ∀ (ops : List HardForkOp) {s t : HardFork}, (∀ op ∈ ops, allowed op) → motive s →
      runHardForkOps cfg s ops = some t → motive t := by
  intro ops
  induction ops with
  | nil =>
      intro s t _ holds ran
      cases ran
      exact holds
  | cons op rest ih =>
      intro s t allowedOps holds ran
      simp only [runHardForkOps, List.foldlM_cons, Option.bind_eq_bind, Option.bind_eq_some_iff] at ran
      obtain ⟨next, applied, rest⟩ := ran
      exact ih (fun op member => allowedOps op (List.mem_cons_of_mem _ member))
        (step s op next (allowedOps op List.mem_cons_self) holds applied) rest

theorem applyHardForkOp_counted {s t : HardFork} {op : HardForkOp} (notPopped : op ≠ .popBlock)
    (counted : Counted s) (applied : applyHardForkOp cfg s op = some t) : Counted t := by
  cases op with
  | init => exact init_counted cfg applied
  | addBlock block =>
      cases applied
      exact addFromBlock_getD cfg (motive := Counted) (counted_withDb counted _)
        (fun vote => recordVote_counted cfg (counted_withDb counted _) vote _)
  | popBlock => exact absurd rfl notPopped
  | reorganizeFromBlockHeight height =>
      rcases reorganizeFromBlockHeight_eq_some cfg applied with ⟨_, rfl⟩ | ⟨_, startVersion, _, rfl⟩
      · exact counted
      · exact reorganizeFrom_counted cfg _ _ _
  | rescanFromBlockHeight height =>
      rcases rescanFromBlockHeight_eq_some cfg applied with ⟨_, rfl⟩ | ⟨_, lastVersion, _, rfl⟩
      · exact counted
      · exact rescanFrom_counted cfg _ _ _

theorem applyHardForkOp_windowBounded {s t : HardFork} {op : HardForkOp}
    (notRescanned : ∀ height, op ≠ .rescanFromBlockHeight height)
    (bounded : WindowBounded cfg s) (applied : applyHardForkOp cfg s op = some t) :
    WindowBounded cfg t := by
  cases op with
  | init => exact init_windowBounded cfg applied
  | addBlock block =>
      cases applied
      exact addFromBlock_getD cfg (motive := WindowBounded cfg) bounded
        (fun vote => recordVote_windowBounded cfg _ vote _)
  | popBlock => exact popBlock_windowBounded cfg bounded applied
  | reorganizeFromBlockHeight height =>
      rcases reorganizeFromBlockHeight_eq_some cfg applied with ⟨_, rfl⟩ | ⟨_, startVersion, _, rfl⟩
      · exact bounded
      · exact reorganizeFrom_windowBounded cfg _ _ _
  | rescanFromBlockHeight height => exact absurd rfl (notRescanned height)

theorem runHardForkOps_counted {ops : List HardForkOp} {s t : HardFork}
    (notPopped : ∀ op ∈ ops, op ≠ .popBlock) (counted : Counted s)
    (ran : runHardForkOps cfg s ops = some t) : Counted t :=
  runHardForkOps_induction cfg Counted (· ≠ .popBlock)
    (fun _ _ _ allowed counted applied => applyHardForkOp_counted cfg allowed counted applied)
    ops notPopped counted ran

def mainnetRunWithoutPops : List HardForkOp :=
  [.init, .addBlock ⟨7, 7⟩, .addBlock ⟨7, 8⟩, .reorganizeFromBlockHeight 0, .rescanFromBlockHeight 1,
    .addBlock ⟨7, 8⟩]

theorem mainnetRunWithoutPops_ran :
    (runHardForkOps mainnetConfig (cleared .empty) mainnetRunWithoutPops).isSome := by
  decide

theorem mainnetRunWithoutPops_counted :
    Counted ((runHardForkOps mainnetConfig (cleared .empty) mainnetRunWithoutPops).get
      mainnetRunWithoutPops_ran) :=
  runHardForkOps_counted mainnetConfig (by decide) (counted_cleared _)
    (Option.some_get mainnetRunWithoutPops_ran).symm

theorem runHardForkOps_windowBounded {ops : List HardForkOp} {s t : HardFork}
    (notRescanned : ∀ op ∈ ops, ∀ height, op ≠ .rescanFromBlockHeight height)
    (bounded : WindowBounded cfg s) (ran : runHardForkOps cfg s ops = some t) : WindowBounded cfg t :=
  runHardForkOps_induction cfg (WindowBounded cfg) (fun op => ∀ height, op ≠ .rescanFromBlockHeight height)
    (fun _ _ _ allowed bounded applied => applyHardForkOp_windowBounded cfg allowed bounded applied)
    ops notRescanned bounded ran

def mainnetRunWithoutRescans : List HardForkOp :=
  [.init, .addBlock ⟨7, 7⟩, .addBlock ⟨7, 8⟩, .popBlock, .addBlock ⟨7, 8⟩, .reorganizeFromBlockHeight 1]

theorem mainnetRunWithoutRescans_ran :
    (runHardForkOps mainnetConfig (cleared .empty) mainnetRunWithoutRescans).isSome := by
  decide

theorem mainnetRunWithoutRescans_windowBounded :
    WindowBounded mainnetConfig ((runHardForkOps mainnetConfig (cleared .empty) mainnetRunWithoutRescans).get
      mainnetRunWithoutRescans_ran) :=
  runHardForkOps_windowBounded mainnetConfig
    (by
      intro op member height same
      subst same
      simp [mainnetRunWithoutRescans] at member)
    (windowBounded_cleared _ _) (Option.some_get mainnetRunWithoutRescans_ran).symm


def oneBlockWindow : HardForkConfig :=
  ⟨7, 1, mainnetForkTable, by decide⟩

theorem window_invariant_broken_by_pop_and_rescan :
    (runHardForkOps oneBlockWindow (cleared .empty)
        [.init, .addBlock ⟨7, 7⟩, .addBlock ⟨7, 8⟩, .popBlock]).map
      (fun s => (s.versions, s.lastVersions 7, s.lastVersions 8)) = some ([7], 0, 1) ∧
    (runHardForkOps oneBlockWindow (cleared .empty)
        [.init, .addBlock ⟨7, 7⟩, .addBlock ⟨7, 8⟩, .rescanFromBlockHeight 0]).map
      (fun s => s.versions.length) = some 2 := by
  decide

/-! ### Reorganising replays the chain -/

section Replay

variable (cfg : HardForkConfig)

theorem rewindForkIndex_eq {startVersion : UInt8} {target : Nat}
    (lowTarget : 0 < target → (cfg.fork target).version ≤ startVersion) :
    ∀ {index : Nat}, target ≤ index →
      (∀ above, target < above → above ≤ index → startVersion < (cfg.fork above).version) →
      rewindForkIndex cfg startVersion index = target
  | 0, atTarget, _ => by
      rw [rewindForkIndex]
      omega
  | index + 1, atTarget, higher => by
      rw [rewindForkIndex]
      by_cases reached : target = index + 1
      · subst reached
        rw [if_neg (UInt8.not_lt.mpr (lowTarget (Nat.succ_pos index)))]
      · rw [if_pos (higher (index + 1) (by omega) le_rfl)]
        exact rewindForkIndex_eq lowTarget (by omega)
          (fun above higherUp within => higher above higherUp (by omega))

theorem forkIndexAtHeight_le (height : Nat) : ∀ index, forkIndexAtHeight cfg height index ≤ index
  | 0 => le_rfl
  | index + 1 => by
      rw [forkIndexAtHeight]
      split
      · exact le_rfl
      · exact Nat.le_succ_of_le (forkIndexAtHeight_le height index)

theorem le_forkIndexAtHeight {height target : Nat}
    (reached : target = 0 ∨ (cfg.fork target).height ≤ height) :
    ∀ {index}, target ≤ index → target ≤ forkIndexAtHeight cfg height index
  | 0, _ => by omega
  | index + 1, below => by
      rw [forkIndexAtHeight]
      split
      · exact below
      · rename_i unreached
        by_cases atTop : target = index + 1
        · subst atTop
          rcases reached with zero | low
          · omega
          · exact absurd low unreached
        · exact le_forkIndexAtHeight reached (by omega)

theorem votedForkIndexFrom_cases (lastVersions : UInt8 → UInt32) (currentForkIndex height : Nat) :
    ∀ (index : Nat) (accumulated : UInt32),
      votedForkIndexFrom cfg lastVersions currentForkIndex height index accumulated = currentForkIndex ∨
        (votedForkIndexFrom cfg lastVersions currentForkIndex height index accumulated ≤ index ∧
          (cfg.fork (votedForkIndexFrom cfg lastVersions currentForkIndex height index accumulated)).height ≤
            height)
  | 0, _ => .inl rfl
  | index + 1, accumulated => by
      rw [votedForkIndexFrom]
      split
      · dsimp only
        split
        · exact .inr ⟨le_rfl, ‹_ ∧ _›.1⟩
        · rcases votedForkIndexFrom_cases lastVersions currentForkIndex height index _ with same | lower
          · exact .inl same
          · exact .inr ⟨Nat.le_succ_of_le lower.1, lower.2⟩
      · exact .inl rfl

theorem adoptVotedFork_cases (s : HardFork) (height : Nat) :
    s.currentForkIndex ≤ (adoptVotedFork cfg s height).currentForkIndex ∧
      ((adoptVotedFork cfg s height).currentForkIndex = s.currentForkIndex ∨
        ((adoptVotedFork cfg s height).currentForkIndex < cfg.heights.length ∧
          (cfg.fork (adoptVotedFork cfg s height).currentForkIndex).height ≤ height)) := by
  have positive := cfg.length_heights_pos
  unfold adoptVotedFork
  split
  · rename_i raised
    refine ⟨Nat.le_of_lt raised, ?_⟩
    rcases votedForkIndexFrom_cases cfg s.lastVersions s.currentForkIndex height _ 0 with same | lower
    · exact .inl same
    · have bounded : getVotedForkIndex cfg s height ≤ cfg.heights.length - 1 := lower.1
      exact .inr ⟨by dsimp only; omega, lower.2⟩
  · exact ⟨le_rfl, .inl rfl⟩

theorem add_withDb (s : HardFork) (db : HardForkDb) (blockVersion votingVersion : UInt8) (height : Nat) :
    add cfg (s.withDb db) blockVersion votingVersion height =
      (add cfg s blockVersion votingVersion height).map
        (fun t => t.withDb (db.setHardForkVersion height (getCurrentVersion cfg s))) := by
  unfold add
  by_cases checked : doCheck cfg s blockVersion votingVersion = true
  · have checkedWithDb : doCheck cfg (s.withDb db) blockVersion votingVersion = true := checked
    rw [if_pos checked, if_pos checkedWithDb, Option.map_some]
    simp only [recordVote_withDb, withDb_withDb, withDb_db]
    rfl
  · have checkedWithDb : ¬doCheck cfg (s.withDb db) blockVersion votingVersion = true := checked
    rw [if_neg checked, if_neg checkedWithDb, Option.map_none]

theorem acceptBlock_eq_some {s t : HardFork} {block : BlockVersion}
    (accepted : acceptBlock cfg s block = some t) :
    t = recordVote cfg (s.withDb ((s.db.addBlock block).setHardForkVersion s.db.height (getCurrentVersion cfg s)))
      (getBlockVote block) s.db.height :=
  (add_eq_some cfg accepted).2

@[simp] theorem setHardForkVersion_blocks (db : HardForkDb) (height : Nat) (version : UInt8) :
    (db.setHardForkVersion height version).blocks = db.blocks := rfl

theorem setHardForkVersion_of_stored {db : HardForkDb} {height : Nat} {version : UInt8}
    (stored : db.hfVersions height = some version) : db.setHardForkVersion height version = db := by
  unfold HardForkDb.setHardForkVersion
  rw [Function.update_eq_self_iff.mpr stored.symm]

theorem acceptBlock_db {s t : HardFork} {block : BlockVersion} (accepted : acceptBlock cfg s block = some t) :
    t.db.blocks = s.db.blocks ++ [block] ∧
      t.db.hfVersions = Function.update s.db.hfVersions s.db.height (some (getCurrentVersion cfg s)) := by
  rw [acceptBlock_eq_some cfg accepted, recordVote_db]
  exact ⟨rfl, rfl⟩

theorem addBlocks_cons (s : HardFork) (block : BlockVersion) (blocks : List BlockVersion) :
    addBlocks cfg s (block :: blocks) = (acceptBlock cfg s block).bind (addBlocks cfg · blocks) := by
  simp only [addBlocks, List.foldlM_cons, Option.bind_eq_bind]

theorem addBlocks_append (s : HardFork) (front back : List BlockVersion) :
    addBlocks cfg s (front ++ back) = (addBlocks cfg s front).bind (addBlocks cfg · back) := by
  simp only [addBlocks, List.foldlM_append, Option.bind_eq_bind]

theorem addBlocks_extends :
    ∀ (blocks : List BlockVersion) {s t : HardFork}, addBlocks cfg s blocks = some t →
      t.db.blocks = s.db.blocks ++ blocks ∧
        (∀ height < s.db.height, t.db.hfVersions height = s.db.hfVersions height) ∧
        s.currentForkIndex ≤ t.currentForkIndex
  | [], s, t, ran => by
      cases ran
      exact ⟨(List.append_nil _).symm, fun _ _ => rfl, le_rfl⟩
  | block :: rest, s, t, ran => by
      rw [addBlocks_cons, Option.bind_eq_some_iff] at ran
      obtain ⟨next, accepted, ran⟩ := ran
      obtain ⟨blocks, stored, raised⟩ := addBlocks_extends rest ran
      obtain ⟨nextBlocks, nextStored⟩ := acceptBlock_db cfg accepted
      have higher : s.db.height < next.db.height := by
        simp [HardForkDb.height, nextBlocks]
      refine ⟨by rw [blocks, nextBlocks, List.append_assoc, List.singleton_append], ?_, ?_⟩
      · intro height below
        rw [stored height (Nat.lt_trans below higher), nextStored,
          Function.update_of_ne (Nat.ne_of_lt below)]
      · have slid := (adoptVotedFork_cases cfg
          (slideWindow cfg (s.withDb ((s.db.addBlock block).setHardForkVersion s.db.height
            (getCurrentVersion cfg s))) (getBlockVote block)) (s.db.height + 1)).1
        rw [acceptBlock_eq_some cfg accepted] at raised
        exact Nat.le_trans slid raised

/-- What every state of a run of `add` from an empty database keeps: the
window holds the votes of the last `window_size` blocks and the histogram
counts them, the fork index is inside the table and its height is reached,
and a version is stored for every height below the top. -/
structure Replayed (s : HardFork) : Prop where
  window : s.versions = SlidingWindow.keepLast cfg.windowSize.toNat (s.db.blocks.map cfg.effectiveVote)
  counted : Counted s
  inTable : s.currentForkIndex < cfg.heights.length
  reached : s.currentForkIndex = 0 ∨ (cfg.fork s.currentForkIndex).height ≤ s.db.height
  stored : ∀ height < s.db.height, (s.db.hfVersions height).isSome

theorem replayed_cleared_empty : Replayed cfg (cleared .empty) where
  window := by simp [cleared, HardForkDb.empty, SlidingWindow.keepLast]
  counted := counted_cleared _
  inTable := cfg.length_heights_pos
  reached := .inl rfl
  stored := fun _ below => absurd below (Nat.not_lt_zero _)

theorem acceptBlock_replayed {s t : HardFork} {block : BlockVersion} (replayed : Replayed cfg s)
    (accepted : acceptBlock cfg s block = some t) : Replayed cfg t := by
  have shape := acceptBlock_eq_some cfg accepted
  obtain ⟨blocks, stored⟩ := acceptBlock_db cfg accepted
  have grown : t.db.height = s.db.height + 1 := by
    simp [HardForkDb.height, blocks]
  have cases := adoptVotedFork_cases cfg
    (slideWindow cfg (s.withDb ((s.db.addBlock block).setHardForkVersion s.db.height
      (getCurrentVersion cfg s))) (getBlockVote block)) (s.db.height + 1)
  rw [← recordVote, ← shape, slideWindow_currentForkIndex, withDb_currentForkIndex] at cases
  constructor
  · rw [blocks, shape, recordVote_versions, withDb_versions, replayed.window, List.map_append,
      List.map_singleton, SlidingWindow.keepLast_append_singleton (windowSize_pos cfg),
      SlidingWindow.keepLast_append_singleton (windowSize_pos cfg),
      SlidingWindow.keepLast_keepLast (Nat.sub_le _ 1)]
    rfl
  · rw [shape]
    exact recordVote_counted cfg (counted_withDb replayed.counted _) _ _
  · rcases cases.2 with same | ⟨inTable, _⟩
    · rw [same]
      exact replayed.inTable
    · exact inTable
  · rw [grown]
    rcases cases.2 with same | ⟨_, reached⟩
    · rw [same]
      rcases replayed.reached with zero | low
      · exact .inl zero
      · exact .inr (Nat.le_succ_of_le low)
    · exact .inr reached
  · intro height below
    rw [stored]
    by_cases top : height = s.db.height
    · rw [top, Function.update_self]
      rfl
    · rw [Function.update_of_ne top]
      exact replayed.stored height (by omega)

theorem addBlocks_replayed :
    ∀ (blocks : List BlockVersion) {s t : HardFork}, Replayed cfg s → addBlocks cfg s blocks = some t →
      Replayed cfg t
  | [], _, _, replayed, ran => by
      cases ran
      exact replayed
  | block :: rest, s, t, replayed, ran => by
      rw [addBlocks_cons, Option.bind_eq_some_iff] at ran
      obtain ⟨next, accepted, ran⟩ := ran
      exact addBlocks_replayed rest (acceptBlock_replayed cfg replayed accepted) ran

theorem readdBlocks_succ (s : HardFork) (start count : Nat) :
    readdBlocks cfg s start (count + 1) =
      readdBlocks cfg ((addFromBlock cfg s (s.db.getBlockFromHeight start) start).getD s) (start + 1) count :=
  rfl

theorem addFromBlock_withDb_of_accepted {s next : HardFork} {block : BlockVersion} (db : HardForkDb)
    (accepted : acceptBlock cfg s block = some next)
    (storedHere : db.hfVersions s.db.height = some (getCurrentVersion cfg s)) :
    addFromBlock cfg (s.withDb db) block s.db.height = some (next.withDb db) := by
  unfold acceptBlock addFromBlock at accepted
  unfold addFromBlock
  rw [add_withDb] at accepted ⊢
  obtain ⟨added, read, rfl⟩ := Option.map_eq_some_iff.mp accepted
  rw [read, Option.map_some, setHardForkVersion_of_stored storedHere, withDb_withDb]

theorem readdBlocks_replays :
    ∀ (blocks : List BlockVersion) {s t : HardFork} (db : HardForkDb), addBlocks cfg s blocks = some t →
      db.blocks = t.db.blocks →
      (∀ height, s.db.height ≤ height → height < t.db.height →
        db.hfVersions height = t.db.hfVersions height) →
      readdBlocks cfg (s.withDb db) s.db.height blocks.length = t.withDb db
  | [], s, t, db, ran, _, _ => by
      cases ran
      rfl
  | block :: rest, s, t, db, ran, sameBlocks, sameStored => by
      rw [addBlocks_cons, Option.bind_eq_some_iff] at ran
      obtain ⟨next, accepted, ran⟩ := ran
      obtain ⟨restBlocks, restStored, -⟩ := addBlocks_extends cfg rest ran
      obtain ⟨nextBlocks, nextStored⟩ := acceptBlock_db cfg accepted
      have nextHeight : next.db.height = s.db.height + 1 := by
        simp [HardForkDb.height, nextBlocks]
      have topHeight : t.db.height = s.db.height + 1 + rest.length := by
        simp only [HardForkDb.height, restBlocks, nextBlocks, List.length_append, List.length_singleton]
      have readBlock : db.getBlockFromHeight s.db.height = block := by
        simp [HardForkDb.getBlockFromHeight, HardForkDb.height, sameBlocks, restBlocks, nextBlocks]
      have storedHere : db.hfVersions s.db.height = some (getCurrentVersion cfg s) := by
        rw [sameStored _ le_rfl (by omega), restStored _ (by omega), nextStored, Function.update_self]
      rw [List.length_cons, readdBlocks_succ, withDb_db, readBlock,
        addFromBlock_withDb_of_accepted cfg db accepted storedHere, Option.getD_some, ← nextHeight]
      exact readdBlocks_replays rest db ran sameBlocks
        (fun height low high => sameStored height (by omega) high)

theorem rewindForkIndex_of_run
    (originalBelow : ∀ second, cfg.heights[1]? = some second → cfg.originalVersion < second.version)
    {before after x : HardFork} {block : BlockVersion} (replayed : Replayed cfg before)
    (accepted : acceptBlock cfg before block = some after)
    (storedAtHeight : 0 < before.db.height → x.db.hfVersions before.db.height = after.db.hfVersions before.db.height)
    (above : before.currentForkIndex ≤ x.currentForkIndex) (inTable : x.currentForkIndex < cfg.heights.length) :
    ∃ startVersion, startVersionAt cfg x before.db.height = some startVersion ∧
      rewindForkIndex cfg startVersion x.currentForkIndex = before.currentForkIndex := by
  by_cases genesis : before.db.height = 0
  · have atFirst : before.currentForkIndex = 0 := by
      rcases replayed.reached with zero | low
      · exact zero
      · exact cfg.eq_zero_of_fork_height_zero replayed.inTable (genesis ▸ low)
    refine ⟨cfg.originalVersion, by rw [startVersionAt, if_pos genesis], ?_⟩
    rw [atFirst]
    apply rewindForkIndex_eq cfg (fun positive => absurd positive (Nat.lt_irrefl 0)) (Nat.zero_le _)
    intro later positive within
    have secondInTable : 1 < cfg.heights.length := by omega
    have belowSecond := originalBelow (cfg.fork 1)
      (by rw [cfg.fork_eq_getElem secondInTable]; exact List.getElem?_eq_getElem secondInTable)
    rcases Nat.lt_or_ge 1 later with higher | atSecond
    · exact UInt8.lt_trans belowSecond (cfg.fork_precedes higher (by omega)).1
    · rwa [show later = 1 by omega]
  · have stored : x.db.hfVersions before.db.height = some (getCurrentVersion cfg before) := by
      rw [storedAtHeight (Nat.pos_of_ne_zero genesis), (acceptBlock_db cfg accepted).2, Function.update_self]
    refine ⟨getCurrentVersion cfg before, by rw [startVersionAt, if_neg genesis]; exact stored, ?_⟩
    apply rewindForkIndex_eq cfg (fun _ => UInt8.le_refl _) above
    intro later higher within
    exact (cfg.fork_precedes higher (by omega)).1

theorem pushVotes_rebuilt_versions {db : HardForkDb} {height : Nat} {chain : List BlockVersion}
    (prefixHeld : db.blocks.take (height + 1) = chain) (lengthChain : chain.length = height + 1)
    (index : Nat) :
    (pushVotes cfg ⟨db, [], fun _ => 0, index⟩ (rescanHeightFor cfg height)
        (height + 1 - rescanHeightFor cfg height)).versions =
      SlidingWindow.keepLast cfg.windowSize.toNat (chain.map cfg.effectiveVote) := by
  have positive := windowSize_pos cfg
  have within : height + 1 ≤ db.blocks.length := by
    have := congrArg List.length prefixHeld
    rw [List.length_take, lengthChain] at this
    omega
  have reads : ∀ block, cfg.effectiveVote (db.getBlockFromHeight block) =
      (db.blocks[block]?.map cfg.effectiveVote).getD (cfg.effectiveVote ⟨0, 0⟩) := by
    intro block
    rw [HardForkDb.getBlockFromHeight, List.getD_eq_getElem?_getD, Option.getD_map]
  rw [pushVotes_versions, List.nil_append]
  simp only [reads]
  rw [SlidingWindow.map_range'_getElem? _ _ within, prefixHeld, SlidingWindow.keepLast, List.map_drop,
    List.length_map, lengthChain]
  congr 1
  unfold rescanHeightFor
  split <;> omega

theorem reorganizeFromBlockHeight_of_run
    (originalBelow : ∀ second, cfg.heights[1]? = some second → cfg.originalVersion < second.version)
    {before after target x : HardFork} {block : BlockVersion} {rest : List BlockVersion}
    (replayed : Replayed cfg before) (accepted : acceptBlock cfg before block = some after)
    (ran : addBlocks cfg after rest = some target) (sameBlocks : x.db.blocks = target.db.blocks)
    (sameStored : ∀ height < target.db.height, x.db.hfVersions height = target.db.hfVersions height)
    (above : before.currentForkIndex ≤ x.currentForkIndex)
    (inTable : x.currentForkIndex < cfg.heights.length) :
    reorganizeFromBlockHeight cfg x before.db.height = some (target.withDb x.db) := by
  have afterReplayed := acceptBlock_replayed cfg replayed accepted
  obtain ⟨restBlocks, restStored, -⟩ := addBlocks_extends cfg rest ran
  obtain ⟨afterBlocks, -⟩ := acceptBlock_db cfg accepted
  have afterHeight : after.db.height = before.db.height + 1 := by
    simp [HardForkDb.height, afterBlocks]
  have targetHeight : target.db.height = before.db.height + 1 + rest.length := by
    simp only [HardForkDb.height, restBlocks, afterBlocks, List.length_append, List.length_singleton]
  have xHeight : x.db.height = target.db.height := congrArg List.length sameBlocks
  have prefixHeld : x.db.blocks.take (before.db.height + 1) = after.db.blocks := by
    rw [sameBlocks, restBlocks, List.take_left' afterHeight]
  obtain ⟨startVersion, read, rewound⟩ := rewindForkIndex_of_run cfg originalBelow replayed accepted
    (fun _ => by rw [sameStored _ (by omega), restStored _ (by omega)]) above inTable
  rw [reorganizeFromBlockHeight, if_neg (by omega), read, Option.map_some]
  congr 1
  have slid := acceptBlock_eq_some cfg accepted
  rw [recordVote] at slid
  have rebuilt : pushVotes cfg ⟨x.db, [], fun _ => 0, rewindForkIndex cfg startVersion x.currentForkIndex⟩
      (rescanHeightFor cfg before.db.height) (before.db.height + 1 - rescanHeightFor cfg before.db.height) =
      (slideWindow cfg (before.withDb ((before.db.addBlock block).setHardForkVersion before.db.height
        (getCurrentVersion cfg before))) (getBlockVote block)).withDb x.db := by
    have versions : (pushVotes cfg ⟨x.db, [], fun _ => 0, rewindForkIndex cfg startVersion x.currentForkIndex⟩
        (rescanHeightFor cfg before.db.height)
        (before.db.height + 1 - rescanHeightFor cfg before.db.height)).versions = after.versions := by
      rw [afterReplayed.window, pushVotes_rebuilt_versions cfg prefixHeld afterHeight]
    have counted := pushVotes_counted cfg (s := ⟨x.db, [], fun _ => 0,
      rewindForkIndex cfg startVersion x.currentForkIndex⟩) rfl
      (rescanHeightFor cfg before.db.height) (before.db.height + 1 - rescanHeightFor cfg before.db.height)
    have afterCounted := afterReplayed.counted
    rw [slid] at versions afterCounted
    simp only [Counted, adoptVotedFork_versions, adoptVotedFork_lastVersions] at versions afterCounted counted
    ext
    · rw [pushVotes_db, withDb_db]
    · rw [versions, withDb_versions]
    · rw [counted, versions, withDb_lastVersions, afterCounted]
    · rw [pushVotes_currentForkIndex, rewound, withDb_currentForkIndex, slideWindow_currentForkIndex,
        withDb_currentForkIndex]
  rw [reorganizeFrom, rebuilt, adoptVotedFork_withDb, ← slid, ← afterHeight,
    show x.db.height - after.db.height = rest.length by omega]
  exact readdBlocks_replays cfg rest x.db ran sameBlocks
    (fun height _ high => sameStored height high)

theorem init_empty : init cfg .empty = some (cleared .empty) := by
  rw [init_eq_rescan, rescanFromBlockHeight, if_pos]
  exact Nat.zero_le _

theorem popBlock_eq_some {s : HardFork} (tall : 2 ≤ s.db.height)
    (stored : (s.db.hfVersions (s.db.height - 1)).isSome) :
    ∃ t, popBlock cfg s = some t ∧ t.db = s.db.popBlock ∧
      t.currentForkIndex = forkIndexAtHeight cfg (s.db.height - 2) (cfg.heights.length - 1) := by
  obtain ⟨version, read⟩ := Option.isSome_iff_exists.mp stored
  have shorter : s.db.popBlock.height = s.db.height - 1 := by
    simp [HardForkDb.popBlock, HardForkDb.height]
  have notEmpty : s.db.blocks ≠ [] := by
    intro empty
    simp [HardForkDb.height, empty] at tall
  refine ⟨{ s.withDb s.db.popBlock with
      versions := version :: s.versions.dropLast
      currentForkIndex := forkIndexAtHeight cfg (s.db.height - 2) (cfg.heights.length - 1) }, ?_, rfl, rfl⟩
  rw [popBlock, if_neg notEmpty, onBlockPopped, if_neg (by rw [withDb_db, shorter]; omega)]
  simp only [withDb_db, shorter, popVersionsDown, HardForkDb.getHardForkVersion, Option.bind_eq_bind]
  rw [show s.db.height - 1 + 1 - 1 = s.db.height - 1 by omega,
    show s.db.popBlock.hfVersions = s.db.hfVersions from rfl, read, Option.bind_some,
    show s.db.height - 1 - 1 = s.db.height - 2 by omega]
  rfl

theorem popBlocks_eq_some :
    ∀ (popped : Nat) {s : HardFork}, popped < s.db.height →
      (∀ height < s.db.height, (s.db.hfVersions height).isSome) →
      ∃ t, popBlocks cfg s popped = some t ∧ t.db.blocks = s.db.blocks.take (s.db.height - popped) ∧
        t.db.hfVersions = s.db.hfVersions ∧ (popped = 0 → t = s) ∧
        (0 < popped → t.currentForkIndex =
          forkIndexAtHeight cfg (s.db.height - popped - 1) (cfg.heights.length - 1))
  | 0, s, _, _ => ⟨s, rfl, by simp [HardForkDb.height], rfl, fun _ => rfl, fun positive => absurd positive (Nat.lt_irrefl 0)⟩
  | popped + 1, s, below, stored => by
      obtain ⟨next, poppedOnce, nextDb, nextIndex⟩ := popBlock_eq_some cfg (by omega) (stored _ (by omega))
      have nextHeight : next.db.height = s.db.height - 1 := by
        simp [nextDb, HardForkDb.popBlock, HardForkDb.height]
      obtain ⟨t, rest, blocks, hfVersions, atOnce, index⟩ := popBlocks_eq_some popped (s := next) (by omega)
        (fun height low => by
          rw [nextDb]
          exact stored height (by omega))
      refine ⟨t, by rw [popBlocks, poppedOnce, Option.bind_some, rest], ?_, ?_, fun impossible => ?_, fun _ => ?_⟩
      · rw [blocks, nextHeight, nextDb, HardForkDb.popBlock, List.dropLast_eq_take, List.take_take]
        congr 1
        simp only [HardForkDb.height]
        omega
      · rw [hfVersions, nextDb]
        rfl
      · omega
      · by_cases once : popped = 0
        · rw [atOnce once, nextIndex, once]
          congr 1
        · rw [index (Nat.pos_of_ne_zero once), nextHeight]
          congr 1
          omega

theorem get_withDb {s : HardFork} {db : HardForkDb} (sameHeight : db.height = s.db.height)
    (sameStored : ∀ height < s.db.height, db.hfVersions height = s.db.hfVersions height) (height : Nat) :
    get cfg (s.withDb db) height = get cfg s height := by
  unfold get
  rw [withDb_db, sameHeight]
  split
  · rfl
  · split
    · rfl
    · exact sameStored height (by omega)

theorem addBlocks_split {s t : HardFork} {front back : List BlockVersion} {block : BlockVersion}
    (ran : addBlocks cfg s (front ++ block :: back) = some t) :
    ∃ before after, addBlocks cfg s front = some before ∧ acceptBlock cfg before block = some after ∧
      addBlocks cfg after back = some t := by
  rw [addBlocks_append, Option.bind_eq_some_iff] at ran
  obtain ⟨before, frontRun, ran⟩ := ran
  rw [addBlocks_cons, Option.bind_eq_some_iff] at ran
  obtain ⟨after, accepted, backRun⟩ := ran
  exact ⟨before, after, frontRun, accepted, backRun⟩

theorem reorganizeFromBlockHeight_after_pops
    (originalBelow : ∀ second, cfg.heights[1]? = some second → cfg.originalVersion < second.version)
    {blocks : List BlockVersion} {final : HardFork}
    (ran : addBlocks cfg (cleared .empty) blocks = some final) {height popped : Nat}
    (below : height + popped < blocks.length) :
    ∃ shorter poppedState, addBlocks cfg (cleared .empty) (blocks.take (blocks.length - popped)) = some shorter ∧
      popBlocks cfg final popped = some poppedState ∧
      reorganizeFromBlockHeight cfg poppedState height = some (shorter.withDb poppedState.db) ∧
      poppedState.db.height = shorter.db.height ∧
      (∀ h < shorter.db.height, poppedState.db.hfVersions h = shorter.db.hfVersions h) ∧
      (popped = 0 → poppedState = final) := by
  have finalReplayed := addBlocks_replayed cfg blocks (replayed_cleared_empty cfg) ran
  obtain ⟨finalBlocks, -, -⟩ := addBlocks_extends cfg blocks ran
  have finalHeight : final.db.height = blocks.length := by
    simp [HardForkDb.height, finalBlocks, cleared, HardForkDb.empty]
  rw [← List.take_append_drop (blocks.length - popped) blocks, addBlocks_append,
    Option.bind_eq_some_iff] at ran
  obtain ⟨shorter, shorterRun, topRun⟩ := ran
  obtain ⟨shorterBlocks, -, -⟩ := addBlocks_extends cfg _ shorterRun
  obtain ⟨-, topStored, topRaised⟩ := addBlocks_extends cfg _ topRun
  have shorterHeight : shorter.db.height = blocks.length - popped := by
    simp [HardForkDb.height, shorterBlocks, cleared, HardForkDb.empty]
  have splitAt := shorterRun
  rw [← List.take_append_drop height (blocks.take (blocks.length - popped)),
    List.drop_eq_getElem_cons (by simp; omega)] at splitAt
  obtain ⟨before, after, beforeRun, accepted, backRun⟩ := addBlocks_split cfg splitAt
  have beforeReplayed := addBlocks_replayed cfg _ (replayed_cleared_empty cfg) beforeRun
  obtain ⟨beforeBlocks, -, -⟩ := addBlocks_extends cfg _ beforeRun
  have beforeHeight : before.db.height = height := by
    simp [HardForkDb.height, beforeBlocks, cleared, HardForkDb.empty]
    omega
  have beforeRaised : before.currentForkIndex ≤ shorter.currentForkIndex :=
    (addBlocks_extends cfg (_ :: _) (by rw [addBlocks_cons, accepted, Option.bind_some]; exact backRun)).2.2
  obtain ⟨poppedState, pops, poppedBlocks, poppedStored, atNone, poppedIndex⟩ :=
    popBlocks_eq_some cfg popped (s := final) (by omega) finalReplayed.stored
  have sameBlocks : poppedState.db.blocks = shorter.db.blocks := by
    rw [poppedBlocks, shorterBlocks, finalBlocks, finalHeight]
    rfl
  have sameStored : ∀ h < shorter.db.height, poppedState.db.hfVersions h = shorter.db.hfVersions h := by
    intro h low
    rw [poppedStored, topStored h low]
  have positive := cfg.length_heights_pos
  have above : before.currentForkIndex ≤ poppedState.currentForkIndex ∧
      poppedState.currentForkIndex < cfg.heights.length := by
    by_cases none : popped = 0
    · rw [atNone none]
      exact ⟨Nat.le_trans beforeRaised topRaised, finalReplayed.inTable⟩
    · rw [poppedIndex (Nat.pos_of_ne_zero none)]
      refine ⟨le_forkIndexAtHeight cfg ?_ (by have := beforeReplayed.inTable; omega), ?_⟩
      · rcases beforeReplayed.reached with zero | low
        · exact .inl zero
        · exact .inr (by omega)
      · have := forkIndexAtHeight_le cfg (final.db.height - popped - 1) (cfg.heights.length - 1)
        omega
  refine ⟨shorter, poppedState, shorterRun, pops, ?_, congrArg List.length sameBlocks, sameStored, atNone⟩
  rw [← beforeHeight]
  exact reorganizeFromBlockHeight_of_run cfg originalBelow beforeReplayed accepted backRun sameBlocks
    sameStored above.1 above.2

end Replay

theorem reorganizeFromBlockHeight_replays_run (cfg : HardForkConfig)
    (originalBelow : ∀ second, cfg.heights[1]? = some second → cfg.originalVersion < second.version)
    {blocks : List BlockVersion} {final : HardFork}
    (ran : (init cfg HardForkDb.empty).bind (addBlocks cfg · blocks) = some final)
    {height : Nat} (below : height < blocks.length) :
    reorganizeFromBlockHeight cfg final height = some final ∧
      ∀ popped, height + popped < blocks.length →
        ∃ shorter poppedState reorganized,
          (init cfg HardForkDb.empty).bind (addBlocks cfg · (blocks.take (blocks.length - popped))) =
            some shorter ∧
          popBlocks cfg final popped = some poppedState ∧
          reorganizeFromBlockHeight cfg poppedState height = some reorganized ∧
          reorganized.versions = shorter.versions ∧ reorganized.lastVersions = shorter.lastVersions ∧
          reorganized.currentForkIndex = shorter.currentForkIndex ∧
          ∀ h, get cfg reorganized h = get cfg shorter h := by
  rw [init_empty, Option.bind_some] at ran
  constructor
  · obtain ⟨shorter, poppedState, shorterRun, _, reorganized, -, -, atNone⟩ :=
      reorganizeFromBlockHeight_after_pops cfg originalBelow ran (show height + 0 < blocks.length by omega)
    obtain rfl := atNone rfl
    rw [Nat.sub_zero, List.take_length, ran, Option.some.injEq] at shorterRun
    subst shorterRun
    rw [reorganized, withDb_self]
  · intro popped within
    obtain ⟨shorter, poppedState, shorterRun, pops, reorganized, sameHeight, sameStored, -⟩ :=
      reorganizeFromBlockHeight_after_pops cfg originalBelow ran within
    refine ⟨shorter, poppedState, shorter.withDb poppedState.db,
      by rw [init_empty, Option.bind_some]; exact shorterRun, pops, reorganized, rfl, rfl, rfl, ?_⟩
    exact get_withDb cfg sameHeight sameStored

theorem mainnetConfig_originalBelow :
    ∀ second, mainnetConfig.heights[1]? = some second → mainnetConfig.originalVersion < second.version := by
  intro second found
  have secondFork : mainnetConfig.heights[1]? = some ⟨8, 50, 0, 1744824295⟩ := by decide
  rw [secondFork, Option.some.injEq] at found
  subst found
  decide

def mainnetVotingChain : List BlockVersion := [⟨7, 7⟩, ⟨7, 8⟩, ⟨7, 8⟩]

theorem mainnetVotingChain_added :
    ((init mainnetConfig .empty).bind (addBlocks mainnetConfig · mainnetVotingChain)).isSome := by
  decide

theorem reorganize_replays_mainnet_voting_chain :
    reorganizeFromBlockHeight mainnetConfig
        (((init mainnetConfig .empty).bind (addBlocks mainnetConfig · mainnetVotingChain)).get
          mainnetVotingChain_added) 1 =
      some (((init mainnetConfig .empty).bind (addBlocks mainnetConfig · mainnetVotingChain)).get
        mainnetVotingChain_added) :=
  (reorganizeFromBlockHeight_replays_run mainnetConfig mainnetConfig_originalBelow
    (Option.some_get mainnetVotingChain_added).symm (by decide)).1

def lateOriginalConfig : HardForkConfig :=
  ⟨2, 1, ⟨[⟨1, 0, 100, 1⟩, ⟨2, 1, 100, 2⟩], by decide, by decide, by decide⟩, by decide⟩

/-- Reorganising from the genesis block rewinds to `original_version`, which
here is the second fork's: the window is rebuilt at the wrong fork and the
re-added block fails `do_check`. -/
theorem reorganize_from_genesis_keeps_late_fork :
    ((init lateOriginalConfig .empty).bind (addBlocks lateOriginalConfig · [⟨1, 1⟩, ⟨1, 2⟩])).map
        (·.versions) = some [2] ∧
      (((init lateOriginalConfig .empty).bind (addBlocks lateOriginalConfig · [⟨1, 1⟩, ⟨1, 2⟩])).bind
        (reorganizeFromBlockHeight lateOriginalConfig · 0)).map (·.versions) = some [1] := by
  decide

end HardFork

end Antd.Cryptonote
