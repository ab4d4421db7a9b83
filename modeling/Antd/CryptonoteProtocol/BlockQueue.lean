import Antd.Lib.MultiIndex
import Antd.Common.Pruning

/-! `cryptonote::block_queue` (`src/cryptonote_protocol/block_queue.cpp`): the
spans of blocks a node has asked its peers for or has received, with the set
of hashes it has requested and the set of hashes it has blocks of. The spans
are a `std::set` ordered by start height only, kept here as the list of its
elements in that order; hashes, connection ids and block entries are type
parameters, and the rate, size and time of a span, which no operation here
reads, are left out.

Two things break the bookkeeping one expects of the queue. A reservation
checks only the first of its hashes against the requested ones, so two spans
can hold one hash; erasing either then forgets that hash for both. And a span
inserted at a start height another span holds is dropped by the set, so a
reservation there returns its span and leaves the queue as it was. -/

namespace Antd.Cryptonote

open Antd.Tools

structure Span (Hash Conn Entry : Type) where
  startBlockHeight : Nat
  hashes : List Hash
  blocks : List Entry
  connectionId : Conn
  nblocks : Nat
  deriving DecidableEq

/-- The state of a `block_queue`. -/
structure BlockQueue (Hash Conn Entry : Type) where
  blocks : List (Span Hash Conn Entry)
  requestedHashes : Finset Hash
  haveBlocks : Finset Hash

def BlockQueue.init {Hash Conn Entry : Type} : BlockQueue Hash Conn Entry := ⟨[], ∅, ∅⟩

/-- The operations of the queue that change it. -/
inductive BlockQueueOp (Hash Conn Entry : Type) where
  | addBlocksFilled (height : Nat) (bcel : List Entry) (connectionId : Conn)
  | addBlocksScheduled (height nblocks : Nat) (connectionId : Conn)
  | flushSpans (connectionId : Conn) (all : Bool)
  | flushStaleSpans (liveConnections : List Conn)
  | removeSpan (startBlockHeight : Nat)
  | removeSpans (connectionId : Conn) (startBlockHeight : Nat)
  | reserveSpan (firstBlockHeight lastBlockHeight maxBlocks : Nat) (connectionId : Conn)
      (pruningSeed blockchainHeight : Nat) (blockHashes : List Hash)
  | setSpanHashes (startHeight : Nat) (connectionId : Conn) (hashes : List Hash)

section Operations

variable {Hash Conn Entry : Type} [DecidableEq Hash] [DecidableEq Conn]

/-- `block_map::insert`: nothing where a span of the same start height is
already in the set. -/
def insertSpan (s : Span Hash Conn Entry) (blocks : List (Span Hash Conn Entry)) :
    List (Span Hash Conn Entry) :=
  match MultiIndex.find? Span.startBlockHeight s.startBlockHeight blocks with
  | none => MultiIndex.insert Span.startBlockHeight s blocks
  | some _ => blocks

def eraseBlock (q : BlockQueue Hash Conn Entry) (j : Span Hash Conn Entry) : BlockQueue Hash Conn Entry :=
  { blocks := MultiIndex.erase Span.startBlockHeight j.startBlockHeight q.blocks
    requestedHashes := q.requestedHashes \ j.hashes.toFinset
    haveBlocks := q.haveBlocks \ j.hashes.toFinset }

/-- The loops that erase, one after the other, the spans of the set that
satisfy a condition. -/
def eraseBlocksWhere (erased : Span Hash Conn Entry → Bool) (q : BlockQueue Hash Conn Entry) :
    BlockQueue Hash Conn Entry :=
  q.blocks.foldl (fun q j => if erased j then eraseBlock q j else q) q

/-- `set_span_hashes`: the span of the start height and connection is erased,
given the hashes and inserted again. -/
def setSpanHashes (q : BlockQueue Hash Conn Entry) (startHeight : Nat) (connectionId : Conn)
    (hashes : List Hash) : BlockQueue Hash Conn Entry :=
  match q.blocks.find? (fun i => i.startBlockHeight = startHeight ∧ i.connectionId = connectionId) with
  | none => q
  | some s =>
      let q := eraseBlock q s
      let s := { s with hashes := hashes }
      let q := { q with requestedHashes := q.requestedHashes ∪ hashes.toFinset }
      { q with blocks := insertSpan s q.blocks }

def removeSpan (q : BlockQueue Hash Conn Entry) (startBlockHeight : Nat) :
    Option (List Hash) × BlockQueue Hash Conn Entry :=
  match MultiIndex.find? Span.startBlockHeight startBlockHeight q.blocks with
  | none => (none, q)
  | some i => (some i.hashes, eraseBlock q i)

/-- `add_blocks(height, bcel, connection_id, rate, size)`: a filled span
replaces the span of its height, and takes over its hashes. -/
def addBlocksFilled (q : BlockQueue Hash Conn Entry) (height : Nat) (bcel : List Entry)
    (connectionId : Conn) : BlockQueue Hash Conn Entry :=
  let (hashes, q) := removeSpan q height
  let q := { q with blocks := insertSpan ⟨height, [], bcel, connectionId, bcel.length⟩ q.blocks }
  match hashes with
  | none => q
  | some hashes =>
      let q := { q with requestedHashes := q.requestedHashes ∪ hashes.toFinset
                        haveBlocks := q.haveBlocks ∪ hashes.toFinset }
      setSpanHashes q height connectionId hashes

def addBlocksScheduled (q : BlockQueue Hash Conn Entry) (height nblocks : Nat) (connectionId : Conn) :
    Except String (BlockQueue Hash Conn Entry) :=
  if nblocks > 0 then .ok { q with blocks := insertSpan ⟨height, [], [], connectionId, nblocks⟩ q.blocks }
  else .error "Empty span"

def flushSpans (q : BlockQueue Hash Conn Entry) (connectionId : Conn) (all : Bool) :
    BlockQueue Hash Conn Entry :=
  eraseBlocksWhere (fun j => j.connectionId = connectionId ∧ (all ∨ j.blocks.length = 0)) q

def flushStaleSpans (q : BlockQueue Hash Conn Entry) (liveConnections : List Conn) :
    BlockQueue Hash Conn Entry :=
  eraseBlocksWhere (fun j => j.blocks.isEmpty ∧ j.connectionId ∉ liveConnections) q

def removeSpans (q : BlockQueue Hash Conn Entry) (connectionId : Conn) (startBlockHeight : Nat) :
    BlockQueue Hash Conn Entry :=
  eraseBlocksWhere (fun j => j.connectionId = connectionId ∧ j.startBlockHeight ≤ startBlockHeight) q

/-- The two loops of `reserve_span` that skip the hashes already requested:
how many there are at the front. -/
def requestedPrefix (q : BlockQueue Hash Conn Entry) (hashes : List Hash) : Nat :=
  (hashes.takeWhile (· ∈ q.requestedHashes)).length

/-- The loop of `reserve_span` that takes the hashes of the span: while hashes
are left, the span is shorter than `max_blocks` and its next block is unpruned. -/
def spanHashes (maxBlocks blockchainHeight pruningSeed spanStartHeight : Nat) :
    List Hash → Nat → List Hash
  | [], _ => []
  | h :: rest, spanLength =>
      if spanLength < maxBlocks ∧
          hasUnprunedBlock (spanStartHeight + spanLength) blockchainHeight pruningSeed then
        h :: spanHashes maxBlocks blockchainHeight pruningSeed spanStartHeight rest (spanLength + 1)
      else []

/-- The first loop and the pruning step of `reserve_span`: the start height
past the hashes already requested, moved to the peer's next unpruned height
when that comes within a stripe. -/
def reserveSpanStart (q : BlockQueue Hash Conn Entry) (lastBlockHeight pruningSeed blockchainHeight : Nat)
    (blockHashes : List Hash) : Nat :=
  let spanStartHeight := lastBlockHeight - blockHashes.length + 1 + requestedPrefix q blockHashes
  let nextUnprunedHeight := getNextUnprunedBlockHeight spanStartHeight blockchainHeight pruningSeed % 2 ^ 32
  if nextUnprunedHeight > spanStartHeight ∧
      nextUnprunedHeight < spanStartHeight + cryptonotePruningStripeSize then nextUnprunedHeight
  else spanStartHeight

/-- `reserve_span`: the start height and length of the span reserved, `(0, 0)`
when there is none. -/
def reserveSpan (q : BlockQueue Hash Conn Entry) (firstBlockHeight lastBlockHeight maxBlocks : Nat)
    (connectionId : Conn) (pruningSeed blockchainHeight : Nat) (blockHashes : List Hash) :
    Except String ((Nat × Nat) × BlockQueue Hash Conn Entry) :=
  if lastBlockHeight < firstBlockHeight ∨ maxBlocks = 0 then .ok ((0, 0), q)
  else if blockHashes.length > lastBlockHeight then .ok ((0, 0), q)
  else
    let spanStartHeight := reserveSpanStart q lastBlockHeight pruningSeed blockchainHeight blockHashes
    let blockHashesStartHeight := lastBlockHeight - blockHashes.length + 1
    if spanStartHeight ≥ blockHashes.length + blockHashesStartHeight then .ok ((0, 0), q)
    else
      let rest := blockHashes.drop (spanStartHeight - blockHashesStartHeight)
      let spanStartHeight := spanStartHeight + requestedPrefix q rest
      let hashes := spanHashes maxBlocks blockchainHeight pruningSeed spanStartHeight
        (rest.drop (requestedPrefix q rest)) 0
      if hashes.length = 0 then .ok ((0, 0), q)
      else do
        let q ← addBlocksScheduled q spanStartHeight hashes.length connectionId
        let q := setSpanHashes q spanStartHeight connectionId hashes
        pure ((spanStartHeight, hashes.length), q)

def applyBlockQueueOp (q : BlockQueue Hash Conn Entry) : BlockQueueOp Hash Conn Entry → BlockQueue Hash Conn Entry
  | .addBlocksFilled height bcel connectionId => addBlocksFilled q height bcel connectionId
  | .addBlocksScheduled height nblocks connectionId =>
      match addBlocksScheduled q height nblocks connectionId with
      | .ok q => q
      | .error _ => q
  | .flushSpans connectionId all => flushSpans q connectionId all
  | .flushStaleSpans liveConnections => flushStaleSpans q liveConnections
  | .removeSpan startBlockHeight => (removeSpan q startBlockHeight).2
  | .removeSpans connectionId startBlockHeight => removeSpans q connectionId startBlockHeight
  | .reserveSpan firstBlockHeight lastBlockHeight maxBlocks connectionId pruningSeed blockchainHeight
      blockHashes =>
      match reserveSpan q firstBlockHeight lastBlockHeight maxBlocks connectionId pruningSeed
        blockchainHeight blockHashes with
      | .ok (_, q) => q
      | .error _ => q
  | .setSpanHashes startHeight connectionId hashes => setSpanHashes q startHeight connectionId hashes

def runBlockQueue (q : BlockQueue Hash Conn Entry) (ops : List (BlockQueueOp Hash Conn Entry)) :
    BlockQueue Hash Conn Entry :=
  ops.foldl applyBlockQueueOp q

end Operations

/-! ### The set of spans -/

section BlockMap

variable {Hash Conn Entry : Type} [DecidableEq Hash] [DecidableEq Conn]

/-- The spans as a `std::set` ordered by start height holds them: in that
order, and no two of one start height. -/
structure BlockMapValid (blocks : List (Span Hash Conn Entry)) : Prop where
  sorted : MultiIndex.Sorted Span.startBlockHeight blocks
  unique : MultiIndex.KeysUnique Span.startBlockHeight blocks

omit [DecidableEq Hash] [DecidableEq Conn] in
theorem BlockMapValid.sublist {blocks kept : List (Span Hash Conn Entry)} (valid : BlockMapValid blocks)
    (sub : kept.Sublist blocks) : BlockMapValid kept :=
  ⟨valid.sorted.sublist sub, valid.unique.sublist sub⟩

omit [DecidableEq Hash] [DecidableEq Conn] in
theorem BlockMapValid.insertSpan {blocks : List (Span Hash Conn Entry)} (valid : BlockMapValid blocks)
    (s : Span Hash Conn Entry) : BlockMapValid (insertSpan s blocks) := by
  unfold Cryptonote.insertSpan
  split
  · rename_i absent
    exact ⟨MultiIndex.sorted_insert s valid.sorted,
      MultiIndex.keysUnique_insert valid.unique (MultiIndex.find?_eq_none_iff.mp absent)⟩
  · exact valid

variable {q : BlockQueue Hash Conn Entry}

omit [DecidableEq Conn] in
theorem BlockMapValid.eraseBlock (valid : BlockMapValid q.blocks) (j : Span Hash Conn Entry) :
    BlockMapValid (eraseBlock q j).blocks :=
  valid.sublist (MultiIndex.erase_sublist _ _)

omit [DecidableEq Conn] in
theorem blockMapValid_foldl_eraseBlock (erased : Span Hash Conn Entry → Bool) :
    ∀ (spans : List (Span Hash Conn Entry)) {q : BlockQueue Hash Conn Entry}, BlockMapValid q.blocks →
      BlockMapValid (spans.foldl (fun q j => if erased j then Cryptonote.eraseBlock q j else q) q).blocks
  | [], _, valid => valid
  | j :: rest, q, valid => by
      rw [List.foldl_cons]
      apply blockMapValid_foldl_eraseBlock erased rest
      split
      · exact valid.eraseBlock j
      · exact valid

omit [DecidableEq Conn] in
theorem BlockMapValid.eraseBlocksWhere (valid : BlockMapValid q.blocks) (erased : Span Hash Conn Entry → Bool) :
    BlockMapValid (eraseBlocksWhere erased q).blocks :=
  blockMapValid_foldl_eraseBlock erased q.blocks valid

theorem BlockMapValid.setSpanHashes (valid : BlockMapValid q.blocks) (startHeight : Nat) (connectionId : Conn)
    (hashes : List Hash) : BlockMapValid (setSpanHashes q startHeight connectionId hashes).blocks := by
  unfold Cryptonote.setSpanHashes
  split
  · exact valid
  · rename_i s _
    exact (valid.eraseBlock s).insertSpan _

omit [DecidableEq Conn] in
theorem BlockMapValid.removeSpan (valid : BlockMapValid q.blocks) (startBlockHeight : Nat) :
    BlockMapValid (removeSpan q startBlockHeight).2.blocks := by
  unfold Cryptonote.removeSpan
  split
  · exact valid
  · rename_i i _
    exact valid.eraseBlock i

end BlockMap

/-! ### Reservations -/

section Reserve

variable {Hash Conn Entry : Type} [DecidableEq Hash] [DecidableEq Conn]
variable {maxBlocks blockchainHeight pruningSeed spanStartHeight : Nat}

omit [DecidableEq Hash] in
theorem isPrefix_spanHashes : ∀ (rest : List Hash) (spanLength : Nat),
    List.IsPrefix (spanHashes maxBlocks blockchainHeight pruningSeed spanStartHeight rest spanLength) rest
  | [], _ => List.nil_prefix
  | h :: rest, spanLength => by
      rw [spanHashes]
      split
      · exact List.cons_prefix_cons.mpr ⟨rfl, isPrefix_spanHashes rest (spanLength + 1)⟩
      · exact List.nil_prefix

omit [DecidableEq Hash] in
theorem length_spanHashes_le : ∀ (rest : List Hash) (spanLength : Nat),
    (spanHashes maxBlocks blockchainHeight pruningSeed spanStartHeight rest spanLength).length ≤
      maxBlocks - spanLength
  | [], _ => Nat.zero_le _
  | h :: rest, spanLength => by
      rw [spanHashes]
      split
      · rename_i taken
        have restBound : (spanHashes maxBlocks blockchainHeight pruningSeed spanStartHeight rest
            (spanLength + 1)).length ≤ maxBlocks - (spanLength + 1) := length_spanHashes_le rest (spanLength + 1)
        rw [List.length_cons]
        omega
      · exact Nat.zero_le _

omit [DecidableEq Hash] in
theorem spanHashes_unpruned : ∀ (rest : List Hash) (spanLength i : Nat),
    i < (spanHashes maxBlocks blockchainHeight pruningSeed spanStartHeight rest spanLength).length →
      hasUnprunedBlock (spanStartHeight + spanLength + i) blockchainHeight pruningSeed = true
  | [], _, _, inside => absurd inside (Nat.not_lt_zero _)
  | h :: rest, spanLength, i, inside => by
      rw [spanHashes] at inside
      split at inside
      · rename_i taken
        cases i with
        | zero => exact taken.2
        | succ i =>
            have later := spanHashes_unpruned rest (spanLength + 1) i
              (by simpa only [List.length_cons, Nat.add_lt_add_iff_right] using inside)
            rwa [show spanStartHeight + (spanLength + 1) + i = spanStartHeight + spanLength + (i + 1) by omega]
              at later
      · exact absurd inside (Nat.not_lt_zero _)

omit [DecidableEq Conn] in
theorem requestedPrefix_next (q : BlockQueue Hash Conn Entry) :
    ∀ (hashes : List Hash) {h : Hash} {rest : List Hash},
      hashes.drop (requestedPrefix q hashes) = h :: rest → h ∉ q.requestedHashes
  | [], _, _, dropped => by simp at dropped
  | a :: tail, h, rest, dropped => by
      by_cases requested : a ∈ q.requestedHashes
      · have skipped : (a :: tail).takeWhile (· ∈ q.requestedHashes) =
            a :: tail.takeWhile (· ∈ q.requestedHashes) := List.takeWhile_cons_of_pos (by simpa using requested)
        rw [requestedPrefix, skipped, List.length_cons, List.drop_succ_cons] at dropped
        exact requestedPrefix_next q tail dropped
      · have stopped : (a :: tail).takeWhile (· ∈ q.requestedHashes) = [] :=
          List.takeWhile_cons_of_neg (by simpa using requested)
        rw [requestedPrefix, stopped, List.length_nil, List.drop_zero] at dropped
        obtain ⟨rfl, -⟩ := List.cons.inj dropped
        exact requested

omit [DecidableEq Conn] in
theorem le_reserveSpanStart (q : BlockQueue Hash Conn Entry) (lastBlockHeight pruningSeed blockchainHeight : Nat)
    (blockHashes : List Hash) :
    lastBlockHeight - blockHashes.length + 1 ≤ reserveSpanStart q lastBlockHeight pruningSeed blockchainHeight blockHashes := by
  unfold reserveSpanStart
  dsimp only
  split <;> omega

omit [DecidableEq Hash] [DecidableEq Conn] in
theorem nothing_reserved {q q' : BlockQueue Hash Conn Entry} {s n : Nat}
    (reserved : (Except.ok ((0, 0), q) : Except String ((Nat × Nat) × BlockQueue Hash Conn Entry)) =
      .ok ((s, n), q')) : s = 0 ∧ n = 0 ∧ q' = q := by
  simp only [Except.ok.injEq, Prod.mk.injEq] at reserved
  obtain ⟨⟨rfl, rfl⟩, rfl⟩ := reserved
  exact ⟨rfl, rfl, rfl⟩

variable {q q' : BlockQueue Hash Conn Entry} {firstBlockHeight lastBlockHeight : Nat} {connectionId : Conn}
  {blockHashes : List Hash} {s n : Nat}

theorem reserveSpan_cases
    (reserved : reserveSpan q firstBlockHeight lastBlockHeight maxBlocks connectionId pruningSeed
      blockchainHeight blockHashes = .ok ((s, n), q')) :
    s = 0 ∧ n = 0 ∧ q' = q ∨
      0 < n ∧ lastBlockHeight - blockHashes.length + 1 ≤ s ∧ n ≤ maxBlocks ∧
        ((blockHashes.drop (s - (lastBlockHeight - blockHashes.length + 1))).take n).length = n ∧
        (∀ i < n, hasUnprunedBlock (s + i) blockchainHeight pruningSeed = true) ∧
        (∀ h rest, blockHashes.drop (s - (lastBlockHeight - blockHashes.length + 1)) = h :: rest →
          h ∉ q.requestedHashes) ∧
        q' = setSpanHashes { q with blocks := insertSpan ⟨s, [], [], connectionId, n⟩ q.blocks } s
          connectionId ((blockHashes.drop (s - (lastBlockHeight - blockHashes.length + 1))).take n) := by
  have started := le_reserveSpanStart q lastBlockHeight pruningSeed blockchainHeight blockHashes
  unfold reserveSpan at reserved
  generalize reserveSpanStart q lastBlockHeight pruningSeed blockchainHeight blockHashes = start
    at reserved started
  generalize lastBlockHeight - blockHashes.length + 1 = hashesStart at reserved started ⊢
  dsimp only at reserved
  split_ifs at reserved with early tooMany outOfHashes empty
  · exact .inl (nothing_reserved reserved)
  · exact .inl (nothing_reserved reserved)
  · exact .inl (nothing_reserved reserved)
  · exact .inl (nothing_reserved reserved)
  · generalize restEq : blockHashes.drop (start - hashesStart) = rest at reserved empty
    generalize hashesEq : spanHashes maxBlocks blockchainHeight pruningSeed (start + requestedPrefix q rest)
      (rest.drop (requestedPrefix q rest)) 0 = hashes at reserved empty
    have positive : 0 < hashes.length := Nat.pos_of_ne_zero empty
    rw [addBlocksScheduled, if_pos positive] at reserved
    simp only [bind, Except.bind, pure, Except.pure, Except.ok.injEq, Prod.mk.injEq] at reserved
    obtain ⟨⟨rfl, rfl⟩, rfl⟩ := reserved
    have dropped : blockHashes.drop (start + requestedPrefix q rest - hashesStart) =
        rest.drop (requestedPrefix q rest) := by
      rw [← restEq, List.drop_drop]
      congr 1
      omega
    have taken : (rest.drop (requestedPrefix q rest)).take hashes.length = hashes := by
      rw [← hashesEq]
      exact (List.prefix_iff_eq_take.mp (isPrefix_spanHashes _ 0)).symm
    refine .inr ⟨positive, by omega, ?_, ?_, ?_, ?_, ?_⟩
    · rw [← hashesEq]
      exact length_spanHashes_le _ 0
    · rw [dropped, taken]
    · intro i inside
      rw [← hashesEq] at inside
      simpa using spanHashes_unpruned _ 0 i inside
    · intro h tail first
      rw [dropped] at first
      exact requestedPrefix_next q rest first
    · rw [dropped, taken]

end Reserve

/-! ### Every run keeps the set's shape -/

section Runs

variable {Hash Conn Entry : Type} [DecidableEq Hash] [DecidableEq Conn] {q q' : BlockQueue Hash Conn Entry}

theorem BlockMapValid.addBlocksFilled (valid : BlockMapValid q.blocks) (height : Nat) (bcel : List Entry)
    (connectionId : Conn) : BlockMapValid (addBlocksFilled q height bcel connectionId).blocks := by
  have removedValid := valid.removeSpan height
  unfold Cryptonote.addBlocksFilled
  generalize Cryptonote.removeSpan q height = removed at removedValid ⊢
  obtain ⟨hashes, removedQueue⟩ := removed
  have inserted := removedValid.insertSpan ⟨height, [], bcel, connectionId, bcel.length⟩
  cases hashes with
  | none => exact inserted
  | some hashes => exact BlockMapValid.setSpanHashes inserted height connectionId hashes

omit [DecidableEq Hash] [DecidableEq Conn] in
theorem BlockMapValid.addBlocksScheduled (valid : BlockMapValid q.blocks) {height nblocks : Nat}
    {connectionId : Conn} (scheduled : addBlocksScheduled q height nblocks connectionId = .ok q') :
    BlockMapValid q'.blocks := by
  unfold Cryptonote.addBlocksScheduled at scheduled
  split at scheduled
  · cases scheduled
    exact valid.insertSpan _
  · cases scheduled

theorem BlockMapValid.reserveSpan (valid : BlockMapValid q.blocks)
    {firstBlockHeight lastBlockHeight maxBlocks pruningSeed blockchainHeight : Nat} {connectionId : Conn}
    {blockHashes : List Hash} {result : Nat × Nat}
    (reserved : reserveSpan q firstBlockHeight lastBlockHeight maxBlocks connectionId pruningSeed
      blockchainHeight blockHashes = .ok (result, q')) : BlockMapValid q'.blocks := by
  obtain ⟨s, n⟩ := result
  rcases reserveSpan_cases reserved with ⟨-, -, rfl⟩ | ⟨-, -, -, -, -, -, rfl⟩
  · exact valid
  · exact BlockMapValid.setSpanHashes (valid.insertSpan _) _ _ _

theorem BlockMapValid.applyBlockQueueOp (valid : BlockMapValid q.blocks) :
    ∀ op : BlockQueueOp Hash Conn Entry, BlockMapValid (applyBlockQueueOp q op).blocks
  | .addBlocksFilled height bcel connectionId => valid.addBlocksFilled height bcel connectionId
  | .addBlocksScheduled height nblocks connectionId => by
      simp only [Cryptonote.applyBlockQueueOp]
      split
      · rename_i scheduled
        exact valid.addBlocksScheduled scheduled
      · exact valid
  | .flushSpans .. => valid.eraseBlocksWhere _
  | .flushStaleSpans _ => valid.eraseBlocksWhere _
  | .removeSpan startBlockHeight => valid.removeSpan startBlockHeight
  | .removeSpans .. => valid.eraseBlocksWhere _
  | .reserveSpan .. => by
      simp only [Cryptonote.applyBlockQueueOp]
      split
      · rename_i reserved
        exact valid.reserveSpan reserved
      · exact valid
  | .setSpanHashes startHeight connectionId hashes => valid.setSpanHashes startHeight connectionId hashes

theorem blockMapValid_runBlockQueue (ops : List (BlockQueueOp Hash Conn Entry)) :
    BlockMapValid (runBlockQueue BlockQueue.init ops).blocks := by
  unfold runBlockQueue
  suffices ∀ q : BlockQueue Hash Conn Entry, BlockMapValid q.blocks → BlockMapValid (ops.foldl applyBlockQueueOp q).blocks from
    this _ ⟨List.Pairwise.nil, List.nodup_nil⟩
  induction ops with
  | nil => exact fun _ valid => valid
  | cons op rest ih => exact fun q valid => ih _ (valid.applyBlockQueueOp op)

end Runs

/-! ### Requested hashes and reservations -/

section Requested

variable {Hash Conn Entry : Type} [DecidableEq Hash] [DecidableEq Conn] {q q' : BlockQueue Hash Conn Entry}

def HashesRequested (q : BlockQueue Hash Conn Entry) : Prop :=
  ∀ span ∈ q.blocks, ∀ h ∈ span.hashes, h ∈ q.requestedHashes

omit [DecidableEq Conn] in
theorem removeSpan_of_mem (valid : BlockMapValid q.blocks) {j : Span Hash Conn Entry} (member : j ∈ q.blocks) :
    removeSpan q j.startBlockHeight = (some j.hashes, eraseBlock q j) := by
  rw [removeSpan, MultiIndex.find?_of_mem valid.unique member]

omit [DecidableEq Conn] in
theorem removeSpan_breaks_hashesRequested (valid : BlockMapValid q.blocks) {j k : Span Hash Conn Entry}
    (jMember : j ∈ q.blocks) (kMember : k ∈ q.blocks) (apart : j.startBlockHeight ≠ k.startBlockHeight)
    {h : Hash} (inJ : h ∈ j.hashes) (inK : h ∈ k.hashes) :
    ¬HashesRequested (removeSpan q j.startBlockHeight).2 := by
  rw [removeSpan_of_mem valid jMember]
  intro requested
  have kKept : k ∈ (eraseBlock q j).blocks := (MultiIndex.mem_erase valid.unique).mpr ⟨kMember, apart.symm⟩
  have forgotten : h ∉ (eraseBlock q j).requestedHashes := by simp [eraseBlock, inJ]
  exact forgotten (requested k kKept h inK)

omit [DecidableEq Hash] [DecidableEq Conn] in
theorem connectionId_ne_of_occupied (valid : BlockMapValid q.blocks) {old : Span Hash Conn Entry}
    (member : old ∈ q.blocks) {connectionId : Conn} (otherConnection : old.connectionId ≠ connectionId) :
    ∀ span ∈ q.blocks, span.startBlockHeight = old.startBlockHeight → span.connectionId ≠ connectionId := by
  intro span spanMember sameStart
  rw [List.inj_on_of_nodup_map valid.unique spanMember member sameStart]
  exact otherConnection

theorem setSpanHashes_of_absent {startHeight : Nat} {connectionId : Conn}
    (absent : ∀ span ∈ q.blocks, span.startBlockHeight = startHeight → span.connectionId ≠ connectionId)
    (hashes : List Hash) : setSpanHashes q startHeight connectionId hashes = q := by
  unfold setSpanHashes
  rw [List.find?_eq_none.mpr (fun span member => by simpa using absent span member)]

theorem reserveSpan_of_occupied (valid : BlockMapValid q.blocks)
    {firstBlockHeight lastBlockHeight maxBlocks pruningSeed blockchainHeight s n : Nat} {connectionId : Conn}
    {blockHashes : List Hash}
    (reserved : reserveSpan q firstBlockHeight lastBlockHeight maxBlocks connectionId pruningSeed
      blockchainHeight blockHashes = .ok ((s, n), q')) (positive : 0 < n)
    {old : Span Hash Conn Entry} (member : old ∈ q.blocks) (sameStart : old.startBlockHeight = s)
    (otherConnection : old.connectionId ≠ connectionId) : q' = q := by
  rcases reserveSpan_cases reserved with ⟨-, rfl, -⟩ | ⟨-, -, -, -, -, -, rfl⟩
  · exact absurd positive (Nat.lt_irrefl 0)
  · have dropped : insertSpan ⟨s, [], [], connectionId, n⟩ q.blocks = q.blocks := by
      subst sameStart
      rw [insertSpan, MultiIndex.find?_of_mem valid.unique member]
    rw [dropped, setSpanHashes_of_absent]
    rw [← sameStart]
    exact connectionId_ne_of_occupied valid member otherConnection

omit [DecidableEq Hash] in
theorem find?_span_of_mem (valid : BlockMapValid q.blocks) {span : Span Hash Conn Entry} (member : span ∈ q.blocks) :
    q.blocks.find? (fun i => i.startBlockHeight = span.startBlockHeight ∧ i.connectionId = span.connectionId) =
      some span := by
  have present : (q.blocks.find? fun i =>
      i.startBlockHeight = span.startBlockHeight ∧ i.connectionId = span.connectionId).isSome :=
    List.find?_isSome.mpr ⟨span, member, by simp⟩
  obtain ⟨found, lookup⟩ := Option.isSome_iff_exists.mp present
  have foundMember := List.mem_of_find?_eq_some lookup
  have agrees : found.startBlockHeight = span.startBlockHeight ∧ found.connectionId = span.connectionId := by
    simpa using List.find?_some lookup
  rw [lookup, List.inj_on_of_nodup_map valid.unique foundMember member agrees.1]

theorem setSpanHashes_of_mem (valid : BlockMapValid q.blocks) {span : Span Hash Conn Entry}
    (member : span ∈ q.blocks) (hashes : List Hash) :
    { span with hashes := hashes } ∈
        (setSpanHashes q span.startBlockHeight span.connectionId hashes).blocks ∧
      ∀ h ∈ hashes, h ∈ (setSpanHashes q span.startBlockHeight span.connectionId hashes).requestedHashes := by
  unfold setSpanHashes
  rw [find?_span_of_mem valid member]
  have freed : MultiIndex.Fresh Span.startBlockHeight span.startBlockHeight (eraseBlock q span).blocks :=
    MultiIndex.fresh_erase valid.unique
  refine ⟨?_, fun h inHashes => Finset.mem_union_right _ (List.mem_toFinset.mpr inHashes)⟩
  show { span with hashes := hashes } ∈ insertSpan { span with hashes := hashes } (eraseBlock q span).blocks
  rw [insertSpan, MultiIndex.find?_eq_none_iff.mpr freed]
  exact MultiIndex.mem_insert.2 (.inl rfl)

theorem reserveSpan_reserves (valid : BlockMapValid q.blocks)
    {firstBlockHeight lastBlockHeight maxBlocks pruningSeed blockchainHeight s n : Nat} {connectionId : Conn}
    {blockHashes : List Hash}
    (reserved : reserveSpan q firstBlockHeight lastBlockHeight maxBlocks connectionId pruningSeed
      blockchainHeight blockHashes = .ok ((s, n), q')) (positive : 0 < n)
    (free : MultiIndex.Fresh Span.startBlockHeight s q.blocks) :
    let hashes := (blockHashes.drop (s - (lastBlockHeight - blockHashes.length + 1))).take n
    ⟨s, hashes, [], connectionId, n⟩ ∈ q'.blocks ∧ ∀ h ∈ hashes, h ∈ q'.requestedHashes := by
  intro hashes
  rcases reserveSpan_cases reserved with ⟨-, rfl, -⟩ | ⟨-, -, -, -, -, -, rfl⟩
  · exact absurd positive (Nat.lt_irrefl 0)
  · let scheduled : BlockQueue Hash Conn Entry :=
      { q with blocks := insertSpan ⟨s, [], [], connectionId, n⟩ q.blocks }
    have inserted : scheduled.blocks =
        MultiIndex.insert Span.startBlockHeight ⟨s, [], [], connectionId, n⟩ q.blocks := by
      show insertSpan _ q.blocks = _
      rw [insertSpan, MultiIndex.find?_eq_none_iff.mpr free]
    have scheduledValid : BlockMapValid scheduled.blocks := valid.insertSpan _
    have scheduledMember : (⟨s, [], [], connectionId, n⟩ : Span Hash Conn Entry) ∈ scheduled.blocks := by
      rw [inserted]
      exact MultiIndex.mem_insert.2 (.inl rfl)
    exact setSpanHashes_of_mem scheduledValid scheduledMember hashes

end Requested

/-! ### Runs from a new queue -/

/-- From a new queue, after every run: erasing a span that shares a hash with
a span of another start height leaves that span holding a hash no longer
requested; and a reservation at a start height that a span of another
connection holds returns its span but leaves the queue as it was, with no span
of the connection there. -/
theorem block_queue_forgets_hashes_and_drops_reservations {Hash Conn Entry : Type} [DecidableEq Hash]
    [DecidableEq Conn] (ops : List (BlockQueueOp Hash Conn Entry)) :
    let q := runBlockQueue BlockQueue.init ops
    (∀ j ∈ q.blocks, ∀ k ∈ q.blocks, j.startBlockHeight ≠ k.startBlockHeight →
      ∀ h ∈ j.hashes, h ∈ k.hashes → ¬HashesRequested (removeSpan q j.startBlockHeight).2) ∧
    (∀ firstBlockHeight lastBlockHeight maxBlocks connectionId pruningSeed blockchainHeight blockHashes s n q',
      reserveSpan q firstBlockHeight lastBlockHeight maxBlocks connectionId pruningSeed blockchainHeight
        blockHashes = .ok ((s, n), q') → 0 < n →
      (∃ old ∈ q.blocks, old.startBlockHeight = s ∧ old.connectionId ≠ connectionId) →
        q' = q ∧ ∀ span ∈ q'.blocks, span.startBlockHeight = s → span.connectionId ≠ connectionId) := by
  intro q
  have valid : BlockMapValid q.blocks := blockMapValid_runBlockQueue ops
  refine ⟨fun j jMember k kMember apart h inJ inK =>
    removeSpan_breaks_hashesRequested valid jMember kMember apart inJ inK, ?_⟩
  intro firstBlockHeight lastBlockHeight maxBlocks connectionId pruningSeed blockchainHeight blockHashes s n q'
    reserved positive occupied
  obtain ⟨old, member, sameStart, otherConnection⟩ := occupied
  have unchanged : q' = q := reserveSpan_of_occupied valid reserved positive member sameStart otherConnection
  subst unchanged sameStart
  exact ⟨rfl, connectionId_ne_of_occupied valid member otherConnection⟩

/-- Connection 1 reserves heights 10 to 12, connection 2 then heights 9 to 12
over them, and connection 1 delivers a filled span at height 20. -/
def overlappingReservations : List (BlockQueueOp Nat Nat Nat) :=
  [.reserveSpan 0 12 3 1 0 100 [10, 11, 12], .reserveSpan 0 12 4 2 0 100 [9, 10, 11, 12],
    .addBlocksFilled 20 [0] 1]

theorem overlapping_reservations_lose_requests :
    ¬HashesRequested (removeSpan (runBlockQueue BlockQueue.init overlappingReservations) 9).2 ∧
      reserveSpan (runBlockQueue BlockQueue.init overlappingReservations) 0 20 1 2 0 100 [20] =
        .ok ((20, 1), runBlockQueue BlockQueue.init overlappingReservations) ∧
      ∀ span ∈ (runBlockQueue BlockQueue.init overlappingReservations).blocks,
        span.startBlockHeight = 20 → span.connectionId ≠ 2 := by
  obtain ⟨forgets, drops⟩ := block_queue_forgets_hashes_and_drops_reservations overlappingReservations
  have reserved : reserveSpan (runBlockQueue BlockQueue.init overlappingReservations) 0 20 1 2 0 100 [20] =
      .ok ((20, 1), runBlockQueue BlockQueue.init overlappingReservations) := by
    rfl
  refine ⟨forgets ⟨9, [9, 10, 11, 12], [], 2, 4⟩ (by decide) ⟨10, [10, 11, 12], [], 1, 3⟩ (by decide)
    (by decide) 10 (by decide) (by decide), reserved, ?_⟩
  exact (drops 0 20 1 2 0 100 [20] 20 1 _ reserved (by decide)
    ⟨⟨20, [], [0], 1, 1⟩, by decide, rfl, by decide⟩).2

end Antd.Cryptonote
