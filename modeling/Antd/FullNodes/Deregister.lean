import Antd.Cryptonote.Basic
import Antd.Lib.LittleEndian

/-! Deregistration votes (`full_node_deregister.cpp`): the verification of one
vote and of a deregister transaction against a quorum state, and the vote
pool that collects votes per `(block_height, full_node_index)` group and
builds the deregister transaction once a group holds
`MIN_VOTES_TO_KICK_FULL_NODE` votes. -/

namespace Antd.FullNodes

open Antd.Crypto Antd.Cryptonote

def quorumSize : Nat := 5

def minVotesToKickFullNode : Nat := 7

def voteLifetimeByHeight : Nat := 3600 / 120 * 2

structure QuorumState where
  quorumNodes : List PublicKey
  nodesToTest : List PublicKey
  deriving DecidableEq

structure DeregisterVote where
  blockHeight : Nat
  fullNodeIndex : Nat
  votersQuorumIndex : Nat
  signature : Signature
  deriving DecidableEq

structure VoteVerificationContext where
  verificationFailed : Bool := false
  invalidBlockHeight : Bool := false
  duplicateVoters : Bool := false
  votersQuorumIndexOutOfBounds : Bool := false
  fullNodeIndexOutOfBounds : Bool := false
  signatureNotValid : Bool := false
  addedToPool : Bool := false
  fullTxDeregisterMade : Bool := false
  notEnoughVotes : Bool := false
  deriving DecidableEq

section Verification

variable (crypto : Primitives)

def makeHashFrom (blockHeight fullNodeIndex : Nat) : Hash :=
  crypto.cnFastHash (LittleEndian.toBytes 8 blockHeight ++ LittleEndian.toBytes 4 fullNodeIndex)

def verifyVotesSignature (blockHeight fullNodeIndex : Nat)
    (keysAndSigs : List (PublicKey × Signature)) : Bool :=
  keysAndSigs.all fun keyAndSig =>
    crypto.checkSignature (makeHashFrom crypto blockHeight fullNodeIndex) keyAndSig.1 keyAndSig.2

/-- Why the vote loop of `verify_votes_helper` stops early. -/
inductive VoteKeysFailure
  | votersQuorumIndexOutOfBounds
  | duplicateVoters
  deriving DecidableEq

/-- The vote loop of `verify_votes_helper`: each voter's index is bounded by the
quorum, counted in `quorumSet`, and paired with that member's key. -/
def collectVoteKeys (quorum : List PublicKey) :
    List DeregisterTxVote → List Nat → Except VoteKeysFailure (List (PublicKey × Signature))
  | [], _ => .ok []
  | vote :: rest, quorumSet =>
      if vote.votersQuorumIndex < quorum.length then
        let count := quorumSet.getD vote.votersQuorumIndex 0 + 1
        if count > 1 then .error .duplicateVoters
        else
          match collectVoteKeys quorum rest (quorumSet.set vote.votersQuorumIndex count) with
          | .ok keysAndSigs =>
              .ok ((quorum.getD vote.votersQuorumIndex nullPkey, vote.signature) :: keysAndSigs)
          | .error failure => .error failure
      else .error .votersQuorumIndexOutOfBounds

def verifyVotesHelper (deregister : TxExtraFullNodeDeregister)
    (vvc : VoteVerificationContext) (quorumState : QuorumState) :
    Bool × VoteVerificationContext :=
  if deregister.fullNodeIndex ≥ quorumState.nodesToTest.length then
    (false, { vvc with fullNodeIndexOutOfBounds := true })
  else
    match collectVoteKeys quorumState.quorumNodes deregister.votes
        (List.replicate quorumState.quorumNodes.length 0) with
    | .error .votersQuorumIndexOutOfBounds =>
        (false, { vvc with votersQuorumIndexOutOfBounds := true })
    | .error .duplicateVoters => (false, { vvc with duplicateVoters := true })
    | .ok keysAndSigs =>
        if verifyVotesSignature crypto deregister.blockHeight deregister.fullNodeIndex keysAndSigs
        then (true, vvc)
        else (false, { vvc with verificationFailed := true })

def verifyDeregister (deregister : TxExtraFullNodeDeregister)
    (vvc : VoteVerificationContext) (quorumState : QuorumState) :
    Bool × VoteVerificationContext :=
  if deregister.votes.length < minVotesToKickFullNode then
    (false, { vvc with notEnoughVotes := true })
  else verifyVotesHelper crypto deregister vvc quorumState

def DeregisterVote.txVote (vote : DeregisterVote) : DeregisterTxVote :=
  { signature := vote.signature, votersQuorumIndex := vote.votersQuorumIndex }

def DeregisterVote.asDeregister (vote : DeregisterVote) : TxExtraFullNodeDeregister :=
  { blockHeight := vote.blockHeight, fullNodeIndex := vote.fullNodeIndex, votes := [vote.txVote] }

def verifyVote (vote : DeregisterVote) (vvc : VoteVerificationContext)
    (quorumState : QuorumState) : Bool × VoteVerificationContext :=
  verifyVotesHelper crypto vote.asDeregister vvc quorumState

/-! ### What verification accepts -/

/-- What `verify_votes_helper` accepts: the tested node is in the quorum
state, and the votes come from distinct quorum members whose signatures on the
deregistration's hash check. -/
structure VotesValid (quorumState : QuorumState) (deregister : TxExtraFullNodeDeregister) :
    Prop where
  fullNodeIndexInBounds : deregister.fullNodeIndex < quorumState.nodesToTest.length
  votersInBounds :
    ∀ vote ∈ deregister.votes, vote.votersQuorumIndex < quorumState.quorumNodes.length
  votersDistinct : (deregister.votes.map (·.votersQuorumIndex)).Nodup
  signed : ∀ vote ∈ deregister.votes,
    crypto.checkSignature (makeHashFrom crypto deregister.blockHeight deregister.fullNodeIndex)
      (quorumState.quorumNodes.getD vote.votersQuorumIndex nullPkey) vote.signature = true

def VoteValid (quorumState : QuorumState) (vote : DeregisterVote) : Prop :=
  VotesValid crypto quorumState vote.asDeregister

/-- The counts `quorum_set` holds once the voters of `seen` are counted: a one
at each seen index below `size`. -/
def quorumSetOf (size : Nat) (seen : List Nat) : List Nat :=
  (List.range size).map fun index => if index ∈ seen then 1 else 0

theorem quorumSetOf_nil (size : Nat) : quorumSetOf size [] = List.replicate size 0 := by
  simp [quorumSetOf, List.map_const']

theorem getD_quorumSetOf {size index : Nat} (seen : List Nat) (inBounds : index < size) :
    (quorumSetOf size seen).getD index 0 = if index ∈ seen then 1 else 0 := by
  simp [quorumSetOf, inBounds]

theorem set_quorumSetOf {size index : Nat} (seen : List Nat) (inBounds : index < size) :
    (quorumSetOf size seen).set index 1 = quorumSetOf size (index :: seen) := by
  apply List.ext_getElem
  · simp [quorumSetOf]
  · intro position _ _
    by_cases same : position = index
    · subst same
      simp [quorumSetOf]
    · simp [quorumSetOf, Ne.symm same, same]

section VoteLoop

variable {quorum : List PublicKey} {vote : DeregisterTxVote} {rest : List DeregisterTxVote}
  {seen : List Nat}

def keysAndSigsOf (quorum : List PublicKey) (votes : List DeregisterTxVote) :
    List (PublicKey × Signature) :=
  votes.map fun vote => (quorum.getD vote.votersQuorumIndex nullPkey, vote.signature)

theorem collectVoteKeys_cons_of_not_lt (outOfBounds : ¬vote.votersQuorumIndex < quorum.length) :
    collectVoteKeys quorum (vote :: rest) (quorumSetOf quorum.length seen) =
      .error .votersQuorumIndexOutOfBounds := by
  simp [collectVoteKeys, outOfBounds]

theorem collectVoteKeys_cons_of_mem (inBounds : vote.votersQuorumIndex < quorum.length)
    (counted : vote.votersQuorumIndex ∈ seen) :
    collectVoteKeys quorum (vote :: rest) (quorumSetOf quorum.length seen) =
      .error .duplicateVoters := by
  simp only [collectVoteKeys, if_pos inBounds, getD_quorumSetOf seen inBounds, if_pos counted]
  rfl

theorem collectVoteKeys_cons_of_not_mem (inBounds : vote.votersQuorumIndex < quorum.length)
    (unseen : vote.votersQuorumIndex ∉ seen) :
    collectVoteKeys quorum (vote :: rest) (quorumSetOf quorum.length seen) =
      (collectVoteKeys quorum rest (quorumSetOf quorum.length (vote.votersQuorumIndex :: seen))).map
        ((quorum.getD vote.votersQuorumIndex nullPkey, vote.signature) :: ·) := by
  simp only [collectVoteKeys, inBounds, if_true, getD_quorumSetOf seen inBounds, unseen,
    if_false, zero_add, gt_iff_lt, lt_self_iff_false, set_quorumSetOf seen inBounds]
  cases collectVoteKeys quorum rest (quorumSetOf quorum.length (vote.votersQuorumIndex :: seen)) <;>
    rfl

theorem collectVoteKeys_of_valid (votes : List DeregisterTxVote)
    (bounded : ∀ vote ∈ votes, vote.votersQuorumIndex < quorum.length)
    (distinct : (votes.map (·.votersQuorumIndex)).Nodup)
    (unseen : ∀ vote ∈ votes, vote.votersQuorumIndex ∉ seen) :
    collectVoteKeys quorum votes (quorumSetOf quorum.length seen) = .ok (keysAndSigsOf quorum votes) := by
  induction votes generalizing seen with
  | nil => rfl
  | cons vote rest ih =>
      have voteBounded := bounded vote List.mem_cons_self
      have voteUnseen := unseen vote List.mem_cons_self
      rw [List.map_cons, List.nodup_cons] at distinct
      have restUnseen : ∀ other ∈ rest, other.votersQuorumIndex ∉ vote.votersQuorumIndex :: seen := by
        intro other member
        rw [List.mem_cons, not_or]
        exact ⟨fun same => distinct.1 (same ▸ List.mem_map_of_mem member),
          unseen other (List.mem_cons_of_mem vote member)⟩
      rw [collectVoteKeys_cons_of_not_mem voteBounded voteUnseen,
        ih (fun other member => bounded other (List.mem_cons_of_mem vote member)) distinct.2 restUnseen]
      rfl

theorem valid_of_collectVoteKeys {votes : List DeregisterTxVote}
    {keysAndSigs : List (PublicKey × Signature)}
    (collected : collectVoteKeys quorum votes (quorumSetOf quorum.length seen) = .ok keysAndSigs) :
    (∀ vote ∈ votes, vote.votersQuorumIndex < quorum.length) ∧
      (votes.map (·.votersQuorumIndex)).Nodup ∧
      (∀ vote ∈ votes, vote.votersQuorumIndex ∉ seen) ∧
      keysAndSigs = keysAndSigsOf quorum votes := by
  induction votes generalizing seen keysAndSigs with
  | nil =>
      cases collected
      simp [keysAndSigsOf]
  | cons vote rest ih =>
      by_cases inBounds : vote.votersQuorumIndex < quorum.length
      · by_cases counted : vote.votersQuorumIndex ∈ seen
        · rw [collectVoteKeys_cons_of_mem inBounds counted] at collected
          cases collected
        · rw [collectVoteKeys_cons_of_not_mem inBounds counted] at collected
          cases restCollected : collectVoteKeys quorum rest
              (quorumSetOf quorum.length (vote.votersQuorumIndex :: seen)) with
          | error failure =>
              rw [restCollected] at collected
              cases collected
          | ok restKeys =>
              rw [restCollected] at collected
              cases collected
              obtain ⟨bounded, distinct, unseen, rfl⟩ := ih restCollected
              refine ⟨?_, ?_, ?_, rfl⟩
              · simpa [inBounds] using bounded
              · rw [List.map_cons, List.nodup_cons]
                refine ⟨fun member => ?_, distinct⟩
                obtain ⟨other, otherMember, same⟩ := List.mem_map.mp member
                exact unseen other otherMember (same ▸ List.mem_cons_self)
              · intro other member
                rcases List.mem_cons.mp member with rfl | restMember
                · exact counted
                · exact fun inSeen => unseen other restMember (List.mem_cons_of_mem _ inSeen)
      · rw [collectVoteKeys_cons_of_not_lt inBounds] at collected
        cases collected

end VoteLoop

theorem verifyVotesSignature_keysAndSigsOf (blockHeight fullNodeIndex : Nat)
    (quorum : List PublicKey) (votes : List DeregisterTxVote) :
    verifyVotesSignature crypto blockHeight fullNodeIndex (keysAndSigsOf quorum votes) = true ↔
      ∀ vote ∈ votes, crypto.checkSignature (makeHashFrom crypto blockHeight fullNodeIndex)
        (quorum.getD vote.votersQuorumIndex nullPkey) vote.signature = true := by
  simp [verifyVotesSignature, keysAndSigsOf]

theorem verifyVotesHelper_fst_eq_true_iff (deregister : TxExtraFullNodeDeregister)
    (vvc : VoteVerificationContext) (quorumState : QuorumState) :
    (verifyVotesHelper crypto deregister vvc quorumState).1 = true ↔
      VotesValid crypto quorumState deregister := by
  unfold verifyVotesHelper
  by_cases outOfBounds : deregister.fullNodeIndex ≥ quorumState.nodesToTest.length
  · rw [if_pos outOfBounds]
    simp only [Bool.false_eq_true, false_iff]
    exact fun valid => absurd valid.fullNodeIndexInBounds (by omega)
  · rw [if_neg outOfBounds, ← quorumSetOf_nil]
    cases collected : collectVoteKeys quorumState.quorumNodes deregister.votes
        (quorumSetOf quorumState.quorumNodes.length []) with
    | error failure =>
        have rejected : ¬VotesValid crypto quorumState deregister := fun valid => by
          rw [collectVoteKeys_of_valid deregister.votes valid.votersInBounds valid.votersDistinct
            (by simp)] at collected
          cases collected
        cases failure <;> simpa using rejected
    | ok keysAndSigs =>
        obtain ⟨bounded, distinct, -, rfl⟩ := valid_of_collectVoteKeys collected
        dsimp only
        have signedIff := verifyVotesSignature_keysAndSigsOf crypto deregister.blockHeight
          deregister.fullNodeIndex quorumState.quorumNodes deregister.votes
        by_cases signed : verifyVotesSignature crypto deregister.blockHeight
            deregister.fullNodeIndex (keysAndSigsOf quorumState.quorumNodes deregister.votes) = true
        · rw [if_pos signed]
          simp only [true_iff]
          exact ⟨by omega, bounded, distinct, signedIff.mp signed⟩
        · rw [if_neg signed]
          simp only [Bool.false_eq_true, false_iff]
          exact fun valid => signed (signedIff.mpr valid.signed)

theorem verifyDeregister_fst_eq_true_iff (deregister : TxExtraFullNodeDeregister)
    (vvc : VoteVerificationContext) (quorumState : QuorumState) :
    (verifyDeregister crypto deregister vvc quorumState).1 = true ↔
      minVotesToKickFullNode ≤ deregister.votes.length ∧
        VotesValid crypto quorumState deregister := by
  unfold verifyDeregister
  by_cases tooFew : deregister.votes.length < minVotesToKickFullNode
  · simp only [if_pos tooFew, Bool.false_eq_true, false_iff, not_and]
    intro enough
    omega
  · rw [if_neg tooFew, verifyVotesHelper_fst_eq_true_iff]
    constructor
    · exact fun valid => ⟨by omega, valid⟩
    · exact fun accepted => accepted.2

theorem verifyVote_fst_eq_true_iff (vote : DeregisterVote) (vvc : VoteVerificationContext)
    (quorumState : QuorumState) :
    (verifyVote crypto vote vvc quorumState).1 = true ↔ VoteValid crypto quorumState vote :=
  verifyVotesHelper_fst_eq_true_iff crypto vote.asDeregister vvc quorumState

theorem length_le_of_nodup_of_lt {size : Nat} {indices : List Nat} (distinct : indices.Nodup)
    (bounded : ∀ index ∈ indices, index < size) : indices.length ≤ size := by
  have inRange : indices ⊆ List.range size := fun index member =>
    List.mem_range.mpr (bounded index member)
  simpa using (distinct.subperm inRange).length_le

theorem VotesValid.length_le {quorumState : QuorumState} {deregister : TxExtraFullNodeDeregister}
    (valid : VotesValid crypto quorumState deregister) :
    deregister.votes.length ≤ quorumState.quorumNodes.length := by
  have bounded : ∀ index ∈ deregister.votes.map (·.votersQuorumIndex),
      index < quorumState.quorumNodes.length := by
    intro index member
    obtain ⟨vote, voteMember, rfl⟩ := List.mem_map.mp member
    exact valid.votersInBounds vote voteMember
  simpa using length_le_of_nodup_of_lt valid.votersDistinct bounded

/-- No deregister passes `verify_deregister` against a quorum of at most
`QUORUM_SIZE` members: it would need `MIN_VOTES_TO_KICK_FULL_NODE` distinct
voters from it. -/
theorem verifyDeregister_rejects_small_quorum (deregister : TxExtraFullNodeDeregister)
    (vvc : VoteVerificationContext) (quorumState : QuorumState)
    (smallQuorum : quorumState.quorumNodes.length ≤ quorumSize) :
    (verifyDeregister crypto deregister vvc quorumState).1 = false := by
  cases accepted : (verifyDeregister crypto deregister vvc quorumState).1 with
  | false => rfl
  | true =>
      obtain ⟨enough, valid⟩ :=
        (verifyDeregister_fst_eq_true_iff crypto deregister vvc quorumState).mp accepted
      have bounded := valid.length_le
      simp only [minVotesToKickFullNode, quorumSize] at enough smallQuorum
      omega

/-- Seven votes from five distinct members of a five-member quorum are
rejected. -/
theorem verifyDeregister_rejects_seven_votes :
    let crypto : Primitives :=
      ⟨fun _ => nullHash, fun _ _ _ => true, fun _ => true, fun _ _ => none, fun _ _ _ => none,
        fun secret => (nullPkey, secret)⟩
    let quorumState : QuorumState := ⟨List.replicate 5 nullPkey, [nullPkey]⟩
    let deregister : TxExtraFullNodeDeregister :=
      ⟨100, 0, (List.range 7).map fun index => ⟨Pod.zero 64, index % 5⟩⟩
    quorumState.quorumNodes.length ≤ quorumSize ∧
      (verifyDeregister crypto deregister {} quorumState).1 = false := by
  intro crypto quorumState deregister
  have smallQuorum : quorumState.quorumNodes.length ≤ quorumSize := by
    simp [quorumState, quorumSize]
  exact ⟨smallQuorum, verifyDeregister_rejects_small_quorum crypto deregister {} quorumState
    smallQuorum⟩

end Verification

/-! ### The vote pool -/

/-- `deregister_vote_pool::deregister_group`: votes are pooled per height and
tested node; the creation time takes no part in its equality. -/
structure DeregisterGroup where
  blockHeight : Nat
  fullNodeIndex : Nat
  deriving DecidableEq

def DeregisterVote.group (vote : DeregisterVote) : DeregisterGroup :=
  { blockHeight := vote.blockHeight, fullNodeIndex := vote.fullNodeIndex }

structure PoolEntry where
  timeLastSentP2p : Nat
  vote : DeregisterVote
  deriving DecidableEq

/-- `deregister_vote_pool`: `m_deregisters`, where a group absent from the map
has no entries. -/
structure DeregisterVotePool where
  deregisters : DeregisterGroup → List PoolEntry

namespace DeregisterVotePool

def empty : DeregisterVotePool := ⟨fun _ => []⟩

def set (pool : DeregisterVotePool) (group : DeregisterGroup) (entries : List PoolEntry) :
    DeregisterVotePool :=
  ⟨fun other => if other = group then entries else pool.deregisters other⟩

def retain (pool : DeregisterVotePool) (keep : DeregisterGroup → Bool) : DeregisterVotePool :=
  ⟨fun group => if keep group then pool.deregisters group else []⟩

def votes (pool : DeregisterVotePool) (group : DeregisterGroup) : List DeregisterVote :=
  (pool.deregisters group).map (·.vote)

@[simp] theorem empty_votes (group : DeregisterGroup) : empty.votes group = [] := rfl

@[simp] theorem set_votes (pool : DeregisterVotePool) (group other : DeregisterGroup)
    (entries : List PoolEntry) :
    (pool.set group entries).votes other =
      if other = group then entries.map (·.vote) else pool.votes other := by
  by_cases same : other = group <;> simp [set, votes, same]

@[simp] theorem retain_votes (pool : DeregisterVotePool) (keep : DeregisterGroup → Bool)
    (group : DeregisterGroup) :
    (pool.retain keep).votes group = if keep group then pool.votes group else [] := by
  by_cases kept : keep group <;> simp [retain, votes, kept]

end DeregisterVotePool

def deregisterOf (group : DeregisterGroup) (entries : List PoolEntry) :
    TxExtraFullNodeDeregister :=
  { blockHeight := group.blockHeight
    fullNodeIndex := group.fullNodeIndex
    votes := entries.map (·.vote.txVote) }

/-- What `add_vote` returns, with what it writes through its references. -/
structure AddVoteResult where
  added : Bool
  vvc : VoteVerificationContext
  tx : Transaction
  pool : DeregisterVotePool

section Pool

variable (crypto : Primitives)

def addVote (hfVersion : Nat) (newVote : DeregisterVote) (vvc : VoteVerificationContext)
    (quorumState : QuorumState) (tx : Transaction) (pool : DeregisterVotePool) :
    AddVoteResult :=
  match verifyVote crypto newVote vvc quorumState with
  | (false, vvc) => ⟨false, vvc, tx, pool⟩
  | (true, vvc) =>
      let entries := pool.deregisters newVote.group
      if entries.all (·.vote.votersQuorumIndex != newVote.votersQuorumIndex) then
        let entries := entries ++ [⟨0, newVote⟩]
        let pool := pool.set newVote.group entries
        let vvc := { vvc with addedToPool := true }
        if minVotesToKickFullNode ≤ entries.length then
          match addFullNodeDeregisterToTxExtra tx.extra (deregisterOf newVote.group entries) with
          | (true, extra) =>
              ⟨true, { vvc with fullTxDeregisterMade := true },
                { tx with
                  version := Transaction.getMaxVersionForHf hfVersion
                  type := .deregister
                  extra := extra }, pool⟩
          | (false, _) => ⟨true, { vvc with fullTxDeregisterMade := false }, tx, pool⟩
        else ⟨true, vvc, tx, pool⟩
      else ⟨true, vvc, tx, pool⟩

/-- The relay-time update of `set_relayed` in one group: the first entry of
the voter. -/
def markRelayed (votersQuorumIndex now : Nat) : List PoolEntry → List PoolEntry
  | [] => []
  | entry :: rest =>
      if entry.vote.votersQuorumIndex = votersQuorumIndex then
        { entry with timeLastSentP2p := now } :: rest
      else entry :: markRelayed votersQuorumIndex now rest

def setRelayed (votes : List DeregisterVote) (now : Nat) (pool : DeregisterVotePool) :
    DeregisterVotePool :=
  votes.foldl (fun pool vote =>
    pool.set vote.group (markRelayed vote.votersQuorumIndex now (pool.deregisters vote.group)))
    pool

def removeExpiredVotes (height : Nat) (pool : DeregisterVotePool) : DeregisterVotePool :=
  if height < voteLifetimeByHeight then pool
  else pool.retain fun group => !decide (group.blockHeight < height - voteLifetimeByHeight)

def removeUsedVote (pool : DeregisterVotePool) (tx : Transaction) : DeregisterVotePool :=
  if tx.getType ≠ .deregister then pool
  else
    match getFullNodeDeregisterFromTxExtra tx.extra with
    | none => pool
    | some deregister =>
        pool.set { blockHeight := deregister.blockHeight, fullNodeIndex := deregister.fullNodeIndex } []

def removeUsedVotes (txs : List Transaction) (pool : DeregisterVotePool) : DeregisterVotePool :=
  txs.foldl removeUsedVote pool

/-- A call on the pool, as `core` makes them: `add_vote` gets a fresh
verification context and a default transaction. -/
inductive PoolOp
  | addVote (hfVersion : Nat) (vote : DeregisterVote) (quorumState : QuorumState)
  | setRelayed (votes : List DeregisterVote) (now : Nat)
  | removeExpiredVotes (height : Nat)
  | removeUsedVotes (txs : List Transaction)

def applyPoolOp (pool : DeregisterVotePool) : PoolOp → DeregisterVotePool
  | .addVote hfVersion vote quorumState =>
      (addVote crypto hfVersion vote {} quorumState Transaction.null pool).pool
  | .setRelayed votes now => setRelayed votes now pool
  | .removeExpiredVotes height => removeExpiredVotes height pool
  | .removeUsedVotes txs => removeUsedVotes txs pool

def runPool (pool : DeregisterVotePool) (ops : List PoolOp) : DeregisterVotePool :=
  ops.foldl (applyPoolOp crypto) pool

/-! ### What one call does to a group -/

theorem verifyVotesHelper_of_accepted {deregister : TxExtraFullNodeDeregister}
    {vvc : VoteVerificationContext} {quorumState : QuorumState}
    (accepted : (verifyVotesHelper crypto deregister vvc quorumState).1 = true) :
    verifyVotesHelper crypto deregister vvc quorumState = (true, vvc) := by
  unfold verifyVotesHelper at accepted ⊢
  split
  · simp_all
  · split
    · simp_all
    · simp_all
    · split <;> simp_all

theorem verifyVotesHelper_of_rejected {deregister : TxExtraFullNodeDeregister}
    {vvc : VoteVerificationContext} {quorumState : QuorumState}
    (rejected : (verifyVotesHelper crypto deregister vvc quorumState).1 = false) :
    ∃ checked : VoteVerificationContext,
      verifyVotesHelper crypto deregister vvc quorumState = (false, checked) ∧
        checked.fullTxDeregisterMade = vvc.fullTxDeregisterMade := by
  unfold verifyVotesHelper at rejected ⊢
  split
  · exact ⟨_, rfl, rfl⟩
  · split
    · exact ⟨_, rfl, rfl⟩
    · exact ⟨_, rfl, rfl⟩
    · split
      · simp_all
      · exact ⟨_, rfl, rfl⟩

end Pool

section AddVote

variable {crypto : Primitives} {newVote : DeregisterVote} {quorumState : QuorumState}
  (hfVersion : Nat) (vvc : VoteVerificationContext) (tx : Transaction) (pool : DeregisterVotePool)

theorem addVote_of_not_valid (invalid : ¬VoteValid crypto quorumState newVote) :
    let result := addVote crypto hfVersion newVote vvc quorumState tx pool
    result.pool = pool ∧ result.tx = tx ∧
      result.vvc.fullTxDeregisterMade = vvc.fullTxDeregisterMade := by
  have rejected : (verifyVote crypto newVote vvc quorumState).1 = false := by
    cases accepted : (verifyVote crypto newVote vvc quorumState).1 with
    | false => rfl
    | true =>
        exact absurd ((verifyVote_fst_eq_true_iff crypto newVote vvc quorumState).mp accepted) invalid
  obtain ⟨checked, verified, unchanged⟩ := verifyVotesHelper_of_rejected crypto rejected
  simp only [addVote, verifyVote] at verified ⊢
  rw [verified]
  exact ⟨rfl, rfl, unchanged⟩

theorem addVote_of_duplicate (valid : VoteValid crypto quorumState newVote)
    (duplicate : ∃ entry ∈ pool.deregisters newVote.group,
      entry.vote.votersQuorumIndex = newVote.votersQuorumIndex) :
    let result := addVote crypto hfVersion newVote vvc quorumState tx pool
    result.pool = pool ∧ result.tx = tx ∧
      result.vvc.fullTxDeregisterMade = vvc.fullTxDeregisterMade := by
  have verified := verifyVotesHelper_of_accepted crypto
    ((verifyVote_fst_eq_true_iff crypto newVote vvc quorumState).mpr valid)
  have notUnique : (pool.deregisters newVote.group).all
      (·.vote.votersQuorumIndex != newVote.votersQuorumIndex) = false := by
    obtain ⟨entry, member, same⟩ := duplicate
    simpa using ⟨entry, member, same⟩
  simp only [addVote, verifyVote] at verified ⊢
  rw [verified]
  simp [notUnique]

theorem addVote_of_fresh (valid : VoteValid crypto quorumState newVote)
    (fresh : ∀ entry ∈ pool.deregisters newVote.group,
      entry.vote.votersQuorumIndex ≠ newVote.votersQuorumIndex) :
    let result := addVote crypto hfVersion newVote vvc quorumState tx pool
    let entries := pool.deregisters newVote.group ++ [⟨0, newVote⟩]
    result.pool = pool.set newVote.group entries ∧
      (minVotesToKickFullNode ≤ entries.length →
        result.vvc.fullTxDeregisterMade = true ∧
          result.tx.extra = tx.extra ++ [.fullNodeDeregister (deregisterOf newVote.group entries)]) ∧
      (entries.length < minVotesToKickFullNode →
        result.tx = tx ∧ result.vvc.fullTxDeregisterMade = vvc.fullTxDeregisterMade) := by
  have verified := verifyVotesHelper_of_accepted crypto
    ((verifyVote_fst_eq_true_iff crypto newVote vvc quorumState).mpr valid)
  have unique : (pool.deregisters newVote.group).all
      (·.vote.votersQuorumIndex != newVote.votersQuorumIndex) = true := by
    simpa using fresh
  simp only [addVote, verifyVote] at verified ⊢
  rw [verified]
  simp only [unique, if_true]
  by_cases enough : minVotesToKickFullNode ≤ (pool.deregisters newVote.group).length + 1
  · simp [enough, addFullNodeDeregisterToTxExtra]
  · simp [enough]

theorem addVote_votes (group : DeregisterGroup) :
    (addVote crypto hfVersion newVote vvc quorumState tx pool).pool.votes group =
        pool.votes group ∨
      (newVote.group = group ∧ VoteValid crypto quorumState newVote ∧
        newVote.votersQuorumIndex ∉ (pool.votes group).map (·.votersQuorumIndex) ∧
        (addVote crypto hfVersion newVote vvc quorumState tx pool).pool.votes group =
          pool.votes group ++ [newVote]) := by
  by_cases valid : VoteValid crypto quorumState newVote
  · by_cases duplicate : ∃ entry ∈ pool.deregisters newVote.group,
        entry.vote.votersQuorumIndex = newVote.votersQuorumIndex
    · left
      rw [(addVote_of_duplicate hfVersion vvc tx pool valid duplicate).1]
    · have fresh : ∀ entry ∈ pool.deregisters newVote.group,
          entry.vote.votersQuorumIndex ≠ newVote.votersQuorumIndex := by
        simpa using duplicate
      rw [(addVote_of_fresh hfVersion vvc tx pool valid fresh).1]
      by_cases same : group = newVote.group
      · subst same
        right
        refine ⟨rfl, valid, ?_, by simp [DeregisterVotePool.votes, DeregisterVotePool.set]⟩
        simpa [DeregisterVotePool.votes] using fresh
      · left
        simp [same]
  · left
    rw [(addVote_of_not_valid hfVersion vvc tx pool valid).1]

end AddVote

section Calls

variable {crypto : Primitives} {pool : DeregisterVotePool}

theorem markRelayed_votes (votersQuorumIndex now : Nat) (entries : List PoolEntry) :
    (markRelayed votersQuorumIndex now entries).map (·.vote) = entries.map (·.vote) := by
  induction entries with
  | nil => rfl
  | cons entry rest ih =>
      by_cases found : entry.vote.votersQuorumIndex = votersQuorumIndex
      · simp [markRelayed, found]
      · simp [markRelayed, found, ih]

theorem setRelayed_votes (votes : List DeregisterVote) (now : Nat) (group : DeregisterGroup) :
    (setRelayed votes now pool).votes group = pool.votes group := by
  induction votes generalizing pool with
  | nil => rfl
  | cons vote rest ih =>
      simp only [setRelayed, List.foldl_cons] at ih ⊢
      rw [ih, DeregisterVotePool.set_votes]
      by_cases same : group = vote.group
      · subst same
        simp [markRelayed_votes, DeregisterVotePool.votes]
      · simp [same]

theorem removeExpiredVotes_votes (height : Nat) (group : DeregisterGroup) :
    (removeExpiredVotes height pool).votes group = pool.votes group ∨
      (removeExpiredVotes height pool).votes group = [] := by
  unfold removeExpiredVotes
  split
  · left; rfl
  · rw [DeregisterVotePool.retain_votes]
    split
    · left; rfl
    · right; rfl

theorem removeUsedVotes_votes (txs : List Transaction) (group : DeregisterGroup) :
    (removeUsedVotes txs pool).votes group = pool.votes group ∨
      (removeUsedVotes txs pool).votes group = [] := by
  unfold removeUsedVotes
  apply List.foldlRecOn (motive := fun result : DeregisterVotePool =>
    result.votes group = pool.votes group ∨ result.votes group = [])
  · left; rfl
  · intro erased kept tx _
    unfold removeUsedVote
    split
    · exact kept
    · split
      · exact kept
      · rw [DeregisterVotePool.set_votes]
        split
        · right; rfl
        · exact kept

theorem applyPoolOp_votes (op : PoolOp) (group : DeregisterGroup) :
    (applyPoolOp crypto pool op).votes group = pool.votes group ∨
      (applyPoolOp crypto pool op).votes group = [] ∨
      ∃ hfVersion vote quorumState, op = .addVote hfVersion vote quorumState ∧
        vote.group = group ∧ VoteValid crypto quorumState vote ∧
        vote.votersQuorumIndex ∉ (pool.votes group).map (·.votersQuorumIndex) ∧
        (applyPoolOp crypto pool op).votes group = pool.votes group ++ [vote] := by
  cases op with
  | addVote hfVersion vote quorumState =>
      rcases addVote_votes hfVersion {} Transaction.null pool group with kept | ⟨ofGroup, valid, fresh, appended⟩
      · exact .inl kept
      · exact .inr (.inr ⟨hfVersion, vote, quorumState, rfl, ofGroup, valid, fresh, appended⟩)
  | setRelayed votes now => exact .inl (setRelayed_votes votes now group)
  | removeExpiredVotes height =>
      rcases removeExpiredVotes_votes height group with kept | emptied
      · exact .inl kept
      · exact .inr (.inl emptied)
  | removeUsedVotes txs =>
      rcases removeUsedVotes_votes txs group with kept | emptied
      · exact .inl kept
      · exact .inr (.inl emptied)

/-! ### Invariants of every run -/

theorem runPool_preserves (allowed : PoolOp → Prop)
    (property : DeregisterGroup → List DeregisterVote → Prop)
    (emptied : ∀ group, property group [])
    (appended : ∀ hfVersion vote quorumState, allowed (.addVote hfVersion vote quorumState) →
      ∀ votes, VoteValid crypto quorumState vote →
        vote.votersQuorumIndex ∉ votes.map (·.votersQuorumIndex) →
        property vote.group votes → property vote.group (votes ++ [vote]))
    (ops : List PoolOp) (allAllowed : ∀ op ∈ ops, allowed op)
    (initially : ∀ group, property group (pool.votes group)) :
    ∀ group, property group ((runPool crypto pool ops).votes group) := by
  unfold runPool
  apply List.foldlRecOn (motive := fun result : DeregisterVotePool => ∀ group, property group (result.votes group))
  · exact initially
  · intro before holds op member group
    rcases applyPoolOp_votes op group with kept | cleared | ⟨hfVersion, vote, quorumState,
        rfl, rfl, valid, fresh, grown⟩
    · rw [kept]
      exact holds group
    · rw [cleared]
      exact emptied group
    · rw [grown]
      exact appended hfVersion vote quorumState (allAllowed _ member) _ valid fresh
        (holds vote.group)

/-- The calls of a run that check each vote against `quorumOf` at its height,
as `core::add_deregister_vote` does with `get_quorum_state`. -/
def PoolOp.UsesQuorums (quorumOf : Nat → QuorumState) : PoolOp → Prop
  | .addVote _ vote quorumState => quorumState = quorumOf vote.blockHeight
  | _ => True

def PoolOp.QuorumsAtMost (size : Nat) : PoolOp → Prop
  | .addVote _ _ quorumState => quorumState.quorumNodes.length ≤ size
  | _ => True

theorem voteValid_iff {quorumState : QuorumState} {vote : DeregisterVote} :
    VoteValid crypto quorumState vote ↔
      vote.fullNodeIndex < quorumState.nodesToTest.length ∧
        vote.votersQuorumIndex < quorumState.quorumNodes.length ∧
        crypto.checkSignature (makeHashFrom crypto vote.blockHeight vote.fullNodeIndex)
          (quorumState.quorumNodes.getD vote.votersQuorumIndex nullPkey) vote.signature = true := by
  constructor
  · intro valid
    exact ⟨valid.fullNodeIndexInBounds, valid.votersInBounds _ List.mem_cons_self,
      valid.signed _ List.mem_cons_self⟩
  · rintro ⟨tested, inBounds, signed⟩
    exact ⟨tested, by simpa [DeregisterVote.asDeregister, DeregisterVote.txVote] using inBounds,
      by simp [DeregisterVote.asDeregister], by
        simpa [DeregisterVote.asDeregister, DeregisterVote.txVote] using signed⟩

theorem votesValid_of_votes {quorumState : QuorumState} (group : DeregisterGroup)
    (votes : List DeregisterVote) (tested : group.fullNodeIndex < quorumState.nodesToTest.length)
    (ofGroup : ∀ vote ∈ votes, vote.group = group)
    (valid : ∀ vote ∈ votes, VoteValid crypto quorumState vote)
    (distinct : (votes.map (·.votersQuorumIndex)).Nodup) :
    VotesValid crypto quorumState
      { blockHeight := group.blockHeight, fullNodeIndex := group.fullNodeIndex
        votes := votes.map DeregisterVote.txVote } := by
  refine ⟨tested, ?_, ?_, ?_⟩
  · simp only [List.mem_map]
    rintro _ ⟨vote, member, rfl⟩
    exact (voteValid_iff.1 (valid vote member)).2.1
  · simpa [List.map_map, Function.comp_def, DeregisterVote.txVote] using distinct
  · simp only [List.mem_map]
    rintro _ ⟨vote, member, rfl⟩
    have sameGroup := ofGroup vote member
    obtain ⟨-, -, signed⟩ := voteValid_iff.1 (valid vote member)
    rw [← sameGroup]
    exact signed

theorem deregisterOf_eq (group : DeregisterGroup) (entries : List PoolEntry) :
    deregisterOf group entries =
      { blockHeight := group.blockHeight, fullNodeIndex := group.fullNodeIndex
        votes := (entries.map (·.vote)).map DeregisterVote.txVote } := by
  simp [deregisterOf, List.map_map, Function.comp_def]

end Calls

theorem votersDistinct_append {votes : List DeregisterVote} {vote : DeregisterVote}
    (distinct : (votes.map (·.votersQuorumIndex)).Nodup)
    (fresh : vote.votersQuorumIndex ∉ votes.map (·.votersQuorumIndex)) :
    ((votes ++ [vote]).map (·.votersQuorumIndex)).Nodup := by
  rw [List.map_append, List.nodup_append]
  refine ⟨distinct, List.nodup_singleton _, ?_⟩
  intro index member other otherMember same
  rw [List.map_singleton, List.mem_singleton] at otherMember
  rw [same, otherMember] at member
  exact fresh member

/-! ### The protocol over every run -/

section Runs

variable (crypto : Primitives)

/-- The pool never holds two votes of one voter for one group, whatever the
calls and their order. -/
theorem runPool_votersDistinct (ops : List PoolOp) (group : DeregisterGroup) :
    (((runPool crypto .empty ops).votes group).map (·.votersQuorumIndex)).Nodup := by
  apply runPool_preserves (fun _ => True)
    (fun _ votes => (votes.map (·.votersQuorumIndex)).Nodup)
  · intro group
    exact List.nodup_nil
  · intro _ _ _ _ votes _ fresh distinct
    exact votersDistinct_append distinct fresh
  · simp
  · intro group
    exact List.nodup_nil

theorem runPool_ofGroup (ops : List PoolOp) (group : DeregisterGroup) :
    ∀ vote ∈ (runPool crypto .empty ops).votes group, vote.group = group := by
  apply runPool_preserves (fun _ => True) (fun group votes => ∀ vote ∈ votes, vote.group = group)
  · simp
  · intro _ vote _ _ votes _ _ ofGroup pooled member
    rcases List.mem_append.mp member with old | new
    · exact ofGroup pooled old
    · rw [List.mem_singleton.mp new]
  · simp
  · simp

theorem runPool_votersBelow (size : Nat) (ops : List PoolOp)
    (smallQuorums : ∀ op ∈ ops, op.QuorumsAtMost size) (group : DeregisterGroup) :
    ∀ vote ∈ (runPool crypto .empty ops).votes group, vote.votersQuorumIndex < size := by
  apply runPool_preserves (PoolOp.QuorumsAtMost size)
    (fun _ votes => ∀ vote ∈ votes, vote.votersQuorumIndex < size)
  · simp
  · intro _ vote quorumState smallQuorum votes valid _ bounded pooled member
    rcases List.mem_append.mp member with old | new
    · exact bounded pooled old
    · rw [List.mem_singleton.mp new]
      have inQuorum := (voteValid_iff.1 valid).2.1
      exact Nat.lt_of_lt_of_le inQuorum smallQuorum
  · exact smallQuorums
  · simp

theorem runPool_verified (quorumOf : Nat → QuorumState) (ops : List PoolOp)
    (consistent : ∀ op ∈ ops, op.UsesQuorums quorumOf) (group : DeregisterGroup) :
    ∀ vote ∈ (runPool crypto .empty ops).votes group,
      VoteValid crypto (quorumOf group.blockHeight) vote := by
  apply runPool_preserves (PoolOp.UsesQuorums quorumOf)
    (fun group votes => ∀ vote ∈ votes, VoteValid crypto (quorumOf group.blockHeight) vote)
  · simp
  · intro _ vote quorumState sameQuorum votes valid _ verified pooled member
    rcases List.mem_append.mp member with old | new
    · exact verified pooled old
    · rw [List.mem_singleton.mp new]
      exact sameQuorum ▸ valid
  · exact consistent
  · simp

/-- No call of `add_vote` ever makes a deregister transaction while votes are
checked against quorums of at most `QUORUM_SIZE` members: a group then holds
at most `QUORUM_SIZE` distinct voters, fewer than
`MIN_VOTES_TO_KICK_FULL_NODE`. -/
theorem addVote_never_makes_deregister (ops : List PoolOp)
    (smallQuorums : ∀ op ∈ ops, op.QuorumsAtMost quorumSize)
    (hfVersion : Nat) (vote : DeregisterVote) (quorumState : QuorumState) (tx : Transaction)
    (smallQuorum : quorumState.quorumNodes.length ≤ quorumSize) :
    let result := addVote crypto hfVersion vote {} quorumState tx (runPool crypto .empty ops)
    result.vvc.fullTxDeregisterMade = false ∧ result.tx = tx := by
  intro result
  by_cases valid : VoteValid crypto quorumState vote
  · by_cases duplicate : ∃ entry ∈ (runPool crypto .empty ops).deregisters vote.group,
        entry.vote.votersQuorumIndex = vote.votersQuorumIndex
    · obtain ⟨-, sameTx, sameMade⟩ := addVote_of_duplicate hfVersion {} tx
        (runPool crypto .empty ops) valid duplicate
      exact ⟨sameMade, sameTx⟩
    · have fresh : ∀ entry ∈ (runPool crypto .empty ops).deregisters vote.group,
          entry.vote.votersQuorumIndex ≠ vote.votersQuorumIndex := by
        simpa using duplicate
      have grownDistinct := votersDistinct_append
        (runPool_votersDistinct crypto ops vote.group)
        (by simpa [DeregisterVotePool.votes] using fresh)
      have grownBounded : ∀ index ∈ ((runPool crypto .empty ops).votes vote.group ++ [vote]).map
          (·.votersQuorumIndex), index < quorumSize := by
        intro index member
        obtain ⟨pooled, pooledMember, rfl⟩ := List.mem_map.mp member
        rcases List.mem_append.mp pooledMember with old | new
        · exact runPool_votersBelow crypto quorumSize ops smallQuorums vote.group pooled old
        · rw [List.mem_singleton.mp new]
          exact Nat.lt_of_lt_of_le (voteValid_iff.mp valid).2.1 smallQuorum
      have atMost := length_le_of_nodup_of_lt grownDistinct grownBounded
      have tooFew : ((runPool crypto .empty ops).deregisters vote.group ++ [PoolEntry.mk 0 vote]).length <
          minVotesToKickFullNode := by
        simp only [List.length_map, List.length_append, DeregisterVotePool.votes,
          List.length_singleton] at atMost
        simp only [List.length_append, List.length_singleton, minVotesToKickFullNode]
        simp only [quorumSize] at atMost
        omega
      obtain ⟨-, -, withoutDeregister⟩ := addVote_of_fresh hfVersion {} tx
        (runPool crypto .empty ops) valid fresh
      obtain ⟨sameTx, sameMade⟩ := withoutDeregister tooFew
      exact ⟨sameMade, sameTx⟩
  · obtain ⟨-, sameTx, sameMade⟩ := addVote_of_not_valid hfVersion {} tx
      (runPool crypto .empty ops) valid
    exact ⟨sameMade, sameTx⟩

/-- Four members of a five-member quorum have voted for a group; the fifth
vote completes the group and still makes no deregister. -/
theorem addVote_without_deregister_after_whole_quorum :
    let crypto : Primitives :=
      ⟨fun _ => nullHash, fun _ _ _ => true, fun _ => true, fun _ _ => none, fun _ _ _ => none,
        fun secret => (nullPkey, secret)⟩
    let quorumState : QuorumState := ⟨List.replicate 5 nullPkey, [nullPkey]⟩
    let votes := (List.range 5).map fun index => (⟨100, 0, index, Pod.zero 64⟩ : DeregisterVote)
    let ops := (votes.take 4).map fun vote => PoolOp.addVote 10 vote quorumState
    (∀ op ∈ ops, op.QuorumsAtMost quorumSize) ∧
      quorumState.quorumNodes.length ≤ quorumSize ∧
      (addVote crypto 10 (votes.getD 4 ⟨100, 0, 4, Pod.zero 64⟩) {} quorumState Transaction.null
          (runPool crypto .empty ops)).vvc.fullTxDeregisterMade = false := by
  intro crypto quorumState votes ops
  have smallQuorums : ∀ op ∈ ops, op.QuorumsAtMost quorumSize := by
    intro op member
    obtain ⟨vote, -, rfl⟩ := List.mem_map.mp member
    simp [PoolOp.QuorumsAtMost, quorumState, quorumSize]
  have smallQuorum : quorumState.quorumNodes.length ≤ quorumSize := by
    simp [quorumState, quorumSize]
  exact ⟨smallQuorums, smallQuorum,
    (addVote_never_makes_deregister crypto ops smallQuorums 10 _ quorumState Transaction.null
      smallQuorum).1⟩

/-- Every deregister that `add_vote` makes passes `verify_deregister` against
the quorum state its votes were checked against. -/
theorem addVote_deregister_verifies (quorumOf : Nat → QuorumState) (ops : List PoolOp)
    (consistent : ∀ op ∈ ops, op.UsesQuorums quorumOf)
    (hfVersion : Nat) (vote : DeregisterVote) (tx : Transaction) :
    let result := addVote crypto hfVersion vote {} (quorumOf vote.blockHeight) tx
      (runPool crypto .empty ops)
    result.vvc.fullTxDeregisterMade = true →
      ∃ deregister, result.tx.extra = tx.extra ++ [.fullNodeDeregister deregister] ∧
        (verifyDeregister crypto deregister {} (quorumOf vote.blockHeight)).1 = true := by
  intro result made
  by_cases valid : VoteValid crypto (quorumOf vote.blockHeight) vote
  · by_cases duplicate : ∃ entry ∈ (runPool crypto .empty ops).deregisters vote.group,
        entry.vote.votersQuorumIndex = vote.votersQuorumIndex
    · obtain ⟨-, -, sameMade⟩ := addVote_of_duplicate hfVersion {} tx
        (runPool crypto .empty ops) valid duplicate
      exact absurd (sameMade.symm.trans made) Bool.false_ne_true
    · have fresh : ∀ entry ∈ (runPool crypto .empty ops).deregisters vote.group,
          entry.vote.votersQuorumIndex ≠ vote.votersQuorumIndex := by
        simpa using duplicate
      obtain ⟨-, withDeregister, withoutDeregister⟩ := addVote_of_fresh hfVersion {} tx
        (runPool crypto .empty ops) valid fresh
      by_cases enough : minVotesToKickFullNode ≤
          ((runPool crypto .empty ops).deregisters vote.group ++ [PoolEntry.mk 0 vote]).length
      · have grownVotes : ((runPool crypto .empty ops).deregisters vote.group ++
            [PoolEntry.mk 0 vote]).map (·.vote) =
            (runPool crypto .empty ops).votes vote.group ++ [vote] := by
          simp [DeregisterVotePool.votes]
        refine ⟨_, (withDeregister enough).2, ?_⟩
        rw [verifyDeregister_fst_eq_true_iff, deregisterOf_eq, grownVotes]
        refine ⟨by simpa [DeregisterVotePool.votes] using enough, votesValid_of_votes vote.group _
          (voteValid_iff.mp valid).1 ?_ ?_ ?_⟩
        · intro pooled member
          rcases List.mem_append.mp member with old | new
          · exact runPool_ofGroup crypto ops vote.group pooled old
          · rw [List.mem_singleton.mp new]
        · intro pooled member
          rcases List.mem_append.mp member with old | new
          · exact runPool_verified crypto quorumOf ops consistent vote.group pooled old
          · rw [List.mem_singleton.mp new]
            exact valid
        · exact votersDistinct_append (runPool_votersDistinct crypto ops vote.group)
            (by simpa [DeregisterVotePool.votes] using fresh)
      · obtain ⟨-, sameMade⟩ := withoutDeregister (by omega)
        exact absurd (sameMade.symm.trans made) Bool.false_ne_true
  · obtain ⟨-, -, sameMade⟩ := addVote_of_not_valid hfVersion {} tx
      (runPool crypto .empty ops) valid
    exact absurd (sameMade.symm.trans made) Bool.false_ne_true

/-- With a seven-member quorum, six members have voted for a group and the
seventh vote arrives. -/
theorem addVote_deregister_verifies_after_six_votes :
    let crypto : Primitives :=
      ⟨fun _ => nullHash, fun _ _ _ => true, fun _ => true, fun _ _ => none, fun _ _ _ => none,
        fun secret => (nullPkey, secret)⟩
    let quorumOf : Nat → QuorumState := fun _ => ⟨List.replicate 7 nullPkey, [nullPkey]⟩
    let votes := (List.range 7).map fun index => (⟨100, 0, index, Pod.zero 64⟩ : DeregisterVote)
    let ops := (votes.take 6).map fun vote => PoolOp.addVote 10 vote (quorumOf vote.blockHeight)
    let vote : DeregisterVote := ⟨100, 0, 6, Pod.zero 64⟩
    (∀ op ∈ ops, op.UsesQuorums quorumOf) ∧
      let result := addVote crypto 10 vote {} (quorumOf vote.blockHeight) Transaction.null
        (runPool crypto .empty ops)
      result.vvc.fullTxDeregisterMade = true ∧
        ∃ deregister, result.tx.extra = Transaction.null.extra ++ [.fullNodeDeregister deregister] ∧
          (verifyDeregister crypto deregister {} (quorumOf vote.blockHeight)).1 = true := by
  intro crypto quorumOf votes ops vote
  have consistent : ∀ op ∈ ops, op.UsesQuorums quorumOf := by
    intro op member
    obtain ⟨pooled, -, rfl⟩ := List.mem_map.mp member
    simp [PoolOp.UsesQuorums]
  have made : (addVote crypto 10 vote {} (quorumOf vote.blockHeight) Transaction.null
      (runPool crypto .empty ops)).vvc.fullTxDeregisterMade = true := by
    decide
  exact ⟨consistent, made, addVote_deregister_verifies crypto quorumOf ops consistent 10 vote
    Transaction.null made⟩

end Runs

end Antd.FullNodes
