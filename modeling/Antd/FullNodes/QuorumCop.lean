import Antd.FullNodes.Deregister
import Antd.FullNodes.Rules

/-! Uptime proofs in `quorum_cop` (`full_node_quorum_cop.cpp`). A node that
sent an accepted proof recently has an entry in `m_uptime_proof_seen`;
`block_added` votes off every node to test that has none, and
`prune_uptime_proof` drops the entries that are too old.

`handle_uptime_proof` reads the entry with `operator[]`, which inserts a zero
entry for a node that has none, before it checks the signature: a rejected
proof can leave an entry behind (`handleUptimeProof_cases`), and a forged proof
for a registered node keeps it from being voted off until the next prune
(`handleUptimeProof_forged_proof_exempts`). An entry with a time other than 0 was
still put there by a proof with a valid signature (`runCop_vouched`). -/

namespace Antd.FullNodes

open Antd.Crypto

def uptimeProofFrequencyInSeconds : UInt64 := 60 * 60

def uptimeProofBufferInSeconds : UInt64 := 5 * 60

def uptimeProofMaxTimeInSeconds : UInt64 :=
  uptimeProofFrequencyInSeconds * 2 + uptimeProofBufferInSeconds

def networkVersion10Bulletproofs : Nat := 10

/-- `NOTIFY_UPTIME_PROOF::request`, with the fields `handle_uptime_proof` reads. -/
structure UptimeProof where
  snodeVersionMajor : UInt16
  timestamp : UInt64
  pubkey : PublicKey
  sig : Signature

/-- What `handle_uptime_proof` reads from the clock and the core: the time of
the call, whether a key is a registered node, and the hard-fork version at the
chain height. -/
structure UptimeContext where
  now : UInt64
  isFullNode : PublicKey → Bool
  hardForkVersion : Nat

/-- `m_uptime_proof_seen`, as the value under each key. -/
abbrev UptimeProofSeen := PublicKey → Option UInt64

/-- `std::unordered_map::operator[]`: the value under `key`, after inserting a
value-initialised one when there is none. -/
def findOrInsert (seen : UptimeProofSeen) (key : PublicKey) : UInt64 × UptimeProofSeen :=
  match seen key with
  | some lastSeen => (lastSeen, seen)
  | none => (0, Function.update seen key (some 0))

section Handling

variable (crypto : Primitives)

/-- `make_hash`: `cn_fast_hash` of the 44 bytes `"SUP"`, its terminating zero,
the key and the timestamp. -/
def makeHash (pubkey : PublicKey) (timestamp : UInt64) : Hash :=
  crypto.cnFastHash ([0x53, 0x55, 0x50, 0] ++ pubkey.data ++ LittleEndian.toBytes 8 timestamp.toNat)

/-- `quorum_cop::handle_uptime_proof`: whether the proof is accepted, and the
entries after the call. -/
def handleUptimeProof (context : UptimeContext) (proof : UptimeProof)
    (seen : UptimeProofSeen) : Bool × UptimeProofSeen :=
  let now := context.now
  if proof.timestamp < now - uptimeProofBufferInSeconds ∨
      proof.timestamp > now + uptimeProofBufferInSeconds then (false, seen)
  else if !context.isFullNode proof.pubkey then (false, seen)
  else if context.hardForkVersion = networkVersion11InfiniteStaking ∧
      proof.snodeVersionMajor < 3 then (false, seen)
  else if context.hardForkVersion = networkVersion10Bulletproofs ∧
      proof.snodeVersionMajor < 2 then (false, seen)
  else
    let (lastSeen, seen) := findOrInsert seen proof.pubkey
    if lastSeen ≥ now - uptimeProofFrequencyInSeconds / 2 then (false, seen)
    else if !crypto.checkSignature (makeHash crypto proof.pubkey proof.timestamp) proof.pubkey
        proof.sig then (false, seen)
    else (true, Function.update seen proof.pubkey (some now))

end Handling

/-- `quorum_cop::prune_uptime_proof`: drops the entries older than
`UPTIME_PROOF_MAX_TIME_IN_SECONDS`. -/
def pruneUptimeProof (now : UInt64) (seen : UptimeProofSeen) : UptimeProofSeen :=
  let pruneFromTimestamp := now - uptimeProofMaxTimeInSeconds
  fun key => (seen key).filter fun lastSeen => !decide (lastSeen < pruneFromTimestamp)

/-- The positions of `nodes_to_test` that `block_added` votes off: those with
no entry. -/
def nodesToVoteOff (seen : UptimeProofSeen) (state : QuorumState) : List Nat :=
  (List.range state.nodesToTest.length).filter fun nodeIndex =>
    (seen (state.nodesToTest.getD nodeIndex nullPkey)).isNone

/-! ### What one call does -/

section Steps

variable {crypto : Primitives} {context : UptimeContext} {proof : UptimeProof}
  {seen after : UptimeProofSeen} {accepted : Bool}

theorem findOrInsert_cases {key : PublicKey} {lastSeen : UInt64} {entries : UptimeProofSeen}
    (found : findOrInsert seen key = (lastSeen, entries)) :
    entries = seen ∨ seen key = none ∧ entries = Function.update seen key (some 0) := by
  unfold findOrInsert at found
  split at found
  · cases found
    exact Or.inl rfl
  · rename_i absent
    cases found
    exact Or.inr ⟨absent, rfl⟩

theorem handleUptimeProof_cases
    (handled : handleUptimeProof crypto context proof seen = (accepted, after)) :
    accepted = false ∧ after = seen ∨
      accepted = false ∧ seen proof.pubkey = none ∧
        after = Function.update seen proof.pubkey (some 0) ∨
      accepted = true ∧
        crypto.checkSignature (makeHash crypto proof.pubkey proof.timestamp) proof.pubkey
          proof.sig = true ∧
        after = Function.update seen proof.pubkey (some context.now) := by
  simp only [handleUptimeProof] at handled
  by_cases late : proof.timestamp < context.now - uptimeProofBufferInSeconds ∨
      proof.timestamp > context.now + uptimeProofBufferInSeconds
  · rw [if_pos late] at handled
    cases handled
    exact Or.inl ⟨rfl, rfl⟩
  by_cases unregistered : (!context.isFullNode proof.pubkey) = true
  · rw [if_neg late, if_pos unregistered] at handled
    cases handled
    exact Or.inl ⟨rfl, rfl⟩
  by_cases oldV11 : context.hardForkVersion = networkVersion11InfiniteStaking ∧
      proof.snodeVersionMajor < 3
  · rw [if_neg late, if_neg unregistered, if_pos oldV11] at handled
    cases handled
    exact Or.inl ⟨rfl, rfl⟩
  by_cases oldV10 : context.hardForkVersion = networkVersion10Bulletproofs ∧
      proof.snodeVersionMajor < 2
  · rw [if_neg late, if_neg unregistered, if_neg oldV11, if_pos oldV10] at handled
    cases handled
    exact Or.inl ⟨rfl, rfl⟩
  rw [if_neg late, if_neg unregistered, if_neg oldV11, if_neg oldV10] at handled
  rcases lookup : findOrInsert seen proof.pubkey with ⟨lastSeen, entries⟩
  have looked := findOrInsert_cases lookup
  rw [lookup] at handled
  dsimp only at handled
  by_cases recent : lastSeen ≥ context.now - uptimeProofFrequencyInSeconds / 2
  · rw [if_pos recent] at handled
    cases handled
    rcases looked with kept | inserted
    · exact Or.inl ⟨rfl, kept⟩
    · exact Or.inr (Or.inl ⟨rfl, inserted⟩)
  rw [if_neg recent] at handled
  by_cases invalid : (!crypto.checkSignature (makeHash crypto proof.pubkey proof.timestamp)
      proof.pubkey proof.sig) = true
  · rw [if_pos invalid] at handled
    cases handled
    rcases looked with kept | inserted
    · exact Or.inl ⟨rfl, kept⟩
    · exact Or.inr (Or.inl ⟨rfl, inserted⟩)
  rw [if_neg invalid] at handled
  cases handled
  refine Or.inr (Or.inr ⟨rfl, by simpa using invalid, ?_⟩)
  rcases looked with rfl | ⟨_, rfl⟩
  · rfl
  · rw [Function.update_idem]

theorem pruneUptimeProof_some {now : UInt64} {key : PublicKey} {lastSeen : UInt64}
    (kept : pruneUptimeProof now seen key = some lastSeen) : seen key = some lastSeen := by
  simp only [pruneUptimeProof, Option.filter_eq_some_iff] at kept
  exact kept.1

end Steps

def rejectingPrimitives : Primitives where
  cnFastHash _ := nullHash
  checkSignature _ _ _ := false
  checkKey _ := true
  generateKeyDerivation _ _ := none
  derivePublicKey _ _ _ := none
  recoverKeys secret := (nullPkey, secret)

/-! ### Runs -/

/-- A call of `handle_uptime_proof` or of `prune_uptime_proof`. -/
inductive CopEvent
  | uptimeProof (context : UptimeContext) (proof : UptimeProof)
  | prune (now : UInt64)

def CopEvent.step (crypto : Primitives) (seen : UptimeProofSeen) : CopEvent → UptimeProofSeen
  | .uptimeProof context proof => (handleUptimeProof crypto context proof seen).2
  | .prune now => pruneUptimeProof now seen

def runCop (crypto : Primitives) (seen : UptimeProofSeen) (events : List CopEvent) :
    UptimeProofSeen :=
  events.foldl (CopEvent.step crypto) seen

/-- Some call of `events` brought a proof for `key` with a valid signature at
the time `lastSeen`. -/
def Vouched (crypto : Primitives) (events : List CopEvent) (key : PublicKey)
    (lastSeen : UInt64) : Prop :=
  ∃ context proof, CopEvent.uptimeProof context proof ∈ events ∧ proof.pubkey = key ∧
    context.now = lastSeen ∧
    crypto.checkSignature (makeHash crypto proof.pubkey proof.timestamp) proof.pubkey
      proof.sig = true

/-- Every entry is a zero left by `operator[]` or the time of a proof with a
valid signature among `events`. -/
def EntriesVouched (crypto : Primitives) (events : List CopEvent) (seen : UptimeProofSeen) :
    Prop :=
  ∀ key lastSeen, seen key = some lastSeen → lastSeen = 0 ∨ Vouched crypto events key lastSeen

section Runs

variable {crypto : Primitives}

theorem EntriesVouched.mono {events later : List CopEvent} {seen : UptimeProofSeen}
    (vouched : EntriesVouched crypto events seen) (grows : ∀ event ∈ events, event ∈ later) :
    EntriesVouched crypto later seen := by
  intro key lastSeen entry
  rcases vouched key lastSeen entry with zero | ⟨context, proof, member, rest⟩
  · exact Or.inl zero
  · exact Or.inr ⟨context, proof, grows _ member, rest⟩

theorem EntriesVouched.step {events : List CopEvent} {seen : UptimeProofSeen}
    (vouched : EntriesVouched crypto events seen) (event : CopEvent) :
    EntriesVouched crypto (events ++ [event]) (event.step crypto seen) := by
  have earlier := vouched.mono fun other member => List.mem_append_left [event] member
  cases event with
  | prune now =>
      intro key lastSeen entry
      exact earlier key lastSeen (pruneUptimeProof_some entry)
  | uptimeProof context proof =>
      intro key lastSeen entry
      rcases handled : handleUptimeProof crypto context proof seen with ⟨accepted, after⟩
      rw [CopEvent.step, handled] at entry
      dsimp only at entry
      rcases handleUptimeProof_cases handled with
        ⟨_, rfl⟩ | ⟨_, _, rfl⟩ | ⟨_, valid, rfl⟩
      · exact earlier key lastSeen entry
      · by_cases same : key = proof.pubkey
        · subst same
          rw [Function.update_self, Option.some.injEq] at entry
          exact Or.inl entry.symm
        · rw [Function.update_of_ne same] at entry
          exact earlier key lastSeen entry
      · by_cases same : key = proof.pubkey
        · subst same
          rw [Function.update_self, Option.some.injEq] at entry
          exact Or.inr ⟨context, proof, List.mem_append_right events (List.mem_singleton_self _),
            rfl, entry, valid⟩
        · rw [Function.update_of_ne same] at entry
          exact earlier key lastSeen entry

/-- Over any run from a state whose entries are vouched for, each entry is a
zero or the time of an earlier proof with a valid signature. -/
theorem runCop_vouched (events : List CopEvent) :
    ∀ (before : List CopEvent) (seen : UptimeProofSeen),
      EntriesVouched crypto before seen →
        EntriesVouched crypto (before ++ events) (runCop crypto seen events) := by
  induction events with
  | nil =>
      intro before seen vouched
      simpa [runCop] using vouched
  | cons event rest ih =>
      intro before seen vouched
      have moved := ih (before ++ [event]) (event.step crypto seen) (vouched.step event)
      simpa [runCop] using moved

end Runs

theorem forged_proof_run_vouched :
    EntriesVouched rejectingPrimitives ([] ++ [.uptimeProof ⟨10000, fun _ => true, 11⟩
        ⟨3, 10000, nullPkey, Pod.zero 64⟩])
      (runCop rejectingPrimitives (fun _ => none)
        [.uptimeProof ⟨10000, fun _ => true, 11⟩ ⟨3, 10000, nullPkey, Pod.zero 64⟩]) :=
  runCop_vouched _ [] (fun _ => none) fun _ _ absent => by cases absent

/-! ### A forged proof -/

/-- A proof with a bad signature, for a registered node with no entry, sent in
time and with an accepted version, is rejected but leaves a zero entry, so
that `block_added` no longer votes the node off. -/
theorem handleUptimeProof_forged_proof_exempts (crypto : Primitives) (context : UptimeContext)
    (proof : UptimeProof) (seen : UptimeProofSeen) (state : QuorumState) (nodeIndex : Nat)
    (inTime : ¬(proof.timestamp < context.now - uptimeProofBufferInSeconds ∨
      proof.timestamp > context.now + uptimeProofBufferInSeconds))
    (registered : context.isFullNode proof.pubkey = true)
    (version : ¬(context.hardForkVersion = networkVersion11InfiniteStaking ∧
        proof.snodeVersionMajor < 3) ∧
      ¬(context.hardForkVersion = networkVersion10Bulletproofs ∧ proof.snodeVersionMajor < 2))
    (unseen : seen proof.pubkey = none)
    (forged : crypto.checkSignature (makeHash crypto proof.pubkey proof.timestamp) proof.pubkey
      proof.sig = false)
    (inRange : nodeIndex < state.nodesToTest.length)
    (tested : state.nodesToTest.getD nodeIndex nullPkey = proof.pubkey) :
    handleUptimeProof crypto context proof seen =
        (false, Function.update seen proof.pubkey (some 0)) ∧
      nodeIndex ∈ nodesToVoteOff seen state ∧
      nodeIndex ∉ nodesToVoteOff (Function.update seen proof.pubkey (some 0)) state := by
  have handled : handleUptimeProof crypto context proof seen =
      (false, Function.update seen proof.pubkey (some 0)) := by
    simp only [handleUptimeProof]
    rw [if_neg inTime, if_neg (by simp [registered]), if_neg version.1, if_neg version.2]
    simp only [findOrInsert, unseen]
    split
    · rfl
    · simp [forged]
  refine ⟨handled, ?_, ?_⟩
  · rw [nodesToVoteOff, List.mem_filter, List.mem_range, tested, unseen]
    exact ⟨inRange, rfl⟩
  · rw [nodesToVoteOff, List.mem_filter, tested, Function.update_self]
    simp

theorem forged_proof_keeps_node_from_vote :
    let context : UptimeContext := ⟨10000, fun _ => true, 11⟩
    let proof : UptimeProof := ⟨3, 10000, nullPkey, Pod.zero 64⟩
    let state : QuorumState := ⟨[], [nullPkey]⟩
    handleUptimeProof rejectingPrimitives context proof (fun _ => none) =
        (false, Function.update (fun _ => none) nullPkey (some 0)) ∧
      0 ∈ nodesToVoteOff (fun _ => none) state ∧
      0 ∉ nodesToVoteOff (Function.update (fun _ => none) nullPkey (some 0)) state :=
  handleUptimeProof_forged_proof_exempts rejectingPrimitives ⟨10000, fun _ => true, 11⟩
    ⟨3, 10000, nullPkey, Pod.zero 64⟩ (fun _ => none) ⟨[], [nullPkey]⟩ 0 (by decide) rfl
    (by decide) rfl rfl (by decide) rfl

end Antd.FullNodes
