import Antd.Lib.MultiIndex

/-! `nodetool::peerlist_manager` (`src/p2p/net_peerlist.h`): the white, gray
and anchor peer lists of a node. The white and gray lists are containers
unique by address and ordered by `last_seen`; the anchors are unique by
address and ordered by `first_seen`. Addresses are a type parameter, with
`is_loopback` and `is_local` as parameters.

From a new manager, every sequence of operations keeps both lists sorted by
time, unique by address, disjoint, within their limits, and free of addresses
`is_host_allowed` refuses. But `get_peerlist_full` first resizes each output
vector by the size of its list and then pushes the entries back after that:
called with empty vectors, it returns each list after as many value-initialised
entries as the list has. -/

namespace Antd.P2p

open MultiIndex (Sorted KeysUnique Fresh)

structure PeerlistEntry (Addr : Type) where
  adr : Addr
  id : UInt64
  lastSeen : Int
  pruningSeed : UInt32
  deriving DecidableEq

def PeerlistEntry.empty {Addr : Type} [Inhabited Addr] : PeerlistEntry Addr := ⟨default, 0, 0, 0⟩

structure AnchorPeerlistEntry (Addr : Type) where
  adr : Addr
  id : UInt64
  firstSeen : Int

def p2pLocalWhitePeerlistLimit : Nat := 1000
def p2pLocalGrayPeerlistLimit : Nat := 5000

/-- The state of a `peerlist_manager`: each list in the order of its time index. -/
structure PeerlistManager (Addr : Type) where
  allowLocalIp : Bool
  peersGray : List (PeerlistEntry Addr)
  peersWhite : List (PeerlistEntry Addr)
  peersAnchor : List (AnchorPeerlistEntry Addr)

def PeerlistManager.init {Addr : Type} (allowLocalIp : Bool) : PeerlistManager Addr :=
  ⟨allowLocalIp, [], [], []⟩

/-- The operations of the manager that change its lists. -/
inductive PeerlistOp (Addr : Type) where
  | appendWithPeerWhite (ple : PeerlistEntry Addr)
  | appendWithPeerGray (ple : PeerlistEntry Addr)
  | setPeerJustSeen (peer : UInt64) (addr : Addr) (pruningSeed : UInt32) (now : Int)
  | mergePeerlist (outerBs : List (PeerlistEntry Addr))
  | removeFromPeerWhite (pe : PeerlistEntry Addr)
  | removeFromPeerGray (pe : PeerlistEntry Addr)
  | appendWithPeerAnchor (ple : AnchorPeerlistEntry Addr)
  | getAndEmptyAnchorPeerlist

section Manager

variable {Addr : Type} [DecidableEq Addr] (isLoopback isLocal : Addr → Bool)

/-- `is_host_allowed`: never a loopback address, and a local one only when
local addresses are allowed. -/
def isHostAllowed (allowLocalIp : Bool) (address : Addr) : Bool :=
  if isLoopback address then false
  else if !allowLocalIp && isLocal address then false
  else true

def trimGrayPeerlist (m : PeerlistManager Addr) : PeerlistManager Addr :=
  { m with peersGray := MultiIndex.trim p2pLocalGrayPeerlistLimit m.peersGray }

def trimWhitePeerlist (m : PeerlistManager Addr) : PeerlistManager Addr :=
  { m with peersWhite := MultiIndex.trim p2pLocalWhitePeerlistLimit m.peersWhite }

def appendWithPeerWhite (m : PeerlistManager Addr) (ple : PeerlistEntry Addr) : PeerlistManager Addr :=
  if !isHostAllowed isLoopback isLocal m.allowLocalIp ple.adr then m
  else
    let m := match MultiIndex.find? PeerlistEntry.adr ple.adr m.peersWhite with
      | none =>
          trimWhitePeerlist { m with peersWhite := MultiIndex.insert PeerlistEntry.lastSeen ple m.peersWhite }
      | some _ =>
          { m with peersWhite := MultiIndex.replace PeerlistEntry.adr PeerlistEntry.lastSeen ple m.peersWhite }
    { m with peersGray := MultiIndex.erase PeerlistEntry.adr ple.adr m.peersGray }

def appendWithPeerGray (m : PeerlistManager Addr) (ple : PeerlistEntry Addr) : PeerlistManager Addr :=
  if !isHostAllowed isLoopback isLocal m.allowLocalIp ple.adr then m
  else if (MultiIndex.find? PeerlistEntry.adr ple.adr m.peersWhite).isSome then m
  else
    match MultiIndex.find? PeerlistEntry.adr ple.adr m.peersGray with
    | none => trimGrayPeerlist { m with peersGray := MultiIndex.insert PeerlistEntry.lastSeen ple m.peersGray }
    | some _ => { m with peersGray := MultiIndex.replace PeerlistEntry.adr PeerlistEntry.lastSeen ple m.peersGray }

def setPeerJustSeen (m : PeerlistManager Addr) (peer : UInt64) (addr : Addr) (pruningSeed : UInt32)
    (now : Int) : PeerlistManager Addr :=
  appendWithPeerWhite isLoopback isLocal m ⟨addr, peer, now, pruningSeed⟩

def mergePeerlist (m : PeerlistManager Addr) (outerBs : List (PeerlistEntry Addr)) :
    PeerlistManager Addr :=
  trimGrayPeerlist (outerBs.foldl (appendWithPeerGray isLoopback isLocal) m)

/-- `remove_from_peer_white` and `remove_from_peer_gray`: the entry of the
address erased from one list. -/
def removeFromPeers (peers : List (PeerlistEntry Addr)) (pe : PeerlistEntry Addr) :
    List (PeerlistEntry Addr) :=
  MultiIndex.erase PeerlistEntry.adr pe.adr peers

def removeFromPeerWhite (m : PeerlistManager Addr) (pe : PeerlistEntry Addr) : PeerlistManager Addr :=
  { m with peersWhite := removeFromPeers m.peersWhite pe }

def removeFromPeerGray (m : PeerlistManager Addr) (pe : PeerlistEntry Addr) : PeerlistManager Addr :=
  { m with peersGray := removeFromPeers m.peersGray pe }

def appendWithPeerAnchor (m : PeerlistManager Addr) (ple : AnchorPeerlistEntry Addr) :
    PeerlistManager Addr :=
  match MultiIndex.find? AnchorPeerlistEntry.adr ple.adr m.peersAnchor with
  | none => { m with peersAnchor := MultiIndex.insert AnchorPeerlistEntry.firstSeen ple m.peersAnchor }
  | some _ => m

/-- `get_and_empty_anchor_peerlist`: the anchors pushed back in time order, and
the anchor list cleared. -/
def getAndEmptyAnchorPeerlist (m : PeerlistManager Addr) (apl : List (AnchorPeerlistEntry Addr)) :
    List (AnchorPeerlistEntry Addr) × PeerlistManager Addr :=
  (apl ++ m.peersAnchor, { m with peersAnchor := [] })

/-- `get_peerlist_full`: each vector resized by the size of its list, then
the list pushed back from the latest entry to the earliest. -/
def getPeerlistFull [Inhabited Addr] (m : PeerlistManager Addr) (plGray plWhite : List (PeerlistEntry Addr)) :
    List (PeerlistEntry Addr) × List (PeerlistEntry Addr) :=
  let plGray := plGray ++ List.replicate m.peersGray.length PeerlistEntry.empty
  let plGray := plGray ++ m.peersGray.reverse
  let plWhite := plWhite ++ List.replicate m.peersWhite.length PeerlistEntry.empty
  let plWhite := plWhite ++ m.peersWhite.reverse
  (plGray, plWhite)

def applyPeerlistOp (m : PeerlistManager Addr) : PeerlistOp Addr → PeerlistManager Addr
  | .appendWithPeerWhite ple => appendWithPeerWhite isLoopback isLocal m ple
  | .appendWithPeerGray ple => appendWithPeerGray isLoopback isLocal m ple
  | .setPeerJustSeen peer addr pruningSeed now => setPeerJustSeen isLoopback isLocal m peer addr pruningSeed now
  | .mergePeerlist outerBs => mergePeerlist isLoopback isLocal m outerBs
  | .removeFromPeerWhite pe => removeFromPeerWhite m pe
  | .removeFromPeerGray pe => removeFromPeerGray m pe
  | .appendWithPeerAnchor ple => appendWithPeerAnchor m ple
  | .getAndEmptyAnchorPeerlist => (getAndEmptyAnchorPeerlist m []).2

def runPeerlist (m : PeerlistManager Addr) (ops : List (PeerlistOp Addr)) : PeerlistManager Addr :=
  ops.foldl (applyPeerlistOp isLoopback isLocal) m

end Manager

/-! ### The invariant -/

section Lists

variable {Addr : Type}

/-- One list as the manager keeps it: in time order, one entry per address,
within its limit, and no address the host check refuses. -/
structure PeersValid (limit : Nat) (allowed : Addr → Bool) (peers : List (PeerlistEntry Addr)) :
    Prop where
  sorted : Sorted PeerlistEntry.lastSeen peers
  unique : KeysUnique PeerlistEntry.adr peers
  bounded : peers.length ≤ limit
  allowed : ∀ e ∈ peers, allowed e.adr = true

theorem PeersValid.nil (limit : Nat) (allowed : Addr → Bool) : PeersValid limit allowed [] :=
  ⟨List.Pairwise.nil, List.nodup_nil, Nat.zero_le _, fun _ => False.elim ∘ List.not_mem_nil⟩

theorem PeersValid.sublist {limit : Nat} {allowed : Addr → Bool} {peers kept : List (PeerlistEntry Addr)}
    (valid : PeersValid limit allowed peers) (sub : kept.Sublist peers) : PeersValid limit allowed kept :=
  ⟨valid.sorted.sublist sub, valid.unique.sublist sub, sub.length_le.trans valid.bounded,
    fun e member => valid.allowed e (sub.subset member)⟩

variable [DecidableEq Addr]

/-- What both appends do to the list they add to: an address not yet listed is
inserted by time and the list trimmed, a listed one has its entry replaced. -/
def addPeer (limit : Nat) (ple : PeerlistEntry Addr) (peers : List (PeerlistEntry Addr)) :
    List (PeerlistEntry Addr) :=
  match MultiIndex.find? PeerlistEntry.adr ple.adr peers with
  | none => MultiIndex.trim limit (MultiIndex.insert PeerlistEntry.lastSeen ple peers)
  | some _ => MultiIndex.replace PeerlistEntry.adr PeerlistEntry.lastSeen ple peers

variable {limit : Nat} {ple e : PeerlistEntry Addr} {peers : List (PeerlistEntry Addr)}

theorem mem_addPeer (unique : KeysUnique PeerlistEntry.adr peers) (member : e ∈ addPeer limit ple peers) :
    e = ple ∨ e ∈ peers ∧ e.adr ≠ ple.adr := by
  unfold addPeer at member
  split at member
  · rename_i absent
    rcases MultiIndex.mem_insert.1 ((MultiIndex.trim_sublist _ _).subset member) with isNew | old
    · exact .inl isNew
    · exact .inr ⟨old, MultiIndex.find?_eq_none_iff.mp absent e old⟩
  · rename_i listed present
    obtain ⟨inPeers, sameAdr⟩ := MultiIndex.find?_eq_some present
    exact (MultiIndex.mem_replace unique ⟨listed, inPeers, sameAdr⟩).mp member

theorem peersValid_addPeer {allowed : Addr → Bool} (valid : PeersValid limit allowed peers)
    (allowedNew : allowed ple.adr = true) : PeersValid limit allowed (addPeer limit ple peers) := by
  have allowedAll : ∀ e ∈ addPeer limit ple peers, allowed e.adr = true := fun e member => by
    rcases mem_addPeer valid.unique member with rfl | ⟨old, _⟩
    · exact allowedNew
    · exact valid.allowed e old
  have shape : Sorted PeerlistEntry.lastSeen (addPeer limit ple peers) ∧
      KeysUnique PeerlistEntry.adr (addPeer limit ple peers) ∧
      (addPeer limit ple peers).length ≤ limit := by
    unfold addPeer
    split
    · rename_i absent
      have trimmed := MultiIndex.trim_sublist limit (MultiIndex.insert PeerlistEntry.lastSeen ple peers)
      exact ⟨(MultiIndex.sorted_insert ple valid.sorted).sublist trimmed,
        (MultiIndex.keysUnique_insert valid.unique (MultiIndex.find?_eq_none_iff.mp absent)).sublist trimmed,
        MultiIndex.length_trim_le _ _⟩
    · rename_i listed present
      obtain ⟨inPeers, sameAdr⟩ := MultiIndex.find?_eq_some present
      have found : ∃ a ∈ peers, a.adr = ple.adr := ⟨listed, inPeers, sameAdr⟩
      refine ⟨MultiIndex.sorted_replace valid.sorted, MultiIndex.keysUnique_replace valid.unique found, ?_⟩
      rw [MultiIndex.length_replace found]
      exact valid.bounded
  exact ⟨shape.1, shape.2.1, shape.2.2, allowedAll⟩

end Lists

section Steps

variable {Addr : Type} [DecidableEq Addr] (isLoopback isLocal : Addr → Bool)

/-- The invariant of the manager: both lists valid, and no address in both. -/
structure PeerlistManager.Valid (m : PeerlistManager Addr) : Prop where
  white : PeersValid p2pLocalWhitePeerlistLimit (isHostAllowed isLoopback isLocal m.allowLocalIp) m.peersWhite
  gray : PeersValid p2pLocalGrayPeerlistLimit (isHostAllowed isLoopback isLocal m.allowLocalIp) m.peersGray
  disjoint : ∀ e ∈ m.peersWhite, ∀ f ∈ m.peersGray, e.adr ≠ f.adr

variable {isLoopback isLocal} {m : PeerlistManager Addr} {ple : PeerlistEntry Addr}

theorem appendWithPeerWhite_eq :
    appendWithPeerWhite isLoopback isLocal m ple =
      if isHostAllowed isLoopback isLocal m.allowLocalIp ple.adr then
        { m with peersWhite := addPeer p2pLocalWhitePeerlistLimit ple m.peersWhite,
                 peersGray := MultiIndex.erase PeerlistEntry.adr ple.adr m.peersGray }
      else m := by
  unfold appendWithPeerWhite addPeer
  cases isHostAllowed isLoopback isLocal m.allowLocalIp ple.adr
  · rfl
  · simp only [Bool.not_true, Bool.false_eq_true, if_false, if_true]
    cases MultiIndex.find? PeerlistEntry.adr ple.adr m.peersWhite <;> rfl

theorem appendWithPeerGray_eq :
    appendWithPeerGray isLoopback isLocal m ple =
      if isHostAllowed isLoopback isLocal m.allowLocalIp ple.adr ∧
          MultiIndex.find? PeerlistEntry.adr ple.adr m.peersWhite = none then
        { m with peersGray := addPeer p2pLocalGrayPeerlistLimit ple m.peersGray }
      else m := by
  unfold appendWithPeerGray addPeer
  cases isHostAllowed isLoopback isLocal m.allowLocalIp ple.adr
  · rfl
  · cases MultiIndex.find? PeerlistEntry.adr ple.adr m.peersWhite
    · simp only [Bool.not_true, Bool.false_eq_true, if_false, if_true, Option.isSome_none, and_self]
      cases MultiIndex.find? PeerlistEntry.adr ple.adr m.peersGray <;> rfl
    · rfl

omit [DecidableEq Addr] in
theorem valid_init (allowLocalIp : Bool) :
    (PeerlistManager.init allowLocalIp : PeerlistManager Addr).Valid isLoopback isLocal :=
  ⟨PeersValid.nil _ _, PeersValid.nil _ _, fun _ => False.elim ∘ List.not_mem_nil⟩

theorem valid_appendWithPeerWhite (valid : m.Valid isLoopback isLocal) (ple : PeerlistEntry Addr) :
    (appendWithPeerWhite isLoopback isLocal m ple).Valid isLoopback isLocal := by
  rw [appendWithPeerWhite_eq]
  split
  · rename_i allowed
    refine ⟨peersValid_addPeer valid.white allowed,
      valid.gray.sublist (MultiIndex.erase_sublist _ _), ?_⟩
    intro e inWhite f inGray
    obtain ⟨inOldGray, otherAdr⟩ := (MultiIndex.mem_erase valid.gray.unique).mp inGray
    rcases mem_addPeer valid.white.unique inWhite with rfl | ⟨inOldWhite, _⟩
    · exact otherAdr.symm
    · exact valid.disjoint e inOldWhite f inOldGray
  · exact valid

theorem valid_appendWithPeerGray (valid : m.Valid isLoopback isLocal) (ple : PeerlistEntry Addr) :
    (appendWithPeerGray isLoopback isLocal m ple).Valid isLoopback isLocal := by
  rw [appendWithPeerGray_eq]
  split
  · rename_i appended
    obtain ⟨allowed, notWhite⟩ := appended
    refine ⟨valid.white, peersValid_addPeer valid.gray allowed, ?_⟩
    intro e inWhite f inGray
    rcases mem_addPeer valid.gray.unique inGray with rfl | ⟨inOldGray, _⟩
    · exact MultiIndex.find?_eq_none_iff.mp notWhite e inWhite
    · exact valid.disjoint e inWhite f inOldGray
  · exact valid

omit [DecidableEq Addr] in
theorem valid_trimGrayPeerlist (valid : m.Valid isLoopback isLocal) :
    (trimGrayPeerlist m).Valid isLoopback isLocal :=
  have trimmed := MultiIndex.trim_sublist p2pLocalGrayPeerlistLimit m.peersGray
  ⟨valid.white, valid.gray.sublist trimmed,
    fun e inWhite f inGray => valid.disjoint e inWhite f (trimmed.subset inGray)⟩

theorem valid_mergePeerlist (valid : m.Valid isLoopback isLocal) (outerBs : List (PeerlistEntry Addr)) :
    (mergePeerlist isLoopback isLocal m outerBs).Valid isLoopback isLocal := by
  unfold mergePeerlist
  apply valid_trimGrayPeerlist
  induction outerBs generalizing m with
  | nil => exact valid
  | cons ple rest ih => exact ih (valid_appendWithPeerGray valid ple)

theorem valid_removeFromPeerWhite (valid : m.Valid isLoopback isLocal) (pe : PeerlistEntry Addr) :
    (removeFromPeerWhite m pe).Valid isLoopback isLocal :=
  have erased : (removeFromPeers m.peersWhite pe).Sublist m.peersWhite := MultiIndex.erase_sublist _ _
  ⟨valid.white.sublist erased, valid.gray,
    fun e inWhite f inGray => valid.disjoint e (erased.subset inWhite) f inGray⟩

theorem valid_removeFromPeerGray (valid : m.Valid isLoopback isLocal) (pe : PeerlistEntry Addr) :
    (removeFromPeerGray m pe).Valid isLoopback isLocal :=
  have erased : (removeFromPeers m.peersGray pe).Sublist m.peersGray := MultiIndex.erase_sublist _ _
  ⟨valid.white, valid.gray.sublist erased,
    fun e inWhite f inGray => valid.disjoint e inWhite f (erased.subset inGray)⟩

theorem valid_applyPeerlistOp (valid : m.Valid isLoopback isLocal) :
    ∀ op : PeerlistOp Addr, (applyPeerlistOp isLoopback isLocal m op).Valid isLoopback isLocal
  | .appendWithPeerWhite ple => valid_appendWithPeerWhite valid ple
  | .appendWithPeerGray ple => valid_appendWithPeerGray valid ple
  | .setPeerJustSeen .. => valid_appendWithPeerWhite valid _
  | .mergePeerlist outerBs => valid_mergePeerlist valid outerBs
  | .removeFromPeerWhite pe => valid_removeFromPeerWhite valid pe
  | .removeFromPeerGray pe => valid_removeFromPeerGray valid pe
  | .appendWithPeerAnchor ple => by
      show (appendWithPeerAnchor m ple).Valid isLoopback isLocal
      unfold appendWithPeerAnchor
      split
      · exact ⟨valid.white, valid.gray, valid.disjoint⟩
      · exact valid
  | .getAndEmptyAnchorPeerlist => ⟨valid.white, valid.gray, valid.disjoint⟩

theorem valid_runPeerlist (valid : m.Valid isLoopback isLocal) (ops : List (PeerlistOp Addr)) :
    (runPeerlist isLoopback isLocal m ops).Valid isLoopback isLocal := by
  induction ops generalizing m with
  | nil => exact valid
  | cons op rest ih => exact ih (valid_applyPeerlistOp valid op)

end Steps

/-! ### Trimming -/

section Trimming

variable {Addr : Type} [DecidableEq Addr]

/-- Every entry that the change from `before` to `after` dropped, other than
the one of address `adr`, is no later than any entry kept. -/
def DropsEarliest (adr : Addr) (before after : List (PeerlistEntry Addr)) : Prop :=
  ∀ a ∈ before, a ∉ after → a.adr ≠ adr → ∀ b ∈ after, a.lastSeen ≤ b.lastSeen

omit [DecidableEq Addr] in
theorem dropsEarliest_self (adr : Addr) (peers : List (PeerlistEntry Addr)) : DropsEarliest adr peers peers :=
  fun _ inBefore notAfter => absurd inBefore notAfter

variable {limit : Nat} {ple : PeerlistEntry Addr} {peers : List (PeerlistEntry Addr)}

theorem addPeer_dropsEarliest (sorted : Sorted PeerlistEntry.lastSeen peers)
    (unique : KeysUnique PeerlistEntry.adr peers) : DropsEarliest ple.adr peers (addPeer limit ple peers) := by
  intro a inBefore notAfter otherAdr b inAfter
  cases found : MultiIndex.find? PeerlistEntry.adr ple.adr peers with
  | none =>
      simp only [addPeer, found, MultiIndex.trim_eq_drop] at notAfter inAfter
      have inInserted : a ∈ MultiIndex.insert PeerlistEntry.lastSeen ple peers :=
        MultiIndex.mem_insert.2 (.inr inBefore)
      rw [← List.take_append_drop ((MultiIndex.insert PeerlistEntry.lastSeen ple peers).length - limit)
        (MultiIndex.insert PeerlistEntry.lastSeen ple peers), List.mem_append] at inInserted
      have inFront := inInserted.resolve_right notAfter
      rw [← MultiIndex.trim_eq_drop] at inAfter
      exact MultiIndex.trim_removes_earliest limit (MultiIndex.sorted_insert ple sorted) a inFront b inAfter
  | some listed =>
      simp only [addPeer, found] at notAfter
      obtain ⟨inPeers, sameAdr⟩ := MultiIndex.find?_eq_some found
      exact absurd ((MultiIndex.mem_replace unique ⟨listed, inPeers, sameAdr⟩).mpr (.inr ⟨inBefore, otherAdr⟩))
        notAfter

variable {isLoopback isLocal : Addr → Bool} {m : PeerlistManager Addr}

theorem appendWithPeerWhite_dropsEarliest (valid : m.Valid isLoopback isLocal) (ple : PeerlistEntry Addr) :
    DropsEarliest ple.adr m.peersWhite (appendWithPeerWhite isLoopback isLocal m ple).peersWhite := by
  rw [appendWithPeerWhite_eq]
  split
  · exact addPeer_dropsEarliest valid.white.sorted valid.white.unique
  · exact dropsEarliest_self _ _

theorem appendWithPeerGray_dropsEarliest (valid : m.Valid isLoopback isLocal) (ple : PeerlistEntry Addr) :
    DropsEarliest ple.adr m.peersGray (appendWithPeerGray isLoopback isLocal m ple).peersGray := by
  rw [appendWithPeerGray_eq]
  split
  · exact addPeer_dropsEarliest valid.gray.sorted valid.gray.unique
  · exact dropsEarliest_self _ _

end Trimming

/-! ### The export -/

/-- From a new manager, every run keeps the invariant, and each append drops
only the earliest entries; yet the full export, asked with empty vectors,
puts as many empty entries before each list as the list has. -/
theorem peerlist_invariants_hold_but_full_export_is_padded {Addr : Type} [DecidableEq Addr] [Inhabited Addr]
    (isLoopback isLocal : Addr → Bool) (allowLocalIp : Bool) (ops : List (PeerlistOp Addr)) :
    let m := runPeerlist isLoopback isLocal (PeerlistManager.init allowLocalIp) ops
    m.Valid isLoopback isLocal ∧
      (∀ ple, DropsEarliest ple.adr m.peersWhite (appendWithPeerWhite isLoopback isLocal m ple).peersWhite ∧
        DropsEarliest ple.adr m.peersGray (appendWithPeerGray isLoopback isLocal m ple).peersGray) ∧
      getPeerlistFull m [] [] =
        (List.replicate m.peersGray.length PeerlistEntry.empty ++ m.peersGray.reverse,
          List.replicate m.peersWhite.length PeerlistEntry.empty ++ m.peersWhite.reverse) := by
  intro m
  have valid : m.Valid isLoopback isLocal := valid_runPeerlist (valid_init allowLocalIp) ops
  exact ⟨valid, fun ple => ⟨appendWithPeerWhite_dropsEarliest valid ple,
    appendWithPeerGray_dropsEarliest valid ple⟩, rfl⟩

theorem one_gray_peer_exported_after_an_empty_entry :
    (getPeerlistFull (runPeerlist (fun _ : Nat => false) (fun _ => false) (PeerlistManager.init false)
      [.appendWithPeerGray ⟨1, 7, 100, 0⟩]) [] []).1 = [PeerlistEntry.empty, ⟨1, 7, 100, 0⟩] := by
  rw [(peerlist_invariants_hold_but_full_export_is_padded (fun _ : Nat => false) (fun _ => false) false
    [.appendWithPeerGray ⟨1, 7, 100, 0⟩]).2.2]
  decide

end Antd.P2p
