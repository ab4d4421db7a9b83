import Antd.FullNodes.ListState
import Antd.Lib.ExceptSpec

/-! The places of the reward queue over a block. `select_winner` ranks the
nodes by `(last_reward_block_height, last_reward_transaction_index)`, and a
block moves nodes in that order at three places only: its winner goes to the
block's height at index `UINT32_MAX`, and a registration or a contribution,
the `index`-th transaction of the block, puts the node the transaction names
at the block's height and that index. A re-registration in the grace period
keeps the node's old place. Every other stage of `block_added_generic` keeps
the places, or drops nodes, and no stage but the first moves the height.

So a list whose nodes hold distinct places below its height leaves a block
with distinct places below the next height: the places the block hands out
rise with the index of the transaction, and no transaction of a block the loop
of `block_added_generic` gets through has the index `UINT32_MAX`. -/

namespace Antd.FullNodes

open Antd.Crypto Antd.Cryptonote UndoJournal ExceptSpec ForLoop

attribute [local instance] uint64LinearOrder

/-- `waiting_since` of `select_winner`: a node's place in the reward queue. -/
def waitingSince (info : FullNodeInfo) : UInt64 × UInt32 :=
  (info.lastRewardBlockHeight, info.lastRewardTransactionIndex)

/-- A place as one number, ordered as `std::pair` orders places. -/
def queuePosition (place : UInt64 × UInt32) : Nat :=
  place.1.toNat * 2 ^ 32 + place.2.toNat

/-- No two nodes of the list share a place in the queue. -/
def DistinctPlaces (infos : FullNodesInfos) : Prop :=
  ∀ key other info otherInfo, infos.lookup key = some info → infos.lookup other = some otherInfo →
    waitingSince info = waitingSince otherInfo → key = other

/-- The queue between blocks: distinct places, each below `height`. -/
structure QueuedBelow (height : UInt64) (infos : FullNodesInfos) : Prop where
  distinct : DistinctPlaces infos
  below : ∀ key info, infos.lookup key = some info → info.lastRewardBlockHeight < height

/-! ### What one stage does to the queue -/

/-- A stage that keeps the height, and gives every node it leaves the place it
had. -/
def Kept (s t : TransientState) : Prop :=
  t.height = s.height ∧ ∀ key info, t.fullNodesInfos.lookup key = some info →
    ∃ old, s.fullNodesInfos.lookup key = some old ∧ waitingSince old = waitingSince info

/-- A stage that keeps the height and every node's place, but for `stamp`,
which it may move to `place`. -/
def Stamped (stamp : PublicKey) (place : UInt64 × UInt32) (s t : TransientState) : Prop :=
  t.height = s.height ∧ ∀ key info, t.fullNodesInfos.lookup key = some info →
    (∃ old, s.fullNodesInfos.lookup key = some old ∧ waitingSince old = waitingSince info) ∨
      (key = stamp ∧ waitingSince info = place)

theorem Kept.refl (s : TransientState) : Kept s s :=
  ⟨rfl, fun _ info found => ⟨info, found, rfl⟩⟩

theorem Kept.trans {s middle t : TransientState} (first : Kept s middle) (rest : Kept middle t) :
    Kept s t := by
  refine ⟨rest.1.trans first.1, fun key info found => ?_⟩
  obtain ⟨middleInfo, middleFound, middlePlace⟩ := rest.2 key info found
  obtain ⟨old, oldFound, oldPlace⟩ := first.2 key middleInfo middleFound
  exact ⟨old, oldFound, oldPlace.trans middlePlace⟩

theorem Kept.stamped {s t : TransientState} (kept : Kept s t) (stamp : PublicKey)
    (place : UInt64 × UInt32) : Stamped stamp place s t :=
  ⟨kept.1, fun key info found => .inl (kept.2 key info found)⟩

theorem Stamped.trans {stamp : PublicKey} {place : UInt64 × UInt32} {s middle t : TransientState}
    (first : Stamped stamp place s middle) (rest : Stamped stamp place middle t) :
    Stamped stamp place s t := by
  refine ⟨rest.1.trans first.1, fun key info found => ?_⟩
  rcases rest.2 key info found with ⟨middleInfo, middleFound, middlePlace⟩ | moved
  · rcases first.2 key middleInfo middleFound with ⟨old, oldFound, oldPlace⟩ | ⟨same, placed⟩
    · exact .inl ⟨old, oldFound, oldPlace.trans middlePlace⟩
    · exact .inr ⟨same, middlePlace ▸ placed⟩
  · exact .inr moved

/-- A stamp to a place no node holds keeps the places distinct. -/
theorem Stamped.distinct {stamp : PublicKey} {place : UInt64 × UInt32} {s t : TransientState}
    (stamped : Stamped stamp place s t) (distinct : DistinctPlaces s.fullNodesInfos)
    (fresh : ∀ key info, s.fullNodesInfos.lookup key = some info → waitingSince info ≠ place) :
    DistinctPlaces t.fullNodesInfos := by
  intro key other info otherInfo found otherFound samePlace
  rcases stamped.2 key info found with ⟨old, oldFound, oldPlace⟩ | ⟨rfl, placed⟩ <;>
    rcases stamped.2 other otherInfo otherFound with
      ⟨otherOld, otherOldFound, otherOldPlace⟩ | ⟨rfl, otherPlaced⟩
  · exact distinct key other old otherOld oldFound otherOldFound
      (oldPlace.trans (samePlace.trans otherOldPlace.symm))
  · exact absurd (oldPlace.trans (samePlace.trans otherPlaced)) (fresh key old oldFound)
  · exact absurd (otherOldPlace.trans (samePlace.symm.trans placed)) (fresh other otherOld otherOldFound)
  · rfl

section Stages

variable {σ : Type} (ctx : ListContext σ)

theorem kept_removeExpiredBlacklist (blockHeight : UInt64) (s : TransientState) :
    Kept s (removeExpiredBlacklist blockHeight s) :=
  Kept.refl s

section Block

variable {σ : Type} (ctx : ListContext σ)

end Block

end Stages

end Antd.FullNodes
