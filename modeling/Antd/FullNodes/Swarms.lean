import Antd.FullNodes.FullNodeList
import Antd.Lib.SortedMap
import Antd.Lib.ExceptSpec

/-! `calc_swarm_changes` of `full_node_list.cpp`: the nodes of the queue
(`QUEUE_SWARM_ID`) go first to the starving swarms, then nodes are stolen from
the largest swarms for the swarms still starving, then the queue fills the
smallest swarms up to `MAX_SWARM_SIZE`, and while the queue holds a swarm and a
buffer more, a new swarm is made of nodes swapped out of random swarms.

Every random index comes from `uniform_distribution_portable`, which divides by
its bound; the model stops with `divisionByZero` where the code would divide by
zero, and with `outOfRange` where it would read past a container (through
`std::map::at`, `std::vector::at`, `back` or an advanced iterator). The loop of
`get_new_swarm_id` ends only when the generator draws an id not yet used, so
the model gives it fuel and stops with `outOfFuel` when it runs out. -/

namespace Antd.FullNodes

open Antd.Crypto
open ExceptSpec

variable {σ : Type}

def minSwarmSize : Nat := 5

def maxSwarmSize : Nat := 10

def swarmBuffer : Nat := 5

def queueSwarmId : UInt64 := 0

/-- `std::map` orders its `swarm_id_t` keys as unsigned integers. -/
local instance uint64LinearOrder : LinearOrder UInt64 where
  le_refl := UInt64.le_refl
  le_trans _ _ _ := UInt64.le_trans
  le_antisymm _ _ := UInt64.le_antisymm
  le_total := UInt64.le_total
  lt_iff_le_not_ge _ _ :=
    ⟨fun below => ⟨(UInt64.lt_iff_le_and_ne.mp below).1, UInt64.not_le.mpr below⟩,
      fun both => UInt64.not_le.mp both.2⟩
  toDecidableLE := inferInstance

abbrev SwarmMap := SortedMap UInt64 (List PublicKey)

/-- Where a run of `calc_swarm_changes` stops short. -/
inductive SwarmFault where
  /-- `uniform_distribution_portable` with `n = 0`. -/
  | divisionByZero
  /-- A read past the end of a container, or of a key a map does not hold. -/
  | outOfRange
  /-- In the model only: `get_new_swarm_id` used up its draws. -/
  | outOfFuel
  deriving DecidableEq, Repr

def drawBelow (engine : RandomEngine σ) (n : Nat) (state : σ) : Except SwarmFault (UInt64 × σ) :=
  if n = 0 then throw .divisionByZero else pure (uniformDistributionPortable engine state n.toUInt64)

def popRandomSnode (engine : RandomEngine σ) (state : σ) (vec : List PublicKey) :
    Except SwarmFault (PublicKey × List PublicKey × σ) := do
  let (idx, state) ← drawBelow engine vec.length state
  match vec[idx.toNat]? with
  | some snPk => pure (snPk, vec.eraseIdx idx.toNat, state)
  | none => throw SwarmFault.outOfRange

def swarmAt (swarmToSnodes : SwarmMap) (swarmId : UInt64) : Except SwarmFault (List PublicKey) :=
  match swarmToSnodes.find? swarmId with
  | some nodes => pure nodes
  | none => throw .outOfRange

def cmpSwarmSizes (swarmToSnodes : SwarmMap) (lhs rhs : UInt64) : Except SwarmFault Bool := do
  let left ← swarmAt swarmToSnodes lhs
  let right ← swarmAt swarmToSnodes rhs
  pure (decide (left.length < right.length))

/-- The loop of `std::max_element` and `std::min_element`: a later element
takes the place of the one chosen when `replaces chosen next`. -/
def selectFrom (replaces : UInt64 → UInt64 → Except SwarmFault Bool) (chosen : UInt64) :
    List UInt64 → Except SwarmFault UInt64
  | [] => pure chosen
  | next :: rest => do
    let better ← replaces chosen next
    selectFrom replaces (if better then next else chosen) rest

def maxElement (swarmToSnodes : SwarmMap) : List UInt64 → Except SwarmFault UInt64
  | [] => throw .outOfRange
  | first :: rest => selectFrom (cmpSwarmSizes swarmToSnodes) first rest

def minElement (swarmToSnodes : SwarmMap) : List UInt64 → Except SwarmFault UInt64
  | [] => throw .outOfRange
  | first :: rest => selectFrom (fun chosen next => cmpSwarmSizes swarmToSnodes next chosen) first rest

/-- The variables of `calc_swarm_changes` that its phases write. -/
structure SwarmState (σ : Type) where
  swarmToSnodes : SwarmMap
  swarmBuffer : List PublicKey
  mersenneTwister : σ

/-- The `std::copy_if` of phase 1: the swarms with fewer than `MIN_SWARM_SIZE` nodes. -/
def starvingSwarms (swarmToSnodes : SwarmMap) : List UInt64 → Except SwarmFault (List UInt64)
  | [] => pure []
  | swarmId :: rest => do
    let nodes ← swarmAt swarmToSnodes swarmId
    let starving ← starvingSwarms swarmToSnodes rest
    pure (if nodes.length < minSwarmSize then swarmId :: starving else starving)

def fillFromBuffer (engine : RandomEngine σ) (swarmId : UInt64) :
    Nat → SwarmState σ → Except SwarmFault (SwarmState σ)
  | 0, s => pure s
  | needed + 1, s =>
    if s.swarmBuffer.isEmpty then pure s
    else do
      let (snPk, buffer, state) ← popRandomSnode engine s.mersenneTwister s.swarmBuffer
      let nodes ← swarmAt s.swarmToSnodes swarmId
      fillFromBuffer engine swarmId needed ⟨s.swarmToSnodes.set swarmId (nodes ++ [snPk]), buffer, state⟩

def fillStarving (engine : RandomEngine σ) : List UInt64 → SwarmState σ → Except SwarmFault (SwarmState σ)
  | [], s => pure s
  | swarmId :: rest, s => do
    let nodes ← swarmAt s.swarmToSnodes swarmId
    let s ← fillFromBuffer engine swarmId (minSwarmSize - nodes.length) s
    if s.swarmBuffer.isEmpty then pure s else fillStarving engine rest s

/-- The inner loop of phase 2: up to `needed` nodes taken from the largest
swarm for `swarmId`; `false` once that swarm has no more than
`MIN_SWARM_SIZE` nodes (`can_continue`). -/
def stealNodes (engine : RandomEngine σ) (allSwarms : List UInt64) (swarmId : UInt64) :
    Nat → SwarmState σ → Except SwarmFault (Bool × SwarmState σ)
  | 0, s => pure (true, s)
  | needed + 1, s => do
    let largeSwarm ← maxElement s.swarmToSnodes allSwarms
    let large ← swarmAt s.swarmToSnodes largeSwarm
    if large.length ≤ minSwarmSize then pure (false, s)
    else do
      let (snPk, large, state) ← popRandomSnode engine s.mersenneTwister large
      let swarmToSnodes := s.swarmToSnodes.set largeSwarm large
      let nodes ← swarmAt swarmToSnodes swarmId
      stealNodes engine allSwarms swarmId needed
        ⟨swarmToSnodes.set swarmId (nodes ++ [snPk]), s.swarmBuffer, state⟩

def stealForStarving (engine : RandomEngine σ) (allSwarms : List UInt64) :
    List UInt64 → SwarmState σ → Except SwarmFault (SwarmState σ)
  | [], s => pure s
  | swarmId :: rest, s => do
    let nodes ← swarmAt s.swarmToSnodes swarmId
    if nodes.length = minSwarmSize then stealForStarving engine allSwarms rest s
    else do
      let (canContinue, s) ← stealNodes engine allSwarms swarmId (minSwarmSize - nodes.length) s
      if canContinue then stealForStarving engine allSwarms rest s else pure s

/-- Phase 3: the smallest swarm takes a node of the queue, until the queue is
empty or the smallest swarm has `MAX_SWARM_SIZE` nodes. Each pass takes a node,
so the length of the queue bounds the passes (`fuel`). -/
def fillUnsaturated (engine : RandomEngine σ) (allSwarms : List UInt64) :
    Nat → SwarmState σ → Except SwarmFault (SwarmState σ)
  | 0, s => pure s
  | fuel + 1, s =>
    if s.swarmBuffer.isEmpty || allSwarms.isEmpty then pure s
    else do
      let smallestSwarm ← minElement s.swarmToSnodes allSwarms
      let swarm ← swarmAt s.swarmToSnodes smallestSwarm
      if swarm.length = maxSwarmSize then pure s
      else do
        let (snPk, buffer, state) ← popRandomSnode engine s.mersenneTwister s.swarmBuffer
        fillUnsaturated engine allSwarms fuel
          ⟨s.swarmToSnodes.set smallestSwarm (swarm ++ [snPk]), buffer, state⟩

def newSwarmIdFrom (engine : RandomEngine σ) (ids : List UInt64) :
    Nat → UInt64 → σ → Except SwarmFault (UInt64 × σ)
  | fuel, idNew, state =>
    if idNew ≠ queueSwarmId ∧ idNew ∉ ids then pure (idNew, state)
    else
      match fuel with
      | 0 => throw .outOfFuel
      | fuel + 1 => do
        let (idNew, state) ← drawBelow engine (2 ^ 64 - 1) state
        newSwarmIdFrom engine ids fuel idNew state

def getNewSwarmId (engine : RandomEngine σ) (fuel : Nat) (state : σ) (ids : List UInt64) :
    Except SwarmFault (UInt64 × σ) :=
  newSwarmIdFrom engine ids fuel queueSwarmId state

/-- The `MAX_SWARM_SIZE` passes of phase 4 that fill a new swarm: the last node
of the queue takes the place of a random node of a random swarm, which joins
the new swarm; without swarms the queue's node joins it. -/
def selectSnodes (engine : RandomEngine σ) :
    Nat → List PublicKey → SwarmState σ → Except SwarmFault (List PublicKey × SwarmState σ)
  | 0, selectedSnodes, s => pure (selectedSnodes, s)
  | count + 1, selectedSnodes, s =>
    match s.swarmBuffer.getLast? with
    | none => throw SwarmFault.outOfRange
    | some freshSnode =>
      let buffer := s.swarmBuffer.dropLast
      if 0 < s.swarmToSnodes.entries.length then do
        let (swarmIdx, state) ← drawBelow engine s.swarmToSnodes.entries.length s.mersenneTwister
        match s.swarmToSnodes.entries[swarmIdx.toNat]? with
        | none => throw SwarmFault.outOfRange
        | some (swarmId, selectedSwarm) => do
          let (snode, selectedSwarm, state) ← popRandomSnode engine state selectedSwarm
          selectSnodes engine count (selectedSnodes ++ [snode])
            ⟨s.swarmToSnodes.set swarmId (selectedSwarm ++ [freshSnode]), buffer, state⟩
      else
        selectSnodes engine count (selectedSnodes ++ [freshSnode])
          ⟨s.swarmToSnodes, buffer, s.mersenneTwister⟩

/-- Phase 4: new swarms while the queue holds `MAX_SWARM_SIZE + SWARM_BUFFER`
nodes. Each pass takes `MAX_SWARM_SIZE` nodes of the queue, so its length
bounds the passes (`loops`). -/
def createSwarms (engine : RandomEngine σ) (allSwarms : List UInt64) (seed : UInt64) (fuel : Nat) :
    Nat → SwarmState σ → Except SwarmFault (SwarmState σ)
  | 0, s => pure s
  | loops + 1, s =>
    if maxSwarmSize + swarmBuffer ≤ s.swarmBuffer.length then do
      let (newSwarmId, state) ← getNewSwarmId engine fuel s.mersenneTwister allSwarms
      let buffer := (antdShuffle engine s.swarmBuffer.toArray (seed + newSwarmId)).toList
      let (selectedSnodes, s) ← selectSnodes engine maxSwarmSize [] ⟨s.swarmToSnodes, buffer, state⟩
      createSwarms engine allSwarms seed fuel loops
        ⟨s.swarmToSnodes.insert newSwarmId selectedSnodes, s.swarmBuffer, s.mersenneTwister⟩
    else pure s

/-- `calc_swarm_changes`: the map after the four phases, with the queue put
back under `QUEUE_SWARM_ID`. -/
def calcSwarmChanges (engine : RandomEngine σ) (fuel : Nat) (swarmToSnodes : SwarmMap)
    (seed : UInt64) : Except SwarmFault SwarmMap := do
  let mersenneTwister := engine.seed seed
  let swarmBuffer := (swarmToSnodes.find? queueSwarmId).getD []
  let swarmToSnodes := swarmToSnodes.erase queueSwarmId
  let allSwarms := swarmToSnodes.keys.mergeSort fun lhs rhs => decide (lhs ≤ rhs)
  let allSwarms := (antdShuffle engine allSwarms.toArray seed).toList
  let starving ← starvingSwarms swarmToSnodes allSwarms
  let s ← fillStarving engine starving ⟨swarmToSnodes, swarmBuffer, mersenneTwister⟩
  let s ← stealForStarving engine allSwarms starving s
  let s ← fillUnsaturated engine allSwarms s.swarmBuffer.length s
  let s ← createSwarms engine allSwarms seed fuel s.swarmBuffer.length s
  pure (s.swarmToSnodes.insert queueSwarmId s.swarmBuffer)

/-! ### No run divides by zero

A run stops short only where `get_new_swarm_id` runs out of fuel. -/

def OutOfFuel (fault : SwarmFault) : Prop := fault = .outOfFuel

def swarmSize (swarmToSnodes : SwarmMap) (swarmId : UInt64) : Nat :=
  ((swarmToSnodes.find? swarmId).getD []).length

theorem uniformDistributionPortable_zero (engine : RandomEngine σ) (state : σ) :
    uniformDistributionPortable engine state 0 = (0, state) := by
  rw [uniformDistributionPortable, dif_neg (by decide)]

theorem drawBelow_eq (engine : RandomEngine σ) (state : σ) {n : Nat} (positive : 0 < n) :
    ∃ drawn, drawBelow engine n state = .ok drawn ∧ drawn.1.toNat < n := by
  have size : n.toUInt64.toNat = n % 2 ^ 64 := by rw [Nat.toUInt64_eq, UInt64.toNat_ofNat']
  refine ⟨uniformDistributionPortable engine state n.toUInt64,
    by rw [drawBelow, if_neg positive.ne']; rfl, ?_⟩
  by_cases wraps : n % 2 ^ 64 = 0
  · have zero : n.toUInt64 = 0 := UInt64.toNat_inj.mp (by rw [size, wraps]; rfl)
    rw [zero, uniformDistributionPortable_zero]
    exact positive
  · have below := uniformDistributionPortable_lt engine state (n := n.toUInt64) (by omega)
    have wrapped : n % 2 ^ 64 ≤ n := Nat.mod_le _ _
    omega

theorem drawBelow_holds (engine : RandomEngine σ) (state : σ) {n : Nat} (positive : 0 < n) :
    Holds OutOfFuel (fun drawn => drawn.1.toNat < n) (drawBelow engine n state) := by
  obtain ⟨drawn, drawnEq, below⟩ := drawBelow_eq engine state positive
  rw [drawnEq]
  exact below

theorem popRandomSnode_eq (engine : RandomEngine σ) (state : σ) {vec : List PublicKey}
    (nonempty : vec ≠ []) :
    ∃ idx, ∃ below : idx < vec.length, ∃ next,
      popRandomSnode engine state vec = .ok (vec[idx], vec.eraseIdx idx, next) := by
  obtain ⟨⟨idx, next⟩, drawn, below⟩ :=
    drawBelow_eq engine state (List.length_pos_iff.mpr nonempty)
  refine ⟨idx.toNat, below, next, ?_⟩
  rw [popRandomSnode, drawn]
  simp only [bind, Except.bind, List.getElem?_eq_getElem below]
  rfl

theorem popRandomSnode_holds (engine : RandomEngine σ) (state : σ) {vec : List PublicKey}
    (nonempty : vec ≠ []) :
    Holds OutOfFuel (fun popped => popped.2.1.length + 1 = vec.length)
      (popRandomSnode engine state vec) := by
  obtain ⟨idx, below, next, popped⟩ := popRandomSnode_eq engine state nonempty
  rw [popped]
  show (vec.eraseIdx idx).length + 1 = vec.length
  rw [List.length_eraseIdx_of_lt below]
  omega

theorem swarmAt_eq {swarmToSnodes : SwarmMap} {swarmId : UInt64}
    (present : swarmId ∈ swarmToSnodes.keys) :
    swarmAt swarmToSnodes swarmId = .ok ((swarmToSnodes.find? swarmId).getD []) := by
  obtain ⟨nodes, found⟩ := Option.isSome_iff_exists.mp (SortedMap.isSome_find?_iff.mpr present)
  rw [swarmAt, found]
  rfl

theorem swarmAt_holds {swarmToSnodes : SwarmMap} {swarmId : UInt64}
    (present : swarmId ∈ swarmToSnodes.keys) :
    Holds OutOfFuel (fun nodes => swarmToSnodes.find? swarmId = some nodes)
      (swarmAt swarmToSnodes swarmId) := by
  obtain ⟨nodes, found⟩ := Option.isSome_iff_exists.mp (SortedMap.isSome_find?_iff.mpr present)
  rw [swarmAt, found]
  exact rfl

theorem cmpSwarmSizes_eq {swarmToSnodes : SwarmMap} {lhs rhs : UInt64}
    (leftPresent : lhs ∈ swarmToSnodes.keys) (rightPresent : rhs ∈ swarmToSnodes.keys) :
    cmpSwarmSizes swarmToSnodes lhs rhs =
      .ok (decide (swarmSize swarmToSnodes lhs < swarmSize swarmToSnodes rhs)) := by
  rw [cmpSwarmSizes, swarmAt_eq leftPresent, swarmAt_eq rightPresent]
  rfl

theorem selectFrom_least {β : Type} [LinearOrder β] (rank : UInt64 → β)
    {replaces : UInt64 → UInt64 → Except SwarmFault Bool} {chosen : UInt64} {rest : List UInt64}
    (agrees : ∀ a ∈ chosen :: rest, ∀ b ∈ chosen :: rest,
      replaces a b = .ok (decide (rank b < rank a))) :
    Holds OutOfFuel (fun best => best ∈ chosen :: rest ∧ ∀ other ∈ chosen :: rest, rank best ≤ rank other)
      (selectFrom replaces chosen rest) := by
  induction rest generalizing chosen with
  | nil =>
    refine holds_pure ⟨List.mem_singleton_self chosen, fun other member => ?_⟩
    rw [List.mem_singleton.mp member]
  | cons next rest ih =>
    have chosenIn : chosen ∈ chosen :: next :: rest := List.mem_cons_self
    have nextIn : next ∈ chosen :: next :: rest := List.mem_cons_of_mem _ List.mem_cons_self
    rw [selectFrom, agrees chosen chosenIn next nextIn]
    show Holds OutOfFuel _
      (selectFrom replaces (if decide (rank next < rank chosen) = true then next else chosen) rest)
    generalize keptEq : (if decide (rank next < rank chosen) = true then next else chosen) = kept
    have keptIn : kept ∈ chosen :: next :: rest := by
      rw [← keptEq]
      split
      · exact nextIn
      · exact chosenIn
    have keptLow : rank kept ≤ rank chosen ∧ rank kept ≤ rank next := by
      rw [← keptEq]
      split
      · next lower => exact ⟨le_of_lt (of_decide_eq_true lower), le_rfl⟩
      · next notLower => exact ⟨le_rfl, not_lt.mp (by simpa using notLower)⟩
    have within : ∀ x ∈ kept :: rest, x ∈ chosen :: next :: rest := by
      intro x member
      rcases List.mem_cons.mp member with same | later
      · exact same ▸ keptIn
      · exact List.mem_cons_of_mem _ (List.mem_cons_of_mem _ later)
    refine (ih fun a aIn b bIn => agrees a (within a aIn) b (within b bIn)).mono ?_
    rintro best ⟨bestIn, bestLow⟩
    refine ⟨within best bestIn, fun other otherIn => ?_⟩
    have bestKept := bestLow kept List.mem_cons_self
    rcases List.mem_cons.mp otherIn with same | otherIn
    · exact same ▸ bestKept.trans keptLow.1
    rcases List.mem_cons.mp otherIn with same | later
    · exact same ▸ bestKept.trans keptLow.2
    · exact bestLow other (List.mem_cons_of_mem _ later)

theorem maxElement_holds {swarmToSnodes : SwarmMap} {ids : List UInt64}
    (present : ∀ swarmId ∈ ids, swarmId ∈ swarmToSnodes.keys) (nonempty : ids ≠ []) :
    Holds OutOfFuel (· ∈ ids) (maxElement swarmToSnodes ids) := by
  obtain ⟨first, rest, rfl⟩ := List.exists_cons_of_ne_nil nonempty
  rw [maxElement]
  refine (selectFrom_least (fun swarmId => OrderDual.toDual (swarmSize swarmToSnodes swarmId))
    fun a aIn b bIn => ?_).mono fun best chosen => chosen.1
  rw [cmpSwarmSizes_eq (present a aIn) (present b bIn)]
  simp

theorem minElement_holds {swarmToSnodes : SwarmMap} {ids : List UInt64}
    (present : ∀ swarmId ∈ ids, swarmId ∈ swarmToSnodes.keys) (nonempty : ids ≠ []) :
    Holds OutOfFuel (fun smallest => smallest ∈ ids ∧
        ∀ swarmId ∈ ids, swarmSize swarmToSnodes smallest ≤ swarmSize swarmToSnodes swarmId)
      (minElement swarmToSnodes ids) := by
  obtain ⟨first, rest, rfl⟩ := List.exists_cons_of_ne_nil nonempty
  rw [minElement]
  exact selectFrom_least (swarmSize swarmToSnodes) fun a aIn b bIn =>
    cmpSwarmSizes_eq (present b bIn) (present a aIn)

/-- Every swarm of `allSwarms` is a key of the map, and every key is one of them. -/
structure Covers (allSwarms : List UInt64) (swarmToSnodes : SwarmMap) : Prop where
  present : ∀ swarmId ∈ allSwarms, swarmId ∈ swarmToSnodes.keys
  listed : ∀ swarmId ∈ swarmToSnodes.keys, swarmId ∈ allSwarms

theorem Covers.set {allSwarms : List UInt64} {swarmToSnodes : SwarmMap}
    (covers : Covers allSwarms swarmToSnodes) (swarmId : UInt64) (nodes : List PublicKey) :
    Covers allSwarms (swarmToSnodes.set swarmId nodes) := by
  constructor
  · rw [SortedMap.keys_set]
    exact covers.present
  · rw [SortedMap.keys_set]
    exact covers.listed

theorem starvingSwarms_holds {swarmToSnodes : SwarmMap} {ids : List UInt64}
    (present : ∀ swarmId ∈ ids, swarmId ∈ swarmToSnodes.keys) :
    Holds OutOfFuel (fun starving => ∀ swarmId ∈ starving, swarmId ∈ ids)
      (starvingSwarms swarmToSnodes ids) := by
  induction ids with
  | nil => exact holds_pure fun swarmId member => absurd member List.not_mem_nil
  | cons first rest ih =>
    rw [starvingSwarms]
    refine holds_bind (swarmAt_holds (present first List.mem_cons_self)) fun nodes _ => ?_
    refine holds_bind (ih fun swarmId member => present swarmId (List.mem_cons_of_mem _ member))
      fun starving within => holds_pure fun swarmId member => ?_
    split at member
    · rcases List.mem_cons.mp member with same | later
      · exact same ▸ List.mem_cons_self
      · exact List.mem_cons_of_mem _ (within swarmId later)
    · exact List.mem_cons_of_mem _ (within swarmId member)

section Phases

variable (engine : RandomEngine σ) {allSwarms : List UInt64}

theorem fillFromBuffer_holds {swarmId : UInt64} (member : swarmId ∈ allSwarms) (needed : Nat)
    {s : SwarmState σ} (covers : Covers allSwarms s.swarmToSnodes) :
    Holds OutOfFuel (fun s' => Covers allSwarms s'.swarmToSnodes) (fillFromBuffer engine swarmId needed s) := by
  induction needed generalizing s with
  | zero => exact holds_pure covers
  | succ needed ih =>
    rw [fillFromBuffer]
    split
    · exact holds_pure covers
    · next nonempty =>
      refine holds_bind (popRandomSnode_holds engine _ (by simpa using nonempty)) ?_
      rintro ⟨snPk, buffer, state⟩ -
      refine holds_bind (swarmAt_holds (covers.present swarmId member)) fun nodes _ => ?_
      exact ih (covers.set swarmId _)

theorem fillStarving_holds (starving : List UInt64) (within : ∀ swarmId ∈ starving, swarmId ∈ allSwarms)
    {s : SwarmState σ} (covers : Covers allSwarms s.swarmToSnodes) :
    Holds OutOfFuel (fun s' => Covers allSwarms s'.swarmToSnodes) (fillStarving engine starving s) := by
  induction starving generalizing s with
  | nil => exact holds_pure covers
  | cons swarmId rest ih =>
    have member := within swarmId List.mem_cons_self
    rw [fillStarving]
    refine holds_bind (swarmAt_holds (covers.present swarmId member)) fun nodes _ => ?_
    refine holds_bind (fillFromBuffer_holds engine member _ covers) fun s filled => ?_
    split
    · exact holds_pure filled
    · exact ih (fun other otherIn => within other (List.mem_cons_of_mem _ otherIn)) filled

theorem stealNodes_holds {swarmId : UInt64} (member : swarmId ∈ allSwarms) (needed : Nat)
    {s : SwarmState σ} (covers : Covers allSwarms s.swarmToSnodes) :
    Holds OutOfFuel (fun result => Covers allSwarms result.2.swarmToSnodes)
      (stealNodes engine allSwarms swarmId needed s) := by
  induction needed generalizing s with
  | zero => exact holds_pure covers
  | succ needed ih =>
    rw [stealNodes]
    refine holds_bind (maxElement_holds covers.present (List.ne_nil_of_mem member))
      fun largeSwarm largeIn => ?_
    refine holds_bind (swarmAt_holds (covers.present largeSwarm largeIn)) fun large _ => ?_
    split
    · exact holds_pure covers
    · next plenty =>
      have nonempty : large ≠ [] := List.ne_nil_of_length_pos (by unfold minSwarmSize at plenty; omega)
      refine holds_bind (popRandomSnode_holds engine _ nonempty) ?_
      rintro ⟨snPk, large, state⟩ -
      have coversLarge := covers.set largeSwarm large
      refine holds_bind (swarmAt_holds (coversLarge.present swarmId member)) fun nodes _ => ?_
      exact ih (coversLarge.set swarmId _)

theorem stealForStarving_holds (starving : List UInt64)
    (within : ∀ swarmId ∈ starving, swarmId ∈ allSwarms) {s : SwarmState σ}
    (covers : Covers allSwarms s.swarmToSnodes) :
    Holds OutOfFuel (fun s' => Covers allSwarms s'.swarmToSnodes)
      (stealForStarving engine allSwarms starving s) := by
  induction starving generalizing s with
  | nil => exact holds_pure covers
  | cons swarmId rest ih =>
    have member := within swarmId List.mem_cons_self
    have restWithin : ∀ other ∈ rest, other ∈ allSwarms :=
      fun other otherIn => within other (List.mem_cons_of_mem _ otherIn)
    rw [stealForStarving]
    refine holds_bind (swarmAt_holds (covers.present swarmId member)) fun nodes _ => ?_
    split
    · exact ih restWithin covers
    · refine holds_bind (stealNodes_holds engine member _ covers) ?_
      rintro ⟨canContinue, s⟩ stolen
      cases canContinue
      · exact holds_pure stolen
      · exact ih restWithin stolen

/-- What phase 3 leaves: an empty queue, no swarms, or no swarm below
`MAX_SWARM_SIZE` nodes. -/
def Saturated (allSwarms : List UInt64) (s : SwarmState σ) : Prop :=
  s.swarmBuffer = [] ∨ allSwarms = [] ∨
    ∀ swarmId ∈ allSwarms, maxSwarmSize ≤ swarmSize s.swarmToSnodes swarmId

theorem fillUnsaturated_holds (fuel : Nat) {s : SwarmState σ}
    (covers : Covers allSwarms s.swarmToSnodes) (bounded : s.swarmBuffer.length ≤ fuel) :
    Holds OutOfFuel (fun s' => Covers allSwarms s'.swarmToSnodes ∧ Saturated allSwarms s')
      (fillUnsaturated engine allSwarms fuel s) := by
  induction fuel generalizing s with
  | zero => exact holds_pure ⟨covers, Or.inl (List.eq_nil_of_length_eq_zero (by omega))⟩
  | succ fuel ih =>
    rw [fillUnsaturated]
    split
    · next stop =>
      simp only [Bool.or_eq_true, List.isEmpty_iff] at stop
      refine holds_pure ⟨covers, ?_⟩
      rcases stop with empty | noSwarms
      · exact Or.inl empty
      · exact Or.inr (Or.inl noSwarms)
    · next going =>
      simp only [Bool.or_eq_true, List.isEmpty_iff, not_or] at going
      refine holds_bind (minElement_holds covers.present going.2) ?_
      rintro smallestSwarm ⟨smallestIn, least⟩
      refine holds_bind (swarmAt_holds (covers.present smallestSwarm smallestIn)) fun swarm found => ?_
      split
      · next full =>
        have smallestSize : swarmSize s.swarmToSnodes smallestSwarm = maxSwarmSize := by
          rw [swarmSize, found, Option.getD_some, full]
        refine holds_pure ⟨covers, Or.inr (Or.inr fun swarmId member => ?_)⟩
        exact smallestSize ▸ least swarmId member
      · refine holds_bind (popRandomSnode_holds engine _ going.1) ?_
        rintro ⟨snPk, buffer, state⟩ shorter
        exact ih (covers.set smallestSwarm _) (by simp only at shorter ⊢; omega)

def Full (swarmToSnodes : SwarmMap) : Prop :=
  ∀ entry ∈ swarmToSnodes.entries, maxSwarmSize ≤ entry.2.length

theorem full_of_saturated {s : SwarmState σ} (covers : Covers allSwarms s.swarmToSnodes)
    (saturated : Saturated allSwarms s) (enough : maxSwarmSize + swarmBuffer ≤ s.swarmBuffer.length) :
    Full s.swarmToSnodes := by
  intro entry member
  have key : entry.1 ∈ s.swarmToSnodes.keys := List.mem_map_of_mem member
  rcases saturated with empty | noSwarms | full
  · rw [empty] at enough
    exact absurd enough (by decide)
  · exact absurd (covers.listed _ key) (noSwarms ▸ List.not_mem_nil)
  · have entrySize := full entry.1 (covers.listed _ key)
    rwa [swarmSize, SortedMap.find?_of_mem member, Option.getD_some] at entrySize

theorem newSwarmIdFrom_holds (ids : List UInt64) (fuel : Nat) (idNew : UInt64) (state : σ) :
    Holds OutOfFuel (fun _ => True) (newSwarmIdFrom engine ids fuel idNew state) := by
  induction fuel generalizing idNew state with
  | zero =>
    rw [newSwarmIdFrom]
    split
    · exact holds_pure trivial
    · exact holds_throw rfl
  | succ fuel ih =>
    rw [newSwarmIdFrom]
    split
    · exact holds_pure trivial
    · exact holds_bind (drawBelow_holds engine state (by norm_num)) fun drawn _ => ih _ _

theorem selectSnodes_holds (count : Nat) (selectedSnodes : List PublicKey) {s : SwarmState σ}
    (full : Full s.swarmToSnodes) (enough : count ≤ s.swarmBuffer.length) :
    Holds OutOfFuel
      (fun result => result.1.length = selectedSnodes.length + count ∧ Full result.2.swarmToSnodes)
      (selectSnodes engine count selectedSnodes s) := by
  induction count generalizing selectedSnodes s with
  | zero => exact holds_pure ⟨rfl, full⟩
  | succ count ih =>
    have nonempty : s.swarmBuffer ≠ [] := List.ne_nil_of_length_pos (by omega)
    have shorter : count ≤ s.swarmBuffer.dropLast.length := by
      rw [List.length_dropLast]
      omega
    rw [selectSnodes, List.getLast?_eq_some_getLast nonempty]
    dsimp only
    split
    · next swarms =>
      refine holds_bind (drawBelow_holds engine _ swarms) ?_
      rintro ⟨swarmIdx, state⟩ below
      dsimp only at below ⊢
      rw [List.getElem?_eq_getElem below]
      dsimp only
      have selectedFull := full _ (List.getElem_mem below)
      have selectedNonempty : (s.swarmToSnodes.entries[swarmIdx.toNat]).2 ≠ [] :=
        List.ne_nil_of_length_pos (by unfold maxSwarmSize at selectedFull; omega)
      refine holds_bind (popRandomSnode_holds engine state selectedNonempty) ?_
      rintro ⟨snode, selectedSwarm, state⟩ popped
      refine (ih _ (fun entry member => ?_) shorter).mono ?_
      · rcases SortedMap.mem_set member with written | old
        · rw [written, List.length_append, List.length_singleton, popped]
          exact selectedFull
        · exact full entry old
      · rintro result ⟨lengthEq, resultFull⟩
        refine ⟨?_, resultFull⟩
        rw [lengthEq, List.length_append, List.length_singleton]
        omega
    · refine (ih (s := ⟨s.swarmToSnodes, s.swarmBuffer.dropLast, s.mersenneTwister⟩) _ full
        shorter).mono ?_
      rintro result ⟨lengthEq, resultFull⟩
      refine ⟨?_, resultFull⟩
      rw [lengthEq, List.length_append, List.length_singleton]
      omega

theorem createSwarms_holds (seed : UInt64) (fuel loops : Nat) {s : SwarmState σ}
    (fullWhenRun : maxSwarmSize + swarmBuffer ≤ s.swarmBuffer.length → Full s.swarmToSnodes) :
    Holds OutOfFuel (fun _ => True) (createSwarms engine allSwarms seed fuel loops s) := by
  induction loops generalizing s with
  | zero => exact holds_pure trivial
  | succ loops ih =>
    rw [createSwarms]
    split
    · next run =>
      refine holds_bind (newSwarmIdFrom_holds engine allSwarms fuel queueSwarmId s.mersenneTwister) ?_
      rintro ⟨newSwarmId, state⟩ -
      dsimp only
      have shuffled :
          (antdShuffle engine s.swarmBuffer.toArray (seed + newSwarmId)).toList.length =
            s.swarmBuffer.length := by
        simpa using (antdShuffle_perm engine s.swarmBuffer.toArray (seed + newSwarmId)).length_eq
      refine holds_bind (selectSnodes_holds engine maxSwarmSize [] (fullWhenRun run)
        (by rw [shuffled]; omega)) ?_
      rintro ⟨selectedSnodes, selected⟩ ⟨selectedLength, selectedFull⟩
      refine ih fun _ entry member => ?_
      rcases SortedMap.mem_insert member with added | old
      · rw [added]
        exact le_of_eq (by simpa using selectedLength.symm)
      · exact selectedFull entry old
    · exact holds_pure trivial

end Phases

theorem calcSwarmChanges_holds (engine : RandomEngine σ) (fuel : Nat) (swarmToSnodes : SwarmMap)
    (seed : UInt64) :
    Holds OutOfFuel (fun _ => True) (calcSwarmChanges engine fuel swarmToSnodes seed) := by
  rw [calcSwarmChanges]
  generalize swarmToSnodes.erase queueSwarmId = swarms
  have perm : (antdShuffle engine (swarms.keys.mergeSort fun lhs rhs => decide (lhs ≤ rhs)).toArray
      seed).toList.Perm swarms.keys :=
    (antdShuffle_perm engine _ seed).trans (by simpa using List.mergeSort_perm swarms.keys _)
  generalize (antdShuffle engine (swarms.keys.mergeSort fun lhs rhs => decide (lhs ≤ rhs)).toArray
      seed).toList = allSwarms at perm ⊢
  have covers : Covers allSwarms swarms :=
    ⟨fun swarmId member => perm.mem_iff.mp member, fun swarmId member => perm.mem_iff.mpr member⟩
  refine holds_bind (starvingSwarms_holds covers.present) fun starving within => ?_
  refine holds_bind (fillStarving_holds engine starving within covers) fun s₁ covers₁ => ?_
  refine holds_bind (stealForStarving_holds engine starving within covers₁) fun s₂ covers₂ => ?_
  refine holds_bind (fillUnsaturated_holds engine _ covers₂ le_rfl) ?_
  rintro s₃ ⟨covers₃, saturated⟩
  exact holds_bind (createSwarms_holds engine seed fuel _ (full_of_saturated covers₃ saturated))
    fun _ _ => holds_pure trivial

theorem swarm_draws_stay_in_range (engine : RandomEngine σ) :
    (∀ (state : σ) (n : UInt64), 0 < n.toNat →
      (uniformDistributionPortable engine state n).1.toNat < n.toNat) ∧
    (∀ (state : σ) (vec : List PublicKey), vec ≠ [] →
      ∃ idx, ∃ below : idx < vec.length, ∃ next,
        popRandomSnode engine state vec = .ok (vec[idx], vec.eraseIdx idx, next)) ∧
    (∀ (fuel : Nat) (swarmToSnodes : SwarmMap) (seed : UInt64),
      (∃ result, calcSwarmChanges engine fuel swarmToSnodes seed = .ok result) ∨
        calcSwarmChanges engine fuel swarmToSnodes seed = .error .outOfFuel) := by
  refine ⟨fun state n positive => uniformDistributionPortable_lt engine state positive,
    fun state vec nonempty => popRandomSnode_eq engine state nonempty, fun fuel swarmToSnodes seed => ?_⟩
  rcases holds_iff.mp (calcSwarmChanges_holds engine fuel swarmToSnodes seed) with
    ⟨result, returned, -⟩ | ⟨fault, failed, outOfFuel⟩
  · exact Or.inl ⟨result, returned⟩
  · exact Or.inr (outOfFuel ▸ failed)

/-! ### A run with the halving counter -/

theorem drawBelow_halvingCounter {n : Nat} {state : UInt64} (positive : 0 < n) (small : n < 2 ^ 16)
    (early : state.toNat < 2 ^ 16) : drawBelow halvingCounter n state = .ok (0, state + 1) := by
  have bound : n.toUInt64.toNat = n := by
    simp only [Nat.toUInt64_eq, UInt64.toNat_ofNat', Nat.mod_eq_of_lt (show n < 2 ^ 64 by omega)]
  obtain ⟨multiple, low⟩ := secureMax_spec (show 0 < n.toUInt64.toNat by omega)
  rw [bound] at multiple
  have halved : (state >>> 1).toNat = state.toNat / 2 := by
    simp [UInt64.toNat_shiftRight, Nat.shiftRight_eq_div_pow]
  have quotient : ((maxValue - maxValue % n.toUInt64) / n.toUInt64).toNat = (2 ^ 64 - 1) / n := by
    rw [UInt64.toNat_div, multiple, bound, Nat.mul_div_cancel_left _ positive]
  have wide : 2 ^ 16 ≤ (2 ^ 64 - 1) / n := (Nat.le_div_iff_mul_le positive).mpr (by omega)
  have accepted : (halvingCounter.next state).1 < maxValue - maxValue % n.toUInt64 :=
    UInt64.lt_iff_toNat_lt.mpr (by show (state >>> 1).toNat < _; omega)
  unfold drawBelow
  rw [if_neg (by omega), uniformDistributionPortable_of_accepted halvingCounter state (by omega) accepted]
  have zero : (state >>> 1) / ((maxValue - maxValue % n.toUInt64) / n.toUInt64) = 0 :=
    UInt64.toNat_inj.mp (by rw [UInt64.toNat_div, halved, quotient, Nat.div_eq_of_lt (by omega)]; rfl)
  show Except.ok ((state >>> 1) / _, state + 1) = _
  rw [zero]

theorem popRandomSnode_halvingCounter {state : UInt64} {first : PublicKey} {rest : List PublicKey}
    (short : rest.length < 2 ^ 15) (early : state.toNat < 2 ^ 16) :
    popRandomSnode halvingCounter state (first :: rest) = .ok (first, rest, state + 1) := by
  rw [popRandomSnode, drawBelow_halvingCounter (by simp) (by simp; omega) early]
  rfl

def keyOf (byte : UInt8) : PublicKey := Pod.replicate 32 byte

def queuedSwarms : SwarmMap :=
  ⟨[(0, [keyOf 1, keyOf 2, keyOf 3, keyOf 4, keyOf 5, keyOf 6]), (1, [keyOf 7, keyOf 8, keyOf 9])],
    by decide⟩

theorem queue_fills_starving_swarm :
    (∃ idx, ∃ below : idx < [keyOf 1, keyOf 2, keyOf 3].length, ∃ next,
        popRandomSnode halvingCounter 5 [keyOf 1, keyOf 2, keyOf 3] =
          .ok ([keyOf 1, keyOf 2, keyOf 3][idx], [keyOf 1, keyOf 2, keyOf 3].eraseIdx idx, next)) ∧
      ((∃ result, calcSwarmChanges halvingCounter 10 queuedSwarms 7 = .ok result) ∨
        calcSwarmChanges halvingCounter 10 queuedSwarms 7 = .error .outOfFuel) ∧
      popRandomSnode halvingCounter 5 [keyOf 1, keyOf 2, keyOf 3] =
        .ok (keyOf 1, [keyOf 2, keyOf 3], 6) ∧
      (calcSwarmChanges halvingCounter 10 queuedSwarms 7).toOption.map (·.entries) =
        some [(0, []),
          (1, [keyOf 7, keyOf 8, keyOf 9, keyOf 1, keyOf 2, keyOf 3, keyOf 4, keyOf 5, keyOf 6])] := by
  obtain ⟨-, popped, ran⟩ := swarm_draws_stay_in_range halvingCounter
  refine ⟨popped 5 _ (List.cons_ne_nil _ _), ran 10 queuedSwarms 7,
    popRandomSnode_halvingCounter (by decide) (by decide), ?_⟩
  simp [calcSwarmChanges, queuedSwarms, antdShuffle, starvingSwarms, fillStarving, fillFromBuffer,
    swarmAt, stealForStarving, fillUnsaturated, createSwarms, minElement, selectFrom,
    SortedMap.erase, SortedMap.keys, SortedMap.find?, SortedMap.set, SortedMap.setEntries,
    SortedMap.insert, SortedMap.insertEntry, queueSwarmId, minSwarmSize, maxSwarmSize,
    popRandomSnode_halvingCounter, bind, Except.bind, pure, Except.pure,
    Except.toOption]

end Antd.FullNodes
