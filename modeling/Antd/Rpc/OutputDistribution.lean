import Mathlib

/-! The RCT output distribution a daemon serves to wallets: the query of
`Blockchain::get_output_distribution` and `BlockchainLMDB::get_output_distribution`,
the handler `RpcHandler::get_output_distribution` of `rpc_handler.cpp` with its
process-wide cache, and `core_rpc_server::on_get_output_distribution` on top.

The cache is keyed by the requested heights only. On a hit it returns the
cached vector as it is, and when only the top height grew it appends a
freshly read suffix to it. So it agrees with the chain as long as the chain
only grows (`cacheSound_run`), and a popped block leaves it stale
(`getOutputDistribution_stale_after_pop`).

Heights are natural numbers: the code's checks keep them below the chain
height. The distribution entries are `uint64_t`, with their wrapping
subtraction. -/

namespace Antd.Rpc

/-- The outputs of the main chain as the distribution queries read them: the
number of RCT outputs of each block, bottom up, and the amount and height of
each pre-RCT output, in the order of the amount's output index. -/
structure ChainOutputs where
  rctOutputs : List Nat
  amountOutputs : List (Nat × Nat)
  deriving DecidableEq, Repr

namespace ChainOutputs

def height (chain : ChainOutputs) : Nat := chain.rctOutputs.length

/-- `get_block_cumulative_rct_outputs` at one height: the block's
`bi_cum_rct`, the RCT outputs of the blocks up to it summed in 64 bits. -/
def cumulativeRctOutputs (chain : ChainOutputs) (blockHeight : Nat) : UInt64 :=
  ((chain.rctOutputs.take (blockHeight + 1)).sum).toUInt64

/-- What `add_block` adds to the tables the queries read: the block's RCT
output count and its pre-RCT outputs, at the new top height. -/
def addBlock (chain : ChainOutputs) (rctOutputs : Nat) (amounts : List Nat) : ChainOutputs where
  rctOutputs := chain.rctOutputs ++ [rctOutputs]
  amountOutputs := chain.amountOutputs ++ amounts.map fun amount => (amount, chain.height)

def popBlock (chain : ChainOutputs) : ChainOutputs where
  rctOutputs := chain.rctOutputs.dropLast
  amountOutputs := chain.amountOutputs.filter fun output => output.2 + 1 < chain.height

end ChainOutputs

/-! ### The queries -/

namespace BlockchainLMDB

/-- The cursor loop of `BlockchainLMDB::get_output_distribution` over the
heights of the amount's outputs: each is counted at its height, or in `base`
below `from_height`, and the loop stops after the first output above a
nonzero `to_height`. -/
def countOutputs (fromHeight toHeight : Nat) :
    List Nat → List UInt64 × UInt64 → List UInt64 × UInt64
  | [], counts => counts
  | outputHeight :: rest, (distribution, base) =>
      let counts :=
        if outputHeight ≥ fromHeight then
          (distribution.modify (outputHeight - fromHeight) (· + 1), base)
        else (distribution, base + 1)
      if toHeight > 0 ∧ outputHeight > toHeight then counts
      else countOutputs fromHeight toHeight rest counts

/-- The running sums the code leaves in the vector: `base` is added to the
first entry, and each later entry gets the one below it. -/
def runningSums (base : UInt64) : List UInt64 → List UInt64
  | [] => []
  | count :: rest => (base + count) :: runningSums (base + count) rest

/-- `BlockchainLMDB::get_output_distribution`: the cumulative distribution
from `from_height` to the top, and a zero `base`; none where it returns false. -/
def getOutputDistribution (chain : ChainOutputs) (amount fromHeight toHeight : Nat) :
    Option (List UInt64 × UInt64) :=
  if fromHeight ≥ chain.height then none
  else
    let outputHeights := (chain.amountOutputs.filter fun output => output.1 = amount).map (·.2)
    let counts := countOutputs fromHeight toHeight outputHeights
      (List.replicate (chain.height - fromHeight) 0, 0)
    some (runningSums counts.2 counts.1, 0)

end BlockchainLMDB

namespace Blockchain

/-- `Blockchain::get_output_distribution`: `(start_height, distribution, base)`,
none where it returns false. For amount 0 it reads the cumulative RCT counts
from one height below `from_height`, which becomes `base`. Reading
`distribution[0]` of an empty vector (a zero `to_height` under a
`from_height` of 2 or more) is undefined in the code; the model reads 0. -/
def getOutputDistribution (chain : ChainOutputs) (amount fromHeight toHeight : Nat) :
    Option (Nat × List UInt64 × UInt64) :=
  if toHeight > 0 ∧ toHeight < fromHeight then none
  else
    let startHeight := fromHeight
    let dbHeight := chain.height
    if dbHeight = 0 then none
    else if startHeight ≥ dbHeight ∨ toHeight ≥ dbHeight then none
    else if amount = 0 then
      let realStartHeight := if startHeight > 0 then startHeight - 1 else startHeight
      let distribution := (List.range' realStartHeight (toHeight + 1 - realStartHeight)).map
        chain.cumulativeRctOutputs
      if startHeight > 0 then some (startHeight, distribution.tail, distribution.headD 0)
      else some (startHeight, distribution, 0)
    else
      (BlockchainLMDB.getOutputDistribution chain amount startHeight toHeight).map
        fun answer => (startHeight, answer)

end Blockchain

/-! ### The handler and its cache -/

structure OutputDistributionData where
  distribution : List UInt64
  startHeight : Nat
  base : UInt64
  deriving DecidableEq, Repr

/-- The static cache of `RpcHandler::get_output_distribution`, as its
constructor leaves it. -/
structure DistributionCache where
  cachedDistribution : List UInt64 := []
  cachedFrom : Nat := 0
  cachedTo : Nat := 0
  cachedStartHeight : Nat := 0
  cachedBase : UInt64 := 0
  cached : Bool := false
  deriving DecidableEq, Repr

/-- `process_distribution`. Without `cumulative` each entry loses the one
below it and the first loses `base`: the loop runs down from the top, so each
subtraction reads an entry not yet changed. -/
def processDistribution (cumulative : Bool) (startHeight : Nat) (distribution : List UInt64)
    (base : UInt64) : OutputDistributionData :=
  if !cumulative && !distribution.isEmpty then
    ⟨List.zipWith (· - ·) distribution (base :: distribution), startHeight, base⟩
  else ⟨distribution, startHeight, base⟩

/-- The query the handler is given, as `core_rpc_server` binds it. -/
abbrev DistributionQuery := Nat → Nat → Nat → Option (Nat × List UInt64 × UInt64)

namespace RpcHandler

def trimmed (fromHeight toHeight startHeight : Nat) (distribution : List UInt64) :
    List UInt64 :=
  if toHeight > 0 ∧ toHeight ≥ fromHeight then
    let offset := max fromHeight startHeight
    if offset ≤ toHeight ∧ toHeight - offset + 1 < distribution.length then
      distribution.take (toHeight - offset + 1)
    else distribution
  else distribution

/-- The vector the handler works from when the cache misses: the cached one
extended by a fresh suffix when only the top height grew, else a fresh query. -/
def fetch (f : DistributionQuery) (amount fromHeight toHeight : Nat) (d : DistributionCache) :
    Option (Nat × List UInt64 × UInt64) :=
  if d.cached ∧ amount = 0 ∧ d.cachedFrom = fromHeight ∧ toHeight > d.cachedTo then
    (f amount (d.cachedTo + 1) toHeight).map fun answer =>
      (d.cachedStartHeight, d.cachedDistribution ++ answer.2.1, d.cachedBase)
  else f amount fromHeight toHeight

def getOutputDistribution (f : DistributionQuery) (amount fromHeight toHeight : Nat)
    (cumulative : Bool) (d : DistributionCache) :
    Option OutputDistributionData × DistributionCache :=
  if d.cached ∧ amount = 0 ∧ d.cachedFrom = fromHeight ∧ d.cachedTo = toHeight then
    (some (processDistribution cumulative d.cachedStartHeight d.cachedDistribution
      d.cachedBase), d)
  else
    match fetch f amount fromHeight toHeight d with
    | none => (none, d)
    | some (startHeight, distribution, base) =>
        let distribution := trimmed fromHeight toHeight startHeight distribution
        let d := if amount = 0 then ⟨distribution, fromHeight, toHeight, startHeight, base, true⟩
          else d
        (some (processDistribution cumulative startHeight distribution base), d)

end RpcHandler

namespace CoreRpcServer

/-- The loop of `on_get_output_distribution` over the requested amounts: the
first failure fails the request. -/
def distributionsLoop (chain : ChainOutputs) (fromHeight toHeight : Nat) (cumulative : Bool) :
    List Nat → List (Nat × OutputDistributionData) → DistributionCache →
      Option (List (Nat × OutputDistributionData)) × DistributionCache
  | [], distributions, d => (some distributions, d)
  | amount :: rest, distributions, d =>
      match RpcHandler.getOutputDistribution (Blockchain.getOutputDistribution chain) amount
          fromHeight toHeight cumulative d with
      | (none, d) => (none, d)
      | (some data, d) => distributionsLoop chain fromHeight toHeight cumulative rest
          (distributions ++ [(amount, data)]) d

/-- `core_rpc_server::on_get_output_distribution`: a `to_height` of 0 asks
for the whole chain. -/
def onGetOutputDistribution (chain : ChainOutputs) (amounts : List Nat)
    (fromHeight toHeight : Nat) (cumulative : Bool) (d : DistributionCache) :
    Option (List (Nat × OutputDistributionData)) × DistributionCache :=
  let reqToHeight := if toHeight ≠ 0 then toHeight else chain.height - 1
  distributionsLoop chain fromHeight reqToHeight cumulative amounts [] d

end CoreRpcServer

/-! ### The daemon over a run -/

/-- What happens to a daemon: a block added or popped, or a distribution request. -/
inductive Event
  | addBlock (rctOutputs : Nat) (amounts : List Nat)
  | popBlock
  | request (amounts : List Nat) (fromHeight toHeight : Nat) (cumulative : Bool)
  deriving DecidableEq, Repr

structure Daemon where
  chain : ChainOutputs
  cache : DistributionCache
  deriving DecidableEq, Repr

def Daemon.step (daemon : Daemon) : Event → Daemon
  | .addBlock rctOutputs amounts => { daemon with chain := daemon.chain.addBlock rctOutputs amounts }
  | .popBlock => { daemon with chain := daemon.chain.popBlock }
  | .request amounts fromHeight toHeight cumulative =>
      { daemon with cache := (CoreRpcServer.onGetOutputDistribution daemon.chain amounts
          fromHeight toHeight cumulative daemon.cache).2 }

def Daemon.run (daemon : Daemon) (events : List Event) : Daemon :=
  events.foldl Daemon.step daemon

/-! ### What the chain says -/

namespace ChainOutputs

/-- The cumulative distribution from `fromHeight` to `toHeight`: entry `i`
counts the RCT outputs of the blocks up to `fromHeight + i`. -/
def cumulativeRange (chain : ChainOutputs) (fromHeight toHeight : Nat) : List UInt64 :=
  (List.range' fromHeight (toHeight + 1 - fromHeight)).map chain.cumulativeRctOutputs

def baseBelow (chain : ChainOutputs) (fromHeight : Nat) : UInt64 :=
  if fromHeight > 0 then chain.cumulativeRctOutputs (fromHeight - 1) else 0

theorem length_cumulativeRange (chain : ChainOutputs) (fromHeight toHeight : Nat) :
    (chain.cumulativeRange fromHeight toHeight).length = toHeight + 1 - fromHeight := by
  simp [cumulativeRange]

theorem cumulativeRange_append (chain : ChainOutputs) {fromHeight middle toHeight : Nat}
    (ordered : fromHeight ≤ middle + 1) (grew : middle < toHeight) :
    chain.cumulativeRange fromHeight middle ++ chain.cumulativeRange (middle + 1) toHeight =
      chain.cumulativeRange fromHeight toHeight := by
  unfold cumulativeRange
  rw [← List.map_append]
  have joined := @List.range'_append fromHeight (middle + 1 - fromHeight) (toHeight - middle) 1
  rw [show fromHeight + 1 * (middle + 1 - fromHeight) = middle + 1 by omega,
    show middle + 1 - fromHeight + (toHeight - middle) = toHeight + 1 - fromHeight by omega]
    at joined
  rw [show toHeight + 1 - (middle + 1) = toHeight - middle by omega, joined]

theorem cumulativeRctOutputs_addBlock (chain : ChainOutputs) (rctOutputs : Nat)
    (amounts : List Nat) {blockHeight : Nat} (below : blockHeight < chain.height) :
    (chain.addBlock rctOutputs amounts).cumulativeRctOutputs blockHeight =
      chain.cumulativeRctOutputs blockHeight := by
  unfold cumulativeRctOutputs addBlock
  rw [List.take_append_of_le_length below]

theorem cumulativeRange_addBlock (chain : ChainOutputs) (rctOutputs : Nat) (amounts : List Nat)
    {fromHeight toHeight : Nat} (below : toHeight < chain.height) :
    (chain.addBlock rctOutputs amounts).cumulativeRange fromHeight toHeight =
      chain.cumulativeRange fromHeight toHeight := by
  unfold cumulativeRange
  apply List.map_congr_left
  intro blockHeight member
  rw [List.mem_range'_1] at member
  exact cumulativeRctOutputs_addBlock chain rctOutputs amounts (by omega)

theorem baseBelow_addBlock (chain : ChainOutputs) (rctOutputs : Nat) (amounts : List Nat)
    {fromHeight : Nat} (below : fromHeight < chain.height) :
    (chain.addBlock rctOutputs amounts).baseBelow fromHeight = chain.baseBelow fromHeight := by
  unfold baseBelow
  split
  · exact cumulativeRctOutputs_addBlock chain rctOutputs amounts (by omega)
  · rfl

theorem height_addBlock (chain : ChainOutputs) (rctOutputs : Nat) (amounts : List Nat) :
    (chain.addBlock rctOutputs amounts).height = chain.height + 1 := by
  simp [addBlock, height]

end ChainOutputs

/-! ### The RCT query -/

namespace Blockchain

theorem getOutputDistribution_rct (chain : ChainOutputs) {fromHeight toHeight : Nat}
    (ordered : fromHeight ≤ toHeight) (below : toHeight < chain.height) :
    getOutputDistribution chain 0 fromHeight toHeight =
      some (fromHeight, chain.cumulativeRange fromHeight toHeight, chain.baseBelow fromHeight) := by
  unfold getOutputDistribution
  rw [if_neg (by omega)]
  dsimp only
  rw [if_neg (by omega), if_neg (by omega), if_pos rfl]
  by_cases above : fromHeight > 0
  · rw [if_pos above, if_pos above,
      show toHeight + 1 - (fromHeight - 1) = (toHeight + 1 - fromHeight) + 1 by omega,
      List.range'_succ, List.map_cons, List.tail_cons, List.headD_cons,
      show fromHeight - 1 + 1 = fromHeight by omega]
    simp only [ChainOutputs.cumulativeRange, ChainOutputs.baseBelow, if_pos above]
  · rw [if_neg above, if_neg above]
    obtain rfl : fromHeight = 0 := by omega
    simp only [ChainOutputs.cumulativeRange, ChainOutputs.baseBelow, if_neg above]

theorem getOutputDistribution_zero (chain : ChainOutputs) {fromHeight toHeight : Nat}
    (whole : toHeight = 0 → fromHeight = 0 ∨ chain.height ≤ 1) :
    getOutputDistribution chain 0 fromHeight toHeight =
      if fromHeight ≤ toHeight ∧ toHeight < chain.height then
        some (fromHeight, chain.cumulativeRange fromHeight toHeight, chain.baseBelow fromHeight)
      else none := by
  by_cases within : fromHeight ≤ toHeight ∧ toHeight < chain.height
  · rw [if_pos within]
    exact getOutputDistribution_rct chain within.1 within.2
  rw [if_neg within]
  unfold getOutputDistribution
  by_cases reversed : toHeight > 0 ∧ toHeight < fromHeight
  · rw [if_pos reversed]
  rw [if_neg reversed]
  dsimp only
  by_cases empty : chain.height = 0
  · rw [if_pos empty]
  · rw [if_neg empty, if_pos (by omega)]

end Blockchain

/-! ### The cache over a run -/

def CacheSound (chain : ChainOutputs) (d : DistributionCache) : Prop :=
  d.cached = true → d.cachedFrom ≤ d.cachedTo ∧ d.cachedTo < chain.height ∧
    d.cachedStartHeight = d.cachedFrom ∧
    d.cachedDistribution = chain.cumulativeRange d.cachedFrom d.cachedTo ∧
    d.cachedBase = chain.baseBelow d.cachedFrom

theorem cacheSound_empty (chain : ChainOutputs) : CacheSound chain {} := by
  intro cached
  cases cached

namespace RpcHandler

theorem trimmed_cumulativeRange (chain : ChainOutputs) (fromHeight toHeight : Nat) :
    trimmed fromHeight toHeight fromHeight (chain.cumulativeRange fromHeight toHeight) =
      chain.cumulativeRange fromHeight toHeight := by
  unfold trimmed
  split
  · dsimp only
    rw [max_self, if_neg (by rw [ChainOutputs.length_cumulativeRange]; omega)]
  · rfl

variable {chain : ChainOutputs} {d : DistributionCache}

theorem fetch_rct (sound : CacheSound chain d) {fromHeight toHeight : Nat}
    (whole : toHeight = 0 → fromHeight = 0 ∨ chain.height ≤ 1) :
    fetch (Blockchain.getOutputDistribution chain) 0 fromHeight toHeight d =
      if fromHeight ≤ toHeight ∧ toHeight < chain.height then
        some (fromHeight, chain.cumulativeRange fromHeight toHeight, chain.baseBelow fromHeight)
      else none := by
  unfold fetch
  by_cases grows : d.cached ∧ 0 = 0 ∧ d.cachedFrom = fromHeight ∧ toHeight > d.cachedTo
  · rw [if_pos grows]
    obtain ⟨cached, -, sameFrom, grew⟩ := grows
    obtain ⟨ordered, -, start, distribution, base⟩ := sound cached
    rw [Blockchain.getOutputDistribution_zero chain (fun zero => absurd zero (by omega))]
    by_cases within : toHeight < chain.height
    · rw [if_pos ⟨by omega, within⟩, if_pos ⟨by omega, within⟩, Option.map_some, start,
        distribution, base, sameFrom, ChainOutputs.cumulativeRange_append chain (by omega) grew]
    · rw [if_neg (by omega), if_neg (by omega), Option.map_none]
  · rw [if_neg grows, Blockchain.getOutputDistribution_zero chain whole]

theorem getOutputDistribution_rct (sound : CacheSound chain d) {fromHeight toHeight : Nat}
    (ordered : fromHeight ≤ toHeight) (below : toHeight < chain.height) (cumulative : Bool) :
    (getOutputDistribution (Blockchain.getOutputDistribution chain) 0 fromHeight toHeight
        cumulative d).1 =
      some (processDistribution cumulative fromHeight (chain.cumulativeRange fromHeight toHeight)
        (chain.baseBelow fromHeight)) ∧
    CacheSound chain (getOutputDistribution (Blockchain.getOutputDistribution chain) 0
      fromHeight toHeight cumulative d).2 := by
  unfold getOutputDistribution
  by_cases hit : d.cached ∧ 0 = 0 ∧ d.cachedFrom = fromHeight ∧ d.cachedTo = toHeight
  · rw [if_pos hit]
    obtain ⟨cached, -, sameFrom, sameTo⟩ := hit
    obtain ⟨-, -, start, distribution, base⟩ := sound cached
    rw [start, distribution, base, sameFrom, sameTo]
    exact ⟨rfl, sound⟩
  · rw [if_neg hit, fetch_rct sound (fun _ => Or.inl (by omega)), if_pos ⟨ordered, below⟩]
    dsimp only
    rw [if_pos rfl, trimmed_cumulativeRange]
    exact ⟨rfl, fun _ => ⟨ordered, below, rfl, rfl, rfl⟩⟩

theorem cacheSound_getOutputDistribution (sound : CacheSound chain d)
    (amount fromHeight toHeight : Nat) (cumulative : Bool)
    (whole : toHeight = 0 → fromHeight = 0 ∨ chain.height ≤ 1) :
    CacheSound chain (getOutputDistribution (Blockchain.getOutputDistribution chain) amount
      fromHeight toHeight cumulative d).2 := by
  unfold getOutputDistribution
  by_cases hit : d.cached ∧ amount = 0 ∧ d.cachedFrom = fromHeight ∧ d.cachedTo = toHeight
  · rw [if_pos hit]
    exact sound
  rw [if_neg hit]
  by_cases rct : amount = 0
  · subst rct
    rw [fetch_rct sound whole]
    by_cases within : fromHeight ≤ toHeight ∧ toHeight < chain.height
    · rw [if_pos within]
      dsimp only
      rw [if_pos rfl, trimmed_cumulativeRange]
      exact fun _ => ⟨within.1, within.2, rfl, rfl, rfl⟩
    · rw [if_neg within]
      exact sound
  · split
    · exact sound
    · dsimp only
      rw [if_neg rct]
      exact sound

end RpcHandler

namespace CoreRpcServer

theorem cacheSound_distributionsLoop {chain : ChainOutputs} {fromHeight toHeight : Nat}
    {cumulative : Bool} (whole : toHeight = 0 → fromHeight = 0 ∨ chain.height ≤ 1)
    (amounts : List Nat) :
    ∀ distributions d, CacheSound chain d →
      CacheSound chain (distributionsLoop chain fromHeight toHeight cumulative amounts
        distributions d).2 := by
  induction amounts with
  | nil => exact fun _ _ sound => sound
  | cons amount rest ih =>
      intro distributions d sound
      have called := RpcHandler.cacheSound_getOutputDistribution sound amount fromHeight
        toHeight cumulative whole
      unfold distributionsLoop
      generalize RpcHandler.getOutputDistribution (Blockchain.getOutputDistribution chain)
        amount fromHeight toHeight cumulative d = call at called ⊢
      obtain ⟨answer, d⟩ := call
      cases answer with
      | none => exact called
      | some data => exact ih _ d called

theorem cacheSound_onGetOutputDistribution {chain : ChainOutputs} {d : DistributionCache}
    (sound : CacheSound chain d) (amounts : List Nat) (fromHeight toHeight : Nat)
    (cumulative : Bool) :
    CacheSound chain (onGetOutputDistribution chain amounts fromHeight toHeight cumulative d).2 := by
  unfold onGetOutputDistribution
  apply cacheSound_distributionsLoop _ amounts [] d sound
  intro zero
  split at zero
  · contradiction
  · exact Or.inr (by omega)

end CoreRpcServer

theorem cacheSound_step {daemon : Daemon} (sound : CacheSound daemon.chain daemon.cache)
    {event : Event} (notPop : event ≠ .popBlock) :
    CacheSound (daemon.step event).chain (daemon.step event).cache := by
  cases event with
  | addBlock rctOutputs amounts =>
      show CacheSound (daemon.chain.addBlock rctOutputs amounts) daemon.cache
      intro cached
      obtain ⟨ordered, below, start, distribution, base⟩ := sound cached
      refine ⟨ordered, ?_, start, ?_, ?_⟩
      · rw [ChainOutputs.height_addBlock]
        omega
      · rw [ChainOutputs.cumulativeRange_addBlock _ _ _ below]
        exact distribution
      · rw [ChainOutputs.baseBelow_addBlock _ _ _ (by omega)]
        exact base
  | popBlock => exact absurd rfl notPop
  | request amounts fromHeight toHeight cumulative =>
      exact CoreRpcServer.cacheSound_onGetOutputDistribution sound amounts fromHeight toHeight
        cumulative

theorem cacheSound_run (events : List Event) (noPops : ∀ event ∈ events, event ≠ .popBlock) :
    ∀ daemon : Daemon, CacheSound daemon.chain daemon.cache →
      CacheSound (daemon.run events).chain (daemon.run events).cache := by
  induction events with
  | nil => exact fun _ sound => sound
  | cons event rest ih =>
      intro daemon sound
      exact ih (fun later member => noPops later (List.mem_cons_of_mem _ member))
        (daemon.step event) (cacheSound_step sound (noPops event List.mem_cons_self))

theorem getOutputDistribution_exact_without_pops (chain : ChainOutputs) (events : List Event)
    (noPops : ∀ event ∈ events, event ≠ .popBlock) {fromHeight toHeight : Nat}
    (cumulative : Bool) (ordered : fromHeight ≤ toHeight)
    (below : toHeight < (Daemon.run ⟨chain, {}⟩ events).chain.height) :
    let daemon := Daemon.run ⟨chain, {}⟩ events
    (RpcHandler.getOutputDistribution (Blockchain.getOutputDistribution daemon.chain) 0
        fromHeight toHeight cumulative daemon.cache).1 =
      some (processDistribution cumulative fromHeight
        (daemon.chain.cumulativeRange fromHeight toHeight) (daemon.chain.baseBelow fromHeight)) :=
  (RpcHandler.getOutputDistribution_rct
    (cacheSound_run events noPops ⟨chain, {}⟩ (cacheSound_empty chain)) ordered below
    cumulative).1

theorem exact_after_request_and_block :
    (∀ event ∈ [Event.request [0] 0 1 true, .addBlock 2 []], event ≠ .popBlock) ∧ 0 ≤ 2 ∧
      2 < (Daemon.run ⟨⟨[1, 1], []⟩, {}⟩ [.request [0] 0 1 true, .addBlock 2 []]).chain.height ∧
      let daemon := Daemon.run ⟨⟨[1, 1], []⟩, {}⟩ [.request [0] 0 1 true, .addBlock 2 []]
      (RpcHandler.getOutputDistribution (Blockchain.getOutputDistribution daemon.chain) 0 0 2 true
          daemon.cache).1 =
        some (processDistribution true 0 (daemon.chain.cumulativeRange 0 2)
          (daemon.chain.baseBelow 0)) :=
  have noPops : ∀ event ∈ [Event.request [0] 0 1 true, .addBlock 2 []], event ≠ .popBlock := by
    decide
  ⟨noPops, by decide, by decide,
    getOutputDistribution_exact_without_pops _ _ noPops true (by decide) (by decide)⟩

/-- After a popped block the cache answers for the old chain: a request on a
chain of two blocks with one RCT output each, then the top block popped and
one with five RCT outputs added, then the same request again. -/
theorem getOutputDistribution_stale_after_pop :
    (Daemon.run ⟨⟨[1, 1], []⟩, {}⟩ [.request [0] 0 1 true, .popBlock, .addBlock 5 []]).chain =
        ⟨[1, 5], []⟩ ∧
      (CoreRpcServer.onGetOutputDistribution ⟨[1, 5], []⟩ [0] 0 1 true
          (Daemon.run ⟨⟨[1, 1], []⟩, {}⟩
            [.request [0] 0 1 true, .popBlock, .addBlock 5 []]).cache).1 =
        some [(0, ⟨[1, 2], 0, 0⟩)] ∧
      ChainOutputs.cumulativeRange ⟨[1, 5], []⟩ 0 1 = [1, 6] := by
  decide

end Antd.Rpc
