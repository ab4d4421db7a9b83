import Antd.Lib.Stripes

/-! The pruning stripes of `common/pruning.cpp`. A pruning seed holds a stripe
`1 ≤ stripe ≤ 2 ^ log_stripes` and `log_stripes`; a block below the last
`CRYPTONOTE_PRUNING_TIP_BLOCKS` keeps its prunable data only on the nodes of
the stripe of its span of `CRYPTONOTE_PRUNING_STRIPE_SIZE` blocks.

Heights are at most `CRYPTONOTE_MAX_BLOCK_NUMBER + 1`, where none of the
code's `uint64_t` sums wraps, and are taken as natural numbers. -/

namespace Antd.Tools

open Stripes

def pruningSeedLogStripesShift : Nat := 7

def pruningSeedLogStripesMask : Nat := 0x7

def pruningSeedStripeShift : Nat := 0

def pruningSeedStripeMask : Nat := 0x7f

def cryptonotePruningStripeSize : Nat := 4096

def cryptonotePruningLogStripes : Nat := 3

def cryptonotePruningTipBlocks : Nat := 5500

def cryptonoteMaxBlockNumber : Nat := 500000000

def getPruningLogStripes (pruningSeed : Nat) : Nat :=
  (pruningSeed >>> pruningSeedLogStripesShift) &&& pruningSeedLogStripesMask

def getPruningStripe (pruningSeed : Nat) : Nat :=
  if pruningSeed = 0 then 0
  else 1 + ((pruningSeed >>> pruningSeedStripeShift) &&& pruningSeedStripeMask)

def makePruningSeed (stripe logStripes : Nat) : Option Nat :=
  if logStripes ≤ pruningSeedLogStripesMask ∧ 0 < stripe ∧ stripe ≤ 1 <<< logStripes then
    some ((logStripes <<< pruningSeedLogStripesShift) |||
      ((stripe - 1) <<< pruningSeedStripeShift))
  else none

/-- `get_pruning_stripe(block_height, blockchain_height, log_stripes)`: 0 in
the tip zone. -/
def getPruningStripeOfBlock (blockHeight blockchainHeight logStripes : Nat) : Nat :=
  if blockHeight + cryptonotePruningTipBlocks ≥ blockchainHeight then 0
  else ((blockHeight / cryptonotePruningStripeSize) &&& ((1 <<< logStripes) - 1)) + 1

def hasUnprunedBlock (blockHeight blockchainHeight pruningSeed : Nat) : Bool :=
  let stripe := getPruningStripe pruningSeed
  if stripe = 0 then true
  else
    let logStripes := getPruningLogStripes pruningSeed
    let blockStripe := getPruningStripeOfBlock blockHeight blockchainHeight logStripes
    blockStripe == 0 || blockStripe == stripe

/-- `get_next_unpruned_block_height`. Its `CHECK_AND_ASSERT_MES` return
`block_height` when they fail. -/
def getNextUnprunedBlockHeight (blockHeight blockchainHeight pruningSeed : Nat) : Nat :=
  if ¬blockHeight ≤ cryptonoteMaxBlockNumber + 1 then blockHeight
  else if ¬blockchainHeight ≤ cryptonoteMaxBlockNumber + 1 then blockHeight
  else
    let stripe := getPruningStripe pruningSeed
    if stripe = 0 then blockHeight
    else if blockHeight + cryptonotePruningTipBlocks ≥ blockchainHeight then blockHeight
    else
      let seedLogStripes := getPruningLogStripes pruningSeed
      let logStripes := if seedLogStripes ≠ 0 then seedLogStripes else cryptonotePruningLogStripes
      let mask := (1 <<< logStripes) - 1
      let blockPruningStripe := ((blockHeight / cryptonotePruningStripeSize) &&& mask) + 1
      if blockPruningStripe = stripe then blockHeight
      else
        let cycles := (blockHeight / cryptonotePruningStripeSize) >>> logStripes
        let cycleStart := cycles + if stripe > blockPruningStripe then 0 else 1
        let h := cycleStart * (cryptonotePruningStripeSize <<< logStripes) +
          (stripe - 1) * cryptonotePruningStripeSize
        if h + cryptonotePruningTipBlocks > blockchainHeight then
          if blockchainHeight < cryptonotePruningTipBlocks then 0
          else blockchainHeight - cryptonotePruningTipBlocks
        else if h ≥ blockHeight then h
        else blockHeight

def getNextPrunedBlockHeight (blockHeight blockchainHeight pruningSeed : Nat) : Option Nat :=
  let stripe := getPruningStripe pruningSeed
  if stripe = 0 then some blockchainHeight
  else if blockHeight + cryptonotePruningTipBlocks ≥ blockchainHeight then some blockchainHeight
  else
    let seedLogStripes := getPruningLogStripes pruningSeed
    let logStripes := if seedLogStripes ≠ 0 then seedLogStripes else cryptonotePruningLogStripes
    let mask := (1 <<< logStripes) - 1
    let blockPruningSeed := ((blockHeight / cryptonotePruningStripeSize) &&& mask) + 1
    if blockPruningSeed ≠ stripe then some blockHeight
    else
      let nextStripe := 1 + (blockPruningSeed &&& mask)
      (makePruningSeed nextStripe logStripes).map
        (getNextUnprunedBlockHeight blockHeight blockchainHeight)

/-! ### The fields of a seed -/

theorem shiftLeft_or_eq (logStripes : Nat) {low : Nat} (small : low < 2 ^ 7) :
    logStripes <<< 7 ||| low = logStripes * 2 ^ 7 + low := by
  rw [← Nat.shiftLeft_add_eq_or_of_lt small, Nat.shiftLeft_eq]

theorem makePruningSeed_fields {stripe logStripes seed : Nat}
    (seeded : makePruningSeed stripe logStripes = some seed) :
    seed = logStripes * 2 ^ 7 + (stripe - 1) ∧ logStripes ≤ 7 ∧ 0 < stripe ∧
      stripe ≤ 2 ^ logStripes := by
  unfold makePruningSeed at seeded
  split at seeded
  · rename_i inRange
    obtain ⟨logSmall, positive, stripeSmall⟩ := inRange
    rw [Nat.one_shiftLeft] at stripeSmall
    have logBound : 2 ^ logStripes ≤ 2 ^ 7 := Nat.pow_le_pow_right (by norm_num) logSmall
    cases seeded
    simp only [pruningSeedLogStripesShift, pruningSeedStripeShift, Nat.shiftLeft_zero]
    exact ⟨shiftLeft_or_eq logStripes (by omega), logSmall, positive, stripeSmall⟩
  · cases seeded

theorem makePruningSeed_eq_some {stripe logStripes : Nat} (logSmall : logStripes ≤ 7)
    (positive : 0 < stripe) (stripeSmall : stripe ≤ 2 ^ logStripes) :
    makePruningSeed stripe logStripes = some (logStripes * 2 ^ 7 + (stripe - 1)) := by
  have logBound : 2 ^ logStripes ≤ 2 ^ 7 := Nat.pow_le_pow_right (by norm_num) logSmall
  rw [makePruningSeed, if_pos ⟨logSmall, positive, by rwa [Nat.one_shiftLeft]⟩]
  simp only [pruningSeedLogStripesShift, pruningSeedStripeShift, Nat.shiftLeft_zero]
  rw [shiftLeft_or_eq logStripes (by omega)]

theorem getPruningLogStripes_of_seed {stripe logStripes seed : Nat}
    (seeded : makePruningSeed stripe logStripes = some seed) :
    getPruningLogStripes seed = logStripes := by
  obtain ⟨rfl, logSmall, positive, stripeSmall⟩ := makePruningSeed_fields seeded
  have logBound : 2 ^ logStripes ≤ 2 ^ 7 := Nat.pow_le_pow_right (by norm_num) logSmall
  unfold getPruningLogStripes
  rw [pruningSeedLogStripesShift, pruningSeedLogStripesMask, Nat.shiftRight_eq_div_pow,
    show (0x7 : Nat) = 2 ^ 3 - 1 from rfl, Nat.and_two_pow_sub_one_eq_mod]
  rw [Nat.add_comm, Nat.add_mul_div_right _ _ (by norm_num), Nat.div_eq_of_lt (by omega)]
  omega

theorem getPruningStripe_of_seed {stripe logStripes seed : Nat}
    (seeded : makePruningSeed stripe logStripes = some seed) (atLeastOne : 1 ≤ logStripes) :
    getPruningStripe seed = stripe := by
  obtain ⟨rfl, logSmall, positive, stripeSmall⟩ := makePruningSeed_fields seeded
  have logBound : 2 ^ logStripes ≤ 2 ^ 7 := Nat.pow_le_pow_right (by norm_num) logSmall
  have low : (logStripes * 2 ^ 7 + (stripe - 1)) % 2 ^ 7 = stripe - 1 := by
    rw [Nat.mul_comm, Nat.mul_add_mod, Nat.mod_eq_of_lt (by omega)]
  unfold getPruningStripe
  rw [if_neg (by omega), pruningSeedStripeShift, Nat.shiftRight_zero, pruningSeedStripeMask,
    show (0x7f : Nat) = 2 ^ 7 - 1 from rfl, Nat.and_two_pow_sub_one_eq_mod, low]
  omega

/-! ### The stripe of a block -/

theorem stripeMask_eq (spans logStripes : Nat) :
    spans &&& ((1 <<< logStripes) - 1) = spans % 2 ^ logStripes := by
  rw [Nat.one_shiftLeft, Nat.and_two_pow_sub_one_eq_mod]

theorem getPruningStripeOfBlock_eq {blockHeight blockchainHeight : Nat} (logStripes : Nat)
    (belowTip : blockHeight + cryptonotePruningTipBlocks < blockchainHeight) :
    getPruningStripeOfBlock blockHeight blockchainHeight logStripes =
      stripeOf cryptonotePruningStripeSize (2 ^ logStripes) blockHeight + 1 := by
  rw [getPruningStripeOfBlock, if_neg (by omega), stripeMask_eq, stripeOf]

theorem hasUnprunedBlock_of_seed {stripe logStripes seed : Nat}
    (seeded : makePruningSeed stripe logStripes = some seed) (atLeastOne : 1 ≤ logStripes)
    (blockHeight blockchainHeight : Nat) :
    hasUnprunedBlock blockHeight blockchainHeight seed =
      (decide (blockchainHeight ≤ blockHeight + cryptonotePruningTipBlocks) ||
        decide (stripeOf cryptonotePruningStripeSize (2 ^ logStripes) blockHeight = stripe - 1)) := by
  have positive := (makePruningSeed_fields seeded).2.2.1
  unfold hasUnprunedBlock
  rw [getPruningStripe_of_seed seeded atLeastOne, if_neg (by omega),
    getPruningLogStripes_of_seed seeded]
  dsimp only
  by_cases tip : blockchainHeight ≤ blockHeight + cryptonotePruningTipBlocks
  · simp [getPruningStripeOfBlock, tip]
  · rw [getPruningStripeOfBlock_eq logStripes (by omega)]
    simp only [tip, decide_false, Bool.false_or]
    by_cases same : stripeOf cryptonotePruningStripeSize (2 ^ logStripes) blockHeight = stripe - 1
    · simp [same]
      omega
    · simp [same]
      omega

/-! ### The next unpruned height -/

theorem cycleStart_eq {stripe : Nat} (positive : 0 < stripe) (blockHeight logStripes : Nat) :
    ((blockHeight / cryptonotePruningStripeSize) >>> logStripes +
        if stripe > blockHeight / cryptonotePruningStripeSize % 2 ^ logStripes + 1 then 0
        else 1) * (cryptonotePruningStripeSize <<< logStripes) +
        (stripe - 1) * cryptonotePruningStripeSize =
      nextStart cryptonotePruningStripeSize (2 ^ logStripes) (stripe - 1) blockHeight := by
  rw [nextStart, stripeOf, Nat.shiftRight_eq_div_pow, Nat.shiftLeft_eq]
  split_ifs <;> omega

theorem getNextUnprunedBlockHeight_of_seed {stripe logStripes seed : Nat}
    (seeded : makePruningSeed stripe logStripes = some seed) (atLeastOne : 1 ≤ logStripes)
    {blockHeight blockchainHeight : Nat} (heightSmall : blockHeight ≤ cryptonoteMaxBlockNumber + 1)
    (chainSmall : blockchainHeight ≤ cryptonoteMaxBlockNumber + 1) :
    getNextUnprunedBlockHeight blockHeight blockchainHeight seed =
      if blockchainHeight ≤ blockHeight + cryptonotePruningTipBlocks ∨
          stripeOf cryptonotePruningStripeSize (2 ^ logStripes) blockHeight = stripe - 1 then
        blockHeight
      else if blockchainHeight < nextStart cryptonotePruningStripeSize (2 ^ logStripes)
          (stripe - 1) blockHeight + cryptonotePruningTipBlocks then
        blockchainHeight - cryptonotePruningTipBlocks
      else nextStart cryptonotePruningStripeSize (2 ^ logStripes) (stripe - 1) blockHeight := by
  obtain ⟨-, logSmall, positive, stripeSmall⟩ := makePruningSeed_fields seeded
  have below : stripe - 1 < 2 ^ logStripes := by omega
  unfold getNextUnprunedBlockHeight
  rw [if_neg (by omega), if_neg (by omega), getPruningStripe_of_seed seeded atLeastOne,
    if_neg (by omega)]
  dsimp only
  rw [getPruningLogStripes_of_seed seeded, if_pos (show logStripes ≠ 0 by omega), stripeMask_eq]
  by_cases tip : blockchainHeight ≤ blockHeight + cryptonotePruningTipBlocks
  · rw [if_pos (by omega), if_pos (Or.inl tip)]
  rw [if_neg (by omega)]
  by_cases same : stripeOf cryptonotePruningStripeSize (2 ^ logStripes) blockHeight = stripe - 1
  · rw [if_pos (by unfold stripeOf at same; omega), if_pos (Or.inr same)]
  rw [if_neg (by unfold stripeOf at same; omega), if_neg (not_or.mpr ⟨tip, same⟩),
    cycleStart_eq positive]
  have later := lt_nextStart (h := blockHeight) (by decide : 0 < cryptonotePruningStripeSize) below
  by_cases late : blockchainHeight <
      nextStart cryptonotePruningStripeSize (2 ^ logStripes) (stripe - 1) blockHeight +
        cryptonotePruningTipBlocks
  · rw [if_pos late, if_neg (show ¬blockchainHeight < cryptonotePruningTipBlocks by omega),
      if_pos late]
  · rw [if_neg late, if_pos later.le, if_neg late]

theorem hasUnprunedBlock_of_tip {blockHeight blockchainHeight : Nat} (pruningSeed : Nat)
    (inTip : blockchainHeight ≤ blockHeight + cryptonotePruningTipBlocks) :
    hasUnprunedBlock blockHeight blockchainHeight pruningSeed = true := by
  unfold hasUnprunedBlock getPruningStripeOfBlock
  simp [inTip]

theorem hasUnprunedBlock_of_left_tip {blockHeight blockchainHeight laterHeight : Nat}
    (pruningSeed : Nat) (left : blockHeight + cryptonotePruningTipBlocks < blockchainHeight)
    (later : blockchainHeight ≤ laterHeight) :
    hasUnprunedBlock blockHeight blockchainHeight pruningSeed =
      hasUnprunedBlock blockHeight laterHeight pruningSeed := by
  unfold hasUnprunedBlock getPruningStripeOfBlock
  dsimp only
  rw [if_neg (show ¬blockHeight + cryptonotePruningTipBlocks ≥ blockchainHeight by omega),
    if_neg (show ¬blockHeight + cryptonotePruningTipBlocks ≥ laterHeight by omega)]

@[simp]
theorem hasUnprunedBlock_zero (blockHeight blockchainHeight : Nat) :
    hasUnprunedBlock blockHeight blockchainHeight 0 = true := by
  simp [hasUnprunedBlock, getPruningStripe]

theorem getNextUnprunedBlockHeight_zero {blockHeight blockchainHeight : Nat}
    (heightSmall : blockHeight ≤ cryptonoteMaxBlockNumber + 1)
    (chainSmall : blockchainHeight ≤ cryptonoteMaxBlockNumber + 1) :
    getNextUnprunedBlockHeight blockHeight blockchainHeight 0 = blockHeight := by
  unfold getNextUnprunedBlockHeight
  rw [if_neg (not_not.mpr heightSmall), if_neg (not_not.mpr chainSmall)]
  simp [getPruningStripe]

theorem hasUnprunedBlock_before_nextStart {stripe logStripes seed : Nat}
    (seeded : makePruningSeed stripe logStripes = some seed) (atLeastOne : 1 ≤ logStripes)
    {blockHeight blockchainHeight x : Nat}
    (other : stripeOf cryptonotePruningStripeSize (2 ^ logStripes) blockHeight ≠ stripe - 1)
    (after : blockHeight ≤ x)
    (before : x < nextStart cryptonotePruningStripeSize (2 ^ logStripes) (stripe - 1) blockHeight)
    (belowTip : x + cryptonotePruningTipBlocks < blockchainHeight) :
    hasUnprunedBlock x blockchainHeight seed = false := by
  obtain ⟨-, -, positive, stripeSmall⟩ := makePruningSeed_fields seeded
  have notOurs := stripeOf_ne_of_lt (by decide) (by omega) other after before
  rw [hasUnprunedBlock_of_seed seeded atLeastOne]
  simp only [notOurs, decide_false, Bool.or_false, decide_eq_false_iff_not]
  omega

theorem getNextUnprunedBlockHeight_least {stripe logStripes seed : Nat}
    (seeded : (1 ≤ logStripes ∧ makePruningSeed stripe logStripes = some seed) ∨ seed = 0)
    {blockHeight blockchainHeight : Nat} (ordered : blockHeight ≤ blockchainHeight)
    (chainSmall : blockchainHeight ≤ cryptonoteMaxBlockNumber + 1) :
    let r := getNextUnprunedBlockHeight blockHeight blockchainHeight seed
    blockHeight ≤ r ∧ hasUnprunedBlock r blockchainHeight seed = true ∧
      ∀ x, blockHeight ≤ x → x < r → hasUnprunedBlock x blockchainHeight seed = false := by
  dsimp only
  rcases seeded with ⟨atLeastOne, seeded⟩ | rfl
  · obtain ⟨-, -, positive, stripeSmall⟩ := makePruningSeed_fields seeded
    have later := lt_nextStart (h := blockHeight) (by decide : 0 < cryptonotePruningStripeSize)
      (show stripe - 1 < 2 ^ logStripes by omega)
    rw [getNextUnprunedBlockHeight_of_seed seeded atLeastOne (by omega) chainSmall,
      hasUnprunedBlock_of_seed seeded atLeastOne]
    by_cases stays : blockchainHeight ≤ blockHeight + cryptonotePruningTipBlocks ∨
        stripeOf cryptonotePruningStripeSize (2 ^ logStripes) blockHeight = stripe - 1
    · rw [if_pos stays]
      refine ⟨le_rfl, ?_, fun x after before => absurd before (Nat.not_lt.mpr after)⟩
      rcases stays with tip | same <;> simp [*]
    rw [if_neg stays]
    have other := fun same => stays (Or.inr same)
    by_cases late : blockchainHeight <
        nextStart cryptonotePruningStripeSize (2 ^ logStripes) (stripe - 1) blockHeight +
          cryptonotePruningTipBlocks
    · rw [if_pos late]
      refine ⟨by omega, ?_, fun x after before => ?_⟩
      · simp only [Bool.or_eq_true, decide_eq_true_eq]
        exact Or.inl (by omega)
      · exact hasUnprunedBlock_before_nextStart seeded atLeastOne other after (by omega)
          (by omega)
    · rw [if_neg late]
      refine ⟨later.le, ?_, fun x after before => ?_⟩
      · rw [stripeOf_nextStart (by decide) (by omega)]
        simp
      · exact hasUnprunedBlock_before_nextStart seeded atLeastOne other after before
          (by omega)
  · rw [getNextUnprunedBlockHeight_zero (by omega) chainSmall]
    exact ⟨le_rfl, hasUnprunedBlock_zero _ _, fun x after before => absurd before (by omega)⟩

theorem next_unpruned_of_second_stripe :
    ((1 ≤ 3 ∧ makePruningSeed 2 3 = some 385) ∨ 385 = 0) ∧ 100 ≤ 10000000 ∧
      10000000 ≤ cryptonoteMaxBlockNumber + 1 ∧
      getNextUnprunedBlockHeight 100 10000000 385 = 4096 ∧
      let r := getNextUnprunedBlockHeight 100 10000000 385
      100 ≤ r ∧ hasUnprunedBlock r 10000000 385 = true ∧
        ∀ x, 100 ≤ x → x < r → hasUnprunedBlock x 10000000 385 = false :=
  have seeded : (1 ≤ 3 ∧ makePruningSeed 2 3 = some 385) ∨ 385 = 0 :=
    Or.inl ⟨by decide, by decide⟩
  ⟨seeded, by decide, by decide, by decide,
    getNextUnprunedBlockHeight_least seeded (by decide) (by decide)⟩

/-! ### The next pruned height -/

theorem getNextPrunedBlockHeight_of_seed {stripe logStripes seed : Nat}
    (seeded : makePruningSeed stripe logStripes = some seed) (atLeastOne : 1 ≤ logStripes)
    {blockHeight blockchainHeight : Nat}
    (chainSmall : blockchainHeight ≤ cryptonoteMaxBlockNumber + 1) :
    getNextPrunedBlockHeight blockHeight blockchainHeight seed =
      some (if blockchainHeight ≤ blockHeight + cryptonotePruningTipBlocks then blockchainHeight
        else if stripeOf cryptonotePruningStripeSize (2 ^ logStripes) blockHeight ≠ stripe - 1 then
          blockHeight
        else if blockchainHeight < (blockHeight / cryptonotePruningStripeSize + 1) *
            cryptonotePruningStripeSize + cryptonotePruningTipBlocks then
          blockchainHeight - cryptonotePruningTipBlocks
        else (blockHeight / cryptonotePruningStripeSize + 1) * cryptonotePruningStripeSize) := by
  obtain ⟨-, logSmall, positive, stripeSmall⟩ := makePruningSeed_fields seeded
  have several : 1 < 2 ^ logStripes := Nat.one_lt_two_pow (by omega)
  unfold getNextPrunedBlockHeight
  rw [getPruningStripe_of_seed seeded atLeastOne, if_neg (show ¬stripe = 0 by omega)]
  dsimp only
  by_cases tip : blockchainHeight ≤ blockHeight + cryptonotePruningTipBlocks
  · rw [if_pos (show blockHeight + cryptonotePruningTipBlocks ≥ blockchainHeight from tip),
      if_pos tip]
  rw [if_neg (show ¬blockHeight + cryptonotePruningTipBlocks ≥ blockchainHeight from tip),
    if_neg tip, getPruningLogStripes_of_seed seeded, if_pos (show logStripes ≠ 0 by omega),
    stripeMask_eq, stripeMask_eq]
  have stripeBelow : stripeOf cryptonotePruningStripeSize (2 ^ logStripes) blockHeight <
      2 ^ logStripes := Nat.mod_lt _ (by omega)
  by_cases other : stripeOf cryptonotePruningStripeSize (2 ^ logStripes) blockHeight ≠ stripe - 1
  · rw [if_pos (by unfold stripeOf at other; omega), if_pos other]
  rw [if_neg (by unfold stripeOf at other; omega), if_neg other]
  have next : 1 + (blockHeight / cryptonotePruningStripeSize % 2 ^ logStripes + 1) %
      2 ^ logStripes - 1 =
      (stripeOf cryptonotePruningStripeSize (2 ^ logStripes) blockHeight + 1) % 2 ^ logStripes := by
    rw [stripeOf]
    omega
  have wrapped : (blockHeight / cryptonotePruningStripeSize % 2 ^ logStripes + 1) %
      2 ^ logStripes < 2 ^ logStripes := Nat.mod_lt _ (by omega)
  have nextSeeded := makePruningSeed_eq_some logSmall (by omega)
    (show 1 + (blockHeight / cryptonotePruningStripeSize % 2 ^ logStripes + 1) %
      2 ^ logStripes ≤ 2 ^ logStripes by omega)
  rw [nextSeeded, Option.map_some, getNextUnprunedBlockHeight_of_seed nextSeeded atLeastOne
    (by omega) chainSmall, next, nextStart_succ (by omega),
    if_neg (not_or.mpr ⟨tip, (succ_stripeOf_ne several).symm⟩)]

theorem hasUnprunedBlock_of_span {stripe logStripes seed : Nat}
    (seeded : makePruningSeed stripe logStripes = some seed) (atLeastOne : 1 ≤ logStripes)
    {blockHeight blockchainHeight x : Nat}
    (ours : stripeOf cryptonotePruningStripeSize (2 ^ logStripes) blockHeight = stripe - 1)
    (after : blockHeight ≤ x)
    (before : x < (blockHeight / cryptonotePruningStripeSize + 1) * cryptonotePruningStripeSize ∨
      blockchainHeight ≤ x + cryptonotePruningTipBlocks) :
    hasUnprunedBlock x blockchainHeight seed = true := by
  rw [hasUnprunedBlock_of_seed seeded atLeastOne]
  simp only [Bool.or_eq_true, decide_eq_true_eq]
  rcases before with inSpan | tip
  · exact Or.inr (by rw [stripeOf_of_lt_spanEnd (by decide) after inSpan, ours])
  · exact Or.inl tip

theorem getNextPrunedBlockHeight_tip_start {stripe logStripes seed : Nat}
    (seeded : makePruningSeed stripe logStripes = some seed) (atLeastOne : 1 ≤ logStripes)
    {blockHeight blockchainHeight : Nat}
    (ours : stripeOf cryptonotePruningStripeSize (2 ^ logStripes) blockHeight = stripe - 1)
    (belowTip : blockHeight + cryptonotePruningTipBlocks < blockchainHeight)
    (spanToTip : blockchainHeight ≤ (blockHeight / cryptonotePruningStripeSize + 1) *
      cryptonotePruningStripeSize + cryptonotePruningTipBlocks)
    (chainSmall : blockchainHeight ≤ cryptonoteMaxBlockNumber + 1) :
    getNextPrunedBlockHeight blockHeight blockchainHeight seed =
        some (blockchainHeight - cryptonotePruningTipBlocks) ∧
      blockchainHeight - cryptonotePruningTipBlocks < blockchainHeight ∧
      ∀ x, blockHeight ≤ x → x < blockchainHeight →
        hasUnprunedBlock x blockchainHeight seed = true := by
  have tipBlocks : 0 < cryptonotePruningTipBlocks := by decide
  rw [getNextPrunedBlockHeight_of_seed seeded atLeastOne chainSmall,
    if_neg (show ¬blockchainHeight ≤ blockHeight + cryptonotePruningTipBlocks by omega),
    if_neg (not_not.mpr ours)]
  refine ⟨?_, by omega, fun x after before => ?_⟩
  · by_cases late : blockchainHeight < (blockHeight / cryptonotePruningStripeSize + 1) *
        cryptonotePruningStripeSize + cryptonotePruningTipBlocks
    · rw [if_pos late]
    · rw [if_neg late]
      exact congrArg some (by omega)
  · apply hasUnprunedBlock_of_span seeded atLeastOne ours after
    by_cases inSpan : x < (blockHeight / cryptonotePruningStripeSize + 1) *
        cryptonotePruningStripeSize
    · exact Or.inl inSpan
    · exact Or.inr (by omega)

theorem next_pruned_of_first_stripe_in_tip :
    makePruningSeed 1 3 = some 384 ∧ 1 ≤ 3 ∧
      stripeOf cryptonotePruningStripeSize (2 ^ 3) 0 = 1 - 1 ∧
      0 + cryptonotePruningTipBlocks < 9595 ∧
      9595 ≤ (0 / cryptonotePruningStripeSize + 1) * cryptonotePruningStripeSize +
        cryptonotePruningTipBlocks ∧
      9595 ≤ cryptonoteMaxBlockNumber + 1 ∧
      (getNextPrunedBlockHeight 0 9595 384 = some (9595 - cryptonotePruningTipBlocks) ∧
        9595 - cryptonotePruningTipBlocks < 9595 ∧
        ∀ x, 0 ≤ x → x < 9595 → hasUnprunedBlock x 9595 384 = true) :=
  have seeded : makePruningSeed 1 3 = some 384 := by decide
  ⟨seeded, by decide, by decide, by decide, by decide, by decide,
    getNextPrunedBlockHeight_tip_start seeded (by decide) (by decide) (by decide) (by decide)
      (by decide)⟩

/-- Where the stripe's next span starts below the tip zone,
`get_next_pruned_block_height` is the least pruned height from the block on,
or the chain height when there is none. -/
theorem getNextPrunedBlockHeight_least_of_span_below_tip {stripe logStripes seed : Nat}
    (seeded : makePruningSeed stripe logStripes = some seed) (atLeastOne : 1 ≤ logStripes)
    {blockHeight blockchainHeight : Nat} (ordered : blockHeight ≤ blockchainHeight)
    (chainSmall : blockchainHeight ≤ cryptonoteMaxBlockNumber + 1)
    (spanBelowTip : stripeOf cryptonotePruningStripeSize (2 ^ logStripes) blockHeight = stripe - 1 →
      blockHeight + cryptonotePruningTipBlocks < blockchainHeight →
      (blockHeight / cryptonotePruningStripeSize + 1) * cryptonotePruningStripeSize +
        cryptonotePruningTipBlocks < blockchainHeight) :
    ∃ r, getNextPrunedBlockHeight blockHeight blockchainHeight seed = some r ∧
      blockHeight ≤ r ∧ r ≤ blockchainHeight ∧
      (∀ x, blockHeight ≤ x → x < r → hasUnprunedBlock x blockchainHeight seed = true) ∧
      (r < blockchainHeight → hasUnprunedBlock r blockchainHeight seed = false) := by
  obtain ⟨-, -, positive, stripeSmall⟩ := makePruningSeed_fields seeded
  have several : 1 < 2 ^ logStripes := Nat.one_lt_two_pow (by omega)
  rw [getNextPrunedBlockHeight_of_seed seeded atLeastOne chainSmall]
  refine ⟨_, rfl, ?_⟩
  by_cases tip : blockchainHeight ≤ blockHeight + cryptonotePruningTipBlocks
  · rw [if_pos tip]
    refine ⟨ordered, le_rfl, fun x after before => ?_, fun stop => absurd stop (lt_irrefl _)⟩
    rw [hasUnprunedBlock_of_seed seeded atLeastOne]
    simp only [Bool.or_eq_true, decide_eq_true_eq]
    exact Or.inl (by omega)
  rw [if_neg tip]
  by_cases other : stripeOf cryptonotePruningStripeSize (2 ^ logStripes) blockHeight ≠ stripe - 1
  · rw [if_pos other]
    refine ⟨le_rfl, ordered, fun x after before => absurd before (Nat.not_lt.mpr after),
      fun _ => ?_⟩
    rw [hasUnprunedBlock_of_seed seeded atLeastOne]
    simp only [other, decide_false, Bool.or_false, decide_eq_false_iff_not]
    exact tip
  have ours := not_not.mp other
  have clear := spanBelowTip ours (by omega)
  have spanAfter : blockHeight <
      (blockHeight / cryptonotePruningStripeSize + 1) * cryptonotePruningStripeSize := by
    rw [Nat.mul_comm]
    exact Nat.lt_mul_div_succ _ (by decide)
  rw [if_neg other, if_neg (by omega)]
  refine ⟨spanAfter.le, by omega, fun x after before => ?_, fun _ => ?_⟩
  · exact hasUnprunedBlock_of_span seeded atLeastOne ours after (Or.inl before)
  · have spanStart : nextStart cryptonotePruningStripeSize (2 ^ logStripes)
        ((stripeOf cryptonotePruningStripeSize (2 ^ logStripes) blockHeight + 1) %
          2 ^ logStripes) blockHeight =
        (blockHeight / cryptonotePruningStripeSize + 1) * cryptonotePruningStripeSize :=
      nextStart_succ (by omega)
    have nextOther : (stripeOf cryptonotePruningStripeSize (2 ^ logStripes) blockHeight + 1) %
        2 ^ logStripes ≠ stripeOf cryptonotePruningStripeSize (2 ^ logStripes) blockHeight :=
      succ_stripeOf_ne several
    rw [hasUnprunedBlock_of_seed seeded atLeastOne, ← spanStart,
      stripeOf_nextStart (by decide) (Nat.mod_lt _ (by omega)), spanStart]
    rw [ours] at nextOther ⊢
    simp only [nextOther, decide_false, Bool.or_false, decide_eq_false_iff_not]
    omega

theorem next_pruned_of_first_stripe :
    makePruningSeed 1 3 = some 384 ∧ 1 ≤ 3 ∧ 1 ≤ 10000000 ∧
      10000000 ≤ cryptonoteMaxBlockNumber + 1 ∧
      (stripeOf cryptonotePruningStripeSize (2 ^ 3) 1 = 1 - 1 →
        1 + cryptonotePruningTipBlocks < 10000000 →
        (1 / cryptonotePruningStripeSize + 1) * cryptonotePruningStripeSize +
          cryptonotePruningTipBlocks < 10000000) ∧
      ∃ r, getNextPrunedBlockHeight 1 10000000 384 = some r ∧ 1 ≤ r ∧ r ≤ 10000000 ∧
        (∀ x, 1 ≤ x → x < r → hasUnprunedBlock x 10000000 384 = true) ∧
        (r < 10000000 → hasUnprunedBlock r 10000000 384 = false) :=
  have seeded : makePruningSeed 1 3 = some 384 := by decide
  have spanBelowTip : stripeOf cryptonotePruningStripeSize (2 ^ 3) 1 = 1 - 1 →
      1 + cryptonotePruningTipBlocks < 10000000 →
      (1 / cryptonotePruningStripeSize + 1) * cryptonotePruningStripeSize +
        cryptonotePruningTipBlocks < 10000000 := fun _ _ => by decide
  ⟨seeded, by decide, by decide, by decide, spanBelowTip,
    getNextPrunedBlockHeight_least_of_span_below_tip seeded (by decide) (by decide) (by decide)
      spanBelowTip⟩

end Antd.Tools
