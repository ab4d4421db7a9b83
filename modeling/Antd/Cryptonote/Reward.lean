import Antd.Epee.IntUtil
import Antd.Cryptonote.Basic

/-! The block reward of `cryptonote_basic_impl.cpp` and its split in
`cryptonote_tx_utils.cpp`: the base reward with its weight penalty, the full
node share paid out by portions of `STAKING_PORTIONS`, the control share (a
sixth of the base reward before hard fork 10, the batched amount after), and
what is left for the miner. All amounts are `uint64_t` and wrap. -/

namespace Antd.Cryptonote

open Antd.Crypto Antd.Epee

def coin : UInt64 := 1000000000

def stakingPortions : UInt64 := 0xfffffffffffffffc

def controlBaseRewardDivisor : UInt64 := 6

def fullNodeBaseRewardDivisor : UInt64 := 2

def getMinBlockWeight (version : Nat) : UInt64 :=
  if version < 2 then 20000
  else if version < 5 then 60000
  else 300000

/-- `get_base_block_reward`; `reward` is what the out parameter held before
the call, which the code keeps when the version is below 7. -/
def getBaseBlockReward (medianWeight currentBlockWeight alreadyGeneratedCoins reward : UInt64)
    (version : Nat) : Option UInt64 :=
  if alreadyGeneratedCoins = 0 then some 22500000000000000
  else
    let reward := if 7 ≤ version then 600 * coin else reward
    let fullRewardZone := getMinBlockWeight version
    let medianWeight := if medianWeight < fullRewardZone then fullRewardZone else medianWeight
    if currentBlockWeight ≤ medianWeight then some reward
    else if currentBlockWeight > 2 * medianWeight then none
    else
      let multiplicand := (2 * medianWeight - currentBlockWeight) * currentBlockWeight
      let (productLo, productHi) := mul128 reward multiplicand
      let (_, rewardHi, rewardLo) := div128_32 productHi productLo medianWeight.toUInt32
      let (_, _, rewardLo) := div128_32 rewardHi rewardLo medianWeight.toUInt32
      some rewardLo

structure BlockRewardParts where
  fullNodeTotal : UInt64 := 0
  fullNodePaid : UInt64 := 0
  control : UInt64 := 0
  baseMiner : UInt64 := 0
  baseMinerFee : UInt64 := 0
  adjustedBaseReward : UInt64 := 0
  originalBaseReward : UInt64 := 0
  deriving DecidableEq

def BlockRewardParts.minerReward (parts : BlockRewardParts) : UInt64 :=
  parts.baseMiner + parts.baseMinerFee

structure AntdBlockRewardContext where
  height : UInt64
  fee : UInt64
  batchedControl : UInt64
  snodeWinnerInfo : List (AccountPublicAddress × UInt64)

def nullAddress : AccountPublicAddress := ⟨nullPkey, nullPkey⟩

def nullWinner : List (AccountPublicAddress × UInt64) := [(nullAddress, stakingPortions)]

def fullNodeRewardFormula (baseReward : UInt64) (hardForkVersion : Nat) : UInt64 :=
  if 9 ≤ hardForkVersion then baseReward / fullNodeBaseRewardDivisor else 0

def controlRewardFormula (baseReward : UInt64) : UInt64 :=
  baseReward / controlBaseRewardDivisor

/-- `get_portion_of_reward`: the low word of
`total_full_node_reward * portions / STAKING_PORTIONS`. -/
def getPortionOfReward (portions totalFullNodeReward : UInt64) : UInt64 :=
  let product := mul128 totalFullNodeReward portions
  let reward := div128_64 product.2 product.1 stakingPortions
  reward.2.2

def calculateSumOfPortions (portions : List (AccountPublicAddress × UInt64))
    (totalFullNodeReward : UInt64) : UInt64 :=
  portions.foldl (fun reward portion => reward + getPortionOfReward portion.2 totalFullNodeReward) 0

def AntdBlockRewardContext.winnerInfo (context : AntdBlockRewardContext) :
    List (AccountPublicAddress × UInt64) :=
  if context.snodeWinnerInfo.isEmpty then nullWinner else context.snodeWinnerInfo

/-- `get_antd_block_reward`. The uninitialised `base_reward` it passes to
`get_base_block_reward` is taken as zero; it is only read below version 7. -/
def getAntdBlockReward (medianWeight currentBlockWeight alreadyGeneratedCoins : UInt64)
    (hardForkVersion : Nat) (context : AntdBlockRewardContext) : Option BlockRewardParts :=
  match getBaseBlockReward medianWeight currentBlockWeight alreadyGeneratedCoins 0
      hardForkVersion with
  | none => none
  | some baseReward =>
      if baseReward = 0 then none
      else if alreadyGeneratedCoins = 0 then
        some { originalBaseReward := baseReward
               adjustedBaseReward := baseReward
               baseMiner := baseReward }
      else
        let fullNodeTotal := fullNodeRewardFormula baseReward hardForkVersion
        let fullNodePaid := calculateSumOfPortions context.winnerInfo fullNodeTotal
        let (control, adjustedBaseReward) :=
          if 10 ≤ hardForkVersion then
            let adjusted := baseReward - controlRewardFormula baseReward
            (context.batchedControl,
              if context.batchedControl > 0 then adjusted + context.batchedControl else adjusted)
          else (controlRewardFormula baseReward, baseReward)
        some { fullNodeTotal := fullNodeTotal
               fullNodePaid := fullNodePaid
               control := control
               baseMiner := adjustedBaseReward - (control + fullNodePaid)
               baseMinerFee := context.fee
               adjustedBaseReward := adjustedBaseReward
               originalBaseReward := baseReward }

/-! ### The weight penalty -/

/-- The reward the penalty curve leaves of `R` for a block of weight `W`
against the median weight `M`: all of it up to the median, and
`R * (2M - W) * W / M / M` above it. -/
def penalizedReward (R M W : Nat) : Nat :=
  if W ≤ M then R else R * ((2 * M - W) * W) / M / M

theorem penaltyFactor_le (M W : Nat) : (2 * M - W) * W ≤ M * M := by
  rcases le_or_gt W (2 * M) with inRange | past
  · have sum : (2 * M - W) + W = 2 * M := Nat.sub_add_cancel inRange
    generalize 2 * M - W = rest at sum ⊢
    zify at sum ⊢
    nlinarith [sq_nonneg ((rest : ℤ) - W)]
  · rw [Nat.sub_eq_zero_of_le past.le, Nat.zero_mul]
    exact Nat.zero_le _

theorem penaltyFactor_antitone {M W₁ W₂ : Nat} (above : M ≤ W₁) (grows : W₁ ≤ W₂)
    (inRange : W₂ ≤ 2 * M) : (2 * M - W₂) * W₂ ≤ (2 * M - W₁) * W₁ := by
  zify [inRange, grows.trans inRange]
  nlinarith [mul_nonneg (sub_nonneg.mpr (Nat.cast_le.mpr grows : (W₁ : ℤ) ≤ W₂))
    (show (0 : ℤ) ≤ W₁ + W₂ - 2 * M by omega)]

theorem penalizedReward_le (R M W : Nat) : penalizedReward R M W ≤ R := by
  unfold penalizedReward
  split
  · exact le_rfl
  · rw [Nat.div_div_eq_div_mul]
    apply Nat.div_le_of_le_mul
    calc R * ((2 * M - W) * W) ≤ R * (M * M) := Nat.mul_le_mul_left R (penaltyFactor_le M W)
      _ = M * M * R := Nat.mul_comm _ _

theorem penalizedReward_antitone {R M W₁ W₂ : Nat} (grows : W₁ ≤ W₂) (inRange : W₂ ≤ 2 * M) :
    penalizedReward R M W₂ ≤ penalizedReward R M W₁ := by
  by_cases lighter : W₁ ≤ M
  · calc penalizedReward R M W₂ ≤ R := penalizedReward_le R M W₂
      _ = penalizedReward R M W₁ := by rw [penalizedReward, if_pos lighter]
  · rw [penalizedReward, penalizedReward, if_neg lighter, if_neg (by omega)]
    apply Nat.div_le_div_right
    apply Nat.div_le_div_right
    exact Nat.mul_le_mul_left R (penaltyFactor_antitone (by omega) grows inRange)

theorem getMinBlockWeight_pos (version : Nat) : 0 < (getMinBlockWeight version).toNat := by
  unfold getMinBlockWeight
  split_ifs <;> decide

theorem getBaseBlockReward_toNat (medianWeight currentBlockWeight alreadyGeneratedCoins
      reward : UInt64) (version : Nat)
    (medianSmall : (if medianWeight < getMinBlockWeight version then getMinBlockWeight version
      else medianWeight).toNat < 2 ^ 32) :
    (getBaseBlockReward medianWeight currentBlockWeight alreadyGeneratedCoins reward
        version).map UInt64.toNat =
      if alreadyGeneratedCoins = 0 then some 22500000000000000
      else if currentBlockWeight.toNat ≤ 2 * (if medianWeight < getMinBlockWeight version then
          getMinBlockWeight version else medianWeight).toNat then
        some (penalizedReward (if 7 ≤ version then 600 * coin else reward).toNat
          (if medianWeight < getMinBlockWeight version then getMinBlockWeight version
            else medianWeight).toNat currentBlockWeight.toNat)
      else none := by
  have medianPos : 0 < (if medianWeight < getMinBlockWeight version then
      getMinBlockWeight version else medianWeight).toNat := by
    have := getMinBlockWeight_pos version
    split
    · exact this
    · rename_i notBelow
      rw [UInt64.lt_iff_toNat_lt] at notBelow
      omega
  unfold getBaseBlockReward
  by_cases genesis : alreadyGeneratedCoins = 0
  · rw [if_pos genesis, if_pos genesis]
    rfl
  rw [if_neg genesis, if_neg genesis]
  dsimp only
  generalize (if 7 ≤ version then 600 * coin else reward) = R
  generalize (if medianWeight < getMinBlockWeight version then getMinBlockWeight version
    else medianWeight) = M at medianSmall medianPos ⊢
  have doubled : (2 * M).toNat = 2 * M.toNat := by
    rw [UInt64.toNat_mul, show (2 : UInt64).toNat = 2 from rfl, Nat.mod_eq_of_lt (by omega)]
  by_cases light : currentBlockWeight.toNat ≤ M.toNat
  · rw [if_pos (UInt64.le_iff_toNat_le.mpr light), if_pos (by omega), penalizedReward,
      if_pos light]
    rfl
  rw [if_neg (fun below => light (UInt64.le_iff_toNat_le.mp below))]
  by_cases heavy : 2 * M.toNat < currentBlockWeight.toNat
  · rw [if_pos (show currentBlockWeight > 2 * M from
      UInt64.lt_iff_toNat_lt.mpr (by rw [doubled]; exact heavy)), if_neg (by omega)]
    rfl
  rw [if_neg (fun above => heavy (by rw [← doubled]; exact UInt64.lt_iff_toNat_lt.mp above)),
    if_pos (by omega), Option.map_some, penalizedReward, if_neg light]
  congr 1
  have multiplicandEq : ((2 * M - currentBlockWeight) * currentBlockWeight).toNat =
      (2 * M.toNat - currentBlockWeight.toNat) * currentBlockWeight.toNat := by
    have factorBound := penaltyFactor_le M.toNat currentBlockWeight.toNat
    have squareBound : M.toNat * M.toNat < 2 ^ 64 :=
      calc M.toNat * M.toNat < 2 ^ 32 * 2 ^ 32 := Nat.mul_lt_mul'' medianSmall medianSmall
        _ = 2 ^ 64 := by norm_num
    rw [UInt64.toNat_mul, UInt64.toNat_sub_of_le _ _ (UInt64.le_iff_toNat_le.mpr (by omega)),
      doubled, Nat.mod_eq_of_lt (by omega)]
  have divisorEq : M.toUInt32.toNat = M.toNat := by
    rw [UInt64.toNat_toUInt32, Nat.mod_eq_of_lt medianSmall]
  have divisorPos : 0 < M.toUInt32.toNat := divisorEq ▸ medianPos
  obtain ⟨productLo, productHi⟩ := mul128_spec R ((2 * M - currentBlockWeight) * currentBlockWeight)
  generalize mul128 R ((2 * M - currentBlockWeight) * currentBlockWeight) = product
    at productLo productHi ⊢
  obtain ⟨first, -⟩ := div128_32_spec product.2 product.1 divisorPos
  generalize div128_32 product.2 product.1 M.toUInt32 = quotient at first ⊢
  obtain ⟨second, -⟩ := div128_32_spec quotient.2.1 quotient.2.2 divisorPos
  generalize div128_32 quotient.2.1 quotient.2.2 M.toUInt32 = result at second ⊢
  have wide : product.2.toNat * 2 ^ 64 + product.1.toNat =
      R.toNat * ((2 * M.toNat - currentBlockWeight.toNat) * currentBlockWeight.toNat) := by
    rw [productLo, productHi, multiplicandEq]
    exact Nat.div_add_mod' _ _
  rw [divisorEq, wide] at first
  rw [divisorEq, first] at second
  have fits := penalizedReward_le R.toNat M.toNat currentBlockWeight.toNat
  rw [penalizedReward, if_neg light] at fits
  have highZero : result.2.1.toNat = 0 := by
    by_contra nonzero
    have := Nat.le_mul_of_pos_left (2 ^ 64) (Nat.pos_of_ne_zero nonzero)
    have := R.toNat_lt
    omega
  rw [highZero, Nat.zero_mul, Nat.zero_add] at second
  exact second

theorem getBaseBlockReward_eq_some_toNat {medianWeight currentBlockWeight alreadyGeneratedCoins
      reward baseReward : UInt64} {version : Nat}
    (minted : alreadyGeneratedCoins ≠ 0)
    (medianSmall : (if medianWeight < getMinBlockWeight version then getMinBlockWeight version
      else medianWeight).toNat < 2 ^ 32)
    (returned : getBaseBlockReward medianWeight currentBlockWeight alreadyGeneratedCoins reward
      version = some baseReward) :
    currentBlockWeight.toNat ≤ 2 * (if medianWeight < getMinBlockWeight version then
        getMinBlockWeight version else medianWeight).toNat ∧
      baseReward.toNat = penalizedReward (if 7 ≤ version then 600 * coin else reward).toNat
        (if medianWeight < getMinBlockWeight version then getMinBlockWeight version
          else medianWeight).toNat currentBlockWeight.toNat := by
  have spec := getBaseBlockReward_toNat medianWeight currentBlockWeight alreadyGeneratedCoins
    reward version medianSmall
  rw [returned, Option.map_some, if_neg minted] at spec
  by_cases inRange : currentBlockWeight.toNat ≤ 2 * (if medianWeight < getMinBlockWeight version
      then getMinBlockWeight version else medianWeight).toNat
  · rw [if_pos inRange] at spec
    exact ⟨inRange, Option.some.inj spec⟩
  · rw [if_neg inRange] at spec
    cases spec

theorem getBaseBlockReward_penalty {medianWeight alreadyGeneratedCoins reward : UInt64}
    {version : Nat} (minted : alreadyGeneratedCoins ≠ 0)
    (medianSmall : (if medianWeight < getMinBlockWeight version then getMinBlockWeight version
      else medianWeight).toNat < 2 ^ 32) :
    let R := (if 7 ≤ version then 600 * coin else reward).toNat
    let M := (if medianWeight < getMinBlockWeight version then getMinBlockWeight version
      else medianWeight).toNat
    (∀ W : UInt64, (getBaseBlockReward medianWeight W alreadyGeneratedCoins reward
        version).isSome ↔ W.toNat ≤ 2 * M) ∧
    (∀ W : UInt64, W.toNat ≤ M →
      (getBaseBlockReward medianWeight W alreadyGeneratedCoins reward version).map
        UInt64.toNat = some R) ∧
    (∀ W : UInt64, M < W.toNat → W.toNat ≤ 2 * M →
      (getBaseBlockReward medianWeight W alreadyGeneratedCoins reward version).map
        UInt64.toNat = some (R * ((2 * M - W.toNat) * W.toNat) / M / M)) ∧
    (∀ W r : UInt64, getBaseBlockReward medianWeight W alreadyGeneratedCoins reward version =
      some r → r.toNat ≤ R) ∧
    (∀ W₁ W₂ r₁ r₂ : UInt64, W₁.toNat ≤ W₂.toNat →
      getBaseBlockReward medianWeight W₁ alreadyGeneratedCoins reward version = some r₁ →
      getBaseBlockReward medianWeight W₂ alreadyGeneratedCoins reward version = some r₂ →
      r₂.toNat ≤ r₁.toNat) := by
  dsimp only
  have spec := fun W => getBaseBlockReward_toNat medianWeight W alreadyGeneratedCoins reward
    version medianSmall
  simp only [if_neg minted] at spec
  refine ⟨fun W => ?_, fun W light => ?_, fun W above inRange => ?_,
    fun W r returned => ?_, fun W₁ W₂ r₁ r₂ grows first second => ?_⟩
  · rw [← Option.isSome_map (f := UInt64.toNat), spec W]
    split <;> simp [*]
  · rw [spec W, if_pos (by omega), penalizedReward, if_pos light]
  · rw [spec W, if_pos inRange, penalizedReward, if_neg (by omega)]
  · rw [(getBaseBlockReward_eq_some_toNat minted medianSmall returned).2]
    exact penalizedReward_le _ _ _
  · obtain ⟨-, firstEq⟩ := getBaseBlockReward_eq_some_toNat minted medianSmall first
    obtain ⟨inRange, secondEq⟩ := getBaseBlockReward_eq_some_toNat minted medianSmall second
    rw [firstEq, secondEq]
    exact penalizedReward_antitone grows inRange

theorem penalty_at_full_reward_zone :
    (1 : UInt64) ≠ 0 ∧
      (if (300000 : UInt64) < getMinBlockWeight 7 then getMinBlockWeight 7
        else 300000).toNat < 2 ^ 32 ∧
      let R := (if 7 ≤ 7 then 600 * coin else 0).toNat
      let M := (if (300000 : UInt64) < getMinBlockWeight 7 then getMinBlockWeight 7
        else 300000).toNat
      (∀ W : UInt64, (getBaseBlockReward 300000 W 1 0 7).isSome ↔ W.toNat ≤ 2 * M) ∧
      (∀ W : UInt64, W.toNat ≤ M →
        (getBaseBlockReward 300000 W 1 0 7).map UInt64.toNat = some R) ∧
      (∀ W : UInt64, M < W.toNat → W.toNat ≤ 2 * M →
        (getBaseBlockReward 300000 W 1 0 7).map UInt64.toNat =
          some (R * ((2 * M - W.toNat) * W.toNat) / M / M)) ∧
      (∀ W r : UInt64, getBaseBlockReward 300000 W 1 0 7 = some r → r.toNat ≤ R) ∧
      (∀ W₁ W₂ r₁ r₂ : UInt64, W₁.toNat ≤ W₂.toNat →
        getBaseBlockReward 300000 W₁ 1 0 7 = some r₁ →
        getBaseBlockReward 300000 W₂ 1 0 7 = some r₂ → r₂.toNat ≤ r₁.toNat) :=
  have minted : (1 : UInt64) ≠ 0 := by decide
  have medianSmall : (if (300000 : UInt64) < getMinBlockWeight 7 then getMinBlockWeight 7
      else 300000).toNat < 2 ^ 32 := by decide
  ⟨minted, medianSmall, getBaseBlockReward_penalty minted medianSmall⟩

/-- Before any coin is generated the reward is the genesis amount whatever
the weight, above twice the median too. -/
theorem genesis_reward_ignores_weight :
    getBaseBlockReward 300000 600001 0 0 7 = some 22500000000000000 ∧
      2 * (if (300000 : UInt64) < getMinBlockWeight 7 then getMinBlockWeight 7
        else 300000).toNat < (600001 : UInt64).toNat := by
  decide

/-! ### Portions -/

theorem stakingPortions_toNat : stakingPortions.toNat = 2 ^ 64 - 4 := by decide

theorem getPortionOfReward_toNat (portions totalFullNodeReward : UInt64) :
    (getPortionOfReward portions totalFullNodeReward).toNat =
      totalFullNodeReward.toNat * portions.toNat / stakingPortions.toNat % 2 ^ 64 := by
  obtain ⟨low, high⟩ := mul128_spec totalFullNodeReward portions
  have positive : 0 < stakingPortions.toNat := by decide
  obtain ⟨quotient, -⟩ := div128_64_spec (mul128 totalFullNodeReward portions).2
    (mul128 totalFullNodeReward portions).1 stakingPortions positive
  rw [low, high, Nat.div_add_mod'] at quotient
  have lowWord := (div128_64 (mul128 totalFullNodeReward portions).2
    (mul128 totalFullNodeReward portions).1 stakingPortions).2.2.toNat_lt
  unfold getPortionOfReward
  dsimp only
  omega

theorem getPortionOfReward_toNat_of_le {portions : UInt64} (totalFullNodeReward : UInt64)
    (portionsBound : portions.toNat ≤ stakingPortions.toNat) :
    (getPortionOfReward portions totalFullNodeReward).toNat =
      totalFullNodeReward.toNat * portions.toNat / stakingPortions.toNat := by
  rw [getPortionOfReward_toNat, Nat.mod_eq_of_lt]
  calc totalFullNodeReward.toNat * portions.toNat / stakingPortions.toNat
      ≤ totalFullNodeReward.toNat :=
        Nat.div_le_of_le_mul (by rw [Nat.mul_comm]; exact Nat.mul_le_mul_right _ portionsBound)
    _ < 2 ^ 64 := totalFullNodeReward.toNat_lt

def sharesOf (portions : List (AccountPublicAddress × UInt64)) (totalFullNodeReward : UInt64) :
    Nat :=
  (portions.map fun portion =>
    totalFullNodeReward.toNat * portion.2.toNat / stakingPortions.toNat).sum

def portionsOf (portions : List (AccountPublicAddress × UInt64)) : Nat :=
  (portions.map fun portion => portion.2.toNat).sum

theorem sum_map_mul_div_le (factor divisor : Nat) :
    ∀ values : List Nat,
      (values.map fun value => factor * value / divisor).sum ≤ factor * values.sum / divisor
  | [] => by simp
  | value :: rest =>
    calc ((value :: rest).map fun value => factor * value / divisor).sum
        = factor * value / divisor + (rest.map fun value => factor * value / divisor).sum := by
          rw [List.map_cons, List.sum_cons]
      _ ≤ factor * value / divisor + factor * rest.sum / divisor :=
          Nat.add_le_add_left (sum_map_mul_div_le factor divisor rest) _
      _ ≤ (factor * value + factor * rest.sum) / divisor := Nat.div_add_div_le_add_div
      _ = factor * (value :: rest).sum / divisor := by rw [List.sum_cons, Nat.mul_add]

theorem sum_map_mul_div_le_factor (factor : Nat) {divisor : Nat} {values : List Nat}
    (bounded : values.sum ≤ divisor) :
    (values.map fun value => factor * value / divisor).sum ≤ factor :=
  calc (values.map fun value => factor * value / divisor).sum
      ≤ factor * values.sum / divisor := sum_map_mul_div_le factor divisor values
    _ ≤ factor := Nat.div_le_of_le_mul (by rw [Nat.mul_comm]; exact Nat.mul_le_mul_right _ bounded)

theorem sharesOf_le_total {portions : List (AccountPublicAddress × UInt64)}
    (totalFullNodeReward : UInt64) (portionsBound : portionsOf portions ≤ stakingPortions.toNat) :
    sharesOf portions totalFullNodeReward ≤ totalFullNodeReward.toNat := by
  have bounded := sum_map_mul_div_le_factor totalFullNodeReward.toNat portionsBound
  rw [List.map_map] at bounded
  exact bounded

theorem portion_le_of_portionsOf_le {portions : List (AccountPublicAddress × UInt64)}
    (portionsBound : portionsOf portions ≤ stakingPortions.toNat) :
    ∀ portion ∈ portions, portion.2.toNat ≤ stakingPortions.toNat := by
  intro portion member
  have single : portion.2.toNat ≤ portionsOf portions :=
    List.le_sum_of_mem (List.mem_map_of_mem member)
  omega

theorem foldl_shares_toNat (totalFullNodeReward : UInt64) :
    ∀ (portions : List (AccountPublicAddress × UInt64)) (reward : UInt64),
      (∀ portion ∈ portions, portion.2.toNat ≤ stakingPortions.toNat) →
      reward.toNat + sharesOf portions totalFullNodeReward < 2 ^ 64 →
      (portions.foldl (fun reward portion =>
          reward + getPortionOfReward portion.2 totalFullNodeReward) reward).toNat =
        reward.toNat + sharesOf portions totalFullNodeReward := by
  intro portions
  induction portions with
  | nil => intro reward _ _; simp [sharesOf]
  | cons portion rest ih =>
      intro reward bounded fits
      have share := getPortionOfReward_toNat_of_le totalFullNodeReward
        (bounded portion List.mem_cons_self)
      simp only [sharesOf, List.map_cons, List.sum_cons] at fits
      rw [List.foldl_cons, ih _ (fun other member => bounded other (List.mem_cons_of_mem _ member))]
      · simp only [sharesOf, List.map_cons, List.sum_cons, UInt64.toNat_add, share]
        omega
      · simp only [sharesOf, UInt64.toNat_add, share] at fits ⊢
        omega

theorem calculateSumOfPortions_toNat {portions : List (AccountPublicAddress × UInt64)}
    (totalFullNodeReward : UInt64) (portionsBound : portionsOf portions ≤ stakingPortions.toNat) :
    (calculateSumOfPortions portions totalFullNodeReward).toNat =
      sharesOf portions totalFullNodeReward := by
  have fits := sharesOf_le_total totalFullNodeReward portionsBound
  have := totalFullNodeReward.toNat_lt
  have summed := foldl_shares_toNat totalFullNodeReward portions 0
    (portion_le_of_portionsOf_le portionsBound) (by simp only [UInt64.toNat_zero]; omega)
  simpa [calculateSumOfPortions] using summed

/-! ### The split -/

theorem portionsOf_winnerInfo {context : AntdBlockRewardContext}
    (portionsBound : portionsOf context.snodeWinnerInfo ≤ stakingPortions.toNat) :
    portionsOf context.winnerInfo ≤ stakingPortions.toNat := by
  unfold AntdBlockRewardContext.winnerInfo
  split
  · simp [portionsOf, nullWinner]
  · exact portionsBound

theorem getAntdBlockReward_eq_some {medianWeight currentBlockWeight alreadyGeneratedCoins : UInt64}
    {hardForkVersion : Nat} {context : AntdBlockRewardContext} {parts : BlockRewardParts}
    (produced : getAntdBlockReward medianWeight currentBlockWeight alreadyGeneratedCoins
      hardForkVersion context = some parts)
    (generated : alreadyGeneratedCoins ≠ 0) :
    ∃ baseReward, getBaseBlockReward medianWeight currentBlockWeight alreadyGeneratedCoins 0
        hardForkVersion = some baseReward ∧ baseReward ≠ 0 ∧
      parts.originalBaseReward = baseReward ∧
      parts.fullNodeTotal = fullNodeRewardFormula baseReward hardForkVersion ∧
      parts.fullNodePaid = calculateSumOfPortions context.winnerInfo parts.fullNodeTotal ∧
      parts.baseMiner = parts.adjustedBaseReward - (parts.control + parts.fullNodePaid) ∧
      parts.baseMinerFee = context.fee ∧
      (10 ≤ hardForkVersion → parts.control = context.batchedControl ∧
        parts.adjustedBaseReward =
          if context.batchedControl > 0 then
            baseReward - controlRewardFormula baseReward + context.batchedControl
          else baseReward - controlRewardFormula baseReward) ∧
      (hardForkVersion < 10 → parts.control = controlRewardFormula baseReward ∧
        parts.adjustedBaseReward = baseReward) := by
  unfold getAntdBlockReward at produced
  cases based : getBaseBlockReward medianWeight currentBlockWeight alreadyGeneratedCoins 0
      hardForkVersion with
  | none => rw [based] at produced; cases produced
  | some baseReward =>
      rw [based] at produced
      by_cases zero : baseReward = 0
      · simp [zero] at produced
      · simp only [zero, generated, if_false] at produced
        refine ⟨baseReward, rfl, zero, ?_⟩
        by_cases forked : 10 ≤ hardForkVersion
        · simp only [forked, if_true, Option.some.injEq] at produced
          subst produced
          exact ⟨rfl, rfl, rfl, rfl, rfl, fun _ => ⟨rfl, rfl⟩, fun early => absurd forked (by omega)⟩
        · simp only [forked, if_false, Option.some.injEq] at produced
          subst produced
          exact ⟨rfl, rfl, rfl, rfl, rfl, fun late => absurd late forked, fun _ => ⟨rfl, rfl⟩⟩

theorem getAntdBlockReward_other_winners
    {medianWeight currentBlockWeight alreadyGeneratedCoins : UInt64} {hardForkVersion : Nat}
    {context : AntdBlockRewardContext} {parts : BlockRewardParts}
    (produced : getAntdBlockReward medianWeight currentBlockWeight alreadyGeneratedCoins
      hardForkVersion context = some parts)
    (winners : List (AccountPublicAddress × UInt64)) :
    ∃ other, getAntdBlockReward medianWeight currentBlockWeight alreadyGeneratedCoins
        hardForkVersion { context with snodeWinnerInfo := winners } = some other ∧
      other.originalBaseReward = parts.originalBaseReward ∧
      other.adjustedBaseReward = parts.adjustedBaseReward ∧
      other.control = parts.control ∧ other.fullNodeTotal = parts.fullNodeTotal := by
  unfold getAntdBlockReward at produced ⊢
  cases based : getBaseBlockReward medianWeight currentBlockWeight alreadyGeneratedCoins 0
      hardForkVersion with
  | none => rw [based] at produced; cases produced
  | some baseReward =>
      rw [based] at produced
      dsimp only at produced ⊢
      by_cases zero : baseReward = 0
      · rw [if_pos zero] at produced
        cases produced
      · rw [if_neg zero] at produced ⊢
        by_cases genesis : alreadyGeneratedCoins = 0
        · rw [if_pos genesis] at produced ⊢
          cases produced
          exact ⟨_, rfl, rfl, rfl, rfl, rfl⟩
        · rw [if_neg genesis] at produced ⊢
          cases produced
          exact ⟨_, rfl, rfl, rfl, rfl, rfl⟩

theorem minerReward_add_eq {medianWeight currentBlockWeight alreadyGeneratedCoins : UInt64}
    {hardForkVersion : Nat} {context : AntdBlockRewardContext} {parts : BlockRewardParts}
    (produced : getAntdBlockReward medianWeight currentBlockWeight alreadyGeneratedCoins
      hardForkVersion context = some parts)
    (generated : alreadyGeneratedCoins ≠ 0) :
    parts.minerReward + parts.control + parts.fullNodePaid =
      parts.adjustedBaseReward + context.fee := by
  obtain ⟨_, -, -, -, -, -, miner, fee, -, -⟩ := getAntdBlockReward_eq_some produced generated
  rw [BlockRewardParts.minerReward, miner, fee]
  grind

theorem controlRewardFormula_toNat (baseReward : UInt64) :
    (controlRewardFormula baseReward).toNat = baseReward.toNat / 6 := by
  rw [controlRewardFormula, UInt64.toNat_div]
  rfl

theorem fullNodeRewardFormula_toNat {hardForkVersion : Nat} (baseReward : UInt64)
    (forked : 9 ≤ hardForkVersion) :
    (fullNodeRewardFormula baseReward hardForkVersion).toNat = baseReward.toNat / 2 := by
  rw [fullNodeRewardFormula, if_pos forked, UInt64.toNat_div]
  rfl

theorem baseMiner_add_eq {parts : BlockRewardParts}
    (miner : parts.baseMiner = parts.adjustedBaseReward - (parts.control + parts.fullNodePaid))
    (fits : parts.control.toNat + parts.fullNodePaid.toNat ≤ parts.adjustedBaseReward.toNat) :
    parts.baseMiner.toNat + parts.control.toNat + parts.fullNodePaid.toNat =
      parts.adjustedBaseReward.toNat := by
  have noWrap : (parts.control + parts.fullNodePaid).toNat =
      parts.control.toNat + parts.fullNodePaid.toNat := by
    rw [UInt64.toNat_add]
    have := parts.adjustedBaseReward.toNat_lt
    omega
  rw [miner, UInt64.toNat_sub_of_le _ _ (by rw [UInt64.le_iff_toNat_le, noWrap]; exact fits),
    noWrap]
  omega

theorem getAntdBlockReward_split {medianWeight currentBlockWeight alreadyGeneratedCoins : UInt64}
    {hardForkVersion : Nat} {context : AntdBlockRewardContext} {parts : BlockRewardParts}
    (produced : getAntdBlockReward medianWeight currentBlockWeight alreadyGeneratedCoins
      hardForkVersion context = some parts)
    (generated : alreadyGeneratedCoins ≠ 0) (forked : 9 ≤ hardForkVersion)
    (portionsBound : portionsOf context.snodeWinnerInfo ≤ stakingPortions.toNat)
    (adjustedFits : 10 ≤ hardForkVersion →
      parts.originalBaseReward.toNat - parts.originalBaseReward.toNat / 6 +
        context.batchedControl.toNat < 2 ^ 64) :
    parts.fullNodePaid.toNat ≤ parts.fullNodeTotal.toNat ∧
      parts.fullNodeTotal.toNat ≤ parts.originalBaseReward.toNat ∧
      parts.baseMiner.toNat + parts.control.toNat + parts.fullNodePaid.toNat =
        parts.adjustedBaseReward.toNat := by
  obtain ⟨baseReward, -, -, original, total, paid, miner, -, late, early⟩ :=
    getAntdBlockReward_eq_some produced generated
  have totalEq : parts.fullNodeTotal.toNat = baseReward.toNat / 2 := by
    rw [total, fullNodeRewardFormula_toNat baseReward forked]
  have paidLe : parts.fullNodePaid.toNat ≤ parts.fullNodeTotal.toNat := by
    rw [paid, calculateSumOfPortions_toNat _ (portionsOf_winnerInfo portionsBound)]
    exact sharesOf_le_total _ (portionsOf_winnerInfo portionsBound)
  refine ⟨paidLe, by rw [totalEq, original]; omega, baseMiner_add_eq miner ?_⟩
  by_cases batched : 10 ≤ hardForkVersion
  · obtain ⟨control, adjusted⟩ := late batched
    have fits := adjustedFits batched
    rw [original] at fits
    have kept : (baseReward - controlRewardFormula baseReward).toNat =
        baseReward.toNat - baseReward.toNat / 6 := by
      rw [UInt64.toNat_sub_of_le _ _ (by
        rw [UInt64.le_iff_toNat_le, controlRewardFormula_toNat]; omega),
        controlRewardFormula_toNat]
    have adjustedEq : parts.adjustedBaseReward.toNat =
        baseReward.toNat - baseReward.toNat / 6 + context.batchedControl.toNat := by
      rw [adjusted]
      split
      · rw [UInt64.toNat_add, kept]
        omega
      · rename_i nothing
        have zero : context.batchedControl.toNat = 0 := by
          simp only [gt_iff_lt, UInt64.lt_iff_toNat_lt, UInt64.toNat_zero] at nothing
          omega
        rw [kept, zero]
        rfl
    rw [adjustedEq, control]
    omega
  · obtain ⟨control, adjusted⟩ := early (by omega)
    rw [adjusted, control, controlRewardFormula_toNat]
    omega

end Antd.Cryptonote
