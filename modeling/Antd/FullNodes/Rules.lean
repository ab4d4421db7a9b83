import Antd.Cryptonote.Reward
import Antd.Lib.ForLoop

/-! The contribution rules of `full_node_rules.cpp`: the least contribution a
contributor may make and the check of the portions of a registration. The
check adds the portions in a `uint64_t`, so that a sum past `2 ^ 64` wraps
before it is compared with `STAKING_PORTIONS`. -/

namespace Antd.FullNodes

open Antd.Cryptonote Antd.Epee ForLoop

def maxNumberOfContributors : Nat := 4

def maxKeyImagesPerContributor : Nat := 1

def networkVersion11InfiniteStaking : Nat := 11

def getMinNodeContributionPreV11 (stakingRequirement totalReserved : UInt64) : UInt64 :=
  min (stakingRequirement - totalReserved)
    (stakingRequirement / maxNumberOfContributors.toUInt64)

/-- `get_min_node_contribution`. Its `assert` on the number of contributions
is left out: the branch after it returns `UINT64_MAX` in that case. -/
def getMinNodeContribution (version : Nat) (stakingRequirement totalReserved : UInt64)
    (numContributions : Nat) : UInt64 :=
  if version < networkVersion11InfiniteStaking then
    getMinNodeContributionPreV11 stakingRequirement totalReserved
  else
    let needed := stakingRequirement - totalReserved
    let maxNumOfContributions := maxNumberOfContributors * maxKeyImagesPerContributor
    if maxNumOfContributions ≤ numContributions then 0xFFFFFFFFFFFFFFFF
    else needed / (maxNumOfContributions - numContributions).toUInt64

/-- One pass of the loop of `check_full_node_portions`: the portion at `i`
must reach the least contribution, and is then added to `reserved`. -/
def checkPortion (hfVersion : Nat) (portions : List UInt64) (i : Nat) (reserved : UInt64) :
    Option UInt64 :=
  let minPortions := getMinNodeContribution hfVersion stakingPortions reserved i
  if portions.getD i 0 < minPortions then none else some (reserved + portions.getD i 0)

def checkFullNodePortions (hfVersion : Nat) (portions : List UInt64) : Bool :=
  if portions.length > maxNumberOfContributors then false
  else
    match forRange (checkPortion hfVersion portions) portions.length 0 0 with
    | none => false
    | some reserved => decide (reserved ≤ stakingPortions)

/-- `portions_to_amount`: the same product and quotient as
`get_portion_of_reward`, of the staking requirement. -/
def portionsToAmount (portions stakingRequirement : UInt64) : UInt64 :=
  getPortionOfReward portions stakingRequirement

/-- `get_portions_to_make_amount`: `amount * STAKING_PORTIONS` in 128 bits,
plus `staking_requirement - 1` with the carry into the high word made by hand,
divided by the staking requirement; the low word of the quotient. -/
def getPortionsToMakeAmount (stakingRequirement amount : UInt64) : UInt64 :=
  let product := mul128 amount stakingPortions
  let hi := if product.1 > 0xFFFFFFFFFFFFFFFF - (stakingRequirement - 1) then product.2 + 1
    else product.2
  let lo := product.1 + (stakingRequirement - 1)
  (div128_64 hi lo stakingRequirement).2.2

/-- `get_min_node_contribution_in_portions`: the least contribution as
portions of the staking requirement, `UINT64_MAX` kept as it is. -/
def getMinNodeContributionInPortions (version : Nat) (stakingRequirement totalReserved : UInt64)
    (numContributions : Nat) : UInt64 :=
  let atomicAmount := getMinNodeContribution version stakingRequirement totalReserved numContributions
  if atomicAmount = 0xFFFFFFFFFFFFFFFF then 0xFFFFFFFFFFFFFFFF
  else getPortionsToMakeAmount stakingRequirement atomicAmount

/-! ### What the check accepts

The loop keeps the `uint64_t` sum of the portions it has passed, so the check
decides the wrapped sum and not the sum of the portions. -/

/-! ### A wrapped sum passes -/

theorem getMinNodeContribution_none_reserved (version : Nat) :
    getMinNodeContribution version stakingPortions 0 0 = stakingPortions / 4 := by
  unfold getMinNodeContribution getMinNodeContributionPreV11
  split <;> decide

theorem getMinNodeContribution_all_reserved (version : Nat) :
    getMinNodeContribution version stakingPortions stakingPortions 1 = 0 := by
  unfold getMinNodeContribution getMinNodeContributionPreV11
  split <;> decide

/-- A whole stake followed by any portion of at least 4 passes the check,
although the two portions add up to at least `2 ^ 64`: the sum wraps to the
second portion less 4, which is below `STAKING_PORTIONS`. -/
theorem checkFullNodePortions_accepts_wrapped_sum (hfVersion : Nat) (portion : UInt64)
    (wraps : 4 ≤ portion.toNat) :
    checkFullNodePortions hfVersion [stakingPortions, portion] = true ∧
      2 ^ 64 ≤ stakingPortions.toNat + portion.toNat := by
  have stakingPortions_toNat : stakingPortions.toNat = 2 ^ 64 - 4 := rfl
  have wrapped : stakingPortions + portion ≤ stakingPortions := by
    rw [UInt64.le_iff_toNat_le, UInt64.toNat_add, stakingPortions_toNat]
    have below := portion.toNat_lt
    omega
  have firstPasses : checkPortion hfVersion [stakingPortions, portion] 0 0 =
      some stakingPortions := by
    simp only [checkPortion, getMinNodeContribution_none_reserved, List.getD_cons_zero]
    rw [if_neg (by decide), UInt64.zero_add]
  have secondPasses : checkPortion hfVersion [stakingPortions, portion] 1 stakingPortions =
      some (stakingPortions + portion) := by
    simp only [checkPortion, getMinNodeContribution_all_reserved, List.getD_cons_succ,
      List.getD_cons_zero]
    rw [if_neg (UInt64.not_lt.mpr UInt64.zero_le)]
  refine ⟨?_, by omega⟩
  unfold checkFullNodePortions
  rw [if_neg (by simp [maxNumberOfContributors])]
  simp only [List.length_cons, List.length_nil]
  rw [forRange_succ, firstPasses, Option.bind_some, forRange_succ,
    secondPasses, Option.bind_some, forRange_zero]
  exact decide_eq_true wrapped

theorem whole_stake_and_four_portions_pass :
    4 ≤ (4 : UInt64).toNat ∧
      checkFullNodePortions 11 [stakingPortions, 4] = true ∧
      2 ^ 64 ≤ stakingPortions.toNat + (4 : UInt64).toNat :=
  ⟨by decide, checkFullNodePortions_accepts_wrapped_sum 11 4 (by decide)⟩

/-! ### Portions and amounts -/

theorem getPortionsToMakeAmount_toNat (amount : UInt64) {stakingRequirement : UInt64}
    (positive : 0 < stakingRequirement) :
    (getPortionsToMakeAmount stakingRequirement amount).toNat =
      (amount.toNat * stakingPortions.toNat + (stakingRequirement.toNat - 1)) /
        stakingRequirement.toNat % 2 ^ 64 := by
  unfold getPortionsToMakeAmount
  dsimp only
  obtain ⟨low, high⟩ := mul128_spec amount stakingPortions
  have requirementBound := stakingRequirement.toNat_lt
  have positiveNat : 0 < stakingRequirement.toNat := UInt64.lt_iff_toNat_lt.mp positive
  have minusOne : (stakingRequirement - 1).toNat = stakingRequirement.toNat - 1 :=
    UInt64.toNat_sub_of_le _ _ (UInt64.le_iff_toNat_le.mpr positiveNat)
  have room : (0xFFFFFFFFFFFFFFFF - (stakingRequirement - 1) : UInt64).toNat =
      2 ^ 64 - stakingRequirement.toNat := by
    have maxNat : (0xFFFFFFFFFFFFFFFF : UInt64).toNat = 2 ^ 64 - 1 := rfl
    rw [UInt64.toNat_sub_of_le _ _ (UInt64.le_iff_toNat_le.mpr (by rw [minusOne, maxNat]; omega)),
      minusOne, maxNat]
    omega
  have amountBound := amount.toNat_lt
  have portionsNat := stakingPortions_toNat
  have highBound : (mul128 amount stakingPortions).2.toNat + 1 < 2 ^ 64 := by
    rw [high, portionsNat]
    omega
  set product := mul128 amount stakingPortions
  have carryWord : (product.2 + 1).toNat = product.2.toNat + 1 := by
    rw [UInt64.toNat_add, UInt64.toNat_one, Nat.mod_eq_of_lt highBound]
  have exact : (if product.1 > 0xFFFFFFFFFFFFFFFF - (stakingRequirement - 1) then product.2 + 1
        else product.2).toNat * 2 ^ 64 + (product.1 + (stakingRequirement - 1)).toNat =
      amount.toNat * stakingPortions.toNat + (stakingRequirement.toNat - 1) := by
    rw [UInt64.toNat_add, minusOne]
    by_cases carried : product.1 > 0xFFFFFFFFFFFFFFFF - (stakingRequirement - 1)
    · have carriedNat := UInt64.lt_iff_toNat_lt.mp carried
      rw [room] at carriedNat
      rw [if_pos carried, carryWord, low, high]
      omega
    · have notCarried := UInt64.not_lt.mp carried
      rw [UInt64.le_iff_toNat_le, room] at notCarried
      rw [if_neg carried, low, high]
      omega
  obtain ⟨quotient, -⟩ := div128_64_spec _ _ stakingRequirement positiveNat
  rw [exact] at quotient
  have lowWord := (div128_64 (if product.1 > 0xFFFFFFFFFFFFFFFF - (stakingRequirement - 1) then
    product.2 + 1 else product.2) (product.1 + (stakingRequirement - 1)) stakingRequirement).2.2.toNat_lt
  omega

/-- The least number of portions whose amount reaches `amount`, exact when the
amount is at most the staking requirement: the ceiling of
`amount * STAKING_PORTIONS / staking_requirement`, and `portions_to_amount`
gives the amount back while any fewer portions give less. -/
theorem getPortionsToMakeAmount_round_trips {stakingRequirement amount : UInt64}
    (positive : 0 < stakingRequirement) (atMost : stakingRequirement ≤ stakingPortions)
    (enough : amount ≤ stakingRequirement) :
    (getPortionsToMakeAmount stakingRequirement amount).toNat =
        (amount.toNat * stakingPortions.toNat + (stakingRequirement.toNat - 1)) /
          stakingRequirement.toNat ∧
      portionsToAmount (getPortionsToMakeAmount stakingRequirement amount) stakingRequirement =
        amount ∧
      ∀ portions, portions < getPortionsToMakeAmount stakingRequirement amount →
        portionsToAmount portions stakingRequirement < amount := by
  have positiveNat : 0 < stakingRequirement.toNat := UInt64.lt_iff_toNat_lt.mp positive
  have atMostNat := UInt64.le_iff_toNat_le.mp atMost
  have enoughNat := UInt64.le_iff_toNat_le.mp enough
  have split := Nat.div_add_mod (amount.toNat * stakingPortions.toNat +
    (stakingRequirement.toNat - 1)) stakingRequirement.toNat
  have remainder := Nat.mod_lt (amount.toNat * stakingPortions.toNat +
    (stakingRequirement.toNat - 1)) positiveNat
  have toNatEq := getPortionsToMakeAmount_toNat amount positive
  generalize (amount.toNat * stakingPortions.toNat + (stakingRequirement.toNat - 1)) /
    stakingRequirement.toNat = ceiling at split toNatEq ⊢
  rw [stakingPortions_toNat] at split remainder atMostNat
  have ceilingBound : ceiling ≤ 2 ^ 64 - 4 := by
    have timesBound : stakingRequirement.toNat * ceiling <
        stakingRequirement.toNat * (2 ^ 64 - 4 + 1) := by
      have : amount.toNat * (2 ^ 64 - 4) ≤ stakingRequirement.toNat * (2 ^ 64 - 4) :=
        Nat.mul_le_mul_right _ enoughNat
      omega
    have := Nat.lt_of_mul_lt_mul_left timesBound
    omega
  have exact : (getPortionsToMakeAmount stakingRequirement amount).toNat = ceiling := by
    rw [toNatEq, Nat.mod_eq_of_lt (by omega)]
  refine ⟨exact, ?_, fun portions fewer => ?_⟩
  · apply UInt64.toNat_inj.mp
    rw [portionsToAmount, getPortionOfReward_toNat_of_le _ (by rw [exact, stakingPortions_toNat]; omega),
      exact, stakingPortions_toNat]
    apply Nat.div_eq_of_lt_le
    · omega
    · omega
  · have fewerNat := UInt64.lt_iff_toNat_lt.mp fewer
    rw [exact] at fewerNat
    have below : stakingRequirement.toNat * portions.toNat + stakingRequirement.toNat ≤
        stakingRequirement.toNat * ceiling := by
      rw [← Nat.mul_succ]
      exact Nat.mul_le_mul_left _ fewerNat
    apply UInt64.lt_iff_toNat_lt.mpr
    rw [portionsToAmount, getPortionOfReward_toNat_of_le _ (by rw [stakingPortions_toNat]; omega),
      stakingPortions_toNat]
    apply Nat.div_lt_of_lt_mul
    omega

theorem portions_of_seven_in_a_hundred :
    (getPortionsToMakeAmount 100 7).toNat =
        ((7 : UInt64).toNat * stakingPortions.toNat + ((100 : UInt64).toNat - 1)) /
          (100 : UInt64).toNat ∧
      portionsToAmount (getPortionsToMakeAmount 100 7) 100 = 7 ∧
      ∀ portions, portions < getPortionsToMakeAmount 100 7 → portionsToAmount portions 100 < 7 :=
  getPortionsToMakeAmount_round_trips (by decide) (by decide) (by decide)

end Antd.FullNodes
