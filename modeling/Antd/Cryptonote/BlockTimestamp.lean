import Antd.Epee.Median

/-! The timestamp rule for new blocks, `Blockchain::check_block_timestamp`,
and the timestamps `Blockchain::handle_alternative_block` checks a block of
an alternative chain against: the alternative chain's own timestamps, walked
back from its head, topped up from the main chain below the fork by
`complete_timestamps_vector`.

A chain is the list of its blocks' timestamps, bottom up, indexed by height. -/

namespace Antd.Cryptonote

open Antd.Epee

def blockchainTimestampCheckWindow : Nat := 11

def cryptonoteBlockFutureTimeLimitV2 : UInt64 := 60 * 10

/-- `check_block_timestamp(timestamps, b, median_ts)`: the block's timestamp
is not below the median of the given ones. -/
def checkBlockTimestampAgainst (timestamps : List UInt64) (timestamp : UInt64) : Bool :=
  !(timestamp < median timestamps)

/-- `check_block_timestamp(b, median_ts)` on the main chain `chain`: no more
than the future limit past the adjusted time, and once the chain holds a
whole window, not below the median of its last window. -/
def checkBlockTimestamp (adjustedTime : UInt64) (chain : List UInt64) (timestamp : UInt64) :
    Bool :=
  if timestamp > adjustedTime + cryptonoteBlockFutureTimeLimitV2 then false
  else if chain.length < blockchainTimestampCheckWindow then true
  else
    let offset := chain.length - blockchainTimestampCheckWindow
    checkBlockTimestampAgainst
      ((List.range' offset (chain.length - offset)).map fun height => chain.getD height 0)
      timestamp

/-- `complete_timestamps_vector`: the timestamps of the main chain's blocks
from `start_top_height` down, until there are a window's worth; none where its
check fails. The loop stops before height `stop_offset`, so it never reads
the genesis block. -/
def completeTimestampsVector (chain : List UInt64) (startTopHeight : Nat)
    (timestamps : List UInt64) : Option (List UInt64) :=
  if timestamps.length ≥ blockchainTimestampCheckWindow then some timestamps
  else
    let needElements := blockchainTimestampCheckWindow - timestamps.length
    if ¬startTopHeight < chain.length then none
    else
      let stopOffset := if startTopHeight > needElements then startTopHeight - needElements else 0
      some (timestamps ++ ((List.range' (stopOffset + 1) (startTopHeight - stopOffset)).reverse.map
        fun height => chain.getD height 0))

/-- The timestamps `handle_alternative_block` checks a block against: the
block's parent is the head of `alternative` (bottom up; empty when the parent
is on the main chain), which forks from the main-chain block at
`mainParentHeight`. The caller does not look at what
`complete_timestamps_vector` returns. -/
def alternativeBlockTimestamps (chain alternative : List UInt64) (mainParentHeight : Nat) :
    List UInt64 :=
  let timestamps := alternative.reverse
  (completeTimestampsVector chain mainParentHeight timestamps).getD timestamps

theorem map_getD_range' (l : List UInt64) (offset n : Nat) (ordered : offset ≤ n)
    (inside : n ≤ l.length) :
    (List.range' offset (n - offset)).map (fun height => l.getD height 0) =
      (l.take n).drop offset := by
  apply List.ext_getElem
  · simp only [List.length_map, List.length_range', List.length_drop, List.length_take]
    omega
  · intro i inRange _
    simp only [List.length_map, List.length_range'] at inRange
    simp only [List.getElem_map, List.getElem_range', List.getElem_drop, List.getElem_take,
      List.getD_eq_getElem?_getD, Nat.one_mul]
    rw [List.getElem?_eq_getElem (by omega), Option.getD_some]

theorem alternativeBlockTimestamps_eq_reverse {chain alternative : List UInt64}
    {mainParentHeight : Nat} (onChain : mainParentHeight < chain.length)
    (short : alternative.length < blockchainTimestampCheckWindow)
    (deep : blockchainTimestampCheckWindow ≤ mainParentHeight + alternative.length) :
    alternativeBlockTimestamps chain alternative mainParentHeight =
      ((chain.take (mainParentHeight + 1)).drop
        (mainParentHeight + 1 + alternative.length - blockchainTimestampCheckWindow) ++
        alternative).reverse := by
  unfold alternativeBlockTimestamps completeTimestampsVector
  dsimp only
  rw [List.length_reverse, if_neg (by omega), if_neg (not_not.mpr onChain), Option.getD_some]
  have stop : (if mainParentHeight > blockchainTimestampCheckWindow - alternative.length then
      mainParentHeight - (blockchainTimestampCheckWindow - alternative.length) else 0) =
      mainParentHeight + 1 + alternative.length - blockchainTimestampCheckWindow - 1 := by
    split <;> omega
  rw [stop, show mainParentHeight + 1 + alternative.length - blockchainTimestampCheckWindow - 1 + 1 =
      mainParentHeight + 1 + alternative.length - blockchainTimestampCheckWindow by omega,
    show mainParentHeight - (mainParentHeight + 1 + alternative.length -
      blockchainTimestampCheckWindow - 1) = mainParentHeight + 1 -
      (mainParentHeight + 1 + alternative.length - blockchainTimestampCheckWindow) by omega,
    List.map_reverse, map_getD_range' chain _ _ (by omega) (by omega), List.reverse_append]

/-- For such a branch the alternative check is the main-chain check on the
chain ending at the branch's head, the future bound apart. -/
theorem alternative_check_agrees {chain alternative : List UInt64} {mainParentHeight : Nat}
    (onChain : mainParentHeight < chain.length)
    (short : alternative.length < blockchainTimestampCheckWindow)
    (deep : blockchainTimestampCheckWindow ≤ mainParentHeight + alternative.length)
    {adjustedTime timestamp : UInt64}
    (notFuture : timestamp ≤ adjustedTime + cryptonoteBlockFutureTimeLimitV2) :
    alternativeBlockTimestamps chain alternative mainParentHeight =
        ((chain.take (mainParentHeight + 1)).drop
          (mainParentHeight + 1 + alternative.length - blockchainTimestampCheckWindow) ++
          alternative).reverse ∧
      checkBlockTimestampAgainst (alternativeBlockTimestamps chain alternative mainParentHeight)
          timestamp =
        checkBlockTimestamp adjustedTime (chain.take (mainParentHeight + 1) ++ alternative)
          timestamp := by
  refine ⟨alternativeBlockTimestamps_eq_reverse onChain short deep, ?_⟩
  have length : (chain.take (mainParentHeight + 1) ++ alternative).length =
      mainParentHeight + 1 + alternative.length := by
    simp only [List.length_append, List.length_take]
    omega
  unfold checkBlockTimestamp
  rw [if_neg (show ¬timestamp > adjustedTime + cryptonoteBlockFutureTimeLimitV2 from
    UInt64.not_lt.mpr notFuture), if_neg (by rw [length]; omega)]
  dsimp only
  rw [map_getD_range' _ _ _ (by omega) le_rfl, List.take_length,
    List.drop_append_of_le_length (by simp only [List.length_take]; omega), length,
    alternativeBlockTimestamps_eq_reverse onChain short deep]
  unfold checkBlockTimestampAgainst
  rw [median_perm (List.reverse_perm _)]

theorem alternative_check_agrees_on_one_block_branch :
    10 < ([0, 1, 2, 3, 4, 5, 6, 7, 8, 9, 10] : List UInt64).length ∧
      ([20] : List UInt64).length < blockchainTimestampCheckWindow ∧
      blockchainTimestampCheckWindow ≤ 10 + ([20] : List UInt64).length ∧
      (5 : UInt64) ≤ 1000 + cryptonoteBlockFutureTimeLimitV2 ∧
      alternativeBlockTimestamps [0, 1, 2, 3, 4, 5, 6, 7, 8, 9, 10] [20] 10 =
        ((([0, 1, 2, 3, 4, 5, 6, 7, 8, 9, 10] : List UInt64).take (10 + 1)).drop
          (10 + 1 + ([20] : List UInt64).length - blockchainTimestampCheckWindow) ++ [20]).reverse ∧
      checkBlockTimestampAgainst
          (alternativeBlockTimestamps [0, 1, 2, 3, 4, 5, 6, 7, 8, 9, 10] [20] 10) 5 =
        checkBlockTimestamp 1000 (([0, 1, 2, 3, 4, 5, 6, 7, 8, 9, 10] : List UInt64).take (10 + 1) ++
          [20]) 5 :=
  ⟨by decide, by decide, by decide, by decide,
    alternative_check_agrees (by decide) (by decide) (by decide) (by decide)⟩

/-- A block on an alternative branch of twelve blocks is checked against the
median of all twelve timestamps, where the main chain would take the median
of the last eleven: timestamp 6 passes the alternative check and fails the
main-chain one. The main chain of fourteen blocks outweighs the branch, so the
branch stays an alternative one. -/
theorem alternative_median_spans_whole_branch :
    median (alternativeBlockTimestamps [0, 1, 2, 3, 4, 5, 6, 7, 8, 9, 10, 11, 12, 13]
      [1, 2, 3, 4, 5, 6, 7, 8, 9, 10, 11, 12] 0) = 6 ∧
      checkBlockTimestampAgainst (alternativeBlockTimestamps
        [0, 1, 2, 3, 4, 5, 6, 7, 8, 9, 10, 11, 12, 13] [1, 2, 3, 4, 5, 6, 7, 8, 9, 10, 11, 12] 0)
        6 = true ∧
      median ([2, 3, 4, 5, 6, 7, 8, 9, 10, 11, 12] : List UInt64) = 7 ∧
      checkBlockTimestamp 1000
        (([0, 1, 2, 3, 4, 5, 6, 7, 8, 9, 10, 11, 12, 13] : List UInt64).take (0 + 1) ++
          [1, 2, 3, 4, 5, 6, 7, 8, 9, 10, 11, 12]) 6 = false := by
  decide

end Antd.Cryptonote
