import Mathlib

/-! `epee::misc_utils::median` of `misc_language.h`: the middle one of the
sorted values, or for an even count the mean of the two middle ones, their
sum taken in 64 bits. The code sorts with `std::sort`; the model sorts by
insertion, which gives the same sorted list, so that medians of concrete
lists evaluate. -/

namespace Antd.Epee

def median (v : List UInt64) : UInt64 :=
  if v.isEmpty then 0
  else if v.length = 1 then v.headD 0
  else
    let n := v.length / 2
    let sorted := v.insertionSort (· ≤ ·)
    if v.length % 2 = 1 then sorted.getD n 0
    else (sorted.getD (n - 1) 0 + sorted.getD n 0) / 2

theorem insertionSort_eq_of_perm {v w : List UInt64} (same : v.Perm w) :
    v.insertionSort (· ≤ ·) = w.insertionSort (· ≤ ·) :=
  List.Perm.eq_of_pairwise' (List.pairwise_insertionSort _ v) (List.pairwise_insertionSort _ w)
    (((List.perm_insertionSort _ v).trans same).trans (List.perm_insertionSort _ w).symm)

theorem median_of_two_le {v : List UInt64} (long : 2 ≤ v.length) :
    median v =
      if v.length % 2 = 1 then (v.insertionSort (· ≤ ·)).getD (v.length / 2) 0
      else ((v.insertionSort (· ≤ ·)).getD (v.length / 2 - 1) 0 +
        (v.insertionSort (· ≤ ·)).getD (v.length / 2) 0) / 2 := by
  have nonempty : v.isEmpty = false := by
    rw [List.isEmpty_eq_false_iff]
    rintro rfl
    simp at long
  rw [median, if_neg (by rw [nonempty]; decide), if_neg (by omega)]

theorem median_perm {v w : List UInt64} (same : v.Perm w) : median v = median w := by
  cases v with
  | nil => rw [List.nil_perm.mp same]
  | cons a rest =>
      cases rest with
      | nil => rw [← List.singleton_perm.mp same]
      | cons b rest =>
          have long : 2 ≤ (a :: b :: rest).length := by simp
          rw [median_of_two_le long, median_of_two_le (same.length_eq ▸ long),
            insertionSort_eq_of_perm same, same.length_eq]

end Antd.Epee
