import Mathlib

/-! Linear recurrences over a field. A linear step of a finite-dimensional
space whose only fixed point is zero cannot keep a linear functional at one
nonzero value along an orbit: the value would make 1 a root of the step's
minimal polynomial, so 1 an eigenvalue, so a nonzero fixed point. -/

namespace LinearRecurrence

variable {K V : Type} [Field K] [AddCommGroup V] [Module K V]

theorem apply_aeval (step : V →ₗ[K] V) (observe : V →ₗ[K] K) (p : Polynomial K) (v : V) :
    observe (Polynomial.aeval step p v) =
      ∑ i ∈ Finset.range (p.natDegree + 1), p.coeff i * observe ((step ^ i) v) := by
  rw [Polynomial.aeval_eq_sum_range, LinearMap.sum_apply, map_sum]
  simp

variable [FiniteDimensional K V]

theorem eval_one_ne_zero {step : V →ₗ[K] V} (fixedFree : ∀ v, step v = v → v = 0) :
    (minpoly K step).eval 1 ≠ 0 := by
  intro root
  obtain ⟨v, eigen⟩ := (Module.End.hasEigenvalue_of_isRoot root).exists_hasEigenvector
  have fixed : step v = v := by
    simpa using Module.End.mem_eigenspace_iff.mp eigen.1
  exact eigen.2 (fixedFree v fixed)

theorem exists_iterate_ne {step : V →ₗ[K] V} (fixedFree : ∀ v, step v = v → v = 0)
    (observe : V →ₗ[K] K) {c : K} (nonzero : c ≠ 0) (v : V) :
    ∃ n, observe ((step ^ n) v) ≠ c := by
  by_contra constant
  simp only [not_exists, not_not] at constant
  have vanishes := apply_aeval step observe (minpoly K step) v
  rw [minpoly.aeval, LinearMap.zero_apply, map_zero] at vanishes
  simp only [constant] at vanishes
  rw [← Finset.sum_mul] at vanishes
  have evalOne : (minpoly K step).eval 1 =
      ∑ i ∈ Finset.range ((minpoly K step).natDegree + 1), (minpoly K step).coeff i := by
    rw [Polynomial.eval_eq_sum_range]
    simp
  exact eval_one_ne_zero fixedFree (evalOne.trans
    ((mul_eq_zero.mp vanishes.symm).resolve_right nonzero))

end LinearRecurrence
