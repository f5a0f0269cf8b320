/-
This file compares a formula that stores its numbers modulo some bound with the same formula over
the integers.
-/

import Mathlib.Algebra.Order.Ring.Int

namespace AppSvr.WrappedNumbers

/-- The wrapped number is exact while everything fits, and lags behind by the gap later. -/
structure Lags (machine exact gap : Int) (fits : Prop) : Prop where
  nonneg : 0 ≤ machine
  same : fits → machine = exact
  late : ¬ fits → machine + gap ≤ exact

namespace Lags

variable {machine exact gap next limit : Int} {fits : Prop}

theorem of_nonneg (nonneg : 0 ≤ machine) : Lags machine machine gap True :=
  ⟨nonneg, fun _ => rfl, fun late => absurd trivial late⟩

/-- A wrapped number is never above the exact one. -/
theorem le (lags : Lags machine exact gap fits) (nonneg : 0 ≤ gap) : machine ≤ exact := by
  by_cases fit : fits
  · exact (lags.same fit).le
  · have late := lags.late fit
    omega

/-- A growing stage keeps the lag. -/
theorem map (lags : Lags machine exact gap fits) (stage : Int → Int) (nonneg : 0 ≤ stage machine)
    (grows : machine + gap ≤ exact → stage machine + next ≤ stage exact) :
    Lags (stage machine) (stage exact) next fits :=
  ⟨nonneg, fun fit => congrArg stage (lags.same fit), fun late => grows (lags.late late)⟩

/-- A stored number may begin a lag. -/
theorem store (lags : Lags machine exact gap fits) (positive : 0 ≤ limit)
    (small : gap ≤ limit + 1) :
    Lags (machine % (limit + 1)) exact gap (fits ∧ exact ≤ limit) := by
  have nonneg := lags.nonneg
  have low := Int.emod_nonneg machine (by omega : limit + 1 ≠ 0)
  have high := Int.emod_lt_of_pos machine (by omega : 0 < limit + 1)
  have whole := Int.emod_add_mul_ediv machine (limit + 1)
  have quotient : 0 ≤ (limit + 1) * (machine / (limit + 1)) :=
    mul_nonneg (by omega) (Int.ediv_nonneg nonneg (by omega))
  refine ⟨low, fun fit => ?_, fun late => ?_⟩
  · have same := lags.same fit.1
    rw [Int.emod_eq_of_lt nonneg (by omega), same]
  · by_cases fit : fits
    · have same := lags.same fit
      have large : ¬ exact ≤ limit := fun small => late ⟨fit, small⟩
      have once : 1 ≤ machine / (limit + 1) :=
        (Int.le_ediv_iff_mul_le (by omega)).mpr (by omega)
      have least : (limit + 1) * 1 ≤ (limit + 1) * (machine / (limit + 1)) :=
        mul_le_mul_of_nonneg_left once (by omega)
      omega
    · have behind := lags.late fit
      omega

end Lags

end AppSvr.WrappedNumbers
