/-
This file defines the points of a ray on a finite axis, where a point is cut off to a cell, and the
search through rings of growing radius, where a ring holds the listed cells up to its radius.
-/

import Mathlib.Data.List.Basic
import Mathlib.Tactic.Linarith

namespace AppSvr.TruncatedRays

variable {size place step len den : Int}

/-- The ray has made the share `len / den` of a step. -/
def point (place step len den : Int) : Int := place + (len * step).tdiv den

/-- The end of the axis that the step faces is this many cells away. -/
def room (size place step : Int) : Int := if 0 < step then size - 1 - place else place

/-- The same way has the sign of the step. -/
def way (size place step : Int) : Int := if 0 < step then size - 1 - place else -place

/-- The share of the step ends before the border. -/
def Within (size place step len den : Int) : Prop :=
  len * step.natAbs < (room size place step + 1) * den

instance (size place step len den : Int) : Decidable (Within size place step len den) :=
  inferInstanceAs (Decidable (_ < _))

variable (step) in
theorem room_nonneg (low : 0 ≤ place) (high : place < size) : 0 ≤ room size place step := by
  unfold room
  split <;> omega

variable (step) in
/-- The point is inside exactly when the share of the step ends before the border. -/
theorem inside_iff (low : 0 ≤ place) (high : place < size) (nonneg : 0 ≤ len)
    (positive : 0 < den) :
    0 ≤ point place step len den ∧ point place step len den < size ↔
      Within size place step len den := by
  have scaled : 0 ≤ len * step.natAbs := mul_nonneg nonneg (Int.natCast_nonneg _)
  have quotient : 0 ≤ len * step.natAbs / den := Int.ediv_nonneg scaled positive.le
  have within : len * step.natAbs / den < room size place step + 1 ↔
      Within size place step len den := Int.ediv_lt_iff_lt_mul positive
  rw [← within, room, point]
  by_cases forward : 0 < step
  · have sign : (step.natAbs : Int) = step := Int.natAbs_of_nonneg forward.le
    rw [sign] at scaled quotient ⊢
    rw [if_pos forward, Int.tdiv_eq_ediv_of_nonneg scaled]
    omega
  · have sign : step = -(step.natAbs : Int) := by omega
    have turned : (len * step).tdiv den = -(len * step.natAbs / den) := by
      rw [← Int.tdiv_eq_ediv_of_nonneg scaled, ← Int.neg_tdiv, ← mul_neg, ← sign]
    rw [if_neg forward, turned]
    omega

theorem point_zero (place len den : Int) : point place 0 len den = place := by
  rw [point, mul_zero, Int.zero_tdiv, add_zero]

/-- A ray that stands still on the axis stays inside. -/
theorem within_zero (low : 0 ≤ place) (high : place < size) (positive : 0 < den) :
    Within size place 0 len den := by
  have := room_nonneg 0 low high
  rw [Within, Int.natAbs_zero, Int.natCast_zero, mul_zero]
  exact mul_pos (by omega) positive

variable (len step) in
/-- The first cell behind the border is hit by these shares. -/
theorem point_eq_size_iff (high : place < size) (positive : 0 < den) :
    point place step len den = size ↔
      (size - place) * den ≤ len * step ∧ len * step < (size - place + 1) * den := by
  unfold point
  by_cases nonneg : 0 ≤ len * step
  · rw [Int.tdiv_eq_ediv_of_nonneg nonneg, ← Int.le_ediv_iff_mul_le positive,
      ← Int.ediv_lt_iff_lt_mul positive]
    omega
  · have back : 0 ≤ (-(len * step)).tdiv den := Int.tdiv_nonneg (by omega) positive.le
    rw [Int.neg_tdiv] at back
    have ahead : 0 < (size - place) * den := mul_pos (by omega) positive
    omega

/-- A point is not farther from its start than the whole product. -/
theorem natAbs_point_sub_le (place step len den : Int) :
    (point place step len den - place).natAbs ≤ (len * step).natAbs := by
  rw [point, add_sub_cancel_left]
  exact Int.natAbs_tdiv_le_natAbs (len * step) den

/-- On another axis the same share is computed from the signed numbers. -/
theorem tdiv_way (other : Int) : (other * way size place step).tdiv step =
    (room size place step * other).tdiv step.natAbs := by
  unfold room way
  by_cases forward : 0 < step
  · have sign : (step.natAbs : Int) = step := Int.natAbs_of_nonneg forward.le
    rw [if_pos forward, if_pos forward, sign, mul_comm]
  · have sign : (step.natAbs : Int) = -step := Int.ofNat_natAbs_of_nonpos (Int.not_lt.mp forward)
    rw [if_neg forward, if_neg forward, sign, Int.tdiv_neg, ← Int.neg_tdiv, mul_neg, mul_comm]

section Border

variable (moves : step ≠ 0)
include moves

theorem natAbs_pos : 0 < (step.natAbs : Int) := by omega

/-- The way to the border is a share of the step. -/
theorem tdiv_room : (room size place step * step).tdiv step.natAbs = way size place step := by
  unfold room way
  by_cases forward : 0 < step
  · have sign : (step.natAbs : Int) = step := Int.natAbs_of_nonneg forward.le
    rw [if_pos forward, if_pos forward, sign, Int.mul_tdiv_cancel _ moves]
  · have sign : (step.natAbs : Int) = -step := Int.ofNat_natAbs_of_nonpos (Int.not_lt.mp forward)
    rw [if_neg forward, if_neg forward, sign, Int.tdiv_neg, Int.mul_tdiv_cancel _ moves]

theorem within_room (low : 0 ≤ place) (high : place < size) :
    Within size place step (room size place step) step.natAbs := by
  have positive := natAbs_pos moves
  have := room_nonneg step low high
  unfold Within
  nlinarith

end Border

/-- A ray leaves a rectangle through a border of one of its axes. -/
theorem within_or_within {size' place' step' : Int} (low : 0 ≤ place) (high : place < size)
    (moves : step ≠ 0) (moves' : step' ≠ 0) :
    Within size' place' step' (room size place step) step.natAbs ∨
      Within size place step (room size' place' step') step'.natAbs := by
  have positive := natAbs_pos moves
  have positive' := natAbs_pos moves'
  have := room_nonneg step low high
  unfold Within
  by_contra neither
  obtain ⟨first, second⟩ := not_or.mp neither
  nlinarith

end AppSvr.TruncatedRays

namespace AppSvr.GrowingRings

variable {Cell : Type*} {ring : Nat → List Cell} {listed : Cell → Prop} {radius : Cell → Nat}
  {free : Cell → Bool}

/-- The rings of these radii are searched one after the other. -/
def search (ring : Nat → List Cell) (free : Cell → Bool) (first count : Nat) : Option Cell :=
  ((List.range' first count).flatMap ring).find? free

theorem search_succ (first count : Nat) :
    search ring free first (count + 1) =
      ((ring first).find? free).or (search ring free (first + 1) count) := by
  unfold search
  rw [List.range'_succ, List.flatMap_cons, List.find?_append]

/-- A cell is found in the first ring that has a free one. -/
theorem search_eq_some (member : ∀ cell size, cell ∈ ring size ↔ listed cell ∧ radius cell ≤ size)
    {first count : Nat} {found : Cell} (result : search ring free first count = some found) :
    free found ∧ listed found ∧ radius found < first + count ∧
      ∀ cell, free cell → listed cell → radius found ≤ max first (radius cell) := by
  induction count generalizing first with
  | zero => cases result
  | succ count ih =>
      rw [search_succ] at result
      cases here : (ring first).find? free with
      | some cell =>
          rw [here, Option.some_or, Option.some.injEq] at result
          subst result
          obtain ⟨inRing, small⟩ := (member _ _).mp (List.mem_of_find?_eq_some here)
          exact ⟨List.find?_some here, inRing, by omega, fun other _ _ => by omega⟩
      | none =>
          rw [here, Option.none_or] at result
          obtain ⟨isFree, inRing, small, least⟩ := ih result
          refine ⟨isFree, inRing, by omega, fun cell freeCell listedCell => ?_⟩
          have large : ¬ radius cell ≤ first := fun near =>
            List.find?_eq_none.mp here cell ((member _ _).mpr ⟨listedCell, near⟩) freeCell
          have bound := least cell freeCell listedCell
          omega

theorem search_eq_none (member : ∀ cell size, cell ∈ ring size ↔ listed cell ∧ radius cell ≤ size)
    {first count : Nat} (result : search ring free first count = none) {cell : Cell}
    (inRing : listed cell) (small : radius cell < first + count) (some : 0 < count) :
    ¬ free cell := by
  rw [search, List.find?_eq_none] at result
  refine result cell (List.mem_flatMap.mpr
    ⟨first + (count - 1), ?_, (member _ _).mpr ⟨inRing, by omega⟩⟩)
  exact List.mem_range'.mpr ⟨count - 1, by omega, by omega⟩

end AppSvr.GrowingRings
