/-
This file proves when a step keeps the place inside of a cell.
-/

import AppSvr.Construction.PkServer.SubCell
import AppSvr.Proof.PkServer.Transitions

namespace AppSvr.PkServer

/-- The place lies inside of a cell. -/
def Pos.InCell (mini : Pos) : Prop :=
  0 ≤ mini.x ∧ mini.x < lengthStraight ∧ 0 ≤ mini.y ∧ mini.y < lengthStraight

instance (mini : Pos) : Decidable mini.InCell := inferInstanceAs (Decidable (_ ∧ _))

/-- The speed of a step is less than the length of a cell. -/
def clampSpeed (speed : Int) : Int := if 1000 ≤ speed then 999 else speed

/-- The step runs along the diagonal into the corner of the cell. -/
def HitsCorner (direct speed : Int) (mini : Pos) : Prop :=
  let aligned : Int := (mini.x + mini.y - 1000).natAbs
  let rest := (7 * (clampSpeed speed - aligned)).tdiv 10
  aligned ≤ clampSpeed speed ∧
    (direct = directNorthEast ∧ rest = min mini.y (1000 - mini.x) ∨
      direct = directSouthWest ∧ rest = min mini.x (1000 - mini.y))

instance (direct speed : Int) (mini : Pos) : Decidable (HitsCorner direct speed mini) :=
  inferInstanceAs (Decidable (_ ∧ _))

/-- The step ends inside of the same cell or of the next one in its direction. -/
structure StepsInside (direct speed : Int) (place : Pos × Pos) : Prop where
  mini : (stepCell cutSpeed direct speed place).2.InCell
  cell : (stepCell cutSpeed direct speed place).1 = place.1 ∨
    (stepCell cutSpeed direct speed place).1 =
      place.1.shift (directOffset direct).1 (directOffset direct).2

theorem cutSpeed_eq {speed : Int} (low : 0 ≤ speed) (high : speed < 1000) :
    cutSpeed speed = 7 * speed / 10 := by
  rw [cutSpeed, Int.tdiv_eq_ediv_of_nonneg (by omega)]
  exact short_eq_self (by omega) (by omega)

theorem shift_eq {pos : Pos} {dx dy : Int} (horizontal : -3000 ≤ pos.x + dx ∧ pos.x + dx ≤ 3000)
    (vertical : -3000 ≤ pos.y + dy ∧ pos.y + dy ≤ 3000) :
    pos.shift dx dy = ⟨pos.x + dx, pos.y + dy⟩ := by
  rw [Pos.shift, short_eq_self (by omega) (by omega), short_eq_self (by omega) (by omega)]

/-- The way to the diagonal of the cell, which a step goes first. -/
def straightPart (diffXY speed : Int) : Int := min diffXY.natAbs speed

def diagonalPart (diffXY speed : Int) : Int := 7 * (speed - straightPart diffXY speed) / 10

theorem moveDiagonalBy_eq {signX signY speed diffXY : Int} {mini : Pos} (inside : mini.InCell)
    (low : 0 ≤ speed) (high : speed < 1000)
    (diff : short (if signX = signY then mini.x - mini.y
      else mini.x - (lengthStraight - mini.y)) = diffXY)
    (near : (diffXY.natAbs : Int) ≤ 1000)
    (sx : signX = 1 ∨ signX = -1) (sy : signY = 1 ∨ signY = -1) :
    moveDiagonalBy cutSpeed signX signY speed mini =
      if (0 < diffXY ↔ signX = 1) then
        ⟨mini.x + signX * diagonalPart diffXY speed,
          mini.y + signY * (straightPart diffXY speed + diagonalPart diffXY speed)⟩
      else
        ⟨mini.x + signX * (straightPart diffXY speed + diagonalPart diffXY speed),
          mini.y + signY * diagonalPart diffXY speed⟩ := by
  obtain ⟨left, right, top, bottom⟩ := inside
  rw [lengthStraight] at right bottom
  have scale (v : Int) (low : 0 ≤ v) (high : v < 1000) := cutSpeed_eq low high
  unfold moveDiagonalBy
  simp only [diff, eq_iff_iff]
  by_cases zero : diffXY = 0
  · have part : straightPart diffXY speed = 0 := by rw [straightPart, zero]; omega
    have rest : diagonalPart diffXY speed = 7 * speed / 10 := by
      rw [diagonalPart, part, Int.sub_zero]
    rw [if_pos zero, cutSpeed_eq low high, part, rest, Int.zero_add]
    obtain rfl | rfl := sx <;> obtain rfl | rfl := sy
    all_goals rw [shift_eq (by omega) (by omega)]
    all_goals split <;> rfl
  rw [if_neg zero]
  by_cases less : (diffXY.natAbs : Int) < speed
  · have part : straightPart diffXY speed = diffXY.natAbs := by rw [straightPart]; omega
    have rest : diagonalPart diffXY speed = 7 * (speed - diffXY.natAbs) / 10 := by
      rw [diagonalPart, part]
    rw [if_pos less, cutSpeed_eq (by omega) (by omega), part, rest]
    obtain rfl | rfl := sx <;> obtain rfl | rfl := sy
    all_goals split
    all_goals rw [@shift_eq mini _ _ (by omega) (by omega)]
    all_goals rw [shift_eq (by dsimp only; omega) (by dsimp only; omega)]
    all_goals simp only [Pos.mk.injEq]
    all_goals omega
  · have part : straightPart diffXY speed = speed := by rw [straightPart]; omega
    have rest : diagonalPart diffXY speed = 0 := by rw [diagonalPart, part]; simp
    rw [if_neg less, part, rest]
    obtain rfl | rfl := sx <;> obtain rfl | rfl := sy
    all_goals split
    all_goals rw [shift_eq (by omega) (by omega)]
    all_goals simp only [Pos.mk.injEq]
    all_goals omega

section Steps

variable {direct speed : Int} {cell mini : Pos}

theorem stepCell_cell (direct speed : Int) (place : Pos × Pos) :
    (stepCell cutSpeed direct speed place).1 = place.1 ∨
      (stepCell cutSpeed direct speed place).1 =
        place.1.shift (directOffset direct).1 (directOffset direct).2 := by
  unfold stepCell
  dsimp only
  split
  · exact Or.inl rfl
  · split
    · exact Or.inl rfl
    · exact Or.inr rfl

theorem stepCell_mini (nonneg : 0 ≤ speed) :
    (stepCell cutSpeed direct speed (cell, mini)).2 =
      (crossMini direct (moveMiniBy cutSpeed direct (clampSpeed speed) mini)).getD
        (moveMiniBy cutSpeed direct (clampSpeed speed) mini) := by
  have clamp : (if 1000 ≤ speed then 999 else speed) = clampSpeed speed := rfl
  unfold stepCell
  dsimp only
  rw [if_neg (Int.not_lt.mpr nonneg), clamp]
  cases crossMini direct (moveMiniBy cutSpeed direct (clampSpeed speed) mini) <;> rfl

theorem clampSpeed_bounds (nonneg : 0 ≤ speed) :
    0 ≤ clampSpeed speed ∧ clampSpeed speed < 1000 := by
  unfold clampSpeed
  split <;> omega

/-- The rest of the step runs into the corner that the diagonal points at. -/
theorem hitsCorner_iff (room : Int) {pos : Pos} :
    ((pos.x + pos.y - 1000).natAbs : Int) ≤ clampSpeed speed ∧
        (7 * (clampSpeed speed - (pos.x + pos.y - 1000).natAbs)).tdiv 10 = room ↔
      ((pos.x + pos.y - 1000).natAbs : Int) ≤ clampSpeed speed ∧
        diagonalPart (pos.x + pos.y - 1000) (clampSpeed speed) = room := by
  refine and_congr_right fun reached => ?_
  rw [Int.tdiv_eq_ediv_of_nonneg (by omega), diagonalPart, straightPart, Int.min_eq_left reached]

variable (direct) in
/-- A step ends inside when the place that it reaches or crosses to does. -/
theorem inCell_of_move (nonneg : 0 ≤ speed) {place : Pos}
    (move : moveMiniBy cutSpeed direct (clampSpeed speed) mini = place)
    (near : (-1000 ≤ place.x ∧ place.x ≤ 2000) ∧ -1000 ≤ place.y ∧ place.y ≤ 2000)
    {outside : Prop} [Decidable outside] {x y : Int}
    (cross : crossMini direct place = if outside then some (place.shift x y) else none)
    (length : (-1000 ≤ x ∧ x ≤ 1000) ∧ -1000 ≤ y ∧ y ≤ 1000) :
    (stepCell cutSpeed direct speed (cell, mini)).2.InCell ↔
      (outside → Pos.InCell ⟨place.x + x, place.y + y⟩) ∧ (¬ outside → place.InCell) := by
  rw [stepCell_mini nonneg, move, cross]
  by_cases crosses : outside
  · rw [if_pos crosses, Option.getD_some, shift_eq (by omega) (by omega)]
    simp [crosses]
  · rw [if_neg crosses]
    simp [crosses]

section Inside

variable (nonneg : 0 ≤ speed) (inside : mini.InCell)
include nonneg inside

/-- The place after a diagonal move, before the cell is left. -/
theorem moveDiagonalBy_place (signX signY : Int) (sx : signX = 1 ∨ signX = -1)
    (sy : signY = 1 ∨ signY = -1) : ∃ diffXY straight diagonal : Int,
      diffXY = (if signX = signY then mini.x - mini.y else mini.x + mini.y - 1000) ∧
      straight = straightPart diffXY (clampSpeed speed) ∧
      diagonal = diagonalPart diffXY (clampSpeed speed) ∧
      straight = min (diffXY.natAbs : Int) (clampSpeed speed) ∧
      diagonal = 7 * (clampSpeed speed - straight) / 10 ∧
      moveDiagonalBy cutSpeed signX signY (clampSpeed speed) mini =
        if (0 < diffXY ↔ signX = 1) then
          ⟨mini.x + signX * diagonal, mini.y + signY * (straight + diagonal)⟩
        else ⟨mini.x + signX * (straight + diagonal), mini.y + signY * diagonal⟩ := by
  obtain ⟨low, high⟩ := clampSpeed_bounds nonneg
  obtain ⟨left, right, top, bottom⟩ := id inside
  rw [lengthStraight] at right bottom
  refine ⟨_, _, _, rfl, rfl, rfl, rfl, rfl, moveDiagonalBy_eq inside low high ?_ ?_ sx sy⟩
  · rw [lengthStraight]
    split
    · exact short_eq_self (by omega) (by omega)
    · rw [short_eq_self (by omega) (by omega)]
      omega
  · split <;> omega

/-- The two directions between the axes that agree in their signs stay inside. -/
theorem eastSouth_inCell : (stepCell cutSpeed directEastSouth speed (cell, mini)).2.InCell := by
  obtain ⟨low, high⟩ := clampSpeed_bounds nonneg
  obtain ⟨diffXY, straight, diagonal, diff, -, -, part, rest, move⟩ :=
    moveDiagonalBy_place nonneg inside 1 1 (Or.inl rfl) (Or.inl rfl)
  rw [if_pos rfl] at diff
  simp only [Pos.InCell, lengthStraight] at inside
  split at move
  all_goals
    rw [inCell_of_move directEastSouth nonneg move (by dsimp only; omega) rfl (by decide)]
    simp only [Pos.InCell, lengthStraight]
    omega

theorem westNorth_inCell : (stepCell cutSpeed directWestNorth speed (cell, mini)).2.InCell := by
  obtain ⟨low, high⟩ := clampSpeed_bounds nonneg
  obtain ⟨diffXY, straight, diagonal, diff, -, -, part, rest, move⟩ :=
    moveDiagonalBy_place nonneg inside (-1) (-1) (Or.inr rfl) (Or.inr rfl)
  rw [if_pos rfl] at diff
  simp only [Pos.InCell, lengthStraight] at inside
  split at move
  all_goals
    rw [inCell_of_move directWestNorth nonneg move (by dsimp only; omega) rfl (by decide)]
    simp only [Pos.InCell, lengthStraight]
    omega

/-- The corner between two other cells is the only place outside. -/
theorem northEast_inCell_iff : (stepCell cutSpeed directNorthEast speed (cell, mini)).2.InCell ↔
    ¬ HitsCorner directNorthEast speed mini := by
  have hits : HitsCorner directNorthEast speed mini ↔
      ((mini.x + mini.y - 1000).natAbs : Int) ≤ clampSpeed speed ∧
        diagonalPart (mini.x + mini.y - 1000) (clampSpeed speed) = min mini.y (1000 - mini.x) := by
    rw [← hitsCorner_iff]
    simp [HitsCorner]
  obtain ⟨low, high⟩ := clampSpeed_bounds nonneg
  obtain ⟨diffXY, straight, diagonal, diff, -, same, part, rest, move⟩ :=
    moveDiagonalBy_place nonneg inside 1 (-1) (Or.inl rfl) (Or.inr rfl)
  rw [if_neg (by decide)] at diff
  rw [hits, ← diff, ← same]
  simp only [Pos.InCell, lengthStraight] at inside
  split at move
  all_goals
    rw [inCell_of_move directNorthEast nonneg move (by dsimp only; omega) rfl (by decide)]
    simp only [Pos.InCell, lengthStraight]
    omega

theorem southWest_inCell_iff : (stepCell cutSpeed directSouthWest speed (cell, mini)).2.InCell ↔
    ¬ HitsCorner directSouthWest speed mini := by
  have hits : HitsCorner directSouthWest speed mini ↔
      ((mini.x + mini.y - 1000).natAbs : Int) ≤ clampSpeed speed ∧
        diagonalPart (mini.x + mini.y - 1000) (clampSpeed speed) = min mini.x (1000 - mini.y) := by
    rw [← hitsCorner_iff]
    simp [HitsCorner]
  obtain ⟨low, high⟩ := clampSpeed_bounds nonneg
  obtain ⟨diffXY, straight, diagonal, diff, -, same, part, rest, move⟩ :=
    moveDiagonalBy_place nonneg inside (-1) 1 (Or.inr rfl) (Or.inl rfl)
  rw [if_neg (by decide)] at diff
  rw [hits, ← diff, ← same]
  simp only [Pos.InCell, lengthStraight] at inside
  split at move
  all_goals
    rw [inCell_of_move directSouthWest nonneg move (by dsimp only; omega) rfl (by decide)]
    simp only [Pos.InCell, lengthStraight]
    omega

/-- A move along an axis stays inside. -/
theorem straight_inCell (straight : direct = directNorth ∨ direct = directEast ∨
    direct = directSouth ∨ direct = directWest) :
    (stepCell cutSpeed direct speed (cell, mini)).2.InCell := by
  obtain ⟨low, high⟩ := clampSpeed_bounds nonneg
  simp only [Pos.InCell, lengthStraight] at inside
  obtain rfl | rfl | rfl | rfl := straight
  case inl =>
    have move : moveMiniBy cutSpeed directNorth (clampSpeed speed) mini =
        ⟨mini.x + 0, mini.y + -clampSpeed speed⟩ := shift_eq (by omega) (by omega)
    rw [inCell_of_move _ nonneg move (by dsimp only; omega) rfl (by decide)]
    simp only [Pos.InCell, lengthStraight]
    omega
  case inr.inl =>
    have move : moveMiniBy cutSpeed directEast (clampSpeed speed) mini =
        ⟨mini.x + clampSpeed speed, mini.y + 0⟩ := shift_eq (by omega) (by omega)
    rw [inCell_of_move _ nonneg move (by dsimp only; omega) rfl (by decide)]
    simp only [Pos.InCell, lengthStraight]
    omega
  case inr.inr.inl =>
    have move : moveMiniBy cutSpeed directSouth (clampSpeed speed) mini =
        ⟨mini.x + 0, mini.y + clampSpeed speed⟩ := shift_eq (by omega) (by omega)
    rw [inCell_of_move _ nonneg move (by dsimp only; omega) rfl (by decide)]
    simp only [Pos.InCell, lengthStraight]
    omega
  case inr.inr.inr =>
    have move : moveMiniBy cutSpeed directWest (clampSpeed speed) mini =
        ⟨mini.x + -clampSpeed speed, mini.y + 0⟩ := shift_eq (by omega) (by omega)
    rw [inCell_of_move _ nonneg move (by dsimp only; omega) rfl (by decide)]
    simp only [Pos.InCell, lengthStraight]
    omega

/-- A step ends inside exactly when it does not run into the corner. -/
theorem stepCell_inCell_iff (known : 1 ≤ direct ∧ direct ≤ 8) :
    (stepCell cutSpeed direct speed (cell, mini)).2.InCell ↔ ¬ HitsCorner direct speed mini := by
  have directions : direct = 2 ∨ direct = 6 ∨ direct = 4 ∨ direct = 8 ∨
      direct = 1 ∨ direct = 3 ∨ direct = 5 ∨ direct = 7 := by omega
  obtain rfl | rfl | rfl | rfl | straight := directions
  · exact northEast_inCell_iff nonneg inside
  · exact southWest_inCell_iff nonneg inside
  · exact iff_of_true (eastSouth_inCell nonneg inside) (by simp [HitsCorner])
  · exact iff_of_true (westNorth_inCell nonneg inside) (by simp [HitsCorner])
  · refine iff_of_true (straight_inCell nonneg inside straight) ?_
    obtain rfl | rfl | rfl | rfl := straight <;> simp [HitsCorner]

end Inside

end Steps

/-- A step in a direction with a speed. -/
structure CellStep where
  direct : Int
  speed : Int
  known : 1 ≤ direct ∧ direct ≤ 8
  nonneg : 0 ≤ speed

def CellStep.take (place : Pos × Pos) (step : CellStep) : Pos × Pos :=
  stepCell cutSpeed step.direct step.speed place

/-- No step of the sequence runs into a corner. -/
def AvoidsCorners : Pos × Pos → List CellStep → Prop
  | _, [] => True
  | place, step :: steps =>
      ¬ HitsCorner step.direct step.speed place.2 ∧ AvoidsCorners (step.take place) steps

/-- The place stays inside over a sequence of steps that avoids the corners. -/
theorem foldl_take_inCell {place : Pos × Pos} {steps : List CellStep} (inside : place.2.InCell)
    (avoids : AvoidsCorners place steps) : (steps.foldl CellStep.take place).2.InCell := by
  induction steps generalizing place with
  | nil => exact inside
  | cons step steps ih =>
      obtain ⟨free, rest⟩ := avoids
      exact ih ((stepCell_inCell_iff step.nonneg inside step.known).mpr free) rest

/-- A step is right exactly when it avoids the corner, and so is every sequence that does. -/
theorem stepsInside_iff {place : Pos × Pos} (inside : place.2.InCell) :
    (∀ step : CellStep, StepsInside step.direct step.speed place ↔
      ¬ HitsCorner step.direct step.speed place.2) ∧
    ∀ steps, AvoidsCorners place steps → (steps.foldl CellStep.take place).2.InCell := by
  refine ⟨fun step => ?_, fun steps => foldl_take_inCell inside⟩
  rw [← stepCell_inCell_iff step.nonneg inside step.known]
  exact ⟨StepsInside.mini, fun mini => ⟨mini, stepCell_cell _ _ _⟩⟩

/-- A role in the middle of its cell goes to the north-east, and from there to the west. -/
theorem stepsInside_middle : StepsInside 2 30 (⟨4, 5⟩, ⟨500, 500⟩) ∧
    Pos.InCell ([⟨2, 30, by decide, by decide⟩, ⟨7, 999, by decide, by decide⟩].foldl
      CellStep.take (⟨4, 5⟩, ⟨500, 500⟩)).2 := by
  have inside : Pos.InCell ((⟨4, 5⟩, ⟨500, 500⟩) : Pos × Pos).2 := by decide
  have both := stepsInside_iff inside
  exact ⟨(both.1 ⟨2, 30, by decide, by decide⟩).mpr (by decide),
    both.2 _ ⟨by decide, by decide, trivial⟩⟩

/-- A role on the diagonal of its cell runs to the north-east into the corner. -/
theorem not_stepsInside : Pos.InCell ⟨993, 7⟩ ∧
    (stepCell cutSpeed directNorthEast 10 (⟨4, 5⟩, ⟨993, 7⟩)).2 = ⟨0, 1000⟩ ∧
    ¬ StepsInside directNorthEast 10 (⟨4, 5⟩, ⟨993, 7⟩) := by
  refine ⟨by decide, by decide, fun steps => ?_⟩
  exact absurd steps.mini (by decide)

end AppSvr.PkServer
