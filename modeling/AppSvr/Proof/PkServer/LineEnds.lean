/-
This file proves when the skills that work along a line compute a legal end.
-/

import AppSvr.Construction.PkServer.Skills
import AppSvr.Proof.PkServer.Values
import AppSvr.ToMathlib.TruncatedRays

namespace AppSvr.PkServer
open TruncatedRays

/-- The skills that compute the end of a line. -/
inductive LineSkill where
  | diCi
  | chongFeng
  | qiangLiYiJi
  deriving DecidableEq, Repr

namespace LineSkill

def length : LineSkill → Int → Int
  | diCi, level => byLevel level 3 [3, 3, 5, 5, 7, 7]
  | chongFeng, level => byLevel level 5 [5, 7, 7, 9, 9, 11]
  | qiangLiYiJi, level => byLevel level 5 [5, 7, 9, 11, 13, 15]

/-- A division by zero has no result. -/
def endPos : LineSkill → Pos → Pos → Int → Option Pos
  | diCi => spikesEnd
  | chongFeng => chargeEnd
  | qiangLiYiJi => arrowEnd

end LineSkill

variable (start target : Pos)

/-- The point of the ray from a cell through another one. -/
def rayPoint (len den : Int) : Pos :=
  ⟨point start.x (target.x - start.x) len den, point start.y (target.y - start.y) len den⟩

/-- A cell lies on the ray when its coordinates are cut off from a point of the ray. -/
def OnRay (start target pos : Pos) : Prop :=
  ∃ len den : Int, 0 ≤ len ∧ 0 < den ∧ pos = rayPoint start target len den

/-- The integer part of the distance of two cells, and one for equal cells. -/
def wholeDist : Int := max 1 (sqrtInt (distSquare target start))

/-- The border is farther away than the length, measured with the truncated distance. -/
def HasRoom (len : Int) : Prop :=
  Within mapSizeX start.x (target.x - start.x) len (wholeDist start target) ∧
    Within mapSizeY start.y (target.y - start.y) len (wholeDist start target)

instance (start target : Pos) (len : Int) : Decidable (HasRoom start target len) :=
  inferInstanceAs (Decidable (_ ∧ _))

/-- The ray meets the first or the last column here. -/
def borderX : Pos :=
  rayPoint start target (room mapSizeX start.x (target.x - start.x)) (target.x - start.x).natAbs

/-- The ray meets the first or the last row here. -/
def borderY : Pos :=
  rayPoint start target (room mapSizeY start.y (target.y - start.y)) (target.y - start.y).natAbs

/-- The ray crosses a row within the map when it meets the first or the last column. -/
def LeavesX : Prop :=
  Within mapSizeY start.y (target.y - start.y) (room mapSizeX start.x (target.x - start.x))
    (target.x - start.x).natAbs

/-- The ray crosses a column within the map when it meets the first or the last row. -/
def LeavesY : Prop :=
  Within mapSizeX start.x (target.x - start.x) (room mapSizeY start.y (target.y - start.y))
    (target.y - start.y).natAbs

instance (start target : Pos) : Decidable (LeavesX start target) :=
  inferInstanceAs (Decidable (Within _ _ _ _ _))

/-- The point behind the last row is reached within the columns. -/
def SlipsThrough (len : Int) : Prop :=
  Within mapSizeX start.x (target.x - start.x) len (wholeDist start target) ∧
    (mapSizeY - start.y) * wholeDist start target ≤ len * (target.y - start.y) ∧
    len * (target.y - start.y) < (mapSizeY - start.y + 1) * wholeDist start target

instance (start target : Pos) (len : Int) : Decidable (SlipsThrough start target len) :=
  inferInstanceAs (Decidable (_ ∧ _ ∧ _))

section Cells

variable {start target : Pos} (inside : start.InMap) (aims : target.InMap)

theorem wholeDist_pos (start target : Pos) : 0 < wholeDist start target := by
  unfold wholeDist
  omega

include inside in
theorem rayPoint_inMap_iff {len den : Int} (nonneg : 0 ≤ len) (positive : 0 < den) :
    (rayPoint start target len den).InMap ↔
      Within mapSizeX start.x (target.x - start.x) len den ∧
        Within mapSizeY start.y (target.y - start.y) len den := by
  obtain ⟨lowX, highX, lowY, highY⟩ := inside
  rw [← inside_iff _ lowX highX nonneg positive, ← inside_iff _ lowY highY nonneg positive,
    and_assoc]
  rfl

/-- The numbers of the map are far from the ends of `short int`. -/
theorem short_tdiv {place step len den : Int} (cell : 0 ≤ place ∧ place < 50)
    (near : step.natAbs < 50) (few : 0 ≤ len ∧ len < 50) :
    short (place + (len * step).tdiv den) = point place step len den := by
  have size : (len * step).natAbs ≤ 50 * 50 := by
    rw [Int.natAbs_mul]
    exact Nat.mul_le_mul (by omega) near.le
  have bound := natAbs_point_sub_le place step len den
  exact short_eq_self (by unfold point at bound; omega) (by unfold point at bound; omega)

include inside aims

theorem steps_small : (target.x - start.x).natAbs < 50 ∧ (target.y - start.y).natAbs < 50 := by
  unfold Pos.InMap mapSizeX mapSizeY at *
  omega

theorem shift_rayPoint {len den : Int} (few : 0 ≤ len ∧ len < 50) :
    start.shift ((len * (target.x - start.x)).tdiv den) ((len * (target.y - start.y)).tdiv den) =
      rayPoint start target len den := by
  obtain ⟨nearX, nearY⟩ := steps_small inside aims
  unfold Pos.InMap mapSizeX mapSizeY at *
  rw [Pos.shift, short_tdiv (by omega) nearX few, short_tdiv (by omega) nearY few]
  rfl

theorem distSquare_le : 0 ≤ distSquare target start ∧ distSquare target start ≤ 5000 := by
  obtain ⟨nearX, nearY⟩ := steps_small inside aims
  have squares : ∀ step : Int, step.natAbs < 50 → 0 ≤ step ^ 2 ∧ step ^ 2 ≤ 2500 := by
    intro step near
    constructor
    · exact sq_nonneg step
    · nlinarith [show step ≤ 49 by omega, show -49 ≤ step by omega]
  have x := squares _ nearX
  have y := squares _ nearY
  unfold distSquare
  omega

theorem distShort_eq : distShort target start = sqrtInt (distSquare target start) := by
  obtain ⟨low, high⟩ := distSquare_le inside aims
  have root : (distSquare target start).toNat.sqrt ≤ 5000 :=
    (Nat.sqrt_le_self _).trans (by omega)
  rw [distShort, sqrtInt, if_neg (by omega)]
  exact short_eq_self (by omega) (by omega)

theorem sqrtInt_eq : (if sqrtInt (distSquare target start) = 0 then 1
    else sqrtInt (distSquare target start)) = wholeDist start target := by
  obtain ⟨low, -⟩ := distSquare_le inside aims
  have nonneg : 0 ≤ sqrtInt (distSquare target start) := by
    rw [sqrtInt, if_neg (by omega)]
    exact Int.natCast_nonneg _
  unfold wholeDist
  split <;> omega

theorem steps_zero (zero : sqrtInt (distSquare target start) = 0) :
    target.x - start.x = 0 ∧ target.y - start.y = 0 := by
  obtain ⟨low, -⟩ := distSquare_le inside aims
  rw [sqrtInt, if_neg (by omega), Int.natCast_eq_zero, Nat.sqrt_eq_zero] at zero
  have x := sq_nonneg (target.x - start.x)
  have y := sq_nonneg (target.y - start.y)
  unfold distSquare at zero low
  exact ⟨pow_eq_zero_iff two_ne_zero |>.mp (by omega), pow_eq_zero_iff two_ne_zero |>.mp (by omega)⟩

theorem short_steps : short (target.x - start.x) = target.x - start.x ∧
    short (target.y - start.y) = target.y - start.y := by
  obtain ⟨nearX, nearY⟩ := steps_small inside aims
  exact ⟨short_eq_self (by omega) (by omega), short_eq_self (by omega) (by omega)⟩

/-- The end of the spikes is not clipped. -/
theorem spikesEnd_eq {len : Int} (few : 0 ≤ len ∧ len < 50) :
    spikesEnd start target len = some (rayPoint start target len (wholeDist start target)) := by
  obtain ⟨shortX, shortY⟩ := short_steps inside aims
  obtain ⟨nearX, nearY⟩ := steps_small inside aims
  have whole : sqrtInt (distSquare target start) ≠ 0 →
      sqrtInt (distSquare target start) = wholeDist start target := by
    intro apart
    rw [← sqrtInt_eq inside aims, if_neg apart]
  have together := steps_zero inside aims
  have coordinate : ∀ place step : Int, 0 ≤ place ∧ place < 50 → step.natAbs < 50 →
      (step ≠ 0 → sqrtInt (distSquare target start) ≠ 0) →
      (if step = 0 then place
        else short (place + (len * step).tdiv (sqrtInt (distSquare target start)))) =
        point place step len (wholeDist start target) := by
    intro place step cell near apart
    split
    case isTrue still => rw [still, point_zero]
    case isFalse moves => rw [whole (apart moves), short_tdiv cell near few]
  obtain ⟨lowX, highX, lowY, highY⟩ := inside
  unfold mapSizeX at highX
  unfold mapSizeY at highY
  simp only [spikesEnd, shortX, shortY, distShort_eq ⟨lowX, highX, lowY, highY⟩ aims]
  rw [if_neg (by omega), coordinate start.x _ (by omega) nearX fun moves zero => moves (together zero).1,
    coordinate start.y _ (by omega) nearY fun moves zero => moves (together zero).2]
  rfl

omit aims in
theorem room_small : (0 ≤ room mapSizeX start.x (target.x - start.x) ∧
    room mapSizeX start.x (target.x - start.x) < 50) ∧
    0 ≤ room mapSizeY start.y (target.y - start.y) ∧
    room mapSizeY start.y (target.y - start.y) < 50 := by
  unfold Pos.InMap mapSizeX mapSizeY room at *
  split <;> split <;> omega

theorem shift_borderX (moves : target.x - start.x ≠ 0) :
    start.shift (way mapSizeX start.x (target.x - start.x))
      (((target.y - start.y) * way mapSizeX start.x (target.x - start.x)).tdiv
        (target.x - start.x)) = borderX start target := by
  rw [tdiv_way, ← tdiv_room moves]
  exact shift_rayPoint inside aims (room_small inside).1

theorem shift_borderY (moves : target.y - start.y ≠ 0) :
    start.shift (((target.x - start.x) * way mapSizeY start.y (target.y - start.y)).tdiv
        (target.y - start.y)) (way mapSizeY start.y (target.y - start.y)) =
      borderY start target := by
  rw [tdiv_way, ← tdiv_room moves]
  exact shift_rayPoint inside aims (room_small inside).2

omit aims in
theorem short_way : short (way mapSizeX start.x (target.x - start.x)) =
      way mapSizeX start.x (target.x - start.x) ∧
    short (way mapSizeY start.y (target.y - start.y)) =
      way mapSizeY start.y (target.y - start.y) := by
  unfold Pos.InMap mapSizeX mapSizeY at *
  constructor <;> exact short_eq_self (by unfold way; split <;> omega) (by unfold way; split <;> omega)

omit aims in
theorem borderX_inMap_iff (moves : target.x - start.x ≠ 0) :
    (0 ≤ (borderX start target).y ∧ (borderX start target).y < mapSizeY) ↔
      LeavesX start target :=
  inside_iff _ inside.2.2.1 inside.2.2.2 (room_small inside).1.1 (natAbs_pos moves)

omit aims in
theorem borderY_inMap_iff (moves : target.y - start.y ≠ 0) :
    (0 ≤ (borderY start target).x ∧ (borderY start target).x < mapSizeX) ↔
      LeavesY start target :=
  inside_iff _ inside.1 inside.2.1 (room_small inside).2.1 (natAbs_pos moves)

omit aims in
theorem leavesX_or_leavesY (movesX : target.x - start.x ≠ 0) (movesY : target.y - start.y ≠ 0) :
    LeavesX start target ∨ LeavesY start target :=
  within_or_within inside.1 inside.2.1 movesX movesY

omit aims in
/-- A level ray stays in its row. -/
theorem rises_or_leavesX (movesX : target.x - start.x ≠ 0) :
    target.y - start.y ≠ 0 ∨ LeavesX start target := by
  by_cases level : target.y - start.y = 0
  · right
    rw [LeavesX, level]
    exact within_zero inside.2.2.1 inside.2.2.2 (natAbs_pos movesX)
  · exact Or.inl level

/-- A charge is clipped by both borders at once. -/
theorem chargeEnd_eq {len : Int} (few : 0 ≤ len ∧ len < 50) :
    chargeEnd start target len =
      if HasRoom start target len then some (rayPoint start target len (wholeDist start target))
      else if target.x - start.x = 0 ∨ target.y - start.y = 0 then none
      else if LeavesX start target then some (borderX start target)
      else some (borderY start target) := by
  obtain ⟨shortX, shortY⟩ := short_steps inside aims
  have dist := distShort_eq inside aims
  simp only [chargeEnd, shortX, shortY, dist, sqrtInt_eq inside aims]
  rw [shift_rayPoint inside aims few]
  have fits_iff : (rayPoint start target len (wholeDist start target)).InMap ↔
      HasRoom start target len :=
    rayPoint_inMap_iff inside few.1 (wholeDist_pos start target)
  by_cases fits : HasRoom start target len
  · rw [if_pos fits, if_pos (fits_iff.mpr fits)]
  · rw [if_neg fits, if_neg (fits_iff.not.mpr fits)]
    by_cases zero : target.x - start.x = 0 ∨ target.y - start.y = 0
    · rw [if_pos zero, if_pos zero]
    · obtain ⟨movesX, movesY⟩ := not_or.mp zero
      obtain ⟨wayX, wayY⟩ := short_way inside
      have byX := shift_borderX inside aims movesX
      have byY := shift_borderY inside aims movesY
      unfold way at wayX wayY byX byY
      rw [if_neg zero, if_neg zero, wayX, wayY, byX, byY]
      by_cases column : LeavesX start target
      · rw [if_pos column, if_pos ((borderX_inMap_iff inside movesX).mpr column)]
      · have row := leavesX_or_leavesY inside movesX movesY |>.resolve_left column
        rw [if_neg column, if_neg ((borderX_inMap_iff inside movesX).not.mpr column),
          if_pos ((borderY_inMap_iff inside movesY).mpr row)]

/-- An arrow is clipped by one border after the other. The row behind the last one is let through. -/
theorem arrowEnd_eq {len : Int} (few : 0 ≤ len ∧ len < 50) :
    arrowEnd start target len =
      if HasRoom start target len ∨ SlipsThrough start target len then
        some (rayPoint start target len (wholeDist start target))
      else if target.x - start.x = 0 then none
      else if LeavesX start target then some (borderX start target)
      else some (borderY start target) := by
  have square : distSquare target start = (target.x - start.x) * (target.x - start.x) +
      (target.y - start.y) * (target.y - start.y) := by
    rw [distSquare, sq, sq]
  simp only [arrowEnd, ← square, sqrtInt_eq inside aims]
  rw [shift_rayPoint inside aims few]
  have fits_iff : (0 ≤ (rayPoint start target len (wholeDist start target)).x ∧
      (rayPoint start target len (wholeDist start target)).x < mapSizeX ∧
      0 ≤ (rayPoint start target len (wholeDist start target)).y ∧
      (rayPoint start target len (wholeDist start target)).y ≤ mapSizeY) ↔
      HasRoom start target len ∨ SlipsThrough start target len := by
    have columns := inside_iff (target.x - start.x) inside.1 inside.2.1 few.1
      (wholeDist_pos start target)
    have rows := inside_iff (target.y - start.y) inside.2.2.1 inside.2.2.2 few.1
      (wholeDist_pos start target)
    have behind := point_eq_size_iff (target.y - start.y) len inside.2.2.2
      (wholeDist_pos start target)
    have last : ∀ y : Int, 0 ≤ y ∧ y ≤ mapSizeY ↔ (0 ≤ y ∧ y < mapSizeY) ∨ y = mapSizeY := by
      unfold mapSizeY
      omega
    rw [← and_assoc, last]
    unfold HasRoom SlipsThrough rayPoint
    rw [← columns, ← rows, ← behind, ← and_or_left]
  by_cases fits : HasRoom start target len ∨ SlipsThrough start target len
  · rw [if_pos fits, if_pos (fits_iff.mpr fits)]
  · rw [if_neg fits, if_neg (fits_iff.not.mpr fits)]
    by_cases vertical : target.x - start.x = 0
    · rw [if_pos vertical, if_pos vertical]
    · have byX := shift_borderX inside aims vertical
      unfold way at byX
      have last : ∀ place : Int, mapSizeX - place - 1 = mapSizeX - 1 - place := by omega
      have last' : ∀ place : Int, mapSizeY - place - 1 = mapSizeY - 1 - place := by omega
      rw [if_neg vertical, if_neg vertical, last, last', byX]
      by_cases column : LeavesX start target
      · rw [if_pos column, if_pos ((borderX_inMap_iff inside vertical).mpr column)]
      · have rises := (rises_or_leavesX inside vertical).resolve_right column
        have byY := shift_borderY inside aims rises
        unfold way at byY
        rw [if_neg column, if_neg ((borderX_inMap_iff inside vertical).not.mpr column),
          if_neg rises, byY]

omit aims in
theorem borderX_inMap (moves : target.x - start.x ≠ 0) (column : LeavesX start target) :
    (borderX start target).InMap :=
  (rayPoint_inMap_iff inside (room_small inside).1.1 (natAbs_pos moves)).mpr
    ⟨within_room moves inside.1 inside.2.1, column⟩

omit aims in
theorem borderY_inMap (moves : target.y - start.y ≠ 0) (row : LeavesY start target) :
    (borderY start target).InMap :=
  (rayPoint_inMap_iff inside (room_small inside).2.1 (natAbs_pos moves)).mpr
    ⟨row, within_room moves inside.2.2.1 inside.2.2.2⟩

omit aims in
theorem borderX_onRay (moves : target.x - start.x ≠ 0) :
    OnRay start target (borderX start target) :=
  ⟨_, _, (room_small inside).1.1, natAbs_pos moves, rfl⟩

omit aims in
theorem borderY_onRay (moves : target.y - start.y ≠ 0) :
    OnRay start target (borderY start target) :=
  ⟨_, _, (room_small inside).2.1, natAbs_pos moves, rfl⟩

end Cells

namespace LineSkill

/-- The length is that of a level. -/
theorem length_small (skill : LineSkill) (level : Int) :
    0 ≤ skill.length level ∧ skill.length level < 50 := by
  have lengths : ∀ (initial : Int) (values : List Int),
      (∀ value ∈ initial :: values, 0 ≤ value ∧ value < 50) →
      0 ≤ byLevel level initial values ∧ byLevel level initial values < 50 :=
    fun initial values small => small _ (List.mem_cons.mpr (byLevel_mem level initial values))
  cases skill with
  | diCi => exact lengths 3 [3, 3, 5, 5, 7, 7] (by decide)
  | chongFeng => exact lengths 5 [5, 7, 7, 9, 9, 11] (by decide)
  | qiangLiYiJi => exact lengths 5 [5, 7, 9, 11, 13, 15] (by decide)

/-- The arithmetic has a result, which is a cell of the map on the ray through the target. -/
def LegalEnd (skill : LineSkill) (level : Int) (start target : Pos) : Prop :=
  ∃ pos, skill.endPos start target (skill.length level) = some pos ∧ pos.InMap ∧
    OnRay start target pos

/-- The length fits on the map, or its border is found without a division by zero. The spikes are not
clipped at all. -/
def EndFits : LineSkill → Int → Pos → Pos → Prop
  | diCi, level, start, target => HasRoom start target (length diCi level)
  | chongFeng, level, start, target =>
      HasRoom start target (length chongFeng level) ∨
        target.x - start.x ≠ 0 ∧ target.y - start.y ≠ 0
  | qiangLiYiJi, level, start, target =>
      HasRoom start target (length qiangLiYiJi level) ∨
        target.x - start.x ≠ 0 ∧ ¬ SlipsThrough start target (length qiangLiYiJi level)

section Ends

variable {start target : Pos} (inside : start.InMap) (aims : target.InMap) (level : Int)
include inside

/-- The end of the full length is legal exactly when it fits. -/
theorem fullLength_legal_iff (skill : LineSkill) :
    ((rayPoint start target (skill.length level) (wholeDist start target)).InMap ∧
      OnRay start target
        (rayPoint start target (skill.length level) (wholeDist start target))) ↔
      HasRoom start target (skill.length level) := by
  have nonneg := (length_small skill level).1
  have positive := wholeDist_pos start target
  have on : OnRay start target
      (rayPoint start target (skill.length level) (wholeDist start target)) :=
    ⟨_, _, nonneg, positive, rfl⟩
  exact (and_iff_left on).trans (rayPoint_inMap_iff inside nonneg positive)

/-- The border of the ray is legal. -/
theorem border_legal (movesX : target.x - start.x ≠ 0)
    (movesY : target.y - start.y ≠ 0 ∨ LeavesX start target) :
    ∃ pos, (if LeavesX start target then some (borderX start target)
        else some (borderY start target)) = some pos ∧ pos.InMap ∧ OnRay start target pos := by
  by_cases column : LeavesX start target
  · rw [if_pos column]
    exact ⟨_, rfl, borderX_inMap inside movesX column, borderX_onRay inside movesX⟩
  · have rises := movesY.resolve_right column
    have row := (leavesX_or_leavesY inside movesX rises).resolve_left column
    rw [if_neg column]
    exact ⟨_, rfl, borderY_inMap inside rises row, borderY_onRay inside rises⟩

include aims

/-- The three routines yield a legal end exactly when it fits. -/
theorem legalEnd_iff (skill : LineSkill) :
    skill.LegalEnd level start target ↔ skill.EndFits level start target := by
  have full : ((rayPoint start target (skill.length level) (wholeDist start target)).InMap ∧
      OnRay start target
        (rayPoint start target (skill.length level) (wholeDist start target))) ↔
      HasRoom start target (skill.length level) := fullLength_legal_iff inside level skill
  have few := length_small skill level
  cases skill with
  | diCi =>
      rw [LegalEnd, endPos, spikesEnd_eq inside aims few]
      simp only [Option.some.injEq, exists_eq_left']
      exact full
  | chongFeng =>
      rw [LegalEnd, endPos, chargeEnd_eq inside aims few, EndFits]
      by_cases fits : HasRoom start target (length chongFeng level)
      · rw [if_pos fits]
        exact iff_of_true ⟨_, rfl, full.mpr fits⟩ (Or.inl fits)
      · rw [if_neg fits]
        by_cases zero : target.x - start.x = 0 ∨ target.y - start.y = 0
        · rw [if_pos zero]
          refine iff_of_false (by simp) (not_or.mpr ⟨fits, fun moves => ?_⟩)
          exact zero.elim moves.1 moves.2
        · obtain ⟨movesX, movesY⟩ := not_or.mp zero
          rw [if_neg zero]
          exact iff_of_true (border_legal inside movesX (Or.inl movesY))
            (Or.inr ⟨movesX, movesY⟩)
  | qiangLiYiJi =>
      rw [LegalEnd, endPos, arrowEnd_eq inside aims few, EndFits]
      by_cases fits : HasRoom start target (length qiangLiYiJi level)
      · rw [if_pos (Or.inl fits)]
        exact iff_of_true ⟨_, rfl, full.mpr fits⟩ (Or.inl fits)
      · by_cases slips : SlipsThrough start target (length qiangLiYiJi level)
        · rw [if_pos (Or.inr slips)]
          refine iff_of_false ?_ (not_or.mpr ⟨fits, fun moves => moves.2 slips⟩)
          rintro ⟨pos, same, legal⟩
          cases Option.some.inj same
          exact fits (full.mp legal)
        · rw [if_neg (not_or.mpr ⟨fits, slips⟩)]
          by_cases vertical : target.x - start.x = 0
          · rw [if_pos vertical]
            exact iff_of_false (by simp)
              (not_or.mpr ⟨fits, fun moves => moves.1 vertical⟩)
          · rw [if_neg vertical]
            exact iff_of_true (border_legal inside vertical (rises_or_leavesX inside vertical))
              (Or.inr ⟨vertical, slips⟩)

end Ends

/-- A ray straight down from the last row but one has no end on the map. -/
theorem straightDown_not_legalEnd :
    ¬ ∃ skill : LineSkill, skill.LegalEnd 1 ⟨10, 27⟩ ⟨10, 28⟩ := by
  rintro ⟨skill, pos, result, inMap, -⟩
  have outside : ((skill.endPos ⟨10, 27⟩ ⟨10, 28⟩ (skill.length 1)).filter
      fun pos => decide pos.InMap) = none := by
    cases skill <;> decide +kernel
  rw [result, Option.filter_some, if_pos (decide_eq_true inMap)] at outside
  cases outside

/-- A charge to the corner stops at the last row. -/
theorem corner_legalEnd_iff :
    (⟨45, 26⟩ : Pos).InMap ∧ (⟨49, 28⟩ : Pos).InMap ∧
      (chongFeng.LegalEnd 6 ⟨45, 26⟩ ⟨49, 28⟩ ↔ chongFeng.EndFits 6 ⟨45, 26⟩ ⟨49, 28⟩) :=
  ⟨by decide, by decide, legalEnd_iff (by decide) (by decide) 6 chongFeng⟩

end LineSkill

end AppSvr.PkServer
