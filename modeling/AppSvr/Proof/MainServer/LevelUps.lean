/-
This file proves when an offline role gets the experience of an online one, what a role keeps beside
the cost of its levels, and when the number of levels is reported.
-/

import AppSvr.Construction.MainServer.RoleExp
import AppSvr.Proof.MainServer.MoneyExchange
import Mathlib.Algebra.Order.BigOperators.Group.Finset

namespace AppSvr.MainServer

/-- A printed number is read back. -/
theorem ofInt_printed (value : UInt32) : UInt32.ofInt (printed value) = value := by
  apply UInt32.toNat.inj
  have bound := value.toNat_lt
  rw [UInt32.ofInt, UInt32.toNat_ofNat', printed_eq]
  split <;> omega

/-- A gain is added as it is. -/
theorem addAttr_of_pos {input : Int32} (gain : 0 < input) (value : UInt32) :
    addAttr value input = value + input.toUInt32 :=
  if_neg fun both => Int32.lt_asymm gain both.1

theorem toUInt32_ne_zero {input : Int32} (gain : 0 < input) : input.toUInt32 ≠ 0 := by
  intro zero
  have same : input = 0 := by
    rw [← Int32.toInt32_toUInt32 input, zero]
    rfl
  rw [same] at gain
  exact absurd gain (by decide)

section Loop

variable {levelDesc : Int → List Int}

theorem levelUp_exp (attr : AttrGeneral) (row : Int) (rows : List Int) :
    (attr.levelUp (row :: rows)).exp = attr.exp - attr.maxExp ∧
      ∃ last ∈ row :: rows, (attr.levelUp (row :: rows)).maxExp = UInt32.ofInt last := by
  have read (attr : AttrGeneral) :
      ((row :: rows).foldl (fun attr maxExp => { attr with maxExp := UInt32.ofInt maxExp })
        attr).exp = attr.exp ∧ ∃ last ∈ row :: rows,
          ((row :: rows).foldl (fun attr maxExp => { attr with maxExp := UInt32.ofInt maxExp })
            attr).maxExp = UInt32.ofInt last := by
    induction rows generalizing row attr with
    | nil => exact ⟨rfl, row, by simp, rfl⟩
    | cons next rows ih =>
        obtain ⟨exp, last, member, maxExp⟩ := ih next { attr with maxExp := UInt32.ofInt row }
        exact ⟨exp, last, List.mem_cons_of_mem _ member, maxExp⟩
  exact read _

/-- Every level costs experience, so the loop ends. -/
theorem expLoop_isSome (positive : ∀ level, ∀ row ∈ levelDesc level, UInt32.ofInt row ≠ 0)
    {fuel : Nat} {attr : AttrGeneral} (costs : attr.maxExp ≠ 0) (enough : attr.exp.toNat < fuel) :
    (attr.expLoop levelDesc fuel).isSome := by
  induction fuel generalizing attr with
  | zero => exact absurd enough (Nat.not_lt_zero _)
  | succ fuel ih =>
      rw [AttrGeneral.expLoop]
      split
      case isFalse => rfl
      case isTrue above =>
        cases found : levelDesc (printed (attr.level + 1)) with
        | nil => rfl
        | cons row rows =>
            obtain ⟨exp, last, member, maxExp⟩ := levelUp_exp attr row rows
            apply ih
            · rw [maxExp]
              exact positive _ last (found ▸ member)
            · have cost : 0 < attr.maxExp.toNat :=
                Nat.pos_of_ne_zero fun zero => costs (UInt32.toNat.inj zero)
              have below := UInt32.lt_iff_toNat_lt.mp above
              rw [exp, UInt32.toNat_sub_of_le _ _ (UInt32.le_of_lt above)]
              omega

end Loop

/-- Both calls leave the same table, or neither returns. -/
def GrantedAlike (levelDesc : Int → List Int) (table : RoleTable) (roleID : UInt32) (num : Int32) :
    Prop :=
  ∀ fuel, roleExpAddToDB levelDesc fuel table roleID num =
    roleExpAddOnline levelDesc fuel table roleID num

/-- The gain leaves the stored role below its maximum. -/
def StaysBelow (row : RoleRow) (num : Int32) : Prop :=
  UInt32.ofInt row.exp + num.toUInt32 < UInt32.ofInt row.maxExp

instance (row : RoleRow) (num : Int32) : Decidable (StaysBelow row num) :=
  inferInstanceAs (Decidable (_ < _))

section Stored

variable {levelDesc : Int → List Int} {table : RoleTable} {roleID : UInt32} {row : RoleRow}
  {num : Int32} (stored : table (printed roleID) = some row)
include stored

/-- The table has no column `num`, so the statement fails. -/
theorem roleExpAddToDB_of_below (below : StaysBelow row num) (fuel : Nat) :
    roleExpAddToDB levelDesc fuel table roleID num = some table := by
  have less : UInt32.ofInt row.exp + num.toUInt32 < UInt32.ofInt row.maxExp := below
  simp only [roleExpAddToDB, stored]
  rw [if_pos less, RoleTable.updateExp, stored]
  rfl

/-- The gain is saved without a level. -/
theorem roleExpAddOnline_of_below (gain : 0 < num) (below : StaysBelow row num) (fuel : Nat) :
    roleExpAddOnline levelDesc (fuel + 1) table roleID num =
      some (Function.update table (printed roleID)
        (some { row.db2Cache with exp := UInt32.ofInt row.exp + num.toUInt32 }.cache2DB)) := by
  have grown : row.db2Cache.addExp num =
      { row.db2Cache with exp := UInt32.ofInt row.exp + num.toUInt32 } := by
    rw [AttrGeneral.addExp, addAttr_of_pos gain]
    rfl
  have stays : ¬ row.db2Cache.maxExp < UInt32.ofInt row.exp + num.toUInt32 :=
    UInt32.lt_asymm below
  simp only [roleExpAddOnline, stored, AttrGeneral.roleExpAdd, if_pos gain, grown,
    AttrGeneral.ifTheExpToMax, AttrGeneral.expLoop]
  rw [if_neg stays]
  rfl

/-- The experience is granted alike exactly when it reaches the maximum. -/
theorem roleExpAdd_alike_iff (gain : 0 < num) :
    GrantedAlike levelDesc table roleID num ↔ ¬ StaysBelow row num := by
  constructor
  · intro alike below
    have same := alike 1
    rw [roleExpAddToDB_of_below stored below, roleExpAddOnline_of_below stored gain below] at same
    have entry := congrFun (Option.some.inj same) (printed roleID)
    rw [stored, Function.update_self] at entry
    have exp := congrArg (fun row => UInt32.ofInt row.exp) (Option.some.inj entry)
    simp only [AttrGeneral.cache2DB, ofInt_printed] at exp
    exact toUInt32_ne_zero gain (by simpa using exp.symm)
  · intro reaches fuel
    have notLess : ¬ UInt32.ofInt row.exp + num.toUInt32 < UInt32.ofInt row.maxExp := reaches
    simp only [roleExpAddToDB, roleExpAddOnline, stored]
    rw [if_neg notLess]

end Stored

/-- One stored role needs a hundred points for its second level. -/
def oneRole (exp : Int) : RoleTable := fun roleID =>
  if roleID = 7 then some ⟨1, exp, 100, 0⟩ else none

/-- A role with ninety points gets thirty points. -/
theorem roleExpAdd_alike_thirty :
    0 < (30 : Int32) ∧ GrantedAlike (fun _ => [200]) (oneRole 90) 7 30 :=
  ⟨by decide, (roleExpAdd_alike_iff rfl (by decide)).mpr (by decide)⟩

/-- A role with ten points loses a gain of thirty points when it is offline. -/
theorem roleExpAdd_not_alike :
    ¬ ∀ (levelDesc : Int → List Int) (table : RoleTable) (roleID : UInt32) (row : RoleRow)
      (num : Int32), table (printed roleID) = some row → 0 < num →
        GrantedAlike levelDesc table roleID num := by
  intro claim
  have same := claim (fun _ => [200]) (oneRole 10) 7 ⟨1, 10, 100, 0⟩ 30 rfl (by decide) 1
  have entry := congrArg (fun table => table.map fun table => (table 7).map RoleRow.exp) same
  exact absurd entry (by decide)

/-- The table `LevelDesc` with positive maxima in a column of thirty-two bits. -/
structure LevelDesc where
  maxExp : Int → List Int
  positive : ∀ level, ∀ row ∈ maxExp level, 0 < row ∧ row < 2 ^ 31

/-- The maximum that the last row of a level gives. -/
def readMaxExp (rows : List Int) : UInt32 := UInt32.ofInt (rows.getLastD 0)

namespace AttrGeneral

variable {levelDesc : LevelDesc} {attr after : AttrGeneral} {total passed fuel : Nat}

/-- The maximum of the experience after this many further levels. -/
def maxExpAt (levelDesc : LevelDesc) (attr : AttrGeneral) : Nat → Nat
  | 0 => attr.maxExp.toNat
  | passed + 1 =>
      (readMaxExp (levelDesc.maxExp (printed (attr.level + UInt32.ofNat (passed + 1))))).toNat

/-- The role passes this many levels, and each costs its maximum. -/
structure Passes (levelDesc : LevelDesc) (attr : AttrGeneral) (total passed : Nat)
    (after : AttrGeneral) : Prop where
  conserved : total = after.exp.toNat + ∑ level ∈ Finset.range passed, attr.maxExpAt levelDesc level
  level : after.level = attr.level + UInt32.ofNat passed
  addPoint : after.addPoint = attr.addPoint + UInt32.ofNat passed * addAddPointRole.toUInt32
  maxExp : after.maxExp.toNat = attr.maxExpAt levelDesc passed
  rows : ∀ level < passed,
    levelDesc.maxExp (printed (attr.level + UInt32.ofNat (level + 1))) ≠ []
  above : ∀ level < passed, ∑ i ∈ Finset.range (level + 1), attr.maxExpAt levelDesc i < total

theorem Passes.none (attr : AttrGeneral) : Passes levelDesc attr attr.exp.toNat 0 attr where
  conserved := rfl
  level := (UInt32.add_zero _).symm
  addPoint := by simp
  maxExp := rfl
  rows := fun _ less => absurd less (Nat.not_lt_zero _)
  above := fun _ less => absurd less (Nat.not_lt_zero _)

theorem add_ofNat_succ (level : UInt32) (count : Nat) :
    level + 1 + UInt32.ofNat count = level + UInt32.ofNat (count + 1) := by
  rw [UInt32.ofNat_add count 1, UInt32.add_assoc]
  exact congrArg _ (UInt32.add_comm _ _)

section LevelUp

variable {row : Int} {rows : List Int}

theorem levelUp_maxExp (attr : AttrGeneral) :
    (attr.levelUp (row :: rows)).maxExp = readMaxExp (row :: rows) := by
  have read (attr : AttrGeneral) :
      ((row :: rows).foldl (fun attr maxExp => { attr with maxExp := UInt32.ofInt maxExp })
        attr).maxExp = readMaxExp (row :: rows) := by
    induction rows generalizing row attr with
    | nil => rfl
    | cons next rows ih => exact ih { attr with maxExp := UInt32.ofInt row }
  exact read _

theorem foldl_maxExp_level (rows : List Int) (attr : AttrGeneral) :
    (rows.foldl (fun attr maxExp => { attr with maxExp := UInt32.ofInt maxExp }) attr).level =
        attr.level ∧
      (rows.foldl (fun attr maxExp => { attr with maxExp := UInt32.ofInt maxExp }) attr).addPoint =
        attr.addPoint := by
  induction rows generalizing attr with
  | nil => exact ⟨rfl, rfl⟩
  | cons row rows ih => exact ih { attr with maxExp := UInt32.ofInt row }

theorem levelUp_level (attr : AttrGeneral) (rows : List Int) :
    (attr.levelUp rows).level = attr.level + 1 := by
  have raised := addAttr_of_pos (by decide : 0 < (1 : Int32))
  exact (raised _).trans (congrArg (· + 1) (foldl_maxExp_level rows _).1)

theorem levelUp_addPoint (attr : AttrGeneral) (rows : List Int) :
    (attr.levelUp rows).addPoint = attr.addPoint + addAddPointRole.toUInt32 := by
  have raised := addAttr_of_pos (by decide : 0 < addAddPointRole) attr.addPoint
  exact (foldl_maxExp_level rows _).2.trans raised

variable (found : levelDesc.maxExp (printed (attr.level + 1)) = row :: rows)
include found

theorem maxExpAt_levelUp (level : Nat) :
    (attr.levelUp (row :: rows)).maxExpAt levelDesc level =
      attr.maxExpAt levelDesc (level + 1) := by
  cases level with
  | zero =>
      change (attr.levelUp (row :: rows)).maxExp.toNat = _
      rw [levelUp_maxExp, maxExpAt, ← found]
      rfl
  | succ level => rw [maxExpAt, maxExpAt, levelUp_level, add_ofNat_succ]

/-- A level is passed and its maximum is taken away. -/
theorem Passes.levelUp (above : attr.maxExp < attr.exp)
    (rest : Passes levelDesc (attr.levelUp (row :: rows)) (attr.levelUp (row :: rows)).exp.toNat
      passed after) : Passes levelDesc attr attr.exp.toNat (passed + 1) after := by
  have cost := UInt32.lt_iff_toNat_lt.mp above
  have left : (attr.levelUp (row :: rows)).exp.toNat = attr.exp.toNat - attr.maxExp.toNat := by
    rw [(levelUp_exp attr row rows).1, UInt32.toNat_sub_of_le _ _ (UInt32.le_of_lt above)]
  have sum (count : Nat) : ∑ level ∈ Finset.range (count + 1), attr.maxExpAt levelDesc level =
      ∑ level ∈ Finset.range count, (attr.levelUp (row :: rows)).maxExpAt levelDesc level +
        attr.maxExp.toNat := by
    rw [Finset.sum_range_succ']
    congr 1
    exact Finset.sum_congr rfl fun level _ => (maxExpAt_levelUp found level).symm
  constructor
  case conserved =>
    have conserved := rest.conserved
    rw [sum]
    omega
  case level => rw [rest.level, levelUp_level, add_ofNat_succ]
  case addPoint =>
    rw [rest.addPoint, levelUp_addPoint, UInt32.ofNat_add passed 1, UInt32.add_mul,
      UInt32.add_assoc]
    exact congrArg _ (UInt32.add_comm _ _)
  case maxExp => rw [rest.maxExp, maxExpAt_levelUp found]
  case rows =>
    intro level less
    cases level with
    | zero =>
        change levelDesc.maxExp (printed (attr.level + 1)) ≠ []
        simp [found]
    | succ level =>
        have present := rest.rows level (Nat.lt_of_succ_lt_succ less)
        rwa [levelUp_level, add_ofNat_succ] at present
  case above =>
    intro level less
    rw [sum]
    cases level with
    | zero =>
        rw [Finset.sum_range_zero, Nat.zero_add]
        exact cost
    | succ level =>
        have higher := rest.above level (Nat.lt_of_succ_lt_succ less)
        omega

end LevelUp

theorem expLoop_passes {full : Bool}
    (returned : attr.expLoop levelDesc.maxExp fuel = some (full, after)) :
    ∃ passed, Passes levelDesc attr attr.exp.toNat passed after ∧
      if full then after.exp ≤ after.maxExp
      else after.maxExp < after.exp ∧ levelDesc.maxExp (printed (after.level + 1)) = [] := by
  induction fuel generalizing attr with
  | zero => exact absurd returned (by simp [expLoop])
  | succ fuel ih =>
      rw [expLoop] at returned
      split at returned
      case isFalse stays =>
        cases Option.some.inj returned
        exact ⟨0, Passes.none _, UInt32.not_lt.mp stays⟩
      case isTrue above =>
        cases found : levelDesc.maxExp (printed (attr.level + 1)) with
        | nil =>
            rw [found] at returned
            cases Option.some.inj returned
            exact ⟨0, Passes.none _, above, found⟩
        | cons row rows =>
            rw [found] at returned
            obtain ⟨passed, rest, ends⟩ := ih returned
            exact ⟨passed + 1, Passes.levelUp found above rest, ends⟩

theorem readMaxExp_pos (levelDesc : LevelDesc) {level : Int}
    (present : levelDesc.maxExp level ≠ []) : 0 < (readMaxExp (levelDesc.maxExp level)).toNat := by
  obtain ⟨rows, last, shape⟩ :=
    (List.eq_nil_or_concat' (levelDesc.maxExp level)).resolve_left present
  have range := levelDesc.positive level last (shape ▸ List.mem_append_right _ List.mem_cons_self)
  rw [shape, readMaxExp, List.getLastD_concat, UInt32.ofInt, UInt32.toNat_ofNat']
  omega

theorem expLoop_returns (enough : attr.exp.toNat + 1 < fuel) :
    (attr.expLoop levelDesc.maxExp fuel).isSome := by
  have nonzero (level : Int) (row : Int) (member : row ∈ levelDesc.maxExp level) :
      UInt32.ofInt row ≠ 0 := by
    have range := levelDesc.positive level row member
    intro zero
    have same := congrArg UInt32.toNat zero
    rw [UInt32.ofInt, UInt32.toNat_ofNat'] at same
    change _ = 0 at same
    omega
  cases fuel with
  | zero => exact absurd enough (Nat.not_lt_zero _)
  | succ fuel =>
      rw [expLoop]
      split
      case isFalse => rfl
      case isTrue above =>
        cases found : levelDesc.maxExp (printed (attr.level + 1)) with
        | nil => rfl
        | cons row rows =>
            obtain ⟨exp, last, member, maxExp⟩ := levelUp_exp attr row rows
            have less := UInt32.lt_iff_toNat_lt.mp above
            refine expLoop_isSome nonzero ?_ ?_
            · rw [maxExp]
              exact nonzero _ last (found ▸ member)
            · rw [exp, UInt32.toNat_sub_of_le _ _ (UInt32.le_of_lt above)]
              omega

/-- Every level but the first costs experience. -/
theorem Passes.passed_lt (passes : Passes levelDesc attr total passed after)
    (small : total < 2 ^ 32) : passed < 2 ^ 32 := by
  cases passed with
  | zero => decide
  | succ passed =>
      have costs : passed ≤ ∑ level ∈ Finset.range passed, attr.maxExpAt levelDesc (level + 1) := by
        have each (level : Nat) (member : level ∈ Finset.range passed) :
            1 ≤ attr.maxExpAt levelDesc (level + 1) :=
          readMaxExp_pos levelDesc
            (passes.rows level (Nat.lt_succ_of_lt (Finset.mem_range.mp member)))
        have sum := Finset.card_nsmul_le_sum (Finset.range passed) _ 1 each
        simpa using sum
      have above := passes.above passed (Nat.lt_succ_self _)
      rw [Finset.sum_range_succ'] at above
      omega

/-- The table has the rows of this many further levels, which take the experience. -/
def Reaches (levelDesc : LevelDesc) (attr : AttrGeneral) (total passed : Nat) : Prop :=
  (∀ level < passed, levelDesc.maxExp (printed (attr.level + UInt32.ofNat (level + 1))) ≠ []) ∧
    total ≤ ∑ level ∈ Finset.range (passed + 1), attr.maxExpAt levelDesc level

instance (levelDesc : LevelDesc) (attr : AttrGeneral) (total passed : Nat) :
    Decidable (Reaches levelDesc attr total passed) :=
  inferInstanceAs (Decidable (_ ∧ _))

theorem Passes.total_le_iff (passes : Passes levelDesc attr total passed after) :
    total ≤ ∑ level ∈ Finset.range (passed + 1), attr.maxExpAt levelDesc level ↔
      after.exp ≤ after.maxExp := by
  rw [Finset.sum_range_succ, ← passes.maxExp, UInt32.le_iff_toNat_le]
  have conserved := passes.conserved
  omega

/-- The levels that the table can take are the levels that the role passes. -/
theorem Passes.reaches (passes : Passes levelDesc attr total passed after)
    (missing : after.maxExp < after.exp →
      levelDesc.maxExp (printed (after.level + 1)) = [])
    {enough : Nat} (reaches : Reaches levelDesc attr total enough) :
    after.exp ≤ after.maxExp ∧ passed ≤ enough := by
  have least : passed ≤ enough := by
    by_contra more
    exact absurd reaches.2 (Nat.not_le.mpr (passes.above enough (Nat.lt_of_not_le more)))
  refine ⟨UInt32.not_lt.mp fun above => ?_, least⟩
  have row := missing above
  have next : after.level + 1 = attr.level + UInt32.ofNat (passed + 1) := by
    rw [passes.level, UInt32.ofNat_add passed 1, UInt32.add_assoc]
    rfl
  rw [next] at row
  have last : passed = enough :=
    Nat.le_antisymm least (Nat.le_of_not_lt fun less => reaches.1 passed less row)
  rw [← last] at reaches
  exact UInt32.not_le.mpr above (passes.total_le_iff.mp reaches.2)

theorem Passes.level_eq_iff {second : AttrGeneral} {count : Nat}
    (passes : Passes levelDesc attr total passed after) (few : passed < 2 ^ 32)
    (level : second.level = attr.level + UInt32.ofNat count) (less : count < 2 ^ 32) :
    after.level = second.level ↔ passed = count := by
  rw [passes.level, level, UInt32.add_right_inj]
  constructor
  · intro same
    have numbers := congrArg UInt32.toNat same
    rwa [UInt32.toNat_ofNat_of_lt' few, UInt32.toNat_ofNat_of_lt' less] at numbers
  · exact congrArg UInt32.ofNat

theorem reported_levels (level : UInt32) (passed : Nat) :
    (level + UInt32.ofNat passed - level.toUInt16.toUInt32).toUInt16 = UInt16.ofNat passed := by
  apply UInt16.toNat.inj
  have bound := level.toNat_lt
  rw [UInt32.toNat_toUInt16, UInt32.toNat_sub, UInt32.toNat_add, UInt16.toNat_toUInt32,
    UInt32.toNat_toUInt16, UInt32.toNat_ofNat', UInt16.toNat_ofNat']
  omega

/-- Sixteen bits report the number of levels. -/
theorem toInt_reported (passed : Nat) (few : passed < 2 ^ 32) :
    (UInt16.ofNat passed).toInt16.toInt32.toInt = passed ↔ passed < 2 ^ 15 := by
  have signed : (UInt16.ofNat passed).toInt16.toInt32.toInt =
      (UInt16.ofNat passed).toBitVec.toInt := Int16.toInt_toInt32 _
  rw [signed, BitVec.toInt_eq_toNat_cond, UInt16.toNat_toBitVec, UInt16.toNat_ofNat']
  split <;> omega

/-- The result counts the levels, and the client hears of a level exactly when there is one. -/
structure LevelsUp (levelDesc : LevelDesc) (attr : AttrGeneral) (input : Int32) (iRet : Int32)
    (notices : List ExpNotice) (after : AttrGeneral) (passed : Nat) : Prop where
  passes : Passes levelDesc attr (attr.exp.toNat + input.toInt.toNat) passed after
  stops : after.exp ≤ after.maxExp ∨ levelDesc.maxExp (printed (after.level + 1)) = []
  reported : iRet.toInt = passed
  notified : .roleLev ∈ notices ↔ after.level ≠ attr.level

/-- The gain ends, and its levels are paid for and reported. -/
def ConservesExp (levelDesc : LevelDesc) (attr : AttrGeneral) (input : Int32) (fuel : Nat) : Prop :=
  ∃ iRet notices after passed,
    attr.roleExpAddNotify levelDesc.maxExp fuel input = some (iRet, notices, after) ∧
      LevelsUp levelDesc attr input iRet notices after passed

theorem roleLev_mem_iff (iRet input : Int32) :
    ExpNotice.roleLev ∈
        (if 1 ≤ iRet then [ExpNotice.roleLev, .info, .roleAddLevl] else [.roleExp input]) ↔
      1 ≤ iRet := by
  split
  case isTrue gained => exact iff_of_true List.mem_cons_self gained
  case isFalse none => exact iff_of_false (by simp) none

section Gain

variable {input : Int32} (gain : 0 < input)
  (small : attr.exp.toNat + input.toInt.toNat < 2 ^ 32)
include gain small

theorem addExp_toNat : (attr.addExp input).exp.toNat = attr.exp.toNat + input.toInt.toNat := by
  have word : input.toUInt32.toNat = input.toInt.toNat :=
    Int32.toNat_toUInt32_of_le (Int32.le_of_lt gain)
  change (addAttr attr.exp input).toNat = _
  rw [addAttr_of_pos gain, UInt32.toNat_add, word, Nat.mod_eq_of_lt small]

theorem Passes.of_addExp
    (passes : Passes levelDesc (attr.addExp input) (attr.addExp input).exp.toNat passed after) :
    Passes levelDesc attr (attr.exp.toNat + input.toInt.toNat) passed after := by
  have same : (attr.addExp input).maxExpAt levelDesc = attr.maxExpAt levelDesc := by
    funext level
    cases level <;> rfl
  rw [addExp_toNat gain small] at passes
  exact ⟨same ▸ passes.conserved, passes.level, passes.addPoint, same ▸ passes.maxExp,
    passes.rows, same ▸ passes.above⟩

/-- The gain passes some levels, and the result is their number or minus one at a missing row. -/
theorem roleExpAddNotify_passes (levelDesc : LevelDesc)
    (enough : attr.exp.toNat + input.toInt.toNat + 1 < fuel) :
    ∃ passed after iRet, attr.roleExpAddNotify levelDesc.maxExp fuel input =
        some (iRet, if 1 ≤ iRet then [.roleLev, .info, .roleAddLevl] else [.roleExp input], after) ∧
      Passes levelDesc attr (attr.exp.toNat + input.toInt.toNat) passed after ∧
      (after.exp ≤ after.maxExp ∧ iRet = (UInt16.ofNat passed).toInt16.toInt32 ∨
        after.maxExp < after.exp ∧ levelDesc.maxExp (printed (after.level + 1)) = [] ∧
          iRet = -1) := by
  have sum := addExp_toNat gain small
  have returns : ((attr.addExp input).expLoop levelDesc.maxExp fuel).isSome :=
    expLoop_returns (sum ▸ enough)
  obtain ⟨⟨full, after⟩, returned⟩ := Option.isSome_iff_exists.mp returns
  obtain ⟨passed, passes, ends⟩ := expLoop_passes returned
  have kept := passes.of_addExp gain small
  refine ⟨passed, after,
    (if full then (UInt16.ofNat passed).toInt16.toInt32 else -1), ?_, kept, ?_⟩
  · rw [roleExpAddNotify, roleExpAdd, if_pos gain, ifTheExpToMax, returned]
    cases full with
    | false => rfl
    | true =>
        have levels : (after.level - attr.level.toUInt16.toUInt32).toUInt16 =
            UInt16.ofNat passed := by
          rw [kept.level]
          exact reported_levels _ _
        rw [← levels]
        rfl
  · cases full with
    | false => exact Or.inr ⟨ends.1, ends.2, rfl⟩
    | true => exact Or.inl ⟨ends, rfl⟩

/-- The gain is reported exactly when the table takes it within sixteen bits of levels. -/
theorem roleExpAdd_conserves_iff (enough : attr.exp.toNat + input.toInt.toNat + 1 < fuel) :
    ConservesExp levelDesc attr input fuel ↔
      ∃ passed < 2 ^ 15, Reaches levelDesc attr (attr.exp.toNat + input.toInt.toNat) passed := by
  obtain ⟨passed, after, iRet, returned, passes, ends⟩ :=
    roleExpAddNotify_passes gain small levelDesc enough
  have few := passes.passed_lt small
  constructor
  · rintro ⟨iRet', notices, after', passed', returned', levels⟩
    rw [returned] at returned'
    cases Option.some.inj returned'
    have same := (passes.level_eq_iff few levels.passes.level
      (levels.passes.passed_lt small)).mp rfl
    rw [← same] at levels
    obtain ⟨below, value⟩ | ⟨-, -, value⟩ := ends
    · refine ⟨passed, (toInt_reported passed few).mp (value ▸ levels.reported), passes.rows, ?_⟩
      exact passes.total_le_iff.mpr below
    · have reported := levels.reported
      rw [value] at reported
      change (-1 : Int) = passed at reported
      omega
  · rintro ⟨most, within, reaches⟩
    obtain ⟨below, least⟩ := passes.reaches
      (fun above => by
        obtain ⟨below, -⟩ | ⟨-, missing, -⟩ := ends
        · exact absurd below (UInt32.not_le.mpr above)
        · exact missing) reaches
    obtain ⟨-, value⟩ | ⟨above, -, -⟩ := ends
    · have reported : iRet.toInt = passed :=
        value ▸ (toInt_reported passed few).mpr (Nat.lt_of_le_of_lt least within)
      refine ⟨iRet, _, after, passed, returned, passes, Or.inl below, reported, ?_⟩
      have changed : after.level = attr.level ↔ passed = 0 :=
        passes.level_eq_iff few (by simp) (Nat.two_pow_pos 32)
      rw [roleLev_mem_iff, Int32.le_iff_toInt_le, reported, ne_eq, changed]
      change (1 : Int) ≤ passed ↔ _
      omega
    · exact absurd below (UInt32.not_le.mpr above)

end Gain

end AttrGeneral

/-- The table has the rows of the levels two and three. -/
def threeLevels : LevelDesc where
  maxExp level := if level = 2 then [200] else if level = 3 then [400] else []
  positive := by
    intro level row member
    split at member
    · cases List.mem_singleton.mp member
      decide
    · split at member
      · cases List.mem_singleton.mp member
        decide
      · exact absurd member List.not_mem_nil

/-- A role of the first level with ninety points of a hundred. -/
def beginner : AttrGeneral := ⟨1, 90, 100, 0⟩

namespace AttrGeneral

/-- A gain of three hundred points passes two levels. -/
theorem roleExpAdd_conserves_two : ConservesExp threeLevels beginner 300 400 :=
  (roleExpAdd_conserves_iff (by decide) (by decide) (by decide)).mpr ⟨2, by decide, by decide⟩

/-- The levels two and three are gained, but the missing fourth level reports minus one. -/
theorem roleExpAdd_not_conserves :
    0 < (900 : Int32) ∧ beginner.exp.toNat + (900 : Int32).toInt.toNat < 2 ^ 32 ∧
      ∀ fuel, ¬ ConservesExp threeLevels beginner 900 fuel := by
  refine ⟨by decide, by decide, fun fuel => ?_⟩
  rintro ⟨iRet, notices, after, passed, returned, levels⟩
  have value : iRet = -1 := by
    match fuel with
    | 0 | 1 | 2 => exact nomatch returned
    | fuel + 3 =>
        have stopped : beginner.roleExpAddNotify threeLevels.maxExp (fuel + 3) 900 =
            some (-1, [.roleExp 900], ⟨3, 690, 400, 2⟩) := rfl
        rw [stopped] at returned
        exact (congrArg Prod.fst (Option.some.inj returned)).symm
  have reported := levels.reported
  rw [value] at reported
  change (-1 : Int) = passed at reported
  omega

end AttrGeneral

end AppSvr.MainServer
