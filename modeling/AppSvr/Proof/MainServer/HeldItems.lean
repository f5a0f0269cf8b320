/-
This file shows how a look at one item shares its units out to the details that ask for it.
-/

import AppSvr.Proof.MainServer.TaskCoverage

namespace AppSvr.MainServer

namespace RoleTaskDetail

/-- The loop leaves this of a row. -/
def handedOut : UInt32 → List RoleTaskDetail → RoleTaskDetail → RoleTaskDetail
  | _, [], row => row
  | bagItemNum, detail :: ltd, row =>
      if bagItemNum < detail.goalNum then row.progress detail.detailID false bagItemNum
      else
        handedOut (bagItemNum - detail.goalNum) ltd
          (row.progress detail.detailID true detail.goalNum)

theorem progress_sameGoal (detailID : Nat) (isFinish : Bool) (finishNum : UInt32)
    (row : RoleTaskDetail) : row.SameGoal (row.progress detailID isFinish finishNum) := by
  unfold progress
  split_ifs <;> exact ⟨rfl, rfl, rfl, rfl⟩

theorem progress_other {detailID : Nat} {row : RoleTaskDetail} (other : row.detailID ≠ detailID)
    (isFinish : Bool) (finishNum : UInt32) : row.progress detailID isFinish finishNum = row :=
  if_neg other

theorem handedOut_sameGoal (bagItemNum : UInt32) (ltd : List RoleTaskDetail)
    (row : RoleTaskDetail) : row.SameGoal (handedOut bagItemNum ltd row) := by
  induction ltd generalizing bagItemNum row with
  | nil => exact SameGoal.refl row
  | cons detail ltd ih =>
      rw [handedOut]
      split_ifs
      · exact progress_sameGoal _ _ _ row
      · exact (progress_sameGoal _ _ _ row).trans (ih _ _)

/-- Rows that are not listed stay as they are. -/
theorem handedOut_other (bagItemNum : UInt32) {ltd : List RoleTaskDetail} {row : RoleTaskDetail}
    (other : row.detailID ∉ ltd.map RoleTaskDetail.detailID) :
    handedOut bagItemNum ltd row = row := by
  induction ltd generalizing bagItemNum with
  | nil => rfl
  | cons detail ltd ih =>
      rw [List.map_cons, List.mem_cons, not_or] at other
      rw [handedOut, progress_other other.1, progress_other other.1, ih _ other.2, ite_self]

/-- The rows share the units in their order, and a row is finished when it has what it asks for. -/
structure SharedOut (bagItemNum : UInt32) (before after : List RoleTaskDetail) : Prop where
  shares : Shares bagItemNum.toNat (before.map fun row => row.goalNum.toNat)
    (after.map fun row => row.finishNum.toNat)
  finished : ∀ row ∈ after, row.isFinish = true ↔ row.finishNum = row.goalNum

section Loop

variable {roleID itemID bagItemNum : UInt32} {detail : RoleTaskDetail} {ltd : List RoleTaskDetail}

theorem reset_of_holds {row : RoleTaskDetail} (holds : row.Holds roleID itemID) :
    row.reset roleID itemID = { row with isFinish := false, finishNum := 0 } := if_pos holds

/-- A change of one row does not reach the later ones. -/
theorem progress_reset_later (new : detail.detailID ∉ ltd.map RoleTaskDetail.detailID)
    (isFinish : Bool) (finishNum : UInt32) (row : RoleTaskDetail) (member : row ∈ ltd) :
    (row.reset roleID itemID).progress detail.detailID isFinish finishNum =
      row.reset roleID itemID := by
  apply progress_other
  rw [reset_detailID]
  exact fun same => new (same ▸ List.mem_map_of_mem member)

/-- The first row that lacks units gets the rest, and the later ones stay reset. -/
theorem sharedOut_short (holds : detail.Holds roleID itemID)
    (held : ∀ row ∈ ltd, row.Holds roleID itemID) (positive : ∀ row ∈ ltd, 0 < row.goalNum)
    (lacks : bagItemNum < detail.goalNum) :
    SharedOut bagItemNum (detail :: ltd)
      ((detail.reset roleID itemID).progress detail.detailID false bagItemNum ::
        ltd.map fun row => row.reset roleID itemID) := by
  have head : (detail.reset roleID itemID).progress detail.detailID false bagItemNum =
      { detail with isFinish := false, finishNum := bagItemNum } := by
    rw [reset_of_holds holds]
    exact if_pos rfl
  rw [head, List.map_congr_left fun row member => reset_of_holds (held row member)]
  constructor
  · have short := Shares.short (UInt32.lt_iff_toNat_lt.mp lacks)
      (ltd.map fun row => row.goalNum.toNat)
    rw [List.map_map] at short
    rw [List.map_cons, List.map_cons, List.map_map]
    exact short
  · rw [List.forall_mem_cons, List.forall_mem_map]
    constructor
    · exact iff_of_false Bool.false_ne_true (UInt32.ne_of_lt lacks)
    · intro row member
      exact iff_of_false Bool.false_ne_true (UInt32.ne_of_lt (positive row member))

/-- The rows of the list itself are served in their order. -/
theorem sharedOut_handedOut (bagItemNum : UInt32)
    (distinct : (ltd.map RoleTaskDetail.detailID).Nodup)
    (held : ∀ row ∈ ltd, row.Holds roleID itemID) (positive : ∀ row ∈ ltd, 0 < row.goalNum) :
    SharedOut bagItemNum ltd
      (ltd.map fun row => handedOut bagItemNum ltd (row.reset roleID itemID)) := by
  induction ltd generalizing bagItemNum with
  | nil => exact ⟨.nil _, List.forall_mem_nil _⟩
  | cons detail ltd ih =>
      rw [List.map_cons, List.nodup_cons] at distinct
      rw [List.forall_mem_cons] at held positive
      simp only [handedOut]
      by_cases lacks : bagItemNum < detail.goalNum
      · simp only [if_pos lacks]
        rw [List.map_cons, List.map_congr_left (progress_reset_later distinct.1 _ _)]
        exact sharedOut_short held.1 held.2 positive.2 lacks
      · have enough := UInt32.not_lt.mp lacks
        have rest := ih (bagItemNum - detail.goalNum) distinct.2 held.2 positive.2
        have head : handedOut (bagItemNum - detail.goalNum) ltd
            ((detail.reset roleID itemID).progress detail.detailID true detail.goalNum) =
            { detail with isFinish := true, finishNum := detail.goalNum } := by
          rw [handedOut_other, reset_of_holds held.1]
          · exact if_pos rfl
          · rw [progress_detailID, reset_detailID]
            exact distinct.1
        simp only [if_neg lacks]
        rw [List.map_cons, head, List.map_congr_left fun row member =>
          congrArg (handedOut _ ltd) (progress_reset_later distinct.1 _ _ row member)]
        constructor
        · have shares := rest.shares
          rw [UInt32.toNat_sub_of_le _ _ enough] at shares
          exact .full (UInt32.le_iff_toNat_le.mp enough) shares
        · rw [List.forall_mem_cons]
          exact ⟨iff_of_true rfl rfl, rest.finished⟩

end Loop

end RoleTaskDetail

namespace TaskSvc

/-- The units of the item in the bag, counted without a bound. -/
def heldUnits (svc : TaskSvc) (roleID itemID : UInt32) : Nat :=
  ((svc.bag.filter fun row => row.roleID = roleID ∧ row.itemID = itemID).map
    fun row => row.num.toNat).sum

/-- All details of the item together ask for so many. -/
def wantedUnits (svc : TaskSvc) (roleID itemID : UInt32) : Nat :=
  ((svc.itemDetails roleID itemID).map fun row => row.goalNum.toNat).sum

/-- The details of the item share the units in the order of their numbers, and nothing else
changes but the status of their tasks. -/
structure HandsOut (units : Nat) (roleID itemID : UInt32) (before after : TaskSvc) : Prop where
  rows : ∃ f, after.roleTaskDetail.rows = before.roleTaskDetail.rows.map f ∧
    ∀ row ∈ before.roleTaskDetail.rows,
      row.SameGoal (f row) ∧ (¬ row.Holds roleID itemID → f row = row)
  shares : Shares units ((before.itemDetails roleID itemID).map fun row => row.goalNum.toNat)
    ((after.itemDetails roleID itemID).map fun row => row.finishNum.toNat)
  sum : ((after.itemDetails roleID itemID).map fun row => row.finishNum.toNat).sum =
    min units (before.wantedUnits roleID itemID)
  finished : ∀ row ∈ after.itemDetails roleID itemID,
    row.isFinish = true ↔ row.finishNum = row.goalNum
  roleTask : ∀ key, (∀ row ∈ before.itemDetails roleID itemID, key ≠ (roleID, row.taskID)) →
    after.roleTask.find key = before.roleTask.find key
  task : after.task = before.task
  bag : after.bag = before.bag

section Allocation

variable {svc after : TaskSvc} {roleID itemID : UInt32} {f : RoleTaskDetail → RoleTaskDetail}

theorem itemDetails_map (rows : after.roleTaskDetail.rows = svc.roleTaskDetail.rows.map f)
    (same : ∀ row : RoleTaskDetail, row.SameGoal (f row)) :
    after.itemDetails roleID itemID = (svc.itemDetails roleID itemID).map f := by
  rw [itemDetails, itemDetails, rows, List.filter_map]
  congr 1
  apply List.filter_congr
  intro row _
  exact decide_eq_decide.mpr ((same row).holds roleID itemID)

theorem refresh_frame (svc : TaskSvc) (roleID taskID : UInt32) :
    (svc.refresh roleID taskID).bag = svc.bag ∧ (svc.refresh roleID taskID).task = svc.task ∧
      ∀ key, key ≠ (roleID, taskID) →
        (svc.refresh roleID taskID).roleTask.find key = svc.roleTask.find key := by
  unfold refresh
  cases svc.task.find taskID with
  | none => exact ⟨rfl, rfl, fun _ _ => rfl⟩
  | some task =>
      dsimp only
      split_ifs
      · exact ⟨rfl, rfl, fun key other => TaskProgram.setFinishStatus_find_other _ _ _ _ _ other⟩
      · exact ⟨rfl, rfl, fun _ _ => rfl⟩

theorem allocated_rows (bagItemNum : UInt32) (ltd : List RoleTaskDetail) :
    (svc.allocated roleID bagItemNum ltd).roleTaskDetail.rows =
      svc.roleTaskDetail.rows.map (RoleTaskDetail.handedOut bagItemNum ltd) := by
  induction ltd generalizing svc bagItemNum with
  | nil => exact (List.map_id _).symm
  | cons detail ltd ih =>
      have step (isFinish : Bool) (finishNum : UInt32) :
          (svc.progress detail.detailID isFinish finishNum).roleTaskDetail.rows =
            svc.roleTaskDetail.rows.map
              (RoleTaskDetail.progress detail.detailID isFinish finishNum) := rfl
      rw [allocated]
      by_cases lacks : bagItemNum < detail.goalNum
      · rw [if_pos lacks, step]
        exact List.map_congr_left fun row _ => by rw [RoleTaskDetail.handedOut, if_pos lacks]
      · rw [if_neg lacks, ih, refresh_details, step, List.map_map]
        exact List.map_congr_left fun row _ => by rw [RoleTaskDetail.handedOut, if_neg lacks]; rfl

theorem allocated_frame (svc : TaskSvc) (bagItemNum : UInt32) (ltd : List RoleTaskDetail) :
    (svc.allocated roleID bagItemNum ltd).bag = svc.bag ∧
      (svc.allocated roleID bagItemNum ltd).task = svc.task ∧
      ∀ key, (∀ row ∈ ltd, key ≠ (roleID, row.taskID)) →
        (svc.allocated roleID bagItemNum ltd).roleTask.find key = svc.roleTask.find key := by
  induction ltd generalizing svc bagItemNum with
  | nil => exact ⟨rfl, rfl, fun _ _ => rfl⟩
  | cons detail ltd ih =>
      rw [allocated]
      split_ifs
      · exact ⟨rfl, rfl, fun _ _ => rfl⟩
      · obtain ⟨bag, task, rows⟩ :=
          refresh_frame (svc.progress detail.detailID true detail.goalNum) roleID detail.taskID
        obtain ⟨bags, tasks, later⟩ := ih
          ((svc.progress detail.detailID true detail.goalNum).refresh roleID detail.taskID)
          (bagItemNum - detail.goalNum)
        refine ⟨bags.trans bag, tasks.trans task, fun key others => ?_⟩
        rw [List.forall_mem_cons] at others
        exact (later key others.2).trans (rows key others.1)

/-- What a look hands out depends on the units that the code counts. -/
theorem HandsOut.of_rows {bagItemNum : UInt32} {units : Nat} (counted : bagItemNum.toNat = units)
    (rows : after.roleTaskDetail.rows = svc.roleTaskDetail.rows.map fun row =>
      RoleTaskDetail.handedOut bagItemNum (svc.itemDetails roleID itemID)
        (row.reset roleID itemID))
    (positive : ∀ row ∈ svc.itemDetails roleID itemID, 0 < row.goalNum)
    (roleTask : ∀ key, (∀ row ∈ svc.itemDetails roleID itemID, key ≠ (roleID, row.taskID)) →
      after.roleTask.find key = svc.roleTask.find key)
    (task : after.task = svc.task) (bag : after.bag = svc.bag) :
    HandsOut units roleID itemID svc after := by
  have held : ∀ row ∈ svc.itemDetails roleID itemID, row.Holds roleID itemID :=
    fun row member => (mem_itemDetails.mp member).2
  have same (row : RoleTaskDetail) : row.SameGoal
      (RoleTaskDetail.handedOut bagItemNum (svc.itemDetails roleID itemID)
        (row.reset roleID itemID)) :=
    (reset_sameGoal row).trans (RoleTaskDetail.handedOut_sameGoal _ _ _)
  have shared := RoleTaskDetail.sharedOut_handedOut bagItemNum itemDetails_distinct held positive
  rw [← itemDetails_map rows same] at shared
  rw [← counted]
  refine ⟨⟨_, rows, fun row member => ⟨same row, fun other => ?_⟩⟩, shared.shares,
    shared.shares.sum_eq, shared.finished, roleTask, task, bag⟩
  have unlisted : row.detailID ∉ (svc.itemDetails roleID itemID).map RoleTaskDetail.detailID :=
    fun listed => other (holds_of_number member listed)
  rw [RoleTaskDetail.reset, if_neg other, RoleTaskDetail.handedOut_other _ unlisted]

/-- The reset rows are those of a look that finds nothing in the bag. -/
theorem handedOut_zero (positive : ∀ row ∈ svc.itemDetails roleID itemID, 0 < row.goalNum)
    (row : RoleTaskDetail) (member : row ∈ svc.roleTaskDetail.rows) :
    RoleTaskDetail.handedOut 0 (svc.itemDetails roleID itemID) (row.reset roleID itemID) =
      row.reset roleID itemID := by
  cases listed : svc.itemDetails roleID itemID with
  | nil => rfl
  | cons detail ltd =>
      rw [listed, List.forall_mem_cons] at positive
      rw [RoleTaskDetail.handedOut, if_pos positive.1]
      by_cases same : row.detailID = detail.detailID
      · have holds : row.Holds roleID itemID := by
          apply holds_of_number member
          rw [listed, same]
          exact List.mem_cons_self
        rw [RoleTaskDetail.reset_of_holds holds]
        exact if_pos same
      · apply RoleTaskDetail.progress_other
        rwa [RoleTaskDetail.reset_detailID]

/-- A look hands out the units that its counter shows. -/
theorem recheck_handsOut (positive : ∀ row ∈ svc.itemDetails roleID itemID, 0 < row.goalNum) :
    HandsOut (svc.heldUnits roleID itemID % 2 ^ 32) roleID itemID svc
      (svc.recheck roleID itemID) := by
  have counted : (svc.bagItemNum roleID itemID).toNat = svc.heldUnits roleID itemID % 2 ^ 32 := by
    rw [bagItemNum, toNat_foldl_add, UInt32.toNat_zero, Nat.zero_add, List.map_map]
    rfl
  unfold recheck
  split_ifs with none empty
  · have unlisted (row : RoleTaskDetail) (member : row ∈ svc.roleTaskDetail.rows) :
        ¬ row.Holds roleID itemID := by
      intro holds
      have listed := mem_itemDetails.mpr ⟨member, holds⟩
      rw [none] at listed
      cases listed
    refine .of_rows counted ?_ positive (fun _ _ => rfl) rfl rfl
    rw [List.map_congr_left fun row member => ?_, List.map_id]
    rw [none, RoleTaskDetail.handedOut, RoleTaskDetail.reset, if_neg (unlisted row member)]
    rfl
  · have none : svc.bagItemNum roleID itemID = 0 := by
      rw [bagItemNum, List.filter_eq_nil_iff.mpr fun row member => ?_]
      · rfl
      · rw [decide_eq_true_iff]
        exact empty row member
    rw [none] at counted
    refine .of_rows counted ?_ positive (fun _ _ => rfl) rfl rfl
    exact (List.map_congr_left fun row member => handedOut_zero positive row member).symm
  · obtain ⟨bag, task, roleTask⟩ := allocated_frame (svc.resetItem roleID itemID)
      (svc.bagItemNum roleID itemID) (svc.itemDetails roleID itemID)
    refine .of_rows counted ?_ positive roleTask task bag
    rw [allocated_rows]
    exact List.map_map

end Allocation

/-- The held items are handed out exactly while their number fits the counter, or while the counter
still shows enough for all details. -/
theorem holdItem_handsOut_iff (svc : TaskSvc) (roleID itemID : UInt32)
    (positive : ∀ row ∈ svc.itemDetails roleID itemID, 0 < row.goalNum) :
    (∃ after, (TaskProgram.updateTaskDetailStatusByHoldItem roleID itemID).run
        TaskStatement.execute svc = some (after, ()) ∧
      HandsOut (svc.heldUnits roleID itemID) roleID itemID svc after) ↔
      svc.heldUnits roleID itemID < 2 ^ 32 ∨
        svc.wantedUnits roleID itemID ≤ svc.heldUnits roleID itemID % 2 ^ 32 := by
  have counted := recheck_handsOut positive
  rw [TaskProgram.updateTaskDetailStatusByHoldItem_run]
  constructor
  · rintro ⟨after, ran, handed⟩
    cases Option.some.inj ran
    have sums := counted.sum.symm.trans handed.sum
    omega
  · intro fits
    refine ⟨_, rfl, ?_⟩
    rcases fits with small | enough
    · rwa [Nat.mod_eq_of_lt small] at counted
    · have all : svc.wantedUnits roleID itemID ≤ svc.heldUnits roleID itemID :=
        enough.trans (Nat.mod_le _ _)
      refine { counted with shares := ?_, sum := ?_ }
      · rw [counted.shares.eq_of_enough enough]
        exact .of_enough all
      · rw [counted.sum, Nat.min_eq_right enough, Nat.min_eq_right all]

section Examples

/-- Two tasks ask for three and for four pieces of item 40. -/
def asking (nums : List UInt32) : TaskSvc where
  task := KeyedTable.empty
  roleTask := KeyedTable.empty
  roleTaskDetail := (RoleTaskDetails.empty.insert 1 5 ⟨2, 40, 3⟩).insert 1 6 ⟨2, 40, 4⟩
  bag := nums.map fun num => ⟨1, 40, num⟩
  level := fun _ => none

theorem holdItem_handsOut_five :
    ∃ after, (TaskProgram.updateTaskDetailStatusByHoldItem 1 40).run TaskStatement.execute
        (asking [2, 3]) = some (after, ()) ∧
      HandsOut ((asking [2, 3]).heldUnits 1 40) 1 40 (asking [2, 3]) after :=
  (holdItem_handsOut_iff (asking [2, 3]) 1 40 (by decide)).mpr (.inl (by decide))

/-- The counter is empty behind its last number. -/
theorem holdItem_not_handsOut :
    ¬ ∀ (svc : TaskSvc) (roleID itemID : UInt32),
      (∀ row ∈ svc.itemDetails roleID itemID, 0 < row.goalNum) →
        ∃ after, (TaskProgram.updateTaskDetailStatusByHoldItem roleID itemID).run
            TaskStatement.execute svc = some (after, ()) ∧
          HandsOut (svc.heldUnits roleID itemID) roleID itemID svc after := by
  intro all
  have positive : ∀ row ∈ (asking [2147483647, 2147483647, 2]).itemDetails 1 40,
      0 < row.goalNum := by decide
  obtain ⟨after, ran, handed⟩ := all _ 1 40 positive
  rw [TaskProgram.updateTaskDetailStatusByHoldItem_run] at ran
  cases Option.some.inj ran
  have sums := (recheck_handsOut positive).sum.symm.trans handed.sum
  have held : (asking [2147483647, 2147483647, 2]).heldUnits 1 40 = 2 ^ 32 := by decide
  have wanted : (asking [2147483647, 2147483647, 2]).wantedUnits 1 40 = 7 := by decide
  rw [held, wanted] at sums
  revert sums
  decide

end Examples

end TaskSvc

end AppSvr.MainServer
