/-
This file computes what the programs of the task service do to its tables when they run alone.
-/

import AppSvr.Construction.MainServer.TaskSvc

namespace AppSvr.MainServer

open Programs

namespace TaskSvc

variable (svc : TaskSvc) (roleID taskID : UInt32)

def status : Option UInt8 :=
  (svc.task.find taskID).bind fun task =>
    match svc.roleTask.find (roleID, taskID) with
    | none => some 1
    | some row => svc.rowStatus roleID task row

/-- The task is accepted and not delivered since. -/
def Accepted : Prop :=
  ∃ row, svc.roleTask.find (roleID, taskID) = some row ∧
    (row.finishStatus = 0 ∨ row.finishStatus = 1)

def AllFinished : Prop :=
  ∀ row ∈ svc.roleTaskDetail.rows, row.Named roleID taskID → row.isFinish

instance (svc : TaskSvc) (roleID taskID : UInt32) : Decidable (svc.AllFinished roleID taskID) :=
  inferInstanceAs (Decidable (∀ row ∈ svc.roleTaskDetail.rows, _))

/-- A finished task waits for its NPC, or it is delivered without one. -/
def finish (roleID taskID exitNpcID : UInt32) : TaskSvc :=
  svc.setFinishStatus roleID taskID (if exitNpcID = 0 then 2 else 1)
    (if exitNpcID = 0 then 1 else 0)

/-- An accepted task whose details are finished is finished. -/
def refresh : TaskSvc :=
  match svc.task.find taskID with
  | none => svc
  | some task =>
      if (svc.status roleID taskID = some 2 ∨ svc.status roleID taskID = some 3) ∧
          svc.AllFinished roleID taskID then
        svc.finish roleID taskID task.exitNpcID
      else svc

/-- A detail gets its status and its number. -/
def progress (svc : TaskSvc) (detailID : Nat) (isFinish : Bool) (finishNum : UInt32) : TaskSvc :=
  { svc with
    roleTaskDetail := svc.roleTaskDetail.change
      (RoleTaskDetail.progress detailID isFinish finishNum)
      (RoleTaskDetail.progress_detailID detailID isFinish finishNum) }

def allocated (svc : TaskSvc) (roleID : UInt32) : UInt32 → List RoleTaskDetail → TaskSvc
  | _, [] => svc
  | bagItemNum, detail :: ltd =>
      if bagItemNum < detail.goalNum then svc.progress detail.detailID false bagItemNum
      else
        ((svc.progress detail.detailID true detail.goalNum).refresh roleID detail.taskID).allocated
          roleID (bagItemNum - detail.goalNum) ltd

def resetItem (roleID itemID : UInt32) : TaskSvc :=
  { svc with
    roleTaskDetail := svc.roleTaskDetail.change (RoleTaskDetail.reset roleID itemID)
      (RoleTaskDetail.reset_detailID roleID itemID) }

def itemDetails (roleID itemID : UInt32) : List RoleTaskDetail :=
  svc.roleTaskDetail.rows.filter fun row => row.Holds roleID itemID

/-- The details of an item start again from the number in the bag. -/
def recheck (roleID itemID : UInt32) : TaskSvc :=
  if svc.itemDetails roleID itemID = [] then svc
  else if ∀ row ∈ svc.bag, ¬ (row.roleID = roleID ∧ row.itemID = itemID) then
    svc.resetItem roleID itemID
  else
    (svc.resetItem roleID itemID).allocated roleID (svc.bagItemNum roleID itemID)
      (svc.itemDetails roleID itemID)

def recheckAll (roleID : UInt32) : TaskSvc :=
  ((svc.bag.filter fun row => row.roleID = roleID).map HeldItem.itemID).dedup.foldl
    (fun svc itemID => svc.recheck roleID itemID) svc

def counted (svc : TaskSvc) (roleID inputNum : UInt32) : List RoleTaskDetail → TaskSvc
  | [] => svc
  | detail :: rows =>
      if detail.finishNum + inputNum < detail.goalNum then
        counted { svc with
          roleTaskDetail := svc.roleTaskDetail.change
            (RoleTaskDetail.count detail.detailID (detail.finishNum + inputNum))
            (RoleTaskDetail.count_detailID _ _) } roleID inputNum rows
      else
        ((svc.progress detail.detailID true detail.goalNum).refresh roleID detail.taskID).counted
          roleID inputNum rows

def goalEvent (roleID : UInt32) (goalType : UInt8) (goalID inputNum : UInt32) : TaskSvc :=
  if inputNum = 0 then svc
  else
    svc.counted roleID inputNum
      (svc.roleTaskDetail.rows.filter fun row => row.Counts roleID goalType goalID)

def bagChanged (roleID : UInt32) (bag : BagChange) : TaskSvc :=
  (svc.changeBag roleID bag).recheck roleID bag.itemID

def itemsChanged (roleID : UInt32) (bags : List BagChange) : TaskSvc :=
  bags.foldl (fun svc bag => svc.bagChanged roleID bag) svc

def goalsAdded (goals : List TaskGoal) : TaskSvc :=
  { svc with
    roleTaskDetail := goals.foldl (fun details goal => details.insert roleID taskID goal)
      svc.roleTaskDetail }

/-- The task gets a new row, or its row starts again. -/
def opened : TaskSvc :=
  if (svc.roleTask.find (roleID, taskID)).isSome then svc.setFinishStatus roleID taskID 0 0
  else { svc with
    roleTask := (svc.roleTask.insert ⟨roleID, taskID, 0, 0⟩).getD svc.roleTask }

/-- The level and the status allow the task. -/
def Acceptable (roleID : UInt32) (task : Task) : Prop :=
  ∃ level, svc.level roleID = some level ∧ task.minLevel ≤ level ∧ level ≤ task.maxLevel ∧
    svc.status roleID task.taskID = some 1

section Scripts

variable (scripts : TaskScripts) (svc : TaskSvc) (roleID : UInt32) (task : Task)

/-- The goals and the code of the to-do script. -/
def toDo : List TaskGoal × Int :=
  scripts.execToDoScript (svc.cleanDetails roleID task.taskID) roleID task.taskID task.toDoScript

def recorded : TaskSvc :=
  (svc.cleanDetails roleID task.taskID).goalsAdded roleID task.taskID
    (svc.toDo scripts roleID task).1

def reviewed (taskID : UInt32) : TaskSvc := (svc.recheckAll roleID).refresh roleID taskID

/-- The details of the task are deleted. -/
def cleared (taskID : UInt32) : TaskSvc :=
  { svc with roleTaskDetail := svc.roleTaskDetail.keep fun row => ¬ row.Named roleID taskID }

def delivered (taskID : UInt32) : TaskSvc :=
  (svc.cleared roleID taskID).setFinishStatus roleID taskID 2 1

/-- The script behind the delivery changes the bag. -/
def rewarded : TaskSvc :=
  (svc.delivered roleID task.taskID).itemsChanged roleID (scripts.execAfterDeliverScript
    (svc.delivered roleID task.taskID) roleID task.afterDeliverScript)

def abandoned : TaskSvc :=
  if task.taskType ≠ 3 then
    { svc.cleared roleID task.taskID with
      roleTask := svc.roleTask.keep fun row => ¬ row.Named roleID task.taskID }
  else (svc.cleared roleID task.taskID).setFinishStatus roleID task.taskID 2 0

end Scripts

section Status

variable {svc : TaskSvc} {roleID taskID : UInt32} {task : Task} {row : RoleTask}

theorem rowStatus_cases (svc : TaskSvc) (roleID : UInt32) (task : Task) (row : RoleTask) :
    row.finishStatus = 0 ∧ svc.rowStatus roleID task row = some 2 ∨
      row.finishStatus = 1 ∧ svc.rowStatus roleID task row = some 3 ∨
      row.finishStatus = 2 ∧ task.taskType = 3 ∧ svc.rowStatus roleID task row =
        (svc.level roleID).map (fun level =>
          if row.deliverNum < task.maxAcceptNum ∧ level ≤ task.maxLevel then 1 else 4) ∨
      row.finishStatus = 2 ∧ task.taskType ≠ 3 ∧ svc.rowStatus roleID task row = some 4 ∨
      (row.finishStatus ≠ 0 ∧ row.finishStatus ≠ 1 ∧ row.finishStatus ≠ 2) ∧
        svc.rowStatus roleID task row = some 0 := by
  unfold rowStatus
  simp only [taskFinishStatusNotFinished, taskFinishStatusFinished, taskFinishStatusDelivered,
    taskTypeDaily]
  by_cases unfinished : row.finishStatus = 0
  · simp [unfinished]
  · by_cases finished : row.finishStatus = 1
    · simp [finished]
    · by_cases delivered : row.finishStatus = 2
      · by_cases daily : task.taskType = 3 <;> simp [delivered, daily]
      · simp [unfinished, finished, delivered]

/-- Only an unfinished or a finished row can be refreshed. -/
theorem status_accepted (found : svc.task.find taskID = some task) :
    (svc.status roleID taskID = some 2 ∨ svc.status roleID taskID = some 3) ↔
      svc.Accepted roleID taskID := by
  unfold status Accepted
  rw [found, Option.bind_some]
  cases svc.roleTask.find (roleID, taskID) with
  | none => simp
  | some row =>
      simp only [Option.some.injEq, exists_eq_left']
      rcases rowStatus_cases svc roleID task row with ⟨unfinished, same⟩ | ⟨finished, same⟩ |
        ⟨delivered, -, same⟩ | ⟨delivered, -, same⟩ | ⟨⟨h0, h1, -⟩, same⟩
      · simp [same, unfinished]
      · simp [same, finished]
      · rw [same, delivered]
        cases svc.level roleID with
        | none => simp
        | some level =>
            rw [Option.map_some]
            split_ifs <;> simp
      · simp [same, delivered]
      · simp [same, h0, h1]

/-- A row of an open task belongs to a daily task. -/
theorem status_eq_one (found : svc.task.find taskID = some task) :
    svc.status roleID taskID = some 1 ↔ svc.roleTask.find (roleID, taskID) = none ∨
      ∃ row level, svc.roleTask.find (roleID, taskID) = some row ∧ svc.level roleID = some level ∧
        task.taskType = 3 ∧ row.finishStatus = 2 ∧ row.deliverNum < task.maxAcceptNum ∧
          level ≤ task.maxLevel := by
  unfold status
  rw [found, Option.bind_some]
  cases svc.roleTask.find (roleID, taskID) with
  | none => simp
  | some row =>
      simp only [Option.some.injEq, exists_and_left, exists_eq_left', reduceCtorEq, false_or]
      rcases rowStatus_cases svc roleID task row with ⟨unfinished, same⟩ | ⟨finished, same⟩ |
        ⟨delivered, daily, same⟩ | ⟨delivered, other, same⟩ | ⟨⟨h0, h1, h2⟩, same⟩
      · simp [same, unfinished]
      · simp [same, finished]
      · rw [same]
        cases svc.level roleID with
        | none => simp
        | some level => simp [delivered, daily]
      · simp [same, other]
      · simp [same, h2]

/-- The task has no row yet, or it is a daily one. -/
theorem Acceptable.open (found : svc.task.find task.taskID = some task)
    (acceptable : svc.Acceptable roleID task) :
    svc.roleTask.find (roleID, task.taskID) = none ∨ task.taskType = 3 := by
  obtain ⟨level, -, -, -, one⟩ := acceptable
  rcases (status_eq_one found).mp one with fresh | ⟨_, _, -, -, daily, -⟩
  · exact Or.inl fresh
  · exact Or.inr daily

theorem status_ne_none {level : UInt32} (found : svc.task.find taskID = some task)
    (online : svc.level roleID = some level) : svc.status roleID taskID ≠ none := by
  unfold status
  rw [found, Option.bind_some]
  cases svc.roleTask.find (roleID, taskID) with
  | none => simp
  | some row =>
      rcases rowStatus_cases svc roleID task row with ⟨-, same⟩ | ⟨-, same⟩ | ⟨-, -, same⟩ |
        ⟨-, -, same⟩ | ⟨-, same⟩ <;> simp [same, online]

theorem status_eq_three (found : svc.task.find taskID = some task) :
    svc.status roleID taskID = some 3 ↔
      ∃ row, svc.roleTask.find (roleID, taskID) = some row ∧ row.finishStatus = 1 := by
  unfold status
  rw [found, Option.bind_some]
  cases svc.roleTask.find (roleID, taskID) with
  | none => simp
  | some row =>
      simp only [Option.some.injEq, exists_eq_left']
      rcases rowStatus_cases svc roleID task row with ⟨unfinished, same⟩ | ⟨finished, same⟩ |
        ⟨delivered, -, same⟩ | ⟨delivered, -, same⟩ | ⟨⟨h0, h1, -⟩, same⟩
      · simp [same, unfinished]
      · simp [same, finished]
      · rw [same, delivered]
        cases svc.level roleID with
        | none => simp
        | some level =>
            rw [Option.map_some]
            split_ifs <;> simp
      · simp [same, delivered]
      · simp [same, h1]

theorem refresh_of_settled
    (settled : ¬ (svc.status roleID taskID = some 2 ∨ svc.status roleID taskID = some 3)) :
    svc.refresh roleID taskID = svc := by
  unfold refresh
  cases svc.task.find taskID with
  | none => rfl
  | some task => exact if_neg fun accepted => settled accepted.1

theorem refresh_of_accepted (found : svc.task.find taskID = some task)
    (accepted : svc.status roleID taskID = some 2 ∨ svc.status roleID taskID = some 3) :
    svc.refresh roleID taskID =
      if svc.AllFinished roleID taskID then svc.finish roleID taskID task.exitNpcID else svc := by
  rw [refresh, found]
  simp [accepted]

end Status

end TaskSvc

/-- These statements only read. -/
def TaskStatement.Reads : TaskStatement → Prop
  | .selectTask _ | .selectRoleTask _ _ | .selectDetails _ _ | .selectOpenDetails _ _ _
  | .selectItemDetails _ _ | .selectBagItems _ | .selectBagNum _ _ => True
  | _ => False

/-- These statements look at the tasks of a role again. -/
def TaskStatement.Rechecks (roleID : UInt32) : TaskStatement → Prop
  | .finishRoleTask other _ _ _ => other = roleID
  | .resetItemDetails other _ => other = roleID
  | .updateDetail _ _ _ | .updateFinishNum _ _ => True
  | .selectTask _ | .selectRoleTask _ _ | .selectDetails _ _ | .selectOpenDetails _ _ _
  | .selectItemDetails _ _ | .selectBagItems _ | .selectBagNum _ _ => True
  | _ => False

theorem TaskStatement.Reads.rechecks {statement : TaskStatement} (reads : statement.Reads)
    (roleID : UInt32) : statement.Rechecks roleID := by
  cases statement <;> first | exact reads | exact reads.elim

namespace TaskProgram

section Only

variable (roleID taskID : UInt32)

theorem getRoleTaskStatus_reads :
    (getRoleTaskStatus roleID taskID).Only TaskStatement.Reads := by
  refine Program.Only.first trivial fun svc => ?_
  cases svc.task.find taskID with
  | none => trivial
  | some task =>
      refine Program.Only.first trivial fun svc => ?_
      cases svc.roleTask.find (roleID, taskID) <;> trivial

theorem getRoleTaskStatus_only :
    (getRoleTaskStatus roleID taskID).Only (TaskStatement.Rechecks roleID) :=
  (getRoleTaskStatus_reads roleID taskID).mono fun _ reads => reads.rechecks roleID

theorem finishTask_only (exitNpcID : UInt32) :
    (finishTask roleID taskID exitNpcID).Only (TaskStatement.Rechecks roleID) := by
  refine ⟨?_, fun _ => ⟨trivial, fun _ => trivial⟩⟩
  split_ifs <;> rfl

theorem updateTaskStatus_only :
    (updateTaskStatus roleID taskID).Only (TaskStatement.Rechecks roleID) := by
  apply (getRoleTaskStatus_only roleID taskID).bind
  intro status
  cases status with
  | none => trivial
  | some status =>
      change Program.Only _ (if status ≤ 1 ∨ status ≥ 4 then _ else _)
      split_ifs
      · trivial
      · refine Program.Only.first trivial fun details => Program.Only.first trivial fun svc => ?_
        cases svc.task.find taskID with
        | none => trivial
        | some task =>
            change Program.Only _ (if ∀ row ∈ details.roleTaskDetail.rows,
              ¬ row.Named roleID taskID then _ else _)
            split_ifs
            · exact finishTask_only roleID taskID task.exitNpcID
            · refine Program.Only.first trivial fun svc => ?_
              split_ifs
              · exact finishTask_only roleID taskID task.exitNpcID
              · exact ⟨trivial, fun _ => trivial⟩

theorem allocate_only (bagItemNum : UInt32) (ltd : List RoleTaskDetail) :
    (allocate roleID bagItemNum ltd).Only (TaskStatement.Rechecks roleID) := by
  induction ltd generalizing bagItemNum with
  | nil => trivial
  | cons detail ltd ih =>
      rw [allocate]
      split_ifs
      · exact ⟨trivial, fun _ => trivial⟩
      · exact ⟨trivial, fun _ => (updateTaskStatus_only roleID detail.taskID).bind fun _ => ih _⟩

theorem updateTaskDetailStatusByHoldItem_only (itemID : UInt32) :
    (updateTaskDetailStatusByHoldItem roleID itemID).Only (TaskStatement.Rechecks roleID) := by
  refine Program.Only.first trivial fun svc => ?_
  change Program.Only _ (if svc.itemDetails roleID itemID = [] then _ else _)
  split_ifs
  · trivial
  · refine Program.Only.first rfl fun _ => Program.Only.first trivial fun svc => ?_
    split_ifs
    · trivial
    · exact allocate_only roleID _ _

theorem checkItems_only (lItemID : List UInt32) :
    (checkItems roleID lItemID).Only (TaskStatement.Rechecks roleID) := by
  induction lItemID with
  | nil => trivial
  | cons itemID lItemID ih =>
      exact (updateTaskDetailStatusByHoldItem_only roleID itemID).bind fun _ => ih

theorem recheckTask_only :
    (recheckTask roleID taskID).Only (TaskStatement.Rechecks roleID) := by
  have items : (checkAllItemTypeTaskStatus roleID).Only (TaskStatement.Rechecks roleID) :=
    ⟨trivial, fun _ => checkItems_only roleID _⟩
  apply items.bind
  intro _
  apply (updateTaskStatus_only roleID taskID).bind
  intro _
  apply (getRoleTaskStatus_only roleID taskID).bind
  intro status
  cases status <;> trivial

theorem checkAcceptTask_reads :
    (checkAcceptTask roleID taskID).Only TaskStatement.Reads := by
  refine Program.Only.first trivial fun svc => ?_
  cases svc.task.find taskID with
  | none => trivial
  | some task =>
      cases svc.level roleID with
      | none => trivial
      | some level =>
          change Program.Only _ (if level < task.minLevel ∨ level > task.maxLevel then _ else _)
          split_ifs
          · trivial
          · apply (getRoleTaskStatus_reads roleID taskID).bind
            intro status
            cases status with
            | none => trivial
            | some status =>
                change Program.Only _ (if status ≠ 1 then _ else _)
                split_ifs <;> trivial

end Only

variable (svc : TaskSvc) (roleID taskID : UInt32)

theorem getRoleTaskStatus_run :
    (getRoleTaskStatus roleID taskID).run TaskStatement.execute svc =
      some (svc, svc.status roleID taskID) := by
  unfold getRoleTaskStatus TaskSvc.status
  rw [Program.run_statement]
  cases svc.task.find taskID with
  | none => rfl
  | some task =>
      change Program.run _ _ svc = _
      rw [Program.run_statement]
      change Program.run _ _ svc = _
      cases svc.roleTask.find (roleID, taskID) with
      | none => rfl
      | some row => rfl

theorem finishTask_run (exitNpcID : UInt32) :
    (finishTask roleID taskID exitNpcID).run TaskStatement.execute svc =
      some (svc.finish roleID taskID exitNpcID, ()) := by
  unfold finishTask TaskSvc.finish
  split_ifs <;> rfl

theorem status_settled (status : UInt8) :
    status ≤ 1 ∨ status ≥ 4 ↔ ¬ (some status = some (2 : UInt8) ∨ some status = some 3) := by
  simp only [Option.some.injEq, UInt8.le_iff_toNat_le, ← UInt8.toNat_inj, ge_iff_le]
  have one : (1 : UInt8).toNat = 1 := rfl
  have two : (2 : UInt8).toNat = 2 := rfl
  have three : (3 : UInt8).toNat = 3 := rfl
  have four : (4 : UInt8).toNat = 4 := rfl
  omega

/-- Without details the status is refreshed as with finished ones. -/
theorem updateTaskStatus_run :
    (updateTaskStatus roleID taskID).run TaskStatement.execute svc =
      some (svc.refresh roleID taskID, ()) := by
  unfold updateTaskStatus
  rw [Program.run_bind, getRoleTaskStatus_run, Option.bind_some]
  cases status : svc.status roleID taskID with
  | none =>
      rw [TaskSvc.refresh_of_settled (by simp [status])]
      rfl
  | some value =>
      by_cases settled : value ≤ 1 ∨ value ≥ 4
      · have kept := (status_settled value).mp settled
        rw [← status] at kept
        simp [settled, TaskSvc.refresh_of_settled kept]
      · have open_ := not_not.mp (mt (status_settled value).mpr settled)
        rw [← status] at open_
        cases found : svc.task.find taskID with
        | none =>
            rw [TaskSvc.status, found] at status
            cases status
        | some task =>
            have same := TaskSvc.refresh_of_accepted found open_
            simp only [settled, if_false, Program.run_statement, TaskStatement.execute,
              Option.bind_some, found, same]
            by_cases empty : ∀ row ∈ svc.roleTaskDetail.rows, ¬ row.Named roleID taskID
            · have finished : svc.AllFinished roleID taskID := fun row member named =>
                absurd named (empty row member)
              rw [if_pos empty, if_pos finished, finishTask_run]
            · rw [if_neg empty, Program.run_statement]
              by_cases finished : svc.AllFinished roleID taskID
              · rw [if_pos finished]
                change Program.run _ (if svc.AllFinished roleID taskID then _ else _) svc = _
                rw [if_pos finished, finishTask_run]
              · rw [if_neg finished]
                change Program.run _ (if svc.AllFinished roleID taskID then _ else _) svc = _
                rw [if_neg finished]
                rfl

theorem updateDetail_execute (detailID : Nat) (isFinish : Bool) (finishNum : UInt32) :
    (TaskStatement.updateDetail detailID isFinish finishNum).execute svc =
      some (svc.progress detailID isFinish finishNum) := rfl

theorem allocate_run (bagItemNum : UInt32) (ltd : List RoleTaskDetail) :
    (allocate roleID bagItemNum ltd).run TaskStatement.execute svc =
      some (svc.allocated roleID bagItemNum ltd, ()) := by
  induction ltd generalizing svc bagItemNum with
  | nil => rfl
  | cons detail ltd ih =>
      rw [allocate, TaskSvc.allocated]
      split_ifs with lacks
      · rfl
      · rw [Program.run_statement, updateDetail_execute, Option.bind_some, Program.run_bind,
          updateTaskStatus_run, Option.bind_some, ih]

theorem updateTaskDetailStatusByHoldItem_run (itemID : UInt32) :
    (updateTaskDetailStatusByHoldItem roleID itemID).run TaskStatement.execute svc =
      some (svc.recheck roleID itemID, ()) := by
  change Program.run _ (if svc.itemDetails roleID itemID = [] then _ else _) svc = _
  rw [TaskSvc.recheck]
  split_ifs with none_ empty
  · rfl
  · change Program.run _ (if ∀ row ∈ svc.bag, ¬ (row.roleID = roleID ∧ row.itemID = itemID)
      then _ else _) (svc.resetItem roleID itemID) = _
    rw [if_pos empty]
    rfl
  · change Program.run _ (if ∀ row ∈ svc.bag, ¬ (row.roleID = roleID ∧ row.itemID = itemID)
      then _ else _) (svc.resetItem roleID itemID) = _
    rw [if_neg empty]
    exact allocate_run (svc.resetItem roleID itemID) roleID _ _

theorem checkItems_run (lItemID : List UInt32) :
    (checkItems roleID lItemID).run TaskStatement.execute svc =
      some (lItemID.foldl (fun svc itemID => svc.recheck roleID itemID) svc, ()) := by
  induction lItemID generalizing svc with
  | nil => rfl
  | cons itemID lItemID ih =>
      rw [checkItems, Program.run_bind, updateTaskDetailStatusByHoldItem_run, Option.bind_some, ih,
        List.foldl_cons]

theorem checkAllItemTypeTaskStatus_run :
    (checkAllItemTypeTaskStatus roleID).run TaskStatement.execute svc =
      some (svc.recheckAll roleID, ()) :=
  checkItems_run svc roleID _

theorem countGoals_run (inputNum : UInt32) (rows : List RoleTaskDetail) :
    (countGoals roleID inputNum rows).run TaskStatement.execute svc =
      some (svc.counted roleID inputNum rows, ()) := by
  induction rows generalizing svc with
  | nil => rfl
  | cons detail rows ih =>
      rw [countGoals, TaskSvc.counted]
      split_ifs with short
      · rw [Program.run_statement]
        exact ih _
      · rw [Program.run_statement, updateDetail_execute, Option.bind_some, Program.run_bind,
          updateTaskStatus_run, Option.bind_some, ih]

theorem updateTaskDetailStatusByNum_run (goalType : UInt8) (goalID inputNum : UInt32) :
    (updateTaskDetailStatusByNum roleID goalType goalID inputNum).run TaskStatement.execute svc =
      some (svc.goalEvent roleID goalType goalID inputNum, ()) := by
  unfold updateTaskDetailStatusByNum TaskSvc.goalEvent
  split_ifs
  · rfl
  · rw [Program.run_statement]
    exact countGoals_run svc roleID inputNum _

theorem onBagItemAddOrDelete_run (bag : BagChange) :
    (onBagItemAddOrDelete roleID bag).run TaskStatement.execute svc =
      some (svc.bagChanged roleID bag, ()) :=
  updateTaskDetailStatusByHoldItem_run (svc.changeBag roleID bag) roleID bag.itemID

theorem changeItems_run (bags : List BagChange) :
    (changeItems roleID bags).run TaskStatement.execute svc =
      some (svc.itemsChanged roleID bags, ()) := by
  induction bags generalizing svc with
  | nil => rfl
  | cons bag bags ih =>
      rw [changeItems, Program.run_bind, onBagItemAddOrDelete_run, Option.bind_some, ih]
      rfl

theorem addGoals_run (goals : List TaskGoal) :
    (addGoals roleID taskID goals).run TaskStatement.execute svc =
      some (svc.goalsAdded roleID taskID goals, ()) := by
  induction goals generalizing svc with
  | nil => rfl
  | cons goal goals ih =>
      rw [addGoals, Program.run_statement]
      exact ih _

/-- No statement of the service changes table `Task` or the level of a role. -/
theorem execute_static {statement : TaskStatement} {before after : TaskSvc}
    (executed : statement.execute before = some after) :
    after.task = before.task ∧ after.level = before.level := by
  cases statement with
  | insertRoleTask roleID taskID =>
      obtain ⟨roleTask, -, rfl⟩ := Option.map_eq_some_iff.mp executed
      exact ⟨rfl, rfl⟩
  | _ =>
      cases executed
      exact ⟨rfl, rfl⟩

theorem run_static {Result : Type} {program : TaskProgram Result} {before after : TaskSvc}
    {result : Result} (ran : program.run TaskStatement.execute before = some (after, result)) :
    after.task = before.task ∧ after.level = before.level := by
  apply program.only_true.run
    (fun before after => after.task = before.task ∧ after.level = before.level)
    (fun _ => ⟨rfl, rfl⟩) _ (fun _ _ => execute_static) ran
  rintro first second third ⟨task1, level1⟩ ⟨task2, level2⟩
  exact ⟨task2.trans task1, level2.trans level1⟩

theorem reviewed_static :
    (svc.reviewed roleID taskID).task = svc.task ∧
      (svc.reviewed roleID taskID).level = svc.level := by
  obtain ⟨task1, level1⟩ := run_static (checkAllItemTypeTaskStatus_run svc roleID)
  obtain ⟨task2, level2⟩ := run_static (updateTaskStatus_run (svc.recheckAll roleID) roleID taskID)
  exact ⟨task2.trans task1, level2.trans level1⟩

theorem recheckTask_run {task : Task} {level : UInt32} (found : svc.task.find taskID = some task)
    (online : svc.level roleID = some level) :
    (recheckTask roleID taskID).run TaskStatement.execute svc =
      some (svc.reviewed roleID taskID, 0) := by
  rw [recheckTask, Program.run_bind, checkAllItemTypeTaskStatus_run, Option.bind_some,
    Program.run_bind, updateTaskStatus_run, Option.bind_some, Program.run_bind,
    getRoleTaskStatus_run, Option.bind_some]
  obtain ⟨tasks, levels⟩ := reviewed_static svc roleID taskID
  have known : (svc.reviewed roleID taskID).status roleID taskID ≠ none := by
    apply TaskSvc.status_ne_none
    · rw [tasks]
      exact found
    · rw [levels]
      exact online
  obtain ⟨status, same⟩ := Option.ne_none_iff_exists'.mp known
  rw [TaskSvc.reviewed] at same ⊢
  rw [same]
  rfl

/-- An online role is refused by the level and by the status with the same code. -/
theorem checkAcceptTask_online {task : Task} {level : UInt32}
    (found : svc.task.find taskID = some task) (online : svc.level roleID = some level) :
    (checkAcceptTask roleID taskID).run TaskStatement.execute svc =
      some (svc, if level < task.minLevel ∨ level > task.maxLevel ∨
          svc.status roleID taskID ≠ some 1 then .error errAppData else .ok task) := by
  rw [checkAcceptTask, Program.run_statement]
  change Program.run _ (match svc.task.find taskID with
    | none => _
    | some task => _) svc = _
  simp only [found, online]
  by_cases bounds : level < task.minLevel ∨ level > task.maxLevel
  · rw [if_pos bounds, if_pos (bounds.elim Or.inl fun above => Or.inr (Or.inl above))]
    rfl
  · rw [if_neg bounds, Program.run_bind, getRoleTaskStatus_run, Option.bind_some]
    rw [not_or] at bounds
    cases status : svc.status roleID taskID with
    | none => exact absurd status (TaskSvc.status_ne_none found online)
    | some value => by_cases open_ : value = 1 <;> simp_all

theorem checkAcceptTask_run :
    (∃ task, svc.task.find taskID = some task ∧ svc.Acceptable roleID task ∧
      (checkAcceptTask roleID taskID).run TaskStatement.execute svc = some (svc, .ok task)) ∨
    (∀ task, svc.task.find taskID = some task → ¬ svc.Acceptable roleID task) ∧ ∃ code, code ≠ 0 ∧
      (checkAcceptTask roleID taskID).run TaskStatement.execute svc = some (svc, .error code) := by
  cases found : svc.task.find taskID with
  | none =>
      right
      refine ⟨?_, errSystemDbNoRecord, by decide, ?_⟩
      · intro task stored
        cases stored
      · rw [checkAcceptTask, Program.run_statement]
        simp [TaskStatement.execute, found]
  | some task =>
      have same := KeyedTable.find_key found
      cases online : svc.level roleID with
      | none =>
          right
          refine ⟨?_, errAppRoleNotExists, by decide, ?_⟩
          · rintro _ ⟨⟩ ⟨level, present, -⟩
            rw [online] at present
            cases present
          · rw [checkAcceptTask, Program.run_statement]
            simp [TaskStatement.execute, found, online]
      | some level =>
          have ran := checkAcceptTask_online svc roleID taskID found online
          by_cases refused : level < task.minLevel ∨ level > task.maxLevel ∨
            svc.status roleID taskID ≠ some 1
          · rw [if_pos refused] at ran
            right
            refine ⟨?_, errAppData, by decide, ran⟩
            rintro _ ⟨⟩ ⟨_, present, low, high, one⟩
            rw [online] at present
            cases present
            rw [same] at one
            rcases refused with below | above | closed
            · exact absurd below (UInt32.not_lt.mpr low)
            · exact absurd above (UInt32.not_lt.mpr high)
            · exact closed one
          · rw [if_neg refused] at ran
            left
            simp only [not_or, gt_iff_lt, UInt32.not_lt, not_not] at refused
            refine ⟨task, rfl, ⟨level, online, refused.1, refused.2.1, ?_⟩, ran⟩
            rw [same]
            exact refused.2.2

section Accept

variable (scripts : TaskScripts) {task : Task}

/-- A role without a row gets one, and a daily task starts again. -/
theorem registerTask_run
    (open_ : svc.roleTask.find (roleID, task.taskID) = none ∨ task.taskType = 3) :
    (registerTask scripts roleID task).run TaskStatement.execute svc =
      if (svc.toDo scripts roleID task).2 ≠ 0 then
        some (svc.recorded scripts roleID task, errAppOp)
      else some ((svc.recorded scripts roleID task).opened roleID task.taskID, 0) := by
  change Program.run _ ((addGoals roleID task.taskID (svc.toDo scripts roleID task).1).bind _)
    (svc.cleanDetails roleID task.taskID) = _
  rw [Program.run_bind, addGoals_run, Option.bind_some]
  change Program.run _ (if (svc.toDo scripts roleID task).2 ≠ 0 then _ else _)
    (svc.recorded scripts roleID task) = _
  by_cases failed : (svc.toDo scripts roleID task).2 ≠ 0
  · rw [if_pos failed, if_pos failed]
    rfl
  · have stays : ¬ (task.taskType ≠ taskTypeDaily ∧
        (svc.roleTask.find (roleID, task.taskID)).isSome) := by
      rintro ⟨other, again⟩
      rcases open_ with fresh | daily
      · rw [fresh] at again
        cases again
      · exact other daily
    rw [if_neg failed, if_neg failed]
    change Program.run _ (if _ then _ else _) (svc.recorded scripts roleID task) = _
    rw [if_neg stays]
    have rows : (svc.recorded scripts roleID task).roleTask = svc.roleTask := rfl
    unfold TaskSvc.opened
    rw [rows]
    by_cases again : (svc.roleTask.find (roleID, task.taskID)).isSome
    · rw [if_pos again, if_pos again]
      rfl
    · rw [if_neg again, if_neg again]
      have fresh := Option.not_isSome_iff_eq_none.mp again
      obtain ⟨next, inserted⟩ : ∃ next, svc.roleTask.insert ⟨roleID, task.taskID, 0, 0⟩ = some next :=
        KeyedTable.insert_isSome fresh
      simp [TaskStatement.execute, rows, taskFinishStatusNotFinished, inserted]

theorem recorded_static (task : Task) :
    ((svc.recorded scripts roleID task).opened roleID task.taskID).task = svc.task ∧
      ((svc.recorded scripts roleID task).opened roleID task.taskID).level = svc.level := by
  unfold TaskSvc.opened
  split_ifs <;> exact ⟨rfl, rfl⟩

/-- A script that refuses the task does not change the answer. -/
theorem processAcceptTask_run (found : svc.task.find taskID = some task)
    (acceptable : svc.Acceptable roleID task) :
    (processAcceptTask scripts roleID taskID).run TaskStatement.execute svc =
      if scripts.execCanAcceptScript svc roleID task.canAcceptScript ≠ 0 then
        some (svc.reviewed roleID taskID, 0)
      else if (svc.toDo scripts roleID task).2 ≠ 0 then
        some (svc.recorded scripts roleID task, errAppOp)
      else some (((svc.recorded scripts roleID task).opened roleID taskID).reviewed roleID taskID,
        0) := by
  obtain rfl := KeyedTable.find_key found
  have open_ := acceptable.open found
  obtain ⟨level, online, low, high, one⟩ := acceptable
  have checked : ¬ (level < task.minLevel ∨ level > task.maxLevel ∨
      svc.status roleID task.taskID ≠ some 1) := by
    simp [low, high, one]
  rw [processAcceptTask, Program.run_bind, checkAcceptTask_online svc roleID _ found online,
    if_neg checked, Option.bind_some]
  change Program.run _ (if scripts.execCanAcceptScript svc roleID task.canAcceptScript = 0
    then _ else _) svc = _
  by_cases refused : scripts.execCanAcceptScript svc roleID task.canAcceptScript = 0
  · rw [if_pos refused, if_neg (not_not.mpr refused), Program.run_bind,
      registerTask_run svc roleID scripts open_]
    split_ifs with failed
    · rfl
    · obtain ⟨tasks, levels⟩ := recorded_static svc roleID scripts task
      rw [Option.bind_some]
      apply recheckTask_run
      · rw [tasks]
        exact found
      · rw [levels]
        exact online
  · rw [if_neg refused, if_pos refused, recheckTask_run svc roleID _ found online]

/-- Without the checks of an acceptance nothing happens. -/
theorem processAcceptTask_refused
    (refused : ∀ task, svc.task.find taskID = some task → ¬ svc.Acceptable roleID task) :
    (∃ code, code ≠ 0 ∧ (processAcceptTask scripts roleID taskID).run TaskStatement.execute svc =
      some (svc, code)) ∧
    ∀ statement ∈ (processAcceptTask scripts roleID taskID).trace TaskStatement.execute svc,
      statement.Reads := by
  rcases checkAcceptTask_run svc roleID taskID with ⟨task, found, acceptable, -⟩ |
    ⟨-, code, nonzero, ran⟩
  · exact absurd acceptable (refused task found)
  · constructor
    · refine ⟨code, nonzero, ?_⟩
      rw [processAcceptTask, Program.run_bind, ran]
      rfl
    · rw [processAcceptTask, Program.trace_bind ran, Program.trace_done, List.append_nil]
      exact (checkAcceptTask_reads roleID taskID).trace svc

theorem processDeliverTask_run (npcID : UInt32) (found : svc.task.find taskID = some task)
    (npc : npcID = task.exitNpcID) (three : svc.status roleID taskID = some 3) :
    (processDeliverTask scripts roleID taskID npcID).run TaskStatement.execute svc =
      some (svc.rewarded scripts roleID task, 0) := by
  obtain rfl := KeyedTable.find_key found
  rw [processDeliverTask, Program.run_statement]
  change Program.run _ (match svc.task.find task.taskID with
    | none => _
    | some task => _) svc = _
  simp only [found]
  rw [if_neg (not_not.mpr npc), Program.run_bind, getRoleTaskStatus_run, Option.bind_some, three]
  change Program.run _ ((changeItems roleID (scripts.execAfterDeliverScript
    (svc.delivered roleID task.taskID) roleID task.afterDeliverScript)).bind _)
    (svc.delivered roleID task.taskID) = _
  rw [Program.run_bind, changeItems_run]
  rfl

theorem processDeliverTask_refused (npcID : UInt32)
    (refused : ∀ task, svc.task.find taskID = some task →
      ¬ (npcID = task.exitNpcID ∧ svc.status roleID taskID = some 3)) :
    (∃ code, code ≠ 0 ∧
      (processDeliverTask scripts roleID taskID npcID).run TaskStatement.execute svc =
        some (svc, code)) ∧
    ∀ statement ∈ (processDeliverTask scripts roleID taskID npcID).trace
      TaskStatement.execute svc, statement.Reads := by
  rw [processDeliverTask, Program.run_statement, Program.trace_statement rfl,
    List.forall_mem_cons]
  change (∃ code : UInt32, code ≠ 0 ∧ Program.run _ (match svc.task.find taskID with
    | none => _
    | some task => _) svc = _) ∧ _ ∧ ∀ statement : TaskStatement, statement ∈ Program.trace _
      (match svc.task.find taskID with
        | none => _
        | some task => _) svc → _
  cases found : svc.task.find taskID with
  | none => exact ⟨⟨errSystemDbNoRecord, by decide, rfl⟩, trivial, fun _ member => nomatch member⟩
  | some task =>
      by_cases npc : npcID = task.exitNpcID
      · have other := fun three => refused task found ⟨npc, three⟩
        have reads : ∀ statement ∈ (getRoleTaskStatus roleID taskID).trace
          TaskStatement.execute svc, statement.Reads :=
            (getRoleTaskStatus_reads roleID taskID).trace svc
        simp only [if_neg (not_not.mpr npc), Program.run_bind, getRoleTaskStatus_run,
          Option.bind_some, Program.trace_bind (getRoleTaskStatus_run svc roleID taskID)]
        cases status : svc.status roleID taskID with
        | none => exact ⟨⟨errAppOp, by decide, rfl⟩, trivial, by simpa using reads⟩
        | some value =>
            have differs : value ≠ 3 := by
              rintro rfl
              exact other status
            refine ⟨⟨errAppData, by decide, ?_⟩, trivial, ?_⟩
            · simp [differs]
            · simpa [differs] using reads
      · refine ⟨⟨errAppData, by decide, ?_⟩, trivial, ?_⟩
        · simp [npc]
        · simp [npc]

end Accept

theorem processAbandonTask_run {task : Task} (found : svc.task.find taskID = some task)
    (accepted : svc.Accepted roleID taskID) :
    (processAbandonTask roleID taskID).run TaskStatement.execute svc =
      some (svc.abandoned roleID task, 0) := by
  have status := (TaskSvc.status_accepted found).mpr accepted
  obtain rfl := KeyedTable.find_key found
  obtain ⟨value, same, passes⟩ : ∃ value, svc.status roleID task.taskID = some value ∧
      ¬ (value ≠ 2 ∧ value ≠ 3) := by
    rcases status with two | three
    · exact ⟨2, two, fun both => both.1 rfl⟩
    · exact ⟨3, three, fun both => both.2 rfl⟩
  rw [processAbandonTask, Program.run_bind, getRoleTaskStatus_run, Option.bind_some, same]
  change Program.run _ (if value ≠ 2 ∧ value ≠ 3 then _ else _) svc = _
  rw [if_neg passes, Program.run_statement]
  change Program.run _ (match svc.task.find task.taskID with
    | none => _
    | some task => _) svc = _
  simp only [found]
  unfold TaskSvc.abandoned
  by_cases other : task.taskType ≠ 3
  · rw [if_pos other]
    change Program.run _ (if task.taskType ≠ 3 then _ else _) _ = _
    rw [if_pos other]
    rfl
  · rw [if_neg other]
    change Program.run _ (if task.taskType ≠ 3 then _ else _) _ = _
    rw [if_neg other]
    rfl

theorem processAbandonTask_refused
    (refused : ¬ ((svc.task.find taskID).isSome ∧ svc.Accepted roleID taskID)) :
    ∃ code, code ≠ 0 ∧ (processAbandonTask roleID taskID).run TaskStatement.execute svc =
      some (svc, code) := by
  rw [processAbandonTask, Program.run_bind, getRoleTaskStatus_run, Option.bind_some]
  cases status : svc.status roleID taskID with
  | none => exact ⟨errAppOp, by decide, rfl⟩
  | some value =>
      cases found : svc.task.find taskID with
      | none =>
          rw [TaskSvc.status, found] at status
          cases status
      | some task =>
          have other : ¬ svc.Accepted roleID taskID := fun accepted =>
            refused ⟨by rw [found]; rfl, accepted⟩
          rw [← TaskSvc.status_accepted found, status, not_or] at other
          refine ⟨errAppData, by decide, ?_⟩
          have stops : value ≠ 2 ∧ value ≠ 3 := by simpa using other
          simp [stops]

end TaskProgram

end AppSvr.MainServer
