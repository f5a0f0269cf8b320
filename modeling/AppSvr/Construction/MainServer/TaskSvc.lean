/-
This file defines the task messages and the goal events as programs of SQL statements. A statement
is atomic. The scripts of the tasks are parameters, and the notifications only read.
-/

import AppSvr.Construction.OurDef
import AppSvr.ToMathlib.KeyedTable
import AppSvr.ToMathlib.Programs
import Mathlib.Data.List.Dedup

namespace AppSvr.MainServer

open Programs

def taskTypeDaily : UInt8 := 3
def taskFinishStatusNotFinished : UInt8 := 0
def taskFinishStatusFinished : UInt8 := 1
def taskFinishStatusDelivered : UInt8 := 2

/-- A row of table `Task`. -/
structure Task where
  taskID : UInt32
  taskType : UInt8
  minLevel : UInt32
  maxLevel : UInt32
  maxAcceptNum : Nat
  entryNpcID : UInt32
  exitNpcID : UInt32
  canAcceptScript : String
  toDoScript : String
  afterDeliverScript : String
  deriving DecidableEq, Repr

/-- A row of table `RoleTask`. -/
structure RoleTask where
  roleID : UInt32
  taskID : UInt32
  finishStatus : UInt8
  deliverNum : Nat
  deriving DecidableEq, Repr

def RoleTask.key (row : RoleTask) : UInt32 × UInt32 := (row.roleID, row.taskID)

structure TaskGoal where
  goalType : UInt8
  goalID : UInt32
  goalNum : UInt32
  deriving DecidableEq, Repr

/-- A row of table `RoleTaskDetail`. -/
structure RoleTaskDetail extends TaskGoal where
  detailID : Nat
  roleID : UInt32
  taskID : UInt32
  isFinish : Bool
  finishNum : UInt32
  deriving DecidableEq, Repr

/-- The database numbers the rows of table `RoleTaskDetail` upwards. -/
structure RoleTaskDetails where
  rows : List RoleTaskDetail
  lastDetailID : Nat
  sorted : rows.Pairwise fun first second => first.detailID < second.detailID
  bounded : ∀ row ∈ rows, row.detailID ≤ lastDetailID

namespace RoleTaskDetails

def empty : RoleTaskDetails := ⟨[], 0, List.Pairwise.nil, fun _ member => nomatch member⟩

variable (details : RoleTaskDetails)

def insert (roleID taskID : UInt32) (goal : TaskGoal) : RoleTaskDetails where
  rows := details.rows ++ [⟨goal, details.lastDetailID + 1, roleID, taskID, false, 0⟩]
  lastDetailID := details.lastDetailID + 1
  sorted := by
    rw [List.pairwise_append]
    refine ⟨details.sorted, List.pairwise_singleton _ _, ?_⟩
    intro row member added new
    rw [List.mem_singleton.mp new]
    exact Nat.lt_succ_of_le (details.bounded row member)
  bounded := by
    intro row member
    rcases List.mem_append.mp member with old | new
    · exact Nat.le_succ_of_le (details.bounded row old)
    · obtain rfl := List.mem_singleton.mp new
      exact Nat.le_refl _

def keep (matching : RoleTaskDetail → Prop) [DecidablePred matching] : RoleTaskDetails where
  rows := details.rows.filter matching
  lastDetailID := details.lastDetailID
  sorted := details.sorted.sublist List.filter_sublist
  bounded row member := details.bounded row (List.mem_of_mem_filter member)

/-- No statement changes a `DetailID`. -/
def change (f : RoleTaskDetail → RoleTaskDetail)
    (keeps : ∀ row, (f row).detailID = row.detailID) : RoleTaskDetails where
  rows := details.rows.map f
  lastDetailID := details.lastDetailID
  sorted := by
    rw [List.pairwise_map]
    apply details.sorted.imp
    intro first second less
    rw [keeps, keeps]
    exact less
  bounded := by
    intro row member
    obtain ⟨old, stored, rfl⟩ := List.mem_map.mp member
    rw [keeps]
    exact details.bounded old stored

end RoleTaskDetails

/-- The columns of a row of table `Bag` that the tasks read. -/
structure HeldItem where
  roleID : UInt32
  itemID : UInt32
  num : UInt32
  deriving DecidableEq, Repr

/-- The task service reads and writes these tables. `level` is the level of an online role. -/
structure TaskSvc where
  task : KeyedTable Task.taskID
  roleTask : KeyedTable RoleTask.key
  roleTaskDetail : RoleTaskDetails
  bag : List HeldItem
  level : UInt32 → Option UInt32

/-- The new rows of one item in the bag of a role. -/
structure BagChange where
  itemID : UInt32
  nums : List UInt32
  deriving DecidableEq, Repr

/-- A script reads the tables. The to-do script records goals, and the script behind a delivery
gives and takes items; both return a code. -/
structure TaskScripts where
  canAccept : TaskSvc → UInt32 → String → Int
  toDo : TaskSvc → UInt32 → UInt32 → String → List TaskGoal × Int
  afterDeliver : TaskSvc → UInt32 → String → List BagChange

namespace TaskScripts

variable (scripts : TaskScripts) (svc : TaskSvc) (roleID taskID : UInt32) (script : String)

/-- No script is run for an empty text. -/
def execCanAcceptScript : Int := if script.isEmpty then 0 else scripts.canAccept svc roleID script

def execToDoScript : List TaskGoal × Int :=
  if script.isEmpty then ([], 0) else scripts.toDo svc roleID taskID script

def execAfterDeliverScript : List BagChange :=
  if script.isEmpty then [] else scripts.afterDeliver svc roleID script

end TaskScripts

/-- These are the statements and the scripts of the task service with their values. -/
inductive TaskStatement where
  | selectTask (taskID : UInt32)
  | selectRoleTask (roleID taskID : UInt32)
  | insertRoleTask (roleID taskID : UInt32)
  | restartRoleTask (roleID taskID : UInt32)
  | finishRoleTask (roleID taskID : UInt32) (finishStatus : UInt8) (addDeliverNum : Nat)
  | deliverRoleTask (roleID taskID : UInt32)
  | giveUpRoleTask (roleID taskID : UInt32)
  | deleteRoleTask (roleID taskID : UInt32)
  | selectDetails (roleID taskID : UInt32)
  | selectOpenDetails (roleID : UInt32) (goalType : UInt8) (goalID : UInt32)
  | selectItemDetails (roleID itemID : UInt32)
  | insertDetail (roleID taskID : UInt32) (goal : TaskGoal)
  | resetItemDetails (roleID itemID : UInt32)
  | updateDetail (detailID : Nat) (isFinish : Bool) (finishNum : UInt32)
  | updateFinishNum (detailID : Nat) (finishNum : UInt32)
  | deleteDetails (roleID taskID : UInt32)
  | cleanDetails (roleID taskID : UInt32)
  | selectBagItems (roleID : UInt32)
  | selectBagNum (roleID itemID : UInt32)
  | changeBag (roleID : UInt32) (bag : BagChange)
  | canAcceptScript (roleID taskID : UInt32)
  | toDoScript (roleID taskID : UInt32)
  | afterDeliverScript (roleID taskID : UInt32)
  deriving DecidableEq, Repr

namespace RoleTask

/-- The clause `where RoleID = .. and TaskID = ..` selects this row. -/
def Named (roleID taskID : UInt32) (row : RoleTask) : Prop :=
  row.roleID = roleID ∧ row.taskID = taskID

instance (roleID taskID : UInt32) (row : RoleTask) : Decidable (row.Named roleID taskID) :=
  inferInstanceAs (Decidable (_ ∧ _))

def setStatus (roleID taskID : UInt32) (finishStatus : UInt8) (addDeliverNum : Nat)
    (row : RoleTask) : RoleTask :=
  if row.Named roleID taskID then
    { row with finishStatus, deliverNum := row.deliverNum + addDeliverNum }
  else row

theorem setStatus_key (roleID taskID : UInt32) (finishStatus : UInt8) (addDeliverNum : Nat)
    (row : RoleTask) : (row.setStatus roleID taskID finishStatus addDeliverNum).key = row.key := by
  unfold setStatus
  split_ifs <;> rfl

end RoleTask

namespace RoleTaskDetail

def Named (roleID taskID : UInt32) (row : RoleTaskDetail) : Prop :=
  row.roleID = roleID ∧ row.taskID = taskID

instance (roleID taskID : UInt32) (row : RoleTaskDetail) : Decidable (row.Named roleID taskID) :=
  inferInstanceAs (Decidable (_ ∧ _))

variable (detailID : Nat) (roleID itemID : UInt32) (row : RoleTaskDetail)

/-- The goal asks for items of this kind. -/
def Holds : Prop :=
  row.roleID = roleID ∧ row.goalType = 2 ∧ row.goalID = itemID

instance (roleID itemID : UInt32) (row : RoleTaskDetail) : Decidable (row.Holds roleID itemID) :=
  inferInstanceAs (Decidable (_ ∧ _))

/-- The goal is open and counts these events. -/
def Counts (roleID : UInt32) (goalType : UInt8) (goalID : UInt32) (row : RoleTaskDetail) : Prop :=
  row.roleID = roleID ∧ row.goalType = goalType ∧ row.goalID = goalID ∧ row.isFinish = false

instance (roleID : UInt32) (goalType : UInt8) (goalID : UInt32) (row : RoleTaskDetail) :
    Decidable (row.Counts roleID goalType goalID) :=
  inferInstanceAs (Decidable (_ ∧ _))

def reset : RoleTaskDetail :=
  if row.Holds roleID itemID then { row with isFinish := false, finishNum := 0 } else row

theorem reset_detailID : (row.reset roleID itemID).detailID = row.detailID := by
  unfold reset
  split_ifs <;> rfl

def progress (isFinish : Bool) (finishNum : UInt32) (row : RoleTaskDetail) : RoleTaskDetail :=
  if row.detailID = detailID then { row with isFinish, finishNum } else row

theorem progress_detailID (isFinish : Bool) (finishNum : UInt32)
    (row : RoleTaskDetail) : (row.progress detailID isFinish finishNum).detailID = row.detailID := by
  unfold progress
  split_ifs <;> rfl

def count (finishNum : UInt32) (row : RoleTaskDetail) : RoleTaskDetail :=
  if row.detailID = detailID then { row with finishNum } else row

theorem count_detailID (finishNum : UInt32) (row : RoleTaskDetail) :
    (row.count detailID finishNum).detailID = row.detailID := by
  unfold count
  split_ifs <;> rfl

end RoleTaskDetail

namespace TaskSvc

variable (svc : TaskSvc)

/-- The number of an item is added up in thirty-two bits. -/
def bagItemNum (roleID itemID : UInt32) : UInt32 :=
  ((svc.bag.filter fun row => row.roleID = roleID ∧ row.itemID = itemID).map HeldItem.num).foldl
    (· + ·) 0

def changeBag (roleID : UInt32) (bag : BagChange) : TaskSvc :=
  { svc with
    bag := (svc.bag.filter fun row => ¬ (row.roleID = roleID ∧ row.itemID = bag.itemID)) ++
      bag.nums.map fun num => ⟨roleID, bag.itemID, num⟩ }

/-- The statement sets the status of a row and adds to its deliveries. -/
def setFinishStatus (roleID taskID : UInt32) (finishStatus : UInt8)
    (addDeliverNum : Nat) : TaskSvc :=
  { svc with
    roleTask := svc.roleTask.change (RoleTask.setStatus roleID taskID finishStatus addDeliverNum)
      (RoleTask.setStatus_key roleID taskID finishStatus addDeliverNum) }

/-- The result zero stands for a row with another status. It is missing for a role that left. -/
def rowStatus (roleID : UInt32) (task : Task) (row : RoleTask) : Option UInt8 :=
  if row.finishStatus = taskFinishStatusNotFinished then some 2
  else if row.finishStatus = taskFinishStatusFinished then some 3
  else if row.finishStatus = taskFinishStatusDelivered then
    if task.taskType = taskTypeDaily then
      (svc.level roleID).map fun level =>
        if row.deliverNum < task.maxAcceptNum ∧ level ≤ task.maxLevel then 1 else 4
    else some 4
  else some 0

/-- The sub-query of the clean-up compares `RoleID` with the task. -/
def cleanDetails (roleID taskID : UInt32) : TaskSvc :=
  { svc with
    roleTaskDetail := svc.roleTaskDetail.keep fun row =>
      ¬ (row.roleID = roleID ∧ ∀ other ∈ svc.roleTask.rows, other.roleID ≠ taskID) }

end TaskSvc

/-- A statement that fails has no next state. The statements that only read leave the tables. -/
def TaskStatement.execute (statement : TaskStatement) (svc : TaskSvc) : Option TaskSvc :=
  match statement with
  | .insertRoleTask roleID taskID =>
      (svc.roleTask.insert ⟨roleID, taskID, taskFinishStatusNotFinished, 0⟩).map fun roleTask =>
        { svc with roleTask }
  | .restartRoleTask roleID taskID => some (svc.setFinishStatus roleID taskID 0 0)
  | .finishRoleTask roleID taskID finishStatus addDeliverNum =>
      some (svc.setFinishStatus roleID taskID finishStatus addDeliverNum)
  | .deliverRoleTask roleID taskID => some (svc.setFinishStatus roleID taskID 2 1)
  | .giveUpRoleTask roleID taskID => some (svc.setFinishStatus roleID taskID 2 0)
  | .deleteRoleTask roleID taskID =>
      some { svc with roleTask := svc.roleTask.keep fun row => ¬ row.Named roleID taskID }
  | .insertDetail roleID taskID goal =>
      some { svc with roleTaskDetail := svc.roleTaskDetail.insert roleID taskID goal }
  | .resetItemDetails roleID itemID =>
      some { svc with
        roleTaskDetail := svc.roleTaskDetail.change (RoleTaskDetail.reset roleID itemID)
          (RoleTaskDetail.reset_detailID roleID itemID) }
  | .updateDetail detailID isFinish finishNum =>
      some { svc with
        roleTaskDetail := svc.roleTaskDetail.change
          (RoleTaskDetail.progress detailID isFinish finishNum)
          (RoleTaskDetail.progress_detailID detailID isFinish finishNum) }
  | .updateFinishNum detailID finishNum =>
      some { svc with
        roleTaskDetail := svc.roleTaskDetail.change (RoleTaskDetail.count detailID finishNum)
          (RoleTaskDetail.count_detailID detailID finishNum) }
  | .deleteDetails roleID taskID =>
      some { svc with
        roleTaskDetail := svc.roleTaskDetail.keep fun row => ¬ row.Named roleID taskID }
  | .cleanDetails roleID taskID => some (svc.cleanDetails roleID taskID)
  | .changeBag roleID bag => some (svc.changeBag roleID bag)
  | .selectTask _ | .selectRoleTask _ _ | .selectDetails _ _ | .selectOpenDetails _ _ _
  | .selectItemDetails _ _ | .selectBagItems _ | .selectBagNum _ _ | .canAcceptScript _ _
  | .toDoScript _ _ | .afterDeliverScript _ _ => some svc

abbrev TaskProgram := Program TaskStatement TaskSvc

namespace TaskProgram

/-- The result is missing for an unknown task. -/
def getRoleTaskStatus (roleID taskID : UInt32) : TaskProgram (Option UInt8) :=
  .statement (.selectTask taskID) fun svc =>
    match svc.task.find taskID with
    | none => .done none
    | some task =>
        .statement (.selectRoleTask roleID taskID) fun svc =>
          match svc.roleTask.find (roleID, taskID) with
          | none => .done (some 1)
          | some row => .done (svc.rowStatus roleID task row)

/-- A task without an NPC for its delivery is delivered at once. -/
def finishTask (roleID taskID exitNpcID : UInt32) : TaskProgram Unit :=
  .statement (if exitNpcID = 0 then .finishRoleTask roleID taskID 2 1
      else .finishRoleTask roleID taskID 1 0) fun _ =>
    .statement (.selectRoleTask roleID taskID) fun _ => .done ()

/-- The details of an accepted task decide about its status. -/
def updateTaskStatus (roleID taskID : UInt32) : TaskProgram Unit :=
  (getRoleTaskStatus roleID taskID).bind fun
    | none => .done ()
    | some status =>
        if status ≤ 1 ∨ status ≥ 4 then .done ()
        else
          .statement (.selectDetails roleID taskID) fun svc =>
            let hasNoTaskDetail := ∀ row ∈ svc.roleTaskDetail.rows, ¬ row.Named roleID taskID
            .statement (.selectTask taskID) fun svc =>
              match svc.task.find taskID with
              | none => .done ()
              | some task =>
                  if hasNoTaskDetail then finishTask roleID taskID task.exitNpcID
                  else
                    .statement (.selectDetails roleID taskID) fun svc =>
                      if ∀ row ∈ svc.roleTaskDetail.rows, row.Named roleID taskID → row.isFinish then
                        finishTask roleID taskID task.exitNpcID
                      else .statement (.selectRoleTask roleID taskID) fun _ => .done ()

/-- The items go to the details in their order, and the first one that lacks items ends the
loop. -/
def allocate (roleID : UInt32) : UInt32 → List RoleTaskDetail → TaskProgram Unit
  | _, [] => .done ()
  | bagItemNum, detail :: ltd =>
      if bagItemNum < detail.goalNum then
        .statement (.updateDetail detail.detailID false bagItemNum) fun _ => .done ()
      else
        .statement (.updateDetail detail.detailID true detail.goalNum) fun _ =>
          (updateTaskStatus roleID detail.taskID).bind fun _ =>
            allocate roleID (bagItemNum - detail.goalNum) ltd

/-- The details of an item start again from the number in the bag. -/
def updateTaskDetailStatusByHoldItem (roleID itemID : UInt32) : TaskProgram Unit :=
  .statement (.selectItemDetails roleID itemID) fun svc =>
    let ltd := svc.roleTaskDetail.rows.filter fun row => row.Holds roleID itemID
    if ltd = [] then .done ()
    else
      .statement (.resetItemDetails roleID itemID) fun _ =>
        .statement (.selectBagNum roleID itemID) fun svc =>
          if ∀ row ∈ svc.bag, ¬ (row.roleID = roleID ∧ row.itemID = itemID) then .done ()
          else allocate roleID (svc.bagItemNum roleID itemID) ltd

def checkItems (roleID : UInt32) : List UInt32 → TaskProgram Unit
  | [] => .done ()
  | itemID :: lItemID =>
      (updateTaskDetailStatusByHoldItem roleID itemID).bind fun _ => checkItems roleID lItemID

def checkAllItemTypeTaskStatus (roleID : UInt32) : TaskProgram Unit :=
  .statement (.selectBagItems roleID) fun svc =>
    checkItems roleID ((svc.bag.filter fun row => row.roleID = roleID).map HeldItem.itemID).dedup

def countGoals (roleID : UInt32) (inputNum : UInt32) : List RoleTaskDetail → TaskProgram Unit
  | [] => .done ()
  | detail :: rows =>
      if detail.finishNum + inputNum < detail.goalNum then
        .statement (.updateFinishNum detail.detailID (detail.finishNum + inputNum)) fun _ =>
          countGoals roleID inputNum rows
      else
        .statement (.updateDetail detail.detailID true detail.goalNum) fun _ =>
          (updateTaskStatus roleID detail.taskID).bind fun _ => countGoals roleID inputNum rows

/-- The events of kills, uses, dresses, pets, skills, compositions, friends and teams. -/
def updateTaskDetailStatusByNum (roleID : UInt32) (goalType : UInt8) (goalID inputNum : UInt32) :
    TaskProgram Unit :=
  if inputNum = 0 then .done ()
  else
    .statement (.selectOpenDetails roleID goalType goalID) fun svc =>
      countGoals roleID inputNum
        (svc.roleTaskDetail.rows.filter fun row => row.Counts roleID goalType goalID)

/-- A change of the bag is reported at once. -/
def onBagItemAddOrDelete (roleID : UInt32) (bag : BagChange) : TaskProgram Unit :=
  .statement (.changeBag roleID bag) fun _ => updateTaskDetailStatusByHoldItem roleID bag.itemID

def addGoals (roleID taskID : UInt32) : List TaskGoal → TaskProgram Unit
  | [] => .done ()
  | goal :: goals =>
      .statement (.insertDetail roleID taskID goal) fun _ => addGoals roleID taskID goals

def changeItems (roleID : UInt32) : List BagChange → TaskProgram Unit
  | [] => .done ()
  | bag :: rest => (onBagItemAddOrDelete roleID bag).bind fun _ => changeItems roleID rest

variable (scripts : TaskScripts)

/-- The task is registered behind a clean-up of the details and its to-do script. -/
def registerTask (roleID : UInt32) (task : Task) : TaskProgram UInt32 :=
  .statement (.selectRoleTask roleID task.taskID) fun svc =>
    let hasRecord := (svc.roleTask.find (roleID, task.taskID)).isSome
    .statement (.cleanDetails roleID task.taskID) fun _ =>
      .statement (.toDoScript roleID task.taskID) fun svc =>
        let (goals, code) := scripts.execToDoScript svc roleID task.taskID task.toDoScript
        (addGoals roleID task.taskID goals).bind fun _ =>
          if code ≠ 0 then .done errAppOp
          else
            let record : TaskProgram UInt32 :=
              if hasRecord then .statement (.restartRoleTask roleID task.taskID) fun _ => .done 0
              else .statement (.insertRoleTask roleID task.taskID) fun _ => .done 0
            if task.taskType ≠ taskTypeDaily ∧ hasRecord then
              .statement (.deleteRoleTask roleID task.taskID) fun _ => record
            else record

/-- The details and the status are looked at again even without a new record. -/
def recheckTask (roleID taskID : UInt32) : TaskProgram UInt32 :=
  (checkAllItemTypeTaskStatus roleID).bind fun _ =>
    (updateTaskStatus roleID taskID).bind fun _ =>
      (getRoleTaskStatus roleID taskID).bind fun
        | none => .done errAppOp
        | some _ => .done 0

/-- The level and the status of the role are looked at before the script of the task. -/
def checkAcceptTask (roleID taskID : UInt32) : TaskProgram (Except UInt32 Task) :=
  .statement (.selectTask taskID) fun svc =>
    match svc.task.find taskID with
    | none => .done (.error errSystemDbNoRecord)
    | some task =>
        match svc.level roleID with
        | none => .done (.error errAppRoleNotExists)
        | some level =>
            if level < task.minLevel ∨ level > task.maxLevel then .done (.error errAppData)
            else
              (getRoleTaskStatus roleID taskID).bind fun
                | none => .done (.error errAppOp)
                | some status =>
                    if status ≠ 1 then .done (.error errAppData) else .done (.ok task)

/-- Message 703 accepts a task. -/
def processAcceptTask (roleID taskID : UInt32) : TaskProgram UInt32 :=
  (checkAcceptTask roleID taskID).bind fun
    | .error code => .done code
    | .ok task =>
        .statement (.canAcceptScript roleID taskID) fun svc =>
          if scripts.execCanAcceptScript svc roleID task.canAcceptScript = 0 then
            (registerTask scripts roleID task).bind fun code =>
              if code ≠ 0 then .done code else recheckTask roleID taskID
          else recheckTask roleID taskID

/-- Message 704 delivers a task. The script runs behind the change of the tables. -/
def processDeliverTask (roleID taskID npcID : UInt32) : TaskProgram UInt32 :=
  .statement (.selectTask taskID) fun svc =>
    match svc.task.find taskID with
    | none => .done errSystemDbNoRecord
    | some task =>
        if npcID ≠ task.exitNpcID then .done errAppData
        else
          (getRoleTaskStatus roleID taskID).bind fun
            | none => .done errAppOp
            | some status =>
                if status ≠ 3 then .done errAppData
                else
                  .statement (.deleteDetails roleID taskID) fun _ =>
                    .statement (.deliverRoleTask roleID taskID) fun _ =>
                      .statement (.afterDeliverScript roleID taskID) fun svc =>
                        (changeItems roleID (scripts.execAfterDeliverScript svc roleID
                          task.afterDeliverScript)).bind fun _ => .done 0

/-- Message 705 abandons a task. A daily task keeps its row. -/
def processAbandonTask (roleID taskID : UInt32) : TaskProgram UInt32 :=
  (getRoleTaskStatus roleID taskID).bind fun
    | none => .done errAppOp
    | some status =>
        if status ≠ 2 ∧ status ≠ 3 then .done errAppData
        else
          .statement (.selectTask taskID) fun svc =>
            match svc.task.find taskID with
            | none => .done errSystemDbError
            | some task =>
                .statement (.deleteDetails roleID taskID) fun _ =>
                  if task.taskType ≠ taskTypeDaily then
                    .statement (.deleteRoleTask roleID taskID) fun _ => .done 0
                  else .statement (.giveUpRoleTask roleID taskID) fun _ => .done 0

end TaskProgram

/-- The requests of a role for one of its tasks. -/
inductive TaskRequest where
  | accept (taskID : UInt32)
  | deliver (taskID npcID : UInt32)
  | abandon (taskID : UInt32)
  deriving DecidableEq, Repr

namespace TaskRequest

def taskID : TaskRequest → UInt32
  | accept taskID | deliver taskID _ | abandon taskID => taskID

def program (scripts : TaskScripts) (roleID : UInt32) : TaskRequest → TaskProgram UInt32
  | accept taskID => TaskProgram.processAcceptTask scripts roleID taskID
  | deliver taskID npcID => TaskProgram.processDeliverTask scripts roleID taskID npcID
  | abandon taskID => TaskProgram.processAbandonTask roleID taskID

end TaskRequest

end AppSvr.MainServer
