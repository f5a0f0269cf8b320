/-
This file defines the tasks that a client is shown: the list of a role, the tasks that it can
accept and the sign over the head of an NPC. Task names are only shown and are left out. It also
defines the runs of requests, goal events and reported changes of the bags.
-/

import AppSvr.Construction.MainServer.TaskSvc

namespace AppSvr.MainServer

structure TaskDetail extends TaskGoal where
  isFinish : Bool
  finishNum : UInt32
  deriving DecidableEq, Repr

structure TaskInfo where
  taskID : UInt32
  taskType : UInt8
  taskStatus : UInt8
  ltd : List TaskDetail
  deriving DecidableEq, Repr

namespace TaskSvc

section Queries

variable (svc : TaskSvc) (roleID : UInt32) (level : UInt32) (task : Task)

/-- The first part of the union only has a lower bound for the level. -/
def NeverAccepted : Prop :=
  task.minLevel ≤ level ∧
    ¬ ∃ row ∈ svc.roleTask.rows, row.roleID = roleID ∧ row.taskID = task.taskID

instance : Decidable (svc.NeverAccepted roleID level task) := inferInstanceAs (Decidable (_ ∧ _))

/-- The second part of the union joins the delivered rows of the role. -/
def DailyAgain : Prop :=
  task.taskType = taskTypeDaily ∧ task.minLevel ≤ level ∧ level ≤ task.maxLevel ∧
    ∃ row ∈ svc.roleTask.rows, row.roleID = roleID ∧ task.taskID = row.taskID ∧
      row.finishStatus = taskFinishStatusDelivered ∧ row.deliverNum < task.maxAcceptNum

instance : Decidable (svc.DailyAgain roleID level task) := inferInstanceAs (Decidable (_ ∧ _))

/-- No task is in both parts, so the union has nothing to merge. -/
def selectCanAcceptTask : List Task :=
  svc.task.rows.filter (fun task => svc.NeverAccepted roleID level task) ++
    svc.task.rows.filter fun task => svc.DailyAgain roleID level task

/-- The role has a row of the task with this status. -/
def selectFinishStatus (finishStatus : UInt8) : List Task :=
  svc.task.rows.filter fun task =>
    ∃ row ∈ svc.roleTask.rows, row.roleID = roleID ∧ row.finishStatus = finishStatus ∧
      row.taskID = task.taskID

def selectTaskDetail (taskID : UInt32) : List TaskDetail :=
  (svc.roleTaskDetail.rows.filter fun row => row.Named roleID taskID).map fun row =>
    ⟨row.toTaskGoal, row.isFinish, row.finishNum⟩

def taskInfo (taskStatus : UInt8) (task : Task) : TaskInfo :=
  ⟨task.taskID, task.taskType, taskStatus, svc.selectTaskDetail roleID task.taskID⟩

end Queries

variable (scripts : TaskScripts) (svc : TaskSvc) (roleID : UInt32)

def canAcceptTask (level : UInt32) : List Task :=
  (svc.selectCanAcceptTask roleID level).filter fun task =>
    scripts.execCanAcceptScript svc roleID task.canAcceptScript = 0

/-- A role that left is offered nothing. -/
def getRoleCanAcceptTask : List TaskInfo :=
  match svc.level roleID with
  | none => []
  | some level => (svc.canAcceptTask scripts roleID level).map (svc.taskInfo roleID 1)

/-- Message 701 lists the tasks of a role with their details. -/
def processGetRoleTask : Except UInt32 (List TaskInfo) :=
  match svc.level roleID with
  | none => .error errAppRoleNotExists
  | some level =>
      .ok ((svc.canAcceptTask scripts roleID level).map (svc.taskInfo roleID 1) ++
        (svc.selectFinishStatus roleID taskFinishStatusNotFinished).map (svc.taskInfo roleID 2) ++
        (svc.selectFinishStatus roleID taskFinishStatusFinished).map (svc.taskInfo roleID 3))

end TaskSvc

/-- The NPC service runs the scripts in a Lua state of its own. It registers fewer functions, so
a script can fail there alone. -/
structure NpcScripts where
  canAccept : TaskSvc → UInt32 → String → Int

namespace NpcSvc

def execCanAcceptScript (scripts : NpcScripts) (svc : TaskSvc) (roleID : UInt32)
    (script : String) : Int :=
  if script.isEmpty then 0 else scripts.canAccept svc roleID script

/-- A finished task hides an unfinished one, and that one hides a task to accept. -/
def getNpcStatus (scripts : NpcScripts) (svc : TaskSvc) (roleID level npcID : UInt32) : UInt8 :=
  if ∃ task ∈ svc.selectFinishStatus roleID taskFinishStatusFinished, task.exitNpcID = npcID then 3
  else if ∃ task ∈ svc.selectFinishStatus roleID taskFinishStatusNotFinished,
      task.exitNpcID = npcID then 2
  else if ∃ task ∈ svc.selectCanAcceptTask roleID level, task.entryNpcID = npcID ∧
      execCanAcceptScript scripts svc roleID task.canAcceptScript = 0 then 1
  else 0

end NpcSvc

open Programs

/-- The other services report these events. Items are not among them. -/
inductive GoalEvent where
  | onAfterKillMonster (monsterType killNum : UInt32)
  | onUseItem (itemID : UInt32)
  | onRoleDress (itemID : UInt32)
  | onCallPet (petType : UInt32)
  | onRoleLearnSkill
  | onComposeEquip
  | onRoleAddFriend
  | onRoleAddTeam
  deriving DecidableEq, Repr

namespace GoalEvent

def goalType : GoalEvent → UInt8
  | onAfterKillMonster _ _ => 1
  | onUseItem _ => 3
  | onRoleDress _ => 4
  | onCallPet _ => 5
  | onRoleLearnSkill => 6
  | onComposeEquip => 7
  | onRoleAddFriend => 8
  | onRoleAddTeam => 9

def goalID : GoalEvent → UInt32
  | onAfterKillMonster goalID _ | onUseItem goalID | onRoleDress goalID | onCallPet goalID => goalID
  | onRoleLearnSkill | onComposeEquip | onRoleAddFriend | onRoleAddTeam => 0

def inputNum : GoalEvent → UInt32
  | onAfterKillMonster _ killNum => killNum
  | _ => 1

def program (roleID : UInt32) (event : GoalEvent) : TaskProgram Unit :=
  TaskProgram.updateTaskDetailStatusByNum roleID event.goalType event.goalID event.inputNum

theorem goalType_ne_item (event : GoalEvent) : event.goalType ≠ 2 := by
  cases event <;> simp [goalType]

end GoalEvent

/-- A role also comes, leaves and rises to other levels. -/
inductive TaskEvent where
  | request (roleID : UInt32) (request : TaskRequest)
  | goal (roleID : UInt32) (event : GoalEvent)
  | bag (roleID : UInt32) (change : BagChange)
  | level (roleID : UInt32) (level : Option UInt32)
  deriving DecidableEq, Repr

/-- The state of the service and the goals that the last acceptance of a task recorded. -/
structure TaskLog where
  svc : TaskSvc
  recorded : UInt32 → UInt32 → List TaskGoal

namespace TaskLog

def insertedGoals (statements : List TaskStatement) : List TaskGoal :=
  statements.filterMap fun
    | .insertDetail _ _ goal => some goal
    | _ => none

/-- An acceptance is recorded with its goals if it registers the task. -/
def accept (log : TaskLog) (roleID taskID : UInt32) (statements : List TaskStatement) :
    UInt32 → UInt32 → List TaskGoal :=
  if .insertRoleTask roleID taskID ∈ statements ∨ .restartRoleTask roleID taskID ∈ statements then
    fun role task => if role = roleID ∧ task = taskID then insertedGoals statements
      else log.recorded role task
  else log.recorded

/-- Every event is executed completely. -/
def step (scripts : TaskScripts) (log : TaskLog) : TaskEvent → Option TaskLog
  | .request roleID request =>
      ((request.program scripts roleID).run TaskStatement.execute log.svc).map fun ended =>
        ⟨ended.1, match request with
          | .accept taskID => log.accept roleID taskID
              ((request.program scripts roleID).trace TaskStatement.execute log.svc)
          | _ => log.recorded⟩
  | .goal roleID event =>
      ((event.program roleID).run TaskStatement.execute log.svc).map fun ended =>
        { log with svc := ended.1 }
  | .bag roleID change =>
      ((TaskProgram.onBagItemAddOrDelete roleID change).run TaskStatement.execute log.svc).map
        fun ended => { log with svc := ended.1 }
  | .level roleID level =>
      some { log with svc := { log.svc with
        level := fun role => if role = roleID then level else log.svc.level role } }

end TaskLog

end AppSvr.MainServer
