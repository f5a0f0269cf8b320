/-
This file defines the delegated tasks of one day. Every statement succeeds.
-/

import AppSvr.Construction.BaseServer.TimerManager
import AppSvr.Construction.MainServer.MainSvc

namespace AppSvr.MainServer

/-- The columns of table `Task` that a delegation reads. -/
structure DelegateTask where
  taskType : UInt8
  maxDelegateNum : UInt16
  delegateTime : UInt32
  delegateCost : UInt32
  maxLevel : UInt16
  afterDeliverScript : List UInt8
  deriving DecidableEq, Repr

/-- A row of table `RoleDelegate`. -/
structure RoleDelegate where
  delegateID : UInt32
  roleID : UInt32
  taskID : UInt32
  isFinish : Bool
  begDate : Nat
  begTime : UInt32
  finishNum : Nat
  delegateNum : Nat
  deriving DecidableEq, Repr

/-- The columns of the query about one role and task. -/
structure DelegateInfo where
  delegateID : UInt32
  maxDelegateNum : UInt16
  delegateTime : UInt32
  delegateCost : UInt32
  isStarted : Bool
  finishNum : UInt16
  elapseTime : UInt32
  deriving DecidableEq, Repr

/-- A call of `ExecAfterDeliverScript`. -/
structure DelegateReward where
  roleID : UInt32
  script : List UInt8
  deriving DecidableEq, Repr

/-- `gold` is a column of table `RoleMoney`, `lastDelegateID` the last automatic key, and
`lastTimerID` the counter of the timer wheel. `timers` are the delegations whose timer has not yet
called back, and `rewards` the scripts that were run. -/
structure DelegateSvc where
  today : Nat
  task : UInt32 → Option DelegateTask
  gold : UInt32 → Option Int
  rows : List RoleDelegate
  lastDelegateID : Nat
  lastTimerID : Nat
  timers : List UInt32
  rewards : List DelegateReward

/-- A request finds the level of its role if it is online. -/
structure DelegateRequest where
  roleID : UInt32
  level : Option UInt16
  now : UInt32
  body : Option (UInt32 × UInt16)
  deriving DecidableEq, Repr

namespace DelegateSvc

variable (svc : DelegateSvc) (roleID taskID : UInt32)

/-- Both operations delete the finished delegations of other days. -/
def deleteOld : DelegateSvc :=
  { svc with rows := svc.rows.filter fun row => ¬ (row.begDate ≠ svc.today ∧ row.isFinish) }

/-- The rows of one role and task that have begun today. -/
def todays : List RoleDelegate :=
  svc.rows.filter fun row =>
    row.roleID = roleID ∧ row.taskID = taskID ∧ row.begDate = svc.today

def delegateInfo (task : DelegateTask) (isStarted : Bool) (row : RoleDelegate) : DelegateInfo where
  delegateID := row.delegateID
  maxDelegateNum := task.maxDelegateNum
  delegateTime := task.delegateTime
  delegateCost := task.delegateCost
  isStarted := isStarted
  finishNum := UInt16.ofNat row.finishNum
  elapseTime := row.begTime

/-- The union of the running, the finished and the missing delegations; it asks for the level of
the missing ones only. -/
def selectDelegate (level : UInt16) : List DelegateInfo :=
  match svc.task taskID with
  | none => []
  | some task =>
      if task.taskType ≠ 3 then []
      else
        ((svc.todays roleID taskID).filter fun row => ¬ row.isFinish).map
          (delegateInfo task true) ++
        ((svc.todays roleID taskID).filter RoleDelegate.isFinish).map (delegateInfo task false) ++
        if task.maxLevel ≥ level ∧ svc.todays roleID taskID = [] then
          [⟨0, task.maxDelegateNum, task.delegateTime, task.delegateCost, false, 0, 0⟩]
        else []

/-- The checks of a request end with a return code or with the first row of the query. -/
def delegateChecks (level delegateNum : UInt16) : Except UInt32 DelegateInfo :=
  match (svc.selectDelegate roleID taskID level).head? with
  | none => .error errSystemDbError
  | some info =>
      if info.finishNum.toNat + delegateNum.toNat > info.maxDelegateNum.toNat then .error errAppData
      else
        match svc.gold roleID with
        | none => .error errSystemDbError
        | some gold =>
            if delegateNum.toUInt32 * info.delegateCost > UInt32.ofInt gold then .error errAppData
            else if info.delegateID ≠ 0 ∧ info.isStarted then .error errAppData
            else .ok info

def update (delegateID : UInt32) (change : RoleDelegate → RoleDelegate) : DelegateSvc :=
  { svc with
    rows := svc.rows.map fun row => if row.delegateID = delegateID then change row else row }

def restart (now : UInt32) (delegateNum : UInt16) (row : RoleDelegate) : RoleDelegate :=
  { row with isFinish := false, begTime := now, delegateNum := delegateNum.toNat }

/-- The next automatic key does not pass the last one of its column. -/
def insert (roleID taskID now : UInt32) (delegateNum : UInt16) : Option (UInt32 × DelegateSvc) :=
  if svc.lastDelegateID + 1 < UInt32.size then
    let delegateID := UInt32.ofNat (svc.lastDelegateID + 1)
    some (delegateID, { svc with
      rows := svc.rows ++
        [⟨delegateID, roleID, taskID, false, svc.today, now, 0, delegateNum.toNat⟩]
      lastDelegateID := svc.lastDelegateID + 1 })
  else none

/-- The product is printed as a signed number. -/
def charge (roleID cost : UInt32) : DelegateSvc :=
  { svc with
    gold := Function.update svc.gold roleID
      ((svc.gold roleID).map fun gold => gold - printed cost) }

/-- The interval is a signed parameter, and a timer that is refused is not noticed. -/
def addTimer (delegateID interval : UInt32) : DelegateSvc :=
  if BaseServer.maxTimerNum ≤ svc.lastTimerID ∨ printed interval ≤ 0 then svc
  else { svc with lastTimerID := svc.lastTimerID + 1, timers := svc.timers ++ [delegateID] }

/-- The gold is taken and the timer started after the row is written. -/
def payAndStart (roleID delegateID : UInt32) (delegateNum : UInt16)
    (info : DelegateInfo) : DelegateSvc :=
  (svc.charge roleID (delegateNum.toUInt32 * info.delegateCost)).addTimer delegateID
    (delegateNum.toUInt32 * info.delegateTime)

/-- The row of the day is started again or inserted. -/
def beginDelegate (roleID taskID now : UInt32) (delegateNum : UInt16)
    (info : DelegateInfo) : UInt32 × DelegateSvc :=
  if info.delegateID ≠ 0 then
    (0, (svc.update info.delegateID (restart now delegateNum)).payAndStart roleID info.delegateID
      delegateNum info)
  else
    match svc.insert roleID taskID now delegateNum with
    | none => (errSystemDbError, svc)
    | some (delegateID, next) => (0, next.payAndStart roleID delegateID delegateNum info)

/-- Message 1902 begins a delegation. -/
def processBegRoleDelegate (request : DelegateRequest) : UInt32 × DelegateSvc :=
  match request.body with
  | none => (errSystemSerError, svc)
  | some (taskID, delegateNum) =>
      match request.level with
      | none => (errAppRoleNotExists, svc)
      | some level =>
          match svc.deleteOld.delegateChecks request.roleID taskID level delegateNum with
          | .error retCode => (retCode, svc.deleteOld)
          | .ok info =>
              svc.deleteOld.beginDelegate request.roleID taskID request.now delegateNum info

/-- The row counts the tasks that it was started with. -/
def finish (delegateNum : Nat) (row : RoleDelegate) : RoleDelegate :=
  { row with isFinish := true, finishNum := row.finishNum + delegateNum, delegateNum := 0 }

/-- The query joins the running delegation with its task. -/
def selectRunning (delegateID : UInt32) : Option (RoleDelegate × DelegateTask) :=
  (svc.rows.find? fun row => row.delegateID = delegateID ∧ ¬ row.isFinish).bind fun row =>
    ((svc.task row.taskID).filter fun task => task.taskType = 3).map fun task => (row, task)

/-- The callback of a timer completes a delegation. -/
def onDelegateTimeout (delegateID : UInt32) : DelegateSvc :=
  match svc.selectRunning delegateID with
  | none => svc
  | some (row, task) =>
      { svc.update delegateID (finish row.delegateNum) with
        rewards := svc.rewards ++ [⟨row.roleID, task.afterDeliverScript⟩] : DelegateSvc }.deleteOld

end DelegateSvc

/-- A role sends a request, or the timer of a delegation calls back. -/
inductive DelegateEvent where
  | request (request : DelegateRequest)
  | timeout (delegateID : UInt32)
  deriving DecidableEq, Repr

/-- A timer calls back once. -/
def DelegateSvc.step (svc : DelegateSvc) : DelegateEvent → Option DelegateSvc
  | .request request => some (svc.processBegRoleDelegate request).2
  | .timeout delegateID =>
      if delegateID ∈ svc.timers then
        some ({ svc with timers := svc.timers.erase delegateID }.onDelegateTimeout delegateID)
      else none

end AppSvr.MainServer
