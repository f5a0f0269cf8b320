/-
This file defines the cost and the gain of a minute of training, the forecast for some hours, the
billing of a role that is online, and the offline training of one role. The role has its row in
`RoleMoney`, every statement succeeds, and a number with a fraction is printed as it is.
-/

import AppSvr.Construction.MainServer.PKRewards
import AppSvr.Construction.MainServer.RoleExp

namespace AppSvr.MainServer
open PkServer (toInt)

/-- `LevelDesc.MaxExp` and `ExpDescOfflineUpdate.ExpPerMinute` have at most one row for a level.
`round` is the rounding of the arithmetic. -/
structure TrainingTables where
  maxExp : Int → Option Int
  expPerMinute : Int → Option Int
  round : ℚ → ℚ

/-- What `CalcCostPerMinite` returns. -/
structure MinuteGain where
  cost : ℚ
  addExp : UInt32
  finalLevel : UInt32
  finalExp : UInt32
  deriving DecidableEq, Repr

/-- The variables of the loop of a forecast. -/
structure Forecast where
  currLevel : UInt32
  currExp : UInt32
  expSum : UInt32
  costSum : ℚ
  desLevel : UInt32
  deriving DecidableEq, Repr

/-- The role in memory and the sums of its billings. -/
structure Training where
  attr : AttrGeneral
  expSum : UInt32
  costSum : ℚ
  deriving DecidableEq, Repr

namespace TrainingTables

variable (tables : TrainingTables)

/-- Both loops read the column into an unsigned variable. -/
def maximum (level : UInt32) : Option UInt32 :=
  (tables.maxExp (printed level)).map UInt32.ofInt

/-- The role reads the same table. -/
def levelDesc (level : Int) : List Int := (tables.maxExp level).toList

/-- This is `VipExtraExp`. -/
def vipExtraExp (vip : UInt8) (tmpExp : UInt32) : UInt32 :=
  let factor : ℚ :=
    if vip = 1 then 12 / 10 else if vip = 2 then 13 / 10 else if vip = 3 then 14 / 10 else 15 / 10
  UInt32.ofInt (toInt (tables.round (tables.round factor * tmpExp.toNat)))

/-- A level ends when its maximum is reached. Nothing is returned for a missing level, and when the
fuel ends. -/
def levelLoop : Nat → UInt32 → UInt32 → Option (UInt32 × UInt32)
  | 0, _, _ => none
  | fuel + 1, currLevl, retFinalExp =>
      (tables.maximum currLevl).bind fun maxExp =>
        if retFinalExp < maxExp then some (currLevl, retFinalExp)
        else levelLoop fuel (currLevl + 1) (retFinalExp - maxExp)

/-- The gain of a minute. -/
def addExp (vip : UInt8) (level : UInt32) : Option UInt32 :=
  (tables.expPerMinute (printed level)).map fun exp =>
    if 1 ≤ vip ∧ vip ≤ 6 then tables.vipExtraExp vip (UInt32.ofInt exp) else UInt32.ofInt exp

/-- The price of a minute in silver. -/
def minuteCost (level : UInt32) : ℚ :=
  tables.round (tables.round ((level * level).toNat / 1000) * 5)

def calcCostPerMinite (fuel : Nat) (vip : UInt8) (inputLevel inputExp : UInt32) :
    Option MinuteGain :=
  (tables.addExp vip inputLevel).bind fun addExp =>
    (tables.levelLoop fuel inputLevel (inputExp + addExp)).map fun final =>
      ⟨tables.minuteCost inputLevel, addExp, final.1, final.2⟩

def forecastMinute (fuel : Nat) (vip : UInt8) (sums : Forecast) : Option Forecast :=
  (tables.calcCostPerMinite fuel vip sums.currLevel sums.currExp).map fun minute =>
    { currLevel := minute.finalLevel
      currExp := minute.finalExp
      expSum := sums.expSum + minute.addExp
      costSum := tables.round (sums.costSum + minute.cost)
      desLevel := minute.finalLevel }

def forecastMinutes (fuel : Nat) (vip : UInt8) (start : Forecast) : Nat → Option Forecast
  | 0 => some start
  | minutes + 1 => (forecastMinutes fuel vip start minutes).bind (tables.forecastMinute fuel vip)

/-- No minute leaves the variable `desLevel` of the caller as it was. -/
def calcCostAndGainsBySilver (fuel : Nat) (vip : UInt8) (attr : AttrGeneral) (hangType : UInt8)
    (desLevel : UInt32) : Option (ℚ × UInt32 × UInt32) :=
  (tables.forecastMinutes fuel vip ⟨attr.level, attr.exp, 0, 0, desLevel⟩
    (60 * hangType.toNat)).map fun sums => (sums.costSum, sums.expSum, sums.desLevel)

/-- A billing computes one minute and grants its experience. -/
def billMinute (fuel : Nat) (vip : UInt8) (training : Training) : Option Training :=
  (tables.calcCostPerMinite fuel vip training.attr.level training.attr.exp).bind fun minute =>
    (training.attr.roleExpAdd tables.levelDesc fuel minute.addExp.toInt32).map fun result =>
      { attr := result.2
        expSum := training.expSum + minute.addExp
        costSum := tables.round (training.costSum + minute.cost) }

def billMinutes (fuel : Nat) (vip : UInt8) (attr : AttrGeneral) : Nat → Option Training
  | 0 => some ⟨attr, 0, 0⟩
  | minutes + 1 => (billMinutes fuel vip attr minutes).bind (tables.billMinute fuel vip)

end TrainingTables

def errRoleLevelNotEnough : UInt32 := 2001
def errRoleNoMoney : UInt32 := 2002

/-- A row of table `OffLineUpdate`. -/
structure OffLineUpdateItem where
  updateID : Nat
  begDate : Nat
  isFinish : Bool
  moneyType : UInt8
  lockMoney : Int
  begTime : Int
  desSec : Int
  desNum : Int
  billedNum : Int
  billedMoney : ℚ
  finishedSec : Int
  speedUpSec : Int
  deriving DecidableEq, Repr

/-- A role in memory. -/
structure TrainedRole where
  attr : AttrGeneral
  vip : UInt8
  isOfflineUpdate : Bool
  deriving DecidableEq, Repr

/-- The row of the role in table `Role`. -/
structure StoredRole where
  columns : RoleRow
  vip : UInt8
  isOfflineUpdate : Bool
  deriving DecidableEq, Repr

def TrainedRole.cache2DB (role : TrainedRole) : StoredRole :=
  ⟨role.attr.cache2DB, role.vip, role.isOfflineUpdate⟩

def StoredRole.db2Cache (row : StoredRole) : TrainedRole :=
  ⟨row.columns.db2Cache, row.vip, row.isOfflineUpdate⟩

/-- Three operations bill minutes. -/
inductive BillKind where
  | minute
  | stop
  | login
  deriving DecidableEq, Repr

/-- An operation bills one minute for every level, and grants the experience. -/
structure Bill where
  updateID : Nat
  kind : BillKind
  moneyType : UInt8
  vip : UInt8
  levels : List UInt32
  exp : UInt32
  cost : ℚ
  deriving DecidableEq, Repr

/-- The deposit of a training is forecast for these levels. -/
structure Deposit where
  updateID : Nat
  moneyType : UInt8
  levels : List UInt32
  lockMoney : UInt32
  deriving DecidableEq, Repr

/-- `stored` is the role in the database and `cached` the role in a map. `bills` and `deposits` record
what the operations wrote. -/
structure OffLineUpdateSvc where
  now : UInt32
  today : Nat
  stored : StoredRole
  cached : Option TrainedRole
  money : Int
  bindMoney : Int
  gold : Int
  rows : List OffLineUpdateItem
  lastUpdateID : Nat
  bills : List Bill
  deposits : List Deposit
  deriving DecidableEq, Repr

/-- A missing value ends a request with a code. -/
def expect {Value : Type} (code : UInt32) (value : Option Value) : Except UInt32 Value :=
  value.elim (.error code) .ok

/-- The levels of the minutes of a forecast. -/
def TrainingTables.minuteLevels (tables : TrainingTables) (fuel : Nat) (vip : UInt8)
    (start : Forecast) : Nat → List UInt32
  | 0 => []
  | minutes + 1 => minuteLevels tables fuel vip start minutes ++
      ((tables.forecastMinutes fuel vip start minutes).map Forecast.currLevel).toList

/-- The elapsed time ends with the training and contains what was finished. -/
def clampElapse (elapse desSec speedupSec finishSec : UInt32) : UInt32 :=
  let elapse := if desSec - speedupSec < elapse then desSec - speedupSec else elapse
  if elapse < finishSec then finishSec else elapse

/-- The seconds that are left to bill are signed, and a part of a minute counts. -/
def billNumOf (elapse finishSec : UInt32) : UInt32 :=
  let sec2Bill := printed (elapse - finishSec)
  UInt32.ofInt (sec2Bill.tdiv 60) + if sec2Bill.tmod 60 = 0 then 0 else 1

namespace OffLineUpdateSvc

variable (svc : OffLineUpdateSvc)

/-- The switch of the role in memory counts while the role is in a map. -/
def switchOn : Bool :=
  (svc.cached.map TrainedRole.isOfflineUpdate).getD svc.stored.isOfflineUpdate

def todays : List OffLineUpdateItem :=
  svc.rows.filter fun row => row.begDate = svc.today

def selectUnfinished : Option OffLineUpdateItem :=
  svc.rows.find? fun row => !row.isFinish

def update (selects : OffLineUpdateItem → Bool)
    (change : OffLineUpdateItem → OffLineUpdateItem) : OffLineUpdateSvc :=
  { svc with rows := svc.rows.map fun row => if selects row then change row else row }

/-- The other requests need a role that is in a map and in training. -/
def trainingRole : Except UInt32 TrainedRole :=
  (expect errAppOp svc.cached).bind fun role =>
    if role.isOfflineUpdate then .ok role else .error errAppData

section Begin

variable (svc : OffLineUpdateSvc)

/-- The last row of the day tells whether the role is in training. -/
def resetSwitch : OffLineUpdateSvc :=
  if (svc.todays.getLast?.map OffLineUpdateItem.isFinish).getD true then
    { svc with cached := svc.cached.map fun role => { role with isOfflineUpdate := false } }
  else svc

def totalTime (hangType : UInt8) : UInt32 :=
  UInt32.ofInt (svc.todays.map OffLineUpdateItem.finishedSec).sum +
    UInt32.ofInt (svc.todays.map OffLineUpdateItem.speedUpSec).sum + hangType.toUInt32 * 3600

def deleteOtherDays : OffLineUpdateSvc := { svc with rows := svc.todays }

def ifHasSoMoney (cost : UInt32) (moneyType : UInt8) : Prop :=
  if moneyType = 1 then cost ≤ UInt32.ofInt svc.money + UInt32.ofInt svc.bindMoney
  else cost ≤ UInt32.ofInt svc.gold

instance (svc : OffLineUpdateSvc) (cost : UInt32) (moneyType : UInt8) :
    Decidable (svc.ifHasSoMoney cost moneyType) := by
  unfold ifHasSoMoney
  infer_instance

variable (tables : TrainingTables) (fuel : Nat)

/-- The price of the forecast is rounded up. -/
def depositOf (moneyType : UInt8) (costSum : ℚ) : Except UInt32 UInt32 :=
  if moneyType = 1 then .ok (UInt32.ofInt (toInt costSum.ceil))
  else if moneyType = 2 then
    .ok (UInt32.ofInt (toInt (tables.round (tables.round (costSum / 300) * 2)).ceil))
  else .error errAppData

/-- The forecast and the money of the role give the deposit. -/
def beginDeposit (svc : OffLineUpdateSvc) (role : TrainedRole) (hangType moneyType : UInt8) :
    Except UInt32 UInt32 :=
  (expect errAppOp
    (tables.calcCostAndGainsBySilver fuel role.vip role.attr hangType 0)).bind fun sums =>
      (depositOf tables moneyType sums.1).bind fun cost =>
        if svc.ifHasSoMoney cost moneyType then .ok cost else .error errRoleNoMoney

/-- Bound silver is taken first. -/
def takeoffMoney (svc : OffLineUpdateSvc) (cost : UInt32) (moneyType : UInt8) : OffLineUpdateSvc :=
  if moneyType = 1 then
    let decreaseMoney := printed (UInt32.ofInt svc.bindMoney - cost)
    if cost ≤ UInt32.ofInt svc.bindMoney then { svc with bindMoney := decreaseMoney }
    else { svc with bindMoney := 0, money := svc.money + decreaseMoney }
  else { svc with gold := svc.gold - printed cost }

/-- The row of a training that begins. -/
def beginRow (svc : OffLineUpdateSvc) (hangType moneyType : UInt8) (cost : UInt32) :
    OffLineUpdateItem where
  updateID := svc.lastUpdateID + 1
  begDate := svc.today
  isFinish := false
  moneyType := moneyType
  lockMoney := printed cost
  begTime := printed svc.now
  desSec := hangType.toNat * 3600
  desNum := hangType.toNat * 60
  billedNum := 0
  billedMoney := 0
  finishedSec := 0
  speedUpSec := 0

def takeoffAndLockMoney (svc : OffLineUpdateSvc) (role : TrainedRole) (hangType moneyType : UInt8)
    (cost : UInt32) : OffLineUpdateSvc :=
  let levels := tables.minuteLevels fuel role.vip ⟨role.attr.level, role.attr.exp, 0, 0, 0⟩
    (60 * hangType.toNat)
  { svc.takeoffMoney cost moneyType with
    rows := svc.rows ++ [svc.beginRow hangType moneyType cost]
    lastUpdateID := svc.lastUpdateID + 1
    deposits := svc.deposits ++ [⟨svc.lastUpdateID + 1, moneyType, levels, cost⟩]
    cached := some { role with isOfflineUpdate := true } }

/-- A refused request may have switched the training off or deleted the rows of other days. -/
def beginUpdate (svc : OffLineUpdateSvc) (role : TrainedRole) (hangType moneyType : UInt8) :
    UInt32 × OffLineUpdateSvc :=
  if svc.resetSwitch.switchOn then (errAppData, svc.resetSwitch)
  else if 86400 < svc.totalTime hangType then (errAppOp, svc.resetSwitch)
  else
    match svc.beginDeposit tables fuel role hangType moneyType with
    | .error code => (code, svc.resetSwitch.deleteOtherDays)
    | .ok cost =>
        (0, svc.deleteOtherDays.takeoffAndLockMoney tables fuel role hangType moneyType cost)

/-- Message 1602 begins a training. -/
def processBeginUpdate (svc : OffLineUpdateSvc) (body : Option (UInt8 × UInt8)) :
    UInt32 × OffLineUpdateSvc :=
  match (expect errSystemSerError body).bind fun body =>
    (expect errAppOp svc.cached).bind fun role =>
      if role.attr.level ≤ 10 then .error errRoleLevelNotEnough else .ok (role, body) with
  | .error code => (code, svc)
  | .ok (role, hangType, moneyType) => svc.beginUpdate tables fuel role hangType moneyType

end Begin

variable (tables : TrainingTables) (fuel : Nat)

/-- The experience changes the role in memory. -/
def roleExpAdd (svc : OffLineUpdateSvc) (role : TrainedRole) (exp : UInt32) :
    Option (UInt32 × OffLineUpdateSvc) :=
  (role.attr.roleExpAdd tables.levelDesc fuel exp.toInt32).map fun result =>
    (if result.1 < 0 then errAppOp else 0,
      { svc with cached := some { role with attr := result.2 } })

section LostBilling

variable (svc : OffLineUpdateSvc)

def lostBillingChecks : Except UInt32 (TrainedRole × OffLineUpdateItem × MinuteGain) :=
  svc.trainingRole.bind fun role =>
    (expect errSystemDbError svc.selectUnfinished).bind fun row =>
      if UInt32.ofInt row.desNum - UInt32.ofInt row.speedUpSec / 60 ≤ UInt32.ofInt row.billedNum then
        .error errAppOp
      else
        (expect errAppOp
          (tables.calcCostPerMinite fuel role.vip role.attr.level role.attr.exp)).map fun minute =>
            (role, row, minute)

/-- The last minute is the one that fills the time that is left. -/
def lastMinute (row : OffLineUpdateItem) : Bool :=
  UInt32.ofInt row.desNum - UInt32.ofInt row.speedUpSec / 60 ≤ UInt32.ofInt row.billedNum + 1

def billRow (isFinish : Bool) (addCost : ℚ) (row : OffLineUpdateItem) : OffLineUpdateItem :=
  { row with
    billedNum := row.billedNum + 1
    billedMoney := row.billedMoney + addCost
    finishedSec := row.finishedSec + 60
    isFinish := isFinish }

/-- A gold training pays a part of the silver. -/
def lostCost (moneyType : UInt8) (cost : ℚ) : ℚ :=
  if moneyType = 2 then tables.round (cost / 300) else cost

def lostBilling (role : TrainedRole) (row : OffLineUpdateItem)
    (minute : MinuteGain) : Option (UInt32 × OffLineUpdateSvc) :=
  let addCost := lostCost tables row.moneyType minute.cost
  let billed := svc.update (fun entry => entry.updateID = row.updateID ∧ ¬ entry.isFinish)
    (billRow (lastMinute row) addCost)
  { billed with
    bills := svc.bills ++
      [⟨row.updateID, .minute, row.moneyType, role.vip, [role.attr.level], minute.addExp, addCost⟩]
    : OffLineUpdateSvc }.roleExpAdd tables fuel
      { role with isOfflineUpdate := !lastMinute row } minute.addExp

/-- Message 1699 bills one minute. -/
def processLostBilling : Option (UInt32 × OffLineUpdateSvc) :=
  match svc.lostBillingChecks tables fuel with
  | .error code => some (code, svc)
  | .ok (role, row, minute) => svc.lostBilling tables fuel role row minute

end LostBilling

section Speedup

/-- An unknown type pays for ten minutes and gets no time. -/
def speedupSecOf (speedupType : UInt8) : UInt32 :=
  if speedupType = 1 then 600 else if speedupType = 2 then 3600 else 0

def speedupExp (speedupType : UInt8) (exp : UInt32) : UInt32 :=
  if speedupType = 1 then (exp + exp / 10) / 6
  else if speedupType = 2 then exp + exp / 10
  else exp

def speedCast (speedupType : UInt8) (cost : ℚ) : UInt32 :=
  let tenMinutes := tables.round (tables.round (tables.round (tables.round (cost / 300) * 2) * 5) / 6)
  let speedCast := UInt32.ofInt (toInt tenMinutes.ceil)
  if speedupType = 2 then speedCast * 6 else speedCast

variable (svc : OffLineUpdateSvc)

/-- The checks end with the role, its row, the experience and the gold. -/
def speedupChecks (body : Option UInt8) :
    Except UInt32 (UInt8 × TrainedRole × OffLineUpdateItem × UInt32 × UInt32) :=
  (expect errSystemSerError body).bind fun speedupType =>
    svc.trainingRole.bind fun role =>
      (expect errAppOp (tables.calcCostAndGainsBySilver fuel role.vip role.attr 1 0)).bind fun sums =>
        let cost := speedCast tables speedupType sums.1
        if UInt32.ofInt svc.gold < cost then .error errAppData
        else
          (expect errSystemDbError svc.selectUnfinished).map fun row =>
            (speedupType, role, row, speedupExp speedupType sums.2.1, cost)

/-- A speed-up ends the training when the time is filled. -/
def speedupEnds (row : OffLineUpdateItem) (speedupSec : UInt32) : Bool :=
  UInt32.ofInt row.desSec ≤
    UInt32.ofInt row.finishedSec + (speedupSec + UInt32.ofInt row.speedUpSec)

def speedupRow (speedupSec : UInt32) (isFinish : Bool) (row : OffLineUpdateItem) :
    OffLineUpdateItem :=
  { row with
    speedUpSec := row.speedUpSec + printed speedupSec
    isFinish := isFinish }

def speedup (speedupType : UInt8) (role : TrainedRole)
    (row : OffLineUpdateItem) (exp cost : UInt32) : Option (UInt32 × OffLineUpdateSvc) :=
  let speedupSec := speedupSecOf speedupType
  let updated := svc.update (fun entry => entry.updateID = row.updateID)
    (speedupRow speedupSec (speedupEnds row speedupSec))
  { updated with gold := svc.gold - printed cost : OffLineUpdateSvc }.roleExpAdd tables fuel
    { role with isOfflineUpdate := !speedupEnds row speedupSec } exp

/-- Message 1603 speeds a training up. -/
def processSpeedupUpdate (body : Option UInt8) : Option (UInt32 × OffLineUpdateSvc) :=
  match svc.speedupChecks tables fuel body with
  | .error code => some (code, svc)
  | .ok (speedupType, role, row, exp, cost) =>
      svc.speedup tables fuel speedupType role row exp cost

end Speedup

section Stop

variable (svc : OffLineUpdateSvc)

def elapseOf (row : OffLineUpdateItem) : UInt32 :=
  clampElapse (svc.now - UInt32.ofInt row.begTime) (UInt32.ofInt row.desSec)
    (UInt32.ofInt row.speedUpSec) (UInt32.ofInt row.finishedSec)

/-- The elapsed time is signed. The checks end with the role, its row and the sums of the minutes. -/
def stopChecks : Except UInt32 (TrainedRole × OffLineUpdateItem × Forecast) :=
  svc.trainingRole.bind fun role =>
    (expect errSystemDbError svc.selectUnfinished).bind fun row =>
      if printed (svc.now - UInt32.ofInt row.begTime) < 0 then .error errAppOp
      else if printed (svc.elapseOf row) < 0 then .error errAppData
      else
        (expect errAppOp (tables.forecastMinutes fuel role.vip
          ⟨role.attr.level, role.attr.exp, 0, 0, 0⟩
          (billNumOf (svc.elapseOf row) (UInt32.ofInt row.finishedSec)).toNat)).map fun sums =>
            (role, row, sums)

/-- A gold training pays for the average minute, by the number of minutes. -/
def stopCost (moneyType : UInt8) (addBillNum : UInt32) (cost : ℚ) : ℚ :=
  if moneyType = 2 then
    if addBillNum = 0 then 0
    else
      let average := tables.round (cost / addBillNum.toNat)
      if addBillNum ≤ 10 then tables.round (tables.round (average * 30) / 300)
      else tables.round (tables.round (average * 60) / 300)
  else cost

/-- A gold training gains a tenth more. -/
def stopExp (moneyType : UInt8) (exp : UInt32) : UInt32 :=
  if moneyType = 2 then UInt32.ofInt (toInt (tables.round (tables.round (11 / 10) * exp.toNat)))
  else exp

/-- The elapsed time is added to what was finished. -/
def stopRow (elapse addBillNum : UInt32) (addCost : ℚ) (row : OffLineUpdateItem) :
    OffLineUpdateItem :=
  { row with
    finishedSec := row.finishedSec + printed elapse
    billedMoney := row.billedMoney + addCost
    billedNum := row.billedNum + printed addBillNum
    isFinish := true }

def retMoney (row : OffLineUpdateItem) (addCost : ℚ) : UInt32 :=
  castUInt32 (tables.round
    (tables.round ((UInt32.ofInt row.lockMoney).toNat - row.billedMoney) - addCost))

/-- The rest of the deposit is gold or bound silver. -/
def giveBack (moneyType : UInt8) (retMoney : UInt32) : OffLineUpdateSvc :=
  if moneyType = 2 then { svc with gold := svc.gold + printed retMoney }
  else { svc with bindMoney := svc.bindMoney + printed retMoney }

def stop (svc : OffLineUpdateSvc) (role : TrainedRole) (row : OffLineUpdateItem) (sums : Forecast) :
    Option (UInt32 × OffLineUpdateSvc) :=
  let elapse := svc.elapseOf row
  let addBillNum := billNumOf elapse (UInt32.ofInt row.finishedSec)
  let addCost := stopCost tables row.moneyType addBillNum sums.costSum
  let addExp := stopExp tables row.moneyType sums.expSum
  let levels := tables.minuteLevels fuel role.vip ⟨role.attr.level, role.attr.exp, 0, 0, 0⟩
    addBillNum.toNat
  let updated := (svc.update (fun entry => entry.updateID = row.updateID)
    (stopRow elapse addBillNum addCost)).giveBack row.moneyType (retMoney tables row addCost)
  let stopped : OffLineUpdateSvc := { updated with
    cached := some { role with isOfflineUpdate := false }
    stored := { svc.stored with isOfflineUpdate := false }
    bills := svc.bills ++ [⟨row.updateID, .stop, row.moneyType, role.vip, levels, addExp, addCost⟩] }
  if addExp = 0 then some (0, stopped)
  else stopped.roleExpAdd tables fuel { role with isOfflineUpdate := false } addExp

/-- Message 1604 stops a training. -/
def processStopUpdate : Option (UInt32 × OffLineUpdateSvc) :=
  match svc.stopChecks tables fuel with
  | .error code => some (code, svc)
  | .ok (role, row, sums) => svc.stop tables fuel role row sums

end Stop

section Login

variable (svc : OffLineUpdateSvc)

/-- The settlement reads the role from the database. -/
def addBillChecks : Option (OffLineUpdateItem × Forecast) :=
  svc.selectUnfinished.bind fun row =>
    (tables.forecastMinutes fuel svc.stored.vip
      ⟨UInt32.ofInt svc.stored.columns.level, UInt32.ofInt svc.stored.columns.exp, 0, 0, 0⟩
      (billNumOf (svc.elapseOf row) (UInt32.ofInt row.finishedSec)).toNat).map fun sums =>
        (row, sums)

/-- The settlement compares the elapsed time with the time that is left. -/
def addBillEnds (row : OffLineUpdateItem) (elapse : UInt32) : Bool :=
  UInt32.ofInt row.desSec - UInt32.ofInt row.speedUpSec - UInt32.ofInt row.finishedSec ≤ elapse

def addBillRow (isFinish : Bool) (billNum : UInt32) (addCostSum : ℚ) (row : OffLineUpdateItem) :
    OffLineUpdateItem :=
  { row with
    isFinish := isFinish
    billedNum := row.billedNum + printed billNum
    billedMoney := row.billedMoney + addCostSum
    finishedSec := row.finishedSec + printed (billNum * 60) }

/-- The experience goes to the column. -/
def addStoredExp (exp : UInt32) : OffLineUpdateSvc :=
  { svc with stored := { svc.stored with columns := { svc.stored.columns with
      exp := svc.stored.columns.exp + printed exp } } }

/-- The switch of the row in the database is turned off. -/
def endStored (updateID : Nat) : OffLineUpdateSvc :=
  { svc.update (fun entry => entry.updateID = updateID) fun entry => { entry with isFinish := true }
    with stored := { svc.stored with isOfflineUpdate := false } }

def settle (row : OffLineUpdateItem) (sums : Forecast) : OffLineUpdateSvc :=
  let elapse := svc.elapseOf row
  let billNum := billNumOf elapse (UInt32.ofInt row.finishedSec)
  let levels := tables.minuteLevels fuel svc.stored.vip
    ⟨UInt32.ofInt svc.stored.columns.level, UInt32.ofInt svc.stored.columns.exp, 0, 0, 0⟩
    billNum.toNat
  let billed : OffLineUpdateSvc :=
    if billNum = 0 then svc
    else (svc.update (fun entry => !entry.isFinish)
      (addBillRow (addBillEnds row elapse) billNum sums.costSum)).addStoredExp sums.expSum
  let logged : OffLineUpdateSvc := { billed with
    bills := svc.bills ++
      [⟨row.updateID, .login, row.moneyType, svc.stored.vip, levels, sums.expSum, sums.costSum⟩] }
  if addBillEnds row elapse then logged.endStored row.updateID else logged

def addBill : OffLineUpdateSvc :=
  (svc.addBillChecks tables fuel).elim svc fun checked => svc.settle tables fuel checked.1 checked.2

def cache2DB (svc : OffLineUpdateSvc) : OffLineUpdateSvc :=
  svc.cached.elim svc fun role => { svc with stored := role.cache2DB }

/-- The role is loaded unless it comes from another map, and it is saved. -/
def entered : OffLineUpdateSvc :=
  { svc with cached := some (svc.cached.getD svc.stored.db2Cache) : OffLineUpdateSvc }.cache2DB

/-- The settlement follows after the role is in its map. -/
def enterMap : OffLineUpdateSvc :=
  if svc.entered.stored.isOfflineUpdate then svc.entered.addBill tables fuel else svc.entered

/-- A role that leaves the maps is saved. -/
def exitMap : OffLineUpdateSvc := { svc.cache2DB with cached := none }

end Login

/-- Other services change the attributes of the role. -/
def changeRole (svc : OffLineUpdateSvc) (attr : AttrGeneral) (vip : UInt8) : OffLineUpdateSvc :=
  svc.cached.elim
    { svc with stored := ⟨attr.cache2DB, vip, svc.stored.isOfflineUpdate⟩ }
    fun role => { svc with cached := some ⟨attr, vip, role.isOfflineUpdate⟩ }

end OffLineUpdateSvc

/-- The role sends a request or moves, its map saves it, the clock goes on, or another service changes
the role or its money. -/
inductive TrainingEvent where
  | begin (body : Option (UInt8 × UInt8))
  | lostBilling
  | speedup (body : Option UInt8)
  | stop
  | enterMap
  | exitMap
  | save
  | clock (now : UInt32) (today : Nat)
  | role (attr : AttrGeneral) (vip : UInt8)
  | money (money bindMoney gold : Int)
  deriving DecidableEq, Repr

/-- The clock does not go back. -/
def OffLineUpdateSvc.step (tables : TrainingTables) (fuel : Nat) (svc : OffLineUpdateSvc) :
    TrainingEvent → Option OffLineUpdateSvc
  | .begin body => some (svc.processBeginUpdate tables fuel body).2
  | .lostBilling => (svc.processLostBilling tables fuel).map Prod.snd
  | .speedup body => (svc.processSpeedupUpdate tables fuel body).map Prod.snd
  | .stop => (svc.processStopUpdate tables fuel).map Prod.snd
  | .enterMap => some (svc.enterMap tables fuel)
  | .exitMap => some svc.exitMap
  | .save => some svc.cache2DB
  | .clock now today =>
      if svc.now ≤ now ∧ svc.today ≤ today then some { svc with now := now, today := today }
      else none
  | .role attr vip => some (svc.changeRole attr vip)
  | .money money bindMoney gold =>
      some { svc with money := money, bindMoney := bindMoney, gold := gold }

end AppSvr.MainServer
