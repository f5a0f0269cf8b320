/-
This file proves what a step does to the rows of the trainings, that at most one of them is not
finished, and what the bills of a training count and sum up.
-/

import AppSvr.Construction.MainServer.OffLineUpdateSvc
import AppSvr.Proof.MainServer.MoneyUpdates
import Mathlib.Data.UInt

namespace AppSvr.MainServer

theorem expect_ok {Value : Type} {code : UInt32} {value : Option Value} {result : Value} :
    expect code value = .ok result ↔ value = some result := by
  cases value <;> simp [expect]

theorem bind_ok {First Second : Type} {first : Except UInt32 First}
    {second : First → Except UInt32 Second} {result : Second} :
    first.bind second = .ok result ↔ ∃ value, first = .ok value ∧ second value = .ok result := by
  cases first <;> simp [Except.bind]

theorem map_ok {First Second : Type} {first : Except UInt32 First} {change : First → Second}
    {result : Second} : first.map change = .ok result ↔ ∃ value, first = .ok value ∧
      change value = result := by
  cases first <;> simp [Except.map]

namespace OffLineUpdateSvc

variable {tables : TrainingTables} {fuel : Nat} {svc next : OffLineUpdateSvc}
  {row : OffLineUpdateItem} {event : TrainingEvent}

/-- Only the last row may be unfinished, and the training of this day has its switch on. -/
structure TableSound (svc : OffLineUpdateSvc) : Prop where
  last : ∀ row ∈ svc.rows, row.isFinish = false → svc.rows.getLast? = some row
  distinct : (svc.rows.map OffLineUpdateItem.updateID).Nodup
  issued : ∀ row ∈ svc.rows, row.updateID ≤ svc.lastUpdateID
  dated : ∀ row ∈ svc.rows, row.begDate ≤ svc.today
  switched : ∀ row ∈ svc.rows, row.isFinish = false → row.begDate = svc.today → svc.switchOn = true

/-- At most one row is unfinished. -/
theorem TableSound.single (sound : svc.TableSound) :
    (svc.rows.filter fun row => !row.isFinish).length ≤ 1 := by
  have nodup := (List.Nodup.of_map _ sound.distinct).filter fun row => !row.isFinish
  cases unfinished : svc.rows.filter fun row => !row.isFinish with
  | nil => exact Nat.zero_le 1
  | cons first rest =>
      cases rest with
      | nil => exact Nat.le_refl 1
      | cons second rest =>
          have last (row) (listed : row ∈ first :: second :: rest) : svc.rows.getLast? = some row := by
            rw [← unfinished] at listed
            obtain ⟨member, running⟩ := List.mem_filter.mp listed
            exact sound.last row member (by simpa using running)
          have same := (last first (by simp)).symm.trans (last second (by simp))
          rw [unfinished] at nodup
          simp [Option.some.inj same] at nodup

/-- The training that the operations select is the last row. -/
theorem TableSound.split (sound : svc.TableSound) (selected : svc.selectUnfinished = some row) :
    ∃ earlier, svc.rows = earlier ++ [row] ∧
      ∀ entry ∈ earlier, entry.isFinish = true ∧ entry.updateID ≠ row.updateID := by
  have unfinished : row.isFinish = false := by simpa using List.find?_some selected
  obtain ⟨earlier, rows⟩ := List.getLast?_eq_some_iff.mp
    (sound.last row (List.mem_of_find?_eq_some selected) unfinished)
  refine ⟨earlier, rows, fun entry member => ?_⟩
  have distinct := sound.distinct
  rw [rows, List.map_append, List.nodup_append] at distinct
  have differs : entry.updateID ≠ row.updateID :=
    distinct.2.2 _ (List.mem_map_of_mem member) _ (by simp)
  refine ⟨?_, differs⟩
  by_contra running
  have last := sound.last entry (by rw [rows]; exact List.mem_append_left _ member)
    (by simpa using running)
  rw [rows, List.getLast?_concat] at last
  exact differs (congrArg OffLineUpdateItem.updateID (Option.some.inj last)).symm

/-- An update that selects the training changes only the last row. -/
theorem update_last {earlier : List OffLineUpdateItem} (rows : svc.rows = earlier ++ [row])
    {selects : OffLineUpdateItem → Bool} (selected : selects row = true)
    (others : ∀ entry ∈ earlier, selects entry = false)
    (change : OffLineUpdateItem → OffLineUpdateItem) :
    (svc.update selects change).rows = earlier ++ [change row] := by
  have updated : (svc.update selects change).rows =
      svc.rows.map fun row => if selects row then change row else row := rfl
  rw [updated, rows, List.map_append, List.map_singleton, if_pos selected]
  congr 1
  have kept : ∀ entry ∈ earlier, (if selects entry then change entry else entry) = entry := by
    intro entry member
    rw [if_neg]
    rw [others entry member]
    exact Bool.false_ne_true
  exact (List.map_congr_left kept).trans (List.map_id' _)

/-- The start of the forecasts of the minutes that are billed together. -/
def startOf (attr : AttrGeneral) : Forecast := ⟨attr.level, attr.exp, 0, 0, 0⟩

/-- What an operation makes of the row in training, and the bills that it writes. -/
inductive Trains (tables : TrainingTables) (fuel : Nat) (svc : OffLineUpdateSvc)
    (row : OffLineUpdateItem) : TrainingEvent → OffLineUpdateItem → List Bill → Prop where
  | minute (role : TrainedRole) (minute : MinuteGain)
      (checked : svc.lostBillingChecks tables fuel = .ok (role, row, minute)) :
      Trains tables fuel svc row .lostBilling
        (billRow (lastMinute row) (lostCost tables row.moneyType minute.cost) row)
        [⟨row.updateID, .minute, row.moneyType, role.vip, [role.attr.level], minute.addExp,
          lostCost tables row.moneyType minute.cost⟩]
  | speedup (body : Option UInt8) (speedupType : UInt8) (role : TrainedRole) (exp cost : UInt32)
      (checked : svc.speedupChecks tables fuel body = .ok (speedupType, role, row, exp, cost)) :
      Trains tables fuel svc row (.speedup body)
        (speedupRow (speedupSecOf speedupType) (speedupEnds row (speedupSecOf speedupType)) row) []
  | stop (role : TrainedRole) (sums : Forecast) (addBillNum : UInt32)
      (billed : addBillNum = billNumOf (svc.elapseOf row) (UInt32.ofInt row.finishedSec))
      (checked : svc.stopChecks tables fuel = .ok (role, row, sums)) :
      Trains tables fuel svc row .stop
        (stopRow (svc.elapseOf row) addBillNum (stopCost tables row.moneyType addBillNum sums.costSum)
          row)
        [⟨row.updateID, .stop, row.moneyType, role.vip,
          tables.minuteLevels fuel role.vip (startOf role.attr) addBillNum.toNat,
          stopExp tables row.moneyType sums.expSum,
          stopCost tables row.moneyType addBillNum sums.costSum⟩]
  | login (sums : Forecast) (billNum : UInt32)
      (billed : billNum = billNumOf (svc.elapseOf row) (UInt32.ofInt row.finishedSec))
      (switch : svc.entered.stored.isOfflineUpdate = true)
      (checked : svc.entered.addBillChecks tables fuel = some (row, sums)) :
      Trains tables fuel svc row .enterMap
        (addBillRow (addBillEnds row (svc.elapseOf row)) billNum sums.costSum row)
        [⟨row.updateID, .login, row.moneyType, svc.entered.stored.vip,
          tables.minuteLevels fuel svc.entered.stored.vip
            (startOf svc.entered.stored.columns.db2Cache) billNum.toNat, sums.expSum, sums.costSum⟩]

/-- A step keeps the rows, deletes those of other days, begins a training, or changes the training. -/
inductive Advance (tables : TrainingTables) (fuel : Nat) (svc : OffLineUpdateSvc)
    (event : TrainingEvent) (next : OffLineUpdateSvc) : Prop where
  | kept (rows : next.rows = svc.rows ∨ next.rows = svc.todays) (bills : next.bills = svc.bills)
      (deposits : next.deposits = svc.deposits) (issued : next.lastUpdateID = svc.lastUpdateID)
      (clock : svc.today ≤ next.today)
      (switch : svc.switchOn = true → next.switchOn = true ∨
        ∀ row ∈ svc.rows, row.begDate = svc.today → row.isFinish = true)
  | begun (role : TrainedRole) (hangType moneyType : UInt8) (cost : UInt32)
      (request : event = .begin (some (hangType, moneyType))) (online : svc.cached = some role)
      (free : svc.resetSwitch.switchOn = false) (time : svc.totalTime hangType ≤ 86400)
      (deposit : svc.beginDeposit tables fuel role hangType moneyType = .ok cost)
      (result : next = svc.deleteOtherDays.takeoffAndLockMoney tables fuel role hangType moneyType cost)
  | trained (row changed : OffLineUpdateItem) (bills : List Bill)
      (selected : svc.selectUnfinished = some row)
      (effect : Trains tables fuel svc row event changed bills)
      (rows : ∃ earlier, svc.rows = earlier ++ [row] ∧ next.rows = earlier ++ [changed] ∧
        ∀ entry ∈ earlier, entry.isFinish = true ∧ entry.updateID ≠ row.updateID)
      (written : next.bills = svc.bills ++ bills) (deposits : next.deposits = svc.deposits)
      (issued : next.lastUpdateID = svc.lastUpdateID) (clock : next.today = svc.today)
      (switch : changed.isFinish = false → svc.switchOn = true → next.switchOn = true)

section Steps

/-- Granting experience changes only the attributes of the role in memory. -/
theorem roleExpAdd_result {role : TrainedRole} {exp code : UInt32}
    (granted : svc.roleExpAdd tables fuel role exp = some (code, next)) :
    ∃ attr, next = { svc with cached := some { role with attr := attr } } := by
  obtain ⟨result, _, same⟩ := Option.map_eq_some_iff.mp granted
  exact ⟨result.2, (Prod.mk.inj same).2.symm⟩

/-- A step that keeps the rows, the logs and the switch. -/
theorem Advance.same (rows : next.rows = svc.rows) (bills : next.bills = svc.bills)
    (deposits : next.deposits = svc.deposits) (issued : next.lastUpdateID = svc.lastUpdateID)
    (clock : svc.today ≤ next.today) (switch : next.switchOn = svc.switchOn) :
    Advance tables fuel svc event next :=
  .kept (.inl rows) bills deposits issued clock fun on => .inl (switch.trans on)

theorem lostBilling_advance (sound : svc.TableSound)
    (stepped : svc.step tables fuel .lostBilling = some next) :
    Advance tables fuel svc .lostBilling next := by
  obtain ⟨⟨code, after⟩, processed, rfl⟩ := Option.map_eq_some_iff.mp stepped
  cases checked : svc.lostBillingChecks tables fuel with
  | error refused =>
      rw [processLostBilling, checked] at processed
      obtain rfl := (Prod.mk.inj (Option.some.inj processed)).2
      exact .same rfl rfl rfl rfl (Nat.le_refl _) rfl
  | ok found =>
      obtain ⟨role, row, minute⟩ := found
      rw [processLostBilling, checked] at processed
      obtain ⟨attr, rfl⟩ := roleExpAdd_result processed
      obtain ⟨role', trains, rest⟩ := bind_ok.mp checked
      obtain ⟨row', selected, rest⟩ := bind_ok.mp rest
      split at rest
      case isTrue => cases rest
      case isFalse =>
        obtain ⟨minute', _, same⟩ := map_ok.mp rest
        obtain ⟨rfl, rfl, rfl⟩ : role' = role ∧ row' = row ∧ minute' = minute := by
          simpa using same
        have selected := expect_ok.mp selected
        obtain ⟨earlier, rows, others⟩ := sound.split selected
        have unfinished : row'.isFinish = false := by simpa using List.find?_some selected
        refine .trained row' _ _ selected (.minute role' minute' checked)
          ⟨earlier, rows, ?_, others⟩ rfl rfl rfl rfl ?_
        · apply update_last rows
          · simpa using unfinished
          · intro entry member
            simp [(others entry member).2]
        · intro running _
          have running : lastMinute row' = false := running
          simp [switchOn, running]

theorem speedup_advance (sound : svc.TableSound) {body : Option UInt8}
    (stepped : svc.step tables fuel (.speedup body) = some next) :
    Advance tables fuel svc (.speedup body) next := by
  obtain ⟨⟨code, after⟩, processed, rfl⟩ := Option.map_eq_some_iff.mp stepped
  cases checked : svc.speedupChecks tables fuel body with
  | error refused =>
      rw [processSpeedupUpdate, checked] at processed
      obtain rfl := (Prod.mk.inj (Option.some.inj processed)).2
      exact .same rfl rfl rfl rfl (Nat.le_refl _) rfl
  | ok found =>
      obtain ⟨speedupType, role, row, exp, cost⟩ := found
      rw [processSpeedupUpdate, checked] at processed
      obtain ⟨attr, rfl⟩ := roleExpAdd_result processed
      obtain ⟨type', _, rest⟩ := bind_ok.mp checked
      obtain ⟨role', _, rest⟩ := bind_ok.mp rest
      obtain ⟨sums, _, rest⟩ := bind_ok.mp rest
      dsimp only at rest
      split_ifs at rest with poor
      obtain ⟨row', selected, same⟩ := map_ok.mp rest
      obtain ⟨-, -, rfl, -, -⟩ : type' = speedupType ∧ role' = role ∧ row' = row ∧
          speedupExp type' sums.2.1 = exp ∧ speedCast tables type' sums.1 = cost := by
        simpa using same
      have selected := expect_ok.mp selected
      obtain ⟨earlier, rows, others⟩ := sound.split selected
      refine .trained row' _ _ selected (.speedup body speedupType role exp cost checked)
        ⟨earlier, rows, ?_, others⟩ (List.append_nil _).symm rfl rfl rfl ?_
      · apply update_last rows
        · simp
        · intro entry member
          simp [(others entry member).2]
      · intro running _
        have running : speedupEnds row' (speedupSecOf speedupType) = false := running
        simp [switchOn, running]

/-- Giving money back keeps the rest of the service. -/
theorem giveBack_kept (svc : OffLineUpdateSvc) (moneyType : UInt8) (retMoney : UInt32) :
    (svc.giveBack moneyType retMoney).rows = svc.rows ∧
      (svc.giveBack moneyType retMoney).deposits = svc.deposits ∧
      (svc.giveBack moneyType retMoney).lastUpdateID = svc.lastUpdateID ∧
      (svc.giveBack moneyType retMoney).today = svc.today := by
  rw [giveBack]
  split_ifs <;> exact ⟨rfl, rfl, rfl, rfl⟩

/-- The row and the bill of a stop. -/
theorem stop_result {role : TrainedRole} {sums : Forecast} {code : UInt32}
    {addBillNum : UInt32} {addCost : ℚ}
    (billed : addBillNum = billNumOf (svc.elapseOf row) (UInt32.ofInt row.finishedSec))
    (price : addCost = stopCost tables row.moneyType addBillNum sums.costSum)
    (stopped : svc.stop tables fuel role row sums = some (code, next)) :
    ∃ attr, next = { (svc.update (fun entry => entry.updateID = row.updateID)
        (stopRow (svc.elapseOf row) addBillNum addCost)).giveBack row.moneyType
          (retMoney tables row addCost) with
      cached := some { role with attr := attr, isOfflineUpdate := false }
      stored := { svc.stored with isOfflineUpdate := false }
      bills := svc.bills ++ [⟨row.updateID, .stop, row.moneyType, role.vip,
        tables.minuteLevels fuel role.vip (startOf role.attr) addBillNum.toNat,
        stopExp tables row.moneyType sums.expSum, addCost⟩] } := by
  subst billed price
  rw [stop] at stopped
  split_ifs at stopped with none
  · exact ⟨role.attr, (Prod.mk.inj (Option.some.inj stopped)).2.symm⟩
  · obtain ⟨attr, rfl⟩ := roleExpAdd_result stopped
    exact ⟨attr, rfl⟩

theorem stopChecks_ok {role : TrainedRole} {sums : Forecast}
    (checked : svc.stopChecks tables fuel = .ok (role, row, sums)) :
    svc.trainingRole = .ok role ∧ svc.selectUnfinished = some row ∧
      0 ≤ printed (svc.elapseOf row) ∧
      tables.forecastMinutes fuel role.vip (startOf role.attr)
        (billNumOf (svc.elapseOf row) (UInt32.ofInt row.finishedSec)).toNat = some sums := by
  obtain ⟨role', training, rest⟩ := bind_ok.mp checked
  obtain ⟨row', selected, rest⟩ := bind_ok.mp rest
  split_ifs at rest with early late
  obtain ⟨sums', forecast, same⟩ := map_ok.mp rest
  obtain ⟨rfl, rfl, rfl⟩ : role' = role ∧ row' = row ∧ sums' = sums := by simpa using same
  exact ⟨training, expect_ok.mp selected, Int.not_lt.mp late, expect_ok.mp forecast⟩

theorem stop_advance (sound : svc.TableSound)
    (stepped : svc.step tables fuel .stop = some next) : Advance tables fuel svc .stop next := by
  obtain ⟨⟨code, after⟩, processed, rfl⟩ := Option.map_eq_some_iff.mp stepped
  cases checked : svc.stopChecks tables fuel with
  | error refused =>
      rw [processStopUpdate, checked] at processed
      obtain rfl := (Prod.mk.inj (Option.some.inj processed)).2
      exact .same rfl rfl rfl rfl (Nat.le_refl _) rfl
  | ok found =>
      obtain ⟨role, row, sums⟩ := found
      rw [processStopUpdate, checked] at processed
      obtain ⟨attr, rfl⟩ := stop_result rfl rfl processed
      obtain ⟨_, selected, _⟩ := stopChecks_ok checked
      obtain ⟨earlier, rows, others⟩ := sound.split selected
      obtain ⟨sameRows, sameDeposits, sameID, sameDay⟩ := giveBack_kept
        (svc.update (fun entry => entry.updateID = row.updateID)
          (stopRow (svc.elapseOf row) (billNumOf (svc.elapseOf row) (UInt32.ofInt row.finishedSec))
            (stopCost tables row.moneyType
              (billNumOf (svc.elapseOf row) (UInt32.ofInt row.finishedSec)) sums.costSum)))
        row.moneyType (retMoney tables row (stopCost tables row.moneyType
          (billNumOf (svc.elapseOf row) (UInt32.ofInt row.finishedSec)) sums.costSum))
      refine .trained row _ _ selected (.stop role sums _ rfl checked)
        ⟨earlier, rows, ?_, others⟩ rfl sameDeposits sameID sameDay ?_
      · refine sameRows.trans (update_last rows ?_ ?_ _)
        · simp
        · intro entry member
          simp [(others entry member).2]
      · intro running
        exact absurd running (by simp [stopRow])

theorem entered_switchOn : svc.entered.switchOn = svc.switchOn := by
  cases online : svc.cached with
  | none => simp [entered, cache2DB, switchOn, online, StoredRole.db2Cache]
  | some role => simp [entered, cache2DB, switchOn, online]

/-- A bill of no minutes leaves the sums of its row. -/
theorem addBillRow_zero (isFinish : Bool) :
    addBillRow isFinish 0 0 row = { row with isFinish := isFinish } := by
  have none : printed 0 = 0 := by decide
  simp [addBillRow, none]

variable (svc) in
/-- The settlement bills and ends only the training. -/
theorem settle_rows {earlier : List OffLineUpdateItem} {sums : Forecast} {billNum : UInt32}
    (rows : svc.rows = earlier ++ [row]) (unfinished : row.isFinish = false)
    (others : ∀ entry ∈ earlier, entry.isFinish = true ∧ entry.updateID ≠ row.updateID)
    (billed : billNum = billNumOf (svc.elapseOf row) (UInt32.ofInt row.finishedSec))
    (free : billNum = 0 → sums.costSum = 0) :
    (svc.settle tables fuel row sums).rows =
      earlier ++ [addBillRow (addBillEnds row (svc.elapseOf row)) billNum sums.costSum row] := by
  subst billed
  have byID (entry) (member : entry ∈ earlier) : decide (entry.updateID = row.updateID) = false :=
    decide_eq_false (others entry member).2
  by_cases none : billNumOf (svc.elapseOf row) (UInt32.ofInt row.finishedSec) = 0
  · rw [free none, none, addBillRow_zero, settle, if_pos none]
    split_ifs with ends
    · rw [ends, endStored]
      apply update_last
      · exact rows
      · simp
      · exact byID
    · rw [rows, Bool.eq_false_iff.mpr ends, ← unfinished]
  · rw [settle, if_neg none]
    have written (minutes) : (svc.update (fun entry => !entry.isFinish) minutes).rows =
        earlier ++ [minutes row] := by
      apply update_last rows
      · simpa using unfinished
      · intro entry member
        simp [(others entry member).1]
    split_ifs with ends
    · rw [endStored]
      refine (update_last (written _) ?_ ?_ _).trans ?_
      · simp [addBillRow]
      · simpa [addBillRow] using byID
      · rw [ends]
        rfl
    · exact written _

variable (tables fuel) in
theorem settle_kept (svc : OffLineUpdateSvc) (row : OffLineUpdateItem) (sums : Forecast) :
    (svc.settle tables fuel row sums).cached = svc.cached ∧
      (svc.settle tables fuel row sums).deposits = svc.deposits ∧
      (svc.settle tables fuel row sums).lastUpdateID = svc.lastUpdateID ∧
      (svc.settle tables fuel row sums).today = svc.today := by
  rw [settle]
  split_ifs <;> exact ⟨rfl, rfl, rfl, rfl⟩

theorem settle_bills (svc : OffLineUpdateSvc) (row : OffLineUpdateItem) (sums : Forecast) :
    (svc.settle tables fuel row sums).bills = svc.bills ++ [⟨row.updateID, .login, row.moneyType,
      svc.stored.vip, tables.minuteLevels fuel svc.stored.vip (startOf svc.stored.columns.db2Cache)
        (billNumOf (svc.elapseOf row) (UInt32.ofInt row.finishedSec)).toNat, sums.expSum,
      sums.costSum⟩] := by
  rw [settle]
  split_ifs <;> rfl

theorem addBillChecks_some {sums : Forecast}
    (checked : svc.addBillChecks tables fuel = some (row, sums)) :
    svc.selectUnfinished = some row ∧
      tables.forecastMinutes fuel svc.stored.vip (startOf svc.stored.columns.db2Cache)
        (billNumOf (svc.elapseOf row) (UInt32.ofInt row.finishedSec)).toNat = some sums := by
  obtain ⟨row', selected, rest⟩ := Option.bind_eq_some_iff.mp checked
  obtain ⟨sums', forecast, same⟩ := Option.map_eq_some_iff.mp rest
  obtain ⟨rfl, rfl⟩ : row' = row ∧ sums' = sums := by simpa using same
  exact ⟨selected, forecast⟩

theorem enterMap_advance (sound : svc.TableSound)
    (stepped : svc.step tables fuel .enterMap = some next) :
    Advance tables fuel svc .enterMap next := by
  obtain rfl := Option.some.inj stepped
  have quiet : Advance tables fuel svc .enterMap svc.entered :=
    .same rfl rfl rfl rfl (Nat.le_refl _) entered_switchOn
  rw [enterMap]
  split_ifs with switch
  · rw [addBill]
    cases checked : svc.entered.addBillChecks tables fuel with
    | none => exact quiet
    | some found =>
        obtain ⟨row, sums⟩ := found
        obtain ⟨selected, forecast⟩ := addBillChecks_some checked
        have selected : svc.selectUnfinished = some row := selected
        obtain ⟨earlier, rows, others⟩ := sound.split selected
        have unfinished : row.isFinish = false := by simpa using List.find?_some selected
        obtain ⟨cached, deposits, issued, clock⟩ :=
          settle_kept tables fuel svc.entered row sums
        refine .trained row _ _ selected (.login sums _ rfl switch checked) ⟨earlier, rows,
          settle_rows svc.entered rows unfinished others rfl ?_, others⟩
          (settle_bills svc.entered row sums) deposits issued clock ?_
        · intro none
          have none : billNumOf (svc.entered.elapseOf row) (UInt32.ofInt row.finishedSec) = 0 := none
          rw [none] at forecast
          obtain rfl := Option.some.inj forecast
          rfl
        · intro _ on
          rw [← entered_switchOn] at on
          rw [switchOn] at on ⊢
          rw [Option.elim_some, cached]
          exact on
  · exact quiet

theorem todays_last (last : svc.rows.getLast? = some row) (today : row.begDate = svc.today) :
    svc.todays.getLast? = some row := by
  obtain ⟨earlier, rows⟩ := List.getLast?_eq_some_iff.mp last
  rw [todays, rows, List.filter_append, List.filter_singleton, decide_eq_true today, cond_true,
    List.getLast?_concat]

/-- The switch is reset only when the trainings of the day are finished. -/
theorem resetSwitch_keeps (sound : svc.TableSound) (on : svc.switchOn = true) :
    svc.resetSwitch.switchOn = true ∨
      ∀ row ∈ svc.rows, row.begDate = svc.today → row.isFinish = true := by
  rw [resetSwitch]
  split_ifs with idle
  · right
    intro row member today
    by_contra running
    rw [todays_last (sound.last row member (by simpa using running)) today] at idle
    exact running idle
  · exact .inl on

theorem resetSwitch_kept (svc : OffLineUpdateSvc) :
    svc.resetSwitch.rows = svc.rows ∧ svc.resetSwitch.bills = svc.bills ∧
      svc.resetSwitch.deposits = svc.deposits ∧ svc.resetSwitch.today = svc.today ∧
      svc.resetSwitch.lastUpdateID = svc.lastUpdateID := by
  rw [resetSwitch]
  split_ifs <;> exact ⟨rfl, rfl, rfl, rfl, rfl⟩

theorem begin_advance (sound : svc.TableSound) {body : Option (UInt8 × UInt8)}
    (stepped : svc.step tables fuel (.begin body) = some next) :
    Advance tables fuel svc (.begin body) next := by
  obtain rfl := Option.some.inj stepped
  obtain ⟨rows, bills, deposits, today, issued⟩ := resetSwitch_kept svc
  have todays : svc.resetSwitch.todays = svc.todays := by
    rw [OffLineUpdateSvc.todays, rows, today]
    rfl
  cases checked : ((expect errSystemSerError body).bind fun body =>
    (expect errAppOp svc.cached).bind fun role =>
      if role.attr.level ≤ 10 then .error errRoleLevelNotEnough else .ok (role, body)) with
  | error refused =>
      rw [processBeginUpdate, checked]
      exact .same rfl rfl rfl rfl (Nat.le_refl _) rfl
  | ok found =>
      obtain ⟨role, hangType, moneyType⟩ := found
      rw [processBeginUpdate, checked]
      change Advance tables fuel svc (.begin body)
        (svc.beginUpdate tables fuel role hangType moneyType).2
      obtain ⟨body', read, rest⟩ := bind_ok.mp checked
      obtain ⟨role', online, rest⟩ := bind_ok.mp rest
      split_ifs at rest with low
      obtain ⟨rfl, rfl⟩ : role' = role ∧ body' = (hangType, moneyType) := by simpa using rest
      have refused : Advance tables fuel svc (.begin body) svc.resetSwitch :=
        .kept (.inl rows) bills deposits issued today.ge (resetSwitch_keeps sound)
      rw [beginUpdate]
      split_ifs with on late
      · exact refused
      · exact refused
      · cases deposit : svc.beginDeposit tables fuel role' hangType moneyType with
        | error code =>
            exact .kept (.inr todays) bills deposits issued today.ge (resetSwitch_keeps sound)
        | ok cost =>
            refine .begun role' hangType moneyType cost (congrArg _ (expect_ok.mp read))
              (expect_ok.mp online) (Bool.eq_false_iff.mpr on) (UInt32.not_lt.mp late) deposit rfl

theorem cache2DB_kept (svc : OffLineUpdateSvc) :
    svc.cache2DB.rows = svc.rows ∧ svc.cache2DB.bills = svc.bills ∧
      svc.cache2DB.deposits = svc.deposits ∧ svc.cache2DB.lastUpdateID = svc.lastUpdateID ∧
      svc.cache2DB.today = svc.today ∧ svc.cache2DB.switchOn = svc.switchOn := by
  rw [cache2DB]
  cases online : svc.cached with
  | none => exact ⟨rfl, rfl, rfl, rfl, rfl, rfl⟩
  | some role => exact ⟨rfl, rfl, rfl, rfl, rfl, by simp [switchOn, online]⟩

theorem exitMap_switchOn (svc : OffLineUpdateSvc) : svc.exitMap.switchOn = svc.switchOn := by
  cases online : svc.cached with
  | none => simp [exitMap, cache2DB, switchOn, online]
  | some role => simp [exitMap, cache2DB, switchOn, online, TrainedRole.cache2DB]

/-- Every step is of one of the three kinds. -/
theorem step_advance (sound : svc.TableSound) (stepped : svc.step tables fuel event = some next) :
    Advance tables fuel svc event next := by
  cases event with
  | begin body => exact begin_advance sound stepped
  | lostBilling => exact lostBilling_advance sound stepped
  | speedup body => exact speedup_advance sound stepped
  | stop => exact stop_advance sound stepped
  | enterMap => exact enterMap_advance sound stepped
  | exitMap =>
      obtain rfl := Option.some.inj stepped
      obtain ⟨rows, bills, deposits, issued, today, switch⟩ := cache2DB_kept svc
      exact .same rows bills deposits issued today.ge (exitMap_switchOn svc)
  | save =>
      obtain rfl := Option.some.inj stepped
      obtain ⟨rows, bills, deposits, issued, today, switch⟩ := cache2DB_kept svc
      exact .same rows bills deposits issued today.ge switch
  | clock now today =>
      rw [step] at stepped
      split_ifs at stepped with later
      obtain rfl := Option.some.inj stepped
      exact .same rfl rfl rfl rfl later.2 rfl
  | role attr vip =>
      obtain rfl := Option.some.inj stepped
      rw [changeRole]
      cases online : svc.cached with
      | none => exact .same rfl rfl rfl rfl (Nat.le_refl _) (by simp [switchOn, online])
      | some role => exact .same rfl rfl rfl rfl (Nat.le_refl _) (by simp [switchOn, online])
  | money money bindMoney gold =>
      obtain rfl := Option.some.inj stepped
      exact .same rfl rfl rfl rfl (Nat.le_refl _) rfl

end Steps

section Sound

/-- The trainings of the day are finished when one begins. -/
theorem todays_finished (sound : svc.TableSound) (free : svc.resetSwitch.switchOn = false)
    (member : row ∈ svc.todays) : row.isFinish = true := by
  obtain ⟨listed, today⟩ := List.mem_filter.mp member
  have today : row.begDate = svc.today := by simpa using today
  by_contra running
  have running : row.isFinish = false := by simpa using running
  rcases resetSwitch_keeps sound (sound.switched row listed running today) with on | finished
  · rw [free] at on
    cases on
  · exact absurd (finished row listed today) (by rw [running]; exact Bool.false_ne_true)

/-- An operation on a training keeps its key and date. -/
theorem Trains.kept {changed : OffLineUpdateItem} {bills : List Bill}
    (effect : Trains tables fuel svc row event changed bills) :
    changed.updateID = row.updateID ∧ changed.begDate = row.begDate := by
  cases effect <;> exact ⟨rfl, rfl⟩

/-- A step that trains nothing keeps rows only. -/
theorem rows_sublist (rows : next.rows = svc.rows ∨ next.rows = svc.todays) :
    next.rows.Sublist svc.rows := by
  rcases rows with same | fewer
  · rw [same]
  · rw [fewer]
    exact List.filter_sublist

/-- The training that the operations select is stored and unfinished. -/
theorem selectUnfinished_spec (selected : svc.selectUnfinished = some row) :
    row ∈ svc.rows ∧ row.isFinish = false :=
  ⟨List.mem_of_find?_eq_some selected, by simpa using List.find?_some selected⟩

/-- What a begun training leaves of the tables. -/
theorem takeoffAndLockMoney_tables (tables : TrainingTables) (fuel : Nat) (svc : OffLineUpdateSvc)
    (role : TrainedRole) (hangType moneyType : UInt8) (cost : UInt32) :
    let begun := svc.deleteOtherDays.takeoffAndLockMoney tables fuel role hangType moneyType cost
    begun.rows = svc.todays ++ [svc.beginRow hangType moneyType cost] ∧ begun.bills = svc.bills ∧
      begun.lastUpdateID = svc.lastUpdateID + 1 ∧ begun.today = svc.today := by
  refine ⟨rfl, ?_, rfl, ?_⟩
  · simp only [takeoffAndLockMoney, takeoffMoney]
    split_ifs <;> rfl
  · simp only [takeoffAndLockMoney, takeoffMoney]
    split_ifs <;> rfl

theorem TableSound.kept (sound : svc.TableSound)
    (rows : next.rows = svc.rows ∨ next.rows = svc.todays)
    (issued : next.lastUpdateID = svc.lastUpdateID) (clock : svc.today ≤ next.today)
    (switch : svc.switchOn = true → next.switchOn = true ∨
      ∀ row ∈ svc.rows, row.begDate = svc.today → row.isFinish = true) : next.TableSound := by
  have subset := rows_sublist rows
  constructor
  · intro row member running
    have last := sound.last row (subset.subset member) running
    rcases rows with same | fewer
    · rw [same]
      exact last
    · rw [fewer] at member ⊢
      exact todays_last last (by simpa using (List.mem_filter.mp member).2)
  · exact sound.distinct.sublist (subset.map _)
  · intro row member
    rw [issued]
    exact sound.issued row (subset.subset member)
  · intro row member
    exact Nat.le_trans (sound.dated row (subset.subset member)) clock
  · intro row member running today
    have listed := subset.subset member
    have sameDay : row.begDate = svc.today := by
      have before := sound.dated row listed
      omega
    rcases switch (sound.switched row listed running sameDay) with on | finished
    · exact on
    · exact absurd (finished row listed sameDay) (by rw [running]; exact Bool.false_ne_true)

theorem TableSound.begun (sound : svc.TableSound) (free : svc.resetSwitch.switchOn = false)
    (role : TrainedRole) (hangType moneyType : UInt8) (cost : UInt32) :
    (svc.deleteOtherDays.takeoffAndLockMoney tables fuel role hangType moneyType
      cost).TableSound := by
  obtain ⟨rows, -, issued, today⟩ :=
    takeoffAndLockMoney_tables tables fuel svc role hangType moneyType cost
  have older (row) (member : row ∈ svc.todays) : row.updateID ≤ svc.lastUpdateID :=
    sound.issued row (List.mem_of_mem_filter member)
  constructor
  · intro row member running
    rw [rows] at member ⊢
    rcases List.mem_append.mp member with old | new
    · rw [todays_finished sound free old] at running
      cases running
    · rw [List.mem_singleton.mp new, List.getLast?_concat]
  · rw [rows, List.map_append, List.nodup_append]
    refine ⟨sound.distinct.sublist (List.filter_sublist.map _), List.nodup_singleton _, ?_⟩
    intro first old second new same
    obtain ⟨row, member, rfl⟩ := List.mem_map.mp old
    have bound := older row member
    have key : second = svc.lastUpdateID + 1 := List.mem_singleton.mp new
    omega
  · rw [rows, issued]
    refine List.forall_mem_append.mpr ⟨fun row old => Nat.le_succ_of_le (older row old), ?_⟩
    exact List.forall_mem_singleton.mpr (Nat.le_refl _)
  · rw [rows, today]
    refine List.forall_mem_append.mpr ⟨fun row old => ?_, ?_⟩
    · exact sound.dated row (List.mem_of_mem_filter old)
    · exact List.forall_mem_singleton.mpr (Nat.le_refl _)
  · intro _ _ _ _
    rfl

section Trained

variable {changed : OffLineUpdateItem} {bills : List Bill} {earlier : List OffLineUpdateItem}

theorem TableSound.trained (sound : svc.TableSound)
    (effect : Trains tables fuel svc row event changed bills) (unfinished : row.isFinish = false)
    (before : svc.rows = earlier ++ [row]) (after : next.rows = earlier ++ [changed])
    (others : ∀ entry ∈ earlier, entry.isFinish = true)
    (issued : next.lastUpdateID = svc.lastUpdateID) (clock : next.today = svc.today)
    (switch : changed.isFinish = false → svc.switchOn = true → next.switchOn = true) :
    next.TableSound := by
  obtain ⟨sameID, sameDate⟩ := effect.kept
  have stored : row ∈ svc.rows := by
    rw [before]
    exact List.mem_append_right _ (List.mem_singleton_self row)
  have old (entry) (member : entry ∈ earlier) : entry ∈ svc.rows := by
    rw [before]
    exact List.mem_append_left _ member
  constructor
  · intro entry member running
    rw [after] at member ⊢
    rcases List.mem_append.mp member with here | new
    · rw [others entry here] at running
      cases running
    · rw [List.mem_singleton.mp new, List.getLast?_concat]
  · have distinct := sound.distinct
    rw [before, List.map_append] at distinct
    rw [after, List.map_append, List.map_singleton, sameID]
    exact distinct
  · rw [after, issued]
    refine List.forall_mem_append.mpr ⟨fun entry here => sound.issued entry (old entry here), ?_⟩
    rw [List.forall_mem_singleton, sameID]
    exact sound.issued row stored
  · rw [after, clock]
    refine List.forall_mem_append.mpr ⟨fun entry here => sound.dated entry (old entry here), ?_⟩
    rw [List.forall_mem_singleton, sameDate]
    exact sound.dated row stored
  · intro entry member running today
    rw [after] at member
    rcases List.mem_append.mp member with here | new
    · rw [others entry here] at running
      cases running
    · obtain rfl := List.mem_singleton.mp new
      rw [sameDate, clock] at today
      exact switch running (sound.switched row stored unfinished today)

end Trained

theorem Advance.tableSound (sound : svc.TableSound) (advance : Advance tables fuel svc event next) :
    next.TableSound := by
  cases advance with
  | kept rows _ _ issued clock switch => exact sound.kept rows issued clock switch
  | begun role hangType moneyType cost _ _ free _ _ result =>
      rw [result]
      exact sound.begun free role hangType moneyType cost
  | trained row changed bills selected effect rows _ _ issued clock switch =>
      obtain ⟨earlier, before, after, others⟩ := rows
      exact sound.trained effect (selectUnfinished_spec selected).2 before after
        (fun entry member => (others entry member).1) issued clock switch

end Sound

end OffLineUpdateSvc

/-- A column in the range of the type is read as it is. -/
theorem toNat_ofInt {value : Int} (low : 0 ≤ value) (high : value < 4294967296) :
    (UInt32.ofInt value).toNat = value.toNat := by
  rw [UInt32.ofInt, UInt32.toNat_ofNat']
  omega

namespace TrainingTables

variable (tables : TrainingTables)

/-- The gain of a minute at a level, if the level is listed. -/
def gainOf (vip : UInt8) (level : UInt32) : UInt32 := (tables.addExp vip level).getD 0

variable {tables} {fuel : Nat} {vip : UInt8} {start sums : Forecast} {minutes : Nat}

/-- One minute adds its gain and its cost. -/
theorem forecastMinute_sums {next : Forecast}
    (forecast : tables.forecastMinute fuel vip sums = some next) :
    next.expSum = sums.expSum + tables.gainOf vip sums.currLevel ∧
      next.costSum = tables.round (sums.costSum + tables.minuteCost sums.currLevel) := by
  obtain ⟨minute, computed, rfl⟩ := Option.map_eq_some_iff.mp forecast
  obtain ⟨gain, gained, rest⟩ := Option.bind_eq_some_iff.mp computed
  obtain ⟨final, _, rfl⟩ := Option.map_eq_some_iff.mp rest
  exact ⟨by rw [gainOf, gained]; rfl, rfl⟩

theorem minuteLevels_succ (forecast : tables.forecastMinutes fuel vip start minutes = some sums) :
    tables.minuteLevels fuel vip start (minutes + 1) =
      tables.minuteLevels fuel vip start minutes ++ [sums.currLevel] := by
  rw [minuteLevels, forecast]
  rfl

/-- A forecast counts every minute at one level. -/
theorem minuteLevels_length (forecast : tables.forecastMinutes fuel vip start minutes = some sums) :
    (tables.minuteLevels fuel vip start minutes).length = minutes := by
  induction minutes generalizing sums with
  | zero => rfl
  | succ minutes ih =>
      obtain ⟨middle, before, _⟩ := Option.bind_eq_some_iff.mp forecast
      rw [minuteLevels_succ before, List.length_append, ih before]
      rfl

/-- The experience of a forecast is that of its minutes. -/
theorem forecast_expSum (forecast : tables.forecastMinutes fuel vip start minutes = some sums) :
    sums.expSum = start.expSum +
      ((tables.minuteLevels fuel vip start minutes).map (tables.gainOf vip)).sum := by
  induction minutes generalizing sums with
  | zero =>
      obtain rfl := Option.some.inj forecast
      exact (UInt32.add_zero _).symm
  | succ minutes ih =>
      obtain ⟨middle, before, last⟩ := Option.bind_eq_some_iff.mp forecast
      rw [(forecastMinute_sums last).1, ih before, minuteLevels_succ before, List.map_append,
        List.sum_append, UInt32.add_assoc]
      simp

/-- Exact costs add up. -/
theorem forecast_costSum (exact : ∀ value, tables.round value = value)
    (forecast : tables.forecastMinutes fuel vip start minutes = some sums) :
    sums.costSum = start.costSum +
      ((tables.minuteLevels fuel vip start minutes).map tables.minuteCost).sum := by
  induction minutes generalizing sums with
  | zero =>
      obtain rfl := Option.some.inj forecast
      exact (add_zero _).symm
  | succ minutes ih =>
      obtain ⟨middle, before, last⟩ := Option.bind_eq_some_iff.mp forecast
      rw [(forecastMinute_sums last).2, exact, ih before, minuteLevels_succ before, List.map_append,
        List.sum_append, add_assoc]
      simp

end TrainingTables

section Elapse

variable {elapse desSec speedupSec finishSec : UInt32}

/-- The elapsed time lies between what was finished and what is left. -/
theorem clampElapse_bounds (fits : finishSec.toNat + speedupSec.toNat ≤ desSec.toNat) :
    finishSec.toNat ≤ (clampElapse elapse desSec speedupSec finishSec).toNat ∧
      (clampElapse elapse desSec speedupSec finishSec).toNat + speedupSec.toNat ≤ desSec.toNat := by
  have left := UInt32.toNat_sub_of_le desSec speedupSec (UInt32.le_iff_toNat_le.mpr (by omega))
  simp only [clampElapse, UInt32.lt_iff_toNat_lt, left]
  split_ifs <;> simp only [left] at * <;> omega

/-- A part of a minute counts as a minute. -/
theorem billNumOf_toNat (finished : finishSec.toNat ≤ elapse.toNat)
    (small : elapse.toNat < 2147483648) :
    (billNumOf elapse finishSec).toNat = (elapse.toNat - finishSec.toNat + 59) / 60 := by
  have left := UInt32.toNat_sub_of_le elapse finishSec (UInt32.le_iff_toNat_le.mpr finished)
  have signed : printed (elapse - finishSec) = (elapse.toNat - finishSec.toNat : Nat) := by
    rw [printed_small (by omega), left]
  have quotient : (printed (elapse - finishSec)).tdiv 60 =
      ((elapse.toNat - finishSec.toNat) / 60 : Nat) := by
    rw [signed]
    rfl
  have remainder : (printed (elapse - finishSec)).tmod 60 =
      ((elapse.toNat - finishSec.toNat) % 60 : Nat) := by
    rw [signed]
    rfl
  simp only [billNumOf, quotient, remainder]
  have whole := @toNat_ofInt ((elapse.toNat - finishSec.toNat) / 60 : Nat) (by omega) (by omega)
  rw [Int.toNat_natCast] at whole
  rw [UInt32.toNat_add, whole]
  split_ifs with even
  · have zero : (0 : UInt32).toNat = 0 := rfl
    omega
  · have one : (1 : UInt32).toNat = 1 := rfl
    omega

end Elapse

end AppSvr.MainServer
