/-
This file proves when the time of a training is counted once.
-/

import AppSvr.Proof.MainServer.OneTraining

namespace AppSvr.MainServer.OffLineUpdateSvc

open TransitionSystem

variable {tables : TrainingTables} {fuel : Nat} {svc next : OffLineUpdateSvc}
  {row changed : OffLineUpdateItem} {event : TrainingEvent} {bills : List Bill}

/-- The time of a row is in minutes and within its plan. -/
structure RowTimed (row : OffLineUpdateItem) : Prop where
  billed : 0 ≤ row.billedNum
  finished : row.finishedSec = 60 * row.billedNum
  speed : 0 ≤ row.speedUpSec ∧ row.speedUpSec % 60 = 0
  planned : row.desSec = 60 * row.desNum
  fits : row.finishedSec + row.speedUpSec ≤ row.desSec
  oneDay : row.desSec ≤ 86400

/-- The experience of a bill is that of its minutes, with the tenth that a stop adds for gold. -/
def Granted (tables : TrainingTables) (bill : Bill) : Prop :=
  bill.exp =
    let exp := (bill.levels.map (tables.gainOf bill.vip)).sum
    if bill.kind = .stop then stopExp tables bill.moneyType exp else exp

/-- The minutes that the bills of a training count. -/
def billedMinutes (bills : List Bill) (updateID : Nat) : Nat :=
  ((bills.filter fun bill => bill.updateID = updateID).map fun bill => bill.levels.length).sum

/-- A sum over the trainings that have begun on one day. -/
def daySum (weight : OffLineUpdateItem → Int) (rows : List OffLineUpdateItem) (day : Nat) : Int :=
  ((rows.filter fun row => row.begDate = day).map weight).sum

/-- The training was stopped. -/
def Stopped (bills : List Bill) (updateID : Nat) : Prop :=
  ∃ bill ∈ bills, bill.updateID = updateID ∧ bill.kind = .stop

/-- The time of every training is counted once. -/
structure CountsOnce (tables : TrainingTables) (svc : OffLineUpdateSvc) : Prop where
  counted : ∀ row ∈ svc.rows, row.finishedSec = 60 * row.billedNum
  within : ∀ row ∈ svc.rows, row.finishedSec + row.speedUpSec ≤ row.desSec
  ended : ∀ row ∈ svc.rows, row.isFinish = true →
    Stopped svc.bills row.updateID ∨ row.finishedSec + row.speedUpSec = row.desSec
  granted : ∀ bill ∈ svc.bills, Granted tables bill
  minutes : ∀ row ∈ svc.rows, (billedMinutes svc.bills row.updateID : Int) = row.billedNum
  single : (svc.rows.filter fun row => !row.isFinish).length ≤ 1
  daily : ∀ day, daySum (fun row => row.finishedSec + row.speedUpSec) svc.rows day ≤ 86400

/-- A settlement that ends the training reaches its last minute. -/
def FillsTime (svc : OffLineUpdateSvc) (row : OffLineUpdateItem) : Prop :=
  addBillEnds row (svc.elapseOf row) = true →
    row.desSec < (svc.elapseOf row).toNat + row.speedUpSec + 60

instance (svc : OffLineUpdateSvc) (row : OffLineUpdateItem) : Decidable (svc.FillsTime row) :=
  inferInstanceAs (Decidable (_ → _))

/-- A speed-up fits into its training, a stop bills whole minutes of a training that was not billed
before, and a settlement ends a training only when its minutes fill the time. -/
def TimedEvent (tables : TrainingTables) (fuel : Nat) (svc : OffLineUpdateSvc) : TrainingEvent → Prop
  | .speedup body => ∀ found, svc.speedupChecks tables fuel body = .ok found →
      found.2.2.1.finishedSec + found.2.2.1.speedUpSec + printed (speedupSecOf found.1) ≤
        found.2.2.1.desSec
  | .stop => ∀ found, svc.stopChecks tables fuel = .ok found →
      found.2.1.finishedSec = 0 ∧ (svc.elapseOf found.2.1).toNat % 60 = 0
  | .enterMap => svc.entered.stored.isOfflineUpdate = true →
      ∀ found, svc.entered.addBillChecks tables fuel = some found → svc.FillsTime found.1
  | _ => True

section Rows

/-- The columns of a timed row are read as they are. -/
theorem RowTimed.read (timed : RowTimed row) :
    (UInt32.ofInt row.desSec).toNat = row.desSec.toNat ∧
      (UInt32.ofInt row.desNum).toNat = row.desNum.toNat ∧
      (UInt32.ofInt row.billedNum).toNat = row.billedNum.toNat ∧
      (UInt32.ofInt row.finishedSec).toNat = row.finishedSec.toNat ∧
      (UInt32.ofInt row.speedUpSec).toNat = row.speedUpSec.toNat := by
  obtain ⟨billed, finished, ⟨speed, _⟩, planned, fits, oneDay⟩ := timed
  refine ⟨toNat_ofInt ?_ ?_, toNat_ofInt ?_ ?_, toNat_ofInt ?_ ?_, toNat_ofInt ?_ ?_,
    toNat_ofInt ?_ ?_⟩ <;> omega

variable (svc) in
theorem RowTimed.elapse (timed : RowTimed row) :
    row.finishedSec ≤ (svc.elapseOf row).toNat ∧
      (svc.elapseOf row).toNat + row.speedUpSec ≤ row.desSec := by
  obtain ⟨des, _, _, finished, speed⟩ := timed.read
  obtain ⟨billed, minutes, ⟨spedUp, _⟩, _, fits, _⟩ := timed
  have bounds := @clampElapse_bounds (svc.now - UInt32.ofInt row.begTime) (UInt32.ofInt row.desSec)
    (UInt32.ofInt row.speedUpSec) (UInt32.ofInt row.finishedSec) (by omega)
  rw [des, finished, speed] at bounds
  rw [elapseOf]
  omega

variable (svc) in
/-- The minutes that are billed together. -/
theorem RowTimed.billNum (timed : RowTimed row) :
    ((billNumOf (svc.elapseOf row) (UInt32.ofInt row.finishedSec)).toNat : Int) =
      ((svc.elapseOf row).toNat - row.finishedSec + 59) / 60 := by
  obtain ⟨_, _, _, finished, _⟩ := timed.read
  have bounds := timed.elapse svc
  obtain ⟨billed, minutes, ⟨spedUp, _⟩, _, fits, small⟩ := timed
  rw [billNumOf_toNat (by omega) (by omega), finished]
  omega

/-- A bill of one minute is allowed while the training has a minute left. -/
theorem minute_fits (timed : RowTimed row)
    (left : ¬ UInt32.ofInt row.desNum - UInt32.ofInt row.speedUpSec / 60 ≤
      UInt32.ofInt row.billedNum) :
    row.finishedSec + 60 + row.speedUpSec ≤ row.desSec ∧
      (lastMinute row = true ↔ row.finishedSec + 60 + row.speedUpSec = row.desSec) := by
  obtain ⟨_, num, billedNum, _, speed⟩ := timed.read
  obtain ⟨billed, minutes, ⟨spedUp, even⟩, planned, fits, small⟩ := timed
  have sixty : (60 : UInt32).toNat = 60 := rfl
  have one : (1 : UInt32).toNat = 1 := rfl
  have rest : (UInt32.ofInt row.desNum - UInt32.ofInt row.speedUpSec / 60).toNat =
      row.desNum.toNat - row.speedUpSec.toNat / 60 := by
    rw [UInt32.toNat_sub_of_le, UInt32.toNat_div, num, speed, sixty]
    rw [UInt32.le_iff_toNat_le, UInt32.toNat_div, num, speed, sixty]
    omega
  have more : (UInt32.ofInt row.billedNum + 1).toNat = row.billedNum.toNat + 1 := by
    rw [UInt32.toNat_add, billedNum, one]
    omega
  rw [UInt32.le_iff_toNat_le, rest, billedNum] at left
  rw [lastMinute, decide_eq_true_iff, UInt32.le_iff_toNat_le, rest, more]
  omega

theorem minute_timed (timed : RowTimed row) {role : TrainedRole} {minute : MinuteGain}
    (checked : svc.lostBillingChecks tables fuel = .ok (role, row, minute)) (addCost : ℚ) :
    RowTimed (billRow (lastMinute row) addCost row) ∧
      (lastMinute row = true → row.finishedSec + 60 + row.speedUpSec = row.desSec) := by
  obtain ⟨role', _, rest⟩ := bind_ok.mp checked
  obtain ⟨row', _, rest⟩ := bind_ok.mp rest
  split_ifs at rest with left
  obtain ⟨minute', _, same⟩ := map_ok.mp rest
  obtain ⟨-, rfl, -⟩ : role' = role ∧ row' = row ∧ minute' = minute := by simpa using same
  obtain ⟨fits, last⟩ := minute_fits timed left
  refine ⟨⟨?_, ?_, timed.speed, timed.planned, fits, timed.oneDay⟩, last.mp⟩
  · have low := timed.billed
    change 0 ≤ row'.billedNum + 1
    omega
  · have minutes := timed.finished
    change row'.finishedSec + 60 = 60 * (row'.billedNum + 1)
    omega

theorem speedupSecOf_minutes (speedupType : UInt8) :
    printed (speedupSecOf speedupType) = 600 ∨ printed (speedupSecOf speedupType) = 3600 ∨
      printed (speedupSecOf speedupType) = 0 := by
  rw [speedupSecOf]
  split_ifs
  · exact .inl (by decide)
  · exact .inr (.inl (by decide))
  · exact .inr (.inr (by decide))

theorem speedup_timed (timed : RowTimed row) {speedupType : UInt8}
    (fits : row.finishedSec + row.speedUpSec + printed (speedupSecOf speedupType) ≤ row.desSec)
    (isFinish : Bool) :
    RowTimed (speedupRow (speedupSecOf speedupType) isFinish row) ∧
      (speedupEnds row (speedupSecOf speedupType) = true →
        row.finishedSec + (row.speedUpSec + printed (speedupSecOf speedupType)) = row.desSec) := by
  have steps := speedupSecOf_minutes speedupType
  obtain ⟨des, _, _, finished, speed⟩ := timed.read
  obtain ⟨billed, minutes, ⟨spedUp, even⟩, planned, within, small⟩ := timed
  constructor
  · refine ⟨billed, minutes, ?_, planned, ?_, small⟩
    · change 0 ≤ row.speedUpSec + printed (speedupSecOf speedupType) ∧
        (row.speedUpSec + printed (speedupSecOf speedupType)) % 60 = 0
      omega
    · change row.finishedSec + (row.speedUpSec + printed (speedupSecOf speedupType)) ≤ row.desSec
      omega
  · intro ends
    have low : (speedupSecOf speedupType).toNat < 2147483648 := by
      rw [speedupSecOf]
      split_ifs <;> decide
    have value := printed_small low
    have ends : UInt32.ofInt row.desSec ≤ UInt32.ofInt row.finishedSec +
        (speedupSecOf speedupType + UInt32.ofInt row.speedUpSec) := of_decide_eq_true ends
    rw [UInt32.le_iff_toNat_le, UInt32.toNat_add, UInt32.toNat_add, des, finished, speed] at ends
    omega

theorem stop_timed (timed : RowTimed row) (fresh : row.finishedSec = 0)
    (whole : (svc.elapseOf row).toNat % 60 = 0) (addCost : ℚ) :
    RowTimed (stopRow (svc.elapseOf row)
      (billNumOf (svc.elapseOf row) (UInt32.ofInt row.finishedSec)) addCost row) := by
  have bounds := timed.elapse svc
  have num := timed.billNum svc
  obtain ⟨billed, minutes, speed, planned, within, small⟩ := timed
  have elapse : printed (svc.elapseOf row) = (svc.elapseOf row).toNat := printed_small (by omega)
  have count : printed (billNumOf (svc.elapseOf row) (UInt32.ofInt row.finishedSec)) =
      (billNumOf (svc.elapseOf row) (UInt32.ofInt row.finishedSec)).toNat :=
    printed_small (by omega)
  refine ⟨?_, ?_, speed, planned, ?_, small⟩ <;> simp only [stopRow, elapse, count] <;> omega

variable (svc) in
/-- The minutes of a settlement stay in the training, and fill it when the last one is reached. -/
theorem login_timed (timed : RowTimed row) (isFinish : Bool) (addCost : ℚ) :
    RowTimed (addBillRow isFinish (billNumOf (svc.elapseOf row) (UInt32.ofInt row.finishedSec))
        addCost row) ∧
      (row.desSec < (svc.elapseOf row).toNat + row.speedUpSec + 60 →
        row.finishedSec + printed (billNumOf (svc.elapseOf row) (UInt32.ofInt row.finishedSec) * 60) +
          row.speedUpSec = row.desSec) := by
  have bounds := timed.elapse svc
  have num := timed.billNum svc
  obtain ⟨billed, minutes, ⟨spedUp, even⟩, planned, within, small⟩ := timed
  have count : printed (billNumOf (svc.elapseOf row) (UInt32.ofInt row.finishedSec)) =
      (billNumOf (svc.elapseOf row) (UInt32.ofInt row.finishedSec)).toNat :=
    printed_small (by omega)
  have sixty : (60 : UInt32).toNat = 60 := rfl
  have product : (billNumOf (svc.elapseOf row) (UInt32.ofInt row.finishedSec) * 60).toNat =
      (billNumOf (svc.elapseOf row) (UInt32.ofInt row.finishedSec)).toNat * 60 := by
    rw [UInt32.toNat_mul, sixty]
    exact Nat.mod_eq_of_lt (by omega)
  have seconds : printed (billNumOf (svc.elapseOf row) (UInt32.ofInt row.finishedSec) * 60) =
      (billNumOf (svc.elapseOf row) (UInt32.ofInt row.finishedSec)).toNat * 60 := by
    rw [printed_small (by omega), product]
    rfl
  constructor
  · refine ⟨?_, ?_, ⟨spedUp, even⟩, planned, ?_, small⟩ <;>
      simp only [addBillRow, count, seconds] <;> omega
  · intro last
    rw [seconds]
    omega

/-- An operation that meets the condition keeps the row in time. -/
theorem Trains.timed (effect : Trains tables fuel svc row event changed bills)
    (timed : RowTimed row) (fair : TimedEvent tables fuel svc event) :
    RowTimed changed ∧ changed.desSec = row.desSec ∧ (changed.isFinish = true →
      Stopped bills row.updateID ∨ changed.finishedSec + changed.speedUpSec = changed.desSec) := by
  cases effect with
  | minute role minute checked =>
      obtain ⟨counted, last⟩ := minute_timed timed checked (lostCost tables row.moneyType minute.cost)
      exact ⟨counted, rfl, fun ends => .inr (last ends)⟩
  | speedup body speedupType role exp cost checked =>
      obtain ⟨counted, last⟩ := speedup_timed timed (fair _ checked)
        (speedupEnds row (speedupSecOf speedupType))
      exact ⟨counted, rfl, fun ends => .inr (last ends)⟩
  | stop role sums addBillNum billed checked =>
      subst billed
      obtain ⟨fresh, whole⟩ := fair _ checked
      refine ⟨stop_timed timed fresh whole _, rfl, fun _ => .inl ⟨_, List.mem_singleton_self _, ?_⟩⟩
      exact ⟨rfl, rfl⟩
  | login sums billNum billed switch checked =>
      subst billed
      obtain ⟨counted, last⟩ := login_timed svc timed
        (addBillEnds row (svc.elapseOf row)) sums.costSum
      refine ⟨counted, rfl, fun ends => .inr (last ?_)⟩
      have ends : addBillEnds row (svc.elapseOf row) = true := ends
      exact fair switch (row, sums) checked ends

theorem RowTimed.printed_billNum (timed : RowTimed row) :
    printed (billNumOf (svc.elapseOf row) (UInt32.ofInt row.finishedSec)) =
      (billNumOf (svc.elapseOf row) (UInt32.ofInt row.finishedSec)).toNat := by
  have bounds := timed.elapse svc
  have num := timed.billNum svc
  obtain ⟨billed, minutes, ⟨spedUp, _⟩, _, within, small⟩ := timed
  apply printed_small
  omega

theorem lostBillingChecks_ok {role : TrainedRole} {minute : MinuteGain}
    (checked : svc.lostBillingChecks tables fuel = .ok (role, row, minute)) :
    tables.calcCostPerMinite fuel role.vip role.attr.level role.attr.exp = some minute := by
  obtain ⟨role', _, rest⟩ := bind_ok.mp checked
  obtain ⟨row', _, rest⟩ := bind_ok.mp rest
  split_ifs at rest with left
  obtain ⟨minute', computed, same⟩ := map_ok.mp rest
  obtain ⟨rfl, -, rfl⟩ : role' = role ∧ row' = row ∧ minute' = minute := by simpa using same
  exact expect_ok.mp computed

theorem minute_gain {vip : UInt8} {level exp : UInt32} {minute : MinuteGain}
    (computed : tables.calcCostPerMinite fuel vip level exp = some minute) :
    minute.addExp = tables.gainOf vip level := by
  obtain ⟨gain, gained, rest⟩ := Option.bind_eq_some_iff.mp computed
  obtain ⟨final, _, rfl⟩ := Option.map_eq_some_iff.mp rest
  rw [TrainingTables.gainOf, gained]
  rfl

/-- The bills count the minutes that the row counts, and grant their experience. -/
theorem Trains.billed (effect : Trains tables fuel svc row event changed bills)
    (timed : RowTimed row) :
    changed.billedNum = row.billedNum + billedMinutes bills row.updateID ∧
      ∀ bill ∈ bills, bill.updateID = row.updateID ∧ Granted tables bill := by
  have one (bill : Bill) (same : bill.updateID = row.updateID) :
      billedMinutes [bill] row.updateID = bill.levels.length := by
    simp [billedMinutes, same]
  cases effect with
  | minute role minute checked =>
      rw [one _ rfl]
      refine ⟨rfl, fun bill listed => ?_⟩
      obtain rfl := List.mem_singleton.mp listed
      refine ⟨rfl, ?_⟩
      have gain := minute_gain (lostBillingChecks_ok checked)
      simpa [Granted] using gain
  | speedup body speedupType role exp cost checked =>
      exact ⟨(add_zero _).symm, fun bill listed => absurd listed List.not_mem_nil⟩
  | stop role sums addBillNum billed checked =>
      subst billed
      obtain ⟨_, _, _, forecast⟩ := stopChecks_ok checked
      have gains := TrainingTables.forecast_expSum forecast
      have none : (startOf role.attr).expSum = 0 := rfl
      rw [none, UInt32.zero_add] at gains
      rw [one _ rfl, TrainingTables.minuteLevels_length forecast, ← timed.printed_billNum]
      refine ⟨rfl, fun bill listed => ?_⟩
      obtain rfl := List.mem_singleton.mp listed
      exact ⟨rfl, by rw [Granted, gains]; rfl⟩
  | login sums billNum billed switch checked =>
      subst billed
      obtain ⟨_, forecast⟩ := addBillChecks_some checked
      have forecast : tables.forecastMinutes fuel svc.entered.stored.vip
          (startOf svc.entered.stored.columns.db2Cache)
          (billNumOf (svc.elapseOf row) (UInt32.ofInt row.finishedSec)).toNat = some sums := forecast
      have gains := TrainingTables.forecast_expSum forecast
      have none : (startOf svc.entered.stored.columns.db2Cache).expSum = 0 := rfl
      rw [none, UInt32.zero_add] at gains
      rw [one _ rfl, TrainingTables.minuteLevels_length forecast, ← timed.printed_billNum]
      refine ⟨rfl, fun bill listed => ?_⟩
      obtain rfl := List.mem_singleton.mp listed
      exact ⟨rfl, by rw [Granted, gains]; rfl⟩

end Rows

section States

/-- The time that a training may still take counts until it ends. -/
def reserved (row : OffLineUpdateItem) : Int :=
  if row.isFinish then row.finishedSec + row.speedUpSec else row.desSec

/-- The invariant keeps a day's time for the training that runs. -/
structure Timed (tables : TrainingTables) (svc : OffLineUpdateSvc) : Prop extends TableSound svc where
  timed : ∀ row ∈ svc.rows, RowTimed row
  ended : ∀ row ∈ svc.rows, row.isFinish = true →
    Stopped svc.bills row.updateID ∨ row.finishedSec + row.speedUpSec = row.desSec
  granted : ∀ bill ∈ svc.bills, Granted tables bill
  known : ∀ bill ∈ svc.bills, bill.updateID ≤ svc.lastUpdateID
  minutes : ∀ row ∈ svc.rows, (billedMinutes svc.bills row.updateID : Int) = row.billedNum
  daily : ∀ day, daySum reserved svc.rows day ≤ 86400

variable (weight : OffLineUpdateItem → Int)

theorem daySum_append (first second : List OffLineUpdateItem)
    (day : Nat) : daySum weight (first ++ second) day =
      daySum weight first day + daySum weight second day := by
  rw [daySum, List.filter_append, List.map_append, List.sum_append]
  rfl

theorem daySum_singleton (row : OffLineUpdateItem) (day : Nat) :
    daySum weight [row] day = if row.begDate = day then weight row else 0 := by
  by_cases same : row.begDate = day <;> simp [daySum, same]

theorem daySum_mono {first second : OffLineUpdateItem → Int} {rows : List OffLineUpdateItem}
    (less : ∀ row ∈ rows, first row ≤ second row) (day : Nat) :
    daySum first rows day ≤ daySum second rows day := by
  induction rows with
  | nil => exact Int.le_refl _
  | cons row rows ih =>
      rw [← List.singleton_append, daySum_append, daySum_append, daySum_singleton, daySum_singleton]
      have here := less row List.mem_cons_self
      have rest := ih fun row member => less row (List.mem_cons_of_mem _ member)
      split_ifs <;> omega

theorem daySum_add (first second : OffLineUpdateItem → Int) (rows : List OffLineUpdateItem)
    (day : Nat) : daySum (fun row => first row + second row) rows day =
      daySum first rows day + daySum second rows day := by
  induction rows with
  | nil => rfl
  | cons row rows ih =>
      rw [← List.singleton_append, daySum_append, daySum_append, daySum_append, ih,
        daySum_singleton, daySum_singleton, daySum_singleton]
      split_ifs <;> omega

theorem daySum_zero (rows : List OffLineUpdateItem) (day : Nat) :
    daySum (fun _ => 0) rows day = 0 := by
  simp [daySum]

/-- Only the rows of the day are left. -/
theorem daySum_todays (svc : OffLineUpdateSvc) (day : Nat) :
    daySum weight svc.todays day = if day = svc.today then daySum weight svc.rows day else 0 := by
  rw [daySum, todays, List.filter_filter]
  split_ifs with same
  · rw [daySum, same]
    simp
  · have none : (svc.rows.filter fun row =>
        decide (row.begDate = day) && decide (row.begDate = svc.today)) = [] := by
      apply List.filter_eq_nil_iff.mpr
      intro row _ both
      simp only [Bool.and_eq_true, decide_eq_true_eq] at both
      exact same (both.1.symm.trans both.2)
    rw [none]
    rfl

theorem reserved_nonneg (timed : RowTimed row) : 0 ≤ reserved row := by
  obtain ⟨billed, minutes, ⟨spedUp, _⟩, _, within, small⟩ := timed
  rw [reserved]
  split_ifs <;> omega

/-- The time of a row is within what is reserved for it. -/
theorem time_le_reserved (timed : RowTimed row) :
    row.finishedSec + row.speedUpSec ≤ reserved row := by
  have within := timed.fits
  rw [reserved]
  split_ifs <;> omega

/-- The invariant implies the property. -/
theorem Timed.countsOnce (sound : svc.Timed tables) : CountsOnce tables svc where
  counted row member := (sound.timed row member).finished
  within row member := (sound.timed row member).fits
  ended := sound.ended
  granted := sound.granted
  minutes := sound.minutes
  single := sound.toTableSound.single
  daily day := Int.le_trans
    (daySum_mono (fun row member => time_le_reserved (sound.timed row member)) day)
    (sound.daily day)

theorem billedMinutes_append (first second : List Bill) (updateID : Nat) :
    billedMinutes (first ++ second) updateID =
      billedMinutes first updateID + billedMinutes second updateID := by
  rw [billedMinutes, List.filter_append, List.map_append, List.sum_append]
  rfl

/-- Bills of other trainings count no minutes of this one. -/
theorem billedMinutes_other {updateID : Nat} (others : ∀ bill ∈ bills, bill.updateID ≠ updateID) :
    billedMinutes bills updateID = 0 := by
  have none : (bills.filter fun bill => bill.updateID = updateID) = [] := by
    apply List.filter_eq_nil_iff.mpr
    intro bill member same
    exact others bill member (of_decide_eq_true same)
  rw [billedMinutes, none]
  rfl

theorem Stopped.append {updateID : Nat} (stopped : Stopped bills updateID) (more : List Bill) :
    Stopped (bills ++ more) updateID := by
  obtain ⟨bill, member, same, kind⟩ := stopped
  exact ⟨bill, List.mem_append_left _ member, same, kind⟩

/-- The time of the finished trainings and of the new one fit into the day. -/
theorem begin_daily (sound : svc.Timed tables) (free : svc.resetSwitch.switchOn = false)
    {hangType : UInt8} (time : svc.totalTime hangType ≤ 86400) :
    daySum reserved svc.todays svc.today + hangType.toNat * 3600 ≤ 86400 := by
  have timed (row) (member : row ∈ svc.todays) : RowTimed row :=
    sound.timed row (List.mem_of_mem_filter member)
  have finishedLow : daySum (fun _ => 0) svc.todays svc.today ≤
      daySum OffLineUpdateItem.finishedSec svc.todays svc.today := by
    refine daySum_mono (fun row member => ?_) _
    have counted := (timed row member).finished
    have low := (timed row member).billed
    omega
  have speedLow : daySum (fun _ => 0) svc.todays svc.today ≤
      daySum OffLineUpdateItem.speedUpSec svc.todays svc.today :=
    daySum_mono (fun row member => (timed row member).speed.1) _
  have used : daySum reserved svc.todays svc.today ≤
      daySum (fun row => row.finishedSec + row.speedUpSec) svc.todays svc.today := by
    refine daySum_mono (fun row member => ?_) _
    rw [reserved, if_pos (todays_finished sound.toTableSound free member)]
  have spent : daySum (fun row => row.finishedSec + row.speedUpSec) svc.todays svc.today ≤
      daySum reserved svc.todays svc.today :=
    daySum_mono (fun row member => time_le_reserved (timed row member)) _
  have day := sound.daily svc.today
  have whole := daySum_todays reserved svc svc.today
  have sameDay (weight) : daySum weight svc.todays svc.today = (svc.todays.map weight).sum := by
    rw [daySum_todays, if_pos rfl]
    rfl
  rw [if_pos rfl] at whole
  rw [daySum_zero] at finishedLow speedLow
  rw [daySum_add] at used spent
  have hours : (hangType.toUInt32 * 3600).toNat = hangType.toNat * 3600 := by
    have bound := hangType.toNat_lt
    rw [UInt32.toNat_mul, UInt8.toNat_toUInt32]
    exact Nat.mod_eq_of_lt (show hangType.toNat * 3600 < 4294967296 by omega)
  have finished := toNat_ofInt finishedLow (by omega)
  have speed := toNat_ofInt speedLow (by omega)
  have bound := hangType.toNat_lt
  rw [totalTime, ← sameDay, ← sameDay, UInt32.le_iff_toNat_le, UInt32.toNat_add,
    UInt32.toNat_add, hours, finished, speed, Nat.mod_eq_of_lt (a := _ + _) (by omega),
    Nat.mod_eq_of_lt (by omega)] at time
  have limit : (86400 : UInt32).toNat = 86400 := rfl
  omega

/-- A training that begins has counted no time. -/
theorem beginRow_timed (svc : OffLineUpdateSvc) {hangType : UInt8} (moneyType : UInt8) (cost : UInt32)
    (hours : hangType.toNat * 3600 ≤ 86400) :
    RowTimed (svc.beginRow hangType moneyType cost) := by
  refine ⟨Int.le_refl _, rfl, ⟨Int.le_refl _, rfl⟩, ?_, ?_, ?_⟩ <;> simp only [beginRow] <;> omega

theorem Timed.kept (sound : svc.Timed tables) (table : next.TableSound)
    (rows : next.rows = svc.rows ∨ next.rows = svc.todays) (bills : next.bills = svc.bills)
    (issued : next.lastUpdateID = svc.lastUpdateID) : next.Timed tables := by
  have subset := (rows_sublist rows).subset
  constructor
  · exact table
  · intro row member
    exact sound.timed row (subset member)
  · intro row member
    rw [bills]
    exact sound.ended row (subset member)
  · rw [bills]
    exact sound.granted
  · rw [bills, issued]
    exact sound.known
  · intro row member
    rw [bills]
    exact sound.minutes row (subset member)
  · intro day
    rcases rows with same | fewer
    · rw [same]
      exact sound.daily day
    · rw [fewer, daySum_todays]
      split_ifs
      · exact sound.daily day
      · decide

/-- A training begins within the time that is left of the day. -/
theorem Timed.begun (sound : svc.Timed tables) (role : TrainedRole) {hangType : UInt8}
    (moneyType : UInt8) (cost : UInt32) (free : svc.resetSwitch.switchOn = false)
    (time : svc.totalTime hangType ≤ 86400) :
    (svc.deleteOtherDays.takeoffAndLockMoney tables fuel role hangType moneyType
      cost).Timed tables := by
  obtain ⟨rows, bills, issued, -⟩ :=
    takeoffAndLockMoney_tables tables fuel svc role hangType moneyType cost
  have room := begin_daily sound free time
  have low : daySum (fun _ => 0) svc.todays svc.today ≤ daySum reserved svc.todays svc.today :=
    daySum_mono (fun row member =>
      reserved_nonneg (sound.timed row (List.mem_of_mem_filter member))) _
  rw [daySum_zero] at low
  have older (row) (member : row ∈ svc.todays) : row ∈ svc.rows := List.mem_of_mem_filter member
  constructor
  · exact sound.toTableSound.begun free role hangType moneyType cost
  · rw [rows]
    refine List.forall_mem_append.mpr ⟨fun row old => sound.timed row (older row old), ?_⟩
    exact List.forall_mem_singleton.mpr (beginRow_timed svc moneyType cost (by omega))
  · rw [rows, bills]
    refine List.forall_mem_append.mpr ⟨fun row old => sound.ended row (older row old), ?_⟩
    exact List.forall_mem_singleton.mpr fun ends => Bool.noConfusion ends
  · rw [bills]
    exact sound.granted
  · intro bill listed
    rw [bills] at listed
    rw [issued]
    exact Nat.le_succ_of_le (sound.known bill listed)
  · rw [rows, bills]
    refine List.forall_mem_append.mpr ⟨fun row old => sound.minutes row (older row old), ?_⟩
    rw [List.forall_mem_singleton, billedMinutes_other]
    · rfl
    · intro bill listed same
      have bound := sound.known bill listed
      have key : bill.updateID = svc.lastUpdateID + 1 := same
      omega
  · intro day
    rw [rows, daySum_append, daySum_singleton, daySum_todays]
    have running : reserved (svc.beginRow hangType moneyType cost) = hangType.toNat * 3600 := rfl
    have date : (svc.beginRow hangType moneyType cost).begDate = svc.today := rfl
    rw [running, date]
    rw [daySum_todays, if_pos rfl] at room
    split_ifs with here there there
    · rw [here]
      exact room
    · exact absurd here.symm there
    · exact absurd there.symm here
    · decide

/-- The changed row counts its own bills, and needs no more of its day than before. -/
theorem Timed.trained {earlier : List OffLineUpdateItem} (sound : svc.Timed tables)
    (table : next.TableSound) (effect : Trains tables fuel svc row event changed bills)
    (fair : TimedEvent tables fuel svc event) (unfinished : row.isFinish = false)
    (before : svc.rows = earlier ++ [row]) (after : next.rows = earlier ++ [changed])
    (others : ∀ entry ∈ earlier, entry.updateID ≠ row.updateID)
    (written : next.bills = svc.bills ++ bills) (issued : next.lastUpdateID = svc.lastUpdateID) :
    next.Timed tables := by
  have stored : row ∈ svc.rows := by
    rw [before]
    exact List.mem_append_right _ (List.mem_singleton_self row)
  have old (entry) (member : entry ∈ earlier) : entry ∈ svc.rows := by
    rw [before]
    exact List.mem_append_left _ member
  obtain ⟨counted, planned, last⟩ := effect.timed (sound.timed row stored) fair
  obtain ⟨num, granted⟩ := effect.billed (sound.timed row stored)
  obtain ⟨sameID, sameDate⟩ := effect.kept
  constructor
  · exact table
  · rw [after]
    refine List.forall_mem_append.mpr ⟨fun entry here => sound.timed entry (old entry here), ?_⟩
    exact List.forall_mem_singleton.mpr counted
  · rw [after, written]
    refine List.forall_mem_append.mpr ⟨fun entry here ends => ?_, ?_⟩
    · exact (sound.ended entry (old entry here) ends).imp_left fun stopped => stopped.append bills
    · rw [List.forall_mem_singleton]
      refine fun ends => (last ends).imp_left fun stopped => ?_
      obtain ⟨bill, listed, same, kind⟩ := stopped
      exact ⟨bill, List.mem_append_right _ listed, same.trans sameID.symm, kind⟩
  · rw [written]
    exact List.forall_mem_append.mpr ⟨sound.granted, fun bill new => (granted bill new).2⟩
  · rw [written, issued]
    refine List.forall_mem_append.mpr ⟨sound.known, fun bill new => ?_⟩
    rw [(granted bill new).1]
    exact sound.issued row stored
  · rw [after, written]
    refine List.forall_mem_append.mpr ⟨fun entry here => ?_, ?_⟩
    · have none : billedMinutes bills entry.updateID = 0 :=
        billedMinutes_other fun bill listed same =>
          others entry here (same.symm.trans (granted bill listed).1)
      rw [billedMinutes_append, none, Nat.add_zero]
      exact sound.minutes entry (old entry here)
    · rw [List.forall_mem_singleton, billedMinutes_append, sameID, num, Nat.cast_add,
        sound.minutes row stored]
  · intro day
    have budget := sound.daily day
    rw [before, daySum_append, daySum_singleton] at budget
    rw [after, daySum_append, daySum_singleton, sameDate]
    have less : reserved changed ≤ reserved row := by
      have fits := counted.fits
      rw [reserved, reserved, unfinished, if_neg Bool.false_ne_true, ← planned]
      split_ifs <;> omega
    split_ifs at budget ⊢ <;> omega

/-- A step that meets the condition keeps the invariant. -/
theorem Advance.timed (sound : svc.Timed tables) (advance : Advance tables fuel svc event next)
    (fair : TimedEvent tables fuel svc event) : next.Timed tables := by
  have table := advance.tableSound sound.toTableSound
  cases advance with
  | kept rows bills _ issued _ _ => exact sound.kept table rows bills issued
  | begun role hangType moneyType cost _ _ free time _ result =>
      rw [result]
      exact sound.begun role moneyType cost free time
  | trained row changed bills selected effect rows written _ issued clock _ =>
      obtain ⟨earlier, before, after, others⟩ := rows
      exact sound.trained table effect fair (selectUnfinished_spec selected).2 before after
        (fun entry member => (others entry member).2) written issued

/-- A role that has not yet trained. -/
structure Fresh (svc : OffLineUpdateSvc) : Prop where
  rows : svc.rows = []
  bills : svc.bills = []
  deposits : svc.deposits = []

theorem Fresh.tableSound (fresh : svc.Fresh) : svc.TableSound := by
  constructor <;> simp [fresh.rows]

theorem Fresh.timed (fresh : svc.Fresh) : svc.Timed tables := by
  constructor
  · exact fresh.tableSound
  all_goals simp [fresh.rows, fresh.bills, daySum]

end States

section Examples

/-- A condition on the outcome of some checks can be decided. -/
def decidableOk {Found : Type} (checked : Except UInt32 Found) (holds : Found → Prop)
    [DecidablePred holds] : Decidable (∀ found, checked = .ok found → holds found) :=
  decidable_of_iff (checked.toOption.all (fun found => holds found) = true) (by
    cases checked <;> simp [Except.toOption])

/-- A condition on the settlement at a login can be decided. -/
def decidableLogin {Found : Type} (switch : Bool) (checked : Option Found) (holds : Found → Prop)
    [DecidablePred holds] :
    Decidable (switch = true → ∀ found, checked = some found → holds found) :=
  decidable_of_iff ((!switch || checked.all (fun found => holds found)) = true) (by
    cases switch <;> simp [Option.all_eq_true])

instance (tables : TrainingTables) (fuel : Nat) (svc : OffLineUpdateSvc) :
    (event : TrainingEvent) → Decidable (TimedEvent tables fuel svc event)
  | .speedup body => decidableOk (svc.speedupChecks tables fuel body) fun found =>
      found.2.2.1.finishedSec + found.2.2.1.speedUpSec + printed (speedupSecOf found.1) ≤
        found.2.2.1.desSec
  | .stop => decidableOk (svc.stopChecks tables fuel) fun found =>
      found.2.1.finishedSec = 0 ∧ (svc.elapseOf found.2.1).toNat % 60 = 0
  | .enterMap => decidableLogin svc.entered.stored.isOfflineUpdate
      (svc.entered.addBillChecks tables fuel) fun found => svc.FillsTime found.1
  | .begin _ | .lostBilling | .exitMap | .save | .clock _ _ | .role _ _ | .money _ _ _ =>
      .isTrue trivial

/-- Every level needs a thousand points, and a minute gains ten. -/
def thousandTables : TrainingTables where
  maxExp := fun _ => some 1000
  expPerMinute := fun _ => some 10
  round := id

/-- A role of level eleven logs in for the first time. -/
def newcomer : OffLineUpdateSvc where
  now := 0
  today := 0
  stored := ⟨⟨11, 0, 1000, 0⟩, 0, false⟩
  cached := none
  money := 100
  bindMoney := 100
  gold := 100
  rows := []
  lastUpdateID := 0
  bills := []
  deposits := []

theorem newcomer_fresh : newcomer.Fresh := ⟨rfl, rfl, rfl⟩

end Examples

end AppSvr.MainServer.OffLineUpdateSvc
