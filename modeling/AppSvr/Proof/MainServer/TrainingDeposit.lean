/-
This file proves when the deposit of a training is settled.
-/

import AppSvr.Proof.MainServer.TrainingTime
import Mathlib.Tactic.Linarith
import Mathlib.Tactic.Positivity

namespace AppSvr.MainServer

open PkServer (toInt)

/-- The conversions keep the whole part of a number in their range. -/
theorem castUInt32_toNat {value : ℚ} (low : 0 ≤ value) (high : value < 4294967296) :
    ((castUInt32 value).toNat : Int) = value.floor := by
  have whole : value.num.tdiv value.den = value.floor := by
    rw [Rat.floor_def, Int.tdiv_eq_ediv_of_nonneg (Rat.num_nonneg.mpr low)]
  have nonneg : 0 ≤ value.floor := Rat.le_floor_iff.mpr (by exact_mod_cast low)
  have bound : value.floor < 4294967296 := Rat.floor_lt_iff.mpr (by exact_mod_cast high)
  rw [castUInt32, whole, UInt32.toNat_ofNat']
  omega

theorem toInt_intCast {value : Int} (low : -2147483648 ≤ value) (high : value ≤ 2147483647) :
    toInt (value : ℚ) = value := by
  have cut : (value : ℚ).num.tdiv (value : ℚ).den = value := by
    rw [Rat.num_intCast, Rat.den_intCast]
    exact Int.tdiv_one value
  rw [toInt, cut, if_pos ⟨low, high⟩]

variable (moneyType : UInt8) (levels : List UInt32)

/-- The price of a minute at a level, in the currency of the training. -/
def minuteRate (level : UInt32) : ℚ :=
  let silver : ℚ := 5 * level.toNat * level.toNat / 1000
  if moneyType = 2 then silver * (2 / 300) else silver

/-- The price of some minutes. -/
def priceOf : ℚ :=
  (levels.map (minuteRate moneyType)).sum

theorem minuteRate_nonneg (level : UInt32) : 0 ≤ minuteRate moneyType level := by
  simp only [minuteRate]
  split_ifs <;> positivity

theorem priceOf_nonneg : 0 ≤ priceOf moneyType levels := by
  apply List.sum_nonneg
  intro cost listed
  obtain ⟨level, _, rfl⟩ := List.mem_map.mp listed
  exact minuteRate_nonneg moneyType level

/-- Gold is a fixed part of the silver. -/
theorem priceOf_gold : priceOf 2 levels = priceOf 1 levels * (2 / 300) := by
  induction levels with
  | nil => simp [priceOf]
  | cons level levels ih =>
      simp only [priceOf, List.map_cons, List.sum_cons] at ih ⊢
      rw [ih, add_mul]
      rfl

theorem priceOf_silver {moneyType : UInt8} (silver : moneyType ≠ 2) (levels : List UInt32) :
    priceOf moneyType levels = priceOf 1 levels := by
  have same : minuteRate moneyType = minuteRate 1 := by
    ext level
    rw [minuteRate, if_neg silver]
    rfl
  rw [priceOf, same, priceOf]

section Costs

variable {tables : TrainingTables} (exact : ∀ value, tables.round value = value)
include exact

/-- The square of a level of sixteen bits is not cut off. -/
theorem minuteCost_eq {level : UInt32} (small : level.toNat < 65536) :
    tables.minuteCost level = minuteRate 1 level := by
  have square : (level * level).toNat = level.toNat * level.toNat := by
    rw [UInt32.toNat_mul]
    exact Nat.mod_eq_of_lt (show _ < 65536 * 65536 from Nat.mul_lt_mul'' small small)
  rw [TrainingTables.minuteCost, exact, exact, square, minuteRate, if_neg (by decide)]
  push_cast
  ring

theorem minuteCosts_eq {levels : List UInt32} (small : ∀ level ∈ levels, level.toNat < 65536) :
    (levels.map tables.minuteCost).sum = priceOf 1 levels := by
  rw [priceOf]
  apply congrArg
  apply List.map_congr_left
  intro level listed
  exact minuteCost_eq exact (small level listed)

end Costs

namespace OffLineUpdateSvc

open TransitionSystem

variable {tables : TrainingTables} {fuel : Nat} {svc next : OffLineUpdateSvc}
  {row changed : OffLineUpdateItem} {event : TrainingEvent} {bills : List Bill}

/-- The bills of a training add up. -/
def billCost (bills : List Bill) (updateID : Nat) : ℚ :=
  ((bills.filter fun bill => bill.updateID = updateID).map Bill.cost).sum

/-- The rest of a deposit in whole pieces. -/
def restOf (row : OffLineUpdateItem) : Int := (row.lockMoney - row.billedMoney : ℚ).floor

/-- A stop changes nothing, or it ends a training and gives the rest of its deposit back in the
currency of the training. -/
def GivesBack (svc next : OffLineUpdateSvc) : Prop :=
  next = svc ∨ ∃ row changed, svc.selectUnfinished = some row ∧ changed ∈ next.rows ∧
    changed.updateID = row.updateID ∧ changed.isFinish = true ∧
    changed.lockMoney = row.lockMoney ∧ changed.moneyType = row.moneyType ∧ 0 ≤ restOf changed ∧
    next.money = svc.money ∧
    next.bindMoney = svc.bindMoney + (if row.moneyType = 2 then 0 else restOf changed) ∧
    next.gold = svc.gold + if row.moneyType = 2 then restOf changed else 0

/-- The deposits are forecast and the minutes billed at one rate, the bills stay within the deposit,
and a stop gives the rest back once. -/
structure Settles (tables : TrainingTables) (fuel : Nat)
    (history : History OffLineUpdateSvc TrainingEvent) (svc : OffLineUpdateSvc) : Prop where
  forecast : ∀ deposit ∈ svc.deposits,
    (deposit.lockMoney.toNat : Int) = (priceOf deposit.moneyType deposit.levels).ceil
  locked : ∀ row ∈ svc.rows, ∃ deposit ∈ svc.deposits, deposit.updateID = row.updateID ∧
    deposit.moneyType = row.moneyType ∧ row.lockMoney = deposit.lockMoney.toNat
  rated : ∀ bill ∈ svc.bills, bill.cost = priceOf bill.moneyType bill.levels
  currency : ∀ row ∈ svc.rows, ∀ bill ∈ svc.bills, bill.updateID = row.updateID →
    bill.moneyType = row.moneyType
  summed : ∀ row ∈ svc.rows, row.billedMoney = billCost svc.bills row.updateID
  covered : ∀ row ∈ svc.rows, row.billedMoney ≤ row.lockMoney
  returned : ∀ before, (before, TrainingEvent.stop) ∈ history → ∀ next,
    before.step tables fuel .stop = some next → GivesBack before next
  once : ((svc.bills.filter fun bill => bill.kind = .stop).map Bill.updateID).Nodup

/-- The levels have sixteen bits, the deposit covers the minutes, and the minutes of a gold training
cost nothing unless the operation prices them alike. -/
def CanPay (row : OffLineUpdateItem) (levels : List UInt32) (alike : Prop) : Prop :=
  (∀ level ∈ levels, level.toNat < 65536) ∧
    (row.moneyType = 2 → alike ∨ priceOf 1 levels = 0) ∧
    row.billedMoney + priceOf row.moneyType levels ≤ row.lockMoney

instance (row : OffLineUpdateItem) (levels : List UInt32) (alike : Prop) [Decidable alike] :
    Decidable (CanPay row levels alike) :=
  decidable_of_iff (levels.all (fun level => level.toNat < 65536) = true ∧
      (row.moneyType = 2 → alike ∨ priceOf 1 levels = 0) ∧
      row.billedMoney + priceOf row.moneyType levels ≤ row.lockMoney) (by
    rw [CanPay, List.all_eq_true]
    simp only [decide_eq_true_eq])

/-- The deposit of a request that begins a training. -/
def begins (tables : TrainingTables) (fuel : Nat) (svc : OffLineUpdateSvc)
    (body : Option (UInt8 × UInt8)) : Option (TrainedRole × UInt8 × UInt8 × UInt32) :=
  body.bind fun body => svc.cached.bind fun role =>
    (svc.beginDeposit tables fuel role body.1 body.2).toOption.map fun cost =>
      (role, body.1, body.2, cost)

/-- The levels have sixteen bits, and the deposit fits into a signed number. -/
def CanLock (tables : TrainingTables) (fuel : Nat) (role : TrainedRole) (hangType moneyType : UInt8) :
    Prop :=
  let levels := tables.minuteLevels fuel role.vip (startOf role.attr) (60 * hangType.toNat)
  (∀ level ∈ levels, level.toNat < 65536) ∧ priceOf moneyType levels ≤ 2147483647

instance (tables : TrainingTables) (fuel : Nat) (role : TrainedRole) (hangType moneyType : UInt8) :
    Decidable (CanLock tables fuel role hangType moneyType) :=
  decidable_of_iff
    (let levels := tables.minuteLevels fuel role.vip (startOf role.attr) (60 * hangType.toNat)
    levels.all (fun level => level.toNat < 65536) = true ∧
      priceOf moneyType levels ≤ 2147483647) (by
    simp only [CanLock, List.all_eq_true, decide_eq_true_eq])

/-- Only a stop of exactly thirty minutes prices gold like the forecast. -/
def PaidEvent (tables : TrainingTables) (fuel : Nat) (svc : OffLineUpdateSvc) : TrainingEvent → Prop
  | .begin body => ∀ found, svc.begins tables fuel body = some found →
      CanLock tables fuel found.1 found.2.1 found.2.2.1
  | .lostBilling => ∀ found, svc.lostBillingChecks tables fuel = .ok found →
      CanPay found.2.1 [found.1.attr.level] False
  | .stop => ∀ found, svc.stopChecks tables fuel = .ok found →
      let addBillNum := billNumOf (svc.elapseOf found.2.1) (UInt32.ofInt found.2.1.finishedSec)
      CanPay found.2.1 (tables.minuteLevels fuel found.1.vip (startOf found.1.attr) addBillNum.toNat)
        (addBillNum = 30)
  | .enterMap => svc.entered.stored.isOfflineUpdate = true →
      ∀ found, svc.entered.addBillChecks tables fuel = some found →
        CanPay found.1 (tables.minuteLevels fuel svc.entered.stored.vip
          (startOf svc.entered.stored.columns.db2Cache)
          (billNumOf (svc.elapseOf found.1) (UInt32.ofInt found.1.finishedSec)).toNat) False
  | _ => True

theorem minute_cost {vip : UInt8} {level exp : UInt32} {minute : MinuteGain}
    (computed : tables.calcCostPerMinite fuel vip level exp = some minute) :
    minute.cost = tables.minuteCost level := by
  obtain ⟨gain, _, rest⟩ := Option.bind_eq_some_iff.mp computed
  obtain ⟨final, _, rfl⟩ := Option.map_eq_some_iff.mp rest
  rfl

section Prices

variable (exact : ∀ value, tables.round value = value)
include exact

/-- The sum of a forecast is the price in silver. -/
theorem forecast_price {vip : UInt8} {attr : AttrGeneral} {minutes : Nat} {sums : Forecast}
    (forecast : tables.forecastMinutes fuel vip (startOf attr) minutes = some sums)
    (small : ∀ level ∈ tables.minuteLevels fuel vip (startOf attr) minutes, level.toNat < 65536) :
    sums.costSum = priceOf 1 (tables.minuteLevels fuel vip (startOf attr) minutes) := by
  rw [TrainingTables.forecast_costSum exact forecast, minuteCosts_eq exact small]
  exact zero_add _

theorem lostCost_price {moneyType : UInt8} {level : UInt32} (small : level.toNat < 65536)
    (free : moneyType = 2 → priceOf 1 [level] = 0) :
    lostCost tables moneyType (tables.minuteCost level) = priceOf moneyType [level] := by
  have single (moneyType) : priceOf moneyType [level] = minuteRate moneyType level := by
    simp [priceOf]
  rw [lostCost, minuteCost_eq exact small]
  split_ifs with gold
  · have none := free gold
    rw [gold, priceOf_gold, none, ← single, none, exact]
    simp
  · rw [priceOf_silver gold, single]

/-- The price of a stop is right for silver, for nothing and for thirty minutes. -/
theorem stopCost_price {moneyType : UInt8} {addBillNum : UInt32} {levels : List UInt32}
    (length : levels.length = addBillNum.toNat)
    (alike : moneyType = 2 → addBillNum = 30 ∨ priceOf 1 levels = 0) :
    stopCost tables moneyType addBillNum (priceOf 1 levels) = priceOf moneyType levels := by
  rw [stopCost]
  split_ifs with gold none few
  · rw [none] at length
    rw [List.eq_nil_of_length_eq_zero length]
    rfl
  · subst gold
    rcases alike rfl with thirty | nothing
    · rw [thirty] at few
      exact absurd few (by decide)
    · rw [priceOf_gold, nothing]
      simp [exact]
  · subst gold
    rw [priceOf_gold]
    rcases alike rfl with thirty | nothing
    · have num : (30 : UInt32).toNat = 30 := rfl
      rw [thirty, num]
      simp only [exact]
      push_cast
      ring
    · rw [nothing]
      simp [exact]
  · rw [priceOf_silver gold]

/-- An operation that meets the condition bills the price of its minutes. -/
theorem Trains.paid (effect : Trains tables fuel svc row event changed bills)
    (fair : PaidEvent tables fuel svc event) (within : row.billedMoney ≤ row.lockMoney) :
    changed.lockMoney = row.lockMoney ∧ changed.moneyType = row.moneyType ∧
      changed.billedMoney = row.billedMoney + billCost bills row.updateID ∧
      changed.billedMoney ≤ changed.lockMoney ∧
      ∀ bill ∈ bills, bill.updateID = row.updateID ∧ bill.moneyType = row.moneyType ∧
        bill.cost = priceOf bill.moneyType bill.levels := by
  have one (bill : Bill) (same : bill.updateID = row.updateID) :
      billCost [bill] row.updateID = bill.cost := by
    simp [billCost, same]
  cases effect with
  | minute role minute checked =>
      obtain ⟨small, alike, covered⟩ := fair _ checked
      have small : role.attr.level.toNat < 65536 := small _ List.mem_cons_self
      have cost := minute_cost (lostBillingChecks_ok checked)
      have price := lostCost_price exact small fun gold => (alike gold).resolve_left not_false
      rw [cost, one _ rfl, price]
      refine ⟨rfl, rfl, rfl, covered, fun bill listed => ?_⟩
      obtain rfl := List.mem_singleton.mp listed
      exact ⟨rfl, rfl, rfl⟩
  | speedup body speedupType role exp cost checked =>
      exact ⟨rfl, rfl, (add_zero _).symm, within, fun bill listed => absurd listed List.not_mem_nil⟩
  | stop role sums addBillNum billed checked =>
      subst billed
      obtain ⟨small, alike, covered⟩ := fair _ checked
      obtain ⟨_, _, _, forecast⟩ := stopChecks_ok checked
      have price := stopCost_price exact (TrainingTables.minuteLevels_length forecast) alike
      rw [← forecast_price exact forecast small] at price
      rw [one _ rfl, price]
      refine ⟨rfl, rfl, rfl, covered, fun bill listed => ?_⟩
      obtain rfl := List.mem_singleton.mp listed
      exact ⟨rfl, rfl, rfl⟩
  | login sums billNum billed switch checked =>
      subst billed
      obtain ⟨small, alike, covered⟩ := fair switch _ checked
      obtain ⟨_, forecast⟩ := addBillChecks_some checked
      have price := forecast_price exact forecast small
      have same : priceOf row.moneyType (tables.minuteLevels fuel svc.entered.stored.vip
          (startOf svc.entered.stored.columns.db2Cache)
          (billNumOf (svc.elapseOf row) (UInt32.ofInt row.finishedSec)).toNat) = sums.costSum := by
        by_cases gold : row.moneyType = 2
        · have nothing := (alike gold).resolve_left not_false
          rw [gold, priceOf_gold, nothing, zero_mul]
          exact nothing.symm.trans price.symm
        · rw [priceOf_silver gold]
          exact price.symm
      rw [one _ rfl, ← same]
      refine ⟨rfl, rfl, rfl, covered, fun bill listed => ?_⟩
      obtain rfl := List.mem_singleton.mp listed
      exact ⟨rfl, rfl, rfl⟩

/-- A deposit is the price of its forecast, rounded up. -/
theorem beginDeposit_price {role : TrainedRole} {hangType moneyType : UInt8} {cost : UInt32}
    (deposit : svc.beginDeposit tables fuel role hangType moneyType = .ok cost)
    (fits : CanLock tables fuel role hangType moneyType) :
    (cost.toNat : Int) = (priceOf moneyType (tables.minuteLevels fuel role.vip (startOf role.attr)
      (60 * hangType.toNat))).ceil ∧ cost.toNat ≤ 2147483647 := by
  obtain ⟨sums, computed, rest⟩ := bind_ok.mp deposit
  obtain ⟨cost', price, rest⟩ := bind_ok.mp rest
  split_ifs at rest with enough
  obtain rfl := Except.ok.inj rest
  obtain ⟨small, most⟩ := fits
  obtain ⟨final, forecast, rfl⟩ := Option.map_eq_some_iff.mp (expect_ok.mp computed)
  have silver := forecast_price exact forecast small
  have whole {value : ℚ} (low : 0 ≤ value) (high : value ≤ 2147483647) :
      ((UInt32.ofInt (toInt value.ceil)).toNat : Int) = value.ceil ∧ value.ceil ≤ 2147483647 := by
    have nonneg : 0 ≤ value.ceil := by
      have above : value ≤ value.ceil := Rat.le_ceil
      exact_mod_cast low.trans above
    have bound : value.ceil ≤ 2147483647 := Rat.ceil_le_iff.mpr (by exact_mod_cast high)
    rw [toInt_intCast (by omega) bound, toNat_ofInt nonneg (by omega)]
    omega
  have priced := whole (priceOf_nonneg _ _) most
  rw [depositOf] at price
  split_ifs at price with one two
  · obtain rfl := Except.ok.inj price
    have silver : final.costSum = priceOf moneyType (tables.minuteLevels fuel role.vip
        (startOf role.attr) (60 * hangType.toNat)) := by
      rw [silver, one]
    change ((UInt32.ofInt (toInt final.costSum.ceil)).toNat : Int) = _ ∧
      (UInt32.ofInt (toInt final.costSum.ceil)).toNat ≤ _
    rw [silver]
    exact ⟨priced.1, by omega⟩
  · obtain rfl := Except.ok.inj price
    have gold : tables.round (tables.round (final.costSum / 300) * 2) =
        priceOf moneyType (tables.minuteLevels fuel role.vip (startOf role.attr)
          (60 * hangType.toNat)) := by
      rw [exact, exact, silver, two, priceOf_gold]
      ring
    rw [gold]
    exact ⟨priced.1, by omega⟩

end Prices

section States

/-- The invariant bounds the amounts and keeps stopped trainings finished. -/
structure Paid (tables : TrainingTables) (svc : OffLineUpdateSvc) : Prop extends TableSound svc where
  forecast : ∀ deposit ∈ svc.deposits,
    (deposit.lockMoney.toNat : Int) = (priceOf deposit.moneyType deposit.levels).ceil
  locked : ∀ row ∈ svc.rows, ∃ deposit ∈ svc.deposits, deposit.updateID = row.updateID ∧
    deposit.moneyType = row.moneyType ∧ row.lockMoney = deposit.lockMoney.toNat
  bounded : ∀ row ∈ svc.rows, row.lockMoney ≤ 2147483647
  rated : ∀ bill ∈ svc.bills, bill.cost = priceOf bill.moneyType bill.levels
  known : ∀ bill ∈ svc.bills, bill.updateID ≤ svc.lastUpdateID
  currency : ∀ row ∈ svc.rows, ∀ bill ∈ svc.bills, bill.updateID = row.updateID →
    bill.moneyType = row.moneyType
  summed : ∀ row ∈ svc.rows, row.billedMoney = billCost svc.bills row.updateID
  covered : ∀ row ∈ svc.rows, row.billedMoney ≤ row.lockMoney
  running : ∀ row ∈ svc.rows, row.isFinish = false → ¬ Stopped svc.bills row.updateID
  once : ((svc.bills.filter fun bill => bill.kind = .stop).map Bill.updateID).Nodup

theorem billCost_append (first second : List Bill) (updateID : Nat) :
    billCost (first ++ second) updateID = billCost first updateID + billCost second updateID := by
  rw [billCost, List.filter_append, List.map_append, List.sum_append]
  rfl

theorem billCost_other {updateID : Nat} (others : ∀ bill ∈ bills, bill.updateID ≠ updateID) :
    billCost bills updateID = 0 := by
  have none : (bills.filter fun bill => bill.updateID = updateID) = [] := by
    apply List.filter_eq_nil_iff.mpr
    intro bill member same
    exact others bill member (of_decide_eq_true same)
  rw [billCost, none]
  rfl

/-- The bills of a sound service cost nothing less than nothing. -/
theorem billCost_nonneg (rated : ∀ bill ∈ bills, bill.cost = priceOf bill.moneyType bill.levels)
    (updateID : Nat) : 0 ≤ billCost bills updateID := by
  apply List.sum_nonneg
  intro cost listed
  obtain ⟨bill, member, rfl⟩ := List.mem_map.mp listed
  rw [rated bill (List.mem_of_mem_filter member)]
  exact priceOf_nonneg _ _

/-- Only a stop writes the bill of a stop. -/
theorem Trains.stops (effect : Trains tables fuel svc row event changed bills) :
    (∀ bill ∈ bills, bill.kind ≠ .stop) ∨ (changed.isFinish = true ∧ ∃ bill, bills = [bill]) := by
  cases effect with
  | minute =>
      left
      intro bill listed
      rw [List.mem_singleton.mp listed]
      exact BillKind.noConfusion
  | speedup => exact .inl fun bill listed => absurd listed List.not_mem_nil
  | stop => exact .inr ⟨rfl, _, rfl⟩
  | login =>
      left
      intro bill listed
      rw [List.mem_singleton.mp listed]
      exact BillKind.noConfusion

theorem Paid.kept (sound : svc.Paid tables) (table : next.TableSound)
    (rows : next.rows = svc.rows ∨ next.rows = svc.todays) (bills : next.bills = svc.bills)
    (deposits : next.deposits = svc.deposits) (issued : next.lastUpdateID = svc.lastUpdateID) :
    next.Paid tables := by
  have subset := (rows_sublist rows).subset
  constructor
  · exact table
  · rw [deposits]
    exact sound.forecast
  · rw [deposits]
    exact fun row member => sound.locked row (subset member)
  · exact fun row member => sound.bounded row (subset member)
  · rw [bills]
    exact sound.rated
  · rw [bills, issued]
    exact sound.known
  · rw [bills]
    exact fun row member => sound.currency row (subset member)
  · rw [bills]
    exact fun row member => sound.summed row (subset member)
  · exact fun row member => sound.covered row (subset member)
  · rw [bills]
    exact fun row member => sound.running row (subset member)
  · rw [bills]
    exact sound.once

/-- A training begins with its whole price as the deposit. -/
theorem Paid.begun (exact : ∀ value, tables.round value = value) (sound : svc.Paid tables)
    {role : TrainedRole} {hangType moneyType : UInt8} {cost : UInt32}
    (free : svc.resetSwitch.switchOn = false)
    (deposit : svc.beginDeposit tables fuel role hangType moneyType = .ok cost)
    (fits : CanLock tables fuel role hangType moneyType) :
    (svc.deleteOtherDays.takeoffAndLockMoney tables fuel role hangType moneyType
      cost).Paid tables := by
  obtain ⟨price, small⟩ := beginDeposit_price exact deposit fits
  obtain ⟨rows, bills, issued, -⟩ :=
    takeoffAndLockMoney_tables tables fuel svc role hangType moneyType cost
  have deposits : (svc.deleteOtherDays.takeoffAndLockMoney tables fuel role hangType moneyType
      cost).deposits = svc.deposits ++ [⟨svc.lastUpdateID + 1, moneyType,
        tables.minuteLevels fuel role.vip (startOf role.attr) (60 * hangType.toNat), cost⟩] := rfl
  have lockMoney : (svc.beginRow hangType moneyType cost).lockMoney = cost.toNat :=
    printed_small (by omega)
  have older (row) (member : row ∈ svc.todays) : row ∈ svc.rows := List.mem_of_mem_filter member
  have fresh (bill) (listed : bill ∈ svc.bills) :
      bill.updateID ≠ (svc.beginRow hangType moneyType cost).updateID := by
    have bound := sound.known bill listed
    change bill.updateID ≠ svc.lastUpdateID + 1
    omega
  constructor
  · exact sound.toTableSound.begun free role hangType moneyType cost
  · rw [deposits]
    exact List.forall_mem_append.mpr ⟨sound.forecast, List.forall_mem_singleton.mpr price⟩
  · rw [rows, deposits]
    refine List.forall_mem_append.mpr ⟨fun row old => ?_, List.forall_mem_singleton.mpr ?_⟩
    · obtain ⟨entry, listed, same⟩ := sound.locked row (older row old)
      exact ⟨entry, List.mem_append_left _ listed, same⟩
    · exact ⟨_, List.mem_append_right _ (List.mem_singleton_self _), rfl, rfl, lockMoney⟩
  · rw [rows]
    refine List.forall_mem_append.mpr ⟨fun row old => sound.bounded row (older row old), ?_⟩
    rw [List.forall_mem_singleton, lockMoney]
    omega
  · rw [bills]
    exact sound.rated
  · intro bill listed
    rw [bills] at listed
    rw [issued]
    exact Nat.le_succ_of_le (sound.known bill listed)
  · rw [rows, bills]
    refine List.forall_mem_append.mpr ⟨fun row old => sound.currency row (older row old), ?_⟩
    exact List.forall_mem_singleton.mpr fun bill listed same => absurd same (fresh bill listed)
  · rw [rows, bills]
    refine List.forall_mem_append.mpr ⟨fun row old => sound.summed row (older row old), ?_⟩
    rw [List.forall_mem_singleton, billCost_other fresh]
    rfl
  · rw [rows]
    refine List.forall_mem_append.mpr ⟨fun row old => sound.covered row (older row old), ?_⟩
    have nothing : (svc.beginRow hangType moneyType cost).billedMoney = 0 := rfl
    rw [List.forall_mem_singleton, lockMoney, nothing]
    exact_mod_cast Nat.zero_le cost.toNat
  · rw [rows, bills]
    refine List.forall_mem_append.mpr ⟨fun row old => sound.running row (older row old), ?_⟩
    rw [List.forall_mem_singleton]
    rintro - ⟨bill, listed, same, -⟩
    exact fresh bill listed same
  · rw [bills]
    exact sound.once

section Trained

variable {changed : OffLineUpdateItem}

/-- A training that is not stopped gets the bill of at most one stop. -/
theorem Trains.stops_once (effect : Trains tables fuel svc row event changed bills)
    {earlier : List Bill} (once : ((earlier.filter fun bill => bill.kind = .stop).map
      Bill.updateID).Nodup) (running : ¬ Stopped earlier row.updateID)
    (keyed : ∀ bill ∈ bills, bill.updateID = row.updateID) :
    (((earlier ++ bills).filter fun bill => bill.kind = .stop).map Bill.updateID).Nodup := by
  rw [List.filter_append, List.map_append]
  rcases effect.stops with noStop | ⟨_, bill, single⟩
  · have none : (bills.filter fun bill => bill.kind = .stop) = [] := by
      apply List.filter_eq_nil_iff.mpr
      intro bill listed kind
      exact noStop bill listed (of_decide_eq_true kind)
    rw [none, List.map_nil, List.append_nil]
    exact once
  · refine List.nodup_append.mpr ⟨once, ?_, ?_⟩
    · exact (List.nodup_singleton bill.updateID).sublist
        (by rw [single]; exact (List.filter_sublist.map Bill.updateID))
    · intro first earlierStop second newStop same
      obtain ⟨stopped, listed, rfl⟩ := List.mem_map.mp earlierStop
      obtain ⟨bill', listed', rfl⟩ := List.mem_map.mp newStop
      obtain ⟨member, kind⟩ := List.mem_filter.mp listed
      have key := keyed bill' (List.mem_of_mem_filter listed')
      exact running ⟨stopped, member, same.trans key, of_decide_eq_true kind⟩

/-- A training that still runs got no bill of a stop. -/
theorem Trains.not_stopped (effect : Trains tables fuel svc row event changed bills)
    {earlier : List Bill} (running : ¬ Stopped earlier row.updateID)
    (unfinished : changed.isFinish = false) : ¬ Stopped (earlier ++ bills) changed.updateID := by
  rintro ⟨bill, listed, same, kind⟩
  rcases List.mem_append.mp listed with earlierBill | newBill
  · exact running ⟨bill, earlierBill, same.trans effect.kept.1, kind⟩
  · rcases effect.stops with noStop | ⟨ends, _⟩
    · exact noStop bill newBill kind
    · rw [ends] at unfinished
      cases unfinished

/-- The changed row pays its own bills from the deposit that it had before. -/
theorem Paid.trained (exact : ∀ value, tables.round value = value)
    {earlier : List OffLineUpdateItem} (sound : svc.Paid tables) (table : next.TableSound)
    (effect : Trains tables fuel svc row event changed bills)
    (fair : PaidEvent tables fuel svc event) (unfinished : row.isFinish = false)
    (before : svc.rows = earlier ++ [row])
    (after : next.rows = earlier ++ [changed])
    (others : ∀ entry ∈ earlier, entry.isFinish = true ∧ entry.updateID ≠ row.updateID)
    (written : next.bills = svc.bills ++ bills) (deposits : next.deposits = svc.deposits)
    (issued : next.lastUpdateID = svc.lastUpdateID) : next.Paid tables := by
  have stored : row ∈ svc.rows := by
    rw [before]
    exact List.mem_append_right _ (List.mem_singleton_self row)
  have old (entry) (member : entry ∈ earlier) : entry ∈ svc.rows := by
    rw [before]
    exact List.mem_append_left _ member
  obtain ⟨lockMoney, moneyType, billedMoney, covered, priced⟩ :=
    effect.paid exact fair (sound.covered row stored)
  obtain ⟨sameID, _⟩ := effect.kept
  have running := sound.running row stored unfinished
  have foreign (entry) (member : entry ∈ earlier) (bill) (listed : bill ∈ bills) :
      bill.updateID ≠ entry.updateID := fun same =>
    (others entry member).2 (same.symm.trans (priced bill listed).1)
  constructor
  · exact table
  · rw [deposits]
    exact sound.forecast
  · rw [after, deposits]
    refine List.forall_mem_append.mpr ⟨fun entry here => sound.locked entry (old entry here), ?_⟩
    rw [List.forall_mem_singleton, sameID, moneyType, lockMoney]
    exact sound.locked row stored
  · rw [after]
    refine List.forall_mem_append.mpr ⟨fun entry here => sound.bounded entry (old entry here), ?_⟩
    rw [List.forall_mem_singleton, lockMoney]
    exact sound.bounded row stored
  · rw [written]
    exact List.forall_mem_append.mpr ⟨sound.rated, fun bill new => (priced bill new).2.2⟩
  · rw [written, issued]
    refine List.forall_mem_append.mpr ⟨sound.known, fun bill new => ?_⟩
    rw [(priced bill new).1]
    exact sound.issued row stored
  · intro entry member bill listed same
    rw [after] at member
    rw [written] at listed
    rcases List.mem_append.mp member with here | new <;>
      rcases List.mem_append.mp listed with earlierBill | newBill
    · exact sound.currency entry (old entry here) bill earlierBill same
    · exact absurd same (foreign entry here bill newBill)
    · rw [List.mem_singleton.mp new] at same ⊢
      rw [moneyType]
      exact sound.currency row stored bill earlierBill (same.trans sameID)
    · rw [List.mem_singleton.mp new, moneyType]
      exact (priced bill newBill).2.1
  · rw [after, written]
    refine List.forall_mem_append.mpr ⟨fun entry here => ?_, ?_⟩
    · rw [billCost_append, billCost_other (foreign entry here), add_zero]
      exact sound.summed entry (old entry here)
    · rw [List.forall_mem_singleton, billCost_append, sameID, billedMoney,
        sound.summed row stored]
  · rw [after]
    refine List.forall_mem_append.mpr ⟨fun entry here => sound.covered entry (old entry here), ?_⟩
    exact List.forall_mem_singleton.mpr covered
  · rw [after, written]
    refine List.forall_mem_append.mpr ⟨fun entry here unended => ?_, ?_⟩
    · rw [(others entry here).1] at unended
      cases unended
    · exact List.forall_mem_singleton.mpr (effect.not_stopped running)
  · rw [written]
    exact effect.stops_once sound.once running fun bill listed => (priced bill listed).1

end Trained

/-- A step that meets the condition keeps the invariant. -/
theorem Advance.paid (exact : ∀ value, tables.round value = value) (sound : svc.Paid tables)
    (advance : Advance tables fuel svc event next) (fair : PaidEvent tables fuel svc event) :
    next.Paid tables := by
  have table := advance.tableSound sound.toTableSound
  cases advance with
  | kept rows bills deposits issued _ _ => exact sound.kept table rows bills deposits issued
  | begun role hangType moneyType cost request online free _ deposit result =>
      subst request
      have fits : CanLock tables fuel role hangType moneyType := by
        refine fair (role, hangType, moneyType, cost) ?_
        rw [begins, Option.bind_some, online, Option.bind_some, deposit]
        rfl
      rw [result]
      exact sound.begun exact free deposit fits
  | trained row changed bills selected effect rows written deposits issued clock _ =>
      obtain ⟨earlier, before, after, others⟩ := rows
      exact sound.trained exact table effect fair (selectUnfinished_spec selected).2 before after
        others written deposits issued

/-- The money that a stop gives back. -/
theorem giveBack_money (svc : OffLineUpdateSvc) (moneyType : UInt8) (retMoney : UInt32) :
    (svc.giveBack moneyType retMoney).money = svc.money ∧
      (svc.giveBack moneyType retMoney).bindMoney =
        svc.bindMoney + (if moneyType = 2 then 0 else printed retMoney) ∧
      (svc.giveBack moneyType retMoney).gold =
        svc.gold + if moneyType = 2 then printed retMoney else 0 := by
  rw [giveBack]
  split_ifs
  · exact ⟨rfl, (add_zero _).symm, rfl⟩
  · exact ⟨rfl, rfl, (add_zero _).symm⟩

/-- The returned money is the whole part of the rest. -/
theorem retMoney_rest (exact : ∀ value, tables.round value = value) {addCost : ℚ}
    (bounded : row.lockMoney ≤ 2147483647) (spent : 0 ≤ row.billedMoney + addCost)
    (covered : row.billedMoney + addCost ≤ row.lockMoney) :
    0 ≤ (row.lockMoney - (row.billedMoney + addCost) : ℚ).floor ∧
      printed (retMoney tables row addCost) =
        (row.lockMoney - (row.billedMoney + addCost) : ℚ).floor := by
  have positive : (0 : ℚ) ≤ row.lockMoney := spent.trans covered
  have nonneg : 0 ≤ row.lockMoney := by exact_mod_cast positive
  have most : (row.lockMoney : ℚ) ≤ 2147483647 := by exact_mod_cast bounded
  have lock : ((UInt32.ofInt row.lockMoney).toNat : ℚ) = row.lockMoney := by
    have whole := toNat_ofInt nonneg (show row.lockMoney < 4294967296 by omega)
    have same : ((UInt32.ofInt row.lockMoney).toNat : Int) = row.lockMoney := by
      rw [whole]
      exact Int.toNat_of_nonneg nonneg
    exact_mod_cast congrArg (fun value : Int => (value : ℚ)) same
  have value : tables.round (tables.round ((UInt32.ofInt row.lockMoney).toNat - row.billedMoney) -
      addCost) = row.lockMoney - (row.billedMoney + addCost) := by
    rw [exact, exact, lock]
    ring
  have low : 0 ≤ (row.lockMoney - (row.billedMoney + addCost) : ℚ) := by linarith
  have rest := castUInt32_toNat low (by linarith)
  have floorLow : 0 ≤ (row.lockMoney - (row.billedMoney + addCost) : ℚ).floor := by omega
  have floorHigh : (row.lockMoney - (row.billedMoney + addCost) : ℚ).floor < 2147483648 :=
    Rat.floor_lt_iff.mpr (by push_cast; linarith)
  refine ⟨floorLow, ?_⟩
  rw [retMoney, value, printed_small (by omega)]
  exact rest

/-- An allowed stop gives the rest of the deposit back. -/
theorem stop_givesBack (exact : ∀ value, tables.round value = value) (sound : svc.Paid tables)
    (fair : PaidEvent tables fuel svc .stop) (stepped : svc.step tables fuel .stop = some next) :
    GivesBack svc next := by
  obtain ⟨⟨code, after⟩, processed, rfl⟩ := Option.map_eq_some_iff.mp stepped
  cases checked : svc.stopChecks tables fuel with
  | error refused =>
      rw [processStopUpdate, checked] at processed
      exact .inl (Prod.mk.inj (Option.some.inj processed)).2.symm
  | ok found =>
      obtain ⟨role, row, sums⟩ := found
      obtain ⟨_, selected, _⟩ := stopChecks_ok checked
      obtain ⟨earlier, rows, others⟩ := sound.toTableSound.split selected
      have stored : row ∈ svc.rows := List.mem_of_find?_eq_some selected
      have effect : Trains tables fuel svc row .stop _ _ := .stop role sums _ rfl checked
      obtain ⟨_, _, billed, covered, priced⟩ := effect.paid exact fair (sound.covered row stored)
      have spent : 0 ≤ row.billedMoney + stopCost tables row.moneyType
          (billNumOf (svc.elapseOf row) (UInt32.ofInt row.finishedSec)) sums.costSum := by
        have before : 0 ≤ row.billedMoney := by
          rw [sound.summed row stored]
          exact billCost_nonneg sound.rated _
        have added := (priced _ List.mem_cons_self).2.2
        have cost := priceOf_nonneg row.moneyType (tables.minuteLevels fuel role.vip
          (startOf role.attr) (billNumOf (svc.elapseOf row) (UInt32.ofInt row.finishedSec)).toNat)
        rw [← added] at cost
        exact add_nonneg before cost
      obtain ⟨nonneg, rest⟩ := retMoney_rest exact (sound.bounded row stored) spent covered
      rw [processStopUpdate, checked] at processed
      obtain ⟨attr, rfl⟩ := stop_result rfl rfl processed
      obtain ⟨money, bindMoney, gold⟩ := giveBack_money
        (svc.update (fun entry => entry.updateID = row.updateID)
          (stopRow (svc.elapseOf row) (billNumOf (svc.elapseOf row) (UInt32.ofInt row.finishedSec))
            (stopCost tables row.moneyType
              (billNumOf (svc.elapseOf row) (UInt32.ofInt row.finishedSec)) sums.costSum)))
        row.moneyType (retMoney tables row (stopCost tables row.moneyType
          (billNumOf (svc.elapseOf row) (UInt32.ofInt row.finishedSec)) sums.costSum))
      rw [rest] at bindMoney gold
      refine .inr ⟨row, stopRow (svc.elapseOf row)
        (billNumOf (svc.elapseOf row) (UInt32.ofInt row.finishedSec))
        (stopCost tables row.moneyType
          (billNumOf (svc.elapseOf row) (UInt32.ofInt row.finishedSec)) sums.costSum) row,
        selected, ?_, rfl, rfl, rfl, rfl, nonneg, money, bindMoney, gold⟩
      refine (giveBack_kept _ _ _).1.symm ▸ ?_
      exact List.mem_map.mpr ⟨row, stored, by simp⟩

theorem Fresh.paid (fresh : svc.Fresh) : svc.Paid tables := by
  constructor
  · exact fresh.tableSound
  all_goals simp [fresh.rows, fresh.bills, fresh.deposits]

/-- Every deposit is settled in every run whose steps meet the condition. -/
theorem run_settles (exact : ∀ value, tables.round value = value) {start : OffLineUpdateSvc}
    {history : History OffLineUpdateSvc TrainingEvent} (fresh : start.Fresh)
    (run : Run (step tables fuel) (PaidEvent tables fuel) start history svc) :
    Settles tables fuel history svc := by
  have sound : svc.Paid tables ∧ ∀ before, (before, TrainingEvent.stop) ∈ history → ∀ next,
      before.step tables fuel .stop = some next → GivesBack before next := by
    refine run.historyInvariant (fun history svc => svc.Paid tables ∧
      ∀ before, (before, TrainingEvent.stop) ∈ history → ∀ next,
        before.step tables fuel .stop = some next → GivesBack before next) ⟨fresh.paid, by simp⟩ ?_
    intro history state event next ⟨sound, returned⟩ fair stepped
    refine ⟨(step_advance sound.toTableSound stepped).paid exact sound fair, ?_⟩
    intro before listed after stopped
    rcases List.mem_append.mp listed with old | new
    · exact returned before old after stopped
    · obtain ⟨rfl, rfl⟩ := Prod.mk.inj (List.mem_singleton.mp new)
      exact stop_givesBack exact sound fair stopped
  exact ⟨sound.1.forecast, sound.1.locked, sound.1.rated, sound.1.currency, sound.1.summed,
    sound.1.covered, sound.2, sound.1.once⟩

end States

section Examples

/-- A condition on a deposit can be decided. -/
def decidableSome {Found : Type} (checked : Option Found) (holds : Found → Prop)
    [DecidablePred holds] : Decidable (∀ found, checked = some found → holds found) :=
  decidable_of_iff (checked.all (fun found => holds found) = true) (by
    cases checked <;> simp)

instance (tables : TrainingTables) (fuel : Nat) (svc : OffLineUpdateSvc) :
    (event : TrainingEvent) → Decidable (PaidEvent tables fuel svc event)
  | .begin body => decidableSome (svc.begins tables fuel body) fun found =>
      CanLock tables fuel found.1 found.2.1 found.2.2.1
  | .lostBilling => decidableOk (svc.lostBillingChecks tables fuel) fun found =>
      CanPay found.2.1 [found.1.attr.level] False
  | .stop => decidableOk (svc.stopChecks tables fuel) fun found =>
      let addBillNum := billNumOf (svc.elapseOf found.2.1) (UInt32.ofInt found.2.1.finishedSec)
      CanPay found.2.1 (tables.minuteLevels fuel found.1.vip (startOf found.1.attr) addBillNum.toNat)
        (addBillNum = 30)
  | .enterMap => decidableLogin svc.entered.stored.isOfflineUpdate
      (svc.entered.addBillChecks tables fuel) fun found =>
        CanPay found.1 (tables.minuteLevels fuel svc.entered.stored.vip
          (startOf svc.entered.stored.columns.db2Cache)
          (billNumOf (svc.elapseOf found.1) (UInt32.ofInt found.1.finishedSec)).toNat) False
  | .speedup _ | .exitMap | .save | .clock _ _ | .role _ _ | .money _ _ _ => .isTrue trivial

/-- One minute of an hour is billed, and the rest of the deposit comes back. -/
theorem run_settles_minute : (∀ value, thousandTables.round value = value) ∧
    ∃ history final, Run (step thousandTables 5) (PaidEvent thousandTables 5) newcomer history final ∧
      final.bindMoney = 99 ∧ Settles thousandTables 5 history final := by
  refine ⟨fun _ => rfl, ?_⟩
  obtain ⟨history, final, run, money⟩ := exists_run_of_replay (step thousandTables 5)
    (PaidEvent thousandTables 5) newcomer
    [.enterMap, .begin (some (1, 1)), .lostBilling, .clock 60 0, .stop]
    (fun _ final => final.bindMoney = 99) (by decide +kernel)
  exact ⟨history, final, run, of_decide_eq_true money,
    run_settles (fun _ => rfl) newcomer_fresh run⟩

/-- A minute of a gold training is billed at half of the price of the forecast. -/
theorem run_not_settles :
    ¬ ∀ (tables : TrainingTables) (fuel : Nat) (start final : OffLineUpdateSvc)
      (history : History OffLineUpdateSvc TrainingEvent), (∀ value, tables.round value = value) →
        start.Fresh → Run (step tables fuel) anyEvent start history final →
          Settles tables fuel history final := by
  intro claim
  obtain ⟨history, final, run, half⟩ := exists_run_of_replay (step thousandTables 5) anyEvent
    newcomer [.enterMap, .begin (some (1, 2)), .lostBilling]
    (fun _ final => final.bills.any fun bill => bill.cost ≠ priceOf bill.moneyType bill.levels)
    (by decide +kernel)
  obtain ⟨bill, listed, differs⟩ := List.any_eq_true.mp half
  exact of_decide_eq_true differs ((claim thousandTables 5 newcomer final history (fun _ => rfl)
    newcomer_fresh run).rated bill listed)

end Examples

end OffLineUpdateSvc

end AppSvr.MainServer
