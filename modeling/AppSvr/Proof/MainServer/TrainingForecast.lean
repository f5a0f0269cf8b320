/-
This file proves when the forecast of a training stays in step with its billings.
-/

import AppSvr.Construction.MainServer.OffLineUpdateSvc
import AppSvr.Proof.MainServer.LevelUps

namespace AppSvr.MainServer

/-- A gain of at least half the range is a loss. -/
theorem isLoss_iff (gain : UInt32) : gain.toInt32 < 0 ↔ 2147483648 ≤ gain.toNat := by
  have bound := gain.toNat_lt
  have value : gain.toInt32.toInt = (gain.toNat : Int).bmod 4294967296 := by
    simp only [Int32.toInt, UInt32.toInt32, BitVec.toInt_eq_toNat_bmod]
    rfl
  rw [Int32.lt_iff_toInt_lt, value, Int32.toInt_zero, Int.bmod_def]
  split <;> omega

theorem loss_toNat {gain : UInt32} (loss : gain.toInt32 < 0) :
    gain.toInt32.abs.toUInt32.toNat = 4294967296 - gain.toNat := by
  have large := (isLoss_iff gain).mp loss
  have negative : gain.toBitVec.msb = true := by
    rw [BitVec.msb_eq_decide]
    simpa using large
  have value : gain.toInt32.abs.toUInt32.toBitVec = gain.toBitVec.abs := rfl
  rw [← UInt32.toNat_toBitVec, value, BitVec.toNat_abs, if_pos negative]
  rfl

/-- A loss that the role can bear leaves it with no more than before. -/
theorem exp_le_of_not_gain {exp gain : UInt32} (notGain : ¬ 0 < gain.toInt32)
    (bears : ¬ (gain.toInt32 < 0 ∧ exp < gain.toInt32.abs.toUInt32)) : exp + gain ≤ exp := by
  by_cases loss : gain.toInt32 < 0
  · have most := UInt32.le_iff_toNat_le.mp (UInt32.not_lt.mp fun less => bears ⟨loss, less⟩)
    rw [loss_toNat loss] at most
    rw [UInt32.le_iff_toNat_le, UInt32.toNat_add]
    have bound := gain.toNat_lt
    have bound' := exp.toNat_lt
    omega
  · have zero : gain.toInt32 = 0 :=
      Int32.le_antisymm (Int32.not_lt.mp notGain) (Int32.not_lt.mp loss)
    have none : gain = 0 := by
      rw [← UInt32.toUInt32_toInt32 gain, zero]
      rfl
    rw [none, UInt32.add_zero]
    exact UInt32.le_refl exp

/-- The maximum of the role is the one of its level, and its experience is within it. -/
structure AttrGeneral.Fits (tables : TrainingTables) (attr : AttrGeneral) : Prop where
  listed : tables.maximum attr.level = some attr.maxExp
  within : attr.exp ≤ attr.maxExp

namespace TrainingTables

variable (tables : TrainingTables)

/-- Every maximum is positive. -/
def Positive : Prop := ∀ level maxExp, tables.maximum level = some maxExp → 0 < maxExp.toNat

/-- The sum of the maxima of some successive levels. -/
def levelSum : Nat → UInt32 → Option Nat
  | 0, _ => some 0
  | levels + 1, level =>
      (tables.maximum level).bind fun maxExp =>
        (levelSum levels (level + 1)).map fun sum => maxExp.toNat + sum

/-- The experience is used up by one or more levels. -/
def RestsAtMaximum (level exp : UInt32) : Prop :=
  ∃ levels, tables.levelSum (levels + 1) level = some exp.toNat

/-- The next gain neither rests at a maximum nor takes more than the role has. -/
def StaysInStep (vip : UInt8) (attr : AttrGeneral) : Prop :=
  ∀ gain, tables.addExp vip attr.level = some gain →
    ¬ tables.RestsAtMaximum attr.level (attr.exp + gain) ∧
      ¬ (gain.toInt32 < 0 ∧ attr.exp < gain.toInt32.abs.toUInt32)

/-- The forecast and the training hold the same role and the same sums. -/
def Matches (sums : Forecast) (training : Training) : Prop :=
  sums.currLevel = training.attr.level ∧ sums.currExp = training.attr.exp ∧
    sums.expSum = training.expSum ∧ sums.costSum = training.costSum

section Boundaries

variable {tables} {level exp maxExp : UInt32} (listed : tables.maximum level = some maxExp)
include listed

theorem rests_iff :
    tables.RestsAtMaximum level exp ↔
      ∃ levels sum, tables.levelSum levels (level + 1) = some sum ∧
        maxExp.toNat + sum = exp.toNat := by
  simp [RestsAtMaximum, levelSum, listed]

theorem not_rests_of_lt (below : exp < maxExp) : ¬ tables.RestsAtMaximum level exp := by
  rw [rests_iff listed]
  intro ⟨levels, sum, _, total⟩
  have less := UInt32.lt_iff_toNat_lt.mp below
  omega

theorem rests_self : tables.RestsAtMaximum level maxExp :=
  (rests_iff listed).mpr ⟨0, 0, rfl, rfl⟩

theorem rests_next (above : maxExp < exp) :
    tables.RestsAtMaximum level exp ↔ tables.RestsAtMaximum (level + 1) (exp - maxExp) := by
  have less := UInt32.lt_iff_toNat_lt.mp above
  have rest := UInt32.toNat_sub_of_le _ _ (UInt32.le_of_lt above)
  rw [rests_iff listed]
  constructor
  · intro ⟨levels, sum, found, total⟩
    cases levels with
    | zero =>
        have none : 0 = sum := Option.some.inj found
        omega
    | succ levels => exact ⟨levels, by rw [found, rest]; congr 1; omega⟩
  · intro ⟨levels, found⟩
    exact ⟨levels + 1, _, found, by omega⟩

theorem levelLoop_of_lt (fuel : Nat) (below : exp < maxExp) :
    tables.levelLoop (fuel + 1) level exp = some (level, exp) := by
  rw [levelLoop, listed, Option.bind_some, if_pos below]

theorem levelLoop_of_le (fuel : Nat) (reached : maxExp ≤ exp) :
    tables.levelLoop (fuel + 1) level exp = tables.levelLoop fuel (level + 1) (exp - maxExp) := by
  rw [levelLoop, listed, Option.bind_some, if_neg (UInt32.not_lt.mpr reached)]

end Boundaries

/-- The role takes the maximum of its next level. -/
theorem levelUp_fits {tables : TrainingTables} {attr : AttrGeneral} {row : Int}
    (found : tables.maxExp (printed (attr.level + 1)) = some row) :
    (attr.levelUp [row]).level = attr.level + 1 ∧
      (attr.levelUp [row]).exp = attr.exp - attr.maxExp ∧
        tables.maximum (attr.level + 1) = some (attr.levelUp [row]).maxExp := by
  have level : addAttr attr.level 1 = attr.level + 1 := addAttr_of_pos (by decide) _
  exact ⟨level, rfl, by rw [maximum, found]; rfl⟩

section Loops

variable {tables} (positive : tables.Positive) {fuel : Nat}
include positive

/-- Every level costs experience, so the loop comes back to no level. -/
theorem levelLoop_moves {level exp : UInt32} {final : UInt32 × UInt32}
    (looped : tables.levelLoop fuel level exp = some final) :
    final = (level, exp) ∨
      ∃ levels : UInt32, final.1 = level + levels ∧ 0 < levels.toNat ∧ levels.toNat ≤ exp.toNat := by
  induction fuel generalizing level exp with
  | zero => simp [levelLoop] at looped
  | succ fuel ih =>
      obtain ⟨maxExp, listed, _⟩ := Option.bind_eq_some_iff.mp looped
      have cost := positive level maxExp listed
      by_cases below : exp < maxExp
      · rw [levelLoop_of_lt listed fuel below] at looped
        exact Or.inl (Option.some.inj looped).symm
      · have reached := UInt32.not_lt.mp below
        have bound := exp.toNat_lt
        have rest := UInt32.toNat_sub_of_le _ _ reached
        have less := UInt32.le_iff_toNat_le.mp reached
        rw [levelLoop_of_le listed fuel reached] at looped
        have one : (1 : UInt32).toNat = 1 := rfl
        right
        rcases ih looped with stopped | ⟨levels, moved, _, most⟩
        · exact ⟨1, by rw [stopped], by decide, by omega⟩
        · have sum : (1 + levels).toNat = 1 + levels.toNat := by
            rw [UInt32.toNat_add, one]
            exact Nat.mod_eq_of_lt (by omega)
          exact ⟨1 + levels, by rw [moved, UInt32.add_assoc], by omega, by omega⟩

theorem levelLoop_stays {level exp : UInt32} {final : UInt32 × UInt32}
    (looped : tables.levelLoop fuel level exp = some final) (same : final.1 = level) :
    final.2 = exp := by
  rcases levelLoop_moves positive looped with stopped | ⟨levels, moved, some, _⟩
  · rw [stopped]
  · have none : levels = 0 := by
      rw [same] at moved
      exact (UInt32.add_eq_left (a := level)).mp moved.symm
    rw [none] at some
    exact absurd some (by decide)

/-- The role takes the same levels until its experience rests at a maximum. -/
theorem expLoop_of_levelLoop (attr : AttrGeneral) {final : UInt32 × UInt32}
    (listed : tables.maximum attr.level = some attr.maxExp)
    (looped : tables.levelLoop fuel attr.level attr.exp = some final) :
    ∃ after, attr.expLoop tables.levelDesc fuel = some (true, after) ∧ after.Fits tables ∧
      (final = (after.level, after.exp) ↔ ¬ tables.RestsAtMaximum attr.level attr.exp) := by
  induction fuel generalizing attr with
  | zero => simp [levelLoop] at looped
  | succ fuel ih =>
      by_cases below : attr.exp < attr.maxExp
      · -- Both loops stop.
        have stops : ¬ attr.maxExp < attr.exp := UInt32.lt_asymm below
        rw [levelLoop_of_lt listed fuel below] at looped
        refine ⟨attr, by rw [AttrGeneral.expLoop, if_neg stops],
          ⟨listed, UInt32.le_of_lt below⟩, ?_⟩
        exact iff_of_true (Option.some.inj looped).symm (not_rests_of_lt listed below)
      · have reached := UInt32.not_lt.mp below
        rw [levelLoop_of_le listed fuel reached] at looped
        by_cases above : attr.maxExp < attr.exp
        · -- Both loops take the next level.
          cases found : tables.maxExp (printed (attr.level + 1)) with
          | none =>
              cases fuel with
              | zero => simp [levelLoop] at looped
              | succ fuel => simp [levelLoop, maximum, found] at looped
          | some row =>
              obtain ⟨level, exp, next⟩ := levelUp_fits found
              rw [← level, ← exp] at looped
              obtain ⟨after, grown, fits, agrees⟩ := ih _ (by rw [level]; exact next) looped
              refine ⟨after, ?_, fits, ?_⟩
              · rw [AttrGeneral.expLoop, if_pos above, levelDesc, found]
                exact grown
              · rw [agrees, level, exp, rests_next listed above]
        · -- Only the forecast goes on.
          have equal : attr.exp = attr.maxExp := UInt32.le_antisymm (UInt32.not_lt.mp above) reached
          refine ⟨attr, by rw [AttrGeneral.expLoop, if_neg above],
            ⟨listed, UInt32.not_lt.mp above⟩, ?_⟩
          have rests := rests_self listed
          rw [← equal] at rests
          refine iff_of_false ?_ (not_not_intro rests)
          intro same
          rw [equal, UInt32.sub_self] at looped
          rcases levelLoop_moves positive looped with stopped | ⟨levels, _, some, most⟩
          · rw [stopped] at same
            exact absurd (UInt32.add_eq_left.mp (Prod.mk.inj same).1) (by decide)
          · have zero : (0 : UInt32).toNat = 0 := rfl
            omega

/-- A minute gives the role the forecast level and experience exactly when it stays in step. -/
theorem roleExpAdd_of_minute {vip : UInt8} {attr : AttrGeneral} {minute : MinuteGain}
    (fits : attr.Fits tables)
    (computed : tables.calcCostPerMinite fuel vip attr.level attr.exp = some minute) :
    ∃ result, attr.roleExpAdd tables.levelDesc fuel minute.addExp.toInt32 = some result ∧
      result.2.Fits tables ∧
      (minute.finalLevel = result.2.level ∧ minute.finalExp = result.2.exp ↔
        tables.StaysInStep vip attr) := by
  obtain ⟨gain, gained, rest⟩ := Option.bind_eq_some_iff.mp computed
  obtain ⟨final, looped, rfl⟩ := Option.map_eq_some_iff.mp rest
  have inStep : tables.StaysInStep vip attr ↔
      ¬ tables.RestsAtMaximum attr.level (attr.exp + gain) ∧
        ¬ (gain.toInt32 < 0 ∧ attr.exp < gain.toInt32.abs.toUInt32) := by
    simp [StaysInStep, gained]
  obtain ⟨after, grown, stays, agrees⟩ :=
    expLoop_of_levelLoop positive { attr with exp := attr.exp + gain } fits.listed looped
  rw [Prod.ext_iff] at agrees
  rw [inStep]
  by_cases takesMore : gain.toInt32 < 0 ∧ attr.exp < gain.toInt32.abs.toUInt32
  · -- The role stops at no experience, and the forecast wraps around.
    have notGain : ¬ 0 < gain.toInt32 := Int32.lt_asymm takesMore.1
    refine ⟨(0, { attr with exp := 0 }), ?_, ⟨fits.listed, UInt32.zero_le⟩, ?_⟩
    · rw [AttrGeneral.roleExpAdd, if_neg notGain, AttrGeneral.addExp, addAttr, if_pos takesMore]
    · refine iff_of_false ?_ fun both => both.2 takesMore
      intro both
      obtain ⟨level, exp⟩ := both
      have sum := levelLoop_stays positive looped level
      have less := UInt32.lt_iff_toNat_lt.mp takesMore.2
      rw [loss_toNat takesMore.1] at less
      have bound := gain.toNat_lt
      have large := (isLoss_iff gain).mp takesMore.1
      rw [show final.2 = 0 from exp] at sum
      have total := congrArg UInt32.toNat sum.symm
      rw [UInt32.toNat_add, Nat.mod_eq_of_lt (by omega)] at total
      have zero : (0 : UInt32).toNat = 0 := rfl
      omega
  · have added : attr.addExp gain.toInt32 = { attr with exp := attr.exp + gain } := by
      rw [AttrGeneral.addExp, addAttr, if_neg takesMore, UInt32.toUInt32_toInt32]
    rw [and_iff_left takesMore]
    by_cases grows : 0 < gain.toInt32
    · have granted : ∃ levels, attr.roleExpAdd tables.levelDesc fuel gain.toInt32 =
          some (levels, after) := by
        rw [AttrGeneral.roleExpAdd, if_pos grows, added, AttrGeneral.ifTheExpToMax, grown]
        exact ⟨_, rfl⟩
      obtain ⟨levels, granted⟩ := granted
      exact ⟨(levels, after), granted, stays, agrees⟩
    · -- The experience does not grow, so the role takes no level.
      have least := exp_le_of_not_gain grows takesMore
      have stopped : ¬ attr.maxExp < attr.exp + gain :=
        UInt32.not_lt.mpr (UInt32.le_trans least fits.within)
      cases fuel with
      | zero => simp [levelLoop] at looped
      | succ fuel =>
          rw [AttrGeneral.expLoop, if_neg stopped] at grown
          have same := (Prod.mk.inj (Option.some.inj grown)).2
          refine ⟨(0, after), ?_, stays, agrees⟩
          rw [AttrGeneral.roleExpAdd, if_neg grows, added, same]

/-- A billing follows the forecast of its minute exactly when the role stays in step. -/
theorem billMinute_of_forecast {vip : UInt8} {sums : Forecast} {training next : Training}
    (same : Matches sums training) (fits : training.attr.Fits tables)
    (billed : tables.billMinute fuel vip training = some next) :
    next.attr.Fits tables ∧ ∃ sums', tables.forecastMinute fuel vip sums = some sums' ∧
      sums'.desLevel = sums'.currLevel ∧
        (Matches sums' next ↔ tables.StaysInStep vip training.attr) := by
  obtain ⟨level, exp, expSum, costSum⟩ := same
  obtain ⟨minute, computed, rest⟩ := Option.bind_eq_some_iff.mp billed
  obtain ⟨result, granted, rfl⟩ := Option.map_eq_some_iff.mp rest
  obtain ⟨result', granted', stays, agrees⟩ := roleExpAdd_of_minute positive fits computed
  obtain rfl := Option.some.inj (granted.symm.trans granted')
  refine ⟨stays, _, by rw [forecastMinute, level, exp, computed]; rfl, rfl, ?_⟩
  rw [← agrees]
  simp [Matches, expSum, costSum]

end Loops

/-- After some minutes both hold the same. -/
def AgreesAt (fuel : Nat) (vip : UInt8) (attr : AttrGeneral) (desLevel : UInt32) (minutes : Nat) :
    Prop :=
  ∃ sums training,
    tables.forecastMinutes fuel vip ⟨attr.level, attr.exp, 0, 0, desLevel⟩ minutes = some sums ∧
      tables.billMinutes fuel vip attr minutes = some training ∧ Matches sums training

/-- The role stays in step at every billing. -/
def StaysInStepFor (fuel : Nat) (vip : UInt8) (attr : AttrGeneral) (minutes : Nat) : Prop :=
  ∀ minute training, minute < minutes → tables.billMinutes fuel vip attr minute = some training →
    tables.StaysInStep vip training.attr

section Minutes

variable {tables} (positive : tables.Positive) {fuel : Nat} {vip : UInt8} {attr : AttrGeneral}
  {desLevel : UInt32}

include positive

theorem billMinutes_fits (fits : attr.Fits tables) {minutes : Nat} {training : Training}
    (trained : tables.billMinutes fuel vip attr minutes = some training) :
    training.attr.Fits tables := by
  induction minutes generalizing training with
  | zero =>
      obtain rfl := Option.some.inj trained
      exact fits
  | succ minutes ih =>
      obtain ⟨middle, billed, last⟩ := Option.bind_eq_some_iff.mp trained
      have same : Matches ⟨middle.attr.level, middle.attr.exp, middle.expSum, middle.costSum, 0⟩
          middle :=
        ⟨rfl, rfl, rfl, rfl⟩
      exact (billMinute_of_forecast positive same (ih billed) last).1

variable (desLevel) in
/-- The forecast agrees at every minute exactly when every billing stays in step. -/
theorem agrees_iff (fits : attr.Fits tables) {minutes : Nat} {training : Training}
    (trained : tables.billMinutes fuel vip attr minutes = some training) :
    (∀ minute ≤ minutes, tables.AgreesAt fuel vip attr desLevel minute) ↔
      tables.StaysInStepFor fuel vip attr minutes := by
  induction minutes generalizing training with
  | zero =>
      constructor
      · intro _ minute _ before
        exact absurd before (Nat.not_lt_zero minute)
      · intro _ minute before
        rw [Nat.le_zero.mp before]
        exact ⟨_, _, rfl, rfl, rfl, rfl, rfl, rfl⟩
  | succ minutes ih =>
      obtain ⟨middle, billed, last⟩ := Option.bind_eq_some_iff.mp trained
      have next (agrees : tables.AgreesAt fuel vip attr desLevel minutes) :
          tables.AgreesAt fuel vip attr desLevel (minutes + 1) ↔
            tables.StaysInStep vip middle.attr := by
        obtain ⟨sums, middle', forecast, billed', same⟩ := agrees
        obtain rfl := Option.some.inj (billed.symm.trans billed')
        obtain ⟨_, sums', forecast', _, inStep⟩ :=
          billMinute_of_forecast positive same (billMinutes_fits positive fits billed) last
        rw [← inStep]
        have forecasts : tables.forecastMinutes fuel vip ⟨attr.level, attr.exp, 0, 0, desLevel⟩
            (minutes + 1) = some sums' := by
          rw [forecastMinutes, forecast, Option.bind_some, forecast']
        constructor
        · intro ⟨sums'', training', found, found', matched⟩
          obtain rfl := Option.some.inj (forecasts.symm.trans found)
          obtain rfl := Option.some.inj (trained.symm.trans found')
          exact matched
        · intro matched
          exact ⟨sums', training, forecasts, trained, matched⟩
      constructor
      · intro agrees minute training' before found
        rcases Nat.lt_or_eq_of_le (Nat.le_of_lt_succ before) with less | rfl
        · exact (ih billed).mp (fun minute least => agrees minute (Nat.le_succ_of_le least))
            minute training' less found
        · obtain rfl := Option.some.inj (billed.symm.trans found)
          exact (next (agrees _ (Nat.le_succ _))).mp (agrees _ (Nat.le_refl _))
      · intro stays minute least
        have earlier := (ih billed).mpr fun minute training before =>
          stays minute training (Nat.lt_succ_of_lt before)
        rcases Nat.lt_or_eq_of_le least with less | rfl
        · exact earlier minute (Nat.le_of_lt_succ less)
        · exact (next (earlier _ (Nat.le_refl _))).mpr (stays _ middle (Nat.lt_succ_self _) billed)

omit positive in
/-- The last minute sets the level that the caller gets. -/
theorem forecastMinutes_desLevel {start sums : Forecast} {minutes : Nat}
    (forecast : tables.forecastMinutes fuel vip start (minutes + 1) = some sums) :
    sums.desLevel = sums.currLevel := by
  obtain ⟨middle, _, last⟩ := Option.bind_eq_some_iff.mp forecast
  obtain ⟨minute, _, rfl⟩ := Option.map_eq_some_iff.mp last
  rfl

/-- The forecast is the outcome of the training, and agrees with it at every minute, exactly when no
billing rests at a maximum or takes more than the role has, and some hour is forecast or the caller
knows the level. -/
theorem calcCostAndGainsBySilver_iff (fits : attr.Fits tables) {hangType : UInt8}
    {training : Training}
    (trained : tables.billMinutes fuel vip attr (60 * hangType.toNat) = some training) :
    (tables.calcCostAndGainsBySilver fuel vip attr hangType desLevel =
        some (training.costSum, training.expSum, training.attr.level) ∧
      ∀ minute ≤ 60 * hangType.toNat, tables.AgreesAt fuel vip attr desLevel minute) ↔
    tables.StaysInStepFor fuel vip attr (60 * hangType.toNat) ∧
      (hangType = 0 → desLevel = attr.level) := by
  rw [← agrees_iff positive desLevel fits trained, and_comm]
  apply and_congr_right
  intro agrees
  obtain ⟨sums, training', forecast, trained', same⟩ := agrees _ (Nat.le_refl _)
  obtain rfl := Option.some.inj (trained.symm.trans trained')
  obtain ⟨level, _, expSum, costSum⟩ := same
  rw [calcCostAndGainsBySilver, forecast, Option.map_some, costSum, expSum]
  by_cases none : hangType = 0
  · rw [none] at forecast trained
    obtain rfl := Option.some.inj forecast
    obtain rfl := Option.some.inj trained
    simp [none]
  · obtain ⟨minutes, hours⟩ : ∃ minutes, 60 * hangType.toNat = minutes + 1 := by
      have positive : hangType.toNat ≠ 0 := fun zero => none (UInt8.toNat.inj zero)
      exact ⟨60 * hangType.toNat - 1, by omega⟩
    rw [hours] at forecast
    rw [forecastMinutes_desLevel forecast, level]
    exact iff_of_true rfl fun zero => absurd zero none

end Minutes

/-- A level needs six hundred points or one more, and every minute gains ten. -/
def evenTables (maxExp : Int) : TrainingTables where
  maxExp := fun _ => some maxExp
  expPerMinute := fun _ => some 10
  round := id

/-- A role of level eleven trains for one hour. -/
theorem calcCostAndGainsBySilver_one_hour :
    ((evenTables 601).calcCostAndGainsBySilver 5 0 ⟨11, 0, 601, 0⟩ 1 0 = some (363 / 10, 600, 11) ∧
      ∀ minute ≤ 60, (evenTables 601).AgreesAt 5 0 ⟨11, 0, 601, 0⟩ 0 minute) ↔
    (evenTables 601).StaysInStepFor 5 0 ⟨11, 0, 601, 0⟩ 60 ∧
      ((1 : UInt8) = 0 → (0 : UInt32) = 11) := by
  have positive : (evenTables 601).Positive := by
    intro level maxExp found
    obtain rfl := Option.some.inj found
    decide
  have trained : (evenTables 601).billMinutes 5 0 ⟨11, 0, 601, 0⟩ (60 * (1 : UInt8).toNat) =
      some ⟨⟨11, 600, 601, 0⟩, 600, 363 / 10⟩ := by
    decide +kernel
  exact calcCostAndGainsBySilver_iff positive ⟨rfl, by decide⟩ trained

/-- The last minute of an hour fills the level of the role. -/
theorem calcCostAndGainsBySilver_not_trained :
    ¬ ∀ (tables : TrainingTables) (fuel : Nat) (vip : UInt8) (attr : AttrGeneral) (hangType : UInt8)
      (desLevel : UInt32) (training : Training), tables.Positive → attr.Fits tables →
        tables.billMinutes fuel vip attr (60 * hangType.toNat) = some training →
          tables.calcCostAndGainsBySilver fuel vip attr hangType desLevel =
            some (training.costSum, training.expSum, training.attr.level) := by
  intro claim
  have same := claim (evenTables 600) 5 0 ⟨11, 0, 600, 0⟩ 1 0 ⟨⟨11, 600, 600, 0⟩, 600, 363 / 10⟩
    (by
      intro level maxExp found
      obtain rfl := Option.some.inj found
      decide)
    ⟨rfl, by decide⟩ (by decide +kernel)
  exact absurd same (by decide +kernel)

end TrainingTables

end AppSvr.MainServer
