/-
This file defines the runes, their timers and the threads that take their bonuses back.
-/

import AppSvr.Construction.BaseServer.TimerManager

namespace AppSvr.MainServer

open AppSvr.BaseServer

/-- Every family of runes has a timer in each role's table. -/
inductive RuneTimerType where
  | toughRuneTimer
  | stoneRuneTimer
  | saintRuneTimer
  | intelliRuneTimer
  | correctRuneTimer
  | speedRuneTimer
  | focusRuneTimer
  | flyRuneTimer
  | angryRuneTimer
  | extremeRuneTimer
  deriving DecidableEq, Repr

/-- These are the fields of `AttrCombatBonus` that the runes change. -/
inductive BonusField where
  | maxHpBonus
  | defenceBonus
  | mDefenceBonus
  | intelligenceBonus
  | hitRateBonus
  | attackSpeedBonus
  | critRateBonus
  | agilityBonus
  | strengthBonus
  | attackPowerHighBonus
  deriving DecidableEq, Repr

/-- The callback is the function of a family together with its parameter. -/
structure RuneCallBack where
  family : RuneTimerType
  roleID : UInt32
  valueChange : Int
  deriving DecidableEq, Repr

def toughRuneHpChange : List Int := [500, 1000, 1500, 2000]
def stoneRuneChange : List Int := [500, 1000, 1500, 2000]
def saintRuneChange : List Int := [100, 200, 300, 400]
def intelliRuneChange : List Int := [10, 20, 40, 80]
def correctRuneChange : List Int := [50, 100, 150, 200]
def speedRuneChange : List Int := [50, 100, 150, 200]
def focusRuneChange : List Int := [50, 100, 150, 200]
def flyRuneChange : List Int := [10, 20, 40, 80]
def angryRuneChange : List Int := [10, 20, 40, 80]
def extremeRuneChange : List Int := [30, 60, 120, 210]

/-- This is the body of every `Creature::Add..Bonus`. A decrease beyond the value clears it, and an
increase is unsigned. -/
def addBonus (bonus : UInt32) (input : Int) : UInt32 :=
  if input < 0 ∧ bonus.toNat < input.natAbs then 0 else UInt32.ofInt (bonus.toNat + input)

/-- The wheel drives the runes of the roles and the timers of the other services. -/
abbrev ServiceTimer (Other : Type*) := (UInt32 × RuneTimerType) ⊕ Other

/-- `bonus` holds the bonuses of the online roles. `threads` lists the detached threads whose
callback has not run yet. A callback of another service is `none`. -/
structure RuneSvc (Other : Type*) where
  tm : TimerManager (ServiceTimer Other) (Option RuneCallBack)
  bonus : UInt32 → BonusField → UInt32
  threads : List RuneCallBack

namespace RuneSvc

variable {Other : Type*} [DecidableEq Other]

/-- The server starts with an empty wheel. -/
def initial (bonus : UInt32 → BonusField → UInt32) : RuneSvc Other where
  tm := .new
  bonus := bonus
  threads := []

variable (svc : RuneSvc Other)

def modifyBonus (roleID : UInt32) (field : BonusField) (input : Int) : RuneSvc Other :=
  { svc with
    bonus := Function.update svc.bonus roleID
      (Function.update (svc.bonus roleID) field (addBonus (svc.bonus roleID field) input)) }

/-- A running timer is given the new parameter and starts again, and only the difference is added.
The results of the timer calls are ignored. -/
def roleUseRune (family : RuneTimerType) (field : BonusField) (change : List Int) (first : Nat)
    (svc : RuneSvc Other) (roleID : UInt32) (itemId : Nat) : RuneSvc Other :=
  let timer : ServiceTimer Other := .inl (roleID, family)
  let value := change[itemId - first]?.getD 0
  let tm := (svc.tm.setType timer .onceTimer).setInterval timer (2 * 5)
  if (tm.timers timer).isRunning then
    let param := ((tm.timers timer).callBack.map RuneCallBack.valueChange).getD 0
    let tm := tm.setCallbackFun timer (some ⟨family, roleID, value⟩)
    modifyBonus { svc with tm := (tm.reStart timer).2 } roleID field (value - param)
  else
    let tm := tm.setCallbackFun timer (some ⟨family, roleID, value⟩)
    modifyBonus { svc with tm := tm.start timer } roleID field value

def roleUseToughRune : RuneSvc Other → UInt32 → Nat → RuneSvc Other :=
  roleUseRune .toughRuneTimer .maxHpBonus toughRuneHpChange 6003

def roleUseStoneRune : RuneSvc Other → UInt32 → Nat → RuneSvc Other :=
  roleUseRune .stoneRuneTimer .defenceBonus stoneRuneChange 6007

def roleUseSaintRune : RuneSvc Other → UInt32 → Nat → RuneSvc Other :=
  roleUseRune .saintRuneTimer .mDefenceBonus saintRuneChange 6011

def roleUseIntelliRune : RuneSvc Other → UInt32 → Nat → RuneSvc Other :=
  roleUseRune .intelliRuneTimer .intelligenceBonus intelliRuneChange 6015

def roleUseCorrectRune : RuneSvc Other → UInt32 → Nat → RuneSvc Other :=
  roleUseRune .correctRuneTimer .hitRateBonus correctRuneChange 6019

def roleUseSpeedRuneRune : RuneSvc Other → UInt32 → Nat → RuneSvc Other :=
  roleUseRune .speedRuneTimer .attackSpeedBonus speedRuneChange 6023

def roleUseFocusRune : RuneSvc Other → UInt32 → Nat → RuneSvc Other :=
  roleUseRune .focusRuneTimer .critRateBonus focusRuneChange 6027

def roleUseFlyRune : RuneSvc Other → UInt32 → Nat → RuneSvc Other :=
  roleUseRune .flyRuneTimer .agilityBonus flyRuneChange 6031

def roleUseAngryRune : RuneSvc Other → UInt32 → Nat → RuneSvc Other :=
  roleUseRune .angryRuneTimer .strengthBonus angryRuneChange 6035

def roleUseExtremeRune : RuneSvc Other → UInt32 → Nat → RuneSvc Other :=
  roleUseRune .extremeRuneTimer .attackPowerHighBonus extremeRuneChange 6039

/-- Every other item changes no bonus. -/
def useRune (roleID : UInt32) (itemId : Nat) : RuneSvc Other :=
  if 6003 ≤ itemId ∧ itemId ≤ 6006 then svc.roleUseToughRune roleID itemId
  else if 6007 ≤ itemId ∧ itemId ≤ 6010 then svc.roleUseStoneRune roleID itemId
  else if 6011 ≤ itemId ∧ itemId ≤ 6014 then svc.roleUseSaintRune roleID itemId
  else if 6015 ≤ itemId ∧ itemId ≤ 6018 then svc.roleUseIntelliRune roleID itemId
  else if 6019 ≤ itemId ∧ itemId ≤ 6022 then svc.roleUseCorrectRune roleID itemId
  else if 6023 ≤ itemId ∧ itemId ≤ 6026 then svc.roleUseSpeedRuneRune roleID itemId
  else if 6027 ≤ itemId ∧ itemId ≤ 6030 then svc.roleUseFocusRune roleID itemId
  else if 6031 ≤ itemId ∧ itemId ≤ 6034 then svc.roleUseFlyRune roleID itemId
  else if 6035 ≤ itemId ∧ itemId ≤ 6038 then svc.roleUseAngryRune roleID itemId
  else if 6039 ≤ itemId ∧ itemId ≤ 6042 then svc.roleUseExtremeRune roleID itemId
  else svc

/-- This is the body of every `TimerDec..`. -/
def timerDec (field : BonusField) (svc : RuneSvc Other) (roleID : UInt32) (change : Int) :
    RuneSvc Other :=
  svc.modifyBonus roleID field (-change)

def timerDecToughness : RuneSvc Other → UInt32 → Int → RuneSvc Other := timerDec .maxHpBonus

def timerDecStoneness : RuneSvc Other → UInt32 → Int → RuneSvc Other := timerDec .defenceBonus

def timerDecSaintness : RuneSvc Other → UInt32 → Int → RuneSvc Other := timerDec .mDefenceBonus

def timerDecIntelliness : RuneSvc Other → UInt32 → Int → RuneSvc Other :=
  timerDec .intelligenceBonus

def timerDecCorrectness : RuneSvc Other → UInt32 → Int → RuneSvc Other := timerDec .hitRateBonus

def timerDecSpeedness : RuneSvc Other → UInt32 → Int → RuneSvc Other := timerDec .attackSpeedBonus

def timerDecFocusness : RuneSvc Other → UInt32 → Int → RuneSvc Other := timerDec .critRateBonus

def timerDecFlyness : RuneSvc Other → UInt32 → Int → RuneSvc Other := timerDec .agilityBonus

def timerDecAngryness : RuneSvc Other → UInt32 → Int → RuneSvc Other := timerDec .strengthBonus

def timerDecExtremeness : RuneSvc Other → UInt32 → Int → RuneSvc Other :=
  timerDec .attackPowerHighBonus

/-- The thread calls the function of its callback. -/
def call (thread : RuneCallBack) : RuneSvc Other :=
  match thread.family with
  | .toughRuneTimer => svc.timerDecToughness thread.roleID thread.valueChange
  | .stoneRuneTimer => svc.timerDecStoneness thread.roleID thread.valueChange
  | .saintRuneTimer => svc.timerDecSaintness thread.roleID thread.valueChange
  | .intelliRuneTimer => svc.timerDecIntelliness thread.roleID thread.valueChange
  | .correctRuneTimer => svc.timerDecCorrectness thread.roleID thread.valueChange
  | .speedRuneTimer => svc.timerDecSpeedness thread.roleID thread.valueChange
  | .focusRuneTimer => svc.timerDecFocusness thread.roleID thread.valueChange
  | .flyRuneTimer => svc.timerDecFlyness thread.roleID thread.valueChange
  | .angryRuneTimer => svc.timerDecAngryness thread.roleID thread.valueChange
  | .extremeRuneTimer => svc.timerDecExtremeness thread.roleID thread.valueChange

/-- One of the detached threads runs its callback and ends. -/
def detachProcess (index : Nat) : Option (RuneSvc Other) :=
  svc.threads[index]?.map fun thread =>
    call { svc with threads := svc.threads.eraseIdx index } thread

/-- Every timer that fires starts a thread for its callback. -/
def onTick (svc : RuneSvc Other) : RuneSvc Other :=
  let ticked := svc.tm.onTick
  { svc with tm := ticked.2, threads := svc.threads ++ ticked.1.filterMap Prod.snd }

end RuneSvc

/-- The roles use runes, the wheel turns, the threads run, and the other services use their own
timers. -/
inductive RuneEvent (Other : Type*) where
  | useRune (roleID : UInt32) (itemId : Nat)
  | onTick
  | detachProcess (index : Nat)
  | setInterval (timer : Other) (input : Int)
  | setType (timer : Other) (input : TimerType)
  | start (timer : Other)
  | reStart (timer : Other)
  | cancel (timer : Other)
  deriving DecidableEq, Repr

namespace RuneSvc

variable {Other : Type*} [DecidableEq Other]

def step (svc : RuneSvc Other) : RuneEvent Other → Option (RuneSvc Other)
  | .useRune roleID itemId => some (svc.useRune roleID itemId)
  | .onTick => some svc.onTick
  | .detachProcess index => svc.detachProcess index
  | .setInterval timer input => some { svc with tm := svc.tm.setInterval (.inr timer) input }
  | .setType timer input => some { svc with tm := svc.tm.setType (.inr timer) input }
  | .start timer => some { svc with tm := svc.tm.start (.inr timer) }
  | .reStart timer => some { svc with tm := (svc.tm.reStart (.inr timer)).2 }
  | .cancel timer => some { svc with tm := (svc.tm.cancel (.inr timer)).2 }

end RuneSvc

end AppSvr.MainServer
