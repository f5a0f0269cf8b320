/-
This file defines the timer wheel and the timers that it drives.
-/

import Mathlib.Logic.Function.Basic
import Std.Data.TreeMap

namespace AppSvr.BaseServer

variable {Timer Callback : Type*}

def maxTimerNum : Nat := 3000

def maxSlotNum : Nat := 3000

/-- One slice of the wheel lasts one second. -/
def timerTimeSlot : Int := 1

inductive TimerType where
  | loopTimer
  | onceTimer
  deriving DecidableEq, Repr

/-- `callBack` joins the function, its object and its parameter, and `isRunning` stands for the
pointer to the wheel. -/
structure NewTimer (Callback : Type*) where
  callBack : Callback
  type : TimerType
  id : Nat
  interval : Int
  ticks : Int
  round : Int
  isRunning : Bool
  deriving DecidableEq, Repr

namespace NewTimer

def new [Inhabited Callback] : NewTimer Callback where
  callBack := default
  type := .onceTimer
  id := 0
  interval := 0
  ticks := 0
  round := 0
  isRunning := false

/-- The copy of the callback starts in a thread of its own. -/
def onTimeout (timer : NewTimer Callback) : NewTimer Callback := { timer with isRunning := false }

/-- The round is decremented before it is compared. The flag reports a timeout. -/
def onTick (timer : NewTimer Callback) : Bool × NewTimer Callback :=
  let timer := { timer with round := timer.round - 1 }
  if timer.round ≤ 0 then (true, timer.onTimeout) else (false, timer)

end NewTimer

/-- A slot maps identifiers to timers in ascending order. -/
abbrev Slot (Timer : Type*) := Std.TreeMap Nat Timer

namespace Slot

/-- The insertion keeps an entry that already has the key. -/
def addTimer (slot : Slot Timer) (id : Nat) (timer : Timer) : Slot Timer :=
  slot.insertIfNew id timer

def delTimer (slot : Slot Timer) (id : Nat) : Bool × Slot Timer :=
  if id ∈ slot then (true, slot.erase id) else (false, slot)

/-- The loop over a slot collects the timers that timed out and the callbacks that they started. -/
structure Ticked (Timer Callback : Type*) where
  timers : Timer → NewTimer Callback
  timeoutAll : List Timer
  timeoutLoop : List Timer
  launched : List (Timer × Callback)

def tickEntry [DecidableEq Timer] (ticked : Ticked Timer Callback) (entry : Nat × Timer) :
    Ticked Timer Callback :=
  let timer := ticked.timers entry.2
  let timers := Function.update ticked.timers entry.2 timer.onTick.2
  if timer.onTick.1 then
    { timers
      timeoutAll := ticked.timeoutAll ++ [entry.2]
      timeoutLoop := ticked.timeoutLoop ++ if timer.type = .loopTimer then [entry.2] else []
      launched := ticked.launched ++ [(entry.2, timer.callBack)] }
  else { ticked with timers }

/-- The slot erases every timer that timed out after the loop. -/
def onTick [DecidableEq Timer] (slot : Slot Timer) (timers : Timer → NewTimer Callback) :
    Slot Timer × Ticked Timer Callback :=
  let ticked := slot.toList.foldl tickEntry ⟨timers, [], [], []⟩
  (ticked.timeoutAll.foldl (fun slot timer => slot.erase (ticked.timers timer).id) slot, ticked)

end Slot

/-- `timers` is the heap of timer objects. -/
structure TimerManager (Timer Callback : Type*) where
  slots : Nat → Slot Timer
  lastTimerID : Nat
  currSlot : Nat
  timers : Timer → NewTimer Callback

namespace TimerManager

variable [DecidableEq Timer]

def new [Inhabited Callback] : TimerManager Timer Callback where
  slots _ := ∅
  lastTimerID := 0
  currSlot := 0
  timers _ := .new

/-- The sum is unsigned, so a negative remainder wraps. -/
def slotNum (currSlot : Nat) (ticks : Int) : Nat :=
  ((currSlot + ticks.tmod maxSlotNum) % 4294967296).toNat % maxSlotNum

variable (tm : TimerManager Timer Callback) (timer : Timer)

def attachTimer (isNewTimer : Bool) : TimerManager Timer Callback :=
  let id := if isNewTimer then tm.lastTimerID + 1 else (tm.timers timer).id
  let ticks := (tm.timers timer).interval.tdiv timerTimeSlot
  let slot := slotNum tm.currSlot ticks
  { tm with
    lastTimerID := if isNewTimer then tm.lastTimerID + 1 else tm.lastTimerID
    timers := Function.update tm.timers timer
      { tm.timers timer with id, ticks, round := ticks.tdiv maxSlotNum, isRunning := true }
    slots := Function.update tm.slots slot ((tm.slots slot).addTimer id timer) }

/-- The limit counts every identifier ever given. -/
def addTimer (isNewTimer : Bool) : Int × TimerManager Timer Callback :=
  if maxTimerNum ≤ tm.lastTimerID then (-1, tm)
  else if (tm.timers timer).interval ≤ 0 then (-1, tm)
  else (0, tm.attachTimer timer isNewTimer)

/-- The search over the next slots stops at the first one that holds the identifier. -/
def findSlot (tm : TimerManager Timer Callback) (id : Nat) : (slot remaining : Nat) → Option Nat
  | _, 0 => none
  | slot, remaining + 1 =>
      if ((tm.slots slot).delTimer id).1 then some slot
      else tm.findSlot id (slot + 1) remaining

def delTimer (tm : TimerManager Timer Callback) (timer : Timer) :
    Int × TimerManager Timer Callback :=
  let id := (tm.timers timer).id
  match tm.findSlot id 0 maxSlotNum with
  | none => (1, tm)
  | some slot =>
      (1, { tm with slots := Function.update tm.slots slot ((tm.slots slot).delTimer id).2 })

/-- The loop timers are attached again before the wheel moves on. -/
def onTick (tm : TimerManager Timer Callback) :
    List (Timer × Callback) × TimerManager Timer Callback :=
  let ticked := (tm.slots tm.currSlot).onTick tm.timers
  let slots := Function.update tm.slots tm.currSlot ticked.1
  let tm := ticked.2.timeoutLoop.foldl (fun tm timer => tm.attachTimer timer false)
    { tm with slots, timers := ticked.2.timers }
  (ticked.2.launched,
    { tm with currSlot := if maxTimerNum ≤ tm.currSlot + 1 then 0 else tm.currSlot + 1 })

/-- A setter changes one timer in place. -/
def modifyTimer (change : NewTimer Callback → NewTimer Callback) : TimerManager Timer Callback :=
  { tm with timers := Function.update tm.timers timer (change (tm.timers timer)) }

/-- `Interval`, `Type` and `SetCallbackFun` store their input. -/
def setInterval (input : Int) : TimerManager Timer Callback :=
  tm.modifyTimer timer fun t => { t with interval := input }

def setType (input : TimerType) : TimerManager Timer Callback :=
  tm.modifyTimer timer fun t => { t with type := input }

def setCallbackFun (input : Callback) : TimerManager Timer Callback :=
  tm.modifyTimer timer fun t => { t with callBack := input }

/-- The result of the registration is ignored. -/
def start : TimerManager Timer Callback :=
  (tm.addTimer timer (decide ((tm.timers timer).id = 0))).2

/-- The pointer to the wheel is kept when the registration fails. The code of the registration is
returned as a truth value, so that a success reads as `false`. -/
def reStart : Bool × TimerManager Timer Callback :=
  if (tm.timers timer).isRunning then
    let deleted := tm.delTimer timer
    if deleted.1 ≠ 0 then
      let added := deleted.2.addTimer timer false
      (decide (added.1 ≠ 0), added.2)
    else (false, deleted.2)
  else (false, tm)

def cancel : Bool × TimerManager Timer Callback :=
  if (tm.timers timer).isRunning then
    let deleted := tm.delTimer timer
    if deleted.1 ≠ 0 then (true, deleted.2.modifyTimer timer fun t => { t with isRunning := false })
    else (false, deleted.2)
  else (true, tm)

end TimerManager

/-- These are the calls that the timers and the tick thread make. -/
inductive TimerEvent (Timer Callback : Type*) where
  | setInterval (timer : Timer) (input : Int)
  | setType (timer : Timer) (input : TimerType)
  | setCallbackFun (timer : Timer) (input : Callback)
  | start (timer : Timer)
  | reStart (timer : Timer)
  | cancel (timer : Timer)
  | onTick
  deriving DecidableEq, Repr

namespace TimerManager

variable [DecidableEq Timer]

def step (tm : TimerManager Timer Callback) :
    TimerEvent Timer Callback → Option (TimerManager Timer Callback)
  | .setInterval timer input => some (tm.setInterval timer input)
  | .setType timer input => some (tm.setType timer input)
  | .setCallbackFun timer input => some (tm.setCallbackFun timer input)
  | .start timer => some (tm.start timer)
  | .reStart timer => some (tm.reStart timer).2
  | .cancel timer => some (tm.cancel timer).2
  | .onTick => some tm.onTick.2

end TimerManager

end AppSvr.BaseServer
