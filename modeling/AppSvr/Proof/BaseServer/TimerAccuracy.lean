/-
This file proves that the wheel counts down to each timer and states when the count is accurate.
-/

import AppSvr.Proof.BaseServer.TimerSteps
import AppSvr.ToMathlib.Countdown

namespace AppSvr.BaseServer.TimerManager

open TransitionSystem

variable {Timer Callback : Type*} [DecidableEq Timer]

/-- The distance is the number of ticks before the wheel reaches the slot. -/
def distance (currSlot slot : Nat) : Nat := (slot + maxSlotNum - currSlot) % maxSlotNum

/-- The wheel holds the timer in one slot or in none, and this many ticks precede the one on which
it fires. -/
def Counts (tm : TimerManager Timer Callback) (timer : Timer) : Option Nat → Prop
  | none => ∀ slot, ¬ tm.InSlot slot timer
  | some left => ∃ slot, (∀ other, tm.InSlot other timer ↔ other = slot) ∧
      left = distance tm.currSlot slot + maxSlotNum * ((tm.timers timer).round - 1).toNat

/-- A loop timer that fired waits this many ticks before the one on which it fires again. -/
def period (interval : Nat) : Nat :=
  (interval + (maxSlotNum - 1)) % maxSlotNum + maxSlotNum * (interval / maxSlotNum - 1)

def reload (timer : NewTimer Callback) : Option Nat :=
  if timer.type = .loopTimer then some (period timer.interval.toNat) else none

/-- A started timer waits this many ticks before the one on which it fires first. -/
def delay (interval : Nat) : Nat :=
  interval % maxSlotNum + maxSlotNum * (interval / maxSlotNum - 1)

theorem delay_of_lt {interval : Nat} (short : interval < maxSlotNum) :
    delay interval = interval := by
  simp [delay, Nat.mod_eq_of_lt short, Nat.div_eq_of_lt short]

theorem delay_of_le {interval : Nat} (long : maxSlotNum ≤ interval) :
    delay interval = interval - maxSlotNum := by
  simp only [delay, maxSlotNum] at long ⊢
  omega

theorem period_of_lt {interval : Nat} (positive : 0 < interval) (short : interval < maxSlotNum) :
    period interval + 1 = interval := by
  simp only [period, maxSlotNum] at short ⊢
  omega

section Ticks

variable {tm : TimerManager Timer Callback} {timer : Timer}

omit [DecidableEq Timer] in
theorem counts_fires (consistent : tm.Consistent) {left : Nat}
    (counts : tm.Counts timer (some left)) : tm.Fires timer ↔ left = 0 := by
  obtain ⟨slot, only, rfl⟩ := counts
  have inside := consistent.lt_of_inSlot ((only slot).mpr rfl)
  have current := consistent.current
  rw [Fires, only]
  simp only [distance, maxSlotNum] at inside current ⊢
  omega

/-- A tick of the wheel is a tick of the countdown. -/
theorem counts_onTick (consistent : tm.Consistent) {left : Option Nat}
    (counts : tm.Counts timer left)
    (positive : 0 < (tm.timers timer).interval) :
    tm.onTick.2.Counts timer (Countdown.tick (reload (tm.timers timer)) left) := by
  have current := consistent.current
  cases left with
  | none =>
      intro slot
      rw [(onTick_idle consistent (counts _)).slots]
      exact counts slot
  | some left =>
      have fires := counts_fires consistent counts
      obtain ⟨slot, only, left_eq⟩ := counts
      have inside := consistent.lt_of_inSlot ((only slot).mpr rfl)
      cases left with
      | succ left =>
          have quiet : ¬ tm.Fires timer := fun fired => absurd (fires.mp fired) (by omega)
          by_cases held : tm.InSlot tm.currSlot timer
          · have here : tm.currSlot = slot := (only _).mp held
            have more : 1 < (tm.timers timer).round := by
              by_contra last
              exact quiet ⟨held, by omega⟩
            obtain ⟨timers, slots⟩ := onTick_waits consistent held more
            refine ⟨slot, fun other => (slots other).trans (only other), ?_⟩
            rw [timers, onTick_currSlot consistent]
            simp only [distance, maxSlotNum] at left_eq current inside ⊢
            omega
          · have idle := onTick_idle consistent held
            have elsewhere : tm.currSlot ≠ slot := fun same => held ((only _).mpr same)
            refine ⟨slot, fun other => (idle.slots other).trans (only other), ?_⟩
            rw [idle.timers, onTick_currSlot consistent]
            simp only [distance, maxSlotNum] at left_eq current inside ⊢
            omega
      | zero =>
          have fired := fires.mpr rfl
          have here : tm.currSlot = slot := (only _).mp fired.1
          by_cases loop : (tm.timers timer).type = .loopTimer
          · obtain ⟨timers, slots⟩ := onTick_reloads consistent fired loop
            rw [Countdown.tick, reload, if_pos loop]
            refine ⟨slotNum tm.currSlot (tm.timers timer).interval, ?_, ?_⟩
            · intro other
              rw [slots, only, here]
              simp
            · obtain ⟨interval, interval_eq⟩ := Int.eq_ofNat_of_zero_le positive.le
              rw [timers, onTick_currSlot consistent, slotNum_of_nonneg current positive.le]
              simp only [NewTimer.attached, interval_eq, period, distance, maxSlotNum,
                Int.toNat_natCast] at current ⊢
              have rounds : (interval : Int).tdiv (3000 : Nat) = ((interval / 3000 : Nat) : Int) :=
                rfl
              rw [rounds]
              omega
          · obtain ⟨timers, slots⟩ := onTick_expires consistent fired loop
            rw [Countdown.tick, reload, if_neg loop]
            intro other held
            rw [slots, only, here] at held
            exact held.2 held.1

end Ticks

section Runs

/-- The states before the ticks of a history. -/
def ticks (history : History (TimerManager Timer Callback) (TimerEvent Timer Callback)) :
    List (TimerManager Timer Callback) :=
  (history.filter fun entry => entry.2.timer.isNone).map Prod.fst

/-- The tick starts a copy of the timer's callback. -/
def Launches (tm : TimerManager Timer Callback) (timer : Timer) : Prop :=
  timer ∈ tm.onTick.1.map Prod.fst

instance (tm : TimerManager Timer Callback) (timer : Timer) : Decidable (tm.Launches timer) :=
  inferInstanceAs (Decidable (_ ∈ _))

/-- The events leave one timer to the wheel. -/
def Leaves (timer : Timer) (_ : TimerManager Timer Callback)
    (event : TimerEvent Timer Callback) : Prop :=
  event.timer ≠ some timer

variable {tm final : TimerManager Timer Callback} {timer : Timer}
  {history : History (TimerManager Timer Callback) (TimerEvent Timer Callback)}

theorem launches_iff (consistent : tm.Consistent) : tm.Launches timer ↔ tm.Fires timer := by
  obtain ⟨fired, -, fires, launched⟩ := onTick_launched consistent
  rw [Launches, launched, List.map_map, ← fires]
  simp

omit [DecidableEq Timer] in
theorem ticks_snoc (state : TimerManager Timer Callback) (event : TimerEvent Timer Callback) :
    ticks (history ++ [(state, event)]) =
      ticks history ++ if event.timer.isNone then [state] else [] := by
  cases quiet : event.timer.isNone <;> simp [ticks, quiet]

omit [DecidableEq Timer] in
/-- An event that leaves the timer alone is a tick or is about another timer. -/
theorem leaves_cases {event : TimerEvent Timer Callback}
    (leaves : Leaves timer tm event) :
    event = .onTick ∨ ∃ other, event.timer = some other ∧ timer ≠ other := by
  cases event with
  | onTick => exact .inl rfl
  | _ => exact .inr ⟨_, rfl, fun same => leaves (congrArg some same.symm)⟩

/-- The state of a run that leaves the timer to the wheel follows the countdown. -/
structure Follows (start : TimerManager Timer Callback) (timer : Timer) (left : Option Nat)
    (history : History (TimerManager Timer Callback) (TimerEvent Timer Callback))
    (state : TimerManager Timer Callback) : Prop where
  consistent : state.Consistent
  interval : (state.timers timer).interval = (start.timers timer).interval
  type : (state.timers timer).type = (start.timers timer).type
  counts : state.Counts timer
    (Countdown.after (reload (start.timers timer)) left (ticks history).length)
  launched : ∀ count tick, (ticks history)[count]? = some tick →
    (tick.Launches timer ↔ Countdown.FiresAt (reload (start.timers timer)) left count)

theorem counts_launches (consistent : tm.Consistent) {left : Option Nat}
    (counts : tm.Counts timer left) : tm.Launches timer ↔ left = some 0 := by
  rw [launches_iff consistent]
  cases left with
  | none => simp [Fires, counts tm.currSlot]
  | some left => rw [counts_fires consistent counts, Option.some.injEq]

omit [DecidableEq Timer] in
theorem counts_congr {next : TimerManager Timer Callback} {left : Option Nat}
    (same : Untouched tm next timer) (current : next.currSlot = tm.currSlot)
    (counts : tm.Counts timer left) : next.Counts timer left := by
  cases left with
  | none => exact fun slot held => counts slot ((same.slots slot).mp held)
  | some left =>
      obtain ⟨slot, only, left_eq⟩ := counts
      refine ⟨slot, fun other => (same.slots other).trans (only other), ?_⟩
      rw [same.timers, current]
      exact left_eq

theorem follows_step {start state next : TimerManager Timer Callback} {left : Option Nat}
    {event : TimerEvent Timer Callback} (positive : 0 < (start.timers timer).interval)
    (follows : Follows start timer left history state) (leaves : Leaves timer state event)
    (enabled : state.step event = some next) :
    Follows start timer left (history ++ [(state, event)]) next := by
  have consistent := follows.consistent
  have after := step_consistent consistent enabled
  rcases leaves_cases leaves with rfl | ⟨other, about, different⟩
  · cases enabled
    have settings := onTick_settings consistent timer
    have sameReload : reload (state.timers timer) = reload (start.timers timer) := by
      rw [reload, reload, follows.interval, follows.type]
    have counted := counts_onTick consistent follows.counts (follows.interval ▸ positive)
    rw [sameReload] at counted
    have ticked : ticks (history ++ [(state, TimerEvent.onTick)]) = ticks history ++ [state] := by
      rw [ticks_snoc]
      rfl
    refine ⟨after, settings.1.trans follows.interval, settings.2.1.trans follows.type, ?_, ?_⟩
    · rw [ticked, List.length_append, List.length_singleton]
      exact counted
    · intro count tick found
      rw [ticked, List.getElem?_append] at found
      split at found
      · exact follows.launched count tick found
      next beyond =>
        obtain ⟨last, rfl⟩ : count = (ticks history).length ∧ state = tick := by
          have position := (List.getElem?_eq_some_iff.mp found).1
          rw [List.length_singleton] at position
          refine ⟨by omega, ?_⟩
          rw [show count - (ticks history).length = 0 by omega] at found
          exact Option.some.inj found
        rw [last, counts_launches consistent follows.counts]
        rfl
  · obtain ⟨same, current⟩ := step_untouched consistent enabled about different
    have quiet : ticks (history ++ [(state, event)]) = ticks history := by
      rw [ticks_snoc, about]
      simp
    refine ⟨after, ?_, ?_, ?_, ?_⟩
    · rw [same.timers]
      exact follows.interval
    · rw [same.timers]
      exact follows.type
    · rw [quiet]
      exact counts_congr same current follows.counts
    · rw [quiet]
      exact follows.launched

/-- The wheel refines the countdown over every run that leaves the timer alone. -/
theorem run_follows {start : TimerManager Timer Callback} {left : Option Nat}
    (consistent : start.Consistent) (positive : 0 < (start.timers timer).interval)
    (counts : start.Counts timer left)
    (run : Run step (Leaves timer) start history final) :
    Follows start timer left history final := by
  apply run.historyInvariant (Follows start timer left)
  · exact ⟨consistent, rfl, rfl, counts, by simp [ticks]⟩
  · intro _ _ _ _ follows leaves enabled
    exact follows_step positive follows leaves enabled

/-- The wheel can turn any number of times. -/
theorem exists_turns (start : TimerManager Timer Callback) (timer : Timer) (count : Nat) :
    ∃ history final, Run step (Leaves timer) start history final ∧
      (ticks history).length = count := by
  induction count with
  | zero => exact ⟨[], start, .nil, rfl⟩
  | succ count ih =>
      obtain ⟨history, final, run, length⟩ := ih
      refine ⟨history ++ [(final, .onTick)], final.onTick.2, ?_, ?_⟩
      · exact .snoc run (by simp [Leaves, TimerEvent.timer]) rfl
      · rw [ticks_snoc, List.length_append, length]
        rfl

end Runs

section Start

variable {tm : TimerManager Timer Callback} {timer : Timer}

theorem start_settings (tm : TimerManager Timer Callback) (timer : Timer) :
    ((tm.start timer).timers timer).interval = (tm.timers timer).interval ∧
      ((tm.start timer).timers timer).type = (tm.timers timer).type := by
  rcases start_cases tm timer with ⟨-, -, started⟩ | ⟨-, same⟩
  · rw [started, attachTimer_timers_self]
    exact ⟨rfl, rfl⟩
  · rw [same]
    exact ⟨rfl, rfl⟩

/-- A timer that enters the wheel counts down from its delay. -/
theorem start_counts (consistent : tm.Consistent) (absent : ∀ slot, ¬ tm.InSlot slot timer)
    (room : tm.lastTimerID < maxTimerNum) (positive : 0 < (tm.timers timer).interval) :
    (tm.start timer).Counts timer (some (delay (tm.timers timer).interval.toNat)) := by
  rcases start_cases tm timer with ⟨-, -, started⟩ | ⟨refused, -⟩
  · rw [started]
    refine ⟨slotNum tm.currSlot (tm.timers timer).interval, ?_, ?_⟩
    · intro other
      rw [attachTimer_inSlot consistent rfl]
      exact or_iff_right (absent other)
    · have current := consistent.current
      obtain ⟨interval, interval_eq⟩ := Int.eq_ofNat_of_zero_le positive.le
      rw [attachTimer_timers_self, slotNum_of_nonneg current positive.le]
      simp only [NewTimer.attached, attachTimer, interval_eq, delay, distance, maxSlotNum,
        Int.toNat_natCast] at current ⊢
      have rounds : (interval : Int).tdiv (3000 : Nat) = ((interval / 3000 : Nat) : Int) := rfl
      rw [rounds]
      omega
  · rcases refused with full | short <;> omega

/-- The timer is due on its first tick, and a loop timer again after every interval. -/
def Due (type : TimerType) (interval first count : Nat) : Prop :=
  match type with
  | .onceTimer => count = first
  | .loopTimer => first ≤ count ∧ interval ∣ count - first

/-- Whatever the other timers do, the timer first fires on the tick with the number of its interval
or on the one after it. The ticks are counted from one. -/
def Accurate (tm : TimerManager Timer Callback) (timer : Timer) : Prop :=
  ∀ history final, Run step (Leaves timer) tm history final →
    ∃ first, (first = (tm.timers timer).interval.toNat ∨
        first = (tm.timers timer).interval.toNat + 1) ∧
      ∀ count tick, (ticks history)[count]? = some tick →
        (tick.Launches timer ↔
          Due (tm.timers timer).type (tm.timers timer).interval.toNat first (count + 1))

theorem le_of_due {type : TimerType} {interval first count : Nat}
    (due : Due type interval first count) : first ≤ count := by
  cases type with
  | onceTimer => exact Nat.le_of_eq (Eq.symm due)
  | loopTimer => exact due.1

theorem due_first (type : TimerType) (interval first : Nat) : Due type interval first first := by
  cases type with
  | onceTimer => rfl
  | loopTimer => exact ⟨le_rfl, by simp⟩

/-- A timer that the wheel does not hold misses its tick. -/
theorem not_accurate_of_idle (consistent : tm.Consistent)
    (positive : 0 < (tm.timers timer).interval) (idle : tm.Counts timer none) :
    ¬ tm.Accurate timer := by
  intro accurate
  obtain ⟨history, final, run, length⟩ :=
    exists_turns tm timer ((tm.timers timer).interval.toNat + 1)
  obtain ⟨first, near, due⟩ := accurate history final run
  have inside : first - 1 < (ticks history).length := by omega
  have found := List.getElem?_eq_getElem inside
  have launches := (due (first - 1) _ found).mpr (by
    rw [show first - 1 + 1 = first by omega]
    exact due_first _ _ _)
  have follows := run_follows consistent positive idle run
  exact Countdown.not_firesAt_none _ _ ((follows.launched _ _ found).mp launches)

/-- A timer that fires on a tick before its interval is not accurate. -/
theorem not_accurate_of_early (consistent : tm.Consistent)
    (positive : 0 < (tm.timers timer).interval) {left : Nat}
    (counts : tm.Counts timer (some left)) (early : left + 1 < (tm.timers timer).interval.toNat) :
    ¬ tm.Accurate timer := by
  intro accurate
  obtain ⟨history, final, run, length⟩ := exists_turns tm timer (left + 1)
  obtain ⟨first, near, due⟩ := accurate history final run
  have inside : left < (ticks history).length := by omega
  have found := List.getElem?_eq_getElem inside
  have follows := run_follows consistent positive counts run
  have launches := (follows.launched _ _ found).mpr
    ((Countdown.firesAt_of_le _ le_rfl).mpr rfl)
  have reached := le_of_due ((due left _ found).mp launches)
  omega

/-- A timer that fires after its interval is accurate when its period fits one revolution. -/
theorem accurate_of_counts (consistent : tm.Consistent)
    (positive : 0 < (tm.timers timer).interval)
    (short : (tm.timers timer).interval.toNat < maxSlotNum)
    (counts : tm.Counts timer (some (tm.timers timer).interval.toNat)) : tm.Accurate timer := by
  intro history final run
  refine ⟨_, .inr rfl, ?_⟩
  intro count tick found
  rw [(run_follows consistent positive counts run).launched count tick found, reload]
  cases type : (tm.timers timer).type with
  | onceTimer =>
      rw [if_neg TimerType.noConfusion, Countdown.firesAt_once, Due]
      omega
  | loopTimer =>
      rw [if_pos rfl, Countdown.firesAt_loop, period_of_lt (by omega) short, Due,
        Nat.add_le_add_iff_right, Nat.add_sub_add_right]

/-- A timer that enters the wheel fires on time exactly when its interval is shorter than one
revolution and fewer identifiers than the limit were given before. -/
theorem start_accurate_iff [Inhabited Callback]
    {history : History (TimerManager Timer Callback) (TimerEvent Timer Callback)}
    (run : Run step anyEvent new history tm) (timer : Timer)
    (absent : ∀ slot, ¬ tm.InSlot slot timer) (positive : 1 ≤ (tm.timers timer).interval) :
    (tm.start timer).Accurate timer ↔
      (tm.timers timer).interval < maxSlotNum ∧ tm.lastTimerID < maxTimerNum := by
  have consistent := run_consistent run
  have started : (tm.start timer).Consistent := start_consistent consistent
  obtain ⟨interval, -⟩ := start_settings tm timer
  have runs : 0 < ((tm.start timer).timers timer).interval := by omega
  constructor
  · intro accurate
    rcases Nat.lt_or_ge tm.lastTimerID maxTimerNum with room | full
    · refine ⟨?_, room⟩
      by_contra long
      have counts := start_counts consistent absent room (by omega)
      rw [delay_of_le (by omega)] at counts
      refine not_accurate_of_early started runs counts ?_ accurate
      simp only [maxSlotNum] at long ⊢
      omega
    · exfalso
      rcases start_cases tm timer with ⟨room, -⟩ | ⟨-, same⟩
      · omega
      · refine not_accurate_of_idle started runs ?_ accurate
        rw [same]
        exact absent
  · intro fits
    obtain ⟨short, room⟩ := fits
    have counts := start_counts consistent absent room (by omega)
    rw [delay_of_lt (by omega), ← interval] at counts
    exact accurate_of_counts started runs (by omega) counts

/-- A second timer enters a wheel that has turned once with a first timer in it. -/
theorem secondTimer_accurate_iff :
    let tm := ((((new : TimerManager Nat Unit).setInterval 1 7).start 1).onTick.2).setInterval 0 10
    (tm.start 0).Accurate 0 ↔
      (tm.timers 0).interval < maxSlotNum ∧ tm.lastTimerID < maxTimerNum := by
  intro tm
  have run : Run step anyEvent new _ tm := run_of_replay
    (show replay step new [.setInterval 1 7, .start 1, .onTick, .setInterval 0 10] = some (_, tm)
      from rfl)
  have absent : ∀ slot, ¬ tm.InSlot slot 0 := by
    intro slot held
    exact (run_consistent run).id_ne_zero_of_inSlot held rfl
  exact start_accurate_iff run 0 absent (by decide)

/-- A timer of one full revolution fires on the first tick. -/
theorem fullRevolution_not_accurate :
    let tm := (new : TimerManager Nat Unit).setInterval 0 3000
    Run step anyEvent new [(new, .setInterval 0 3000)] tm ∧ (∀ slot, ¬ tm.InSlot slot 0) ∧
      (tm.start 0).Launches 0 ∧ ¬ (tm.start 0).Accurate 0 := by
  intro tm
  have run : Run step anyEvent new [(new, .setInterval 0 3000)] tm := run_of_replay
    (show replay step new [.setInterval 0 3000] = some ([(new, .setInterval 0 3000)], tm) from rfl)
  have launches : (tm.start 0).Launches 0 := by decide
  refine ⟨run, ?_, launches, ?_⟩
  · intro slot held
    exact (run_consistent run).id_ne_zero_of_inSlot held rfl
  · intro accurate
    have turn : Run step (Leaves 0) (tm.start 0) ([] ++ [(tm.start 0, TimerEvent.onTick)])
        (tm.start 0).onTick.2 := .snoc .nil (by simp [Leaves, TimerEvent.timer]) rfl
    obtain ⟨first, near, due⟩ := accurate _ _ turn
    have reached := le_of_due ((due 0 (tm.start 0) rfl).mp launches)
    have interval : ((tm.start 0).timers 0).interval.toNat = 3000 := by decide
    omega

end Start

end AppSvr.BaseServer.TimerManager
