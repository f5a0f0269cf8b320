/-
This file states exactly which runs keep the timers and the wheel in agreement.
-/

import AppSvr.Proof.BaseServer.TimerSteps

namespace AppSvr.BaseServer.TimerManager

open TransitionSystem

variable {Timer Callback : Type*}

/-- A timer reports that it runs exactly when the wheel holds it in one slot, and no two slots hold
it. -/
structure AgreesOn (tm : TimerManager Timer Callback) (timer : Timer) : Prop where
  running : (tm.timers timer).isRunning = true ↔ ∃! slot, tm.InSlot slot timer
  unique : ∀ first second, tm.InSlot first timer → tm.InSlot second timer → first = second

def Agrees (tm : TimerManager Timer Callback) : Prop := ∀ timer, tm.AgreesOn timer

section Agreement

variable {tm next : TimerManager Timer Callback} {timer : Timer}

theorem AgreesOn.running_iff (agrees : tm.AgreesOn timer) :
    (tm.timers timer).isRunning = true ↔ ∃ slot, tm.InSlot slot timer := by
  rw [agrees.running]
  constructor
  · exact ExistsUnique.exists
  · intro ⟨slot, held⟩
    exact ⟨slot, held, fun other there => agrees.unique other slot there held⟩

theorem AgreesOn.of_held (slot : Nat) (only : ∀ other, tm.InSlot other timer ↔ other = slot)
    (running : (tm.timers timer).isRunning = true) : tm.AgreesOn timer where
  running := iff_of_true running ⟨slot, (only slot).mpr rfl, fun other => (only other).mp⟩
  unique first second firstHeld secondHeld :=
    ((only first).mp firstHeld).trans ((only second).mp secondHeld).symm

theorem AgreesOn.of_absent (absent : ∀ slot, ¬ tm.InSlot slot timer)
    (stopped : (tm.timers timer).isRunning = false) : tm.AgreesOn timer where
  running := by simp [stopped, absent]
  unique first _ held := absurd held (absent first)

theorem AgreesOn.transfer (agrees : tm.AgreesOn timer)
    (running : (next.timers timer).isRunning = (tm.timers timer).isRunning)
    (slots : ∀ slot, next.InSlot slot timer ↔ tm.InSlot slot timer) : next.AgreesOn timer where
  running := by simp only [running, slots, agrees.running]
  unique first second firstHeld secondHeld :=
    agrees.unique first second ((slots first).mp firstHeld) ((slots second).mp secondHeld)

theorem AgreesOn.untouched (agrees : tm.AgreesOn timer) (same : Untouched tm next timer) :
    next.AgreesOn timer :=
  agrees.transfer (by rw [same.timers]) same.slots

end Agreement

theorem new_agrees [Inhabited Callback] : (new : TimerManager Timer Callback).Agrees := by
  intro timer
  apply AgreesOn.of_absent
  · intro slot ⟨key, found⟩
    simp [new] at found
  · rfl

variable [DecidableEq Timer]

/-- A start or a restart of a timer with a positive interval leaves the timer in the wheel. -/
def Registers (tm : TimerManager Timer Callback) (event : TimerEvent Timer Callback) : Prop :=
  ∀ timer next, event = .start timer ∨ event = .reStart timer → 0 < (tm.timers timer).interval →
    tm.step event = some next → ∃ slot, next.InSlot slot timer

/-- A start below the limit finds the timer outside the wheel or in the slot that it chooses, and
one at the limit finds the timer running. A restart below the limit finds a running timer with a
positive interval, and any other restart finds a stopped timer without one. -/
def Admitted (tm : TimerManager Timer Callback) : TimerEvent Timer Callback → Prop
  | .start timer => 0 < (tm.timers timer).interval →
      if tm.lastTimerID < maxTimerNum then
        ∀ slot, tm.InSlot slot timer → slot = slotNum tm.currSlot (tm.timers timer).interval
      else (tm.timers timer).isRunning = true
  | .reStart timer =>
      if (tm.timers timer).isRunning then
        0 < (tm.timers timer).interval ∧ tm.lastTimerID < maxTimerNum
      else (tm.timers timer).interval ≤ 0
  | _ => True

section Steps

variable {tm next : TimerManager Timer Callback}

theorem registers_of_other {event : TimerEvent Timer Callback}
    (other : ∀ timer, event ≠ .start timer ∧ event ≠ .reStart timer) : tm.Registers event := by
  intro timer next starts
  rcases starts with rfl | rfl
  · exact absurd rfl (other timer).1
  · exact absurd rfl (other timer).2

variable {timer : Timer}

theorem modifyTimer_agrees {change : NewTimer Callback → NewTimer Callback} (agrees : tm.Agrees)
    (running : (change (tm.timers timer)).isRunning = (tm.timers timer).isRunning) :
    (tm.modifyTimer timer change).Agrees := by
  intro other
  rcases eq_or_ne other timer with rfl | different
  · exact (agrees other).transfer (by rw [modifyTimer_timers_self, running]) fun _ => Iff.rfl
  · exact (agrees other).untouched (modifyTimer_untouched different)

/-- An attached timer is in its slot, and only there when no other slot held it before. -/
theorem attachTimer_agreesOn {isNewTimer : Bool} (consistent : tm.Consistent)
    (fresh : isNewTimer = decide ((tm.timers timer).id = 0))
    (only : ∀ slot, tm.InSlot slot timer →
      slot = slotNum tm.currSlot (tm.timers timer).interval) :
    (tm.attachTimer timer isNewTimer).AgreesOn timer ∧
      ∃ slot, (tm.attachTimer timer isNewTimer).InSlot slot timer := by
  have slots := attachTimer_inSlot consistent fresh
  refine ⟨AgreesOn.of_held (slotNum tm.currSlot (tm.timers timer).interval) ?_ ?_,
    _, (slots _).mpr (.inr rfl)⟩
  · intro slot
    rw [slots]
    exact or_iff_right_of_imp (only slot)
  · rw [attachTimer_timers_self]
    rfl

/-- A start below the limit puts a stopped timer into the wheel. -/
theorem start_runs (consistent : tm.Consistent) (agrees : tm.AgreesOn timer)
    (stopped : (tm.timers timer).isRunning = false) (room : tm.lastTimerID < maxTimerNum)
    (positive : 0 < (tm.timers timer).interval) :
    (tm.start timer).AgreesOn timer ∧ (∃ slot, (tm.start timer).InSlot slot timer) ∧
      ∃ id, (tm.start timer).timers timer = (tm.timers timer).attached id := by
  rcases start_cases tm timer with ⟨-, -, started⟩ | ⟨refused, -⟩
  · rw [started]
    have attached := attachTimer_agreesOn consistent rfl fun slot held => by
      have running := agrees.running_iff.mpr ⟨slot, held⟩
      rw [stopped] at running
      cases running
    exact ⟨attached.1, attached.2, _, attachTimer_timers_self⟩
  · omega

/-- A restart below the limit moves a running timer with a positive interval to its new slot. -/
theorem reStart_runs (consistent : tm.Consistent) (agrees : tm.AgreesOn timer)
    (running : (tm.timers timer).isRunning = true) (room : tm.lastTimerID < maxTimerNum)
    (positive : 0 < (tm.timers timer).interval) :
    (tm.reStart timer).2.AgreesOn timer ∧ (∃ slot, (tm.reStart timer).2.InSlot slot timer) ∧
      ∃ id, (tm.reStart timer).2.timers timer = (tm.timers timer).attached id := by
  have deleted : (tm.delTimer timer).2.Consistent := delTimer_consistent consistent
  have gone := delTimer_inSlot consistent agrees.unique
  have kept : (tm.delTimer timer).2.timers = tm.timers := delTimer_timers
  have old : false = decide (((tm.delTimer timer).2.timers timer).id = 0) := by
    rw [kept]
    exact (decide_eq_false (consistent.identified timer running)).symm
  rw [reStart_running running]
  rcases addTimer_cases (tm.delTimer timer).2 timer false with ⟨-, -, added⟩ | ⟨refused, -⟩
  · rw [added]
    have attached := attachTimer_agreesOn deleted old fun slot held => absurd held (gone slot)
    refine ⟨attached.1, attached.2, (tm.delTimer timer).2.givenID timer false, ?_⟩
    rw [attachTimer_timers_self, kept]
  · rw [kept, delTimer_lastTimerID] at refused
    omega

/-- A start keeps the agreement and registers the timer exactly when it is admitted. -/
theorem start_agrees_iff (consistent : tm.Consistent) (agrees : tm.Agrees) (timer : Timer) :
    (tm.start timer).Agrees ∧ tm.Registers (.start timer) ↔ tm.Admitted (.start timer) := by
  have registers : tm.Registers (.start timer) ↔ (0 < (tm.timers timer).interval →
      ∃ slot, (tm.start timer).InSlot slot timer) := by
    constructor
    · intro holds positive
      exact holds timer _ (.inl rfl) positive rfl
    · intro holds other next starts positive enabled
      cases enabled
      obtain rfl : timer = other := by simpa using starts
      exact holds positive
  rw [registers, Admitted]
  rcases start_cases tm timer with ⟨room, positive, started⟩ | ⟨refused, same⟩
  · rw [started]
    have slots := attachTimer_inSlot consistent (Eq.refl (decide ((tm.timers timer).id = 0)))
    simp only [positive, room, if_true, forall_const]
    constructor
    · intro ⟨after, _⟩ slot held
      exact (after timer).unique _ _ ((slots slot).mpr (.inl held)) ((slots _).mpr (.inr rfl))
    · intro only
      have attached := attachTimer_agreesOn consistent rfl only
      refine ⟨fun other => ?_, attached.2⟩
      rcases eq_or_ne other timer with rfl | different
      · exact attached.1
      · exact (agrees other).untouched (attachTimer_untouched different)
  · rw [same]
    constructor
    · intro ⟨_, holds⟩ positive
      rw [if_neg (by omega), (agrees timer).running_iff]
      exact holds positive
    · intro admitted
      refine ⟨agrees, fun positive => ?_⟩
      have running := admitted positive
      rw [if_neg (by omega), (agrees timer).running_iff] at running
      exact running

/-- A restart keeps the agreement and registers the timer exactly when it is admitted. -/
theorem reStart_agrees_iff (consistent : tm.Consistent) (agrees : tm.Agrees) (timer : Timer) :
    (tm.reStart timer).2.Agrees ∧ tm.Registers (.reStart timer) ↔ tm.Admitted (.reStart timer) := by
  have registers : tm.Registers (.reStart timer) ↔ (0 < (tm.timers timer).interval →
      ∃ slot, (tm.reStart timer).2.InSlot slot timer) := by
    constructor
    · intro holds positive
      exact holds timer _ (.inr rfl) positive rfl
    · intro holds other next starts positive enabled
      cases enabled
      obtain rfl : timer = other := by simpa using starts
      exact holds positive
  rw [registers, Admitted]
  cases running : (tm.timers timer).isRunning with
  | false =>
      rw [reStart_stopped running, if_neg Bool.false_ne_true]
      have nowhere : ¬ ∃ slot, tm.InSlot slot timer := by
        rw [← (agrees timer).running_iff, running]
        exact Bool.false_ne_true
      constructor
      · intro ⟨_, holds⟩
        by_contra positive
        exact nowhere (holds (by omega))
      · intro short
        exact ⟨agrees, fun positive => absurd positive (by omega)⟩
  | true =>
      rw [if_pos rfl]
      by_cases admitted : 0 < (tm.timers timer).interval ∧ tm.lastTimerID < maxTimerNum
      · have runs := reStart_runs consistent (agrees timer) running admitted.2 admitted.1
        refine iff_of_true ⟨fun other => ?_, fun _ => runs.2.1⟩ admitted
        rcases eq_or_ne other timer with rfl | different
        · exact runs.1
        · have enabled : tm.step (.reStart timer) = some (tm.reStart timer).2 := rfl
          exact (agrees other).untouched (step_untouched consistent enabled rfl different).1
      · refine iff_of_false ?_ admitted
        intro ⟨after, _⟩
        rw [reStart_running running] at after
        rcases addTimer_cases (tm.delTimer timer).2 timer false with
          ⟨room, positive, -⟩ | ⟨-, added⟩
        · rw [delTimer_timers] at positive
          rw [delTimer_lastTimerID] at room
          exact admitted ⟨positive, room⟩
        · rw [added] at after
          have still : ((tm.delTimer timer).2.timers timer).isRunning = true := by
            rw [delTimer_timers, running]
          obtain ⟨slot, held⟩ := (after timer).running_iff.mp still
          exact delTimer_inSlot consistent (agrees timer).unique slot held

theorem cancel_agrees (consistent : tm.Consistent) (agrees : tm.Agrees) (timer : Timer) :
    (tm.cancel timer).2.Agrees := by
  cases running : (tm.timers timer).isRunning with
  | false => rw [cancel_stopped running]; exact agrees
  | true =>
      rw [cancel_running running]
      intro other
      rcases eq_or_ne other timer with rfl | different
      · apply AgreesOn.of_absent
        · exact delTimer_inSlot consistent (agrees other).unique
        · rw [modifyTimer_timers_self]
      · exact (agrees other).untouched
          ((delTimer_untouched consistent different).trans (modifyTimer_untouched different))

/-- A tick takes a timer out of its slot, moves it to one slot, or leaves it where it is. -/
theorem onTick_agreesOn (consistent : tm.Consistent)
    (agrees : tm.AgreesOn timer) : tm.onTick.2.AgreesOn timer := by
  by_cases held : tm.InSlot tm.currSlot timer
  · have only : ∀ slot, tm.InSlot slot timer ∧ slot ≠ tm.currSlot ↔ False := by
      intro slot
      exact iff_of_false (fun there => there.2 (agrees.unique _ _ there.1 held)) id
    rcases Int.lt_or_le 1 (tm.timers timer).round with more | last
    · obtain ⟨timers, slots⟩ := onTick_waits consistent held more
      exact agrees.transfer (by rw [timers]) slots
    · by_cases loop : (tm.timers timer).type = .loopTimer
      · obtain ⟨timers, slots⟩ := onTick_reloads consistent ⟨held, last⟩ loop
        refine AgreesOn.of_held (slotNum tm.currSlot (tm.timers timer).interval) ?_ ?_
        · intro slot
          rw [slots, only, false_or]
        · rw [timers]
          rfl
      · obtain ⟨timers, slots⟩ := onTick_expires consistent ⟨held, last⟩ loop
        apply AgreesOn.of_absent
        · intro slot
          rw [slots, only]
          exact id
        · rw [timers]
  · exact agrees.untouched (onTick_idle consistent held)

/-- One step from an agreeing wheel keeps the agreement and registers what it starts exactly when
it is admitted. -/
theorem step_agrees_iff (consistent : tm.Consistent) (agrees : tm.Agrees)
    {event : TimerEvent Timer Callback} (enabled : tm.step event = some next) :
    next.Agrees ∧ tm.Registers event ↔ tm.Admitted event := by
  cases event with
  | start timer => cases enabled; exact start_agrees_iff consistent agrees timer
  | reStart timer => cases enabled; exact reStart_agrees_iff consistent agrees timer
  | cancel timer =>
      cases enabled
      have kept := cancel_agrees consistent agrees timer
      exact iff_of_true ⟨kept, registers_of_other (by simp)⟩ trivial
  | onTick =>
      cases enabled
      have after : tm.onTick.2.Agrees := fun timer => onTick_agreesOn consistent (agrees timer)
      exact iff_of_true ⟨after, registers_of_other (by simp)⟩ trivial
  | setInterval | setType | setCallbackFun =>
      cases enabled
      exact iff_of_true ⟨modifyTimer_agrees agrees rfl, registers_of_other (by simp)⟩ trivial

end Steps

/-- Every state of the run agrees, and every start and restart of a timer with a positive interval
leaves the timer in the wheel. -/
def AgreesThroughout (history : History (TimerManager Timer Callback) (TimerEvent Timer Callback))
    (final : TimerManager Timer Callback) : Prop :=
  (∀ entry ∈ history, entry.1.Agrees ∧ entry.1.Registers entry.2) ∧ final.Agrees

/-- The timers and the wheel agree throughout a run exactly when every step is admitted. -/
theorem run_agrees_iff [Inhabited Callback]
    {history : History (TimerManager Timer Callback) (TimerEvent Timer Callback)}
    {final : TimerManager Timer Callback} (run : Run step anyEvent new history final) :
    AgreesThroughout history final ↔ ∀ entry ∈ history, entry.1.Admitted entry.2 := by
  induction run with
  | nil => simp [AgreesThroughout, new_agrees]
  | @snoc before state next event earlier _ enabled ih =>
      have consistent := run_consistent earlier
      have parts : AgreesThroughout (before ++ [(state, event)]) next ↔
          AgreesThroughout before state ∧ next.Agrees ∧ state.Registers event := by
        simp only [AgreesThroughout, List.forall_mem_append, List.forall_mem_singleton]
        tauto
      rw [parts, List.forall_mem_append, List.forall_mem_singleton, ← ih]
      apply and_congr_right
      intro sofar
      exact step_agrees_iff consistent sofar.2 enabled

/-- A timer is started, ticked and cancelled. -/
theorem startTickCancel_agrees :
    ∃ history final, Run step anyEvent (new : TimerManager Nat Unit) history final ∧
      history.map Prod.snd = [.setInterval 0 10, .start 0, .onTick, .cancel 0] ∧
      AgreesThroughout history final := by
  have run := run_of_replay (show replay step (new : TimerManager Nat Unit)
    [.setInterval 0 10, .start 0, .onTick, .cancel 0] = some _ from rfl)
  refine ⟨_, _, run, rfl, (run_agrees_iff run).mpr ?_⟩
  have fresh : ((new : TimerManager Nat Unit).setInterval 0 10).Admitted (.start 0) := by
    intro _
    rw [if_pos (by decide)]
    intro slot ⟨key, found⟩
    simp [setInterval, modifyTimer, new] at found
  simp only [List.forall_mem_cons, List.not_mem_nil, false_imp_iff, implies_true, and_true]
  exact ⟨trivial, fresh, trivial, trivial⟩

/-- A timer that is started twice with a tick in between is in two slots. -/
theorem startedTwice_not_agrees :
    ∃ history final, Run step anyEvent (new : TimerManager Nat Unit) history final ∧
      history.map Prod.snd = [.setInterval 0 10, .start 0, .onTick, .start 0] ∧
      final.InSlot 10 0 ∧ final.InSlot 11 0 ∧ ¬ AgreesThroughout history final := by
  have run := run_of_replay (show replay step (new : TimerManager Nat Unit)
    [.setInterval 0 10, .start 0, .onTick, .start 0] = some _ from rfl)
  refine ⟨_, _, run, rfl, ⟨1, by decide⟩, ⟨1, by decide⟩, ?_⟩
  intro agrees
  have same := (agrees.2 0).unique 10 11 ⟨1, by decide⟩ ⟨1, by decide⟩
  omega

end AppSvr.BaseServer.TimerManager
