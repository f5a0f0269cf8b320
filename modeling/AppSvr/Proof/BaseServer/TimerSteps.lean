/-
This file states once what each operation of the wheel does to one timer.
-/

import AppSvr.Construction.BaseServer.TimerManager
import AppSvr.ToMathlib.TransitionSystem
import Mathlib.Data.List.Nodup
import Mathlib.Order.Basic

namespace AppSvr.BaseServer

variable {Timer Callback : Type*}

/-- This is the timer after the wheel attached it. -/
def NewTimer.attached (timer : NewTimer Callback) (id : Nat) : NewTimer Callback :=
  { timer with
    id
    ticks := timer.interval
    round := timer.interval.tdiv maxSlotNum
    isRunning := true }

theorem NewTimer.onTick_of_le (timer : NewTimer Callback) (last : timer.round ≤ 1) :
    timer.onTick = (true, { timer with round := timer.round - 1, isRunning := false }) := by
  have passed : timer.round - 1 ≤ 0 := by omega
  simp [NewTimer.onTick, NewTimer.onTimeout, passed]

theorem NewTimer.onTick_of_lt (timer : NewTimer Callback) (more : 1 < timer.round) :
    timer.onTick = (false, { timer with round := timer.round - 1 }) := by
  have waits : ¬ timer.round - 1 ≤ 0 := by omega
  simp [NewTimer.onTick, waits]

theorem NewTimer.onTick_fires (timer : NewTimer Callback) :
    timer.onTick.1 = true ↔ timer.round ≤ 1 := by
  rcases Int.lt_or_le 1 timer.round with more | last
  · simp [timer.onTick_of_lt more, more]
  · simp [timer.onTick_of_le last, last]

@[simp] theorem NewTimer.onTick_id (timer : NewTimer Callback) :
    timer.onTick.2.id = timer.id := by
  unfold NewTimer.onTick
  dsimp only
  split <;> rfl

theorem Slot.delTimer_fst (slot : Slot Timer) (id : Nat) :
    (slot.delTimer id).1 = false ↔ slot[id]? = none := by
  rw [Slot.delTimer]
  by_cases present : id ∈ slot <;> simp [present]

/-- The erasures remove exactly the listed identifiers. -/
theorem Slot.erase_foldl (name : Timer → Nat) (timers : List Timer) (slot : Slot Timer)
    (key : Nat) :
    (timers.foldl (fun slot timer => slot.erase (name timer)) slot)[key]? =
      if key ∈ timers.map name then none else slot[key]? := by
  induction timers generalizing slot with
  | nil => simp
  | cons timer rest ih =>
      rw [List.foldl_cons, ih, Std.TreeMap.getElem?_erase]
      by_cases later : key ∈ rest.map name
      · simp [later]
      · by_cases same : key = name timer
        · simp [same]
        · have different : compare (name timer) key ≠ .eq := by
            rw [Ne, Nat.compare_eq_eq]
            exact Ne.symm same
          have absent : key ∉ (timer :: rest).map name := by simp [same, later]
          rw [if_neg later, if_neg different, if_neg absent]

namespace TimerManager

/-- The slot holds the timer under some key. -/
def InSlot (tm : TimerManager Timer Callback) (slot : Nat) (timer : Timer) : Prop :=
  ∃ key : Nat, (tm.slots slot)[key]? = some timer

/-- The keys of the slots are the identifiers of the timers, and no two timers share one. -/
structure Consistent (tm : TimerManager Timer Callback) : Prop where
  keyed : ∀ (slot key : Nat) (timer : Timer), (tm.slots slot)[key]? = some timer →
    slot < maxSlotNum ∧ (tm.timers timer).id = key ∧ key ≠ 0
  bounded : ∀ timer, (tm.timers timer).id ≤ tm.lastTimerID
  distinct : ∀ first second, (tm.timers first).id = (tm.timers second).id →
    (tm.timers first).id ≠ 0 → first = second
  identified : ∀ timer, (tm.timers timer).isRunning = true → (tm.timers timer).id ≠ 0
  current : tm.currSlot < maxSlotNum

/-- An operation that leaves one timer and its slots alone. -/
structure Untouched (tm next : TimerManager Timer Callback) (timer : Timer) : Prop where
  timers : next.timers timer = tm.timers timer
  slots : ∀ slot, next.InSlot slot timer ↔ tm.InSlot slot timer

theorem Untouched.trans {first second third : TimerManager Timer Callback} {timer : Timer}
    (before : Untouched first second timer) (after : Untouched second third timer) :
    Untouched first third timer :=
  ⟨after.timers.trans before.timers, fun slot => (after.slots slot).trans (before.slots slot)⟩

theorem Untouched.refl (tm : TimerManager Timer Callback) (timer : Timer) :
    Untouched tm tm timer := ⟨rfl, fun _ => Iff.rfl⟩

namespace Consistent

variable {tm : TimerManager Timer Callback}

theorem inSlot_iff (consistent : tm.Consistent) (slot : Nat) (timer : Timer) :
    tm.InSlot slot timer ↔ (tm.slots slot)[(tm.timers timer).id]? = some timer := by
  constructor
  · intro ⟨key, found⟩
    rw [(consistent.keyed slot key timer found).2.1]
    exact found
  · intro found
    exact ⟨_, found⟩

theorem lt_of_inSlot (consistent : tm.Consistent) {slot : Nat} {timer : Timer}
    (held : tm.InSlot slot timer) : slot < maxSlotNum := by
  obtain ⟨key, found⟩ := held
  exact (consistent.keyed slot key timer found).1

theorem id_ne_zero_of_inSlot (consistent : tm.Consistent) {slot : Nat} {timer : Timer}
    (held : tm.InSlot slot timer) : (tm.timers timer).id ≠ 0 := by
  obtain ⟨key, found⟩ := held
  obtain ⟨-, same, positive⟩ := consistent.keyed slot key timer found
  rw [same]
  exact positive

/-- The key of a started timer finds only this timer. -/
theorem eq_of_key (consistent : tm.Consistent) {slot : Nat} {timer other : Timer}
    (found : (tm.slots slot)[(tm.timers timer).id]? = some other) : other = timer := by
  obtain ⟨-, same, positive⟩ := consistent.keyed _ _ _ found
  exact consistent.distinct other timer same (same ▸ positive)

end Consistent

theorem new_consistent [Inhabited Callback] :
    (new : TimerManager Timer Callback).Consistent where
  keyed slot key timer found := by simp [new] at found
  bounded timer := Nat.le_refl 0
  distinct first second same positive := absurd rfl positive
  identified timer running := by simp [new, NewTimer.new] at running
  current := Nat.zero_lt_succ 2999

theorem findSlot_eq_none {tm : TimerManager Timer Callback} {id start remaining : Nat}
    (found : tm.findSlot id start remaining = none) (slot : Nat) (above : start ≤ slot)
    (inside : slot < start + remaining) : (tm.slots slot)[id]? = none := by
  induction remaining generalizing start with
  | zero => omega
  | succ remaining ih =>
      rw [findSlot] at found
      split at found
      · cases found
      next rejected =>
        rcases Nat.eq_or_lt_of_le above with rfl | later
        · exact (Slot.delTimer_fst _ _).mp (Bool.eq_false_iff.mpr rejected)
        · exact ih found later (by omega)

theorem findSlot_eq_some {tm : TimerManager Timer Callback} {id start remaining slot : Nat}
    (found : tm.findSlot id start remaining = some slot) :
    slot < start + remaining ∧ (tm.slots slot)[id]? ≠ none ∧
      ∀ earlier < slot, start ≤ earlier → (tm.slots earlier)[id]? = none := by
  induction remaining generalizing start with
  | zero => cases found
  | succ remaining ih =>
      rw [findSlot] at found
      split at found
      next hit =>
        cases found
        refine ⟨by omega, fun missing => ?_, fun earlier lower above => by omega⟩
        rw [(Slot.delTimer_fst _ _).mpr missing] at hit
        cases hit
      next rejected =>
        obtain ⟨inside, present, before⟩ := ih found
        refine ⟨by omega, present, ?_⟩
        intro earlier lower above
        rcases Nat.eq_or_lt_of_le above with rfl | later
        · exact (Slot.delTimer_fst _ _).mp (Bool.eq_false_iff.mpr rejected)
        · exact before earlier lower later

section Delete

variable {tm : TimerManager Timer Callback} {timer : Timer}

/-- The deletion erases the identifier from the first slot that has it. -/
theorem delTimer_cases (tm : TimerManager Timer Callback) (timer : Timer) :
    (∀ slot < maxSlotNum, (tm.slots slot)[(tm.timers timer).id]? = none) ∧
        tm.delTimer timer = (1, tm) ∨
      ∃ slot < maxSlotNum, (tm.slots slot)[(tm.timers timer).id]? ≠ none ∧
        (∀ earlier < slot, (tm.slots earlier)[(tm.timers timer).id]? = none) ∧
        tm.delTimer timer = (1, { tm with
          slots := Function.update tm.slots slot
            ((tm.slots slot).erase (tm.timers timer).id) }) := by
  cases found : tm.findSlot (tm.timers timer).id 0 maxSlotNum with
  | none =>
      refine .inl ⟨fun slot inside => findSlot_eq_none found slot (Nat.zero_le _) (by omega), ?_⟩
      unfold delTimer
      simp only [found]
  | some slot =>
      obtain ⟨inside, present, before⟩ := findSlot_eq_some found
      have member : (tm.timers timer).id ∈ tm.slots slot := by
        by_contra missing
        exact present (Std.TreeMap.getElem?_eq_none missing)
      refine .inr ⟨slot, by omega, present, fun earlier lower => before earlier lower
        (Nat.zero_le _), ?_⟩
      unfold delTimer
      simp only [found, Slot.delTimer, member, if_true]

theorem delTimer_code (tm : TimerManager Timer Callback) (timer : Timer) :
    (tm.delTimer timer).1 = 1 := by
  rcases delTimer_cases tm timer with ⟨-, same⟩ | ⟨slot, -, -, -, same⟩ <;> rw [same]

theorem delTimer_timers : (tm.delTimer timer).2.timers = tm.timers := by
  rcases delTimer_cases tm timer with ⟨-, same⟩ | ⟨slot, -, -, -, same⟩ <;> rw [same]

theorem delTimer_currSlot : (tm.delTimer timer).2.currSlot = tm.currSlot := by
  rcases delTimer_cases tm timer with ⟨-, same⟩ | ⟨slot, -, -, -, same⟩ <;> rw [same]

theorem delTimer_lastTimerID : (tm.delTimer timer).2.lastTimerID = tm.lastTimerID := by
  rcases delTimer_cases tm timer with ⟨-, same⟩ | ⟨slot, -, -, -, same⟩ <;> rw [same]

/-- The deletion finds only entries that were there. -/
theorem delTimer_slots {slot key : Nat} {other : Timer}
    (found : ((tm.delTimer timer).2.slots slot)[key]? = some other) :
    (tm.slots slot)[key]? = some other := by
  rcases delTimer_cases tm timer with ⟨-, same⟩ | ⟨first, -, -, -, same⟩
  · rw [same] at found
    exact found
  · rw [same] at found
    rcases eq_or_ne slot first with rfl | different
    · simp only [Function.update_self, Std.TreeMap.getElem?_erase] at found
      split at found
      · cases found
      · exact found
    · simpa only [Function.update_of_ne different] using found

theorem delTimer_untouched (consistent : tm.Consistent) {other : Timer}
    (different : other ≠ timer) : Untouched tm (tm.delTimer timer).2 other where
  timers := by rw [delTimer_timers]
  slots slot := by
    constructor
    · intro ⟨key, found⟩
      exact ⟨key, delTimer_slots found⟩
    · intro ⟨key, found⟩
      refine ⟨key, ?_⟩
      rcases delTimer_cases tm timer with ⟨-, same⟩ | ⟨first, -, -, -, same⟩
      · rw [same]
        exact found
      · rw [same]
        rcases eq_or_ne slot first with rfl | elsewhere
        · have apart : compare (tm.timers timer).id key ≠ .eq := by
            rw [Ne, Nat.compare_eq_eq]
            intro equal
            exact different (consistent.eq_of_key (equal ▸ found))
          simp only [Function.update_self, Std.TreeMap.getElem?_erase, if_neg apart, found]
        · simpa only [Function.update_of_ne elsewhere] using found

theorem delTimer_consistent (consistent : tm.Consistent) :
    (tm.delTimer timer).2.Consistent := by
  constructor
  · intro slot key other found
    rw [delTimer_timers]
    exact consistent.keyed slot key other (delTimer_slots found)
  · intro other
    rw [delTimer_timers, delTimer_lastTimerID]
    exact consistent.bounded other
  · rw [delTimer_timers]
    exact consistent.distinct
  · rw [delTimer_timers]
    exact consistent.identified
  · rw [delTimer_currSlot]
    exact consistent.current

/-- A timer of one slot leaves the wheel. -/
theorem delTimer_inSlot (consistent : tm.Consistent)
    (once : ∀ first second, tm.InSlot first timer → tm.InSlot second timer → first = second)
    (slot : Nat) : ¬ (tm.delTimer timer).2.InSlot slot timer := by
  intro ⟨key, found⟩
  have held : tm.InSlot slot timer := ⟨key, delTimer_slots found⟩
  have here := (consistent.inSlot_iff slot timer).mp held
  have key_eq := (consistent.keyed _ _ _ (delTimer_slots found)).2.1
  rcases delTimer_cases tm timer with ⟨nowhere, -⟩ | ⟨first, -, occupied, -, same⟩
  · have missing := nowhere slot (consistent.lt_of_inSlot held)
    rw [here] at missing
    cases missing
  · obtain ⟨other, known⟩ := Option.ne_none_iff_exists'.mp occupied
    have equal : other = timer := consistent.eq_of_key known
    subst equal
    have first_eq := once first slot ⟨_, known⟩ held
    subst first_eq
    rw [same, ← key_eq] at found
    simp at found

end Delete

theorem mem_entries (tm : TimerManager Timer Callback) (slot : Nat)
    (timer : Timer) :
    timer ∈ (tm.slots slot).toList.map Prod.snd ↔ tm.InSlot slot timer := by
  simp [InSlot, Std.TreeMap.mem_toList_iff_getElem?_eq_some]

theorem entries_nodup {tm : TimerManager Timer Callback} (consistent : tm.Consistent)
    (slot : Nat) : ((tm.slots slot).toList.map Prod.snd).Nodup := by
  rw [List.Nodup, List.pairwise_map]
  refine (Std.TreeMap.distinct_keys_toList (t := tm.slots slot)).imp_of_mem ?_
  intro first second firstIn secondIn different same
  rw [Std.TreeMap.mem_toList_iff_getElem?_eq_some] at firstIn secondIn
  have firstKey := (consistent.keyed _ _ _ firstIn).2.1
  have secondKey := (consistent.keyed _ _ _ secondIn).2.1
  exact different (Nat.compare_eq_eq.mpr (by rw [← firstKey, ← secondKey, same]))

variable [DecidableEq Timer]

theorem slotNum_lt (currSlot : Nat) (ticks : Int) : slotNum currSlot ticks < maxSlotNum :=
  Nat.mod_lt _ (by decide)

/-- A positive number of slices stays below the bound of the unsigned sum. -/
theorem slotNum_of_nonneg {currSlot : Nat} (current : currSlot < maxSlotNum) {ticks : Int}
    (positive : 0 ≤ ticks) : slotNum currSlot ticks = (currSlot + ticks.toNat) % maxSlotNum := by
  obtain ⟨count, rfl⟩ := Int.eq_ofNat_of_zero_le positive
  simp only [slotNum, maxSlotNum, Int.toNat_natCast] at current ⊢
  have rest : (count : Int).tmod (3000 : Nat) = ((count % 3000 : Nat) : Int) := rfl
  rw [rest]
  omega

section Setters

variable {tm : TimerManager Timer Callback} {timer : Timer}
  {change : NewTimer Callback → NewTimer Callback}

theorem modifyTimer_timers_self :
    (tm.modifyTimer timer change).timers timer = change (tm.timers timer) :=
  Function.update_self ..

theorem modifyTimer_untouched {other : Timer} (different : other ≠ timer) :
    Untouched tm (tm.modifyTimer timer change) other where
  timers := Function.update_of_ne different ..
  slots _ := Iff.rfl

/-- A setter that keeps the identifier and starts no timer keeps the wheel consistent. -/
theorem modifyTimer_consistent (consistent : tm.Consistent)
    (id : (change (tm.timers timer)).id = (tm.timers timer).id)
    (running : (change (tm.timers timer)).isRunning = true →
      (tm.timers timer).isRunning = true) :
    (tm.modifyTimer timer change).Consistent := by
  have sameId : ∀ other, ((tm.modifyTimer timer change).timers other).id
      = (tm.timers other).id := by
    intro other
    rcases eq_or_ne other timer with rfl | different
    · rw [modifyTimer_timers_self, id]
    · rw [(modifyTimer_untouched different).timers]
  constructor
  · intro slot key other found
    rw [sameId]
    exact consistent.keyed slot key other found
  · intro other
    rw [sameId]
    exact consistent.bounded other
  · intro first second
    rw [sameId, sameId]
    exact consistent.distinct first second
  · intro other started
    rw [sameId]
    rcases eq_or_ne other timer with rfl | different
    · rw [modifyTimer_timers_self] at started
      exact consistent.identified other (running started)
    · rw [(modifyTimer_untouched different).timers] at started
      exact consistent.identified other started
  · exact consistent.current

end Setters

section Attach

/-- An attached timer keeps its identifier unless it is new. -/
def givenID (tm : TimerManager Timer Callback) (timer : Timer) (isNewTimer : Bool) : Nat :=
  if isNewTimer then tm.lastTimerID + 1 else (tm.timers timer).id

variable {tm : TimerManager Timer Callback} {timer : Timer} {isNewTimer : Bool}

theorem attachTimer_timers_self :
    (tm.attachTimer timer isNewTimer).timers timer = (tm.timers timer).attached
      (tm.givenID timer isNewTimer) := by
  simp [attachTimer, NewTimer.attached, timerTimeSlot, givenID]

/-- The insertion adds at most the attached timer to the chosen slot. -/
theorem attachTimer_slots (slot key : Nat) :
    ((tm.attachTimer timer isNewTimer).slots slot)[key]? =
      if slot = slotNum tm.currSlot (tm.timers timer).interval
        ∧ key = tm.givenID timer isNewTimer ∧ (tm.slots slot)[key]? = none then some timer
      else (tm.slots slot)[key]? := by
  have inserted : (tm.attachTimer timer isNewTimer).slots =
      Function.update tm.slots (slotNum tm.currSlot (tm.timers timer).interval)
        ((tm.slots (slotNum tm.currSlot (tm.timers timer).interval)).addTimer
          (tm.givenID timer isNewTimer) timer) := by
    simp [attachTimer, timerTimeSlot, givenID]
  rw [inserted]
  by_cases same : slot = slotNum tm.currSlot (tm.timers timer).interval
  · rw [← same, Function.update_self, Slot.addTimer, Std.TreeMap.getElem?_insertIfNew]
    by_cases equal : key = tm.givenID timer isNewTimer
    · simp [equal]
    · have different : compare (tm.givenID timer isNewTimer) key ≠ .eq := by
        rw [Ne, Nat.compare_eq_eq]
        exact Ne.symm equal
      simp [equal, different]
  · simp [same]

theorem attachTimer_untouched {other : Timer} (different : other ≠ timer) :
    Untouched tm (tm.attachTimer timer isNewTimer) other where
  timers := Function.update_of_ne different ..
  slots slot := by
    apply exists_congr
    intro key
    rw [attachTimer_slots]
    split
    next added => simp [added.2.2, Ne.symm different]
    next => rfl

/-- An attached timer takes its slot and keeps the slots that it had. -/
theorem attachTimer_inSlot (consistent : tm.Consistent)
    (fresh : isNewTimer = decide ((tm.timers timer).id = 0)) (slot : Nat) :
    (tm.attachTimer timer isNewTimer).InSlot slot timer ↔
      tm.InSlot slot timer ∨ slot = slotNum tm.currSlot (tm.timers timer).interval := by
  constructor
  · intro ⟨key, found⟩
    rw [attachTimer_slots] at found
    split at found
    next added => exact .inr added.1
    next => exact .inl ⟨key, found⟩
  · intro held
    by_cases before : tm.InSlot slot timer
    · obtain ⟨key, found⟩ := before
      refine ⟨key, ?_⟩
      rw [attachTimer_slots, found]
      simp
    · have chosen := held.resolve_left before
      have vacant : (tm.slots slot)[tm.givenID timer isNewTimer]? = none := by
        by_contra occupied
        obtain ⟨other, found⟩ := Option.ne_none_iff_exists'.mp occupied
        obtain ⟨-, same, positive⟩ := consistent.keyed _ _ _ found
        have bound := consistent.bounded other
        cases isNewTimer with
        | true => simp only [givenID, if_true] at same; omega
        | false =>
            have equal : other = timer := consistent.eq_of_key found
            subst equal
            exact before ⟨_, found⟩
      refine ⟨tm.givenID timer isNewTimer, ?_⟩
      rw [attachTimer_slots, if_pos ⟨chosen, rfl, vacant⟩]

theorem attachTimer_consistent (consistent : tm.Consistent)
    (fresh : isNewTimer = decide ((tm.timers timer).id = 0)) :
    (tm.attachTimer timer isNewTimer).Consistent := by
  have newId : tm.givenID timer isNewTimer ≠ 0 := by
    cases isNewTimer <;> simp_all [givenID]
  have last : (tm.attachTimer timer isNewTimer).lastTimerID =
      if isNewTimer then tm.lastTimerID + 1 else tm.lastTimerID := rfl
  have sameId : ∀ other, (tm.timers other).id ≠ 0 →
      ((tm.attachTimer timer isNewTimer).timers other).id = (tm.timers other).id := by
    intro other positive
    rcases eq_or_ne other timer with rfl | different
    · rw [attachTimer_timers_self, fresh]
      simp [NewTimer.attached, givenID, positive]
    · rw [(attachTimer_untouched different).timers]
  constructor
  · intro slot key other found
    rw [attachTimer_slots] at found
    split at found
    next added =>
      obtain ⟨chosen, key_eq, -⟩ := added
      obtain rfl := Option.some.inj found
      refine ⟨chosen ▸ slotNum_lt _ _, ?_, key_eq ▸ newId⟩
      rw [attachTimer_timers_self, key_eq]
      rfl
    next =>
      obtain ⟨inside, same, positive⟩ := consistent.keyed slot key other found
      exact ⟨inside, (sameId other (same ▸ positive)).trans same, positive⟩
  · intro other
    rw [last]
    rcases eq_or_ne other timer with rfl | different
    · rw [attachTimer_timers_self]
      have bound := consistent.bounded other
      simp only [NewTimer.attached, givenID]
      split <;> omega
    · rw [(attachTimer_untouched different).timers]
      have bound := consistent.bounded other
      split <;> omega
  · have apart : ∀ other, other ≠ timer → (tm.timers other).id ≠ 0 →
        (tm.timers other).id ≠ tm.givenID timer isNewTimer := by
      intro other different positive same
      have bound := consistent.bounded other
      cases isNewTimer with
      | true => simp only [givenID, if_true] at same; omega
      | false => exact different (consistent.distinct other timer same positive)
    intro first second same positive
    by_contra different
    rcases eq_or_ne first timer with rfl | firstOther
    · have secondOther := Ne.symm different
      rw [attachTimer_timers_self] at same positive
      rw [(attachTimer_untouched secondOther).timers] at same
      exact apart second secondOther (same ▸ positive) same.symm
    · rw [(attachTimer_untouched firstOther).timers] at same positive
      rcases eq_or_ne second timer with rfl | secondOther
      · rw [attachTimer_timers_self] at same
        exact apart first firstOther positive same
      · rw [(attachTimer_untouched secondOther).timers] at same
        exact different (consistent.distinct first second same positive)
  · intro other running
    rcases eq_or_ne other timer with rfl | different
    · rw [attachTimer_timers_self]
      exact newId
    · rw [(attachTimer_untouched different).timers] at running ⊢
      exact consistent.identified other running
  · exact consistent.current

end Attach

section Tick

theorem Slot.tickEntry_timers (ticked : Slot.Ticked Timer Callback) (entry : Nat × Timer) :
    (Slot.tickEntry ticked entry).timers =
      Function.update ticked.timers entry.2 (ticked.timers entry.2).onTick.2 := by
  simp only [Slot.tickEntry]
  split <;> rfl

/-- The loop over distinct entries ticks each timer once. -/
theorem Slot.tickEntry_foldl (entries : List (Nat × Timer)) (start : Slot.Ticked Timer Callback)
    (distinct : (entries.map Prod.snd).Nodup) :
    entries.foldl Slot.tickEntry start =
      { timers := fun timer => if timer ∈ entries.map Prod.snd then (start.timers timer).onTick.2
          else start.timers timer
        timeoutAll := start.timeoutAll ++
          (entries.map Prod.snd).filter fun timer => (start.timers timer).onTick.1
        timeoutLoop := start.timeoutLoop ++ (entries.map Prod.snd).filter fun timer =>
          (start.timers timer).onTick.1 && decide ((start.timers timer).type = .loopTimer)
        launched := start.launched ++
          ((entries.map Prod.snd).filter fun timer => (start.timers timer).onTick.1).map
            fun timer => (timer, (start.timers timer).callBack) } := by
  induction entries generalizing start with
  | nil => simp
  | cons entry rest ih =>
      rw [List.map_cons, List.nodup_cons] at distinct
      obtain ⟨fresh, later⟩ := distinct
      have others : ∀ timer ∈ rest.map Prod.snd,
          (Slot.tickEntry start entry).timers timer = start.timers timer := by
        intro timer member
        have different : timer ≠ entry.2 := fun same => fresh (same ▸ member)
        rw [Slot.tickEntry_timers, Function.update_of_ne different]
      have filtered : ∀ keep : NewTimer Callback → Bool,
          (rest.map Prod.snd).filter
              (fun timer => keep ((Slot.tickEntry start entry).timers timer)) =
            (rest.map Prod.snd).filter fun timer => keep (start.timers timer) := by
        intro keep
        apply List.filter_congr
        intro timer member
        rw [others timer member]
      rw [List.foldl_cons, ih _ later]
      rw [filtered fun timer => timer.onTick.1, filtered fun timer =>
        timer.onTick.1 && decide (timer.type = .loopTimer)]
      have named : ((rest.map Prod.snd).filter fun timer => (start.timers timer).onTick.1).map
            (fun timer => (timer, ((Slot.tickEntry start entry).timers timer).callBack)) =
          ((rest.map Prod.snd).filter fun timer => (start.timers timer).onTick.1).map
            fun timer => (timer, (start.timers timer).callBack) := by
        apply List.map_congr_left
        intro timer member
        rw [others timer (List.mem_of_mem_filter member)]
      rw [named]
      have ticked : (fun timer => if timer ∈ rest.map Prod.snd then
            ((Slot.tickEntry start entry).timers timer).onTick.2
          else (Slot.tickEntry start entry).timers timer) =
          fun timer => if timer ∈ (entry :: rest).map Prod.snd then
            (start.timers timer).onTick.2 else start.timers timer := by
        funext timer
        rw [List.map_cons, Slot.tickEntry_timers]
        by_cases same : timer = entry.2
        · subst same
          simp [fresh]
        · simp only [Function.update_of_ne same, List.mem_cons, same, false_or]
      rw [ticked]
      by_cases fires : (start.timers entry.2).onTick.1 = true
      · by_cases loop : (start.timers entry.2).type = .loopTimer <;>
          simp [Slot.tickEntry, fires, loop]
      · simp [Slot.tickEntry, fires]

/-- The timer times out when the wheel turns. -/
def Fires (tm : TimerManager Timer Callback) (timer : Timer) : Prop :=
  tm.InSlot tm.currSlot timer ∧ (tm.timers timer).round ≤ 1

variable {tm : TimerManager Timer Callback}

/-- The loop of the current slot gives this result. -/
theorem slot_onTick (consistent : tm.Consistent) :
    ((tm.slots tm.currSlot).onTick tm.timers).2 =
      { timers := fun timer =>
          if timer ∈ (tm.slots tm.currSlot).toList.map Prod.snd then (tm.timers timer).onTick.2
          else tm.timers timer
        timeoutAll := ((tm.slots tm.currSlot).toList.map Prod.snd).filter
          fun timer => (tm.timers timer).onTick.1
        timeoutLoop := ((tm.slots tm.currSlot).toList.map Prod.snd).filter fun timer =>
          (tm.timers timer).onTick.1 && decide ((tm.timers timer).type = .loopTimer)
        launched := (((tm.slots tm.currSlot).toList.map Prod.snd).filter
          fun timer => (tm.timers timer).onTick.1).map
            fun timer => (timer, (tm.timers timer).callBack) } := by
  rw [Slot.onTick, Slot.tickEntry_foldl _ _ (entries_nodup consistent _)]
  simp only [List.nil_append]

/-- This is the wheel after the loop over the current slot and before the loop timers return. -/
def slotTicked (tm : TimerManager Timer Callback) : TimerManager Timer Callback :=
  { tm with
    slots := Function.update tm.slots tm.currSlot ((tm.slots tm.currSlot).onTick tm.timers).1
    timers := ((tm.slots tm.currSlot).onTick tm.timers).2.timers }

theorem slotTicked_timers_of_inSlot (consistent : tm.Consistent) {timer : Timer}
    (held : tm.InSlot tm.currSlot timer) :
    tm.slotTicked.timers timer = (tm.timers timer).onTick.2 := by
  rw [slotTicked, slot_onTick consistent]
  exact if_pos ((mem_entries tm _ _).mpr held)

theorem slotTicked_timers_of_not_inSlot (consistent : tm.Consistent) {timer : Timer}
    (absent : ¬ tm.InSlot tm.currSlot timer) :
    tm.slotTicked.timers timer = tm.timers timer := by
  rw [slotTicked, slot_onTick consistent]
  exact if_neg (mt (mem_entries tm _ _).mp absent)

theorem slotTicked_id (consistent : tm.Consistent) (timer : Timer) :
    (tm.slotTicked.timers timer).id = (tm.timers timer).id := by
  by_cases held : tm.InSlot tm.currSlot timer
  · rw [slotTicked_timers_of_inSlot consistent held, NewTimer.onTick_id]
  · rw [slotTicked_timers_of_not_inSlot consistent held]

/-- The identifiers of the timers that time out. -/
theorem mem_timeoutAll (consistent : tm.Consistent) (timer : Timer) :
    timer ∈ ((tm.slots tm.currSlot).onTick tm.timers).2.timeoutAll ↔ tm.Fires timer := by
  rw [slot_onTick consistent, List.mem_filter, mem_entries, NewTimer.onTick_fires]
  rfl

theorem slotTicked_slots (consistent : tm.Consistent) (slot key : Nat) (timer : Timer) :
    (tm.slotTicked.slots slot)[key]? = some timer ↔
      (tm.slots slot)[key]? = some timer ∧ ¬ (slot = tm.currSlot ∧ tm.Fires timer) := by
  rcases eq_or_ne slot tm.currSlot with rfl | elsewhere
  · have erased : (tm.slotTicked.slots tm.currSlot)[key]? =
        if key ∈ ((tm.slots tm.currSlot).onTick tm.timers).2.timeoutAll.map
          (fun timer => (tm.slotTicked.timers timer).id) then none
        else (tm.slots tm.currSlot)[key]? := by
      rw [← Slot.erase_foldl]
      simp only [slotTicked, Function.update_self]
      rfl
    rw [erased]
    constructor
    · intro found
      split at found
      · cases found
      next kept =>
        refine ⟨found, fun fires => kept ?_⟩
        have key_eq := (consistent.keyed _ _ _ found).2.1
        rw [← key_eq, ← slotTicked_id consistent timer]
        exact List.mem_map_of_mem ((mem_timeoutAll consistent timer).mpr fires.2)
    · intro ⟨found, kept⟩
      rw [if_neg, found]
      intro member
      obtain ⟨other, fired, same⟩ := List.mem_map.mp member
      rw [slotTicked_id consistent] at same
      obtain rfl : timer = other := consistent.eq_of_key (same.symm ▸ found)
      exact kept ⟨rfl, (mem_timeoutAll consistent timer).mp fired⟩
  · simp [slotTicked, elsewhere]

theorem slotTicked_inSlot (consistent : tm.Consistent) (slot : Nat) (timer : Timer) :
    tm.slotTicked.InSlot slot timer ↔
      tm.InSlot slot timer ∧ ¬ (slot = tm.currSlot ∧ tm.Fires timer) := by
  simp only [InSlot, slotTicked_slots consistent, exists_and_right]

theorem slotTicked_consistent (consistent : tm.Consistent) : tm.slotTicked.Consistent := by
  constructor
  · intro slot key timer found
    rw [slotTicked_id consistent]
    exact consistent.keyed slot key timer ((slotTicked_slots consistent slot key timer).mp found).1
  · intro timer
    rw [slotTicked_id consistent]
    exact consistent.bounded timer
  · intro first second
    rw [slotTicked_id consistent, slotTicked_id consistent]
    exact consistent.distinct first second
  · intro timer running
    rw [slotTicked_id consistent]
    by_cases held : tm.InSlot tm.currSlot timer
    · exact consistent.id_ne_zero_of_inSlot held
    · rw [slotTicked_timers_of_not_inSlot consistent held] at running
      exact consistent.identified timer running
  · exact consistent.current

/-- The loop timers that return to the wheel after a tick. -/
def Reloads (tm : TimerManager Timer Callback) (timer : Timer) : Prop :=
  tm.Fires timer ∧ (tm.timers timer).type = .loopTimer

theorem mem_timeoutLoop (consistent : tm.Consistent) (timer : Timer) :
    timer ∈ ((tm.slots tm.currSlot).onTick tm.timers).2.timeoutLoop ↔ tm.Reloads timer := by
  rw [slot_onTick consistent, List.mem_filter, mem_entries, Bool.and_eq_true,
    NewTimer.onTick_fires, decide_eq_true_iff, ← and_assoc]
  rfl

/-- The timers of the list returned to the wheel and the other timers stayed as they were. -/
structure Reattached (tm next : TimerManager Timer Callback) (returning : List Timer) : Prop where
  consistent : next.Consistent
  currSlot : next.currSlot = tm.currSlot
  lastTimerID : next.lastTimerID = tm.lastTimerID
  others : ∀ timer ∉ returning, Untouched tm next timer
  timers : ∀ timer ∈ returning,
    next.timers timer = (tm.timers timer).attached (tm.timers timer).id
  slots : ∀ timer ∈ returning, ∀ slot, next.InSlot slot timer ↔
    tm.InSlot slot timer ∨ slot = slotNum tm.currSlot (tm.timers timer).interval

theorem reattach_foldl (returning : List Timer) (consistent : tm.Consistent)
    (distinct : returning.Nodup) (started : ∀ timer ∈ returning, (tm.timers timer).id ≠ 0) :
    Reattached tm (returning.foldl (fun tm timer => tm.attachTimer timer false) tm)
      returning := by
  induction returning generalizing tm with
  | nil =>
      exact ⟨consistent, rfl, rfl, fun _ _ => ⟨rfl, fun _ => Iff.rfl⟩, by simp, by simp⟩
  | cons first rest ih =>
      obtain ⟨fresh, later⟩ := List.nodup_cons.mp distinct
      have old : false = decide ((tm.timers first).id = 0) := by
        simp [started first List.mem_cons_self]
      have apart : ∀ timer ∈ rest, timer ≠ first := fun timer member same => fresh (same ▸ member)
      have kept : ∀ timer ≠ first, Untouched tm (tm.attachTimer first false) timer :=
        fun timer different => attachTimer_untouched different
      have after := ih (attachTimer_consistent consistent old) later (by
        intro timer member
        rw [(kept timer (apart timer member)).timers]
        exact started timer (List.mem_cons_of_mem _ member))
      rw [List.foldl_cons]
      constructor
      · exact after.consistent
      · exact after.currSlot
      · exact after.lastTimerID
      · intro timer absent
        obtain ⟨different, missing⟩ := not_or.mp (mt List.mem_cons.mpr absent)
        have step := kept timer different
        have rest := after.others timer missing
        exact ⟨rest.timers.trans step.timers, fun slot => (rest.slots slot).trans (step.slots slot)⟩
      · intro timer member
        rcases List.mem_cons.mp member with rfl | member
        · rw [(after.others timer fresh).timers, attachTimer_timers_self]
          rfl
        · rw [after.timers timer member, (kept timer (apart timer member)).timers]
      · intro timer member slot
        rcases List.mem_cons.mp member with rfl | member
        · rw [(after.others timer fresh).slots, attachTimer_inSlot consistent old]
        · have step := kept timer (apart timer member)
          rw [after.slots timer member, step.slots, step.timers]
          rfl

theorem onTick_reattached (consistent : tm.Consistent) :
    Reattached tm.slotTicked
      (((tm.slots tm.currSlot).onTick tm.timers).2.timeoutLoop.foldl
        (fun tm timer => tm.attachTimer timer false) tm.slotTicked)
      ((tm.slots tm.currSlot).onTick tm.timers).2.timeoutLoop := by
  apply reattach_foldl _ (slotTicked_consistent consistent)
  · rw [slot_onTick consistent]
    exact (entries_nodup consistent _).filter _
  · intro timer member
    rw [slotTicked_id consistent]
    exact consistent.id_ne_zero_of_inSlot ((mem_timeoutLoop consistent timer).mp member).1.1

/-- The wheel moves to the next slot. -/
theorem onTick_currSlot (consistent : tm.Consistent) :
    tm.onTick.2.currSlot = (tm.currSlot + 1) % maxSlotNum := by
  have current := consistent.current
  have moved : tm.onTick.2.currSlot =
      if maxTimerNum ≤ tm.currSlot + 1 then 0 else tm.currSlot + 1 := by
    rw [← show tm.slotTicked.currSlot = tm.currSlot from rfl,
      ← (onTick_reattached consistent).currSlot]
    rfl
  rw [moved]
  have same : maxSlotNum = maxTimerNum := rfl
  rw [same] at current ⊢
  by_cases wraps : maxTimerNum ≤ tm.currSlot + 1
  · rw [if_pos wraps, show tm.currSlot + 1 = maxTimerNum by omega, Nat.mod_self]
  · rw [if_neg wraps, Nat.mod_eq_of_lt (by omega)]

theorem onTick_consistent (consistent : tm.Consistent) : tm.onTick.2.Consistent := by
  have after := (onTick_reattached consistent).consistent
  refine ⟨after.keyed, after.bounded, after.distinct, after.identified, ?_⟩
  rw [onTick_currSlot consistent]
  exact Nat.mod_lt _ (by decide)

/-- A timer outside the current slot does not notice the tick. -/
theorem onTick_idle (consistent : tm.Consistent) {timer : Timer}
    (absent : ¬ tm.InSlot tm.currSlot timer) : Untouched tm tm.onTick.2 timer := by
  have stays := (onTick_reattached consistent).others timer
    (fun member => absent ((mem_timeoutLoop consistent timer).mp member).1.1)
  constructor
  · exact stays.timers.trans (slotTicked_timers_of_not_inSlot consistent absent)
  · intro slot
    apply (stays.slots slot).trans
    rw [slotTicked_inSlot consistent]
    exact and_iff_left fun fires => absent fires.2.1

/-- A timer with rounds left loses one of them. -/
theorem onTick_waits (consistent : tm.Consistent) {timer : Timer}
    (held : tm.InSlot tm.currSlot timer) (more : 1 < (tm.timers timer).round) :
    tm.onTick.2.timers timer =
        { tm.timers timer with round := (tm.timers timer).round - 1 } ∧
      ∀ slot, tm.onTick.2.InSlot slot timer ↔ tm.InSlot slot timer := by
  have quiet : ¬ tm.Fires timer := fun fires => absurd fires.2 (by omega)
  have stays := (onTick_reattached consistent).others timer
    (fun member => quiet ((mem_timeoutLoop consistent timer).mp member).1)
  constructor
  · apply stays.timers.trans
    rw [slotTicked_timers_of_inSlot consistent held, NewTimer.onTick_of_lt _ more]
  · intro slot
    apply (stays.slots slot).trans
    rw [slotTicked_inSlot consistent]
    exact and_iff_left fun fires => quiet fires.2

/-- A timer that fires once stops and leaves the slot. -/
theorem onTick_expires (consistent : tm.Consistent) {timer : Timer} (fires : tm.Fires timer)
    (once : (tm.timers timer).type ≠ .loopTimer) :
    tm.onTick.2.timers timer =
        { tm.timers timer with round := (tm.timers timer).round - 1, isRunning := false } ∧
      ∀ slot, tm.onTick.2.InSlot slot timer ↔ tm.InSlot slot timer ∧ slot ≠ tm.currSlot := by
  have stays := (onTick_reattached consistent).others timer
    (fun member => once ((mem_timeoutLoop consistent timer).mp member).2)
  constructor
  · apply stays.timers.trans
    rw [slotTicked_timers_of_inSlot consistent fires.1, NewTimer.onTick_of_le _ fires.2]
  · intro slot
    apply (stays.slots slot).trans
    simp [slotTicked_inSlot consistent, fires]

/-- A loop timer that fires leaves the slot and returns with its interval. -/
theorem onTick_reloads (consistent : tm.Consistent) {timer : Timer} (fires : tm.Fires timer)
    (loop : (tm.timers timer).type = .loopTimer) :
    tm.onTick.2.timers timer = (tm.timers timer).attached (tm.timers timer).id ∧
      ∀ slot, tm.onTick.2.InSlot slot timer ↔
        tm.InSlot slot timer ∧ slot ≠ tm.currSlot ∨
          slot = slotNum tm.currSlot (tm.timers timer).interval := by
  have after := onTick_reattached consistent
  have member := (mem_timeoutLoop consistent timer).mpr ⟨fires, loop⟩
  have ticked : tm.slotTicked.timers timer =
      { tm.timers timer with round := (tm.timers timer).round - 1, isRunning := false } := by
    rw [slotTicked_timers_of_inSlot consistent fires.1, NewTimer.onTick_of_le _ fires.2]
  constructor
  · apply (after.timers timer member).trans
    rw [ticked]
    rfl
  · intro slot
    apply (after.slots timer member slot).trans
    rw [ticked, slotTicked_inSlot consistent]
    simp [fires, slotTicked]

/-- Every timer that fires launches a copy of its callback. -/
theorem onTick_launched (consistent : tm.Consistent) :
    ∃ fired : List Timer, fired.Nodup ∧ (∀ timer, timer ∈ fired ↔ tm.Fires timer) ∧
      tm.onTick.1 = fired.map fun timer => (timer, (tm.timers timer).callBack) := by
  have launched : tm.onTick.1 = ((tm.slots tm.currSlot).onTick tm.timers).2.launched := rfl
  refine ⟨((tm.slots tm.currSlot).onTick tm.timers).2.timeoutAll, ?_, mem_timeoutAll consistent, ?_⟩
  · rw [slot_onTick consistent]
    exact (entries_nodup consistent _).filter _
  · rw [launched, slot_onTick consistent]

/-- A tick keeps the settings of every timer. -/
theorem onTick_settings (consistent : tm.Consistent) (timer : Timer) :
    (tm.onTick.2.timers timer).interval = (tm.timers timer).interval ∧
      (tm.onTick.2.timers timer).type = (tm.timers timer).type ∧
      (tm.onTick.2.timers timer).callBack = (tm.timers timer).callBack := by
  by_cases held : tm.InSlot tm.currSlot timer
  · rcases Int.lt_or_le 1 (tm.timers timer).round with more | last
    · rw [(onTick_waits consistent held more).1]
      exact ⟨rfl, rfl, rfl⟩
    · by_cases loop : (tm.timers timer).type = .loopTimer
      · rw [(onTick_reloads consistent ⟨held, last⟩ loop).1]
        exact ⟨rfl, rfl, rfl⟩
      · rw [(onTick_expires consistent ⟨held, last⟩ loop).1]
        exact ⟨rfl, rfl, rfl⟩
  · rw [(onTick_idle consistent held).timers]
    exact ⟨rfl, rfl, rfl⟩

end Tick

section Events

variable {tm : TimerManager Timer Callback} {timer : Timer}

/-- The registration attaches the timer or changes nothing. -/
theorem addTimer_cases (tm : TimerManager Timer Callback) (timer : Timer) (isNewTimer : Bool) :
    tm.lastTimerID < maxTimerNum ∧ 0 < (tm.timers timer).interval ∧
        tm.addTimer timer isNewTimer = (0, tm.attachTimer timer isNewTimer) ∨
      (maxTimerNum ≤ tm.lastTimerID ∨ (tm.timers timer).interval ≤ 0) ∧
        tm.addTimer timer isNewTimer = (-1, tm) := by
  unfold addTimer
  by_cases full : maxTimerNum ≤ tm.lastTimerID
  · exact .inr ⟨.inl full, if_pos full⟩
  · rw [if_neg full]
    by_cases short : (tm.timers timer).interval ≤ 0
    · exact .inr ⟨.inr short, if_pos short⟩
    · exact .inl ⟨Nat.lt_of_not_le full, by omega, if_neg short⟩

/-- A start attaches the timer or changes nothing. -/
theorem start_cases (tm : TimerManager Timer Callback) (timer : Timer) :
    tm.lastTimerID < maxTimerNum ∧ 0 < (tm.timers timer).interval ∧
        tm.start timer = tm.attachTimer timer (decide ((tm.timers timer).id = 0)) ∨
      (maxTimerNum ≤ tm.lastTimerID ∨ (tm.timers timer).interval ≤ 0) ∧ tm.start timer = tm := by
  unfold start
  rcases addTimer_cases tm timer (decide ((tm.timers timer).id = 0)) with
    ⟨room, positive, added⟩ | ⟨refused, added⟩
  · exact .inl ⟨room, positive, by rw [added]⟩
  · exact .inr ⟨refused, by rw [added]⟩

theorem reStart_stopped (stopped : (tm.timers timer).isRunning = false) :
    tm.reStart timer = (false, tm) := by
  simp [reStart, stopped]

/-- A restart deletes the timer first and then attaches it or fails. -/
theorem reStart_running (running : (tm.timers timer).isRunning = true) :
    (tm.reStart timer).2 = ((tm.delTimer timer).2.addTimer timer false).2 := by
  simp [reStart, running, delTimer_code]

theorem cancel_stopped (stopped : (tm.timers timer).isRunning = false) :
    tm.cancel timer = (true, tm) := by
  simp [cancel, stopped]

theorem cancel_running (running : (tm.timers timer).isRunning = true) :
    (tm.cancel timer).2 =
      (tm.delTimer timer).2.modifyTimer timer fun t => { t with isRunning := false } := by
  simp [cancel, running, delTimer_code]

theorem addTimer_callBack {isNewTimer : Bool} (other : Timer) :
    ((tm.addTimer timer isNewTimer).2.timers other).callBack = (tm.timers other).callBack := by
  rcases addTimer_cases tm timer isNewTimer with ⟨-, -, added⟩ | ⟨-, added⟩
  · rw [added]
    rcases eq_or_ne other timer with rfl | different
    · rw [attachTimer_timers_self]
      rfl
    · rw [(attachTimer_untouched different).timers]
  · rw [added]

theorem reStart_callBack (other : Timer) :
    ((tm.reStart timer).2.timers other).callBack = (tm.timers other).callBack := by
  cases running : (tm.timers timer).isRunning with
  | false => rw [reStart_stopped running]
  | true => rw [reStart_running running, addTimer_callBack, delTimer_timers]

theorem cancel_callBack (other : Timer) :
    ((tm.cancel timer).2.timers other).callBack = (tm.timers other).callBack := by
  cases running : (tm.timers timer).isRunning with
  | false => rw [cancel_stopped running]
  | true =>
      rw [cancel_running running]
      rcases eq_or_ne other timer with rfl | different
      · rw [modifyTimer_timers_self, delTimer_timers]
      · rw [(modifyTimer_untouched different).timers, delTimer_timers]

theorem start_consistent (consistent : tm.Consistent) : (tm.start timer).Consistent := by
  rcases start_cases tm timer with ⟨-, -, started⟩ | ⟨-, same⟩
  · rw [started]
    exact attachTimer_consistent consistent rfl
  · rw [same]
    exact consistent

theorem reStart_consistent (consistent : tm.Consistent) : (tm.reStart timer).2.Consistent := by
  cases running : (tm.timers timer).isRunning with
  | false => rw [reStart_stopped running]; exact consistent
  | true =>
      have deleted : (tm.delTimer timer).2.Consistent := delTimer_consistent consistent
      rw [reStart_running running]
      rcases addTimer_cases (tm.delTimer timer).2 timer false with ⟨-, -, added⟩ | ⟨-, added⟩
      · rw [added]
        apply attachTimer_consistent deleted
        have kept : (tm.delTimer timer).2.timers = tm.timers := delTimer_timers
        rw [kept]
        exact (decide_eq_false (consistent.identified timer running)).symm
      · rw [added]
        exact deleted

theorem cancel_consistent (consistent : tm.Consistent) : (tm.cancel timer).2.Consistent := by
  cases running : (tm.timers timer).isRunning with
  | false => rw [cancel_stopped running]; exact consistent
  | true =>
      rw [cancel_running running]
      exact modifyTimer_consistent (delTimer_consistent consistent) rfl Bool.noConfusion

/-- Every event keeps the wheel consistent. -/
theorem step_consistent {event : TimerEvent Timer Callback} {next : TimerManager Timer Callback}
    (consistent : tm.Consistent) (enabled : tm.step event = some next) : next.Consistent := by
  cases event with
  | setInterval timer input =>
      cases enabled
      exact modifyTimer_consistent consistent rfl id
  | setType timer input =>
      cases enabled
      exact modifyTimer_consistent consistent rfl id
  | setCallbackFun timer input =>
      cases enabled
      exact modifyTimer_consistent consistent rfl id
  | start timer => cases enabled; exact start_consistent consistent
  | reStart timer => cases enabled; exact reStart_consistent consistent
  | cancel timer => cases enabled; exact cancel_consistent consistent
  | onTick => cases enabled; exact onTick_consistent consistent

/-- Every reachable wheel is consistent. -/
theorem run_consistent [Inhabited Callback]
    {history : TransitionSystem.History (TimerManager Timer Callback) (TimerEvent Timer Callback)}
    {allowed : TimerManager Timer Callback → TimerEvent Timer Callback → Prop}
    (run : TransitionSystem.Run step allowed new history tm) : tm.Consistent :=
  run.invariant Consistent new_consistent fun _ _ _ consistent _ enabled =>
    step_consistent consistent enabled

theorem addTimer_untouched {isNewTimer : Bool} {other : Timer} (different : other ≠ timer) :
    Untouched tm (tm.addTimer timer isNewTimer).2 other := by
  rcases addTimer_cases tm timer isNewTimer with ⟨-, -, added⟩ | ⟨-, added⟩
  · rw [added]
    exact attachTimer_untouched different
  · rw [added]
    exact Untouched.refl tm other

theorem addTimer_currSlot {isNewTimer : Bool} :
    (tm.addTimer timer isNewTimer).2.currSlot = tm.currSlot := by
  rcases addTimer_cases tm timer isNewTimer with ⟨-, -, added⟩ | ⟨-, added⟩ <;> rw [added]
  rfl

end Events

end TimerManager

/-- The timer that an event is about. -/
def TimerEvent.timer : TimerEvent Timer Callback → Option Timer
  | .setInterval timer _ | .setType timer _ | .setCallbackFun timer _ => some timer
  | .start timer | .reStart timer | .cancel timer => some timer
  | .onTick => none

namespace TimerManager

variable [DecidableEq Timer]

/-- An event about one timer leaves the other timers and the position of the wheel alone. -/
theorem step_untouched {tm next : TimerManager Timer Callback} {event : TimerEvent Timer Callback}
    {timer other : Timer} (consistent : tm.Consistent) (enabled : tm.step event = some next)
    (about : event.timer = some timer) (different : other ≠ timer) :
    Untouched tm next other ∧ next.currSlot = tm.currSlot := by
  cases event with
  | onTick => cases about
  | setInterval | setType | setCallbackFun =>
      cases enabled
      cases about
      exact ⟨modifyTimer_untouched different, rfl⟩
  | start =>
      cases enabled
      cases about
      exact ⟨addTimer_untouched different, addTimer_currSlot⟩
  | reStart =>
      cases enabled
      cases about
      cases running : (tm.timers timer).isRunning with
      | false => rw [reStart_stopped running]; exact ⟨Untouched.refl tm other, rfl⟩
      | true =>
          rw [reStart_running running]
          exact ⟨(delTimer_untouched consistent different).trans (addTimer_untouched different),
            addTimer_currSlot.trans delTimer_currSlot⟩
  | cancel =>
      cases enabled
      cases about
      cases running : (tm.timers timer).isRunning with
      | false => rw [cancel_stopped running]; exact ⟨Untouched.refl tm other, rfl⟩
      | true =>
          rw [cancel_running running]
          exact ⟨(delTimer_untouched consistent different).trans
            (modifyTimer_untouched different), delTimer_currSlot⟩

end TimerManager

end AppSvr.BaseServer
