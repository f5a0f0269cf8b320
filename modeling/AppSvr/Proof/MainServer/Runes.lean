/-
This file proves when the bonuses of the runes are temporary.
-/

import AppSvr.Construction.MainServer.Runes
import AppSvr.Proof.BaseServer.TimerAgreement
import Mathlib.Algebra.Order.BigOperators.Group.List
import Mathlib.Tactic.IntervalCases

namespace AppSvr.MainServer

open AppSvr.BaseServer AppSvr.TransitionSystem

section Sums

variable {Source Target : Type*} {choose : Source → Option Target} {weight : Target → Int}

theorem sum_filterMap_eq_zero {sources : List Source}
    (light : ∀ source ∈ sources, ∀ target, choose source = some target → weight target = 0) :
    ((sources.filterMap choose).map weight).sum = 0 := by
  apply List.sum_eq_zero
  intro value member
  obtain ⟨target, chosen, rfl⟩ := List.mem_map.mp member
  obtain ⟨source, inside, found⟩ := List.mem_filterMap.mp chosen
  exact light source inside target found

/-- One source carries the whole sum when the others weigh nothing. -/
theorem sum_filterMap_eq {sources : List Source} (distinct : sources.Nodup) {single : Source}
    (member : single ∈ sources) {target : Target} (found : choose single = some target)
    (light : ∀ source ∈ sources, source ≠ single → ∀ other, choose source = some other →
      weight other = 0) :
    ((sources.filterMap choose).map weight).sum = weight target := by
  induction sources with
  | nil => cases member
  | cons first rest ih =>
      obtain ⟨fresh, later⟩ := List.nodup_cons.mp distinct
      rcases List.mem_cons.mp member with rfl | inside
      · rw [List.filterMap_cons_some found, List.map_cons, List.sum_cons,
          sum_filterMap_eq_zero, Int.add_zero]
        intro source member
        exact light source (List.mem_cons_of_mem _ member) fun same => fresh (same ▸ member)
      · have different : first ≠ single := fun same => fresh (same ▸ inside)
        have tail := ih later inside fun source member =>
          light source (List.mem_cons_of_mem _ member)
        cases head : choose first with
        | none => rw [List.filterMap_cons_none head, tail]
        | some other =>
            rw [List.filterMap_cons_some head, List.map_cons, List.sum_cons, tail,
              light first List.mem_cons_self different other head, Int.zero_add]

end Sums

/-- The bonus that a family of runes raises. -/
def RuneTimerType.field : RuneTimerType → BonusField
  | .toughRuneTimer => .maxHpBonus
  | .stoneRuneTimer => .defenceBonus
  | .saintRuneTimer => .mDefenceBonus
  | .intelliRuneTimer => .intelligenceBonus
  | .correctRuneTimer => .hitRateBonus
  | .speedRuneTimer => .attackSpeedBonus
  | .focusRuneTimer => .critRateBonus
  | .flyRuneTimer => .agilityBonus
  | .angryRuneTimer => .strengthBonus
  | .extremeRuneTimer => .attackPowerHighBonus

def RuneTimerType.change : RuneTimerType → List Int
  | .toughRuneTimer => toughRuneHpChange
  | .stoneRuneTimer => stoneRuneChange
  | .saintRuneTimer => saintRuneChange
  | .intelliRuneTimer => intelliRuneChange
  | .correctRuneTimer => correctRuneChange
  | .speedRuneTimer => speedRuneChange
  | .focusRuneTimer => focusRuneChange
  | .flyRuneTimer => flyRuneChange
  | .angryRuneTimer => angryRuneChange
  | .extremeRuneTimer => extremeRuneChange

/-- The first of the four runes of a family. -/
def RuneTimerType.first : RuneTimerType → Nat
  | .toughRuneTimer => 6003
  | .stoneRuneTimer => 6007
  | .saintRuneTimer => 6011
  | .intelliRuneTimer => 6015
  | .correctRuneTimer => 6019
  | .speedRuneTimer => 6023
  | .focusRuneTimer => 6027
  | .flyRuneTimer => 6031
  | .angryRuneTimer => 6035
  | .extremeRuneTimer => 6039

namespace RuneTimerType

/-- The item is one of the runes of the family. -/
def Holds (family : RuneTimerType) (itemId : Nat) : Prop :=
  family.first ≤ itemId ∧ itemId ≤ family.first + 3

instance (family : RuneTimerType) (itemId : Nat) : Decidable (family.Holds itemId) :=
  inferInstanceAs (Decidable (_ ∧ _))

/-- The value that a rune of the family adds. -/
def value (family : RuneTimerType) (itemId : Nat) : Int :=
  family.change[itemId - family.first]?.getD 0

theorem field_injective : Function.Injective field := by
  intro first second same
  cases first <;> cases second <;> first | rfl | cases same

theorem holds_unique {first second : RuneTimerType} {itemId : Nat} (one : first.Holds itemId)
    (other : second.Holds itemId) : first = second := by
  cases first <;> cases second <;>
    first | rfl | simp only [Holds, RuneTimerType.first] at one other; omega

/-- Every rune has a positive value. -/
theorem value_pos {family : RuneTimerType} {itemId : Nat} (holds : family.Holds itemId) :
    0 < family.value itemId := by
  obtain ⟨low, high⟩ := holds
  obtain ⟨index, rfl⟩ := Nat.exists_eq_add_of_le low
  have small : index < 4 := by omega
  rw [value, Nat.add_sub_cancel_left]
  cases family <;> interval_cases index <;> decide

end RuneTimerType

namespace RuneSvc

variable {Other : Type*}

theorem call_eq (svc : RuneSvc Other) (thread : RuneCallBack) :
    svc.call thread =
      svc.modifyBonus thread.roleID thread.family.field (-thread.valueChange) := by
  obtain ⟨family, roleID, valueChange⟩ := thread
  cases family <;> rfl

section Bonus

variable {svc : RuneSvc Other} {roleID : UInt32} {field : BonusField} {input : Int}

theorem addBonus_toNat {bonus : UInt32} (covered : 0 ≤ bonus.toNat + input)
    (fits : bonus.toNat + input < 4294967296) :
    ((addBonus bonus input).toNat : Int) = bonus.toNat + input := by
  have exact : ¬ (input < 0 ∧ bonus.toNat < input.natAbs) := by omega
  rw [addBonus, if_neg exact, UInt32.ofInt, UInt32.toNat_ofNat']
  omega

theorem modifyBonus_self : (svc.modifyBonus roleID field input).bonus roleID field =
    addBonus (svc.bonus roleID field) input := by
  simp [modifyBonus]

theorem modifyBonus_other {role : UInt32} {other : BonusField}
    (different : ¬ (role = roleID ∧ other = field)) :
    (svc.modifyBonus roleID field input).bonus role other = svc.bonus role other := by
  rcases eq_or_ne role roleID with rfl | elsewhere
  · have apart : other ≠ field := fun same => different ⟨rfl, same⟩
    simp [modifyBonus, apart]
  · simp [modifyBonus, elsewhere]

end Bonus

/-- The value in the parameter of the family's timer. -/
def stored (svc : RuneSvc Other) (roleID : UInt32) (family : RuneTimerType) : Int :=
  ((svc.tm.timers (.inl (roleID, family))).callBack.map RuneCallBack.valueChange).getD 0

/-- The value that a running timer of the family holds. -/
def held (svc : RuneSvc Other) (roleID : UInt32) (family : RuneTimerType) : Int :=
  if (svc.tm.timers (.inl (roleID, family))).isRunning then svc.stored roleID family else 0

/-- The part of a thread's value that belongs to one role and one family. -/
def share (roleID : UInt32) (family : RuneTimerType) (thread : RuneCallBack) : Int :=
  if thread.roleID = roleID ∧ thread.family = family then thread.valueChange else 0

/-- The threads that have not run yet still owe this value. -/
def outstanding (svc : RuneSvc Other) (roleID : UInt32) (family : RuneTimerType) : Int :=
  (svc.threads.map (share roleID family)).sum

/-- The runes changed the bonus by this value since the start. -/
def totalChange (bonus : UInt32 → BonusField → UInt32) (svc : RuneSvc Other) (roleID : UInt32)
    (family : RuneTimerType) : Int :=
  (svc.bonus roleID family.field).toNat - (bonus roleID family.field).toNat

/-- The timers of the runes agree with the wheel, and the total change of each bonus is the value
that its timer holds together with the values of the waiting threads. -/
structure Accounted (bonus : UInt32 → BonusField → UInt32) (svc : RuneSvc Other) : Prop where
  consistent : svc.tm.Consistent
  agrees : ∀ roleID family, svc.tm.AgreesOn (.inl (roleID, family))
  once : ∀ roleID family, (svc.tm.timers (.inl (roleID, family))).type = .onceTimer
  kept : ∀ roleID family, (svc.tm.timers (.inl (roleID, family))).isRunning = true →
    ∃ value, 0 ≤ value ∧
      (svc.tm.timers (.inl (roleID, family))).callBack = some ⟨family, roleID, value⟩
  foreign : ∀ other, (svc.tm.timers (.inr other)).callBack = none
  owed : ∀ thread ∈ svc.threads, 0 ≤ thread.valueChange
  balance : ∀ roleID family, totalChange bonus svc roleID family =
    svc.held roleID family + svc.outstanding roleID family

section Held

variable {bonus : UInt32 → BonusField → UInt32} {svc next : RuneSvc Other}

theorem initial_accounted (bonus : UInt32 → BonusField → UInt32) :
    (initial bonus : RuneSvc Other).Accounted bonus where
  consistent := TimerManager.new_consistent
  agrees _ _ := TimerManager.new_agrees _
  once _ _ := rfl
  kept _ _ running := by cases running
  foreign _ := rfl
  owed := by simp [initial]
  balance _ _ := by simp [totalChange, held, outstanding, initial, TimerManager.new, NewTimer.new]

theorem share_nonneg {thread : RuneCallBack} (owed : 0 ≤ thread.valueChange) (roleID : UInt32)
    (family : RuneTimerType) : 0 ≤ share roleID family thread := by
  unfold share
  split
  · exact owed
  · exact le_rfl

theorem Accounted.outstanding_nonneg (accounted : svc.Accounted bonus) (roleID : UInt32)
    (family : RuneTimerType) : 0 ≤ svc.outstanding roleID family := by
  apply List.sum_nonneg
  intro value member
  obtain ⟨thread, waiting, rfl⟩ := List.mem_map.mp member
  exact share_nonneg (accounted.owed thread waiting) roleID family

theorem held_of_stopped {roleID : UInt32} {family : RuneTimerType}
    (stopped : (svc.tm.timers (.inl (roleID, family))).isRunning = false) :
    svc.held roleID family = 0 := by
  simp [held, stopped]

theorem held_of_running {roleID : UInt32} {family : RuneTimerType} {thread : RuneCallBack}
    (running : (svc.tm.timers (.inl (roleID, family))).isRunning = true)
    (kept : (svc.tm.timers (.inl (roleID, family))).callBack = some thread) :
    svc.held roleID family = thread.valueChange := by
  simp [held, running, stored, kept]

theorem Accounted.held_nonneg (accounted : svc.Accounted bonus) (roleID : UInt32)
    (family : RuneTimerType) : 0 ≤ svc.held roleID family := by
  cases running : (svc.tm.timers (.inl (roleID, family))).isRunning with
  | false => rw [held_of_stopped running]
  | true =>
      obtain ⟨value, positive, kept⟩ := accounted.kept roleID family running
      rw [held_of_running running kept]
      exact positive

theorem held_congr {roleID : UInt32} {family : RuneTimerType}
    (same : next.tm.timers (.inl (roleID, family)) = svc.tm.timers (.inl (roleID, family))) :
    next.held roleID family = svc.held roleID family := by
  simp only [held, stored, same]

/-- A thread takes its value back from the bonus. -/
theorem detachProcess_accounted (accounted : svc.Accounted bonus) {index : Nat}
    (enabled : svc.detachProcess index = some next) : next.Accounted bonus := by
  obtain ⟨thread, found, called⟩ := Option.map_eq_some_iff.mp enabled
  rw [call_eq] at called
  obtain ⟨inside, thread_eq⟩ := List.getElem?_eq_some_iff.mp found
  have order := List.getElem_cons_eraseIdx_perm inside
  rw [thread_eq] at order
  have member : thread ∈ svc.threads := thread_eq ▸ List.getElem_mem inside
  have threads : next.threads = svc.threads.eraseIdx index := by rw [← called]; rfl
  have owed_eq : ∀ role family,
      svc.outstanding role family = share role family thread + next.outstanding role family := by
    intro role family
    rw [outstanding, outstanding, threads, ← List.sum_cons, ← List.map_cons]
    exact ((order.map _).sum_eq).symm
  have tm : next.tm = svc.tm := by rw [← called]; rfl
  constructor
  · rw [tm]; exact accounted.consistent
  · rw [tm]; exact accounted.agrees
  · rw [tm]; exact accounted.once
  · rw [tm]; exact accounted.kept
  · rw [tm]; exact accounted.foreign
  · intro other waiting
    rw [threads] at waiting
    exact accounted.owed other (List.mem_of_mem_eraseIdx waiting)
  · intro role family
    have before := accounted.balance role family
    rw [owed_eq role family] at before
    rw [held_congr (congrFun (congrArg TimerManager.timers tm) _)]
    by_cases same : role = thread.roleID ∧ family = thread.family
    · obtain ⟨rfl, rfl⟩ := same
      have rest : 0 ≤ next.outstanding thread.roleID thread.family := by
        apply List.sum_nonneg
        intro value member
        obtain ⟨other, waiting, rfl⟩ := List.mem_map.mp member
        rw [threads] at waiting
        exact share_nonneg (accounted.owed other (List.mem_of_mem_eraseIdx waiting)) _ _
      have holds := accounted.held_nonneg thread.roleID thread.family
      have positive := accounted.owed thread member
      have bounded := (svc.bonus thread.roleID thread.family.field).toNat_lt
      rw [share, if_pos ⟨rfl, rfl⟩] at before
      have value : ((next.bonus thread.roleID thread.family.field).toNat : Int) =
          (svc.bonus thread.roleID thread.family.field).toNat + -thread.valueChange := by
        rw [← called, modifyBonus_self]
        show ((addBonus (svc.bonus thread.roleID thread.family.field)
          (-thread.valueChange)).toNat : Int) = _
        unfold totalChange at before
        exact addBonus_toNat (by omega) (by omega)
      unfold totalChange at before ⊢
      omega
    · have elsewhere : ¬ (role = thread.roleID ∧ family.field = thread.family.field) :=
        fun equal => same ⟨equal.1, RuneTimerType.field_injective equal.2⟩
      have bonus_eq : next.bonus role family.field = svc.bonus role family.field := by
        rw [← called, modifyBonus_other elsewhere]
      rw [share, if_neg fun equal => same ⟨equal.1.symm, equal.2.symm⟩] at before
      unfold totalChange at before ⊢
      rw [bonus_eq]
      omega

end Held

/-- The total change of a bonus is what its running timer holds and what the waiting threads owe.
When no thread of the family waits, it is the value in the parameter of the running timer, and there
is none when the timer is not in the wheel. -/
structure Temporary (bonus : UInt32 → BonusField → UInt32) (svc : RuneSvc Other) : Prop where
  balance : ∀ roleID family, totalChange bonus svc roleID family =
    svc.held roleID family + svc.outstanding roleID family
  running : ∀ roleID family,
    (∀ thread ∈ svc.threads, ¬ (thread.roleID = roleID ∧ thread.family = family)) →
    (svc.tm.timers (.inl (roleID, family))).isRunning = true →
      ∃ thread, (svc.tm.timers (.inl (roleID, family))).callBack = some thread ∧
        totalChange bonus svc roleID family = thread.valueChange
  stopped : ∀ roleID family,
    (∀ thread ∈ svc.threads, ¬ (thread.roleID = roleID ∧ thread.family = family)) →
    (∀ slot, ¬ svc.tm.InSlot slot (.inl (roleID, family))) →
      totalChange bonus svc roleID family = 0

section Settled

variable {bonus : UInt32 → BonusField → UInt32} {svc : RuneSvc Other} {roleID : UInt32}
  {family : RuneTimerType}

theorem Accounted.settled (accounted : svc.Accounted bonus)
    (quiet : ∀ thread ∈ svc.threads, ¬ (thread.roleID = roleID ∧ thread.family = family)) :
    totalChange bonus svc roleID family = svc.held roleID family := by
  have settled : svc.outstanding roleID family = 0 := by
    apply List.sum_eq_zero
    intro value member
    obtain ⟨thread, waiting, rfl⟩ := List.mem_map.mp member
    exact if_neg (quiet thread waiting)
  rw [accounted.balance, settled, Int.add_zero]

theorem Accounted.temporary (accounted : svc.Accounted bonus) : svc.Temporary bonus where
  balance := accounted.balance
  running roleID family quiet running := by
    obtain ⟨value, -, kept⟩ := accounted.kept roleID family running
    exact ⟨_, kept, (accounted.settled quiet).trans (held_of_running running kept)⟩
  stopped roleID family quiet absent := by
    have stopped : (svc.tm.timers (.inl (roleID, family))).isRunning = false := by
      rw [Bool.eq_false_iff, Ne, (accounted.agrees roleID family).running_iff]
      exact fun ⟨slot, there⟩ => absent slot there
    rw [accounted.settled quiet, held_of_stopped stopped]

end Settled

variable [DecidableEq Other]

/-- An item is a rune of one family or changes nothing. -/
theorem useRune_cases (svc : RuneSvc Other) (roleID : UInt32) (itemId : Nat) :
    (∃ family : RuneTimerType, family.Holds itemId ∧ svc.useRune roleID itemId =
        roleUseRune family family.field family.change family.first svc roleID itemId) ∨
      (∀ family : RuneTimerType, ¬ family.Holds itemId) ∧ svc.useRune roleID itemId = svc := by
  unfold useRune
  by_cases tough : 6003 ≤ itemId ∧ itemId ≤ 6006
  · exact .inl ⟨.toughRuneTimer, tough, if_pos tough⟩
  rw [if_neg tough]
  by_cases stone : 6007 ≤ itemId ∧ itemId ≤ 6010
  · exact .inl ⟨.stoneRuneTimer, stone, if_pos stone⟩
  rw [if_neg stone]
  by_cases saint : 6011 ≤ itemId ∧ itemId ≤ 6014
  · exact .inl ⟨.saintRuneTimer, saint, if_pos saint⟩
  rw [if_neg saint]
  by_cases intelli : 6015 ≤ itemId ∧ itemId ≤ 6018
  · exact .inl ⟨.intelliRuneTimer, intelli, if_pos intelli⟩
  rw [if_neg intelli]
  by_cases correct : 6019 ≤ itemId ∧ itemId ≤ 6022
  · exact .inl ⟨.correctRuneTimer, correct, if_pos correct⟩
  rw [if_neg correct]
  by_cases speed : 6023 ≤ itemId ∧ itemId ≤ 6026
  · exact .inl ⟨.speedRuneTimer, speed, if_pos speed⟩
  rw [if_neg speed]
  by_cases focus : 6027 ≤ itemId ∧ itemId ≤ 6030
  · exact .inl ⟨.focusRuneTimer, focus, if_pos focus⟩
  rw [if_neg focus]
  by_cases fly : 6031 ≤ itemId ∧ itemId ≤ 6034
  · exact .inl ⟨.flyRuneTimer, fly, if_pos fly⟩
  rw [if_neg fly]
  by_cases angry : 6035 ≤ itemId ∧ itemId ≤ 6038
  · exact .inl ⟨.angryRuneTimer, angry, if_pos angry⟩
  rw [if_neg angry]
  by_cases extreme : 6039 ≤ itemId ∧ itemId ≤ 6042
  · exact .inl ⟨.extremeRuneTimer, extreme, if_pos extreme⟩
  rw [if_neg extreme]
  refine .inr ⟨?_, rfl⟩
  intro family holds
  cases family <;> simp only [RuneTimerType.Holds, RuneTimerType.first] at holds <;> omega

section Use

/-- This is the wheel after the setters and before the timer starts. -/
def prepared (svc : RuneSvc Other) (roleID : UInt32) (family : RuneTimerType) (itemId : Nat) :
    TimerManager (ServiceTimer Other) (Option RuneCallBack) :=
  ((svc.tm.setType (.inl (roleID, family)) .onceTimer).setInterval (.inl (roleID, family))
    (2 * 5)).setCallbackFun (.inl (roleID, family)) (some ⟨family, roleID, family.value itemId⟩)

variable {svc : RuneSvc Other} {roleID : UInt32} {family : RuneTimerType} {itemId : Nat}

theorem prepared_timer : (svc.prepared roleID family itemId).timers (.inl (roleID, family)) =
    { svc.tm.timers (.inl (roleID, family)) with
      type := .onceTimer
      interval := 10
      callBack := some ⟨family, roleID, family.value itemId⟩ } := by
  simp [prepared, TimerManager.setType, TimerManager.setInterval, TimerManager.setCallbackFun,
    TimerManager.modifyTimer]

theorem prepared_untouched {other : ServiceTimer Other}
    (different : other ≠ .inl (roleID, family)) :
    TimerManager.Untouched svc.tm (svc.prepared roleID family itemId) other := by
  unfold prepared TimerManager.setCallbackFun TimerManager.setInterval TimerManager.setType
  exact ((TimerManager.modifyTimer_untouched different).trans
    (TimerManager.modifyTimer_untouched different)).trans
    (TimerManager.modifyTimer_untouched different)

theorem prepared_consistent (consistent : svc.tm.Consistent) :
    (svc.prepared roleID family itemId).Consistent := by
  unfold prepared TimerManager.setCallbackFun TimerManager.setInterval TimerManager.setType
  apply TimerManager.modifyTimer_consistent _ rfl id
  apply TimerManager.modifyTimer_consistent _ rfl id
  exact TimerManager.modifyTimer_consistent consistent rfl id

theorem prepared_agreesOn (agrees : svc.tm.AgreesOn (.inl (roleID, family))) :
    (svc.prepared roleID family itemId).AgreesOn (.inl (roleID, family)) :=
  agrees.transfer (by rw [prepared_timer]) fun _ => Iff.rfl

/-- A rune adds the difference to the value that its timer holds and starts the timer. -/
theorem roleUseRune_eq :
    roleUseRune family family.field family.change family.first svc roleID itemId =
    modifyBonus
      { svc with
        tm := if (svc.tm.timers (.inl (roleID, family))).isRunning then
            ((svc.prepared roleID family itemId).reStart (.inl (roleID, family))).2
          else (svc.prepared roleID family itemId).start (.inl (roleID, family)) }
      roleID family.field (family.value itemId - svc.held roleID family) := by
  have running : (((svc.tm.setType (.inl (roleID, family)) .onceTimer).setInterval
      (.inl (roleID, family)) (2 * 5)).timers (.inl (roleID, family))).isRunning =
        (svc.tm.timers (.inl (roleID, family))).isRunning := by
    simp [TimerManager.setType, TimerManager.setInterval, TimerManager.modifyTimer]
  have kept : (((svc.tm.setType (.inl (roleID, family)) .onceTimer).setInterval
      (.inl (roleID, family)) (2 * 5)).timers (.inl (roleID, family))).callBack =
        (svc.tm.timers (.inl (roleID, family))).callBack := by
    simp [TimerManager.setType, TimerManager.setInterval, TimerManager.modifyTimer]
  unfold roleUseRune
  simp only [running, kept]
  cases runs : (svc.tm.timers (.inl (roleID, family))).isRunning with
  | true => simp only [held, runs, if_true]; rfl
  | false => simp only [held, runs, Bool.false_eq_true, if_false, Int.sub_zero]; rfl

/-- Below the limit a rune leaves its timer running with the value of the rune. -/
theorem roleUseRune_timer (roleID : UInt32) (family : RuneTimerType) (itemId : Nat)
    (consistent : svc.tm.Consistent)
    (agrees : svc.tm.AgreesOn (.inl (roleID, family)))
    (room : svc.tm.lastTimerID < maxTimerNum) :
    let next := roleUseRune family family.field family.change family.first svc roleID itemId
    next.tm.AgreesOn (.inl (roleID, family)) ∧
      (next.tm.timers (.inl (roleID, family))).isRunning = true ∧
      (next.tm.timers (.inl (roleID, family))).type = .onceTimer ∧
      (next.tm.timers (.inl (roleID, family))).callBack =
        some ⟨family, roleID, family.value itemId⟩ := by
  have ready : (svc.prepared roleID family itemId).Consistent := prepared_consistent consistent
  have before : (svc.prepared roleID family itemId).AgreesOn (.inl (roleID, family)) :=
    prepared_agreesOn agrees
  have positive : 0 < ((svc.prepared roleID family itemId).timers
      (.inl (roleID, family))).interval := by
    simp [prepared_timer]
  have same : ((svc.prepared roleID family itemId).timers (.inl (roleID, family))).isRunning =
      (svc.tm.timers (.inl (roleID, family))).isRunning := by
    rw [prepared_timer]
  intro next
  have tm : next.tm = if (svc.tm.timers (.inl (roleID, family))).isRunning then
        ((svc.prepared roleID family itemId).reStart (.inl (roleID, family))).2
      else (svc.prepared roleID family itemId).start (.inl (roleID, family)) := by
    rw [show next = _ from roleUseRune_eq]
    rfl
  cases running : (svc.tm.timers (.inl (roleID, family))).isRunning with
  | true =>
      rw [running, if_pos rfl] at tm
      obtain ⟨after, -, id, timer⟩ :=
        TimerManager.reStart_runs ready before (same.trans running) room positive
      rw [tm, timer, prepared_timer]
      exact ⟨after, rfl, rfl, rfl⟩
  | false =>
      rw [running, if_neg Bool.false_ne_true] at tm
      obtain ⟨after, -, id, timer⟩ :=
        TimerManager.start_runs ready before (same.trans running) room positive
      rw [tm, timer, prepared_timer]
      exact ⟨after, rfl, rfl, rfl⟩

/-- A rune touches no other timer. -/
theorem roleUseRune_other (roleID : UInt32) (family : RuneTimerType) (itemId : Nat)
    (consistent : svc.tm.Consistent) :
    let next := roleUseRune family family.field family.change family.first svc roleID itemId
    next.tm.Consistent ∧ ∀ other ≠ .inl (roleID, family),
      TimerManager.Untouched svc.tm next.tm other := by
  have ready : (svc.prepared roleID family itemId).Consistent := prepared_consistent consistent
  intro next
  have started : ∃ event, (svc.prepared roleID family itemId).step event = some next.tm ∧
      event.timer = some (.inl (roleID, family)) := by
    rw [show next = _ from roleUseRune_eq]
    cases running : (svc.tm.timers (.inl (roleID, family))).isRunning with
    | true => exact ⟨.reStart (.inl (roleID, family)), rfl, rfl⟩
    | false => exact ⟨.start (.inl (roleID, family)), rfl, rfl⟩
  obtain ⟨event, enabled, about⟩ := started
  refine ⟨TimerManager.step_consistent ready enabled, fun other different => ?_⟩
  exact (prepared_untouched different).trans
    (TimerManager.step_untouched ready enabled about different).1

end Use

/-- A rune finds a free identifier and does not overflow its bonus. -/
def Admitted (svc : RuneSvc Other) : RuneEvent Other → Prop
  | .useRune roleID itemId => ∀ family : RuneTimerType, family.Holds itemId →
      svc.tm.lastTimerID < maxTimerNum ∧
        (svc.bonus roleID family.field).toNat + family.value itemId - svc.held roleID family <
          4294967296
  | _ => True

section Accounts

variable {bonus : UInt32 → BonusField → UInt32} {svc next : RuneSvc Other}

/-- A rune that is admitted keeps the accounts. -/
theorem useRune_accounted (accounted : svc.Accounted bonus) {roleID : UInt32} {itemId : Nat}
    (admitted : svc.Admitted (.useRune roleID itemId)) :
    (svc.useRune roleID itemId).Accounted bonus := by
  rcases useRune_cases svc roleID itemId with ⟨family, holds, used⟩ | ⟨-, same⟩
  · obtain ⟨room, fits⟩ := admitted family holds
    obtain ⟨agrees, running, once, callBack⟩ := roleUseRune_timer roleID family itemId
      accounted.consistent (accounted.agrees roleID family) room
    obtain ⟨consistent, others⟩ := roleUseRune_other roleID family itemId
      accounted.consistent
    rw [used]
    have apart : ∀ role other, ¬ (role = roleID ∧ other = family) →
        (.inl (role, other) : ServiceTimer Other) ≠ .inl (roleID, family) := by
      intro role other different same
      obtain ⟨rfl, rfl⟩ := Prod.mk.inj (Sum.inl.inj same)
      exact different ⟨rfl, rfl⟩
    constructor
    · exact consistent
    · intro role other
      by_cases same : role = roleID ∧ other = family
      · obtain ⟨rfl, rfl⟩ := same
        exact agrees
      · exact (accounted.agrees role other).untouched (others _ (apart role other same))
    · intro role other
      by_cases same : role = roleID ∧ other = family
      · obtain ⟨rfl, rfl⟩ := same
        exact once
      · rw [(others _ (apart role other same)).timers]
        exact accounted.once role other
    · intro role other
      by_cases same : role = roleID ∧ other = family
      · obtain ⟨rfl, rfl⟩ := same
        intro _
        exact ⟨_, (RuneTimerType.value_pos holds).le, callBack⟩
      · rw [(others _ (apart role other same)).timers]
        exact accounted.kept role other
    · intro other
      rw [(others (.inr other) Sum.inr_ne_inl).timers]
      exact accounted.foreign other
    · rw [roleUseRune_eq]
      exact accounted.owed
    · intro role other
      have threads : outstanding (roleUseRune family family.field family.change family.first svc
          roleID itemId) role other = svc.outstanding role other := by
        rw [roleUseRune_eq]
        rfl
      rw [threads]
      have before := accounted.balance role other
      by_cases same : role = roleID ∧ other = family
      · obtain ⟨rfl, rfl⟩ := same
        have owes := accounted.outstanding_nonneg role other
        have positive := RuneTimerType.value_pos holds
        have value : (((roleUseRune other other.field other.change other.first svc role
            itemId).bonus role other.field).toNat : Int) =
            (svc.bonus role other.field).toNat + (other.value itemId - svc.held role other) := by
          rw [roleUseRune_eq, modifyBonus_self]
          show ((addBonus (svc.bonus role other.field)
            (other.value itemId - svc.held role other)).toNat : Int) = _
          unfold totalChange at before
          exact addBonus_toNat (by omega) (by omega)
        have now : held (roleUseRune other other.field other.change other.first svc role itemId)
            role other = other.value itemId := held_of_running running callBack
        rw [now]
        unfold totalChange at before ⊢
        omega
      · have elsewhere : ¬ (role = roleID ∧ other.field = family.field) := fun equal =>
          same ⟨equal.1, RuneTimerType.field_injective equal.2⟩
        have bonus_eq : (roleUseRune family family.field family.change family.first svc roleID
            itemId).bonus role other.field = svc.bonus role other.field := by
          rw [roleUseRune_eq, modifyBonus_other elsewhere]
        rw [held_congr (others _ (apart role other same)).timers]
        unfold totalChange at before ⊢
        rw [bonus_eq]
        exact before
  · rw [same]
    exact accounted

/-- A tick starts no rune timer. -/
theorem onTick_wasRunning (accounted : svc.Accounted bonus) {roleID : UInt32}
    {family : RuneTimerType}
    (running : (svc.onTick.tm.timers (.inl (roleID, family))).isRunning = true) :
    (svc.tm.timers (.inl (roleID, family))).isRunning = true := by
  have agrees := accounted.agrees roleID family
  by_cases held : svc.tm.InSlot svc.tm.currSlot (.inl (roleID, family))
  · exact agrees.running_iff.mpr ⟨_, held⟩
  · have idle := TimerManager.onTick_idle accounted.consistent held
    rw [← idle.timers]
    exact running

/-- A timer that does not fire keeps its value. -/
theorem onTick_held (consistent : svc.tm.Consistent) {roleID : UInt32} {family : RuneTimerType}
    (quiet : ¬ svc.tm.Fires (.inl (roleID, family))) :
    svc.onTick.held roleID family = svc.held roleID family := by
  have tm : svc.onTick.tm = svc.tm.onTick.2 := rfl
  by_cases here : svc.tm.InSlot svc.tm.currSlot (.inl (roleID, family))
  · have more : 1 < (svc.tm.timers (.inl (roleID, family))).round := by
      by_contra last
      exact quiet ⟨here, by omega⟩
    simp only [held, stored, tm, (TimerManager.onTick_waits consistent here more).1]
  · exact held_congr (TimerManager.onTick_idle consistent here).timers

/-- A tick moves the value of every timer that fires to its thread. -/
theorem onTick_accounted (accounted : svc.Accounted bonus) : svc.onTick.Accounted bonus := by
  have consistent := accounted.consistent
  obtain ⟨fired, distinct, fires, launched⟩ := TimerManager.onTick_launched consistent
  have settings := TimerManager.onTick_settings consistent
  have tm : svc.onTick.tm = svc.tm.onTick.2 := rfl
  have threads : svc.onTick.threads =
      svc.threads ++ fired.filterMap fun timer => (svc.tm.timers timer).callBack := by
    unfold onTick
    simp only [launched, List.filterMap_map]
    rfl
  have source : ∀ timer ∈ fired, ∀ thread, (svc.tm.timers timer).callBack = some thread →
      0 ≤ thread.valueChange ∧ timer = .inl (thread.roleID, thread.family) := by
    intro timer member thread callBack
    cases timer with
    | inr other => rw [accounted.foreign other] at callBack; cases callBack
    | inl key =>
        obtain ⟨role, family⟩ := key
        have running := (accounted.agrees role family).running_iff.mpr
          ⟨_, ((fires _).mp member).1⟩
        obtain ⟨value, positive, kept⟩ := accounted.kept role family running
        rw [kept] at callBack
        cases callBack
        exact ⟨positive, rfl⟩
  constructor
  · exact TimerManager.onTick_consistent consistent
  · intro role family
    exact TimerManager.onTick_agreesOn consistent (accounted.agrees role family)
  · intro role family
    rw [tm, (settings _).2.1]
    exact accounted.once role family
  · intro role family running
    rw [tm, (settings _).2.2]
    apply accounted.kept role family
    exact onTick_wasRunning accounted running
  · intro other
    rw [tm, (settings _).2.2]
    exact accounted.foreign other
  · intro thread member
    rw [threads, List.mem_append, List.mem_filterMap] at member
    rcases member with waiting | ⟨timer, inside, callBack⟩
    · exact accounted.owed thread waiting
    · exact (source timer inside thread callBack).1
  · intro role family
    have bonus_eq : totalChange bonus svc.onTick role family = totalChange bonus svc role family :=
      rfl
    have owed_eq : svc.onTick.outstanding role family = svc.outstanding role family +
        ((fired.filterMap fun timer => (svc.tm.timers timer).callBack).map
          (share role family)).sum := by
      rw [outstanding, threads, List.map_append, List.sum_append]
      rfl
    rw [bonus_eq, accounted.balance, owed_eq]
    have light : ∀ timer ∈ fired, timer ≠ .inl (role, family) →
        ∀ thread, (svc.tm.timers timer).callBack = some thread → share role family thread = 0 := by
      intro timer inside different thread callBack
      obtain ⟨-, rfl⟩ := source timer inside thread callBack
      exact if_neg fun same => different (by rw [same.1, same.2])
    by_cases member : Sum.inl (role, family) ∈ fired
    · have fire := (fires _).mp member
      have running := (accounted.agrees role family).running_iff.mpr ⟨_, fire.1⟩
      obtain ⟨value, -, kept⟩ := accounted.kept role family running
      have once : (svc.tm.timers (.inl (role, family))).type ≠ .loopTimer := by
        rw [accounted.once role family]
        exact TimerType.noConfusion
      have stopped : (svc.onTick.tm.timers (.inl (role, family))).isRunning = false := by
        rw [tm, (TimerManager.onTick_expires consistent fire once).1]
      rw [sum_filterMap_eq distinct member kept light, held_of_stopped stopped,
        held_of_running running kept, share, if_pos ⟨rfl, rfl⟩]
      omega
    · rw [sum_filterMap_eq_zero fun timer inside => light timer inside fun same =>
        member (same ▸ inside), Int.add_zero]
      rw [onTick_held accounted.consistent fun fire => member ((fires _).mpr fire)]

/-- The timers of the other services do not touch the accounts. -/
theorem foreign_accounted (accounted : svc.Accounted bonus)
    {tm : TimerManager (ServiceTimer Other) (Option RuneCallBack)} (timer : Other)
    (event : TimerEvent (ServiceTimer Other) (Option RuneCallBack))
    (enabled : svc.tm.step event = some tm) (about : event.timer = some (.inr timer))
    (callBack : ∀ other, (tm.timers (.inr other)).callBack =
      (svc.tm.timers (.inr other)).callBack) : Accounted bonus { svc with tm } := by
  have same : ∀ role family, TimerManager.Untouched svc.tm tm (.inl (role, family)) :=
    fun role family => (TimerManager.step_untouched accounted.consistent enabled about
      Sum.inl_ne_inr).1
  constructor
  · exact TimerManager.step_consistent accounted.consistent enabled
  · exact fun role family => (accounted.agrees role family).untouched (same role family)
  · intro role family
    rw [(same role family).timers]
    exact accounted.once role family
  · intro role family
    rw [(same role family).timers]
    exact accounted.kept role family
  · intro other
    rw [callBack]
    exact accounted.foreign other
  · exact accounted.owed
  · intro role family
    have value : held { svc with tm } role family = svc.held role family :=
      held_congr (same role family).timers
    rw [value]
    exact accounted.balance role family

theorem modifyTimer_callBack {tm : TimerManager (ServiceTimer Other) (Option RuneCallBack)}
    {timer : ServiceTimer Other}
    {change : NewTimer (Option RuneCallBack) → NewTimer (Option RuneCallBack)}
    (kept : (change (tm.timers timer)).callBack = (tm.timers timer).callBack)
    (other : ServiceTimer Other) :
    ((tm.modifyTimer timer change).timers other).callBack = (tm.timers other).callBack := by
  rcases eq_or_ne other timer with rfl | different
  · rw [TimerManager.modifyTimer_timers_self, kept]
  · rw [(TimerManager.modifyTimer_untouched different).timers]

/-- Every admitted step keeps the accounts. -/
theorem step_accounted (accounted : svc.Accounted bonus) {event : RuneEvent Other}
    (admitted : svc.Admitted event) (enabled : svc.step event = some next) :
    next.Accounted bonus := by
  cases event with
  | useRune roleID itemId => cases enabled; exact useRune_accounted accounted admitted
  | onTick => cases enabled; exact onTick_accounted accounted
  | detachProcess index => exact detachProcess_accounted accounted enabled
  | setInterval timer input =>
      cases enabled
      exact foreign_accounted accounted timer (.setInterval _ input) rfl rfl
        fun other => modifyTimer_callBack rfl _
  | setType timer input =>
      cases enabled
      exact foreign_accounted accounted timer (.setType _ input) rfl rfl
        fun other => modifyTimer_callBack rfl _
  | start timer =>
      cases enabled
      exact foreign_accounted accounted timer (.start _) rfl rfl
        fun other => TimerManager.addTimer_callBack _
  | reStart timer =>
      cases enabled
      exact foreign_accounted accounted timer (.reStart _) rfl rfl
        fun other => TimerManager.reStart_callBack _
  | cancel timer =>
      cases enabled
      exact foreign_accounted accounted timer (.cancel _) rfl rfl
        fun other => TimerManager.cancel_callBack _

end Accounts

/-- The bonuses of the runes are temporary in every state that a run of admitted steps reaches. -/
theorem run_temporary {bonus : UInt32 → BonusField → UInt32}
    {history : History (RuneSvc Other) (RuneEvent Other)} {final : RuneSvc Other}
    (run : Run step Admitted (initial bonus) history final) : final.Temporary bonus := by
  have accounted : final.Accounted bonus :=
    run.invariant (Accounted bonus) (initial_accounted bonus) fun _ _ _ before admitted enabled =>
      step_accounted before admitted enabled
  exact accounted.temporary

/-- A role uses two runes of one family and the wheel turns. -/
theorem twoToughRunes_temporary :
    ∃ history final, Run step Admitted (initial fun _ _ => 0 : RuneSvc Unit) history final ∧
      history.map Prod.snd = [.useRune 7 6003, .useRune 7 6005, .onTick] ∧
      final.Temporary fun _ _ => 0 := by
  have replayed := run_of_replay (show replay step (initial fun _ _ => 0 : RuneSvc Unit)
    [.useRune 7 6003, .useRune 7 6005, .onTick] = some _ from rfl)
  have run : Run step Admitted _ _ _ := replayed.restrict (by
    simp only [List.forall_mem_cons, List.not_mem_nil, false_imp_iff, implies_true, and_true]
    refine ⟨?_, ?_, trivial⟩
    · intro family holds
      obtain rfl : family = .toughRuneTimer := RuneTimerType.holds_unique holds (by decide)
      decide
    · intro family holds
      obtain rfl : family = .toughRuneTimer := RuneTimerType.holds_unique holds (by decide)
      decide)
  exact ⟨_, _, run, rfl, run_temporary run⟩

section Limit

variable {svc : RuneSvc Other}

/-- This many roles used a first tough rune, and the roles with larger identifiers used none. -/
structure Spent (count : Nat) (svc : RuneSvc Other) : Prop where
  consistent : svc.tm.Consistent
  lastTimerID : svc.tm.lastTimerID = count
  threads : svc.threads = []
  fresh : ∀ role : UInt32, count ≤ role.toNat →
    svc.tm.timers (.inl (role, .toughRuneTimer)) = .new ∧ svc.bonus role .maxHpBonus = 0

theorem useTough_eq (roleID : UInt32)
    (stopped : (svc.tm.timers (.inl (roleID, .toughRuneTimer))).isRunning = false) :
    svc.useRune roleID 6003 =
      modifyBonus { svc with
        tm := (svc.prepared roleID .toughRuneTimer 6003).start (.inl (roleID, .toughRuneTimer)) }
        roleID .maxHpBonus 500 := by
  have used : svc.useRune roleID 6003 = roleUseRune RuneTimerType.toughRuneTimer
    RuneTimerType.toughRuneTimer.field RuneTimerType.toughRuneTimer.change
    RuneTimerType.toughRuneTimer.first svc roleID 6003 := rfl
  rw [used, roleUseRune_eq, held_of_stopped stopped, stopped]
  rfl

/-- The next role takes the next identifier. -/
theorem Spent.useRune {count : Nat} (spent : Spent count svc) (room : count < maxTimerNum) :
    Spent (count + 1) (svc.useRune (UInt32.ofNat count) 6003) := by
  have small : (UInt32.ofNat count).toNat = count := by
    rw [UInt32.toNat_ofNat']
    simp only [maxTimerNum] at room
    omega
  have own := (spent.fresh (UInt32.ofNat count) small.ge).1
  have stopped :
      (svc.tm.timers (.inl (UInt32.ofNat count, .toughRuneTimer))).isRunning = false := by
    rw [own]
    rfl
  have others := roleUseRune_other (UInt32.ofNat count) .toughRuneTimer 6003 spent.consistent
  constructor
  · exact others.1
  · rw [useTough_eq _ stopped]
    rcases TimerManager.start_cases (svc.prepared (UInt32.ofNat count) .toughRuneTimer 6003)
      (.inl (UInt32.ofNat count, .toughRuneTimer)) with ⟨-, -, started⟩ | ⟨refused, -⟩
    · have new : ((svc.prepared (UInt32.ofNat count) .toughRuneTimer 6003).timers
          (.inl (UInt32.ofNat count, .toughRuneTimer))).id = 0 := by
        rw [prepared_timer, own]
        rfl
      show (TimerManager.start _ _).lastTimerID = count + 1
      rw [started, new]
      exact congrArg (· + 1) spent.lastTimerID
    · have interval : ((svc.prepared (UInt32.ofNat count) .toughRuneTimer 6003).timers
          (.inl (UInt32.ofNat count, .toughRuneTimer))).interval = 10 := by
        rw [prepared_timer]
      have limit : (svc.prepared (UInt32.ofNat count) .toughRuneTimer 6003).lastTimerID = count :=
        spent.lastTimerID
      omega
  · rw [useTough_eq _ stopped]
    exact spent.threads
  · intro role later
    have different : role ≠ UInt32.ofNat count := by
      rintro rfl
      omega
    obtain ⟨timer, bonus⟩ := spent.fresh role (by omega)
    constructor
    · exact (others.2 (.inl (role, .toughRuneTimer)) (by simp [different])).timers.trans timer
    · rw [useTough_eq _ stopped, modifyBonus_other (by simp [different])]
      exact bonus

/-- The first roles spend the identifiers one by one. -/
theorem exists_spent (count : Nat) (room : count ≤ maxTimerNum) :
    ∃ history final, Run step anyEvent (initial fun _ _ => 0 : RuneSvc Unit) history final ∧
      history.map Prod.snd =
        (List.range count).map (fun role => .useRune (UInt32.ofNat role) 6003) ∧
      Spent count final := by
  induction count with
  | zero =>
      refine ⟨[], _, .nil, rfl, TimerManager.new_consistent, rfl, rfl, fun _ _ => ⟨rfl, rfl⟩⟩
  | succ count ih =>
      obtain ⟨history, final, run, events, spent⟩ := ih (by omega)
      refine ⟨_, _, .snoc run trivial (show final.step (.useRune (UInt32.ofNat count) 6003) =
        some _ from rfl), ?_, spent.useRune (by omega)⟩
      rw [List.map_append, List.range_succ, List.map_append, events]
      rfl

end Limit

/-- The rune of the role after the last identifier is never taken back. -/
theorem spentIdentifiers_not_temporary :
    ∃ history final, Run step anyEvent (initial fun _ _ => 0 : RuneSvc Unit) history final ∧
      history.map Prod.snd =
        (List.range 3001).map (fun role => .useRune (UInt32.ofNat role) 6003) ∧
      ¬ final.Temporary fun _ _ => 0 := by
  obtain ⟨history, before, run, events, spent⟩ := exists_spent 3000 le_rfl
  obtain ⟨fresh, zero⟩ := spent.fresh 3000 le_rfl
  have stopped : (before.tm.timers (.inl (3000, .toughRuneTimer))).isRunning = false := by
    rw [fresh]
    rfl
  have used := useTough_eq 3000 stopped
  have refused : (before.prepared 3000 .toughRuneTimer 6003).start
      (.inl (3000, .toughRuneTimer)) = before.prepared 3000 .toughRuneTimer 6003 := by
    rcases TimerManager.start_cases (before.prepared 3000 .toughRuneTimer 6003)
      (.inl (3000, .toughRuneTimer)) with ⟨room, -⟩ | ⟨-, same⟩
    · have full : (before.prepared 3000 .toughRuneTimer 6003).lastTimerID = 3000 :=
        spent.lastTimerID
      rw [full] at room
      exact absurd room (Nat.lt_irrefl _)
    · exact same
  rw [refused] at used
  refine ⟨_, _, .snoc run trivial (show before.step (.useRune 3000 6003) = some _ from rfl),
    ?_, ?_⟩
  · rw [List.map_append, List.range_succ, List.map_append, events]
    rfl
  · intro temporary
    rw [used] at temporary
    have none := temporary.stopped 3000 .toughRuneTimer
      (by
        show ∀ thread ∈ before.threads, _
        simp [spent.threads])
      (by
        intro slot there
        have started := spent.consistent.id_ne_zero_of_inSlot
          (show before.tm.InSlot slot (.inl (3000, .toughRuneTimer)) from there)
        rw [fresh] at started
        exact started rfl)
    unfold totalChange at none
    rw [show RuneTimerType.toughRuneTimer.field = .maxHpBonus from rfl, modifyBonus_self] at none
    rw [show ({ before with tm := _ } : RuneSvc Unit).bonus 3000 .maxHpBonus = 0 from zero] at none
    exact absurd none (by decide)

end RuneSvc

end AppSvr.MainServer
