/-
This file defines the runs of a partial step function and their induction rules.
-/

import Mathlib.Data.List.Basic

namespace AppSvr.TransitionSystem

variable {State Event : Type*}

/-- A history lists every event with the state before it. -/
abbrev History (State Event : Type*) := List (State × Event)

/-- A run performs enabled and allowed events from its start. -/
inductive Run (step : State → Event → Option State) (allowed : State → Event → Prop)
    (start : State) : History State Event → State → Prop where
  | nil : Run step allowed start [] start
  | snoc {history : History State Event} {state next : State} {event : Event}
      (before : Run step allowed start history state) (permitted : allowed state event)
      (enabled : step state event = some next) :
      Run step allowed start (history ++ [(state, event)]) next

/-- Every event is allowed in an unrestricted run. -/
def anyEvent : State → Event → Prop := fun _ _ => True

instance (state : State) (event : Event) : Decidable (anyEvent state event) :=
  inferInstanceAs (Decidable True)

section Rules

variable {step : State → Event → Option State} {allowed : State → Event → Prop} {start : State}

/-- A property that every allowed step preserves holds after every run. -/
theorem Run.invariant (holds : State → Prop) (initial : holds start)
    (preserved : ∀ state event next, holds state → allowed state event →
      step state event = some next → holds next)
    {history : History State Event} {state : State}
    (run : Run step allowed start history state) : holds state := by
  induction run with
  | nil => exact initial
  | snoc _ permitted enabled ih => exact preserved _ _ _ ih permitted enabled

/-- The same rule applies to a property of the state and its history. -/
theorem Run.historyInvariant (holds : History State Event → State → Prop)
    (initial : holds [] start)
    (preserved : ∀ history state event next, holds history state → allowed state event →
      step state event = some next → holds (history ++ [(state, event)]) next)
    {history : History State Event} {state : State}
    (run : Run step allowed start history state) : holds history state := by
  induction run with
  | nil => exact initial
  | snoc _ permitted enabled ih => exact preserved _ _ _ _ ih permitted enabled

/-- A run whose recorded steps meet a condition is a run under that condition. -/
theorem Run.restrict {condition : State → Event → Prop} {history : History State Event}
    {state : State} (run : Run step allowed start history state)
    (meets : ∀ entry ∈ history, condition entry.1 entry.2) :
    Run step condition start history state := by
  induction run with
  | nil => exact .nil
  | snoc _ _ enabled ih =>
      refine .snoc (ih fun entry member => meets entry (List.mem_append_left _ member)) ?_ enabled
      exact meets _ (List.mem_append_right _ (List.mem_singleton_self _))

/-- Two conditions that agree while a property holds, and that keep it, are met by the same runs. -/
theorem Run.forall_iff {holds : State → Prop} {meets condition : State → Event → Prop}
    (initial : holds start)
    (agrees : ∀ state event, holds state → (meets state event ↔ condition state event))
    (kept : ∀ state event next, holds state → meets state event → step state event = some next →
      holds next)
    {history : History State Event} {state : State}
    (run : Run step allowed start history state) :
    (∀ entry ∈ history, meets entry.1 entry.2) ↔ ∀ entry ∈ history, condition entry.1 entry.2 := by
  have both : ((∀ entry ∈ history, meets entry.1 entry.2) → holds state) ∧
      ((∀ entry ∈ history, meets entry.1 entry.2) ↔
        ∀ entry ∈ history, condition entry.1 entry.2) := by
    induction run with
    | nil => exact ⟨fun _ => initial, by simp⟩
    | snoc _ _ enabled ih =>
        simp only [List.forall_mem_append, List.forall_mem_singleton]
        refine ⟨fun all => kept _ _ _ (ih.1 all.1) all.2 enabled, ?_⟩
        rw [← ih.2]
        exact and_congr_right fun before => agrees _ _ (ih.1 before)
  exact both.2

/-- A second run can follow a first one. -/
theorem Run.trans {first second : History State Event} {middle final : State}
    (before : Run step allowed start first middle)
    (after : Run step allowed middle second final) :
    Run step allowed start (first ++ second) final := by
  induction after with
  | nil => simpa using before
  | snoc _ permitted enabled ih =>
      rw [← List.append_assoc]
      exact .snoc ih permitted enabled

/-- One enabled step starts every longer run. -/
theorem Run.head {event : Event} {next final : State} {rest : History State Event}
    (permitted : allowed start event) (enabled : step start event = some next)
    (after : Run step allowed next rest final) :
    Run step allowed start ((start, event) :: rest) final := by
  have first : Run step allowed start ([] ++ [(start, event)]) next := .snoc .nil permitted enabled
  simpa using first.trans after

end Rules

/-- The replay computes the history and the final state of an event list. -/
def replay (step : State → Event → Option State) (start : State) :
    List Event → Option (History State Event × State)
  | [] => some ([], start)
  | event :: rest => (step start event).bind fun next =>
      (replay step next rest).map fun result => ((start, event) :: result.1, result.2)

/-- A successful replay is an unrestricted run. -/
theorem run_of_replay {step : State → Event → Option State} {start : State}
    {events : List Event} {result : History State Event × State}
    (replayed : replay step start events = some result) :
    Run step anyEvent start result.1 result.2 := by
  induction events generalizing start result with
  | nil =>
      obtain rfl := Option.some.inj replayed
      exact .nil
  | cons event rest ih =>
      obtain ⟨next, enabled, tail⟩ := Option.bind_eq_some_iff.mp replayed
      obtain ⟨after, found, rfl⟩ := Option.map_eq_some_iff.mp tail
      exact Run.head trivial enabled (ih found)

/-- A computable check of a replay exhibits an allowed run that passes the check. -/
theorem exists_run_of_replay (step : State → Event → Option State)
    (allowed : State → Event → Prop) [∀ state event, Decidable (allowed state event)]
    (start : State) (events : List Event) (check : History State Event → State → Bool)
    (passes : (replay step start events).any (fun result =>
      result.1.all (fun entry => allowed entry.1 entry.2) && check result.1 result.2) = true) :
    ∃ history state, Run step allowed start history state ∧ check history state = true := by
  cases replayed : replay step start events with
  | none => simp [replayed] at passes
  | some result =>
      rw [replayed, Option.any_some, Bool.and_eq_true, List.all_eq_true] at passes
      refine ⟨result.1, result.2, (run_of_replay replayed).restrict ?_, passes.2⟩
      intro entry member
      exact of_decide_eq_true (passes.1 entry member)

end AppSvr.TransitionSystem

