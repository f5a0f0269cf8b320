/-
This file relates two partial maps value by value.
-/

import Mathlib.Data.Option.Basic

namespace AppSvr.PartialMap

variable {Key Value : Type*} {relation : Value → Value → Prop}
  {before middle after : Key → Option Value}

/-- Two maps have the same keys, and their values at each key are related. -/
def Related (relation : Value → Value → Prop) (before after : Key → Option Value) : Prop :=
  ∀ key, Option.Rel relation (before key) (after key)

/-- A present value has a related later value. -/
theorem Related.forward (related : Related relation before after) {key : Key} {value : Value}
    (present : before key = some value) :
    ∃ later, after key = some later ∧ relation value later := by
  have pair := related key
  rw [present] at pair
  cases found : after key with
  | none => rw [found] at pair; cases pair
  | some later =>
      rw [found] at pair
      cases pair with
      | some holds => exact ⟨later, rfl, holds⟩

/-- A later value has a related earlier value. -/
theorem Related.backward (related : Related relation before after) {key : Key} {later : Value}
    (present : after key = some later) :
    ∃ value, before key = some value ∧ relation value later := by
  have pair := related key
  rw [present] at pair
  cases found : before key with
  | none => rw [found] at pair; cases pair
  | some value =>
      rw [found] at pair
      cases pair with
      | some holds => exact ⟨value, rfl, holds⟩

/-- An absent key stays absent. -/
theorem Related.absent (related : Related relation before after) {key : Key} :
    after key = none ↔ before key = none := by
  have pair := related key
  constructor
  · intro missing
    rw [missing] at pair
    cases found : before key with
    | none => rfl
    | some value => rw [found] at pair; cases pair
  · intro missing
    rw [missing] at pair
    cases found : after key with
    | none => rfl
    | some value => rw [found] at pair; cases pair

theorem Related.refl (reflexive : ∀ value, relation value value) (map : Key → Option Value) :
    Related relation map map := by
  intro key
  cases map key with
  | none => exact .none
  | some value => exact .some (reflexive value)

theorem Related.trans
    (transitive : ∀ first second third, relation first second → relation second third →
      relation first third)
    (first : Related relation before middle) (second : Related relation middle after) :
    Related relation before after := by
  intro key
  cases found : before key with
  | none =>
      rw [second.absent.mpr (first.absent.mpr found)]
      exact .none
  | some value =>
      obtain ⟨between, present, holds⟩ := first.forward found
      obtain ⟨later, present', holds'⟩ := second.forward present
      rw [present']
      exact .some (transitive _ _ _ holds holds')

theorem Related.mono {weaker : Value → Value → Prop}
    (implies : ∀ value later, relation value later → weaker value later)
    (related : Related relation before after) : Related weaker before after := by
  intro key
  cases found : before key with
  | none =>
      rw [related.absent.mpr found]
      exact .none
  | some value =>
      obtain ⟨later, present, holds⟩ := related.forward found
      rw [present]
      exact .some (implies _ _ holds)

/-- One present value moves to a related one. -/
theorem Related.update [DecidableEq Key] (reflexive : ∀ value, relation value value) {key : Key}
    {value later : Value} (present : before key = some value) (holds : relation value later) :
    Related relation before (Function.update before key (some later)) := by
  intro other
  by_cases same : other = key
  · subst same
    rw [present, Function.update_self]
    exact .some holds
  · rw [Function.update_of_ne same]
    exact Related.refl reflexive before other

/-- Erasing one key keeps the relation. -/
theorem Related.erase [DecidableEq Key] (related : Related relation before after) (key : Key) :
    Related relation (Function.update before key none) (Function.update after key none) := by
  intro other
  by_cases same : other = key
  · subst same
    rw [Function.update_self, Function.update_self]
    exact .none
  · rw [Function.update_of_ne same, Function.update_of_ne same]
    exact related other

end AppSvr.PartialMap
