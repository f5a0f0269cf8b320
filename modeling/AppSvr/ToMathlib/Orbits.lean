/-
This file proves how long the orbit of a step stays in a list, and when two distances that are
stepped by a fixed speed are small together.
-/

import Mathlib.Data.List.Nodup
import Mathlib.Data.List.Perm.Subperm
import Mathlib.Tactic.Ring

namespace AppSvr.Orbits

/-- An orbit that leaves a list has met every element of it once at most. -/
theorem steps_le_length {α : Type*} {f : α → α} {start : α} {steps : Nat} {list : List α}
    (hits : ∀ step < steps, f^[step] start ∈ list) (free : f^[steps] start ∉ list) :
    steps ≤ list.length := by
  have early {first second : Nat} (less : first < second) (within : second < steps) :
      f^[first] start ≠ f^[second] start := by
    intro same
    have split : steps = steps - second + second := by omega
    rw [split, Function.iterate_add_apply, ← same, ← Function.iterate_add_apply] at free
    exact free (hits _ (by omega))
  have distinct : ((List.range steps).map fun step => f^[step] start).Nodup := by
    refine List.nodup_range.map_on fun first firstListed second secondListed same => ?_
    obtain less | equal | more := Nat.lt_trichotomy first second
    · exact absurd same (early less (List.mem_range.mp secondListed))
    · exact equal
    · exact absurd same.symm (early more (List.mem_range.mp firstListed))
  have within : ((List.range steps).map fun step => f^[step] start) ⊆ list := by
    intro value member
    obtain ⟨step, listed, rfl⟩ := List.mem_map.mp member
    exact hits step (List.mem_range.mp listed)
  simpa using (distinct.subperm within).length_le

/-- One step changes the distance on an axis to this one. -/
def shrink (speed distance : Nat) : Nat :=
  if distance = 0 then 0 else if speed ≤ distance then distance - speed else speed - distance

/-- The distance that is left after some full steps. -/
def remains (speed distance steps : Nat) : Nat := ((distance : Int) - steps * speed).natAbs

/-- Both distances shrink to the window after numbers of steps of the same parity. The parity does
not matter when one of the distances is a multiple of the speed. -/
def Meets (window speed width height : Nat) : Prop :=
  ∃ across down, remains speed width across ≤ window ∧ remains speed height down ≤ window ∧
    (speed ∣ width ∨ speed ∣ height ∨ across % 2 = down % 2)

section Axis

variable {window speed distance : Nat}

theorem shrink_early (steps : Nat) (within : steps * speed ≤ distance) :
    (shrink speed)^[steps] distance = distance - steps * speed := by
  induction steps with
  | zero => simp
  | succ steps ih =>
      rw [Nat.succ_mul] at within
      rw [Function.iterate_succ_apply', ih (by omega), Nat.succ_mul, shrink]
      split_ifs <;> omega

/-- At the end the distance alternates between two values, unless it is zero. -/
theorem shrink_late (positive : 0 < speed) (more : Nat) :
    (shrink speed)^[distance / speed + more] distance =
      if speed ∣ distance ∨ more % 2 = 0 then distance % speed else speed - distance % speed := by
  have small := Nat.mod_lt distance positive
  have parts := Nat.div_add_mod' distance speed
  induction more with
  | zero =>
      rw [Nat.add_zero, shrink_early _ (Nat.div_mul_le_self _ _), if_pos (Or.inr rfl)]
      omega
  | succ more ih =>
      rw [← Nat.add_assoc, Function.iterate_succ_apply', ih, shrink]
      by_cases divides : speed ∣ distance
      · have none := Nat.mod_eq_zero_of_dvd divides
        simp [divides, none]
      · have some : distance % speed ≠ 0 := fun none => divides (Nat.dvd_of_mod_eq_zero none)
        simp only [divides, false_or]
        split_ifs <;> omega

theorem remains_eq (speed distance steps : Nat) : remains speed distance steps =
    (((distance / speed : Nat) - steps : Int) * speed + (distance % speed : Nat)).natAbs := by
  have parts : ((distance / speed * speed + distance % speed : Nat) : Int) = distance :=
    congrArg _ (Nat.div_add_mod' distance speed)
  rw [remains, ← parts, Nat.cast_add, Nat.cast_mul]
  congr 1
  ring

theorem remains_div (speed distance : Nat) :
    remains speed distance (distance / speed) = distance % speed := by
  rw [remains_eq, Int.sub_self, Int.zero_mul, Int.zero_add, Int.natAbs_natCast]

theorem remains_div_succ (positive : 0 < speed) :
    remains speed distance (distance / speed + 1) = speed - distance % speed := by
  have small := Nat.mod_lt distance positive
  have once : ((distance / speed : Nat) - (distance / speed + 1 : Nat) : Int) = -1 := by omega
  rw [remains_eq, once]
  omega

/-- A near bullet is near after full steps, of the same parity unless the speed divides. -/
theorem exists_remains (positive : 0 < speed) {steps : Nat}
    (near : (shrink speed)^[steps] distance ≤ window) :
    ∃ full, remains speed distance full ≤ window ∧ (speed ∣ distance ∨ full % 2 = steps % 2) := by
  obtain early | late := Nat.le_total steps (distance / speed)
  · have within := Nat.mul_le_of_le_div _ _ _ early
    rw [shrink_early steps within] at near
    refine ⟨steps, ?_, Or.inr rfl⟩
    rw [remains]
    omega
  · obtain ⟨more, rfl⟩ := Nat.exists_eq_add_of_le late
    rw [shrink_late positive] at near
    split at near
    case isTrue even =>
      exact ⟨distance / speed, (remains_div ..).trans_le near, even.imp_right fun even => by omega⟩
    case isFalse odd =>
      rw [not_or] at odd
      exact ⟨distance / speed + 1, (remains_div_succ positive).trans_le near, Or.inr (by omega)⟩

/-- Late enough the bullet is at least as near as after any full steps of the same parity. -/
theorem shrink_le_remains (positive : 0 < speed) {steps full : Nat}
    (late : distance / speed ≤ steps) (parity : speed ∣ distance ∨ full % 2 = steps % 2) :
    (shrink speed)^[steps] distance ≤ remains speed distance full := by
  have small := Nat.mod_lt distance positive
  obtain ⟨more, rfl⟩ := Nat.exists_eq_add_of_le late
  rw [shrink_late positive, remains_eq]
  by_cases divides : speed ∣ distance
  · rw [if_pos (Or.inl divides), Nat.mod_eq_zero_of_dvd divides]
    exact Nat.zero_le _
  · have same := parity.resolve_left divides
    have grows {first second : Int} (le : first ≤ second) : first * speed ≤ second * speed :=
      Int.mul_le_mul_of_nonneg_right le (Int.natCast_nonneg _)
    generalize offset : ((distance / speed : Nat) - full : Int) = steps
    split
    case isTrue even =>
      obtain ahead | behind : 0 ≤ steps ∨ steps ≤ -2 := by omega
      · have product := grows ahead
        omega
      · have product := grows behind
        omega
    case isFalse odd =>
      obtain ahead | behind : 1 ≤ steps ∨ steps ≤ -1 := by omega
      · have product := grows ahead
        omega
      · have product := grows behind
        omega

variable {width height : Nat}

theorem meets_of_near (positive : 0 < speed) {steps : Nat}
    (near : (shrink speed)^[steps] width ≤ window ∧ (shrink speed)^[steps] height ≤ window) :
    Meets window speed width height := by
  obtain ⟨across, acrossNear, acrossParity⟩ := exists_remains positive near.1
  obtain ⟨down, downNear, downParity⟩ := exists_remains positive near.2
  refine ⟨across, down, acrossNear, downNear, ?_⟩
  obtain divides | same := acrossParity
  · exact Or.inl divides
  · exact Or.inr (downParity.imp_right fun other => same.trans other.symm)

/-- The bullet is near after the longer way, or one step later. -/
theorem near_of_meets (positive : 0 < speed) (meets : Meets window speed width height) :
    ∃ steps ≤ max (width / speed) (height / speed) + 1,
      (shrink speed)^[steps] width ≤ window ∧ (shrink speed)^[steps] height ≤ window := by
  obtain ⟨across, down, acrossNear, downNear, parity⟩ := meets
  have choose (full : Nat) : ∃ steps ≤ max (width / speed) (height / speed) + 1,
      max (width / speed) (height / speed) ≤ steps ∧ full % 2 = steps % 2 := by
    by_cases same : full % 2 = max (width / speed) (height / speed) % 2
    · exact ⟨_, Nat.le_succ _, Nat.le_refl _, same⟩
    · exact ⟨_, Nat.le_refl _, Nat.le_succ _, by omega⟩
  obtain ⟨steps, few, late, acrossParity, downParity⟩ : ∃ steps ≤
      max (width / speed) (height / speed) + 1, max (width / speed) (height / speed) ≤ steps ∧
        (speed ∣ width ∨ across % 2 = steps % 2) ∧ (speed ∣ height ∨ down % 2 = steps % 2) := by
    obtain divides | divides | same := parity
    · obtain ⟨steps, few, late, same⟩ := choose down
      exact ⟨steps, few, late, Or.inl divides, Or.inr same⟩
    · obtain ⟨steps, few, late, same⟩ := choose across
      exact ⟨steps, few, late, Or.inr same, Or.inl divides⟩
    · obtain ⟨steps, few, late, same'⟩ := choose across
      exact ⟨steps, few, late, Or.inr same', Or.inr (same.symm.trans same')⟩
  have acrossLate := (Nat.le_max_left _ _).trans late
  have downLate := (Nat.le_max_right _ _).trans late
  exact ⟨steps, few, (shrink_le_remains positive acrossLate acrossParity).trans acrossNear,
    (shrink_le_remains positive downLate downParity).trans downNear⟩

end Axis

end AppSvr.Orbits
