/-
This file defines countdowns and computes the ticks on which they fire.
-/

import Mathlib.Algebra.Order.Ring.Nat

namespace AppSvr.Countdown

/-- An idle countdown stays idle, and one without ticks left fires and takes the reload. -/
def tick (reload : Option ℕ) : Option ℕ → Option ℕ
  | none => none
  | some 0 => reload
  | some (left + 1) => some left

/-- This is the countdown after `count` ticks. -/
def after (reload left : Option ℕ) : ℕ → Option ℕ
  | 0 => left
  | count + 1 => tick reload (after reload left count)

/-- The countdown fires on the tick that follows `count` earlier ones. -/
def FiresAt (reload left : Option ℕ) (count : ℕ) : Prop := after reload left count = some 0

/-- The ticks of a countdown can be split at any place. -/
theorem after_add (reload left : Option ℕ) (first second : ℕ) :
    after reload left (first + second) = after reload (after reload left first) second := by
  induction second with
  | zero => rfl
  | succ second ih => exact congrArg (tick reload) ih

variable (reload : Option ℕ)

theorem after_none (count : ℕ) : after reload none count = none := by
  induction count with
  | zero => rfl
  | succ count ih => rw [after, ih]; rfl

theorem after_some_of_le {left count : ℕ} (waits : count ≤ left) :
    after reload (some left) count = some (left - count) := by
  induction count with
  | zero => rfl
  | succ count ih =>
      rw [after, ih (by omega), show left - count = (left - (count + 1)) + 1 by omega]
      rfl

theorem after_reload (left count : ℕ) :
    after reload (some left) (left + 1 + count) = after reload reload count := by
  have empty : after reload (some left) left = some 0 := by
    rw [after_some_of_le reload le_rfl, Nat.sub_self]
  rw [after_add, after, empty]
  rfl

/-- An idle countdown never fires. -/
theorem not_firesAt_none (count : ℕ) : ¬ FiresAt reload none count := by
  rw [FiresAt, after_none]
  simp

theorem firesAt_of_le {left count : ℕ} (waits : count ≤ left) :
    FiresAt reload (some left) count ↔ count = left := by
  rw [FiresAt, after_some_of_le reload waits, Option.some.injEq]
  omega

/-- A countdown without a reload fires once. -/
theorem firesAt_once (left count : ℕ) : FiresAt none (some left) count ↔ count = left := by
  rcases Nat.lt_or_ge left count with later | waits
  · obtain ⟨rest, rfl⟩ := Nat.exists_eq_add_of_le (Nat.succ_le_of_lt later)
    rw [FiresAt, Nat.succ_eq_add_one, after_reload, after_none]
    have never : left + 1 + rest ≠ left := by omega
    simp [never]
  · exact firesAt_of_le none waits

/-- A countdown that reloads fires again after every period. -/
theorem firesAt_loop (period left count : ℕ) :
    FiresAt (some period) (some left) count ↔ left ≤ count ∧ period + 1 ∣ count - left := by
  induction count using Nat.strong_induction_on generalizing left with
  | _ count ih =>
      rcases Nat.lt_or_ge left count with later | waits
      · obtain ⟨rest, rfl⟩ := Nat.exists_eq_add_of_le (Nat.succ_le_of_lt later)
        rw [FiresAt, Nat.succ_eq_add_one, after_reload, ← FiresAt, ih rest (by omega)]
        have passed : left + 1 + rest - left = rest + 1 := by omega
        rw [passed]
        constructor
        · intro ⟨reached, divides⟩
          refine ⟨by omega, ?_⟩
          rw [show rest + 1 = (rest - period) + (period + 1) by omega]
          exact (Nat.dvd_add_self_right).mpr divides
        · intro ⟨_, divides⟩
          have reached := Nat.le_of_dvd (Nat.succ_pos rest) divides
          refine ⟨by omega, ?_⟩
          rw [show rest + 1 = (rest - period) + (period + 1) by omega] at divides
          exact (Nat.dvd_add_self_right).mp divides
      · rw [firesAt_of_le _ waits]
        constructor
        · rintro rfl
          simp
        · intro ⟨reached, _⟩
          omega

end AppSvr.Countdown
