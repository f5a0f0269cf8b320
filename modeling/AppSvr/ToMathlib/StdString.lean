/-
This file defines the searches in a string and the positions that they return.
-/

import Mathlib.Data.List.DropRight
import Mathlib.Data.List.Infix

namespace AppSvr.StdString

variable {Letter : Type*} [DecidableEq Letter]

/-- The first position of the pattern. -/
def find (pattern : List Letter) : List Letter → Option Nat
  | [] => none
  | letter :: text =>
      if pattern <+: letter :: text then some 0 else (find pattern text).map (· + 1)

/-- The first position of the pattern that is not in front of the start. -/
def findFrom (pattern : List Letter) (start : Nat) (text : List Letter) : Option Nat :=
  (find pattern (text.drop start)).map (· + start)

/-- The last position of a letter of the kind. -/
def findLast (kind : Letter → Bool) : List Letter → Option Nat
  | [] => none
  | letter :: text =>
      match findLast kind text with
      | some position => some (position + 1)
      | none => if kind letter then some 0 else none

/-- The letters from the position on, at most so many. -/
def substr (text : List Letter) (position count : Nat) : List Letter :=
  (text.drop position).take count

theorem find_eq_none_iff {pattern : List Letter} (some : pattern ≠ []) (text : List Letter) :
    find pattern text = none ↔ ¬ pattern <:+: text := by
  induction text with
  | nil => simp [find, some]
  | cons letter text ih =>
      unfold find
      rw [List.infix_cons_iff]
      by_cases here : pattern <+: letter :: text
      · rw [if_pos here]
        exact iff_of_false (by simp) (not_not_intro (.inl here))
      · rw [if_neg here, Option.map_eq_none_iff, ih]
        exact ⟨fun later either => either.elim here later, fun none later => none (.inr later)⟩

omit [DecidableEq Letter] in
theorem findLast_append (kind : Letter → Bool) (front text : List Letter) :
    findLast kind (front ++ text) =
      match findLast kind text with
      | some position => some (front.length + position)
      | none => findLast kind front := by
  induction front with
  | nil =>
      cases found : findLast kind text with
      | none => exact found
      | some position =>
          dsimp only
          rw [List.length_nil, Nat.zero_add]
          exact found
  | cons letter front ih =>
      rw [List.cons_append, findLast, ih]
      cases findLast kind text with
      | none => rfl
      | some position =>
          dsimp only
          rw [List.length_cons, Nat.add_right_comm]

omit [DecidableEq Letter] in
theorem findLast_lt {kind : Letter → Bool} {text : List Letter} {position : Nat}
    (found : findLast kind text = some position) : position < text.length := by
  induction text generalizing position with
  | nil => cases found
  | cons letter text ih =>
      rw [List.length_cons]
      unfold findLast at found
      cases later : findLast kind text with
      | none =>
          rw [later] at found
          dsimp only at found
          split at found
          · cases Option.some.inj found
            exact Nat.zero_lt_succ _
          · cases found
      | some other =>
          rw [later] at found
          cases Option.some.inj found
          exact Nat.succ_lt_succ (ih later)

omit [DecidableEq Letter] in
/-- Behind the last letter of the kind, only others follow. -/
theorem findLast_eq (kind : Letter → Bool) (text : List Letter) :
    match findLast kind text with
    | some position =>
        text.take (position + 1) = text.rdropWhile (fun letter => !kind letter) ∧
          text.rdropWhile (fun letter => !kind letter) ≠ []
    | none => text.rdropWhile (fun letter => !kind letter) = [] := by
  induction text using List.reverseRecOn with
  | nil => rfl
  | append_singleton text letter ih =>
      rw [findLast_append, List.rdropWhile_concat]
      by_cases known : kind letter = true
      · simp [findLast, known]
      · rw [Bool.not_eq_true] at known
        simp only [findLast, known, Bool.false_eq_true, if_false, Bool.not_false, if_true]
        cases found : findLast kind text with
        | none =>
            rw [found] at ih
            exact ih
        | some position =>
            rw [found] at ih
            dsimp only at ih ⊢
            refine ⟨?_, ih.2⟩
            rw [List.take_append_of_le_length (findLast_lt found)]
            exact ih.1

end AppSvr.StdString
