/-
This file takes rows from the front of a list until their weights reach a wanted total, and says
when the total is met exactly.
-/

import Mathlib.Algebra.BigOperators.Group.List.Basic
import Mathlib.Algebra.Ring.Nat

namespace AppSvr.WeightedPrefix

variable {Row : Type*} (weight : Row → Nat)

variable (want : Nat) (rows : List Row)

def weightOf : Nat := (rows.map weight).sum

/-- A row is taken while something is still wanted. -/
def reach : Nat → List Row → List Row
  | _, [] => []
  | want, row :: rest => if want = 0 then [] else row :: reach (want - weight row) rest

@[simp] theorem weightOf_nil : weightOf weight [] = 0 := rfl

@[simp] theorem weightOf_cons (row : Row) (rest : List Row) :
    weightOf weight (row :: rest) = weight row + weightOf weight rest := rfl

@[simp] theorem weightOf_append (rows others : List Row) :
    weightOf weight (rows ++ others) = weightOf weight rows + weightOf weight others := by
  simp [weightOf]

theorem weightOf_perm {rows others : List Row} (same : rows.Perm others) :
    weightOf weight rows = weightOf weight others :=
  (same.map weight).sum_eq

/-- The rows of a property and the other rows add up to all rows. -/
theorem weightOf_filter (property : Row → Prop) [DecidablePred property] (rows : List Row) :
    weightOf weight (rows.filter fun row => ¬ property row) +
        weightOf weight (rows.filter property) = weightOf weight rows := by
  induction rows with
  | nil => rfl
  | cons row rest inductive_hypothesis =>
      by_cases selected : property row
      · simp only [List.filter_cons, selected, weightOf_cons]
        simp only [not_true_eq_false, decide_false, decide_true, if_true, weightOf_cons]
        grind
      · simp only [List.filter_cons, selected, weightOf_cons]
        simp only [not_false_eq_true, decide_false, decide_true, if_true, weightOf_cons]
        grind

/-- Rows that are left out count nothing. -/
theorem weightOf_of_filter (property : Row → Prop) [DecidablePred property] (rows : List Row) :
    weightOf weight (rows.filter property) =
      weightOf (fun row => if property row then weight row else 0) rows := by
  induction rows with
  | nil => rfl
  | cons row rest inductive_hypothesis =>
      by_cases selected : property row
      · rw [List.filter_cons_of_pos (by exact decide_eq_true selected), weightOf_cons,
          weightOf_cons, inductive_hypothesis, if_pos selected]
      · rw [List.filter_cons_of_neg (by simpa using selected), weightOf_cons,
          inductive_hypothesis, if_neg selected, Nat.zero_add]

theorem weightOf_congr {other : Row → Nat} {rows : List Row}
    (same : ∀ row ∈ rows, weight row = other row) : weightOf weight rows = weightOf other rows :=
  congrArg List.sum (List.map_congr_left same)

@[simp] theorem reach_nil : reach weight want [] = [] := by
  cases want <;> rfl

@[simp] theorem reach_zero : reach weight 0 rows = [] := by
  cases rows <;> rfl

theorem reach_cons {want : Nat} (wanted : want ≠ 0) (row : Row) (rest : List Row) :
    reach weight want (row :: rest) = row :: reach weight (want - weight row) rest :=
  if_neg wanted

theorem reach_eq_take : ∃ count, reach weight want rows = rows.take count := by
  induction rows generalizing want with
  | nil => exact ⟨0, by simp⟩
  | cons row rest inductive_hypothesis =>
      by_cases wanted : want = 0
      · exact ⟨0, by simp [wanted]⟩
      · obtain ⟨count, taken⟩ := inductive_hypothesis (want - weight row)
        exact ⟨count + 1, by rw [reach_cons weight wanted, taken, List.take_succ_cons]⟩

theorem weightOf_of_ones {rows : List Row} (ones : ∀ row ∈ rows, weight row = 1) :
    weightOf weight rows = rows.length := by
  induction rows with
  | nil => rfl
  | cons row rest inductive_hypothesis =>
      rw [weightOf_cons, ones row List.mem_cons_self, List.length_cons, Nat.add_comm,
        inductive_hypothesis fun row member => ones row (List.mem_cons_of_mem _ member)]

/-- Rows of weight one are counted. -/
theorem reach_of_ones {rows : List Row} (ones : ∀ row ∈ rows, weight row = 1) (want : Nat) :
    reach weight want rows = rows.take want := by
  induction rows generalizing want with
  | nil => simp
  | cons row rest inductive_hypothesis =>
      cases want with
      | zero => simp
      | succ want =>
          rw [reach_cons weight (Nat.succ_ne_zero want), ones row List.mem_cons_self,
            Nat.succ_sub_one, List.take_succ_cons,
            inductive_hypothesis fun row member => ones row (List.mem_cons_of_mem _ member)]

theorem weightOf_reach_le : weightOf weight (reach weight want rows) ≤ weightOf weight rows := by
  obtain ⟨count, taken⟩ := reach_eq_take weight want rows
  have split := weightOf_append weight (rows.take count) (rows.drop count)
  rw [List.take_append_drop] at split
  rw [taken]
  omega

/-- The wanted total is reached if all the rows together reach it. -/
theorem le_weightOf_reach_iff :
    want ≤ weightOf weight (reach weight want rows) ↔ want ≤ weightOf weight rows := by
  refine ⟨fun reached => reached.trans (weightOf_reach_le weight want rows), fun enough => ?_⟩
  induction rows generalizing want with
  | nil => simpa using enough
  | cons row rest inductive_hypothesis =>
      by_cases wanted : want = 0
      · omega
      · rw [weightOf_cons] at enough
        rw [reach_cons weight wanted, weightOf_cons]
        have reached := inductive_hypothesis (want - weight row) (by omega)
        omega

/-- The rows that are taken meet the wanted total if some of the first rows do. -/
theorem weightOf_reach_eq_iff : weightOf weight (reach weight want rows) = want ↔
      ∃ count, weightOf weight (rows.take count) = want := by
  constructor
  · intro met
    obtain ⟨count, taken⟩ := reach_eq_take weight want rows
    exact ⟨count, by rw [← taken, met]⟩
  · rintro ⟨count, met⟩
    induction rows generalizing want count with
    | nil => simpa using met
    | cons row rest inductive_hypothesis =>
        by_cases wanted : want = 0
        · simp [wanted]
        · cases count with
          | zero => exact absurd met.symm wanted
          | succ count =>
              rw [List.take_succ_cons, weightOf_cons] at met
              rw [reach_cons weight wanted, weightOf_cons,
                inductive_hypothesis (want - weight row) count (by omega)]
              omega

end AppSvr.WeightedPrefix
