/-
This file adds up the rows of a table that holds at most one row for every key.
-/

import Mathlib.Algebra.BigOperators.Group.Finset.Piecewise
import Mathlib.Algebra.Order.BigOperators.Group.List

namespace AppSvr.KeyedRows

variable {Row Weight : Type*} {key : Row → Prop} [DecidablePred key]

/-- A row is the only one of its key. -/
theorem filter_eq_singleton {rows : List Row} (single : (rows.filter key).length ≤ 1) {row : Row}
    (member : row ∈ rows) (selected : key row) : rows.filter key = [row] := by
  have found : row ∈ rows.filter key := List.mem_filter.mpr ⟨member, decide_eq_true selected⟩
  cases matching : rows.filter key with
  | nil => simp [matching] at found
  | cons head tail =>
      rw [matching] at single found
      have none : tail = [] := List.eq_nil_of_length_eq_zero (by simpa using single)
      rw [none] at found ⊢
      rw [List.mem_singleton.mp found]

/-- Keys that are distinct select the first rows when they are the keys of these rows. -/
theorem filter_mem_take {Key : Type*} [DecidableEq Key] (keyOf : Row → Key) {rows : List Row}
    (distinct : (rows.map keyOf).Nodup) (count : Nat) {keys : List Key}
    (selects : ∀ row ∈ rows, keyOf row ∈ keys ↔ row ∈ rows.take count) :
    (rows.filter fun row => keyOf row ∈ keys) = rows.take count := by
  have apart : ∀ row ∈ rows.drop count, row ∉ rows.take count := by
    have nodup : (rows.take count ++ rows.drop count).Nodup := by
      rw [List.take_append_drop]
      exact distinct.of_map keyOf
    exact fun row late early => (List.nodup_append.mp nodup).2.2 row early row late rfl
  have early : ((rows.take count).filter fun row => keyOf row ∈ keys) = rows.take count := by
    refine List.filter_eq_self.mpr fun row taken => decide_eq_true ?_
    exact (selects row (List.mem_of_mem_take taken)).mpr taken
  have late : ((rows.drop count).filter fun row => keyOf row ∈ keys) = [] := by
    refine List.filter_eq_nil_iff.mpr fun row dropped selected => ?_
    exact apart row dropped ((selects row (List.mem_of_mem_drop dropped)).mp
      (of_decide_eq_true selected))
  calc (rows.filter fun row => keyOf row ∈ keys)
      = ((rows.take count ++ rows.drop count).filter fun row => keyOf row ∈ keys) := by
        rw [List.take_append_drop]
    _ = rows.take count := by rw [List.filter_append, early, late, List.append_nil]

section Frames

variable {other : Row → Prop} [DecidablePred other]

/-- Deleting the rows of a key leaves the rows of another key alone. -/
theorem filter_delete (apart : ∀ row, other row → ¬ key row) (rows : List Row) :
    (rows.filter fun row => ¬ key row).filter other = rows.filter other := by
  rw [List.filter_filter]
  apply List.filter_congr
  intro row _
  by_cases selected : other row
  · simp [selected, apart row selected]
  · simp [selected]

/-- Changing the rows of a key leaves the rows of another key alone. -/
theorem filter_update {change : Row → Row} (apart : ∀ row, other row → ¬ key row)
    (stays : ∀ row, key row → ¬ other (change row)) (rows : List Row) :
    (rows.map fun row => if key row then change row else row).filter other =
      rows.filter other := by
  induction rows with
  | nil => rfl
  | cons row rows ih =>
      rw [List.map_cons, List.filter_cons, List.filter_cons, ih]
      by_cases selected : key row
      · have before : ¬ other row := fun wrong => apart row wrong selected
        simp [selected, stays row selected, before]
      · simp [selected]

end Frames

section First

/-- Only the first row of the key changes, or it goes. -/
def changeFirst (key : Row → Prop) [DecidablePred key] (change : Row → Option Row) :
    List Row → List Row
  | [] => []
  | row :: rows =>
      if key row then (change row).toList ++ rows else row :: changeFirst key change rows

variable {change : Row → Option Row} {update : Row → Row} {rows others : List Row}
  {row changed : Row}

/-- Deleting a key takes only its first row when there is no other one. -/
theorem delete_eq_changeFirst_iff (selected : rows.filter key = row :: others)
    (gone : change row = none) :
    (rows.filter fun row => ¬ key row) = changeFirst key change rows ↔ others = [] := by
  induction rows with
  | nil => cases selected
  | cons first rows ih =>
      by_cases matching : key first
      · rw [List.filter_cons_of_pos (by simpa using matching)] at selected
        obtain ⟨rfl, rfl⟩ := List.cons.inj selected
        rw [List.filter_cons_of_neg (by simpa using matching), changeFirst, if_pos matching, gone]
        simp [List.filter_eq_self, List.filter_eq_nil_iff]
      · rw [List.filter_cons_of_neg (by simpa using matching)] at selected
        rw [List.filter_cons_of_pos (by simpa using matching), changeFirst, if_neg matching,
          List.cons_inj_right]
        exact ih selected

/-- Deleting a key is not a change of its first row. -/
theorem delete_ne_changeFirst (selected : rows.filter key = row :: others)
    (stays : change row = some changed) :
    (rows.filter fun row => ¬ key row) ≠ changeFirst key change rows := by
  induction rows with
  | nil => cases selected
  | cons first rows ih =>
      by_cases matching : key first
      · rw [List.filter_cons_of_pos (by simpa using matching)] at selected
        obtain ⟨rfl, rfl⟩ := List.cons.inj selected
        rw [List.filter_cons_of_neg (by simpa using matching), changeFirst, if_pos matching, stays]
        intro same
        have shorter := List.length_filter_le (fun row => decide ¬ key row) rows
        rw [same, Option.toList_some, List.singleton_append, List.length_cons] at shorter
        exact absurd shorter (Nat.not_succ_le_self _)
      · rw [List.filter_cons_of_neg (by simpa using matching)] at selected
        rw [List.filter_cons_of_pos (by simpa using matching), changeFirst, if_neg matching,
          Ne, List.cons_inj_right]
        exact ih selected

/-- A key whose rows all stay keeps the table. -/
theorem update_eq_self_iff :
    (rows.map fun row => if key row then update row else row) = rows ↔
      ∀ row ∈ rows.filter key, update row = row := by
  have pointwise := @List.map_inj_left _ _ rows (fun row => if key row then update row else row) id
  rw [List.map_id] at pointwise
  rw [pointwise]
  simp

/-- Updating a key changes only its first row when the update leaves the other ones. -/
theorem update_eq_changeFirst_iff (selected : rows.filter key = row :: others)
    (stays : change row = some changed) :
    (rows.map fun row => if key row then update row else row) = changeFirst key change rows ↔
      update row = changed ∧ ∀ other ∈ others, update other = other := by
  induction rows with
  | nil => cases selected
  | cons first rows ih =>
      by_cases matching : key first
      · rw [List.filter_cons_of_pos (by simpa using matching)] at selected
        obtain ⟨rfl, rfl⟩ := List.cons.inj selected
        rw [List.map_cons, if_pos matching, changeFirst, if_pos matching, stays,
          Option.toList_some, List.singleton_append, List.cons.injEq, update_eq_self_iff]
      · rw [List.filter_cons_of_neg (by simpa using matching)] at selected
        rw [List.map_cons, if_neg matching, changeFirst, if_neg matching, List.cons_inj_right]
        exact ih selected

end First

section Sums

variable [AddCommMonoid Weight] (weight : Row → Weight) {rows : List Row} {row : Row}

/-- Deleting the row of the key takes its weight out of the sum. -/
theorem sum_delete (single : rows.filter key = [row]) :
    ((rows.filter fun row => ¬ key row).map weight).sum + weight row = (rows.map weight).sum := by
  have split := List.sum_map_filter_add_sum_map_filter_not key weight rows
  rw [single, List.map_singleton, List.sum_singleton] at split
  rw [← split, add_comm]

/-- Changing the row of the key replaces its weight in the sum. -/
theorem sum_update (single : rows.filter key = [row]) (change : Row → Row) :
    ((rows.map fun row => if key row then change row else row).map weight).sum + weight row =
      (rows.map weight).sum + weight (change row) := by
  rw [List.map_map]
  have changed : (weight ∘ fun row => if key row then change row else row) =
      fun row => if key row then weight (change row) else weight row := by
    ext row
    by_cases selected : key row <;> simp [selected]
  rw [changed, List.sum_map_ite, single, List.map_singleton, List.sum_singleton,
    ← sum_delete weight single, add_assoc, add_comm]

end Sums

section Bounds

variable [AddCommMonoid Weight] [PartialOrder Weight] [IsOrderedAddMonoid Weight]
  (weight : Row → Weight) {rows : List Row}

/-- Rows without negative weights can only lower the sum when they go. -/
theorem sum_delete_le (nonneg : ∀ row ∈ rows, 0 ≤ weight row) :
    ((rows.filter fun row => ¬ key row).map weight).sum ≤ (rows.map weight).sum := by
  apply ((List.filter_sublist).map weight).sum_le_sum
  simpa using nonneg

/-- A change that raises no weight raises no sum. -/
theorem sum_update_le {change : Row → Row}
    (lower : ∀ row ∈ rows, key row → weight (change row) ≤ weight row) :
    ((rows.map fun row => if key row then change row else row).map weight).sum ≤
      (rows.map weight).sum := by
  rw [List.map_map]
  apply List.sum_le_sum
  intro row member
  by_cases selected : key row
  · simpa [selected] using lower row member selected
  · simp [selected]

end Bounds

end AppSvr.KeyedRows

namespace AppSvr.TableSums

open scoped BigOperators

variable {Key Row Weight : Type*} [Fintype Key] [DecidableEq Key] [AddCommMonoid Weight]
  (weight : Row → Weight) (table : Key → Option Row)

/-- A missing row weighs nothing. -/
def tableSum : Weight := ∑ key, (table key).elim 0 weight

/-- Writing one row replaces its weight in the sum. -/
theorem tableSum_update (key : Key) (row : Option Row) :
    tableSum weight (Function.update table key row) + (table key).elim 0 weight =
      tableSum weight table + row.elim 0 weight := by
  have written : (fun other => (Function.update table key row other).elim 0 weight) =
      Function.update (fun other => (table other).elim 0 weight) key (row.elim 0 weight) := by
    ext other
    by_cases same : other = key
    · subst same
      simp
    · simp [Function.update_of_ne same]
  have before := Finset.add_sum_erase Finset.univ (fun other => (table other).elim 0 weight)
    (Finset.mem_univ key)
  rw [tableSum, tableSum, written, Finset.sum_update_of_mem (Finset.mem_univ key),
    Finset.sdiff_singleton_eq_erase, ← before]
  ac_rfl

/-- Writing one entry of a list replaces its weight in the sum. -/
theorem sum_map_set {Entry Weight : Type*} [AddCommMonoid Weight] (weight : Entry → Weight)
    {entries : List Entry} {index : Nat} {old : Entry} (found : entries[index]? = some old)
    (new : Entry) :
    ((entries.set index new).map weight).sum + weight old =
      (entries.map weight).sum + weight new := by
  induction entries generalizing index with
  | nil => cases found
  | cons first rest ih =>
      cases index with
      | zero =>
          obtain rfl := Option.some.inj found
          simp only [List.set_cons_zero, List.map_cons, List.sum_cons]
          ac_rfl
      | succ index =>
          simp only [List.set_cons_succ, List.map_cons, List.sum_cons, add_assoc, ih found]

end AppSvr.TableSums
