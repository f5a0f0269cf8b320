/-
This file defines tables that hold at most one row for every key, with the statements that read and
change them.
-/

import Mathlib.Data.List.Nodup

namespace AppSvr

universe u v

/-- No two rows have the same key. -/
structure KeyedTable {Row : Type u} {Key : Type v} (key : Row → Key) where
  rows : List Row
  distinct : (rows.map key).Nodup

namespace KeyedTable

variable {Row : Type u} {Key : Type v} {key : Row → Key}

@[ext] theorem ext {first second : KeyedTable key} (same : first.rows = second.rows) :
    first = second := by
  cases first
  cases second
  cases same
  rfl

instance [DecidableEq Row] : DecidableEq (KeyedTable key) := fun first second =>
  decidable_of_iff (first.rows = second.rows) ⟨KeyedTable.ext, congrArg KeyedTable.rows⟩

def empty : KeyedTable key := ⟨[], List.nodup_nil⟩

variable [DecidableEq Key]

def find (table : KeyedTable key) (index : Key) : Option Row :=
  table.rows.find? fun row => key row = index

variable (table : KeyedTable key)

/-- The rows that match are the ones that stay. -/
def keep (matching : Row → Prop) [DecidablePred matching] : KeyedTable key where
  rows := table.rows.filter matching
  distinct := table.distinct.sublist (List.filter_sublist.map _)

/-- No change touches a key. -/
def change (f : Row → Row) (keeps : ∀ row, key (f row) = key row) : KeyedTable key where
  rows := table.rows.map f
  distinct := by
    have same : key ∘ f = key := funext keeps
    rw [List.map_map, same]
    exact table.distinct

/-- A second row for a key is refused. -/
def insert (row : Row) : Option (KeyedTable key) :=
  if fresh : key row ∈ table.rows.map key then none
  else some ⟨table.rows ++ [row], by
    rw [List.map_append]
    exact table.distinct.append (List.nodup_singleton _)
      (List.disjoint_singleton.mpr fresh)⟩

/-- Changing the row of one key changes only what this row counts. -/
theorem countP_change {rows : List Row} (distinct : (rows.map key).Nodup) {row : Row}
    (member : row ∈ rows) (f : Row → Row) (counted : Row → Bool) :
    (rows.map fun other => if key other = key row then f other else other).countP counted +
        (if counted row then 1 else 0) =
      rows.countP counted + if counted (f row) then 1 else 0 := by
  induction rows with
  | nil => cases member
  | cons head rest ih =>
      rw [List.map_cons, List.nodup_cons] at distinct
      simp only [List.map_cons, List.countP_cons]
      rcases List.mem_cons.mp member with rfl | later
      · have kept : ∀ other ∈ rest, (if key other = key row then f other else other) = other := by
          intro other stored
          rw [if_neg]
          intro same
          exact distinct.1 (same ▸ List.mem_map_of_mem stored)
        rw [(List.map_congr_left kept).trans (List.map_id' rest), if_pos rfl]
        omega
      · have differs : key head ≠ key row := by
          intro same
          exact distinct.1 (same ▸ List.mem_map_of_mem later)
        have rows := ih distinct.2 later
        rw [if_neg differs]
        omega

variable {table next : KeyedTable key} {row : Row} {index : Key}

theorem find_eq_some_iff : table.find index = some row ↔ row ∈ table.rows ∧ key row = index := by
  constructor
  · intro found
    exact ⟨List.mem_of_find?_eq_some found, by simpa using List.find?_some found⟩
  · rintro ⟨member, rfl⟩
    cases found : table.find (key row) with
    | none =>
        have missing := List.find?_eq_none.mp found row member
        simp at missing
    | some other =>
        have same : key other = key row := by simpa using List.find?_some found
        rw [List.inj_on_of_nodup_map table.distinct (List.mem_of_find?_eq_some found) member same]

theorem find_eq_none_iff : table.find index = none ↔ ∀ row ∈ table.rows, key row ≠ index := by
  simp [find]

/-- A key selects only the row that is found. -/
theorem filter_eq_singleton (found : table.find index = some row) :
    (table.rows.filter fun row => key row = index) = [row] := by
  obtain ⟨member, rfl⟩ := find_eq_some_iff.mp found
  obtain ⟨before, after, split⟩ := List.append_of_mem member
  have distinct := table.distinct
  rw [split, List.map_append, List.map_cons] at distinct
  have outside (rest : List Row) (apart : key row ∉ rest.map key) :
      (rest.filter fun other => key other = key row) = [] := by
    rw [List.filter_eq_nil_iff]
    intro other member same
    apply apart
    rw [← of_decide_eq_true same]
    exact List.mem_map_of_mem member
  have fresh := List.nodup_middle.mp distinct
  rw [List.nodup_cons, List.mem_append, not_or] at fresh
  rw [split, List.filter_append, outside before fresh.1.1, List.filter_cons,
    if_pos (decide_eq_true rfl), outside after fresh.1.2, List.nil_append]

theorem find_key (found : table.find index = some row) : key row = index :=
  (find_eq_some_iff.mp found).2

/-- Deleting rows hides them. -/
theorem find_keep (matching : Row → Prop) [DecidablePred matching] :
    (table.keep matching).find index = (table.find index).filter matching := by
  cases found : table.find index with
  | none =>
      rw [find_eq_none_iff] at found
      rw [Option.filter_none, find_eq_none_iff]
      intro row member
      exact found row (List.mem_of_mem_filter member)
  | some row =>
      obtain ⟨member, rfl⟩ := find_eq_some_iff.mp found
      by_cases stays : matching row
      · rw [Option.filter_some_pos (by simpa using stays), find_eq_some_iff]
        exact ⟨List.mem_filter.mpr ⟨member, by simpa using stays⟩, rfl⟩
      · rw [Option.filter_some_neg (by simpa using stays), find_eq_none_iff]
        intro other kept same
        have both := List.mem_filter.mp kept
        obtain rfl := List.inj_on_of_nodup_map table.distinct both.1 member same
        exact stays (by simpa using both.2)

theorem find_change (f : Row → Row) (keeps : ∀ row, key (f row) = key row) :
    (table.change f keeps).find index = (table.find index).map f := by
  rw [find, find, change, List.find?_map]
  have same : (fun row => decide (key row = index)) ∘ f = fun row => decide (key row = index) := by
    funext row
    simp [keeps]
  rw [same]

theorem insert_eq_some (inserted : table.insert row = some next) :
    table.find (key row) = none ∧ next.rows = table.rows ++ [row] := by
  unfold insert at inserted
  split_ifs at inserted with fresh
  cases inserted
  refine ⟨?_, rfl⟩
  rw [find_eq_none_iff]
  intro other member same
  exact fresh (List.mem_map.mpr ⟨other, member, same⟩)

theorem insert_isSome (fresh : table.find (key row) = none) :
    ∃ next, table.insert row = some next := by
  rw [find_eq_none_iff] at fresh
  have absent : key row ∉ table.rows.map key := by
    intro member
    obtain ⟨other, stored, same⟩ := List.mem_map.mp member
    exact fresh other stored same
  exact ⟨_, dif_neg absent⟩

theorem find_insert (inserted : table.insert row = some next) :
    next.find index = if key row = index then some row else table.find index := by
  obtain ⟨fresh, rows⟩ := insert_eq_some inserted
  rw [find, rows, List.find?_append]
  split_ifs with same
  · subst same
    rw [find] at fresh
    simp [fresh]
  · simp [same, find]

end KeyedTable

end AppSvr
