/-
This file proves when the row pointer of a statement object agrees with the cursor of its last
select.
-/

import AppSvr.Construction.BaseDB.DBOperate

namespace AppSvr.BaseDB

open TransitionSystem

variable {Handle Row : Type*}

namespace QueryOutcome

/-- The rows that a select returns to a connected object. -/
def rows (connected : Bool) : QueryOutcome Row → List Row
  | .stored rows _ => if connected then rows else []
  | .failed | .unstored => []

end QueryOutcome

/-- A call moves the cursor over the rows that are left. Only a select brings new rows, and freeing
the result set moves no cursor. -/
def Call.advance (connected : Bool) (left : List Row) : Call Handle Row → List Row
  | .querySQL outcome => outcome.rows connected
  | .exceSQL _ => []
  | .nextRow => left.tail
  | .setHandle _ | .freeResult => left

namespace DBOperate

/-- The rows that the cursor of the last statement has not passed. -/
def cursor (history : History (DBOperate Handle Row) (Call Handle Row)) : List Row :=
  history.foldl (fun left entry => entry.2.advance entry.1.mysql.isSome left) []

/-- The call is a successful select. -/
def Selects (dbo : DBOperate Handle Row) : Call Handle Row → Prop
  | .querySQL (.stored _ _) => dbo.mysql.isSome = true
  | _ => False

/-- A statement other than a successful select finds no old row, and so does a call of `NextRow`
without a result set. -/
def Careful (dbo : DBOperate Handle Row) (call : Call Handle Row) : Prop :=
  match call with
  | .querySQL _ => dbo.Selects call ∨ dbo.record = none
  | .exceSQL _ => dbo.record = none
  | .nextRow => dbo.results.isSome = true ∨ dbo.record = none
  | .setHandle _ | .freeResult => True

instance (dbo : DBOperate Handle Row) : (call : Call Handle Row) → Decidable (dbo.Selects call)
  | .querySQL (.stored _ _) => inferInstanceAs (Decidable (_ = true))
  | .querySQL .failed | .querySQL .unstored | .exceSQL _ | .nextRow | .setHandle _ | .freeResult =>
      inferInstanceAs (Decidable False)

instance [DecidableEq Row] (dbo : DBOperate Handle Row) :
    (call : Call Handle Row) → Decidable (dbo.Careful call)
  | .querySQL _ => inferInstanceAs (Decidable (dbo.Selects _ ∨ _ = none))
  | .exceSQL _ => inferInstanceAs (Decidable (_ = none))
  | .nextRow => inferInstanceAs (Decidable (_ = true ∨ _ = none))
  | .setHandle _ | .freeResult => inferInstanceAs (Decidable True)

/-- The pointer shows the first row that is left, and the result set holds the other ones. -/
structure Shows (dbo : DBOperate Handle Row) (left : List Row) : Prop where
  record : dbo.record = left.head?
  results : ∀ rest, dbo.results = some rest → rest = left.tail

variable {dbo next : DBOperate Handle Row} {call : Call Handle Row} {left : List Row}
  {history : History (DBOperate Handle Row) (Call Handle Row)}

theorem cursor_append : cursor (history ++ [(dbo, call)]) =
    call.advance dbo.mysql.isSome (cursor history) := by
  rw [cursor, List.foldl_append]
  rfl

theorem Shows.hasRowData (shows_ : dbo.Shows left) : dbo.hasRowData = true ↔ left ≠ [] := by
  rw [DBOperate.hasRowData, shows_.record]
  cases left <;> simp

variable {outcome : QueryOutcome Row}

theorem querySQL_failed (failed : ¬ dbo.Selects (.querySQL outcome)) :
    (dbo.querySQL outcome).1 = dbo.freeResult := by
  cases outcome with
  | failed | unstored => cases mysql : dbo.mysql <;> simp [querySQL, freeResult, mysql]
  | stored rows fieldNum =>
      have disconnected : dbo.mysql = none := by simpa [Selects] using failed
      simp [querySQL, freeResult, disconnected]

theorem rows_failed (failed : ¬ dbo.Selects (.querySQL outcome)) :
    outcome.rows dbo.mysql.isSome = [] := by
  cases outcome with
  | failed | unstored => rfl
  | stored rows fieldNum =>
      have disconnected : dbo.mysql = none := by simpa [Selects] using failed
      simp [QueryOutcome.rows, disconnected]

/-- A successful select shows its rows whatever the object did before. -/
theorem querySQL_shows (selects : dbo.Selects (.querySQL outcome)) :
    (dbo.querySQL outcome).1.Shows (outcome.rows dbo.mysql.isSome) ∧
      (dbo.querySQL outcome).1.results.isSome = true := by
  cases outcome with
  | failed | unstored => cases selects
  | stored rows fieldNum =>
      obtain ⟨handle, connected⟩ := Option.isSome_iff_exists.mp selects
      refine ⟨⟨?_, ?_⟩, ?_⟩ <;> simp [querySQL, freeResult, connected, QueryOutcome.rows]

theorem exceSQL_kept (outcome : ExceOutcome) : (dbo.exceSQL outcome).1.record = dbo.record ∧
    (dbo.exceSQL outcome).1.results = none := by
  cases outcome <;> cases mysql : dbo.mysql <;> simp [exceSQL, freeResult, mysql]

/-- A careful call keeps the pointer on the cursor. -/
theorem step_shows (shows_ : dbo.Shows left) (careful : dbo.Careful call)
    (enabled : dbo.step call = some next) :
    next.Shows (call.advance dbo.mysql.isSome left) := by
  cases call with
  | setHandle input =>
      cases enabled
      exact ⟨shows_.record, shows_.results⟩
  | freeResult =>
      cases enabled
      exact ⟨shows_.record, by simp [freeResult]⟩
  | querySQL outcome =>
      cases enabled
      by_cases selects : dbo.Selects (.querySQL outcome)
      · exact (querySQL_shows selects).1
      · have empty : dbo.record = none := careful.resolve_left selects
        rw [querySQL_failed selects, Call.advance, rows_failed selects]
        exact ⟨empty, by simp [freeResult]⟩
  | exceSQL outcome =>
      cases enabled
      obtain ⟨record, results⟩ : (dbo.exceSQL outcome).1.record = dbo.record ∧
          (dbo.exceSQL outcome).1.results = none := exceSQL_kept outcome
      refine ⟨record.trans careful, ?_⟩
      intro rest stored
      rw [results] at stored
      cases stored
  | nextRow =>
      cases enabled
      unfold nextRow
      cases results : dbo.results with
      | none =>
          have empty : dbo.record = none := careful.resolve_left (by simp [results])
          have ended : left = [] := List.head?_eq_none_iff.mp (shows_.record.symm.trans empty)
          subst ended
          exact ⟨empty, by simp [results]⟩
      | some rest =>
          obtain rfl := shows_.results rest results
          refine ⟨rfl, ?_⟩
          intro rest stored
          exact (Option.some.inj stored).symm

/-- The pointer shows the cursor, or it is still what the constructor found. -/
def Tracks (record : Option Row) (history : History (DBOperate Handle Row) (Call Handle Row))
    (dbo : DBOperate Handle Row) : Prop :=
  ((record = none ∨ ∃ entry ∈ history, entry.1.Selects entry.2) ∧ dbo.Shows (cursor history)) ∨
    (record ≠ none ∧ (∀ entry ∈ history, ¬ entry.1.Selects entry.2) ∧ dbo.record = record ∧
      dbo.results = none ∧ cursor history = [])

theorem step_tracks {record : Option Row} (tracks : Tracks record history dbo)
    (careful : dbo.Careful call) (enabled : dbo.step call = some next) :
    Tracks record (history ++ [(dbo, call)]) next := by
  rcases tracks with ⟨known, shows_⟩ | ⟨garbage, unselected, same, unstored, empty⟩
  · refine .inl ⟨?_, ?_⟩
    · rcases known with clean | ⟨entry, member, selects⟩
      · exact .inl clean
      · exact .inr ⟨entry, List.mem_append_left _ member, selects⟩
    · rw [cursor_append]
      exact step_shows shows_ careful enabled
  · have present : dbo.record ≠ none := by rwa [same]
    by_cases selects : dbo.Selects call
    · refine .inl ⟨.inr ⟨_, List.mem_append_right _ (List.mem_singleton_self _), selects⟩, ?_⟩
      rw [cursor_append]
      cases call with
      | querySQL outcome =>
          cases enabled
          exact (querySQL_shows selects).1
      | setHandle | exceSQL | freeResult | nextRow => cases selects
    · refine .inr ⟨garbage, ?_, ?_⟩
      · intro entry member
        rcases List.mem_append.mp member with old | new
        · exact unselected entry old
        · rw [List.mem_singleton.mp new]
          exact selects
      · rw [cursor_append, empty]
        cases call with
        | setHandle input =>
            cases enabled
            exact ⟨same, unstored, rfl⟩
        | freeResult =>
            cases enabled
            exact ⟨same, rfl, rfl⟩
        | querySQL outcome => exact absurd (careful.resolve_left selects) present
        | exceSQL outcome => exact absurd careful present
        | nextRow => exact absurd (careful.resolve_left (by simp [unstored])) present

section Loops

/-- The loop reads every row that is left. -/
theorem rounds_shows (shows_ : dbo.Shows left) (stored : dbo.results.isSome = true) :
    rounds (left.length + 1) dbo = some left.length := by
  induction left generalizing dbo with
  | nil => simp [rounds, DBOperate.hasRowData, shows_.record]
  | cons row left ih =>
      have present : dbo.hasRowData = true := shows_.hasRowData.mpr (List.cons_ne_nil _ _)
      obtain ⟨rest, results⟩ := Option.isSome_iff_exists.mp stored
      rw [shows_.results rest results, List.tail_cons] at results
      have moved : dbo.nextRow.Shows left := by
        simp only [nextRow, results]
        refine ⟨rfl, ?_⟩
        intro rest stored
        exact (Option.some.inj stored).symm
      rw [List.length_cons, rounds, if_pos present, ih moved (by simp [nextRow, results])]
      rfl

/-- A stale pointer without a result set is never moved. -/
theorem rounds_stale (fuel : Nat) (freed : dbo.results = none) (present : dbo.record ≠ none) :
    rounds fuel dbo = none := by
  induction fuel with
  | zero => rfl
  | succ fuel ih =>
      have shown : dbo.hasRowData = true := Option.isSome_iff_ne_none.mpr present
      have stuck : dbo.nextRow = dbo := by simp [nextRow, freed]
      rw [rounds, if_pos shown, stuck, ih]
      rfl

/-- The loop behind a select ends after as many rounds as the select returned rows exactly when the
select is careful. -/
theorem loop_ends_iff (dbo : DBOperate Handle Row) (outcome : QueryOutcome Row) :
    (∃ fuel, rounds fuel (dbo.querySQL outcome).1 =
      some (outcome.rows dbo.mysql.isSome).length) ↔ dbo.Careful (.querySQL outcome) := by
  constructor
  · rintro ⟨fuel, ended⟩
    by_contra careless
    obtain ⟨selects, present⟩ := not_or.mp careless
    have released : dbo.freeResult.results = none := rfl
    rw [querySQL_failed selects, rounds_stale fuel released present] at ended
    cases ended
  · rintro (selects | empty)
    · obtain ⟨shows_, stored⟩ := querySQL_shows selects
      exact ⟨_, rounds_shows shows_ stored⟩
    · by_cases selects : dbo.Selects (.querySQL outcome)
      · obtain ⟨shows_, stored⟩ := querySQL_shows selects
        exact ⟨_, rounds_shows shows_ stored⟩
      · refine ⟨1, ?_⟩
        rw [querySQL_failed selects, rows_failed selects]
        simp [rounds, DBOperate.hasRowData, freeResult, empty]

end Loops

/-- In a careful run the pointer agrees with the cursor exactly when the constructor found no row or
a select has succeeded, and a loop reads its rows exactly when its select is careful. -/
theorem run_hasRowData_iff {record : Option Row} {final : DBOperate Handle Row}
    (run : Run step Careful (new record) history final) :
    ((final.hasRowData = true ↔ cursor history ≠ []) ↔
        record = none ∨ ∃ entry ∈ history, entry.1.Selects entry.2) ∧
      ∀ outcome : QueryOutcome Row, (∃ fuel, rounds fuel (final.querySQL outcome).1 =
        some (outcome.rows final.mysql.isSome).length) ↔ final.Careful (.querySQL outcome) := by
  refine ⟨?_, loop_ends_iff final⟩
  have tracks : Tracks record history final := by
    apply run.historyInvariant (Tracks record)
    · by_cases clean : record = none
      · exact .inl ⟨.inl clean, clean, by simp [new]⟩
      · exact .inr ⟨clean, by simp, rfl, rfl, rfl⟩
    · intro history dbo call next tracks careful enabled
      exact step_tracks tracks careful enabled
  rcases tracks with ⟨known, shows_⟩ | ⟨garbage, unselected, same, -, empty⟩
  · exact iff_of_true shows_.hasRowData known
  · have shown : final.hasRowData = true := by
      rw [DBOperate.hasRowData, same]
      exact Option.isSome_iff_ne_none.mpr garbage
    apply iff_of_false
    · intro agrees
      exact agrees.mp shown empty
    · rintro (clean | ⟨entry, member, selects⟩)
      · exact garbage clean
      · exact unselected entry member selects

/-- A clean object reads two rows and then updates a table. -/
theorem run_hasRowData_iff_rows : ∃ (history : History (DBOperate Nat Nat) (Call Nat Nat))
    (final : DBOperate Nat Nat), Run step Careful (new none) history final ∧
      final.rowNum = 2 ∧ (final.hasRowData = true ↔ cursor history ≠ []) := by
  obtain ⟨history, final, run, rows⟩ := exists_run_of_replay step Careful
    (new none : DBOperate Nat Nat) [.setHandle (some 1), .querySQL (.stored [7, 8] 1), .nextRow,
      .nextRow, .exceSQL (.executed 1)] (fun _ final => final.rowNum = 2) (by decide +kernel)
  exact ⟨history, final, run, of_decide_eq_true rows, (run_hasRowData_iff run).1.mpr (.inl rfl)⟩

/-- The pointer outlives a select whose successor fails. -/
theorem run_hasRowData_stale :
    ¬ ∀ (history : History (DBOperate Nat Nat) (Call Nat Nat)) (final : DBOperate Nat Nat),
      Run step anyEvent (new none) history final →
        (final.hasRowData = true ↔ cursor history ≠ []) := by
  intro claim
  obtain ⟨history, final, run, stale⟩ := exists_run_of_replay step anyEvent
    (new none : DBOperate Nat Nat) [.setHandle (some 1), .querySQL (.stored [7] 1),
      .querySQL .failed] (fun history final => final.hasRowData = true ∧ cursor history = [])
    (by decide +kernel)
  obtain ⟨shown, empty⟩ := of_decide_eq_true stale
  exact (claim history final run).mp shown empty

end DBOperate

end AppSvr.BaseDB
