/-
This file shows when a request for one task leaves the other tasks alone.
-/

import AppSvr.Proof.MainServer.TaskFrames

namespace AppSvr.MainServer

open Programs

/-- The rows of the other roles stay, and so do the other rows of the role up to a status that
follows from finished details. -/
def RowsKept (roleID taskID : UInt32) (visited : List TaskSvc) (before after : TaskSvc) : Prop :=
  ∀ key, key ≠ (roleID, taskID) →
    (before.roleTask.find key = none → after.roleTask.find key = none) ∧
    ∀ row, before.roleTask.find key = some row → ∃ next, after.roleTask.find key = some next ∧
      (next = row ∨ key.1 = roleID ∧ row.finishStatus = 0 ∧ next = { row with finishStatus := 1 } ∧
        ∃ middle ∈ visited, middle.AllFinished roleID key.2)

/-- The details without the ones of a task. -/
def TaskSvc.otherDetails (svc : TaskSvc) (roleID taskID : UInt32) : List RoleTaskDetail :=
  svc.roleTaskDetail.rows.filter fun row => ¬ row.Named roleID taskID

def DetailsKept (roleID taskID : UInt32) (before after : TaskSvc) : Prop :=
  List.Forall₂ (RoleTaskDetail.Reallocated roleID) (before.otherDetails roleID taskID)
    (after.otherDetails roleID taskID)

namespace Rechecked

variable {roleID taskID : UInt32} {statements : List TaskStatement}
  {visited seen : List TaskSvc} {svc base after : TaskSvc}

/-- Only an automatic delivery touches more than the status of another task. -/
theorem rowsKept_iff (rechecked : Rechecked roleID statements visited base after)
    (same : ∀ key, key ≠ (roleID, taskID) → base.roleTask.find key = svc.roleTask.find key)
    (within : ∀ middle ∈ visited, middle ∈ seen) :
    RowsKept roleID taskID seen svc after ↔
      ∀ other, other ≠ taskID → .finishRoleTask roleID other 2 1 ∉ statements := by
  constructor
  · intro kept other differs member
    obtain ⟨row, next, found, -, stored, counted⟩ := rechecked.delivered other member
    have key : (roleID, other) ≠ (roleID, taskID) := fun equal => differs (Prod.mk.inj equal).2
    rw [same _ key] at found
    obtain ⟨last, ended, kinds⟩ := (kept _ key).2 row found
    rw [stored] at ended
    cases ended
    rcases kinds with rfl | ⟨-, -, rfl, -⟩ <;> exact absurd counted (Nat.lt_irrefl _)
  · intro never key differs
    rw [← same key differs]
    refine ⟨rechecked.absent key, ?_⟩
    intro row found
    obtain ⟨next, stored, followed⟩ := rechecked.kept key row found
    refine ⟨next, stored, ?_⟩
    have named := KeyedTable.find_key found
    by_cases role : row.roleID = roleID
    · have task : row.taskID ≠ taskID := by
        rintro rfl
        rw [← role] at differs
        exact differs named.symm
      rcases followed.follows (never _ task) with rfl | ⟨zero, equal, middle, visit, finished⟩
      · exact Or.inl rfl
      · right
        rw [← named]
        exact ⟨role, zero, equal, middle, within middle visit, finished⟩
    · exact Or.inl (followed.other role)

theorem otherDetails_forall₂ (taskID : UInt32)
    (rechecked : Rechecked roleID statements visited base after) :
    List.Forall₂ (RoleTaskDetail.Reallocated roleID) (base.otherDetails roleID taskID)
      (after.otherDetails roleID taskID) := by
  obtain ⟨f, mapped, kept⟩ := rechecked.details
  rw [TaskSvc.otherDetails, TaskSvc.otherDetails, mapped, List.filter_map,
    List.forall₂_map_right_iff]
  have same : base.roleTaskDetail.rows.filter
      ((fun row => decide (¬ row.Named roleID taskID)) ∘ f) =
      base.roleTaskDetail.rows.filter fun row => decide (¬ row.Named roleID taskID) := by
    apply List.filter_congr
    intro row member
    simp only [Function.comp_apply, (kept row member).named]
  rw [same, List.forall₂_same]
  intro row member
  exact kept row (List.mem_of_mem_filter member)

/-- The re-check itself deletes nothing. -/
theorem detailsKept_iff (rechecked : Rechecked roleID statements visited base after)
    (fewer : (base.otherDetails roleID taskID).Sublist (svc.otherDetails roleID taskID)) :
    DetailsKept roleID taskID svc after ↔
      base.otherDetails roleID taskID = svc.otherDetails roleID taskID := by
  have map := rechecked.otherDetails_forall₂ taskID
  constructor
  · intro kept
    apply fewer.eq_of_length
    rw [map.length_eq, kept.length_eq]
  · intro same
    rw [DetailsKept, ← same]
    exact map

end Rechecked

/-- These statements register a task. -/
def TaskStatement.Records : TaskStatement → Prop
  | .selectRoleTask _ _ | .cleanDetails _ _ | .toDoScript _ _ | .insertDetail _ _ _
  | .deleteRoleTask _ _ | .restartRoleTask _ _ | .insertRoleTask _ _ => True
  | _ => False

namespace TaskProgram

section Traces

variable (scripts : TaskScripts) (svc : TaskSvc) (roleID taskID : UInt32) (task : Task)

theorem addGoals_records (goals : List TaskGoal) :
    (addGoals roleID taskID goals).Only TaskStatement.Records := by
  induction goals with
  | nil => trivial
  | cons goal goals ih => exact ⟨trivial, fun _ => ih⟩

theorem registerTask_records :
    (registerTask scripts roleID task).Only TaskStatement.Records := by
  refine Program.Only.first trivial fun before => Program.Only.first trivial fun _ =>
    Program.Only.first trivial fun svc => ?_
  apply (addGoals_records roleID task.taskID _).bind
  intro _
  dsimp only
  have record (hasRecord : Bool) : (if hasRecord then
      (.statement (.restartRoleTask roleID task.taskID) fun _ => .done 0 : TaskProgram UInt32)
      else .statement (.insertRoleTask roleID task.taskID) fun _ => .done 0).Only
        TaskStatement.Records := by
    cases hasRecord <;> exact ⟨trivial, fun _ => trivial⟩
  split
  · trivial
  · split
    · exact ⟨trivial, fun _ => record _⟩
    · exact record _

/-- The program behind the script of the task. -/
def behindScript : TaskProgram UInt32 :=
  if scripts.execCanAcceptScript svc roleID task.canAcceptScript = 0 then
    (registerTask scripts roleID task).bind fun code =>
      if code ≠ 0 then .done code else recheckTask roleID task.taskID
  else recheckTask roleID task.taskID

end Traces

end TaskProgram

namespace TaskSvc

section Records

variable (scripts : TaskScripts) (svc : TaskSvc) (roleID taskID : UInt32) (task : Task)

/-- The clean-up spares all rows if some role has the number of the task. -/
def Spares : Prop := ∃ other ∈ svc.roleTask.rows, other.roleID = taskID

theorem cleanDetails_rows_of_spares (spares : svc.Spares taskID) :
    (svc.cleanDetails roleID taskID).roleTaskDetail.rows = svc.roleTaskDetail.rows := by
  obtain ⟨other, stored, same⟩ := spares
  apply List.filter_eq_self.mpr
  intro row member
  rw [decide_eq_true_iff]
  intro cleaned
  exact cleaned.2 other stored same

theorem cleanDetails_rows_of_not_spares (spares : ¬ svc.Spares taskID) :
    (svc.cleanDetails roleID taskID).roleTaskDetail.rows =
      svc.roleTaskDetail.rows.filter fun row => row.roleID ≠ roleID := by
  apply List.filter_congr
  intro row member
  have never : ∀ other ∈ svc.roleTask.rows, other.roleID ≠ taskID := fun other stored same =>
    spares ⟨other, stored, same⟩
  rw [decide_eq_decide]
  apply not_congr
  exact ⟨fun cleaned => cleaned.1, fun role => ⟨role, never⟩⟩

theorem cleanDetails_rows_eq :
    (svc.cleanDetails roleID taskID).roleTaskDetail.rows = svc.roleTaskDetail.rows ↔
      svc.Spares taskID ∨ ∀ row ∈ svc.roleTaskDetail.rows, row.roleID ≠ roleID := by
  by_cases spares : svc.Spares taskID
  · exact iff_of_true (svc.cleanDetails_rows_of_spares roleID taskID spares) (Or.inl spares)
  · rw [svc.cleanDetails_rows_of_not_spares roleID taskID spares, List.filter_eq_self]
    simp [spares]

theorem cleanDetails_otherDetails_sublist :
    ((svc.cleanDetails roleID taskID).otherDetails roleID taskID).Sublist
      (svc.otherDetails roleID taskID) :=
  List.filter_sublist.filter _

theorem cleanDetails_otherDetails_eq :
    (svc.cleanDetails roleID taskID).otherDetails roleID taskID = svc.otherDetails roleID taskID ↔
      svc.Spares taskID ∨
        ∀ row ∈ svc.roleTaskDetail.rows, row.roleID = roleID → row.taskID = taskID := by
  by_cases spares : svc.Spares taskID
  · apply iff_of_true _ (Or.inl spares)
    rw [otherDetails, svc.cleanDetails_rows_of_spares roleID taskID spares, otherDetails]
  · rw [otherDetails, svc.cleanDetails_rows_of_not_spares roleID taskID spares, List.filter_comm,
      ← otherDetails, List.filter_eq_self, or_iff_right spares]
    constructor
    · intro other row member role
      by_contra task
      have kept : row ∈ svc.otherDetails roleID taskID :=
        List.mem_filter.mpr ⟨member, by simp [RoleTaskDetail.Named, task]⟩
      simpa [role] using other row kept
    · intro own row kept
      obtain ⟨member, other⟩ := List.mem_filter.mp kept
      rw [decide_eq_true_iff] at other ⊢
      intro role
      exact other ⟨role, own row member role⟩

/-- Every goal gets a new row that is not finished. -/
theorem goalsAdded_rows (goals : List TaskGoal) :
    ∃ new, (svc.goalsAdded roleID taskID goals).roleTaskDetail.rows =
        svc.roleTaskDetail.rows ++ new ∧ new.map RoleTaskDetail.toTaskGoal = goals ∧
      ∀ row ∈ new, row.Named roleID taskID ∧ row.isFinish = false ∧
        svc.roleTaskDetail.lastDetailID < row.detailID := by
  have added (details : RoleTaskDetails) : ∃ new,
      (goals.foldl (fun details goal => details.insert roleID taskID goal) details).rows =
        details.rows ++ new ∧ new.map RoleTaskDetail.toTaskGoal = goals ∧
      ∀ row ∈ new, row.Named roleID taskID ∧ row.isFinish = false ∧
        details.lastDetailID < row.detailID := by
    induction goals generalizing details with
    | nil =>
        refine ⟨[], (List.append_nil _).symm, rfl, ?_⟩
        intro row member
        cases member
    | cons goal goals ih =>
        obtain ⟨new, rows, recorded, named⟩ := ih (details.insert roleID taskID goal)
        refine ⟨⟨goal, details.lastDetailID + 1, roleID, taskID, false, 0⟩ :: new, ?_, ?_, ?_⟩
        · rw [List.foldl_cons, rows, List.append_cons]
          rfl
        · rw [List.map_cons, recorded]
        · intro row member
          rcases List.mem_cons.mp member with rfl | later
          · exact ⟨⟨rfl, rfl⟩, rfl, Nat.lt_succ_self _⟩
          · obtain ⟨same, unfinished, fresh⟩ := named row later
            exact ⟨same, unfinished, Nat.lt_of_succ_lt fresh⟩
  exact added svc.roleTaskDetail

/-- A script that fails leaves the details exactly if there is nothing to clean up and nothing
recorded. -/
theorem recorded_rows_eq :
    (svc.recorded scripts roleID task).roleTaskDetail.rows = svc.roleTaskDetail.rows ↔
      (svc.toDo scripts roleID task).1 = [] ∧
        (svc.Spares task.taskID ∨ ∀ row ∈ svc.roleTaskDetail.rows, row.roleID ≠ roleID) := by
  obtain ⟨new, rows, goals, named⟩ := (svc.cleanDetails roleID task.taskID).goalsAdded_rows roleID
    task.taskID (svc.toDo scripts roleID task).1
  have length := congrArg List.length goals
  rw [List.length_map] at length
  rw [recorded, rows, ← cleanDetails_rows_eq]
  constructor
  · intro same
    have fresh : new = [] := by
      rw [List.eq_nil_iff_forall_not_mem]
      intro row member
      have old : row ∈ svc.roleTaskDetail.rows := same ▸ List.mem_append_right _ member
      exact Nat.lt_irrefl _ (Nat.lt_of_lt_of_le (named row member).2.2
        (svc.roleTaskDetail.bounded row old))
    rw [fresh] at length same
    exact ⟨List.eq_nil_of_length_eq_zero length.symm, (List.append_nil _).symm.trans same⟩
  · rintro ⟨empty, same⟩
    rw [empty] at length
    rw [List.eq_nil_of_length_eq_zero length, List.append_nil, same]

/-- The recorded goals belong to the task. -/
theorem recorded_otherDetails :
    (svc.recorded scripts roleID task).otherDetails roleID task.taskID =
      (svc.cleanDetails roleID task.taskID).otherDetails roleID task.taskID := by
  obtain ⟨new, rows, -, named⟩ := (svc.cleanDetails roleID task.taskID).goalsAdded_rows roleID
    task.taskID (svc.toDo scripts roleID task).1
  rw [otherDetails, recorded, rows, List.filter_append, otherDetails]
  have none_ : new.filter (fun row => ¬ row.Named roleID task.taskID) = [] := by
    rw [List.filter_eq_nil_iff]
    intro row member
    simp [(named row member).1]
  rw [none_, List.append_nil]

/-- The task has no details behind the acceptance exactly if it had none and got none. -/
theorem recorded_named :
    (∀ row ∈ (svc.recorded scripts roleID task).roleTaskDetail.rows,
      ¬ row.Named roleID task.taskID) ↔
      (svc.toDo scripts roleID task).1 = [] ∧ (¬ svc.Spares task.taskID ∨
        ∀ row ∈ svc.roleTaskDetail.rows, ¬ row.Named roleID task.taskID) := by
  obtain ⟨new, rows, goals, named⟩ := (svc.cleanDetails roleID task.taskID).goalsAdded_rows roleID
    task.taskID (svc.toDo scripts roleID task).1
  have length := congrArg List.length goals
  rw [List.length_map] at length
  rw [recorded, rows, List.forall_mem_append, and_comm]
  apply and_congr
  · constructor
    · intro none_
      have fresh : new = [] := by
        rw [List.eq_nil_iff_forall_not_mem]
        intro row member
        exact none_ row member (named row member).1
      rw [fresh] at length
      exact List.eq_nil_of_length_eq_zero length.symm
    · intro empty
      rw [empty] at length
      rw [List.eq_nil_of_length_eq_zero length]
      intro row member
      cases member
  · by_cases spares : svc.Spares task.taskID
    · rw [svc.cleanDetails_rows_of_spares roleID task.taskID spares]
      simp [spares]
    · rw [svc.cleanDetails_rows_of_not_spares roleID task.taskID spares]
      apply iff_of_true _ (Or.inl spares)
      intro row member same
      have other : row.roleID ≠ roleID := by simpa using (List.mem_filter.mp member).2
      exact other same.1

theorem opened_roleTaskDetail :
    (svc.opened roleID taskID).roleTaskDetail = svc.roleTaskDetail := by
  unfold opened
  split_ifs <;> rfl

theorem opened_find_other {key : UInt32 × UInt32} (differs : key ≠ (roleID, taskID)) :
    (svc.opened roleID taskID).roleTask.find key = svc.roleTask.find key := by
  unfold opened
  split_ifs with again
  · exact TaskProgram.setFinishStatus_find_other _ _ _ _ _ differs
  · have fresh := Option.not_isSome_iff_eq_none.mp again
    obtain ⟨next, inserted⟩ : ∃ next, svc.roleTask.insert ⟨roleID, taskID, 0, 0⟩ = some next :=
      KeyedTable.insert_isSome fresh
    rw [inserted, Option.getD_some, KeyedTable.find_insert inserted]
    exact if_neg fun same => differs same.symm

end Records

end TaskSvc

namespace TaskRequest

section Isolation

variable (scripts : TaskScripts) (svc : TaskSvc) (roleID : UInt32) (request : TaskRequest)

/-- The statements that the request executes alone. -/
def trace : List TaskStatement :=
  (request.program scripts roleID).trace TaskStatement.execute svc

def visits : List TaskSvc := (request.program scripts roleID).visits TaskStatement.execute svc

/-- The task is delivered or abandoned by its request, or it is delivered without one. -/
def Ends (code : UInt32) : Prop :=
  code = 0 ∧ (∀ taskID, request ≠ accept taskID) ∨
    .finishRoleTask roleID request.taskID 2 1 ∈ request.trace scripts svc roleID

/-- Only the rows of the task change, up to the goals that share the items of the role. -/
structure Undisturbed (after : TaskSvc) (code : UInt32) : Prop where
  rows : RowsKept roleID request.taskID (request.visits scripts svc roleID) svc after
  details : DetailsKept roleID request.taskID svc after
  ended : request.Ends scripts svc roleID code →
    ∀ row ∈ after.roleTaskDetail.rows, ¬ row.Named roleID request.taskID
  refused : (∃ taskID, request = accept taskID) → code ≠ 0 →
    after.roleTask = svc.roleTask ∧ after.roleTaskDetail.rows = svc.roleTaskDetail.rows

/-- The clean-up of an acceptance finds nothing of another task. A to-do script that fails finds
and records nothing. A task that is delivered at once has no details. -/
structure CleanAcceptance (task : Task) : Prop where
  failed : (svc.toDo scripts roleID task).2 ≠ 0 → (svc.toDo scripts roleID task).1 = [] ∧
    (svc.Spares task.taskID ∨ ∀ row ∈ svc.roleTaskDetail.rows, row.roleID ≠ roleID)
  registered : (svc.toDo scripts roleID task).2 = 0 → svc.Spares task.taskID ∨
    ∀ row ∈ svc.roleTaskDetail.rows, row.roleID = roleID → row.taskID = task.taskID
  delivered : (svc.toDo scripts roleID task).2 = 0 → .finishRoleTask roleID task.taskID 2 1 ∈
      (accept task.taskID).trace scripts svc roleID →
    (svc.toDo scripts roleID task).1 = [] ∧
      (¬ svc.Spares task.taskID ∨
        ∀ row ∈ svc.roleTaskDetail.rows, ¬ row.Named roleID task.taskID)

/-- No other task is delivered without an NPC on the way. -/
structure Harmless : Prop where
  others : ∀ other, other ≠ request.taskID →
    .finishRoleTask roleID other 2 1 ∉ request.trace scripts svc roleID
  accepts : ∀ task, request = accept task.taskID → svc.task.find task.taskID = some task →
    svc.Acceptable roleID task → scripts.execCanAcceptScript svc roleID task.canAcceptScript = 0 →
      CleanAcceptance scripts svc roleID task

end Isolation

section Isolation

variable {scripts : TaskScripts} {svc : TaskSvc} {roleID : UInt32} {request : TaskRequest}

/-- A request that changes nothing disturbs nothing. -/
theorem undisturbed_refl {code : UInt32} (running : ¬ request.Ends scripts svc roleID code) :
    request.Undisturbed scripts svc roleID svc code where
  rows _ _ := ⟨fun missing => missing, fun row found => ⟨row, found, Or.inl rfl⟩⟩
  details := List.forall₂_same.mpr fun _ _ => Or.inl rfl
  ended ends := absurd ends running
  refused _ _ := ⟨rfl, rfl⟩

/-- Both sides of the comparison hold for a request that only reads. -/
theorem undisturbed_iff_of_reads {code : UInt32} (nonzero : code ≠ 0)
    (ran : (request.program scripts roleID).run TaskStatement.execute svc = some (svc, code))
    (reads : ∀ statement ∈ request.trace scripts svc roleID, statement.Reads)
    (refused : ∀ task, request = accept task.taskID → svc.task.find task.taskID = some task →
      ¬ svc.Acceptable roleID task) :
    (∃ after code, (request.program scripts roleID).run TaskStatement.execute svc =
        some (after, code) ∧ request.Undisturbed scripts svc roleID after code) ↔
      request.Harmless scripts svc roleID := by
  apply iff_of_true
  · refine ⟨svc, code, ran, undisturbed_refl ?_⟩
    rintro (⟨zero, -⟩ | member)
    · exact nonzero zero
    · exact reads _ member
  · constructor
    · intro other differs member
      exact reads _ member
    · intro task equal found acceptable
      exact absurd acceptable (refused task equal found)

/-- The program goes on from a prepared state with a look at the tasks of the role. -/
theorem undisturbed_iff_of_rechecked {statements : List TaskStatement} {visited : List TaskSvc}
    {base after : TaskSvc} (rechecked : Rechecked roleID statements visited base after)
    (same : ∀ key, key ≠ (roleID, request.taskID) →
      base.roleTask.find key = svc.roleTask.find key)
    (fewer : (base.otherDetails roleID request.taskID).Sublist
      (svc.otherDetails roleID request.taskID))
    (within : ∀ middle ∈ visited, middle ∈ request.visits scripts svc roleID)
    (delivers : ∀ other, .finishRoleTask roleID other 2 1 ∈ request.trace scripts svc roleID ↔
      .finishRoleTask roleID other 2 1 ∈ statements) :
    request.Undisturbed scripts svc roleID after 0 ↔
      (∀ other, other ≠ request.taskID →
        .finishRoleTask roleID other 2 1 ∉ request.trace scripts svc roleID) ∧
      base.otherDetails roleID request.taskID = svc.otherDetails roleID request.taskID ∧
      (request.Ends scripts svc roleID 0 →
        ∀ row ∈ base.roleTaskDetail.rows, ¬ row.Named roleID request.taskID) := by
  have named : (∀ row ∈ after.roleTaskDetail.rows, ¬ row.Named roleID request.taskID) ↔
      ∀ row ∈ base.roleTaskDetail.rows, ¬ row.Named roleID request.taskID := by
    obtain ⟨f, mapped, kept⟩ := rechecked.details
    rw [mapped, List.forall_mem_map]
    apply forall₂_congr
    intro row member
    rw [(kept row member).named]
  simp only [delivers]
  rw [← rechecked.rowsKept_iff same within, ← rechecked.detailsKept_iff fewer, ← named]
  constructor
  · intro undisturbed
    exact ⟨undisturbed.rows, undisturbed.details, undisturbed.ended⟩
  · rintro ⟨rows, details, ended⟩
    exact ⟨rows, details, ended, fun _ nonzero => absurd rfl nonzero⟩

theorem exists_run_iff {Result : Type} {program : TaskProgram Result} {after : TaskSvc}
    {result : Result} (ran : program.run TaskStatement.execute svc = some (after, result))
    (property : TaskSvc → Result → Prop) :
    (∃ next other, program.run TaskStatement.execute svc = some (next, other) ∧
      property next other) ↔ property after result := by
  constructor
  · rintro ⟨next, other, same, holds⟩
    rw [ran] at same
    cases same
    exact holds
  · intro holds
    exact ⟨after, result, ran, holds⟩

section Accept

variable {task : Task}

/-- The check and the script only read. -/
theorem accept_behind (scripts : TaskScripts) (found : svc.task.find task.taskID = some task)
    (acceptable : svc.Acceptable roleID task) :
    (∀ statement : TaskStatement, ¬ statement.Reads →
      statement ≠ .canAcceptScript roleID task.taskID →
      (statement ∈ (accept task.taskID).trace scripts svc roleID ↔
        statement ∈ (TaskProgram.behindScript scripts svc roleID task).trace
          TaskStatement.execute svc)) ∧
    ∀ middle ∈ (TaskProgram.behindScript scripts svc roleID task).visits TaskStatement.execute svc,
      middle ∈ (accept task.taskID).visits scripts svc roleID := by
  rcases TaskProgram.checkAcceptTask_run svc roleID task.taskID with ⟨other, stored, -, ran⟩ |
    ⟨refused, -⟩
  · rw [found] at stored
    cases stored
    have reads : ∀ statement ∈ (TaskProgram.checkAcceptTask roleID task.taskID).trace
        TaskStatement.execute svc, statement.Reads :=
      (TaskProgram.checkAcceptTask_reads roleID task.taskID).trace svc
    rw [trace, visits, program, TaskProgram.processAcceptTask, Program.trace_bind ran,
      Program.visits_bind ran]
    constructor
    · intro statement writes other
      rw [List.mem_append, Program.trace_statement rfl, List.mem_cons]
      constructor
      · rintro (early | script | behind)
        · exact absurd (reads _ early) writes
        · exact absurd script other
        · exact behind
      · intro behind
        exact Or.inr (Or.inr behind)
    · intro middle visited
      rw [List.mem_append, Program.visits_statement rfl]
      exact Or.inr (List.mem_cons_of_mem _ visited)
  · exact absurd acceptable (refused task found)

theorem accept_delivers (scripts : TaskScripts) (found : svc.task.find task.taskID = some task)
    (acceptable : svc.Acceptable roleID task) (other : UInt32) :
    .finishRoleTask roleID other 2 1 ∈ (accept task.taskID).trace scripts svc roleID ↔
      .finishRoleTask roleID other 2 1 ∈ (TaskProgram.behindScript scripts svc roleID task).trace
        TaskStatement.execute svc :=
  (accept_behind scripts found acceptable).1 _ id nofun

theorem accept_task {other : Task} (equal : accept task.taskID = accept other.taskID)
    (found : svc.task.find task.taskID = some task)
    (stored : svc.task.find other.taskID = some other) : other = task := by
  rw [← accept.inj equal, found] at stored
  exact (Option.some.inj stored).symm

/-- The row of a task that can be accepted is closed. -/
theorem not_open_of_acceptable {row : RoleTask} (found : svc.task.find task.taskID = some task)
    (acceptable : svc.Acceptable roleID task)
    (stored : svc.roleTask.find (roleID, task.taskID) = some row) :
    ¬ (row.finishStatus = 0 ∨ row.finishStatus = 1) := by
  obtain ⟨level, -, -, -, one⟩ := acceptable
  rcases (TaskSvc.status_eq_one found).mp one with fresh | ⟨old, _, same, -, -, two, -⟩
  · rw [fresh] at stored
    cases stored
  · rw [stored] at same
    cases same
    rw [two]
    decide

/-- A script that refuses the task leaves its row, so the re-check cannot deliver the task. -/
theorem undisturbed_script_iff (found : svc.task.find task.taskID = some task)
    (acceptable : svc.Acceptable roleID task)
    (refused : scripts.execCanAcceptScript svc roleID task.canAcceptScript ≠ 0) :
    (∃ after code, ((accept task.taskID).program scripts roleID).run TaskStatement.execute svc =
        some (after, code) ∧ (accept task.taskID).Undisturbed scripts svc roleID after code) ↔
      (accept task.taskID).Harmless scripts svc roleID := by
  have ran := TaskProgram.processAcceptTask_run svc roleID task.taskID scripts found acceptable
  rw [if_pos refused] at ran
  have delivers := accept_delivers scripts found acceptable
  have within := (accept_behind scripts found acceptable).2
  have rechecked := TaskProgram.recheckTask_rechecked svc roleID task.taskID
  rw [TaskProgram.behindScript, if_neg refused] at delivers within
  refine (exists_run_iff ran _).trans ?_
  refine (undisturbed_iff_of_rechecked rechecked (fun _ _ => rfl) (List.Sublist.refl _) within
    delivers).trans ?_
  constructor
  · rintro ⟨others, -⟩
    refine ⟨others, ?_⟩
    intro other equal stored _ passes
    obtain rfl := accept_task equal found stored
    exact absurd passes refused
  · intro harmless
    refine ⟨harmless.others, rfl, ?_⟩
    rintro (⟨-, other⟩ | member)
    · exact absurd rfl (other _)
    · obtain ⟨row, next, stored, open_, -⟩ := rechecked.delivered _ ((delivers _).mp member)
      exact absurd open_ (not_open_of_acceptable found acceptable stored)

/-- A to-do script that fails leaves what the clean-up and the script have done. -/
theorem undisturbed_failed_iff (found : svc.task.find task.taskID = some task)
    (acceptable : svc.Acceptable roleID task)
    (passes : scripts.execCanAcceptScript svc roleID task.canAcceptScript = 0)
    (failed : (svc.toDo scripts roleID task).2 ≠ 0) :
    (∃ after code, ((accept task.taskID).program scripts roleID).run TaskStatement.execute svc =
        some (after, code) ∧ (accept task.taskID).Undisturbed scripts svc roleID after code) ↔
      (accept task.taskID).Harmless scripts svc roleID := by
  have ran := TaskProgram.processAcceptTask_run svc roleID task.taskID scripts found acceptable
  rw [if_neg (not_not.mpr passes), if_pos failed] at ran
  have registered := TaskProgram.registerTask_run svc roleID scripts (acceptable.open found)
  rw [if_pos failed] at registered
  have never (other : UInt32) : .finishRoleTask roleID other 2 1 ∉
      (accept task.taskID).trace scripts svc roleID := by
    rw [accept_delivers scripts found acceptable, TaskProgram.behindScript, if_pos passes,
      Program.trace_bind registered]
    change _ ∉ _ ++ Program.trace _ (.done errAppOp) _
    rw [Program.trace_done, List.append_nil]
    intro member
    exact (TaskProgram.registerTask_records scripts roleID task).trace svc _ member
  refine (exists_run_iff ran _).trans ?_
  constructor
  · intro undisturbed
    refine ⟨fun other _ => never other, ?_⟩
    intro other equal stored _ _
    obtain rfl := accept_task equal found stored
    have same := (undisturbed.refused ⟨_, rfl⟩ (by decide)).2
    rw [TaskSvc.recorded_rows_eq] at same
    exact ⟨fun _ => same, fun zero => absurd zero failed, fun zero => absurd zero failed⟩
  · intro harmless
    have clean := (harmless.accepts task rfl found acceptable passes).failed failed
    rw [← TaskSvc.recorded_rows_eq] at clean
    constructor
    · intro key _
      exact ⟨fun missing => missing, fun row stored => ⟨row, stored, Or.inl rfl⟩⟩
    · rw [DetailsKept, TaskSvc.otherDetails, TaskSvc.otherDetails, clean]
      exact List.forall₂_same.mpr fun _ _ => Or.inl rfl
    · rintro (⟨zero, -⟩ | member)
      · exact absurd zero (by decide)
      · exact absurd member (never _)
    · intro _ _
      exact ⟨rfl, clean⟩

/-- The registered task is re-checked together with the other ones. -/
theorem undisturbed_registered_iff (found : svc.task.find task.taskID = some task)
    (acceptable : svc.Acceptable roleID task)
    (passes : scripts.execCanAcceptScript svc roleID task.canAcceptScript = 0)
    (succeeded : (svc.toDo scripts roleID task).2 = 0) :
    (∃ after code, ((accept task.taskID).program scripts roleID).run TaskStatement.execute svc =
        some (after, code) ∧ (accept task.taskID).Undisturbed scripts svc roleID after code) ↔
      (accept task.taskID).Harmless scripts svc roleID := by
  have ran := TaskProgram.processAcceptTask_run svc roleID task.taskID scripts found acceptable
  rw [if_neg (not_not.mpr passes), if_neg (not_not.mpr succeeded)] at ran
  have registered := TaskProgram.registerTask_run svc roleID scripts (acceptable.open found)
  rw [if_neg (not_not.mpr succeeded)] at registered
  have delivers := accept_delivers scripts found acceptable
  have within := (accept_behind scripts found acceptable).2
  rw [TaskProgram.behindScript, if_pos passes, Program.trace_bind registered] at delivers
  rw [TaskProgram.behindScript, if_pos passes, Program.visits_bind registered] at within
  have rechecked := TaskProgram.recheckTask_rechecked
    ((svc.recorded scripts roleID task).opened roleID task.taskID) roleID task.taskID
  have details : ((svc.recorded scripts roleID task).opened roleID task.taskID).roleTaskDetail =
      (svc.recorded scripts roleID task).roleTaskDetail :=
    TaskSvc.opened_roleTaskDetail _ _ _
  have others : ((svc.recorded scripts roleID task).opened roleID task.taskID).otherDetails roleID
      task.taskID = (svc.cleanDetails roleID task.taskID).otherDetails roleID task.taskID := by
    rw [TaskSvc.otherDetails, details, ← TaskSvc.otherDetails, TaskSvc.recorded_otherDetails]
  refine (exists_run_iff ran _).trans ?_
  refine (undisturbed_iff_of_rechecked rechecked ?_ ?_ ?_ ?_).trans ?_
  · intro key differs
    exact TaskSvc.opened_find_other _ _ _ differs
  · rw [taskID, others]
    exact svc.cleanDetails_otherDetails_sublist roleID task.taskID
  · intro middle visited
    exact within middle (List.mem_append_right _ visited)
  · intro other
    rw [delivers, List.mem_append]
    constructor
    · rintro (early | later)
      · exact ((TaskProgram.registerTask_records scripts roleID task).trace svc _ early).elim
      · exact later
    · intro later
      exact Or.inr later
  · rw [taskID, others, TaskSvc.cleanDetails_otherDetails_eq, details, TaskSvc.recorded_named]
    constructor
    · rintro ⟨never, clean, ended⟩
      refine ⟨never, ?_⟩
      intro other equal stored _ _
      obtain rfl := accept_task equal found stored
      exact ⟨fun failed => absurd succeeded failed, fun _ => clean, fun _ delivery =>
        ended (Or.inr delivery)⟩
    · intro harmless
      have clean := harmless.accepts task rfl found acceptable passes
      refine ⟨harmless.others, clean.registered succeeded, ?_⟩
      rintro (⟨-, other⟩ | delivery)
      · exact absurd rfl (other _)
      · exact clean.delivered succeeded delivery

variable (taskID : UInt32)

theorem undisturbed_accept_iff :
    (∃ after code, ((accept taskID).program scripts roleID).run TaskStatement.execute svc =
        some (after, code) ∧ (accept taskID).Undisturbed scripts svc roleID after code) ↔
      (accept taskID).Harmless scripts svc roleID := by
  by_cases allowed : ∃ task, svc.task.find taskID = some task ∧ svc.Acceptable roleID task
  · obtain ⟨task, found, acceptable⟩ := allowed
    obtain rfl := KeyedTable.find_key found
    by_cases passes : scripts.execCanAcceptScript svc roleID task.canAcceptScript = 0
    · by_cases succeeded : (svc.toDo scripts roleID task).2 = 0
      · exact undisturbed_registered_iff found acceptable passes succeeded
      · exact undisturbed_failed_iff found acceptable passes succeeded
    · exact undisturbed_script_iff found acceptable passes
  · have refused : ∀ task, svc.task.find taskID = some task → ¬ svc.Acceptable roleID task :=
      fun task found acceptable => allowed ⟨task, found, acceptable⟩
    obtain ⟨⟨code, nonzero, ran⟩, reads⟩ : (∃ code, code ≠ 0 ∧
        ((accept taskID).program scripts roleID).run TaskStatement.execute svc = some (svc, code)) ∧
        ∀ statement ∈ (accept taskID).trace scripts svc roleID, statement.Reads :=
      TaskProgram.processAcceptTask_refused svc roleID taskID scripts refused
    apply undisturbed_iff_of_reads nonzero ran reads
    intro task equal found
    rw [← accept.inj equal] at found
    exact refused task found

/-- The reward of a delivery changes the items behind the change of the tables. -/
theorem deliver_behind (scripts : TaskScripts) {npcID : UInt32}
    (found : svc.task.find task.taskID = some task)
    (npc : npcID = task.exitNpcID) (three : svc.status roleID task.taskID = some 3) :
    let rest := TaskProgram.changeItems roleID (scripts.execAfterDeliverScript
      (svc.delivered roleID task.taskID) roleID task.afterDeliverScript)
    (∀ other, .finishRoleTask roleID other 2 1 ∈
        (deliver task.taskID npcID).trace scripts svc roleID ↔ .finishRoleTask roleID other 2 1 ∈
      rest.trace TaskStatement.execute (svc.delivered roleID task.taskID)) ∧
    ∀ middle ∈ rest.visits TaskStatement.execute (svc.delivered roleID task.taskID),
      middle ∈ (deliver task.taskID npcID).visits scripts svc roleID := by
  intro rest
  have reads : ∀ statement ∈ (TaskProgram.getRoleTaskStatus roleID task.taskID).trace
      TaskStatement.execute svc, statement.Reads :=
    (TaskProgram.getRoleTaskStatus_reads roleID task.taskID).trace svc
  have ran := TaskProgram.changeItems_run (svc.delivered roleID task.taskID) roleID
    (scripts.execAfterDeliverScript (svc.delivered roleID task.taskID) roleID
      task.afterDeliverScript)
  rw [trace, visits, program, TaskProgram.processDeliverTask, Program.trace_statement rfl,
    Program.visits_statement rfl]
  simp only [found]
  rw [if_neg (not_not.mpr npc), Program.trace_bind (TaskProgram.getRoleTaskStatus_run _ _ _),
    Program.visits_bind (TaskProgram.getRoleTaskStatus_run _ _ _), three]
  change (∀ other, _ ∈ _ :: (_ ++ _ :: _ :: _ :: Program.trace _ (rest.bind fun _ => .done 0)
      (svc.delivered roleID task.taskID)) ↔ _) ∧ ∀ middle, _ → middle ∈ _ :: (_ ++ _ :: _ :: _ ::
        Program.visits _ (rest.bind fun _ => .done 0) (svc.delivered roleID task.taskID))
  rw [Program.trace_bind ran, Program.visits_bind ran]
  constructor
  · intro other
    simp only [List.mem_cons, List.mem_append, Program.trace_done, List.not_mem_nil, or_false,
      reduceCtorEq, false_or]
    constructor
    · rintro (status | change_)
      · exact (reads _ status).elim
      · exact change_
    · exact Or.inr
  · intro middle visited
    simp only [List.mem_cons, List.mem_append]
    exact Or.inr (Or.inr (Or.inr (Or.inr (Or.inr (Or.inl visited)))))

theorem cleared_not_named :
    ∀ row ∈ (svc.cleared roleID taskID).roleTaskDetail.rows, ¬ row.Named roleID taskID := by
  intro row member
  simpa using (List.mem_filter.mp member).2

theorem cleared_otherDetails :
    (svc.cleared roleID taskID).otherDetails roleID taskID = svc.otherDetails roleID taskID := by
  rw [TaskSvc.otherDetails, TaskSvc.cleared, RoleTaskDetails.keep, List.filter_filter]
  simp [TaskSvc.otherDetails]

theorem undisturbed_deliver_iff (taskID npcID : UInt32) :
    (∃ after code, ((deliver taskID npcID).program scripts roleID).run TaskStatement.execute svc =
        some (after, code) ∧ (deliver taskID npcID).Undisturbed scripts svc roleID after code) ↔
      (deliver taskID npcID).Harmless scripts svc roleID := by
  by_cases finished : ∃ task, svc.task.find taskID = some task ∧ npcID = task.exitNpcID ∧
      svc.status roleID taskID = some 3
  · obtain ⟨task, found, npc, three⟩ := finished
    obtain rfl := KeyedTable.find_key found
    have ran := TaskProgram.processDeliverTask_run svc roleID task.taskID scripts npcID found npc
      three
    obtain ⟨delivers, within⟩ := deliver_behind scripts found npc three
    have rechecked := TaskProgram.changeItems_rechecked (svc.delivered roleID task.taskID) roleID
      (scripts.execAfterDeliverScript (svc.delivered roleID task.taskID) roleID
        task.afterDeliverScript)
    have others : (svc.delivered roleID task.taskID).otherDetails roleID task.taskID =
        svc.otherDetails roleID task.taskID := cleared_otherDetails task.taskID
    refine (exists_run_iff ran _).trans ?_
    refine (undisturbed_iff_of_rechecked rechecked ?_ ?_ within delivers).trans ?_
    · intro key differs
      exact TaskProgram.setFinishStatus_find_other _ _ _ _ _ differs
    · rw [taskID, others]
    · constructor
      · rintro ⟨never, -⟩
        refine ⟨never, ?_⟩
        intro other equal
        cases equal
      · intro harmless
        exact ⟨harmless.others, others, fun _ => cleared_not_named task.taskID⟩
  · have refused : ∀ task, svc.task.find taskID = some task →
        ¬ (npcID = task.exitNpcID ∧ svc.status roleID taskID = some 3) :=
      fun task found delivers => finished ⟨task, found, delivers⟩
    obtain ⟨⟨code, nonzero, ran⟩, reads⟩ : (∃ code, code ≠ 0 ∧
        ((deliver taskID npcID).program scripts roleID).run TaskStatement.execute svc =
          some (svc, code)) ∧
        ∀ statement ∈ (deliver taskID npcID).trace scripts svc roleID, statement.Reads :=
      TaskProgram.processDeliverTask_refused svc roleID taskID scripts npcID refused
    apply undisturbed_iff_of_reads nonzero ran reads
    intro task equal
    cases equal

theorem abandon_never (roleID taskID : UInt32) :
    (TaskProgram.processAbandonTask roleID taskID).Only fun statement =>
      ∀ other, statement ≠ .finishRoleTask roleID other 2 1 := by
  have status : (TaskProgram.getRoleTaskStatus roleID taskID).Only fun statement =>
      ∀ other, statement ≠ .finishRoleTask roleID other 2 1 := by
    apply (TaskProgram.getRoleTaskStatus_reads roleID taskID).mono
    rintro statement reads other rfl
    exact reads
  apply status.bind
  intro status
  cases status with
  | none => trivial
  | some status =>
      dsimp only
      split
      · trivial
      · refine Program.Only.first (by simp) fun svc => ?_
        cases svc.task.find taskID with
        | none => trivial
        | some task =>
            refine Program.Only.first (by simp) fun _ => ?_
            split <;> exact ⟨by simp, fun _ => trivial⟩

theorem abandoned_find_other {key : UInt32 × UInt32} (differs : key ≠ (roleID, task.taskID)) :
    (svc.abandoned roleID task).roleTask.find key = svc.roleTask.find key := by
  unfold TaskSvc.abandoned
  split_ifs
  · rw [KeyedTable.find_keep]
    cases found : svc.roleTask.find key with
    | none => rfl
    | some row =>
        apply Option.filter_some_pos
        rw [decide_eq_true_iff]
        rintro ⟨rfl, same⟩
        rw [← same] at differs
        exact differs (KeyedTable.find_key found).symm
  · exact TaskProgram.setFinishStatus_find_other _ _ _ _ _ differs

theorem undisturbed_abandon_iff :
    (∃ after code, ((abandon taskID).program scripts roleID).run TaskStatement.execute svc =
        some (after, code) ∧ (abandon taskID).Undisturbed scripts svc roleID after code) ↔
      (abandon taskID).Harmless scripts svc roleID := by
  have never (other : UInt32) : .finishRoleTask roleID other 2 1 ∉
      (abandon taskID).trace scripts svc roleID := fun member =>
    (abandon_never roleID taskID).trace svc _ member other rfl
  apply iff_of_true
  · by_cases accepted : (svc.task.find taskID).isSome ∧ svc.Accepted roleID taskID
    · obtain ⟨task, found⟩ := Option.isSome_iff_exists.mp accepted.1
      obtain rfl := KeyedTable.find_key found
      refine ⟨_, _, TaskProgram.processAbandonTask_run svc roleID task.taskID found accepted.2, ?_⟩
      have details : (svc.abandoned roleID task).roleTaskDetail =
          (svc.cleared roleID task.taskID).roleTaskDetail := by
        unfold TaskSvc.abandoned
        split_ifs <;> rfl
      constructor
      · intro key differs
        rw [abandoned_find_other differs]
        exact ⟨fun missing => missing, fun row stored => ⟨row, stored, Or.inl rfl⟩⟩
      · rw [DetailsKept, taskID, TaskSvc.otherDetails, TaskSvc.otherDetails, details,
          ← TaskSvc.otherDetails, ← TaskSvc.otherDetails, cleared_otherDetails]
        exact List.forall₂_same.mpr fun _ _ => Or.inl rfl
      · intro _
        rw [details]
        exact cleared_not_named task.taskID
      · rintro ⟨other, equal⟩
        cases equal
    · obtain ⟨code, nonzero, ran⟩ := TaskProgram.processAbandonTask_refused svc roleID taskID accepted
      refine ⟨svc, code, ran, undisturbed_refl ?_⟩
      rintro (⟨zero, -⟩ | member)
      · exact nonzero zero
      · exact never _ member
  · constructor
    · exact fun other _ => never other
    · intro other equal
      cases equal

end Accept

end Isolation

/-- The role has accepted task 5 and has to defeat one monster for it. -/
def hunting : TaskSvc where
  task := ⟨[⟨5, 1, 1, 50, 1, 100, 200, "", "", ""⟩, ⟨7, 1, 1, 50, 1, 100, 200, "", "", ""⟩],
    by decide⟩
  roleTask := ⟨[⟨1, 5, 0, 0⟩], by decide⟩
  roleTaskDetail := RoleTaskDetails.empty.insert 1 5 ⟨1, 40, 1⟩
  bag := []
  level _ := some 10

end TaskRequest

end AppSvr.MainServer
