/-
This file shows what a look at the tasks of a role leaves alone, and from this what a request for
one task does to the other tasks.
-/

import AppSvr.Proof.MainServer.TaskRuns

namespace AppSvr.MainServer

open Programs

/-- Only an item goal of the role can get another status and another number. -/
def RoleTaskDetail.Reallocated (roleID : UInt32) (row after : RoleTaskDetail) : Prop :=
  after = row ∨ row.roleID = roleID ∧ row.goalType = 2 ∧
    after = { row with isFinish := after.isFinish, finishNum := after.finishNum }

namespace RoleTaskDetail.Reallocated

variable {roleID : UInt32} {row middle after : RoleTaskDetail}

theorem columns (reallocated : row.Reallocated roleID after) :
    after.detailID = row.detailID ∧ after.roleID = row.roleID ∧ after.taskID = row.taskID ∧
      after.toTaskGoal = row.toTaskGoal := by
  rcases reallocated with rfl | ⟨-, -, same⟩
  · exact ⟨rfl, rfl, rfl, rfl⟩
  · rw [same]
    exact ⟨rfl, rfl, rfl, rfl⟩

theorem named (reallocated : row.Reallocated roleID after) (other taskID : UInt32) :
    after.Named other taskID ↔ row.Named other taskID := by
  obtain ⟨-, role, task, -⟩ := reallocated.columns
  rw [Named, Named, role, task]

theorem trans (first : row.Reallocated roleID middle) (second : middle.Reallocated roleID after) :
    row.Reallocated roleID after := by
  rcases first with rfl | ⟨role, item, same⟩
  · exact second
  · rcases second with rfl | ⟨-, -, last⟩
    · exact Or.inr ⟨role, item, same⟩
    · refine Or.inr ⟨role, item, ?_⟩
      rw [last, same]

end RoleTaskDetail.Reallocated

namespace RoleTask

/-- The row of a task follows its details. Only the automatic delivery also counts. -/
structure Followed (roleID : UInt32) (statements : List TaskStatement) (visited : List TaskSvc)
    (row after : RoleTask) : Prop where
  key : after.key = row.key
  other : row.roleID ≠ roleID → after = row
  counts : row.deliverNum ≤ after.deliverNum
  settled : ¬ (row.finishStatus = 0 ∨ row.finishStatus = 1) → after = row
  follows : .finishRoleTask roleID row.taskID 2 1 ∉ statements → after = row ∨
    row.finishStatus = 0 ∧ after = { row with finishStatus := 1 } ∧
      ∃ middle ∈ visited, middle.AllFinished roleID row.taskID

namespace Followed

variable {roleID : UInt32} {first second : List TaskStatement} {early late : List TaskSvc}
  {row middle after : RoleTask}

theorem refl (statements : List TaskStatement) (visited : List TaskSvc) (row : RoleTask) :
    row.Followed roleID statements visited row :=
  ⟨rfl, fun _ => rfl, Nat.le_refl _, fun _ => rfl, fun _ => Or.inl rfl⟩

theorem trans (before : row.Followed roleID first early middle)
    (later : middle.Followed roleID second late after) :
    row.Followed roleID (first ++ second) (early ++ late) after := by
  obtain ⟨role, task⟩ := Prod.mk.injEq _ _ _ _ ▸ before.key
  constructor
  · rw [later.key, before.key]
  · intro other
    rw [later.other (role ▸ other), before.other other]
  · exact Nat.le_trans before.counts later.counts
  · intro settled
    obtain rfl := before.settled settled
    exact later.settled settled
  · intro absent
    rw [List.mem_append, not_or] at absent
    rcases before.follows absent.1 with rfl | ⟨unfinished, rfl, state, visited, finished⟩
    · rcases later.follows absent.2 with same | ⟨unfinished, same, state, visited, finished⟩
      · exact Or.inl same
      · exact Or.inr ⟨unfinished, same, state, List.mem_append_right _ visited, finished⟩
    · rcases later.follows absent.2 with same | ⟨zero, -⟩
      · exact Or.inr ⟨unfinished, same, state, List.mem_append_left _ visited, finished⟩
      · cases zero

end Followed

end RoleTask

/-- A look at the tasks of a role keeps this relation with the statements that it executes and the
states that it visits. -/
structure Rechecked (roleID : UInt32) (statements : List TaskStatement) (visited : List TaskSvc)
    (before after : TaskSvc) : Prop where
  details : ∃ f, after.roleTaskDetail.rows = before.roleTaskDetail.rows.map f ∧
    ∀ row ∈ before.roleTaskDetail.rows, row.Reallocated roleID (f row)
  kept : ∀ key row, before.roleTask.find key = some row →
    ∃ next, after.roleTask.find key = some next ∧ row.Followed roleID statements visited next
  absent : ∀ key, before.roleTask.find key = none → after.roleTask.find key = none
  delivered : ∀ taskID, .finishRoleTask roleID taskID 2 1 ∈ statements →
    ∃ row next, before.roleTask.find (roleID, taskID) = some row ∧
      (row.finishStatus = 0 ∨ row.finishStatus = 1) ∧
      after.roleTask.find (roleID, taskID) = some next ∧ row.deliverNum < next.deliverNum

namespace Rechecked

variable {roleID : UInt32} {first second statements : List TaskStatement}
  {early late visited : List TaskSvc} {before middle after : TaskSvc}

theorem trans (earlier : Rechecked roleID first early before middle)
    (later : Rechecked roleID second late middle after) :
    Rechecked roleID (first ++ second) (early ++ late) before after := by
  constructor
  · obtain ⟨f, mapped, kept⟩ := earlier.details
    obtain ⟨g, again, keeps⟩ := later.details
    refine ⟨g ∘ f, ?_, ?_⟩
    · rw [again, mapped, List.map_map]
    · intro row member
      exact (kept row member).trans (keeps (f row) (mapped ▸ List.mem_map_of_mem member))
  · intro key row found
    obtain ⟨next, stored, followed⟩ := earlier.kept key row found
    obtain ⟨last, ended, continued⟩ := later.kept key next stored
    exact ⟨last, ended, followed.trans continued⟩
  · intro key missing
    exact later.absent key (earlier.absent key missing)
  · intro taskID member
    rcases List.mem_append.mp member with soon | afterwards
    · obtain ⟨row, next, found, open_, stored, counted⟩ := earlier.delivered taskID soon
      obtain ⟨last, ended, continued⟩ := later.kept _ next stored
      exact ⟨row, last, found, open_, ended, Nat.lt_of_lt_of_le counted continued.counts⟩
    · obtain ⟨next, last, stored, open_, ended, counted⟩ := later.delivered taskID afterwards
      cases found : before.roleTask.find (roleID, taskID) with
      | none =>
          rw [earlier.absent _ found] at stored
          cases stored
      | some row =>
          obtain ⟨other, same, followed⟩ := earlier.kept _ row found
          rw [stored] at same
          cases same
          refine ⟨row, last, rfl, ?_, ended, Nat.lt_of_le_of_lt followed.counts counted⟩
          by_contra settled
          obtain rfl := followed.settled settled
          exact settled open_

/-- Statements that leave the tables of the tasks alone. -/
theorem of_same (details : after.roleTaskDetail.rows = before.roleTaskDetail.rows)
    (rows : after.roleTask = before.roleTask)
    (never : ∀ taskID, .finishRoleTask roleID taskID 2 1 ∉ statements) :
    Rechecked roleID statements visited before after := by
  constructor
  · exact ⟨id, by rw [details, List.map_id], fun _ _ => Or.inl rfl⟩
  · intro key row found
    rw [rows]
    exact ⟨row, found, RoleTask.Followed.refl _ _ row⟩
  · intro key missing
    rw [rows, missing]
  · intro taskID member
    exact absurd member (never taskID)

end Rechecked

namespace TaskProgram

section Status

variable (svc : TaskSvc) (roleID taskID : UInt32)

/-- A task without an NPC counts its delivery with its status. -/
def finishes (exitNpcID : UInt32) : TaskStatement :=
  .finishRoleTask roleID taskID (if exitNpcID = 0 then 2 else 1) (if exitNpcID = 0 then 1 else 0)

theorem finishTask_trace (exitNpcID : UInt32) :
    (finishTask roleID taskID exitNpcID).trace TaskStatement.execute svc =
      [finishes roleID taskID exitNpcID, .selectRoleTask roleID taskID] := by
  unfold finishTask finishes
  split_ifs <;> rfl

/-- The program only reads, or it writes the status that follows from finished details. -/
theorem updateTaskStatus_trace :
    svc.refresh roleID taskID = svc ∧
      (∀ statement ∈ (updateTaskStatus roleID taskID).trace TaskStatement.execute svc,
        statement.Reads) ∨
    ∃ task, svc.task.find taskID = some task ∧ svc.Accepted roleID taskID ∧
      svc.AllFinished roleID taskID ∧
      svc.refresh roleID taskID = svc.finish roleID taskID task.exitNpcID ∧
      (∀ statement ∈ (updateTaskStatus roleID taskID).trace TaskStatement.execute svc,
        statement.Reads ∨ statement = finishes roleID taskID task.exitNpcID) ∧
      finishes roleID taskID task.exitNpcID ∈
        (updateTaskStatus roleID taskID).trace TaskStatement.execute svc := by
  have reads : ∀ statement ∈ (getRoleTaskStatus roleID taskID).trace TaskStatement.execute svc,
      statement.Reads := (getRoleTaskStatus_reads roleID taskID).trace svc
  rw [updateTaskStatus, Program.trace_bind (getRoleTaskStatus_run svc roleID taskID)]
  cases status : svc.status roleID taskID with
  | none =>
      left
      exact ⟨TaskSvc.refresh_of_settled (by simp [status]), by simpa using reads⟩
  | some value =>
      change _ ∧ (∀ statement ∈ _ ++ Program.trace _ (if value ≤ 1 ∨ value ≥ 4 then _ else _) svc,
        _) ∨ ∃ task, _ ∧ _ ∧ _ ∧ _ ∧ (∀ statement ∈ _ ++ Program.trace _
          (if value ≤ 1 ∨ value ≥ 4 then _ else _) svc, _) ∧ _ ∈ _ ++ Program.trace _
          (if value ≤ 1 ∨ value ≥ 4 then _ else _) svc
      have decided := status_settled value
      rw [← status] at decided
      by_cases settled : value ≤ 1 ∨ value ≥ 4
      · left
        rw [if_pos settled]
        exact ⟨TaskSvc.refresh_of_settled (decided.mp settled), by simpa using reads⟩
      · rw [if_neg settled]
        have open_ := not_not.mp (mt decided.mpr settled)
        cases found : svc.task.find taskID with
        | none =>
            rw [TaskSvc.status, found] at status
            cases status
        | some task =>
            rw [TaskSvc.refresh_of_accepted found open_]
            have accepted := (TaskSvc.status_accepted found).mp open_
            rw [Program.trace_statement rfl, Program.trace_statement rfl]
            simp only [found]
            by_cases empty : ∀ row ∈ svc.roleTaskDetail.rows, ¬ row.Named roleID taskID
            · have finished : svc.AllFinished roleID taskID := fun row member named =>
                absurd named (empty row member)
              right
              rw [if_pos finished, if_pos empty, finishTask_trace]
              refine ⟨task, rfl, accepted, finished, rfl, ?_, by simp⟩
              intro statement member
              simp only [List.mem_append, List.mem_cons, List.not_mem_nil, or_false] at member
              rcases member with status | rfl | rfl | rfl | rfl
              · exact Or.inl (reads statement status)
              · exact Or.inl trivial
              · exact Or.inl trivial
              · exact Or.inr rfl
              · exact Or.inl trivial
            · rw [if_neg empty, Program.trace_statement rfl]
              change _ ∧ (∀ statement ∈ _ ++ _ :: _ :: _ :: Program.trace _
                (if svc.AllFinished roleID taskID then _ else _) svc, _) ∨ ∃ task, _ ∧ _ ∧ _ ∧ _ ∧
                  (∀ statement ∈ _ ++ _ :: _ :: _ :: Program.trace _
                    (if svc.AllFinished roleID taskID then _ else _) svc, _) ∧
                  _ ∈ _ ++ _ :: _ :: _ :: Program.trace _
                    (if svc.AllFinished roleID taskID then _ else _) svc
              by_cases finished : svc.AllFinished roleID taskID
              · right
                rw [if_pos finished, if_pos finished, finishTask_trace]
                refine ⟨task, rfl, accepted, finished, rfl, ?_, by simp⟩
                intro statement member
                simp only [List.mem_append, List.mem_cons, List.not_mem_nil, or_false] at member
                rcases member with status | rfl | rfl | rfl | rfl | rfl
                · exact Or.inl (reads statement status)
                · exact Or.inl trivial
                · exact Or.inl trivial
                · exact Or.inl trivial
                · exact Or.inr rfl
                · exact Or.inl trivial
              · left
                rw [if_neg finished, if_neg finished]
                refine ⟨rfl, ?_⟩
                intro statement member
                simp only [Program.trace, List.mem_append, List.mem_cons] at member
                rcases member with status | rfl | rfl | rfl | rfl | other
                · exact reads statement status
                · trivial
                · trivial
                · trivial
                · trivial
                · cases other

theorem setFinishStatus_find (finishStatus : UInt8) (addDeliverNum : Nat) (key : UInt32 × UInt32) :
    (svc.setFinishStatus roleID taskID finishStatus addDeliverNum).roleTask.find key =
      (svc.roleTask.find key).map (RoleTask.setStatus roleID taskID finishStatus addDeliverNum) :=
  KeyedTable.find_change _ (RoleTask.setStatus_key roleID taskID finishStatus addDeliverNum)

theorem setFinishStatus_find_other (finishStatus : UInt8) (addDeliverNum : Nat)
    {key : UInt32 × UInt32} (differs : key ≠ (roleID, taskID)) :
    (svc.setFinishStatus roleID taskID finishStatus addDeliverNum).roleTask.find key =
      svc.roleTask.find key := by
  rw [setFinishStatus_find]
  cases found : svc.roleTask.find key with
  | none => rfl
  | some row =>
      have other : ¬ row.Named roleID taskID := by
        rintro ⟨rfl, rfl⟩
        exact differs (KeyedTable.find_key found).symm
      rw [Option.map_some, RoleTask.setStatus, if_neg other]

/-- The status is the first thing that the program looks up. -/
theorem mem_updateTaskStatus_visits :
    svc ∈ (updateTaskStatus roleID taskID).visits TaskStatement.execute svc :=
  List.mem_cons_self

variable {svc roleID taskID}

theorem finishes_followed {statements : List TaskStatement} {visited : List TaskSvc} {task : Task}
    (accepted : svc.Accepted roleID taskID) (finished : svc.AllFinished roleID taskID)
    (seen : svc ∈ visited) (executed : finishes roleID taskID task.exitNpcID ∈ statements)
    {key : UInt32 × UInt32} {row : RoleTask} (stored : svc.roleTask.find key = some row) :
    row.Followed roleID statements visited
      (row.setStatus roleID taskID (if task.exitNpcID = 0 then 2 else 1)
        (if task.exitNpcID = 0 then 1 else 0)) := by
  by_cases named : row.Named roleID taskID
  · have open_ : row.finishStatus = 0 ∨ row.finishStatus = 1 := by
      obtain ⟨other, found, status⟩ := accepted
      have same : key = (roleID, taskID) := by
        rw [← KeyedTable.find_key stored, RoleTask.key, named.1, named.2]
      rw [same, found] at stored
      cases stored
      exact status
    obtain ⟨rfl, rfl⟩ := named
    constructor
    · exact RoleTask.setStatus_key _ _ _ _ row
    · intro other
      exact absurd rfl other
    · rw [RoleTask.setStatus, if_pos ⟨rfl, rfl⟩]
      exact Nat.le_add_right _ _
    · intro settled
      exact absurd open_ settled
    · intro absent
      have npc : task.exitNpcID ≠ 0 := by
        intro zero
        rw [finishes, if_pos zero, if_pos zero] at executed
        exact absent executed
      rw [RoleTask.setStatus, if_pos ⟨rfl, rfl⟩, if_neg npc, if_neg npc]
      rcases open_ with zero | one
      · exact Or.inr ⟨zero, rfl, svc, seen, finished⟩
      · left
        rw [← one]
        rfl
  · rw [RoleTask.setStatus, if_neg named]
    exact RoleTask.Followed.refl _ _ row

theorem finishes_eq_delivery {exitNpcID other : UInt32}
    (same : TaskStatement.finishRoleTask roleID other 2 1 = finishes roleID taskID exitNpcID) :
    other = taskID ∧ exitNpcID = 0 := by
  rw [finishes, TaskStatement.finishRoleTask.injEq] at same
  refine ⟨same.2.1, ?_⟩
  by_contra npc
  rw [if_neg npc, if_neg npc] at same
  exact absurd same.2.2.2 Nat.one_ne_zero

variable (svc roleID taskID)

/-- The status of a task is looked at again. -/
theorem updateTaskStatus_rechecked :
    Rechecked roleID ((updateTaskStatus roleID taskID).trace TaskStatement.execute svc)
      ((updateTaskStatus roleID taskID).visits TaskStatement.execute svc) svc
      (svc.refresh roleID taskID) := by
  rcases updateTaskStatus_trace svc roleID taskID with ⟨same, reads⟩ |
    ⟨task, found, accepted, finished, same, only, executed⟩
  · rw [same]
    apply Rechecked.of_same rfl rfl
    intro taskID member
    exact reads _ member
  · rw [same]
    have seen := mem_updateTaskStatus_visits svc roleID taskID
    constructor
    · exact ⟨id, (List.map_id _).symm, fun _ _ => Or.inl rfl⟩
    · intro key row stored
      refine ⟨_, ?_, finishes_followed accepted finished seen executed stored⟩
      rw [TaskSvc.finish, setFinishStatus_find, stored, Option.map_some]
    · intro key missing
      rw [TaskSvc.finish, setFinishStatus_find, missing, Option.map_none]
    · intro other member
      rcases only _ member with reads | delivery
      · exact reads.elim
      · obtain ⟨rfl, npc⟩ := finishes_eq_delivery delivery
        obtain ⟨row, stored, open_⟩ := accepted
        refine ⟨row, row.setStatus roleID other (if task.exitNpcID = 0 then 2 else 1)
          (if task.exitNpcID = 0 then 1 else 0), stored, open_, ?_, ?_⟩
        · rw [TaskSvc.finish, setFinishStatus_find, stored, Option.map_some]
        · have key := KeyedTable.find_key stored
          rw [RoleTask.key, Prod.mk.injEq] at key
          have named : row.Named roleID other := key
          rw [RoleTask.setStatus, if_pos named, if_pos npc, if_pos npc]
          exact Nat.lt_succ_self _

end Status

section Items

variable {svc after : TaskSvc} {roleID : UInt32} {ids : List Nat}

theorem reallocated_rechecked {f : RoleTaskDetail → RoleTaskDetail}
    (keeps : ∀ row, (f row).detailID = row.detailID) {statements : List TaskStatement}
    (visited : List TaskSvc)
    (items : ∀ row ∈ svc.roleTaskDetail.rows, row.Reallocated roleID (f row))
    (never : ∀ taskID, .finishRoleTask roleID taskID 2 1 ∉ statements) :
    Rechecked roleID statements visited svc
      { svc with roleTaskDetail := svc.roleTaskDetail.change f keeps } := by
  constructor
  · exact ⟨f, rfl, items⟩
  · intro key row found
    exact ⟨row, found, RoleTask.Followed.refl _ _ row⟩
  · intro key missing
    exact missing
  · intro taskID member
    exact absurd member (never taskID)

/-- The rows with these numbers are item goals of the role. -/
def ItemGoals (svc : TaskSvc) (roleID : UInt32) (ids : List Nat) : Prop :=
  ∀ row ∈ svc.roleTaskDetail.rows, row.detailID ∈ ids → row.roleID = roleID ∧ row.goalType = 2

theorem ItemGoals.rechecked {statements : List TaskStatement} {visited : List TaskSvc}
    (goals : ItemGoals svc roleID ids) (rechecked : Rechecked roleID statements visited svc after) :
    ItemGoals after roleID ids := by
  obtain ⟨f, mapped, kept⟩ := rechecked.details
  intro row member listed
  rw [mapped] at member
  obtain ⟨old, stored, rfl⟩ := List.mem_map.mp member
  obtain ⟨detail, role, -, goal⟩ := (kept old stored).columns
  rw [detail] at listed
  rw [role, goal]
  exact goals old stored listed

theorem progress_rechecked {detailID : Nat} (goals : ItemGoals svc roleID ids)
    (listed : detailID ∈ ids) (isFinish : Bool) (finishNum : UInt32) :
    Rechecked roleID [.updateDetail detailID isFinish finishNum] [svc] svc
      (svc.progress detailID isFinish finishNum) := by
  apply reallocated_rechecked
  · intro row member
    unfold RoleTaskDetail.progress
    split_ifs with same
    · obtain ⟨role, item⟩ := goals row member (same ▸ listed)
      exact Or.inr ⟨role, item, rfl⟩
    · exact Or.inl rfl
  · intro taskID member
    cases List.mem_singleton.mp member

theorem allocate_rechecked (bagItemNum : UInt32) (ltd : List RoleTaskDetail)
    (goals : ItemGoals svc roleID ids) (listed : ∀ detail ∈ ltd, detail.detailID ∈ ids) :
    Rechecked roleID ((allocate roleID bagItemNum ltd).trace TaskStatement.execute svc)
      ((allocate roleID bagItemNum ltd).visits TaskStatement.execute svc) svc
      (svc.allocated roleID bagItemNum ltd) := by
  induction ltd generalizing svc bagItemNum with
  | nil => exact Rechecked.of_same rfl rfl fun _ member => nomatch member
  | cons detail ltd ih =>
      have first := listed detail List.mem_cons_self
      rw [allocate, TaskSvc.allocated]
      split_ifs with lacks
      · exact progress_rechecked goals first false bagItemNum
      · have progressed := progress_rechecked goals first true detail.goalNum
        have refreshed := updateTaskStatus_rechecked (svc.progress detail.detailID true
          detail.goalNum) roleID detail.taskID
        have rest := ih (bagItemNum - detail.goalNum)
          ((goals.rechecked progressed).rechecked refreshed)
          fun other member => listed other (List.mem_cons_of_mem _ member)
        rw [Program.trace_statement (updateDetail_execute svc _ _ _),
          Program.visits_statement (updateDetail_execute svc _ _ _),
          Program.trace_bind (updateTaskStatus_run _ _ _),
          Program.visits_bind (updateTaskStatus_run _ _ _)]
        exact progressed.trans (refreshed.trans rest)

/-- The database numbers the rows apart. -/
theorem detailID_injective {row other : RoleTaskDetail} (member : row ∈ svc.roleTaskDetail.rows)
    (stored : other ∈ svc.roleTaskDetail.rows) (same : row.detailID = other.detailID) :
    row = other := by
  have distinct : (svc.roleTaskDetail.rows.map RoleTaskDetail.detailID).Nodup := by
    rw [List.Nodup, List.pairwise_map]
    exact svc.roleTaskDetail.sorted.imp fun less => Nat.ne_of_lt less
  exact List.inj_on_of_nodup_map distinct member stored same

theorem itemDetails_goals (svc : TaskSvc) (roleID itemID : UInt32) :
    ItemGoals svc roleID ((svc.itemDetails roleID itemID).map RoleTaskDetail.detailID) := by
  intro row member listed
  obtain ⟨other, selected, same⟩ := List.mem_map.mp listed
  obtain ⟨stored, holds⟩ := List.mem_filter.mp selected
  obtain rfl := detailID_injective stored member same
  have goal : other.Holds roleID itemID := by simpa using holds
  exact ⟨goal.1, goal.2.1⟩

variable (svc roleID)

theorem resetItem_rechecked (itemID : UInt32) (visited : List TaskSvc) :
    Rechecked roleID [.selectItemDetails roleID itemID, .resetItemDetails roleID itemID,
      .selectBagNum roleID itemID] visited svc (svc.resetItem roleID itemID) := by
  apply reallocated_rechecked
  · intro row member
    unfold RoleTaskDetail.reset
    split_ifs with holds
    · exact Or.inr ⟨holds.1, holds.2.1, rfl⟩
    · exact Or.inl rfl
  · intro taskID member
    simp at member

theorem updateTaskDetailStatusByHoldItem_rechecked (itemID : UInt32) :
    Rechecked roleID
      ((updateTaskDetailStatusByHoldItem roleID itemID).trace TaskStatement.execute svc)
      ((updateTaskDetailStatusByHoldItem roleID itemID).visits TaskStatement.execute svc) svc
      (svc.recheck roleID itemID) := by
  rw [updateTaskDetailStatusByHoldItem, Program.trace_statement rfl, Program.visits_statement rfl,
    TaskSvc.recheck]
  change Rechecked _ (_ :: Program.trace _ (if svc.itemDetails roleID itemID = [] then _ else _) svc)
    (_ :: Program.visits _ (if svc.itemDetails roleID itemID = [] then _ else _) svc) svc _
  by_cases none_ : svc.itemDetails roleID itemID = []
  · rw [if_pos none_, if_pos none_]
    apply Rechecked.of_same rfl rfl
    intro taskID member
    simp at member
  · have reset := resetItem_rechecked svc roleID itemID [svc, svc, svc.resetItem roleID itemID]
    rw [if_neg none_, if_neg none_, Program.trace_statement rfl,
      Program.visits_statement rfl, Program.trace_statement rfl, Program.visits_statement rfl]
    change Rechecked _ (_ :: _ :: _ :: Program.trace _ (if ∀ row ∈ svc.bag,
        ¬ (row.roleID = roleID ∧ row.itemID = itemID) then _ else _) (svc.resetItem roleID itemID))
      (_ :: _ :: _ :: Program.visits _ (if ∀ row ∈ svc.bag,
        ¬ (row.roleID = roleID ∧ row.itemID = itemID) then _ else _) (svc.resetItem roleID itemID))
      svc _
    by_cases empty : ∀ row ∈ svc.bag, ¬ (row.roleID = roleID ∧ row.itemID = itemID)
    · rw [if_pos empty, if_pos empty]
      exact reset
    · rw [if_neg empty, if_neg empty]
      apply reset.trans
      apply allocate_rechecked _ _ ((itemDetails_goals svc roleID itemID).rechecked reset)
      intro detail member
      exact List.mem_map_of_mem member

theorem checkItems_rechecked (lItemID : List UInt32) :
    Rechecked roleID ((checkItems roleID lItemID).trace TaskStatement.execute svc)
      ((checkItems roleID lItemID).visits TaskStatement.execute svc) svc
      (lItemID.foldl (fun svc itemID => svc.recheck roleID itemID) svc) := by
  induction lItemID generalizing svc with
  | nil => exact Rechecked.of_same rfl rfl fun _ member => nomatch member
  | cons itemID lItemID ih =>
      rw [checkItems, Program.trace_bind (updateTaskDetailStatusByHoldItem_run _ _ _),
        Program.visits_bind (updateTaskDetailStatusByHoldItem_run _ _ _), List.foldl_cons]
      exact (updateTaskDetailStatusByHoldItem_rechecked svc roleID itemID).trans (ih _)

theorem checkAllItemTypeTaskStatus_rechecked :
    Rechecked roleID ((checkAllItemTypeTaskStatus roleID).trace TaskStatement.execute svc)
      ((checkAllItemTypeTaskStatus roleID).visits TaskStatement.execute svc) svc
      (svc.recheckAll roleID) := by
  have query : Rechecked roleID [.selectBagItems roleID] [svc] svc svc := by
    apply Rechecked.of_same rfl rfl
    intro taskID member
    simp at member
  exact query.trans (checkItems_rechecked svc roleID _)

/-- The status of the requested task is read once more at the end. -/
theorem recheckTask_rechecked (taskID : UInt32) :
    Rechecked roleID ((recheckTask roleID taskID).trace TaskStatement.execute svc)
      ((recheckTask roleID taskID).visits TaskStatement.execute svc) svc
      (svc.reviewed roleID taskID) := by
  have items := checkAllItemTypeTaskStatus_rechecked svc roleID
  have status := updateTaskStatus_rechecked (svc.recheckAll roleID) roleID taskID
  rw [recheckTask, Program.trace_bind (checkAllItemTypeTaskStatus_run _ _),
    Program.visits_bind (checkAllItemTypeTaskStatus_run _ _),
    Program.trace_bind (updateTaskStatus_run _ _ _),
    Program.visits_bind (updateTaskStatus_run _ _ _)]
  apply items.trans
  apply status.trans
  apply Rechecked.of_same rfl rfl
  have last {rest : Option UInt8 → TaskProgram UInt32} (ends : ∀ status,
      (rest status).Only TaskStatement.Reads) :
      ((getRoleTaskStatus roleID taskID).bind rest).Only TaskStatement.Reads :=
    (getRoleTaskStatus_reads roleID taskID).bind ends
  intro other member
  exact (last (fun status => by cases status <;> trivial)).trace _ _ member

theorem changeItems_rechecked (bags : List BagChange) :
    Rechecked roleID ((changeItems roleID bags).trace TaskStatement.execute svc)
      ((changeItems roleID bags).visits TaskStatement.execute svc) svc
      (svc.itemsChanged roleID bags) := by
  induction bags generalizing svc with
  | nil => exact Rechecked.of_same rfl rfl fun _ member => nomatch member
  | cons bag bags ih =>
      have change : Rechecked roleID [.changeBag roleID bag] [svc] svc (svc.changeBag roleID bag) := by
        apply Rechecked.of_same
        · rfl
        · rfl
        · intro taskID member
          simp at member
      have items := updateTaskDetailStatusByHoldItem_rechecked (svc.changeBag roleID bag) roleID
        bag.itemID
      rw [changeItems, Program.trace_bind (onBagItemAddOrDelete_run _ _ _),
        Program.visits_bind (onBagItemAddOrDelete_run _ _ _)]
      exact (change.trans items).trans (ih _)

end Items

end TaskProgram

end AppSvr.MainServer
