/-
This file shows when a delivery finds the goals of its task fulfilled.
-/

import AppSvr.Proof.MainServer.TaskCoverage
import AppSvr.Proof.MainServer.TaskIsolation
import AppSvr.Proof.MainServer.TaskOffers

namespace AppSvr.MainServer

open Programs TransitionSystem

namespace TaskSvc

/-- Every recorded goal of an accepted task has its detail. -/
def GoalsKept (svc : TaskSvc) (recorded : UInt32 → UInt32 → List TaskGoal) : Prop :=
  ∀ roleID taskID, svc.Accepted roleID taskID → ∀ goal ∈ recorded roleID taskID,
    ∃ row ∈ svc.roleTaskDetail.rows, row.Named roleID taskID ∧ row.toTaskGoal = goal

section Steps

variable {before after : TaskSvc} {recorded : UInt32 → UInt32 → List TaskGoal}

theorem GoalsKept.moves (kept : before.GoalsKept recorded) (moves : before.Moves after) :
    after.GoalsKept recorded := by
  intro roleID taskID accepted goal listed
  obtain ⟨row, member, named, same⟩ :=
    kept roleID taskID (moves.accepted roleID taskID accepted) goal listed
  obtain ⟨f, mapped, columns⟩ := moves.details
  refine ⟨f row, mapped ▸ List.mem_map_of_mem member, ?_, ?_⟩
  · exact ((columns row member).named roleID taskID).mpr named
  · rw [(columns row member).goal, same]

/-- Other details than item goals were finished. -/
theorem Settles.sound {numbers : Nat → Prop} (settles : before.Settles numbers after)
    (others : ∀ row ∈ before.roleTaskDetail.rows, numbers row.detailID → row.goalType ≠ 2)
    (finished : before.FinishedDone) (covered : before.ItemsCovered) :
    after.FinishedDone ∧ after.ItemsCovered := by
  constructor
  · intro key row found one
    rcases settles.finished key row found one with ⟨old, stored, waits⟩ | done
    · exact settles.allFinished (finished key old stored waits)
    · exact done
  · obtain ⟨f, mapped, kept⟩ := settles.details
    intro row member item done
    rw [mapped] at member
    obtain ⟨old, stored, rfl⟩ := List.mem_map.mp member
    obtain ⟨same, -, untouched⟩ := kept old stored
    have type : old.goalType = 2 := by rw [← item, same.goal]
    rw [untouched fun inside => others old stored inside type] at done
    rw [settles.moves.covers same]
    exact covered old stored type done

/-- Fewer details and fewer waiting tasks are sound. -/
theorem fewer_sound
    (fewer : after.roleTaskDetail.rows.Sublist before.roleTaskDetail.rows)
    (bag : after.bag = before.bag)
    (waits : ∀ key row, after.roleTask.find key = some row → row.finishStatus = 1 →
      ∃ old, before.roleTask.find key = some old ∧ old.finishStatus = 1)
    (finished : before.FinishedDone) (covered : before.ItemsCovered) :
    after.FinishedDone ∧ after.ItemsCovered := by
  constructor
  · intro key row found one detail member named
    obtain ⟨old, stored, waiting⟩ := waits key row found one
    exact finished key old stored waiting detail (fewer.subset member) named
  · intro row member item done
    obtain ⟨held, served⟩ := covered row (fewer.subset member) item done
    constructor
    · rw [HasItem, bag]
      exact held
    · rw [bagItemNum, bag]
      apply Demand.served_of_sublist _ _ _ served
      · exact (fewer.filter _).map _
      · rw [itemDemands, List.map_map]
        exact itemDetails_distinct
      · rw [itemDemands, List.map_map]
        exact List.mem_map_of_mem (mem_itemDetails.mpr ⟨member, rfl, item, rfl⟩)

/-- New goals come last and are not finished. -/
theorem more_sound {new : List RoleTaskDetail} {roleID taskID : UInt32}
    (rows : after.roleTaskDetail.rows = before.roleTaskDetail.rows ++ new)
    (fresh : ∀ row ∈ new, row.Named roleID taskID ∧ row.isFinish = false)
    (bag : after.bag = before.bag) (same : after.roleTask = before.roleTask)
    (closed : ∀ row, before.roleTask.find (roleID, taskID) = some row → row.finishStatus ≠ 1)
    (finished : before.FinishedDone) (covered : before.ItemsCovered) :
    after.FinishedDone ∧ after.ItemsCovered := by
  constructor
  · intro key row found one detail member named
    rw [same] at found
    rw [rows] at member
    rcases List.mem_append.mp member with old | added
    · exact finished key row found one detail old named
    · obtain ⟨own, -⟩ := fresh detail added
      have waiting : key = (roleID, taskID) := by
        rw [← own.1, ← own.2, named.1, named.2]
      rw [waiting] at found
      exact absurd one (closed row found)
  · intro row member item done
    rw [rows] at member
    rcases List.mem_append.mp member with old | added
    · obtain ⟨held, served⟩ := covered row old item done
      constructor
      · rw [HasItem, bag]
        exact held
      · rw [bagItemNum, bag, itemDemands, itemDetails, rows, List.filter_append, List.map_append]
        exact Demand.served_append served _
    · rw [(fresh row added).2] at done
      cases done

end Steps

section Events

variable {svc : TaskSvc} {roleID : UInt32} {recorded : UInt32 → UInt32 → List TaskGoal}

/-- The counted details keep their numbers. -/
theorem counted_settles {numbers : Nat → Prop} (inputNum : UInt32) (rows : List RoleTaskDetail)
    (inside : ∀ row ∈ rows, numbers row.detailID) :
    svc.Settles numbers (svc.counted roleID inputNum rows) := by
  induction rows generalizing svc with
  | nil => exact Settles.refl svc
  | cons detail rows ih =>
      have head := inside detail List.mem_cons_self
      have rest : ∀ row ∈ rows, numbers row.detailID := fun row member =>
        inside row (List.mem_cons_of_mem _ member)
      rw [counted]
      split_ifs
      · apply Settles.trans _ (ih rest)
        apply change_settles
        intro row member
        unfold RoleTaskDetail.count
        split_ifs with same
        · exact ⟨⟨rfl, rfl, rfl, rfl⟩, id, fun outside => absurd (same ▸ head) outside⟩
        · exact ⟨RoleTaskDetail.SameGoal.refl row, id, fun _ => rfl⟩
      · exact ((progress_settles detail.goalNum head (Or.inl rfl)).trans
          (refresh_settles roleID detail.taskID)).trans (ih rest)

theorem goalEvent_sound (roleID : UInt32) (event : GoalEvent) (finished : svc.FinishedDone)
    (covered : svc.ItemsCovered) :
    let after := svc.goalEvent roleID event.goalType event.goalID event.inputNum
    after.FinishedDone ∧ after.ItemsCovered ∧ svc.Moves after := by
  intro after
  have settles : svc.Settles (fun number => ∀ row ∈ svc.roleTaskDetail.rows,
      row.detailID = number → row.goalType ≠ 2) after := by
    change Settles _ svc (svc.goalEvent _ _ _ _)
    unfold goalEvent
    split_ifs
    · exact Settles.refl svc
    · apply counted_settles
      intro detail listed row member same
      obtain ⟨stored, counts⟩ := List.mem_filter.mp listed
      obtain rfl := TaskProgram.detailID_injective member stored same
      rw [(of_decide_eq_true counts).2.1]
      exact event.goalType_ne_item
  obtain ⟨done, covers⟩ := settles.sound
    (fun row member inside => inside row member rfl) finished covered
  exact ⟨done, covers, settles.moves⟩

/-- The items behind a change still reach to the goals of finished tasks. -/
def KeepsGoals (svc : TaskSvc) (roleID : UInt32) (bag : BagChange) : Prop :=
  ∀ row ∈ svc.roleTaskDetail.rows, row.Holds roleID bag.itemID →
    (∃ old, svc.roleTask.find (roleID, row.taskID) = some old ∧ old.finishStatus = 1) →
      (svc.changeBag roleID bag).Covers row

/-- The changes of a script are looked at one after the other. -/
def KeepsAllGoals (svc : TaskSvc) (roleID : UInt32) : List BagChange → Prop
  | [] => True
  | bag :: bags => svc.KeepsGoals roleID bag ∧ (svc.bagChanged roleID bag).KeepsAllGoals roleID bags

/-- A change of one item does not matter for the other ones. -/
theorem changeBag_covers {bag : BagChange} {row : RoleTaskDetail}
    (other : ¬ (row.roleID = roleID ∧ row.goalID = bag.itemID)) :
    (svc.changeBag roleID bag).Covers row ↔ svc.Covers row := by
  have rows : (svc.changeBag roleID bag).bag.filter
      (fun held => held.roleID = row.roleID ∧ held.itemID = row.goalID) =
      svc.bag.filter fun held => held.roleID = row.roleID ∧ held.itemID = row.goalID := by
    rw [changeBag, List.filter_append, List.filter_filter]
    have new : (bag.nums.map fun num => (⟨roleID, bag.itemID, num⟩ : HeldItem)).filter
        (fun held => held.roleID = row.roleID ∧ held.itemID = row.goalID) = [] := by
      rw [List.filter_eq_nil_iff]
      intro held member
      obtain ⟨num, -, rfl⟩ := List.mem_map.mp member
      rw [decide_eq_true_iff]
      rintro ⟨role, item⟩
      exact other ⟨role.symm, item.symm⟩
    rw [new, List.append_nil]
    apply List.filter_congr
    intro held member
    rw [Bool.eq_iff_iff, Bool.and_eq_true, decide_eq_true_iff, decide_eq_true_iff,
      and_iff_left_iff_imp]
    rintro ⟨role, item⟩ ⟨sameRole, sameItem⟩
    exact other ⟨role.symm.trans sameRole, item.symm.trans sameItem⟩
  have has (svc : TaskSvc) : svc.HasItem row.roleID row.goalID ↔
      ∃ held, held ∈ svc.bag.filter fun held =>
        held.roleID = row.roleID ∧ held.itemID = row.goalID := by
    simp [HasItem]
  rw [Covers, Covers, has, has, bagItemNum, bagItemNum, rows]
  rfl

theorem bagChanged_sound {bag : BagChange} (keeps : svc.KeepsGoals roleID bag)
    (finished : svc.FinishedDone) (covered : svc.ItemsCovered) (kept : svc.GoalsKept recorded) :
    (svc.bagChanged roleID bag).FinishedDone ∧ (svc.bagChanged roleID bag).ItemsCovered ∧
      (svc.bagChanged roleID bag).GoalsKept recorded := by
  have pending : (svc.changeBag roleID bag).Pending roleID bag.itemID := by
    refine ⟨finished, ?_, keeps⟩
    intro row member item done other
    rw [changeBag_covers fun both => other ⟨both.1, item, both.2⟩]
    exact covered row member item done
  obtain ⟨finished', covered', moves⟩ := recheck_sound pending
  have before : (svc.changeBag roleID bag).GoalsKept recorded := kept
  exact ⟨finished', covered', before.moves moves⟩

theorem itemsChanged_sound {bags : List BagChange} (keeps : svc.KeepsAllGoals roleID bags)
    (finished : svc.FinishedDone) (covered : svc.ItemsCovered) (kept : svc.GoalsKept recorded) :
    (svc.itemsChanged roleID bags).FinishedDone ∧ (svc.itemsChanged roleID bags).ItemsCovered ∧
      (svc.itemsChanged roleID bags).GoalsKept recorded := by
  induction bags generalizing svc with
  | nil => exact ⟨finished, covered, kept⟩
  | cons bag bags ih =>
      obtain ⟨finished', covered', kept'⟩ := bagChanged_sound keeps.1 finished covered kept
      exact ih keeps.2 finished' covered' kept'

theorem reviewed_sound (taskID : UInt32) (finished : svc.FinishedDone) (covered : svc.ItemsCovered) :
    (svc.reviewed roleID taskID).FinishedDone ∧ (svc.reviewed roleID taskID).ItemsCovered ∧
      svc.Moves (svc.reviewed roleID taskID) := by
  obtain ⟨done, covers, items⟩ : (svc.recheckAll roleID).FinishedDone ∧
      (svc.recheckAll roleID).ItemsCovered ∧ svc.Moves (svc.recheckAll roleID) :=
    recheckAll_sound finished covered
  have settles : (svc.recheckAll roleID).Settles (fun _ => False) (svc.reviewed roleID taskID) :=
    refresh_settles roleID taskID
  obtain ⟨done', covers'⟩ := settles.sound (fun _ _ never => never.elim) done covers
  exact ⟨done', covers', items.trans settles.moves⟩

end Events

section Requests

variable {svc : TaskSvc} {roleID : UInt32} {recorded : UInt32 → UInt32 → List TaskGoal}
  {scripts : TaskScripts} {task : Task}

/-- The clean-up finds no goal of an accepted task. -/
def SparesAccepted (svc : TaskSvc) (roleID taskID : UInt32) : Prop :=
  svc.Spares taskID ∨
    ∀ row ∈ svc.roleTaskDetail.rows, row.roleID = roleID → ¬ svc.Accepted roleID row.taskID

theorem cleanDetails_kept {taskID : UInt32} (spares : svc.SparesAccepted roleID taskID)
    (kept : svc.GoalsKept recorded) : (svc.cleanDetails roleID taskID).GoalsKept recorded := by
  intro role other accepted goal listed
  obtain ⟨row, member, named, same⟩ := kept role other accepted goal listed
  refine ⟨row, List.mem_filter.mpr ⟨member, ?_⟩, named, same⟩
  rw [decide_eq_true_iff]
  rintro ⟨own, never⟩
  rcases spares with ⟨spared, stored, number⟩ | closed
  · exact never spared stored number
  · apply closed row member own
    rw [named.2, ← own, named.1]
    exact accepted

theorem recorded_sound (found : svc.task.find task.taskID = some task)
    (acceptable : svc.Acceptable roleID task) (spares : svc.SparesAccepted roleID task.taskID)
    (finished : svc.FinishedDone) (covered : svc.ItemsCovered) (kept : svc.GoalsKept recorded) :
    (svc.recorded scripts roleID task).FinishedDone ∧
      (svc.recorded scripts roleID task).ItemsCovered ∧
      (svc.recorded scripts roleID task).GoalsKept recorded ∧
      ∀ goal ∈ (svc.toDo scripts roleID task).1,
        ∃ row ∈ (svc.recorded scripts roleID task).roleTaskDetail.rows,
          row.Named roleID task.taskID ∧ row.toTaskGoal = goal := by
  obtain ⟨done, covers⟩ : (svc.cleanDetails roleID task.taskID).FinishedDone ∧
      (svc.cleanDetails roleID task.taskID).ItemsCovered :=
    fewer_sound List.filter_sublist rfl (fun key row stored one => ⟨row, stored, one⟩) finished
      covered
  have cleaned := cleanDetails_kept spares kept
  obtain ⟨new, rows, goals, fresh⟩ := (svc.cleanDetails roleID task.taskID).goalsAdded_rows roleID
    task.taskID (svc.toDo scripts roleID task).1
  have closed : ∀ row, (svc.cleanDetails roleID task.taskID).roleTask.find (roleID, task.taskID) =
      some row → row.finishStatus ≠ 1 := fun row stored one =>
    TaskRequest.not_open_of_acceptable found acceptable stored (Or.inr one)
  obtain ⟨done', covers'⟩ : (svc.recorded scripts roleID task).FinishedDone ∧
      (svc.recorded scripts roleID task).ItemsCovered :=
    more_sound rows (fun row member => ⟨(fresh row member).1, (fresh row member).2.1⟩) rfl rfl
      closed done covers
  refine ⟨done', covers', ?_, ?_⟩
  · intro role other accepted goal listed
    obtain ⟨row, member, named, same⟩ := cleaned role other accepted goal listed
    exact ⟨row, rows ▸ List.mem_append_left _ member, named, same⟩
  · intro goal listed
    rw [← goals] at listed
    obtain ⟨row, member, same⟩ := List.mem_map.mp listed
    exact ⟨row, rows ▸ List.mem_append_right _ member, (fresh row member).1, same⟩

theorem opened_find_own (taskID : UInt32) :
    ∀ row, (svc.opened roleID taskID).roleTask.find (roleID, taskID) = some row →
      row.finishStatus = 0 := by
  intro row stored
  unfold opened at stored
  split_ifs at stored with again
  · rw [TaskProgram.setFinishStatus_find] at stored
    obtain ⟨old, found, rfl⟩ := Option.map_eq_some_iff.mp stored
    have key := KeyedTable.find_key found
    rw [RoleTask.key, Prod.mk.injEq] at key
    have named : old.Named roleID taskID := key
    rw [RoleTask.setStatus, if_pos named]
  · obtain ⟨next, inserted⟩ : ∃ next, svc.roleTask.insert ⟨roleID, taskID, 0, 0⟩ = some next :=
      KeyedTable.insert_isSome (Option.not_isSome_iff_eq_none.mp again)
    rw [inserted, Option.getD_some, KeyedTable.find_insert inserted, RoleTask.key, if_pos rfl]
      at stored
    cases stored
    rfl

/-- The registered task starts with its recorded goals. -/
theorem opened_sound {goals : List TaskGoal} {taskID : UInt32}
    (finished : svc.FinishedDone) (covered : svc.ItemsCovered) (kept : svc.GoalsKept recorded)
    (own : ∀ goal ∈ goals, ∃ row ∈ svc.roleTaskDetail.rows,
      row.Named roleID taskID ∧ row.toTaskGoal = goal) :
    (svc.opened roleID taskID).FinishedDone ∧ (svc.opened roleID taskID).ItemsCovered ∧
      (svc.opened roleID taskID).GoalsKept fun role other =>
        if role = roleID ∧ other = taskID then goals else recorded role other := by
  have details := opened_roleTaskDetail svc roleID taskID
  have bag : (svc.opened roleID taskID).bag = svc.bag := by
    unfold opened
    split_ifs <;> rfl
  have waits : ∀ key row, (svc.opened roleID taskID).roleTask.find key = some row →
      row.finishStatus = 1 → ∃ old, svc.roleTask.find key = some old ∧ old.finishStatus = 1 := by
    intro key row stored one
    by_cases same : key = (roleID, taskID)
    · subst same
      rw [opened_find_own taskID row stored] at one
      exact absurd one (by decide)
    · rw [opened_find_other _ _ _ same] at stored
      exact ⟨row, stored, one⟩
  obtain ⟨done, covers⟩ := fewer_sound (by rw [details]) bag waits finished covered
  refine ⟨done, covers, ?_⟩
  intro role other accepted goal listed
  rw [details]
  dsimp only at listed
  split_ifs at listed with same
  · obtain ⟨rfl, rfl⟩ := same
    exact own goal listed
  · apply kept role other _ goal listed
    obtain ⟨row, stored, status⟩ := accepted
    rw [opened_find_other _ _ _ fun key => same (Prod.mk.inj key)] at stored
    exact ⟨row, stored, status⟩

/-- The task is closed and its details are gone. -/
theorem closed_sound {after : TaskSvc} {taskID : UInt32}
    (details : after.roleTaskDetail = (svc.cleared roleID taskID).roleTaskDetail)
    (bag : after.bag = svc.bag)
    (own : ∀ row, after.roleTask.find (roleID, taskID) = some row →
      ¬ (row.finishStatus = 0 ∨ row.finishStatus = 1))
    (others : ∀ key, key ≠ (roleID, taskID) → after.roleTask.find key = svc.roleTask.find key)
    (finished : svc.FinishedDone) (covered : svc.ItemsCovered) (kept : svc.GoalsKept recorded) :
    after.FinishedDone ∧ after.ItemsCovered ∧ after.GoalsKept recorded := by
  have waits : ∀ key row, after.roleTask.find key = some row → row.finishStatus = 1 →
      ∃ old, svc.roleTask.find key = some old ∧ old.finishStatus = 1 := by
    intro key row stored one
    by_cases same : key = (roleID, taskID)
    · subst same
      exact absurd (Or.inr one) (own row stored)
    · rw [others key same] at stored
      exact ⟨row, stored, one⟩
  obtain ⟨done, covers⟩ := fewer_sound (by rw [details]; exact List.filter_sublist) bag waits finished
    covered
  refine ⟨done, covers, ?_⟩
  rintro role other ⟨row, stored, status⟩ goal listed
  have differs : (role, other) ≠ (roleID, taskID) := by
    intro same
    rw [same] at stored
    exact own row stored status
  rw [others _ differs] at stored
  obtain ⟨detail, member, named, same⟩ := kept role other ⟨row, stored, status⟩ goal listed
  refine ⟨detail, ?_, named, same⟩
  rw [details]
  refine List.mem_filter.mpr ⟨member, ?_⟩
  rw [decide_eq_true_iff]
  rintro ⟨sameRole, sameTask⟩
  apply differs
  rw [← named.1, ← named.2, sameRole, sameTask]

theorem setFinishStatus_closed {taskID : UInt32} (addDeliverNum : Nat) :
    ∀ row, (svc.setFinishStatus roleID taskID 2 addDeliverNum).roleTask.find (roleID, taskID) =
      some row → ¬ (row.finishStatus = 0 ∨ row.finishStatus = 1) := by
  intro row stored
  rw [TaskProgram.setFinishStatus_find] at stored
  obtain ⟨old, found, rfl⟩ := Option.map_eq_some_iff.mp stored
  have key := KeyedTable.find_key found
  rw [RoleTask.key, Prod.mk.injEq] at key
  have named : old.Named roleID taskID := key
  rw [RoleTask.setStatus, if_pos named]
  exact (by decide : ¬ ((2 : UInt8) = 0 ∨ (2 : UInt8) = 1))

theorem delivered_sound (roleID taskID : UInt32) (finished : svc.FinishedDone)
    (covered : svc.ItemsCovered) (kept : svc.GoalsKept recorded) :
    (svc.delivered roleID taskID).FinishedDone ∧ (svc.delivered roleID taskID).ItemsCovered ∧
      (svc.delivered roleID taskID).GoalsKept recorded := by
  have details : (svc.delivered roleID taskID).roleTaskDetail =
      (svc.cleared roleID taskID).roleTaskDetail := rfl
  apply closed_sound details rfl (setFinishStatus_closed 1) _ finished covered kept
  intro key differs
  exact TaskProgram.setFinishStatus_find_other _ _ _ _ _ differs

theorem abandoned_sound (roleID : UInt32) (task : Task) (finished : svc.FinishedDone)
    (covered : svc.ItemsCovered)
    (kept : svc.GoalsKept recorded) :
    (svc.abandoned roleID task).FinishedDone ∧ (svc.abandoned roleID task).ItemsCovered ∧
      (svc.abandoned roleID task).GoalsKept recorded := by
  have both : (svc.abandoned roleID task).roleTaskDetail =
      (svc.cleared roleID task.taskID).roleTaskDetail ∧ (svc.abandoned roleID task).bag = svc.bag := by
    unfold abandoned
    split_ifs <;> exact ⟨rfl, rfl⟩
  apply closed_sound both.1 both.2 _ _ finished covered kept
  · intro row stored
    unfold abandoned at stored
    split_ifs at stored
    · rw [KeyedTable.find_keep] at stored
      obtain ⟨found, stays⟩ := Option.filter_eq_some_iff.mp stored
      have key := KeyedTable.find_key found
      rw [RoleTask.key, Prod.mk.injEq] at key
      exact absurd key (of_decide_eq_true stays)
    · exact setFinishStatus_closed 0 row stored
  · intro key differs
    exact TaskRequest.abandoned_find_other differs

end Requests

end TaskSvc

namespace TaskLog

/-- Every look at the bags leaves the goals of the tasks that wait for their delivery covered, and
a clean-up finds no goal of an accepted task. -/
def Steady (scripts : TaskScripts) (log : TaskLog) : TaskEvent → Prop
  | .request roleID (.accept taskID) => ∀ task, log.svc.task.find taskID = some task →
      log.svc.Acceptable roleID task →
      scripts.execCanAcceptScript log.svc roleID task.canAcceptScript = 0 →
        log.svc.SparesAccepted roleID taskID
  | .request roleID (.deliver taskID npcID) => ∀ task, log.svc.task.find taskID = some task →
      npcID = task.exitNpcID → log.svc.status roleID taskID = some 3 →
        (log.svc.delivered roleID taskID).KeepsAllGoals roleID
          (scripts.execAfterDeliverScript (log.svc.delivered roleID taskID) roleID
            task.afterDeliverScript)
  | .bag roleID change => log.svc.KeepsGoals roleID change
  | .request _ (.abandon _) | .goal _ _ | .level _ _ => True

/-- This holds in every state of a steady run. -/
structure Sound (log : TaskLog) : Prop where
  finished : log.svc.FinishedDone
  covered : log.svc.ItemsCovered
  kept : log.svc.GoalsKept log.recorded

section Steps

variable {scripts : TaskScripts} {log next : TaskLog} {roleID : UInt32}

/-- A request that registers nothing records nothing. -/
theorem accept_same {taskID : UInt32} (unregistered : ¬ log.svc.Registered scripts roleID taskID) :
    log.accept roleID taskID ((TaskProgram.processAcceptTask scripts roleID taskID).trace
      TaskStatement.execute log.svc) = log.recorded := by
  rw [accept, if_neg]
  rintro (inserted | restarted)
  · exact unregistered ⟨_, inserted, Or.inl rfl⟩
  · exact unregistered ⟨_, restarted, Or.inr rfl⟩

theorem mem_insertedGoals {statements : List TaskStatement} {goal : TaskGoal} :
    goal ∈ insertedGoals statements ↔ ∃ role task, .insertDetail role task goal ∈ statements := by
  unfold insertedGoals
  rw [List.mem_filterMap]
  constructor
  · rintro ⟨statement, member, same⟩
    cases statement with
    | insertDetail role task other =>
        cases same
        exact ⟨role, task, member⟩
    | _ => cases same
  · rintro ⟨role, task, member⟩
    exact ⟨_, member, rfl⟩

theorem registerTask_inserts (svc : TaskSvc) (task : Task) {role other : UInt32} {goal : TaskGoal}
    (member : .insertDetail role other goal ∈ (TaskProgram.registerTask scripts roleID task).trace
      TaskStatement.execute svc) : goal ∈ (svc.toDo scripts roleID task).1 := by
  rw [TaskProgram.registerTask, Program.trace_statement rfl, Program.trace_statement rfl,
    Program.trace_statement rfl] at member
  change _ ∈ _ :: _ :: _ :: Program.trace _ ((TaskProgram.addGoals roleID task.taskID
    (svc.toDo scripts roleID task).1).bind fun _ =>
      if (svc.toDo scripts roleID task).2 ≠ 0 then _ else _)
      (svc.cleanDetails roleID task.taskID) at member
  rw [Program.trace_bind (TaskProgram.addGoals_run _ _ _ _), TaskProgram.addGoals_trace] at member
  simp only [List.mem_cons, List.mem_append, List.mem_map, reduceCtorEq, false_or] at member
  rcases member with ⟨recorded, listed, same⟩ | rest
  · cases same
    exact listed
  · exfalso
    have quiet (hasRecord : Bool) (after : TaskSvc) : TaskStatement.insertDetail role other goal ∉
        (if hasRecord then
          (.statement (.restartRoleTask roleID task.taskID) fun _ => .done 0 : TaskProgram UInt32)
        else .statement (.insertRoleTask roleID task.taskID) fun _ => .done 0).trace
          TaskStatement.execute after := by
      have only : (if hasRecord then
          (.statement (.restartRoleTask roleID task.taskID) fun _ => .done 0 : TaskProgram UInt32)
          else .statement (.insertRoleTask roleID task.taskID) fun _ => .done 0).Only
            fun statement => statement ≠ .insertDetail role other goal := by
        cases hasRecord <;> exact ⟨by simp, fun _ => trivial⟩
      exact fun inside => only.trace after _ inside rfl
    split at rest
    · cases rest
    · split at rest
      · rw [Program.trace_statement rfl, List.mem_cons] at rest
        rcases rest with delete | record
        · cases delete
        · exact quiet _ _ record
      · exact quiet _ _ rest

theorem insertedGoals_subset {task : Task} (found : log.svc.task.find task.taskID = some task)
    (acceptable : log.svc.Acceptable roleID task)
    (passes : scripts.execCanAcceptScript log.svc roleID task.canAcceptScript = 0) :
    ∀ goal ∈ insertedGoals ((TaskProgram.processAcceptTask scripts roleID task.taskID).trace
      TaskStatement.execute log.svc), goal ∈ (log.svc.toDo scripts roleID task).1 := by
  intro goal listed
  obtain ⟨role, other, member⟩ := mem_insertedGoals.mp listed
  have behind := ((TaskRequest.accept_behind scripts found acceptable).1
    (.insertDetail role other goal) id nofun).mp member
  obtain ⟨after, code, ran⟩ : ∃ after code, (TaskProgram.registerTask scripts roleID task).run
      TaskStatement.execute log.svc = some (after, code) := by
    rw [TaskProgram.registerTask_run log.svc roleID scripts (acceptable.open found)]
    split_ifs <;> exact ⟨_, _, rfl⟩
  rw [TaskProgram.behindScript, if_pos passes, Program.trace_bind ran, List.mem_append] at behind
  rcases behind with registered | rechecked
  · exact registerTask_inserts log.svc task registered
  · exfalso
    split_ifs at rechecked
    · cases rechecked
    · exact (TaskProgram.recheckTask_only roleID task.taskID).trace _ _ rechecked

/-- An acceptance of a steady run keeps the goals of the other tasks and records its own. -/
theorem accept_sound {taskID : UInt32} (sound : log.Sound)
    (steady : log.Steady scripts (.request roleID (.accept taskID)))
    (enabled : log.step scripts (.request roleID (.accept taskID)) = some next) : next.Sound := by
  obtain ⟨⟨after, code⟩, ran, rfl⟩ := Option.map_eq_some_iff.mp enabled
  change (TaskProgram.processAcceptTask scripts roleID taskID).run _ _ = _ at ran
  change Sound ⟨after, log.accept roleID taskID ((TaskProgram.processAcceptTask scripts roleID
    taskID).trace TaskStatement.execute log.svc)⟩
  have registers : log.svc.Registered scripts roleID taskID ↔ _ :=
    TaskProgram.processAcceptTask_registers
  by_cases allowed : ∃ task, log.svc.task.find taskID = some task ∧ log.svc.Acceptable roleID task
  · obtain ⟨task, found, acceptable⟩ := allowed
    obtain rfl := KeyedTable.find_key found
    have computed := TaskProgram.processAcceptTask_run log.svc roleID task.taskID scripts found
      acceptable
    rw [ran] at computed
    by_cases passes : scripts.execCanAcceptScript log.svc roleID task.canAcceptScript = 0
    · rw [if_neg (not_not.mpr passes)] at computed
      obtain ⟨done, covers, kept, own⟩ : (log.svc.recorded scripts roleID task).FinishedDone ∧ _ :=
        TaskSvc.recorded_sound found acceptable (steady task found acceptable passes) sound.finished
          sound.covered sound.kept
      by_cases failed : (log.svc.toDo scripts roleID task).2 ≠ 0
      · rw [if_pos failed] at computed
        cases computed
        rw [accept_same fun registered => by
          obtain ⟨other, stored, -, -, zero⟩ := registers.mp registered
          rw [found] at stored
          cases stored
          exact failed zero]
        exact ⟨done, covers, kept⟩
      · rw [if_neg failed] at computed
        cases computed
        have registered : log.svc.Registered scripts roleID task.taskID :=
          registers.mpr ⟨task, found, acceptable, passes, not_not.mp failed⟩
        have recorded : .insertRoleTask roleID task.taskID ∈ (TaskProgram.processAcceptTask scripts
            roleID task.taskID).trace TaskStatement.execute log.svc ∨
            .restartRoleTask roleID task.taskID ∈ (TaskProgram.processAcceptTask scripts
              roleID task.taskID).trace TaskStatement.execute log.svc := by
          obtain ⟨statement, member, rfl | rfl⟩ := registered
          · exact Or.inl member
          · exact Or.inr member
        rw [accept, if_pos recorded]
        obtain ⟨done', covers', kept'⟩ := TaskSvc.opened_sound done covers kept
          fun goal listed => own goal (insertedGoals_subset found acceptable passes goal listed)
        obtain ⟨done'', covers'', moves⟩ := TaskSvc.reviewed_sound task.taskID done' covers'
        exact ⟨done'', covers'', kept'.moves moves⟩
    · rw [if_pos passes] at computed
      cases computed
      rw [accept_same fun registered => by
        obtain ⟨other, stored, -, zero, -⟩ := registers.mp registered
        rw [found] at stored
        cases stored
        exact passes zero]
      obtain ⟨done, covers, moves⟩ := TaskSvc.reviewed_sound task.taskID sound.finished sound.covered
      exact ⟨done, covers, sound.kept.moves moves⟩
  · have refused : ∀ task, log.svc.task.find taskID = some task →
        ¬ log.svc.Acceptable roleID task := fun task found acceptable =>
      allowed ⟨task, found, acceptable⟩
    obtain ⟨⟨other, -, same⟩, -⟩ :=
      TaskProgram.processAcceptTask_refused log.svc roleID taskID scripts refused
    rw [ran] at same
    cases same
    rw [accept_same fun registered => by
      obtain ⟨task, found, acceptable, -⟩ := registers.mp registered
      exact refused task found acceptable]
    exact sound

theorem step_sound (event : TaskEvent) (sound : log.Sound) (steady : log.Steady scripts event)
    (enabled : log.step scripts event = some next) : next.Sound := by
  cases event with
  | request roleID request =>
      cases request with
      | accept taskID => exact accept_sound sound steady enabled
      | deliver taskID npcID =>
          obtain ⟨⟨after, code⟩, ran, rfl⟩ := Option.map_eq_some_iff.mp enabled
          change (TaskProgram.processDeliverTask scripts roleID taskID npcID).run _ _ = _ at ran
          change Sound ⟨after, log.recorded⟩
          by_cases finished : ∃ task, log.svc.task.find taskID = some task ∧
              npcID = task.exitNpcID ∧ log.svc.status roleID taskID = some 3
          · obtain ⟨task, found, npc, three⟩ := finished
            obtain rfl := KeyedTable.find_key found
            rw [TaskProgram.processDeliverTask_run log.svc roleID task.taskID scripts npcID found npc
              three] at ran
            cases ran
            obtain ⟨done, covers, kept⟩ := TaskSvc.delivered_sound roleID task.taskID sound.finished
              sound.covered sound.kept
            obtain ⟨done', covers', kept'⟩ := TaskSvc.itemsChanged_sound
              (steady task found npc three) done covers kept
            exact ⟨done', covers', kept'⟩
          · obtain ⟨⟨other, -, same⟩, -⟩ := TaskProgram.processDeliverTask_refused log.svc roleID
              taskID scripts npcID fun task found delivers => finished ⟨task, found, delivers⟩
            rw [ran] at same
            cases same
            exact sound
      | abandon taskID =>
          obtain ⟨⟨after, code⟩, ran, rfl⟩ := Option.map_eq_some_iff.mp enabled
          change (TaskProgram.processAbandonTask roleID taskID).run _ _ = _ at ran
          change Sound ⟨after, log.recorded⟩
          by_cases accepted : (log.svc.task.find taskID).isSome ∧ log.svc.Accepted roleID taskID
          · obtain ⟨task, found⟩ := Option.isSome_iff_exists.mp accepted.1
            obtain rfl := KeyedTable.find_key found
            rw [TaskProgram.processAbandonTask_run log.svc roleID task.taskID found accepted.2] at ran
            cases ran
            obtain ⟨done, covers, kept⟩ := TaskSvc.abandoned_sound roleID task sound.finished
              sound.covered sound.kept
            exact ⟨done, covers, kept⟩
          · obtain ⟨other, -, same⟩ :=
              TaskProgram.processAbandonTask_refused log.svc roleID taskID accepted
            rw [ran] at same
            cases same
            exact sound
  | goal roleID event =>
      obtain ⟨⟨after, _⟩, ran, rfl⟩ := Option.map_eq_some_iff.mp enabled
      rw [GoalEvent.program, TaskProgram.updateTaskDetailStatusByNum_run] at ran
      cases ran
      obtain ⟨done, covers, moves⟩ := TaskSvc.goalEvent_sound roleID event sound.finished sound.covered
      exact ⟨done, covers, sound.kept.moves moves⟩
  | bag roleID change =>
      obtain ⟨⟨after, _⟩, ran, rfl⟩ := Option.map_eq_some_iff.mp enabled
      rw [TaskProgram.onBagItemAddOrDelete_run] at ran
      cases ran
      obtain ⟨done, covers, kept⟩ := TaskSvc.bagChanged_sound steady sound.finished sound.covered
        sound.kept
      exact ⟨done, covers, kept⟩
  | level roleID level =>
      cases enabled
      exact ⟨sound.finished, sound.covered, sound.kept⟩

end Steps

/-- The number of an item in the bag of a role. -/
def heldNum (log : TaskLog) (roleID itemID : UInt32) : Nat :=
  ((log.svc.bag.filter fun row => row.roleID = roleID ∧ row.itemID = itemID).map
    fun row => row.num.toNat).sum

/-- A row that waits for its delivery has only finished details. -/
def WaitsDone (log : TaskLog) : Prop :=
  ∀ row ∈ log.svc.roleTask.rows, row.finishStatus = 1 →
    ∀ detail ∈ log.svc.roleTaskDetail.rows, detail.Named row.roleID row.taskID → detail.isFinish

/-- A delivery that is answered with zero finds every recorded goal fulfilled. -/
def DeliversFulfilled (scripts : TaskScripts) (log : TaskLog) : Prop :=
  ∀ roleID taskID npcID after,
    (TaskProgram.processDeliverTask scripts roleID taskID npcID).run TaskStatement.execute log.svc =
      some (after, 0) →
    ∀ goal ∈ log.recorded roleID taskID, ∃ detail ∈ log.svc.roleTaskDetail.rows,
      detail.Named roleID taskID ∧ detail.toTaskGoal = goal ∧ detail.isFinish ∧
        (goal.goalType = 2 → goal.goalNum.toNat ≤ log.heldNum roleID goal.goalID)

theorem foldl_toNat_le (nums : List UInt32) (start : UInt32) :
    (nums.foldl (· + ·) start).toNat ≤ start.toNat + (nums.map UInt32.toNat).sum := by
  induction nums generalizing start with
  | nil => exact Nat.le_refl _
  | cons num nums ih =>
      rw [List.foldl_cons, List.map_cons, List.sum_cons]
      have rest := ih (start + num)
      have wraps : (start + num).toNat ≤ start.toNat + num.toNat := by
        rw [UInt32.toNat_add]
        exact Nat.mod_le _ _
      omega

theorem bagItemNum_le_heldNum (log : TaskLog) (roleID itemID : UInt32) :
    (log.svc.bagItemNum roleID itemID).toNat ≤ log.heldNum roleID itemID := by
  have le := foldl_toNat_le ((log.svc.bag.filter fun row =>
    row.roleID = roleID ∧ row.itemID = itemID).map HeldItem.num) 0
  rw [List.map_map, UInt32.toNat_zero, Nat.zero_add] at le
  exact le

section Runs

variable {scripts : TaskScripts} {log : TaskLog}

theorem Sound.waitsDone (sound : log.Sound) : log.WaitsDone := by
  intro row member one
  exact sound.finished _ row (KeyedTable.find_eq_some_iff.mpr ⟨member, rfl⟩) one

/-- A goal of items that is covered finds its items in the bag. -/
theorem covered_held {row : RoleTaskDetail} (member : row ∈ log.svc.roleTaskDetail.rows)
    (item : row.goalType = 2) (covers : log.svc.Covers row) :
    row.goalNum.toNat ≤ log.heldNum row.roleID row.goalID := by
  have asked : (row.detailID, row.goalNum) ∈ log.svc.itemDemands row.roleID row.goalID :=
    List.mem_map_of_mem (TaskSvc.mem_itemDetails.mpr ⟨member, rfl, item, rfl⟩)
  have distinct : ((log.svc.itemDemands row.roleID row.goalID).map Prod.fst).Nodup := by
    rw [TaskSvc.itemDemands, List.map_map]
    exact TaskSvc.itemDetails_distinct
  have enough := Demand.le_of_served distinct asked covers.2
  exact Nat.le_trans (UInt32.le_iff_toNat_le.mp enough) (log.bagItemNum_le_heldNum _ _)

theorem Sound.deliversFulfilled (sound : log.Sound) : log.DeliversFulfilled scripts := by
  intro roleID taskID npcID after ran goal listed
  by_cases finished : ∃ task, log.svc.task.find taskID = some task ∧ npcID = task.exitNpcID ∧
      log.svc.status roleID taskID = some 3
  · obtain ⟨task, found, -, three⟩ := finished
    obtain ⟨row, stored, one⟩ := (TaskSvc.status_eq_three found).mp three
    obtain ⟨detail, member, named, same⟩ :=
      sound.kept roleID taskID ⟨row, stored, Or.inr one⟩ goal listed
    have done := sound.finished _ row stored one detail member named
    refine ⟨detail, member, named, same, done, ?_⟩
    intro item
    subst same
    have held := covered_held member item (sound.covered detail member item done)
    rw [named.1] at held
    exact held
  · obtain ⟨⟨code, nonzero, same⟩, -⟩ := TaskProgram.processDeliverTask_refused log.svc roleID
      taskID scripts npcID fun task found delivers => finished ⟨task, found, delivers⟩
    rw [ran] at same
    cases same
    exact absurd rfl nonzero

/-- In a steady run a task waits for its delivery with finished goals, and a delivery finds them
fulfilled. -/
theorem run_delivers_fulfilled {start final : TaskLog} {history : History TaskLog TaskEvent}
    (fresh : start.svc.roleTask.rows = [] ∧ start.svc.roleTaskDetail.rows = [])
    (run : Run (step scripts) (Steady scripts) start history final) :
    final.WaitsDone ∧ final.DeliversFulfilled scripts := by
  have missing (key : UInt32 × UInt32) : start.svc.roleTask.find key = none := by
    rw [KeyedTable.find_eq_none_iff, fresh.1]
    intro row member
    cases member
  have initial : start.Sound := by
    constructor
    · intro key row stored
      rw [missing] at stored
      cases stored
    · intro row member
      rw [fresh.2] at member
      cases member
    · rintro roleID taskID ⟨row, stored, -⟩
      rw [missing] at stored
      cases stored
  have sound : final.Sound :=
    run.invariant Sound initial fun log event next before steady enabled =>
      step_sound event before steady enabled
  exact ⟨sound.waitsDone, sound.deliversFulfilled⟩

end Runs

/-- Task 7 asks for two pieces of item 500 and takes them behind its delivery. -/
def collecting : TaskLog where
  svc :=
    { task := ⟨[⟨7, 1, 1, 50, 1, 100, 200, "", "goal", "take"⟩], by decide⟩
      roleTask := KeyedTable.empty
      roleTaskDetail := RoleTaskDetails.empty
      bag := []
      level := fun _ => some 10 }
  recorded _ _ := []

def collectingScripts : TaskScripts :=
  ⟨fun _ _ _ => 0, fun _ _ _ _ => ([⟨2, 500, 2⟩], 0), fun _ _ _ => [⟨500, []⟩]⟩

/-- The items are found before the delivery and taken behind it. -/
theorem run_delivers_fulfilled_collecting :
    ∃ history final, Run (step collectingScripts) (Steady collectingScripts) collecting history
        final ∧
      history.map Prod.snd = [.request 1 (.accept 7), .bag 1 ⟨500, [2]⟩] ∧
      (∃ after, (TaskProgram.processDeliverTask collectingScripts 1 7 200).run
        TaskStatement.execute final.svc = some (after, 0)) ∧
      final.WaitsDone ∧ final.DeliversFulfilled collectingScripts := by
  have replayed := run_of_replay (show replay (step collectingScripts) collecting
    [.request 1 (.accept 7), .bag 1 ⟨500, [2]⟩] = some _ from rfl)
  have run : Run (step collectingScripts) (Steady collectingScripts) _ _ _ := replayed.restrict (by
    intro entry member
    simp only [List.mem_cons, List.not_mem_nil, or_false] at member
    rcases member with rfl | rfl
    · intro task found acceptable passes
      right
      intro row member
      cases member
    · intro row member holds
      rintro ⟨old, found, one⟩
      have stored : old ∈ [(⟨1, 7, 0, 0⟩ : RoleTask)] := (KeyedTable.find_eq_some_iff.mp found).1
      rw [List.mem_singleton.mp stored] at one
      cases one)
  exact ⟨_, _, run, rfl, ⟨_, rfl⟩, run_delivers_fulfilled ⟨rfl, rfl⟩ run⟩

/-- The items leave the bag again. The task keeps waiting for its delivery, which is still answered
with zero. -/
theorem collecting_delivers_unfulfilled :
    ¬ ∀ (scripts : TaskScripts) (start final : TaskLog) (history : History TaskLog TaskEvent),
      start.svc.roleTask.rows = [] ∧ start.svc.roleTaskDetail.rows = [] →
        Run (step scripts) anyEvent start history final →
          final.WaitsDone ∧ final.DeliversFulfilled scripts := by
  intro claim
  have run := run_of_replay (show replay (step collectingScripts) collecting
    [.request 1 (.accept 7), .bag 1 ⟨500, [2]⟩, .bag 1 ⟨500, []⟩] = some _ from rfl)
  obtain ⟨-, delivers⟩ := claim collectingScripts collecting _ _ ⟨rfl, rfl⟩ run
  obtain ⟨detail, -, -, -, -, held⟩ := delivers 1 7 200 _ rfl ⟨2, 500, 2⟩ List.mem_cons_self
  exact absurd (held rfl) (by decide)

end TaskLog

end AppSvr.MainServer
