/-
This file compares the tasks that a role is offered with the ones that it can accept.
-/

import AppSvr.Construction.MainServer.TaskOffers
import AppSvr.Proof.MainServer.TaskRuns

namespace AppSvr.MainServer

open Programs

namespace TaskSvc

section Levels

variable {svc : TaskSvc} {roleID level : UInt32} {task : Task}

theorem find_roleTask_eq_none (roleID taskID : UInt32) :
    svc.roleTask.find (roleID, taskID) = none ↔
      ¬ ∃ row ∈ svc.roleTask.rows, row.roleID = roleID ∧ row.taskID = taskID := by
  rw [KeyedTable.find_eq_none_iff]
  simp [RoleTask.key]

/-- The two parts of the union are the two ways to be open at this level. -/
theorem candidate_iff (online : svc.level roleID = some level)
    (found : svc.task.find task.taskID = some task) :
    svc.NeverAccepted roleID level task ∨ svc.DailyAgain roleID level task ↔
      task.minLevel ≤ level ∧ svc.status roleID task.taskID = some 1 := by
  rw [status_eq_one found, find_roleTask_eq_none, NeverAccepted, DailyAgain, and_or_left]
  apply or_congr Iff.rfl
  constructor
  · rintro ⟨daily, low, high, row, member, role, same, finished, left⟩
    refine ⟨low, row, level, ?_, online, daily, finished, left, high⟩
    rw [KeyedTable.find_eq_some_iff, RoleTask.key, role, same]
    exact ⟨member, rfl⟩
  · rintro ⟨low, row, _, stored, present, daily, finished, left, high⟩
    rw [online] at present
    cases present
    obtain ⟨member, key⟩ := KeyedTable.find_eq_some_iff.mp stored
    rw [RoleTask.key, Prod.mk.injEq] at key
    exact ⟨daily, low, high, row, member, key.1, key.2.symm, finished, left⟩

theorem acceptable_iff (online : svc.level roleID = some level) :
    svc.Acceptable roleID task ↔
      (task.minLevel ≤ level ∧ svc.status roleID task.taskID = some 1) ∧
        level ≤ task.maxLevel := by
  unfold Acceptable
  rw [online]
  simp only [Option.some.injEq, exists_eq_left']
  tauto

end Levels

end TaskSvc

/-- This statement makes the task a running one of the role. -/
def TaskStatement.Registers (roleID taskID : UInt32) (statement : TaskStatement) : Prop :=
  statement = .insertRoleTask roleID taskID ∨ statement = .restartRoleTask roleID taskID

theorem TaskStatement.Rechecks.not_registers {roleID other taskID : UInt32}
    {statement : TaskStatement} (rechecks : statement.Rechecks other) :
    ¬ statement.Registers roleID taskID := by
  rintro (rfl | rfl) <;> exact rechecks

namespace TaskProgram

section Registers

variable {scripts : TaskScripts} {svc : TaskSvc} {roleID taskID : UInt32} {task : Task}

theorem only_rechecks_trace {Result : Type} {program : TaskProgram Result}
    (only : program.Only (TaskStatement.Rechecks roleID)) (svc : TaskSvc) :
    ¬ ∃ statement ∈ program.trace TaskStatement.execute svc,
      statement.Registers roleID taskID := by
  rintro ⟨statement, member, registers⟩
  exact (only.trace svc statement member).not_registers registers

theorem addGoals_trace (goals : List TaskGoal) (svc : TaskSvc) :
    (addGoals roleID taskID goals).trace TaskStatement.execute svc =
      goals.map fun goal => .insertDetail roleID taskID goal := by
  induction goals generalizing svc with
  | nil => rfl
  | cons goal goals ih =>
      rw [addGoals, Program.trace_statement rfl, ih, List.map_cons]

/-- The record of a task is written by one of its two statements. -/
theorem record_registers (hasRecord : Bool) :
    ∃ statement : TaskStatement, statement.Registers roleID taskID ∧ ∀ svc, statement ∈
      (if hasRecord then
        (.statement (.restartRoleTask roleID taskID) fun _ => .done 0 : TaskProgram UInt32)
      else .statement (.insertRoleTask roleID taskID) fun _ => .done 0).trace
        TaskStatement.execute svc := by
  split_ifs
  · exact ⟨_, Or.inr rfl, fun _ => List.mem_cons_self⟩
  · exact ⟨_, Or.inl rfl, fun _ => List.mem_cons_self⟩

/-- The record is written behind a to-do script that succeeds. -/
theorem registerTask_registers :
    (∃ statement ∈ (registerTask scripts roleID task).trace TaskStatement.execute svc,
      statement.Registers roleID task.taskID) ↔ (svc.toDo scripts roleID task).2 = 0 := by
  rw [registerTask, Program.trace_statement rfl, Program.trace_statement rfl,
    Program.trace_statement rfl]
  change (∃ statement ∈ _ :: _ :: _ ::
    Program.trace _ ((addGoals roleID task.taskID (svc.toDo scripts roleID task).1).bind fun _ =>
      if (svc.toDo scripts roleID task).2 ≠ 0 then _ else _)
      (svc.cleanDetails roleID task.taskID), _) ↔ _
  rw [Program.trace_bind (addGoals_run _ _ _ _), addGoals_trace]
  constructor
  · rintro ⟨statement, member, registers⟩
    by_contra failed
    rw [if_pos failed, Program.trace_done, List.append_nil] at member
    simp only [List.mem_cons, List.mem_map] at member
    rcases member with rfl | rfl | rfl | ⟨goal, -, rfl⟩ <;> rcases registers with same | same <;>
      cases same
  · intro succeeded
    rw [if_neg (not_not.mpr succeeded)]
    dsimp only
    obtain ⟨statement, registers, member⟩ := record_registers
      (svc.roleTask.find (roleID, task.taskID)).isSome
    refine ⟨statement, ?_, registers⟩
    by_cases stale : task.taskType ≠ taskTypeDaily ∧
        (svc.roleTask.find (roleID, task.taskID)).isSome
    · rw [if_pos stale, Program.trace_statement rfl]
      simp only [List.mem_cons, List.mem_append, member, or_true]
    · rw [if_neg stale]
      simp only [List.mem_cons, List.mem_append, member, or_true]

theorem registers_append (first second : List TaskStatement) :
    (∃ statement ∈ first ++ second, statement.Registers roleID taskID) ↔
      (∃ statement ∈ first, statement.Registers roleID taskID) ∨
        ∃ statement ∈ second, statement.Registers roleID taskID := by
  simp only [List.mem_append, or_and_right, exists_or]

/-- An acceptance registers the task that passes its checks and both of its scripts. -/
theorem processAcceptTask_registers :
    (∃ statement ∈ (processAcceptTask scripts roleID taskID).trace TaskStatement.execute svc,
      statement.Registers roleID taskID) ↔
      ∃ task, svc.task.find taskID = some task ∧ svc.Acceptable roleID task ∧
        scripts.execCanAcceptScript svc roleID task.canAcceptScript = 0 ∧
          (svc.toDo scripts roleID task).2 = 0 := by
  have check : ¬ ∃ statement ∈ (checkAcceptTask roleID taskID).trace TaskStatement.execute svc,
      statement.Registers roleID taskID :=
    only_rechecks_trace ((checkAcceptTask_reads roleID taskID).mono fun _ reads =>
      reads.rechecks roleID) svc
  have recheck (svc : TaskSvc) : ¬ ∃ statement ∈
      (recheckTask roleID taskID).trace TaskStatement.execute svc,
        statement.Registers roleID taskID :=
    only_rechecks_trace (recheckTask_only roleID taskID) svc
  rcases checkAcceptTask_run svc roleID taskID with ⟨task, found, acceptable, ran⟩ |
    ⟨refused, code, -, ran⟩
  · obtain rfl := KeyedTable.find_key found
    rw [processAcceptTask, Program.trace_bind ran, registers_append, or_iff_right check, found]
    simp only [Option.some.injEq, exists_eq_left', acceptable, true_and]
    have script : ¬ (TaskStatement.canAcceptScript roleID task.taskID).Registers roleID
        task.taskID := by
      rintro (same | same) <;> cases same
    rw [Program.trace_statement rfl, List.exists_mem_cons_iff, or_iff_right script]
    by_cases passes : scripts.execCanAcceptScript svc roleID task.canAcceptScript = 0
    · rw [if_pos passes, iff_true_intro passes, true_and, ← registerTask_registers]
      obtain ⟨after, code, ran⟩ : ∃ after code, (registerTask scripts roleID task).run
          TaskStatement.execute svc = some (after, code) := by
        rw [registerTask_run svc roleID scripts (acceptable.open found)]
        split_ifs <;> exact ⟨_, _, rfl⟩
      rw [Program.trace_bind ran, registers_append, or_iff_left]
      split_ifs
      · rintro ⟨statement, member, -⟩
        cases member
      · exact recheck after
    · rw [if_neg passes]
      exact iff_of_false (recheck svc) fun both => passes both.1
  · rw [processAcceptTask, Program.trace_bind ran, registers_append, or_iff_right check]
    apply iff_of_false
    · rintro ⟨statement, member, -⟩
      cases member
    · rintro ⟨task, found, acceptable, -⟩
      exact refused task found acceptable

end Registers

end TaskProgram

namespace TaskSvc

section Offers

variable (scripts : TaskScripts) (npcScripts : NpcScripts) (svc : TaskSvc)
  (roleID taskID npcID level : UInt32) (task : Task)

/-- A request to accept the task registers it. -/
def Registered : Prop :=
  ∃ statement ∈ (TaskProgram.processAcceptTask scripts roleID taskID).trace
    TaskStatement.execute svc, statement.Registers roleID taskID

/-- A role is offered exactly a task that it can accept, and the answer zero confirms that. -/
structure OffersTask : Prop where
  listed : (∃ info ∈ svc.getRoleCanAcceptTask scripts roleID, info.taskID = taskID) ↔
    svc.Registered scripts roleID taskID
  shown : ∀ lti, svc.processGetRoleTask scripts roleID = .ok lti →
    ((∃ info ∈ lti, info.taskStatus = 1 ∧ info.taskID = taskID) ↔
      svc.Registered scripts roleID taskID)
  answered : ∀ after, (TaskProgram.processAcceptTask scripts roleID taskID).run
    TaskStatement.execute svc = some (after, 0) → svc.Registered scripts roleID taskID

/-- No accepted task of the role ends at the NPC. -/
def FreeNpc : Prop :=
  ∀ task ∈ svc.task.rows, task.exitNpcID = npcID → ¬ svc.Accepted roleID task.taskID

/-- An NPC shows that it has a task exactly if the role can accept one there. -/
def SignsTask : Prop :=
  ∀ level, svc.level roleID = some level →
    (NpcSvc.getNpcStatus npcScripts svc roleID level npcID = 1 ↔
      svc.FreeNpc roleID npcID ∧ ∃ task ∈ svc.task.rows, task.entryNpcID = npcID ∧
        svc.Registered scripts roleID task.taskID)

/-- The task has the lower bound and the status of an offer. -/
def Open : Prop := task.minLevel ≤ level ∧ svc.status roleID task.taskID = some 1

/-- The acceptance script refuses a role above the levels of the task. Within the levels both
scripts agree to the task. -/
structure ScriptsFollow : Prop where
  above : svc.Open roleID level task → level > task.maxLevel →
    scripts.execCanAcceptScript svc roleID task.canAcceptScript ≠ 0
  within : svc.Open roleID level task → level ≤ task.maxLevel →
    scripts.execCanAcceptScript svc roleID task.canAcceptScript = 0 ∧
      (svc.toDo scripts roleID task).2 = 0

/-- The NPC service and the task service find a task at the NPC together. -/
def NpcFollows : Prop :=
  (∃ task ∈ svc.task.rows, task.entryNpcID = npcID ∧ svc.Open roleID level task ∧
      NpcSvc.execCanAcceptScript npcScripts svc roleID task.canAcceptScript = 0) ↔
    ∃ task ∈ svc.task.rows, task.entryNpcID = npcID ∧ svc.Open roleID level task ∧
      level ≤ task.maxLevel ∧
      scripts.execCanAcceptScript svc roleID task.canAcceptScript = 0 ∧
        (svc.toDo scripts roleID task).2 = 0

end Offers

section Offers

variable {scripts : TaskScripts} {npcScripts : NpcScripts} {svc : TaskSvc}
  {roleID taskID npcID level : UInt32} {task : Task}

theorem find_task (member : task ∈ svc.task.rows) : svc.task.find task.taskID = some task :=
  KeyedTable.find_eq_some_iff.mpr ⟨member, rfl⟩

theorem mem_selectCanAcceptTask (online : svc.level roleID = some level) :
    task ∈ svc.selectCanAcceptTask roleID level ↔
      task ∈ svc.task.rows ∧ svc.Open roleID level task := by
  rw [selectCanAcceptTask, List.mem_append, List.mem_filter, List.mem_filter, ← and_or_left]
  apply and_congr_right
  intro member
  rw [decide_eq_true_iff, decide_eq_true_iff, candidate_iff online (find_task member), Open]

/-- The upper bound of the level stands beside the checks of an offer. -/
theorem registered_iff (online : svc.level roleID = some level)
    (found : svc.task.find taskID = some task) :
    svc.Registered scripts roleID taskID ↔ svc.Open roleID level task ∧ level ≤ task.maxLevel ∧
      scripts.execCanAcceptScript svc roleID task.canAcceptScript = 0 ∧
        (svc.toDo scripts roleID task).2 = 0 := by
  rw [Registered, TaskProgram.processAcceptTask_registers, found]
  simp only [Option.some.injEq, exists_eq_left', acceptable_iff online, Open, and_assoc]

theorem mem_canAcceptTask (online : svc.level roleID = some level)
    (found : svc.task.find taskID = some task) :
    (∃ other ∈ svc.canAcceptTask scripts roleID level, other.taskID = taskID) ↔
      svc.Open roleID level task ∧
        scripts.execCanAcceptScript svc roleID task.canAcceptScript = 0 := by
  obtain ⟨member, rfl⟩ := KeyedTable.find_eq_some_iff.mp found
  constructor
  · rintro ⟨other, listed, same⟩
    obtain ⟨candidate, passes⟩ := List.mem_filter.mp listed
    obtain ⟨stored, open_⟩ := (mem_selectCanAcceptTask online).mp candidate
    obtain rfl := List.inj_on_of_nodup_map svc.task.distinct stored member same
    exact ⟨open_, by simpa using passes⟩
  · rintro ⟨open_, passes⟩
    refine ⟨task, List.mem_filter.mpr ⟨?_, by simpa using passes⟩, rfl⟩
    exact (mem_selectCanAcceptTask online).mpr ⟨member, open_⟩

theorem listed_iff (online : svc.level roleID = some level)
    (found : svc.task.find taskID = some task) :
    (∃ info ∈ svc.getRoleCanAcceptTask scripts roleID, info.taskID = taskID) ↔
      svc.Open roleID level task ∧
        scripts.execCanAcceptScript svc roleID task.canAcceptScript = 0 := by
  rw [← mem_canAcceptTask online found, getRoleCanAcceptTask, online]
  simp [taskInfo]

/-- Only the offers of the list have the status one. -/
theorem shown_iff (online : svc.level roleID = some level)
    (found : svc.task.find taskID = some task) {lti : List TaskInfo}
    (answered : svc.processGetRoleTask scripts roleID = .ok lti) :
    (∃ info ∈ lti, info.taskStatus = 1 ∧ info.taskID = taskID) ↔
      svc.Open roleID level task ∧
        scripts.execCanAcceptScript svc roleID task.canAcceptScript = 0 := by
  rw [processGetRoleTask, online] at answered
  cases answered
  rw [← mem_canAcceptTask online found]
  simp [taskInfo, or_and_right, exists_or]

theorem answered_iff (online : svc.level roleID = some level)
    (found : svc.task.find taskID = some task) :
    (∃ after, (TaskProgram.processAcceptTask scripts roleID taskID).run TaskStatement.execute svc =
        some (after, 0)) ↔
      svc.Open roleID level task ∧ level ≤ task.maxLevel ∧
        (scripts.execCanAcceptScript svc roleID task.canAcceptScript = 0 →
          (svc.toDo scripts roleID task).2 = 0) := by
  obtain rfl := KeyedTable.find_key found
  by_cases acceptable : svc.Acceptable roleID task
  · rw [TaskProgram.processAcceptTask_run svc roleID _ scripts found acceptable]
    rw [acceptable_iff online] at acceptable
    simp only [Open, acceptable, true_and]
    split_ifs with refused failed
    · simp [refused]
    · simp only [not_not] at refused
      simp [refused, failed, errAppOp]
    · simp only [not_not] at failed
      simp [failed]
  · obtain ⟨⟨code, nonzero, ran⟩, -⟩ := TaskProgram.processAcceptTask_refused svc roleID
      task.taskID scripts (by
        rintro other stored
        rw [found] at stored
        cases stored
        exact acceptable)
    rw [ran]
    rw [acceptable_iff online] at acceptable
    apply iff_of_false
    · rintro ⟨after, same⟩
      cases same
      exact nonzero rfl
    · rintro ⟨open_, high, -⟩
      exact acceptable ⟨open_, high⟩

theorem canAcceptTask_find {other : Task}
    (listed : other ∈ svc.canAcceptTask scripts roleID level) :
    svc.task.find other.taskID = some other := by
  have candidate := (List.mem_filter.mp listed).1
  apply find_task
  rcases List.mem_append.mp candidate with new | again
  · exact List.mem_of_mem_filter new
  · exact List.mem_of_mem_filter again

/-- Without a level or without the task there is no offer and no acceptance. -/
theorem offersTask_absent (absent : svc.level roleID = none ∨ svc.task.find taskID = none) :
    svc.OffersTask scripts roleID taskID := by
  have refused : ∀ task, svc.task.find taskID = some task → ¬ svc.Acceptable roleID task := by
    rintro task found ⟨level, online, -⟩
    rcases absent with offline | unknown
    · rw [offline] at online
      cases online
    · rw [unknown] at found
      cases found
  have unregistered : ¬ svc.Registered scripts roleID taskID := by
    rw [Registered, TaskProgram.processAcceptTask_registers]
    rintro ⟨task, found, acceptable, -⟩
    exact refused task found acceptable
  have unlisted (level : UInt32) (online : svc.level roleID = some level) :
      ¬ ∃ other ∈ svc.canAcceptTask scripts roleID level, other.taskID = taskID := by
    rintro ⟨other, listed, rfl⟩
    rcases absent with offline | unknown
    · rw [offline] at online
      cases online
    · rw [canAcceptTask_find listed] at unknown
      cases unknown
  constructor
  · apply iff_of_false _ unregistered
    cases online : svc.level roleID with
    | none => simp [getRoleCanAcceptTask, online]
    | some level => simpa [getRoleCanAcceptTask, online, taskInfo] using unlisted level online
  · intro lti answered
    apply iff_of_false _ unregistered
    cases online : svc.level roleID with
    | none =>
        rw [processGetRoleTask, online] at answered
        cases answered
    | some level =>
        rw [processGetRoleTask, online] at answered
        cases answered
        simpa [taskInfo, or_and_right, exists_or] using unlisted level online
  · intro after ran
    obtain ⟨⟨code, nonzero, same⟩, -⟩ :=
      TaskProgram.processAcceptTask_refused svc roleID taskID scripts refused
    rw [same] at ran
    cases ran
    exact absurd rfl nonzero

theorem offersTask_iff :
    svc.OffersTask scripts roleID taskID ↔ ∀ level, svc.level roleID = some level →
      ∀ task, svc.task.find taskID = some task → svc.ScriptsFollow scripts roleID level task := by
  constructor
  · intro offers level online task found
    have listed := offers.listed
    rw [listed_iff online found, registered_iff online found] at listed
    constructor
    · intro open_ above passes
      exact UInt32.not_lt.mpr (listed.mp ⟨open_, passes⟩).2.1 above
    · intro open_ high
      by_cases passes : scripts.execCanAcceptScript svc roleID task.canAcceptScript = 0
      · exact (listed.mp ⟨open_, passes⟩).2.2
      · obtain ⟨after, ran⟩ : ∃ after, (TaskProgram.processAcceptTask scripts roleID taskID).run
            TaskStatement.execute svc = some (after, 0) :=
          (answered_iff online found).mpr ⟨open_, high, fun zero => absurd zero passes⟩
        have registered := offers.answered after ran
        rw [registered_iff online found] at registered
        exact registered.2.2
  · intro follows
    cases online : svc.level roleID with
    | none => exact offersTask_absent (Or.inl online)
    | some level =>
        cases found : svc.task.find taskID with
        | none => exact offersTask_absent (Or.inr found)
        | some task =>
            have scriptsFollow := follows level online task found
            have offered : svc.Open roleID level task ∧
                scripts.execCanAcceptScript svc roleID task.canAcceptScript = 0 ↔
                svc.Registered scripts roleID taskID := by
              rw [registered_iff online found]
              constructor
              · rintro ⟨open_, passes⟩
                have high : level ≤ task.maxLevel :=
                  UInt32.not_lt.mp fun above => scriptsFollow.above open_ above passes
                exact ⟨open_, high, scriptsFollow.within open_ high⟩
              · rintro ⟨open_, -, passes, -⟩
                exact ⟨open_, passes⟩
            constructor
            · rw [listed_iff online found, offered]
            · intro lti answered
              rw [shown_iff online found answered, offered]
            · intro after ran
              obtain ⟨open_, high, -⟩ := (answered_iff online found).mp ⟨after, ran⟩
              rw [registered_iff online found]
              exact ⟨open_, high, scriptsFollow.within open_ high⟩

theorem mem_selectFinishStatus (finishStatus : UInt8) :
    task ∈ svc.selectFinishStatus roleID finishStatus ↔ task ∈ svc.task.rows ∧
      ∃ row, svc.roleTask.find (roleID, task.taskID) = some row ∧
        row.finishStatus = finishStatus := by
  rw [selectFinishStatus, List.mem_filter, decide_eq_true_iff]
  apply and_congr_right
  intro member
  constructor
  · rintro ⟨row, stored, role, status, same⟩
    refine ⟨row, KeyedTable.find_eq_some_iff.mpr ⟨stored, ?_⟩, status⟩
    rw [RoleTask.key, role, same]
  · rintro ⟨row, found, status⟩
    obtain ⟨stored, key⟩ := KeyedTable.find_eq_some_iff.mp found
    rw [RoleTask.key, Prod.mk.injEq] at key
    exact ⟨row, stored, key.1, status, key.2⟩

/-- The first two queries of the sign look for accepted tasks. -/
theorem freeNpc_iff : svc.FreeNpc roleID npcID ↔
    (¬ ∃ task ∈ svc.selectFinishStatus roleID taskFinishStatusFinished, task.exitNpcID = npcID) ∧
      ¬ ∃ task ∈ svc.selectFinishStatus roleID taskFinishStatusNotFinished,
        task.exitNpcID = npcID := by
  simp only [FreeNpc, Accepted, mem_selectFinishStatus, taskFinishStatusFinished,
    taskFinishStatusNotFinished]
  constructor
  · intro free
    constructor
    · rintro ⟨task, ⟨member, row, found, finished⟩, npc⟩
      exact free task member npc ⟨row, found, Or.inr finished⟩
    · rintro ⟨task, ⟨member, row, found, unfinished⟩, npc⟩
      exact free task member npc ⟨row, found, Or.inl unfinished⟩
  · rintro ⟨noFinished, noUnfinished⟩ task member npc ⟨row, found, unfinished | finished⟩
    · exact noUnfinished ⟨task, ⟨member, row, found, unfinished⟩, npc⟩
    · exact noFinished ⟨task, ⟨member, row, found, finished⟩, npc⟩

theorem getNpcStatus_eq_one (online : svc.level roleID = some level) :
    NpcSvc.getNpcStatus npcScripts svc roleID level npcID = 1 ↔ svc.FreeNpc roleID npcID ∧
      ∃ task ∈ svc.task.rows, task.entryNpcID = npcID ∧ svc.Open roleID level task ∧
        NpcSvc.execCanAcceptScript npcScripts svc roleID task.canAcceptScript = 0 := by
  rw [freeNpc_iff]
  have candidates : (∃ task ∈ svc.selectCanAcceptTask roleID level, task.entryNpcID = npcID ∧
      NpcSvc.execCanAcceptScript npcScripts svc roleID task.canAcceptScript = 0) ↔
      ∃ task ∈ svc.task.rows, task.entryNpcID = npcID ∧ svc.Open roleID level task ∧
        NpcSvc.execCanAcceptScript npcScripts svc roleID task.canAcceptScript = 0 := by
    simp only [mem_selectCanAcceptTask online]
    apply exists_congr
    intro task
    tauto
  rw [← candidates, NpcSvc.getNpcStatus]
  split_ifs <;> simp_all

theorem signsTask_iff :
    svc.SignsTask scripts npcScripts roleID npcID ↔ ∀ level, svc.level roleID = some level →
      svc.FreeNpc roleID npcID → svc.NpcFollows scripts npcScripts roleID npcID level := by
  apply forall_congr'
  intro level
  apply imp_congr_right
  intro online
  have registered : (∃ task ∈ svc.task.rows, task.entryNpcID = npcID ∧
      svc.Registered scripts roleID task.taskID) ↔
      ∃ task ∈ svc.task.rows, task.entryNpcID = npcID ∧ svc.Open roleID level task ∧
        level ≤ task.maxLevel ∧ scripts.execCanAcceptScript svc roleID task.canAcceptScript = 0 ∧
          (svc.toDo scripts roleID task).2 = 0 := by
    apply exists_congr
    intro task
    apply and_congr_right
    intro member
    rw [registered_iff online (find_task member)]
  rw [getNpcStatus_eq_one online, registered, and_congr_right_iff]
  rfl

end Offers

/-- The offers of every task and every NPC are exact under the conditions on the scripts. -/
theorem offers_iff_scripts_follow (scripts : TaskScripts) (npcScripts : NpcScripts)
    (svc : TaskSvc) (roleID : UInt32) :
    (∀ taskID, svc.OffersTask scripts roleID taskID ↔
      ∀ level, svc.level roleID = some level → ∀ task, svc.task.find taskID = some task →
        svc.ScriptsFollow scripts roleID level task) ∧
    ∀ npcID, svc.SignsTask scripts npcScripts roleID npcID ↔
      ∀ level, svc.level roleID = some level → svc.FreeNpc roleID npcID →
        svc.NpcFollows scripts npcScripts roleID npcID level :=
  ⟨fun _ => offersTask_iff, fun _ => signsTask_iff⟩

/-- The role has passed the levels of a task that it never accepted. -/
def outgrown : TaskSvc where
  task := ⟨[⟨7, 1, 10, 20, 1, 100, 200, "", "", ""⟩], by decide⟩
  roleTask := KeyedTable.empty
  roleTaskDetail := RoleTaskDetails.empty
  bag := []
  level roleID := if roleID = 1 then some 30 else none

/-- The list offers the task to the role, and the role cannot accept it. -/
theorem outgrown_offered_not_acceptable :
    ¬ ∀ scripts npcScripts svc roleID, (∀ taskID, OffersTask scripts svc roleID taskID) ∧
      ∀ npcID, SignsTask scripts npcScripts svc roleID npcID := by
  intro exact_
  let scripts : TaskScripts := ⟨fun _ _ _ => 0, fun _ _ _ _ => ([], 0), fun _ _ _ => []⟩
  have offers := (exact_ scripts ⟨fun _ _ _ => 0⟩ outgrown 1).1 7
  have listed : ∃ info ∈ outgrown.getRoleCanAcceptTask scripts 1, info.taskID = 7 :=
    ⟨⟨7, 1, 1, []⟩, by decide +kernel, rfl⟩
  obtain ⟨statement, member, registers⟩ := offers.listed.mp listed
  have trace : (TaskProgram.processAcceptTask scripts 1 7).trace TaskStatement.execute outgrown =
      [.selectTask 7] := rfl
  rw [trace, List.mem_singleton] at member
  rw [member] at registers
  rcases registers with same | same <;> cases same

end TaskSvc

end AppSvr.MainServer
