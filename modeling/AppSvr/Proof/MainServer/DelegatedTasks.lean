/-
This file shows when delegated tasks are paid, completed and rewarded once.
-/

import AppSvr.Construction.MainServer.DelegateSvc
import AppSvr.Proof.MainServer.MoneyUpdates
import AppSvr.ToMathlib.KeyedTable

namespace AppSvr.MainServer.DelegateSvc

open TransitionSystem

variable {svc : DelegateSvc} {roleID taskID other task' delegateID : UInt32}
  {row : RoleDelegate} {task : DelegateTask}

/-- A delegation of this day is not finished. -/
def Running (svc : DelegateSvc) (row : RoleDelegate) : Prop :=
  row.begDate = svc.today ∧ row.isFinish = false

instance (svc : DelegateSvc) (row : RoleDelegate) : Decidable (Running svc row) :=
  inferInstanceAs (Decidable (_ ∧ _))

/-- The number of running rows with a key. -/
def runningNum (svc : DelegateSvc) (delegateID : UInt32) : Nat :=
  svc.rows.countP fun row => row.delegateID = delegateID ∧ svc.Running row

/-- The tasks that a running row still owes. -/
def owed (row : RoleDelegate) : Nat := if row.isFinish then 0 else row.delegateNum

/-- The rows of this day keep to their tasks, one for every role and task. -/
structure TableSound (svc : DelegateSvc) : Prop where
  distinct : (svc.rows.map RoleDelegate.delegateID).Nodup
  issued : ∀ row ∈ svc.rows,
    0 < row.delegateID.toNat ∧ row.delegateID.toNat ≤ svc.lastDelegateID
  unique : ∀ roleID taskID, (svc.todays roleID taskID).length ≤ 1
  bounded : ∀ row ∈ svc.rows, row.begDate = svc.today →
    ∃ task, svc.task row.taskID = some task ∧ task.taskType = 3 ∧
      row.finishNum + owed row ≤ task.maxDelegateNum.toNat

/-- Every running row has its timer. -/
structure Sound (svc : DelegateSvc) : Prop extends TableSound svc where
  single : ∀ row ∈ svc.rows, svc.Running row → row.delegateNum = 1
  timed : ∀ delegateID, svc.timers.count delegateID = svc.runningNum delegateID
  gold : ∀ roleID gold, svc.gold roleID = some gold → gold < 2147483648

section Rows

theorem mem_todays : row ∈ svc.todays roleID taskID ↔
    row ∈ svc.rows ∧ row.roleID = roleID ∧ row.taskID = taskID ∧ row.begDate = svc.today := by
  simp [todays]

theorem todays_deleteOld : svc.deleteOld.todays roleID taskID = svc.todays roleID taskID := by
  rw [todays, deleteOld, List.filter_filter, todays]
  apply List.filter_congr
  intro row _
  by_cases today : row.begDate = svc.today <;> simp [today]

theorem runningNum_deleteOld : svc.deleteOld.runningNum delegateID = svc.runningNum delegateID := by
  rw [runningNum, deleteOld, List.countP_filter, runningNum]
  apply List.countP_congr
  intro row _
  by_cases today : row.begDate = svc.today <;> simp [today, Running]

theorem TableSound.deleteOld (sound : svc.TableSound) : svc.deleteOld.TableSound where
  distinct := sound.distinct.sublist (List.filter_sublist.map _)
  issued row member := sound.issued row (List.mem_of_mem_filter member)
  unique roleID taskID := by
    rw [todays_deleteOld]
    exact sound.unique roleID taskID
  bounded row member := sound.bounded row (List.mem_of_mem_filter member)

theorem Sound.deleteOld (sound : svc.Sound) : svc.deleteOld.Sound where
  toTableSound := sound.toTableSound.deleteOld
  single row member := sound.single row (List.mem_of_mem_filter member)
  timed delegateID := by
    rw [runningNum_deleteOld]
    exact sound.timed delegateID
  gold := sound.gold

/-- A change of a row that leaves its key columns. -/
structure KeepsKeys (change : RoleDelegate → RoleDelegate) : Prop where
  delegateID : ∀ row, (change row).delegateID = row.delegateID
  roleID : ∀ row, (change row).roleID = row.roleID
  taskID : ∀ row, (change row).taskID = row.taskID
  begDate : ∀ row, (change row).begDate = row.begDate

theorem restart_keepsKeys (now : UInt32) (delegateNum : UInt16) :
    KeepsKeys (restart now delegateNum) :=
  ⟨fun _ => rfl, fun _ => rfl, fun _ => rfl, fun _ => rfl⟩

theorem finish_keepsKeys (delegateNum : Nat) : KeepsKeys (finish delegateNum) :=
  ⟨fun _ => rfl, fun _ => rfl, fun _ => rfl, fun _ => rfl⟩

variable {change : RoleDelegate → RoleDelegate}

theorem todays_update (keeps : KeepsKeys change) :
    (svc.update delegateID change).todays roleID taskID = (svc.todays roleID taskID).map
      fun row => if row.delegateID = delegateID then change row else row := by
  rw [todays, update, List.filter_map, todays]
  apply congrArg
  apply List.filter_congr
  intro row _
  simp only [Function.comp_apply]
  split_ifs
  · rw [keeps.roleID, keeps.taskID, keeps.begDate]
  · rfl

theorem todays_update_self (keeps : KeepsKeys change) (found : svc.todays roleID taskID = [row]) :
    (svc.update row.delegateID change).todays roleID taskID = [change row] := by
  rw [todays_update keeps, found, List.map_singleton, if_pos rfl]

/-- The rows of other roles and tasks have other keys. -/
theorem todays_update_of_ne (keeps : KeepsKeys change)
    (distinct : (svc.rows.map RoleDelegate.delegateID).Nodup) (member : row ∈ svc.rows)
    (differs : ¬ (row.roleID = roleID ∧ row.taskID = taskID)) :
    (svc.update row.delegateID change).todays roleID taskID = svc.todays roleID taskID := by
  rw [todays_update keeps]
  have kept : ∀ entry ∈ svc.todays roleID taskID,
      (if entry.delegateID = row.delegateID then change entry else entry) = entry := by
    intro entry listed
    obtain ⟨stored, sameRole, sameTask, -⟩ := mem_todays.mp listed
    rw [if_neg]
    intro same
    obtain rfl := List.inj_on_of_nodup_map distinct stored member same
    exact differs ⟨sameRole, sameTask⟩
  exact (List.map_congr_left kept).trans (List.map_id' _)

theorem mem_update {entry : RoleDelegate} (member : entry ∈ (svc.update delegateID change).rows) :
    ∃ before ∈ svc.rows, entry =
      if before.delegateID = delegateID then change before else before := by
  obtain ⟨before, stored, same⟩ := List.mem_map.mp member
  exact ⟨before, stored, same.symm⟩

theorem update_ids (keeps : KeepsKeys change) :
    (svc.update delegateID change).rows.map RoleDelegate.delegateID =
      svc.rows.map RoleDelegate.delegateID := by
  rw [update, List.map_map]
  apply List.map_congr_left
  intro row _
  simp only [Function.comp_apply]
  split_ifs
  · exact keeps.delegateID row
  · rfl

theorem TableSound.update (sound : svc.TableSound) (keeps : KeepsKeys change)
    (member : row ∈ svc.rows) (today : row.begDate = svc.today)
    (found : svc.task row.taskID = some task) (type : task.taskType = 3)
    (fits : (change row).finishNum + owed (change row) ≤ task.maxDelegateNum.toNat) :
    (svc.update row.delegateID change).TableSound where
  distinct := by
    rw [update_ids keeps]
    exact sound.distinct
  issued entry stored := by
    obtain ⟨before, earlier, rfl⟩ := mem_update stored
    have issued := sound.issued before earlier
    split_ifs
    · rw [keeps.delegateID]
      exact issued
    · exact issued
  unique roleID taskID := by
    rw [todays_update keeps, List.length_map]
    exact sound.unique roleID taskID
  bounded entry stored := by
    obtain ⟨before, earlier, rfl⟩ := mem_update stored
    split_ifs with same
    · obtain rfl := List.inj_on_of_nodup_map sound.distinct earlier member same
      intro _
      refine ⟨task, ?_, type, fits⟩
      rw [keeps.taskID]
      exact found
    · exact sound.bounded before earlier

/-- The changed row alone decides how many rows run under its key. -/
theorem runningNum_update (sound : svc.TableSound) (keeps : KeepsKeys change)
    (member : row ∈ svc.rows) (delegateID : UInt32) :
    (svc.update row.delegateID change).runningNum delegateID +
        (if row.delegateID = delegateID ∧ svc.Running row then 1 else 0) =
      svc.runningNum delegateID +
        if row.delegateID = delegateID ∧ svc.Running (change row) then 1 else 0 := by
  have changed := KeyedTable.countP_change sound.distinct member change
    fun row => row.delegateID = delegateID ∧ svc.Running row
  simp only [keeps.delegateID, decide_eq_true_eq] at changed
  exact changed

/-- A new row takes the next key. -/
def add (svc : DelegateSvc) (row : RoleDelegate) : DelegateSvc :=
  { svc with rows := svc.rows ++ [row], lastDelegateID := svc.lastDelegateID + 1 }

theorem todays_add : (svc.add row).todays roleID taskID = svc.todays roleID taskID ++
    if row.roleID = roleID ∧ row.taskID = taskID ∧ row.begDate = svc.today then [row] else [] := by
  rw [todays, add, List.filter_append, todays, List.filter_singleton, Bool.cond_decide]

theorem runningNum_add : (svc.add row).runningNum delegateID = svc.runningNum delegateID +
    if row.delegateID = delegateID ∧ svc.Running row then 1 else 0 := by
  rw [runningNum, add, List.countP_append, runningNum, List.countP_singleton]
  simp only [decide_eq_true_eq]
  rfl

end Rows

section Requests

variable {info : DelegateInfo} {level delegateNum : UInt16} {now : UInt32}

/-- The row of the day that a request starts again, or none. -/
def Place (svc : DelegateSvc) (roleID taskID : UInt32) (delegateNum : UInt16)
    (task : DelegateTask) (info : DelegateInfo) : Prop :=
  (svc.todays roleID taskID = [] ∧ info.delegateID = 0 ∧
      delegateNum.toNat ≤ task.maxDelegateNum.toNat) ∨
    ∃ row, svc.todays roleID taskID = [row] ∧ row.isFinish = true ∧
      info.delegateID = row.delegateID ∧ info.delegateID ≠ 0 ∧
        row.finishNum + delegateNum.toNat ≤ task.maxDelegateNum.toNat

/-- What the checks of a request have found out. -/
structure Passed (svc : DelegateSvc) (roleID taskID : UInt32) (delegateNum : UInt16)
    (info : DelegateInfo) (task : DelegateTask) (gold : Int) : Prop where
  found : svc.task taskID = some task
  type : task.taskType = 3
  balance : svc.gold roleID = some gold
  cost : info.delegateCost = task.delegateCost
  time : info.delegateTime = task.delegateTime
  enough : delegateNum.toUInt32 * info.delegateCost ≤ UInt32.ofInt gold
  place : svc.Place roleID taskID delegateNum task info

theorem todays_cases (sound : svc.TableSound) (roleID taskID : UInt32) :
    svc.todays roleID taskID = [] ∨ ∃ row, svc.todays roleID taskID = [row] := by
  cases listed : svc.todays roleID taskID with
  | nil => exact Or.inl rfl
  | cons row rest =>
      have short := sound.unique roleID taskID
      rw [listed, List.length_cons] at short
      have none : rest = [] := List.eq_nil_of_length_eq_zero (by omega)
      exact Or.inr ⟨row, by rw [none]⟩

/-- The union has at most one row. -/
theorem selectDelegate_cases (sound : svc.TableSound)
    (selected : (svc.selectDelegate roleID taskID level).head? = some info) :
    ∃ task, svc.task taskID = some task ∧ task.taskType = 3 ∧
      ((svc.todays roleID taskID = [] ∧ info =
          ⟨0, task.maxDelegateNum, task.delegateTime, task.delegateCost, false, 0, 0⟩) ∨
        ∃ row, svc.todays roleID taskID = [row] ∧
          info = delegateInfo task (!row.isFinish) row) := by
  unfold selectDelegate at selected
  cases found : svc.task taskID with
  | none => simp [found] at selected
  | some task =>
      rw [found] at selected
      dsimp only at selected
      split_ifs at selected with type missing
      · cases selected
      · rw [not_not] at type
        refine ⟨task, rfl, type, Or.inl ⟨missing.2, ?_⟩⟩
        rw [missing.2] at selected
        exact (Option.some.inj selected).symm
      · rw [not_not] at type
        rcases todays_cases sound roleID taskID with listed | ⟨row, listed⟩
        · simp [listed] at selected
        · refine ⟨task, rfl, type, Or.inr ⟨row, listed, ?_⟩⟩
          rw [listed] at selected
          cases finished : row.isFinish <;> simpa [finished] using selected.symm

theorem delegateChecks_ok (sound : svc.TableSound)
    (passed : svc.delegateChecks roleID taskID level delegateNum = .ok info) :
    ∃ task gold, svc.Passed roleID taskID delegateNum info task gold := by
  unfold delegateChecks at passed
  cases selected : (svc.selectDelegate roleID taskID level).head? with
  | none =>
      rw [selected] at passed
      cases passed
  | some first =>
      rw [selected] at passed
      cases balance : svc.gold roleID with
      | none =>
          rw [balance] at passed
          dsimp only at passed
          split_ifs at passed
      | some gold =>
          rw [balance] at passed
          dsimp only at passed
          split_ifs at passed with many poor started
          cases passed
          obtain ⟨task, found, type, ⟨missing, rfl⟩ | ⟨row, listed, rfl⟩⟩ :=
            selectDelegate_cases sound selected
          · refine ⟨task, gold, found, type, balance, rfl, rfl, UInt32.not_lt.mp poor, ?_⟩
            refine Or.inl ⟨missing, rfl, ?_⟩
            simpa using many
          · have member := mem_todays.mp (listed ▸ List.mem_singleton_self row)
            have issued := (sound.issued row member.1).1
            have nonzero : row.delegateID ≠ 0 := by
              intro zero
              simp [zero] at issued
            obtain ⟨same, sameFound, -, bound⟩ := sound.bounded row member.1 member.2.2.2
            rw [member.2.2.1, found] at sameFound
            obtain rfl := Option.some.inj sameFound
            refine ⟨task, gold, found, type, balance, rfl, rfl, UInt32.not_lt.mp poor, ?_⟩
            refine Or.inr ⟨row, listed, ?_, rfl, nonzero, ?_⟩
            · simpa [delegateInfo, nonzero] using started
            · have small : row.finishNum < 65536 := by
                have size := task.maxDelegateNum.toNat_lt
                omega
              have whole : (UInt16.ofNat row.finishNum).toNat = row.finishNum := by
                rw [UInt16.toNat_ofNat']
                exact Nat.mod_eq_of_lt small
              simpa [delegateInfo, whole] using many

end Requests

/-- The numbers of the running rows of one role and task. -/
def pending (svc : DelegateSvc) (roleID taskID : UInt32) : List Nat :=
  ((svc.todays roleID taskID).filter fun row => ¬ row.isFinish).map RoleDelegate.delegateNum

section Beginning

variable {info : DelegateInfo} {level : UInt16} {now : UInt32} {gold : Int}

/-- The write of the row makes it run and leaves the rest. -/
structure Started (svc next : DelegateSvc) (roleID taskID delegateID : UInt32) : Prop where
  table : next.TableSound
  single : ∀ row ∈ next.rows, next.Running row → row.delegateNum = 1
  running : ∀ other,
    next.runningNum other = svc.runningNum other + if delegateID = other then 1 else 0
  pending : ∀ role task, next.pending role task = svc.pending role task ++
    if roleID = role ∧ taskID = task then [1] else []
  rest : next = { svc with rows := next.rows, lastDelegateID := next.lastDelegateID }

theorem Sound.restarted (sound : svc.Sound) (now : UInt32)
    (listed : svc.todays roleID taskID = [row]) (finished : row.isFinish = true)
    (found : svc.task taskID = some task)
    (type : task.taskType = 3) (fits : row.finishNum + 1 ≤ task.maxDelegateNum.toNat) :
    Started svc (svc.update row.delegateID (restart now 1)) roleID taskID row.delegateID := by
  obtain ⟨member, sameRole, sameTask, today⟩ := mem_todays.mp (listed ▸ List.mem_singleton_self row)
  have keeps := restart_keepsKeys now 1
  refine ⟨?_, ?_, ?_, ?_, rfl⟩
  · rw [← sameTask] at found
    exact sound.update keeps member today found type fits
  · intro entry stored runs
    obtain ⟨before, earlier, rfl⟩ := mem_update stored
    split_ifs at runs ⊢
    · rfl
    · exact sound.single before earlier runs
  · intro other
    have changed := runningNum_update sound.toTableSound keeps member other
    have stopped : ¬ svc.Running row := by simp [Running, finished]
    have runs : svc.Running (restart now 1 row) := ⟨today, rfl⟩
    simpa [stopped, runs] using changed
  · intro role task
    rw [pending, pending]
    by_cases same : roleID = role ∧ taskID = task
    · obtain ⟨rfl, rfl⟩ := same
      rw [todays_update_self keeps listed, listed]
      simp [finished, restart]
    · have differs : ¬ (row.roleID = role ∧ row.taskID = task) := by
        rw [sameRole, sameTask]
        exact same
      rw [todays_update_of_ne keeps sound.distinct member differs, if_neg same, List.append_nil]

/-- The row that an accepted request inserts. -/
def newRow (svc : DelegateSvc) (roleID taskID now : UInt32) : RoleDelegate :=
  ⟨UInt32.ofNat (svc.lastDelegateID + 1), roleID, taskID, false, svc.today, now, 0, 1⟩

theorem newRow_running : svc.Running (svc.newRow roleID taskID now) := ⟨rfl, rfl⟩

theorem insert_eq_some {next : DelegateSvc}
    (inserted : svc.insert roleID taskID now 1 = some (delegateID, next)) :
    svc.lastDelegateID + 1 < UInt32.size ∧ delegateID = (svc.newRow roleID taskID now).delegateID ∧
      next = svc.add (svc.newRow roleID taskID now) := by
  unfold insert at inserted
  split_ifs at inserted with room
  obtain ⟨rfl, rfl⟩ := Prod.mk.inj (Option.some.inj inserted)
  exact ⟨room, rfl, rfl⟩

theorem TableSound.add (sound : svc.TableSound) (missing : svc.todays roleID taskID = [])
    (found : svc.task taskID = some task) (type : task.taskType = 3)
    (fits : 1 ≤ task.maxDelegateNum.toNat) (room : svc.lastDelegateID + 1 < UInt32.size) :
    (svc.add (svc.newRow roleID taskID now)).TableSound := by
  have key : (svc.newRow roleID taskID now).delegateID.toNat = svc.lastDelegateID + 1 := by
    rw [newRow, UInt32.toNat_ofNat']
    exact Nat.mod_eq_of_lt room
  refine ⟨?_, ?_, ?_, ?_⟩
  · rw [DelegateSvc.add, List.map_append]
    apply sound.distinct.append (List.nodup_singleton _)
    rw [List.disjoint_singleton]
    intro member
    obtain ⟨row, stored, same⟩ := List.mem_map.mp member
    have issued := (sound.issued row stored).2
    rw [same, key] at issued
    omega
  · intro row stored
    rcases List.mem_append.mp stored with earlier | new
    · have issued := sound.issued row earlier
      exact ⟨issued.1, issued.2.trans (Nat.le_succ _)⟩
    · obtain rfl := List.mem_singleton.mp new
      rw [key]
      exact ⟨Nat.succ_pos _, Nat.le_refl _⟩
  · intro role other
    rw [todays_add]
    by_cases same : roleID = role ∧ taskID = other
    · obtain ⟨rfl, rfl⟩ := same
      simp [missing, newRow]
    · have whole := sound.unique role other
      simpa [newRow, ← and_assoc, same] using whole
  · intro row stored today
    rcases List.mem_append.mp stored with earlier | new
    · exact sound.bounded row earlier today
    · obtain rfl := List.mem_singleton.mp new
      exact ⟨task, found, type, by simpa [owed, newRow] using fits⟩

theorem Sound.inserted (sound : svc.Sound) (missing : svc.todays roleID taskID = [])
    (found : svc.task taskID = some task) (type : task.taskType = 3)
    (fits : 1 ≤ task.maxDelegateNum.toNat) {next : DelegateSvc}
    (inserted : svc.insert roleID taskID now 1 = some (delegateID, next)) :
    Started svc next roleID taskID delegateID := by
  obtain ⟨room, rfl, rfl⟩ := insert_eq_some inserted
  refine ⟨sound.toTableSound.add missing found type fits room, ?_, ?_, ?_, rfl⟩
  · intro row stored runs
    rcases List.mem_append.mp stored with earlier | new
    · exact sound.single row earlier runs
    · obtain rfl := List.mem_singleton.mp new
      rfl
  · intro other
    rw [runningNum_add]
    simp only [newRow_running, and_true]
  · intro role other
    rw [pending, todays_add, pending]
    by_cases same : roleID = role ∧ taskID = other
    · simp [same, newRow]
    · simp [newRow, same]

/-- An accepted request takes the cost and leaves one timer for the running row. -/
structure Accepted (svc next : DelegateSvc) (roleID taskID : UInt32) (task : DelegateTask)
    (gold : Int) : Prop where
  sound : next.Sound
  pending : ∀ role other, next.pending role other = svc.pending role other ++
    if roleID = role ∧ taskID = other then [1] else []
  enough : (task.delegateCost.toNat : Int) ≤ gold
  gold : next.gold = Function.update svc.gold roleID (some (gold - task.delegateCost.toNat))

/-- The payment leaves the rows. -/
theorem TableSound.paid (sound : svc.TableSound) (gold : UInt32 → Option Int) (lastTimerID : Nat)
    (timers : List UInt32) : { svc with gold, lastTimerID, timers : DelegateSvc }.TableSound :=
  ⟨sound.distinct, sound.issued, sound.unique, sound.bounded⟩

theorem Started.accepted (sound : svc.Sound) {written : DelegateSvc}
    (started : Started svc written roleID taskID delegateID)
    (passed : svc.Passed roleID taskID 1 info task gold) (nonneg : 0 ≤ gold)
    (time : 0 < printed task.delegateTime) (room : svc.lastTimerID < BaseServer.maxTimerNum) :
    Accepted svc (written.payAndStart roleID delegateID 1 info) roleID taskID task gold := by
  have high := sound.gold roleID gold passed.balance
  have read : (UInt32.ofInt gold).toNat = gold.toNat := by
    rw [UInt32.ofInt, UInt32.toNat_ofNat']
    omega
  have one : (1 : UInt16).toUInt32 = 1 := rfl
  have enough := UInt32.le_iff_toNat_le.mp passed.enough
  rw [read, one, UInt32.one_mul, passed.cost] at enough
  have cost : printed task.delegateCost = task.delegateCost.toNat := printed_small (by omega)
  have accepted : ¬ (BaseServer.maxTimerNum ≤ svc.lastTimerID ∨ printed task.delegateTime ≤ 0) := by
    omega
  have paid : written.payAndStart roleID delegateID 1 info = { written with
      gold := Function.update svc.gold roleID (some (gold - task.delegateCost.toNat))
      lastTimerID := svc.lastTimerID + 1
      timers := svc.timers ++ [delegateID] } := by
    rw [started.rest, payAndStart, one, UInt32.one_mul, UInt32.one_mul, passed.cost, passed.time,
      charge, addTimer]
    dsimp only
    rw [if_neg accepted, passed.balance, Option.map_some, cost]
  rw [paid]
  refine ⟨⟨started.table.paid _ _ _, started.single, ?_, ?_⟩, started.pending, by omega, rfl⟩
  · intro other
    dsimp only
    rw [List.count_append, sound.timed, List.count_singleton]
    simp only [beq_iff_eq]
    exact (started.running other).symm
  · intro role amount found
    dsimp only at found
    by_cases same : role = roleID
    · subst same
      rw [Function.update_self] at found
      obtain rfl := Option.some.inj found
      omega
    · rw [Function.update_of_ne same] at found
      exact sound.gold role amount found

/-- A request that passes its checks, with its body and the row that it found. -/
def checked (svc : DelegateSvc) (request : DelegateRequest) :
    Option (UInt32 × UInt16 × DelegateInfo) :=
  request.body.bind fun body => request.level.bind fun level =>
    (svc.deleteOld.delegateChecks request.roleID body.1 level body.2).toOption.map fun info =>
      (body.1, body.2, info)

theorem delegateChecks_error {delegateNum : UInt16} {retCode : UInt32}
    (failed : svc.delegateChecks roleID taskID level delegateNum = .error retCode) :
    retCode ≠ 0 := by
  unfold delegateChecks at failed
  cases selected : (svc.selectDelegate roleID taskID level).head? with
  | none =>
      rw [selected] at failed
      cases failed
      decide
  | some info =>
      cases balance : svc.gold roleID with
      | none =>
          rw [selected, balance] at failed
          dsimp only at failed
          split_ifs at failed <;> cases failed <;> decide
      | some gold =>
          rw [selected, balance] at failed
          dsimp only at failed
          split_ifs at failed <;> cases failed <;> decide

/-- A refused request only deletes old rows. -/
theorem process_of_unchecked {request : DelegateRequest} (refused : svc.checked request = none) :
    (svc.processBegRoleDelegate request).1 ≠ 0 ∧
      ((svc.processBegRoleDelegate request).2 = svc ∨
        (svc.processBegRoleDelegate request).2 = svc.deleteOld) := by
  unfold checked at refused
  unfold processBegRoleDelegate
  cases found : request.body with
  | none => exact ⟨show errSystemSerError ≠ 0 by decide, Or.inl rfl⟩
  | some body =>
      cases online : request.level with
      | none => exact ⟨show errAppRoleNotExists ≠ 0 by decide, Or.inl rfl⟩
      | some level =>
          cases result : svc.deleteOld.delegateChecks request.roleID body.1 level body.2 with
          | error retCode =>
              dsimp only
              rw [result]
              exact ⟨delegateChecks_error result, Or.inr rfl⟩
          | ok info => simp [found, online, result, Except.toOption] at refused

theorem process_of_checked {request : DelegateRequest} {delegateNum : UInt16}
    (found : svc.checked request = some (taskID, delegateNum, info)) :
    request.body = some (taskID, delegateNum) ∧
      (∃ level, svc.deleteOld.delegateChecks request.roleID taskID level delegateNum = .ok info) ∧
      svc.processBegRoleDelegate request =
        svc.deleteOld.beginDelegate request.roleID taskID request.now delegateNum info := by
  unfold checked at found
  unfold processBegRoleDelegate
  cases stored : request.body with
  | none => simp [stored] at found
  | some body =>
      cases online : request.level with
      | none => simp [stored, online] at found
      | some level =>
          cases result : svc.deleteOld.delegateChecks request.roleID body.1 level body.2 with
          | error retCode => simp [stored, online, result, Except.toOption] at found
          | ok info =>
              simp only [stored, online, result, Except.toOption, Option.bind_some,
                Option.map_some, Option.some.injEq, Prod.mk.injEq] at found
              obtain ⟨rfl, rfl, rfl⟩ := found
              dsimp only
              rw [result]
              exact ⟨rfl, ⟨level, result⟩, rfl⟩

end Beginning

/-- A request that passes its checks delegates its task once, from a balance that is not negative
and for a positive time, while the wheel still gives identifiers to timers. -/
def Fair (svc : DelegateSvc) : DelegateEvent → Prop
  | .request request => ∀ taskID delegateNum info,
      svc.checked request = some (taskID, delegateNum, info) →
        delegateNum = 1 ∧ (∀ gold, svc.gold request.roleID = some gold → 0 ≤ gold) ∧
          0 < printed info.delegateTime ∧ svc.lastTimerID < BaseServer.maxTimerNum
  | .timeout _ => True

/-- The callback adds the number of its row to the finished tasks and runs the script as often. -/
structure Completed (svc next : DelegateSvc) (row : RoleDelegate) (task : DelegateTask) :
    Prop where
  member : row ∈ svc.rows
  running : svc.Running row
  found : svc.task row.taskID = some task
  finished : finish row.delegateNum row ∈ next.rows
  rewards : next.rewards = svc.rewards ++
    List.replicate row.delegateNum ⟨row.roleID, task.afterDeliverScript⟩

section Steps

variable {request : DelegateRequest}

theorem pending_deleteOld : svc.deleteOld.pending roleID taskID = svc.pending roleID taskID := by
  rw [pending, todays_deleteOld, pending]

/-- A request is refused or accepted. -/
theorem request_cases (sound : svc.Sound) (fair : svc.Fair (.request request)) :
    ((svc.processBegRoleDelegate request).1 ≠ 0 ∧
      ((svc.processBegRoleDelegate request).2 = svc ∨
        (svc.processBegRoleDelegate request).2 = svc.deleteOld)) ∨
    ∃ taskID task gold, (svc.processBegRoleDelegate request).1 = 0 ∧
      request.body = some (taskID, 1) ∧ svc.task taskID = some task ∧
      svc.gold request.roleID = some gold ∧
      Accepted svc.deleteOld (svc.processBegRoleDelegate request).2 request.roleID taskID task
        gold := by
  cases found : svc.checked request with
  | none => exact Or.inl (process_of_unchecked found)
  | some target =>
      obtain ⟨taskID, delegateNum, info⟩ := target
      obtain ⟨rfl, nonneg, time, room⟩ := fair taskID delegateNum info found
      obtain ⟨body, ⟨level, passes⟩, result⟩ := process_of_checked found
      obtain ⟨task, gold, passed⟩ := delegateChecks_ok sound.deleteOld.toTableSound passes
      have positive := nonneg gold passed.balance
      rw [passed.time] at time
      rw [result, beginDelegate]
      rcases passed.place with ⟨missing, key, fits⟩ | ⟨row, listed, finished, key, nonzero, fits⟩
      · rw [if_neg (not_not.mpr key)]
        cases inserted : svc.deleteOld.insert request.roleID taskID request.now 1 with
        | none => exact Or.inl ⟨show errSystemDbError ≠ 0 by decide, Or.inr rfl⟩
        | some target =>
            have started := sound.deleteOld.inserted missing passed.found passed.type fits inserted
            exact Or.inr ⟨taskID, task, gold, rfl, body, passed.found, passed.balance,
              started.accepted sound.deleteOld passed positive time room⟩
      · rw [if_pos nonzero, key]
        have started := sound.deleteOld.restarted request.now listed finished passed.found
          passed.type fits
        exact Or.inr ⟨taskID, task, gold, rfl, body, passed.found, passed.balance,
          started.accepted sound.deleteOld passed positive time room⟩

/-- The running row of a timer is found with its task. -/
theorem selectRunning_timed (sound : svc.Sound) (timer : delegateID ∈ svc.timers) :
    ∃ row task, row ∈ svc.rows ∧ row.delegateID = delegateID ∧ svc.Running row ∧
      svc.task row.taskID = some task ∧ task.taskType = 3 ∧
      row.finishNum + row.delegateNum ≤ task.maxDelegateNum.toNat ∧
      svc.selectRunning delegateID = some (row, task) := by
  have counted := sound.timed delegateID
  have positive : 0 < svc.runningNum delegateID := by
    rw [← counted]
    exact List.count_pos_iff.mpr timer
  rw [runningNum, List.countP_pos_iff] at positive
  obtain ⟨row, member, both⟩ := positive
  obtain ⟨same, running⟩ := of_decide_eq_true both
  obtain ⟨task, found, type, fits⟩ := sound.bounded row member running.1
  have first : (svc.rows.find? fun row => row.delegateID = delegateID ∧ ¬ row.isFinish) =
      some row := by
    cases other : svc.rows.find? fun row => row.delegateID = delegateID ∧ ¬ row.isFinish with
    | none =>
        have never := List.find?_eq_none.mp other row member
        simp [same, running.2] at never
    | some entry =>
        have matching := List.find?_some other
        simp only [decide_eq_true_eq] at matching
        rw [List.inj_on_of_nodup_map sound.distinct (List.mem_of_find?_eq_some other) member
          (matching.1.trans same.symm)]
  refine ⟨row, task, member, same, running, found, type, ?_, ?_⟩
  · simpa [owed, running.2] using fits
  · rw [selectRunning, first, Option.bind_some, found, Option.filter_some_pos (by simpa using type),
      Option.map_some]

/-- The finished row no longer runs, and its timer is gone. -/
theorem Sound.finished (sound : svc.Sound) (member : row ∈ svc.rows) (running : svc.Running row)
    (found : svc.task row.taskID = some task) (type : task.taskType = 3)
    (fits : row.finishNum + row.delegateNum ≤ task.maxDelegateNum.toNat)
    (rewards : List DelegateReward) :
    { svc.update row.delegateID (finish row.delegateNum) with
      timers := svc.timers.erase row.delegateID, rewards : DelegateSvc }.Sound := by
  have keeps := finish_keepsKeys row.delegateNum
  have table := sound.toTableSound.update keeps member running.1 found type
    (by simpa [finish, owed] using fits)
  refine ⟨⟨table.distinct, table.issued, table.unique, table.bounded⟩, ?_, ?_, sound.gold⟩
  · intro entry stored runs
    obtain ⟨before, earlier, rfl⟩ := mem_update stored
    split_ifs at runs ⊢
    · exact absurd runs.2 (by simp [finish])
    · exact sound.single before earlier runs
  · intro other
    have changed := runningNum_update sound.toTableSound keeps member other
    have stopped : ¬ svc.Running (finish row.delegateNum row) := by simp [Running, finish]
    simp only [running, stopped, and_true, and_false, ↓reduceIte, Nat.add_zero] at changed
    have timed := sound.timed other
    rw [List.count_erase, timed]
    simp only [beq_iff_eq]
    change _ = (svc.update row.delegateID (finish row.delegateNum)).runningNum other
    split_ifs at changed ⊢ <;> omega

theorem todays_of_running (sound : svc.TableSound) (member : row ∈ svc.rows)
    (running : svc.Running row) : svc.todays row.roleID row.taskID = [row] := by
  have inside := mem_todays.mpr ⟨member, rfl, rfl, running.1⟩
  rcases todays_cases sound row.roleID row.taskID with none | ⟨only, single⟩
  · rw [none] at inside
    cases inside
  · rw [single, List.mem_singleton] at inside
    rw [single, inside]

theorem pending_finished (sound : svc.Sound) (member : row ∈ svc.rows) (running : svc.Running row)
    (role other : UInt32) :
    svc.pending role other =
      (if row.roleID = role ∧ row.taskID = other then [row.delegateNum] else []) ++
        (svc.update row.delegateID (finish row.delegateNum)).pending role other := by
  have keeps := finish_keepsKeys row.delegateNum
  rw [pending, pending]
  by_cases same : row.roleID = role ∧ row.taskID = other
  · obtain ⟨rfl, rfl⟩ := same
    have listed := todays_of_running sound.toTableSound member running
    rw [todays_update_self keeps listed, listed]
    simp [finish, running.2]
  · rw [todays_update_of_ne keeps sound.distinct member same, if_neg same, List.nil_append]

theorem onDelegateTimeout_of_selected
    (selected : svc.selectRunning delegateID = some (row, task)) :
    svc.onDelegateTimeout delegateID =
      { svc.update delegateID (finish row.delegateNum) with
        rewards := svc.rewards ++ [⟨row.roleID, task.afterDeliverScript⟩] : DelegateSvc
      }.deleteOld := by
  rw [onDelegateTimeout, selected]

/-- The callback of a timer completes its running row. -/
theorem timeout_effect (sound : svc.Sound) (timer : delegateID ∈ svc.timers) {next : DelegateSvc}
    (stepped : svc.step (.timeout delegateID) = some next) :
    next.Sound ∧ ∃ row task, row.delegateID = delegateID ∧ Completed svc next row task ∧
      ∀ role other, svc.pending role other =
        (if row.roleID = role ∧ row.taskID = other then [row.delegateNum] else []) ++
          next.pending role other := by
  obtain ⟨row, task, member, rfl, running, found, type, fits, selected⟩ :=
    selectRunning_timed sound timer
  rw [step, if_pos timer] at stepped
  have result : next = { svc.update row.delegateID (finish row.delegateNum) with
      timers := svc.timers.erase row.delegateID
      rewards := svc.rewards ++ [⟨row.roleID, task.afterDeliverScript⟩] : DelegateSvc
    }.deleteOld := by
    rw [← Option.some.inj stepped]
    have unchanged : { svc with timers := svc.timers.erase row.delegateID : DelegateSvc
        }.selectRunning row.delegateID = some (row, task) := selected
    exact onDelegateTimeout_of_selected unchanged
  have finished := sound.finished member running found type fits
    (svc.rewards ++ [⟨row.roleID, task.afterDeliverScript⟩])
  rw [result]
  refine ⟨finished.deleteOld, row, task, rfl, ⟨member, running, found, ?_, ?_⟩, ?_⟩
  · apply List.mem_filter.mpr
    refine ⟨List.mem_map.mpr ⟨row, member, if_pos rfl⟩, ?_⟩
    simp [finish, running.1, update]
  · rw [sound.single row member running]
    rfl
  · intro role other
    rw [pending_deleteOld]
    exact pending_finished sound member running role other

end Steps

/-- The number of an accepted request of one role and task. -/
def acceptedNums (roleID taskID : UInt32) (svc : DelegateSvc) : DelegateEvent → List Nat
  | .request request =>
      if (svc.processBegRoleDelegate request).1 = 0 ∧ request.roleID = roleID then
        (request.body.filter fun body => body.1 = taskID).toList.map fun body => body.2.toNat
      else []
  | .timeout _ => []

/-- The number of the running row of one role and task that a callback finds. -/
def completedNums (roleID taskID : UInt32) (svc : DelegateSvc) : DelegateEvent → List Nat
  | .request _ => []
  | .timeout delegateID =>
      ((svc.todays roleID taskID).filter fun row =>
        row.delegateID = delegateID ∧ ¬ row.isFinish).map RoleDelegate.delegateNum

/-- An accepted request delegates a task at least once and takes the exact price from a balance that
holds it. -/
def Paid (svc : DelegateSvc) (request : DelegateRequest) : Prop :=
  ∃ taskID delegateNum task gold, request.body = some (taskID, delegateNum) ∧
    svc.task taskID = some task ∧ svc.gold request.roleID = some gold ∧ 1 ≤ delegateNum.toNat ∧
    ((delegateNum.toNat * task.delegateCost.toNat : Nat) : Int) ≤ gold ∧
    (svc.processBegRoleDelegate request).2.gold = Function.update svc.gold request.roleID
      (some (gold - (delegateNum.toNat * task.delegateCost.toNat : Nat)))

/-- The rows of the day keep to their bounds, every accepted request is paid, every callback
completes a row, and the accepted numbers are the completed ones and those of the rows that still
have a timer. -/
structure Delegated (history : History DelegateSvc DelegateEvent) (final : DelegateSvc) : Prop where
  unique : ∀ roleID taskID, (final.todays roleID taskID).length ≤ 1
  bounded : ∀ row ∈ final.rows, row.begDate = final.today →
    ∃ task, final.task row.taskID = some task ∧
      row.finishNum + owed row ≤ task.maxDelegateNum.toNat
  timed : ∀ delegateID, final.timers.count delegateID = final.runningNum delegateID
  paid : ∀ entry ∈ history, ∀ request, entry.2 = .request request →
    (entry.1.processBegRoleDelegate request).1 = 0 → entry.1.Paid request
  completed : ∀ entry ∈ history, ∀ delegateID, entry.2 = .timeout delegateID →
    ∃ next row task, entry.1.step entry.2 = some next ∧ row.delegateID = delegateID ∧
      Completed entry.1 next row task
  matched : ∀ roleID taskID,
    history.flatMap (fun entry => acceptedNums roleID taskID entry.1 entry.2) =
      history.flatMap (fun entry => completedNums roleID taskID entry.1 entry.2) ++
        final.pending roleID taskID

/-- No delegation of the day runs yet. -/
structure Opening (svc : DelegateSvc) : Prop extends TableSound svc where
  finished : ∀ row ∈ svc.rows, row.begDate = svc.today → row.isFinish = true
  timers : svc.timers = []
  gold : ∀ roleID gold, svc.gold roleID = some gold → gold < 2147483648

section Runs

variable {history : History DelegateSvc DelegateEvent} {next : DelegateSvc}

theorem Opening.sound (opening : svc.Opening) : svc.Sound where
  toTableSound := opening.toTableSound
  single row member running :=
    absurd (opening.finished row member running.1) (by simp [running.2])
  timed delegateID := by
    rw [opening.timers, List.count_nil, eq_comm, runningNum, List.countP_eq_zero]
    intro row member both
    have running := (of_decide_eq_true both).2
    exact absurd (opening.finished row member running.1) (by simp [running.2])
  gold := opening.gold

theorem Opening.pending (opening : svc.Opening) (roleID taskID : UInt32) :
    svc.pending roleID taskID = [] := by
  rw [DelegateSvc.pending, List.map_eq_nil_iff, List.filter_eq_nil_iff]
  intro row listed
  obtain ⟨member, -, -, today⟩ := mem_todays.mp listed
  simp [opening.finished row member today]

/-- The numbers of a callback are those of its row. -/
theorem completedNums_timeout (sound : svc.Sound) (member : row ∈ svc.rows)
    (running : svc.Running row) (roleID taskID : UInt32) :
    completedNums roleID taskID svc (.timeout row.delegateID) =
      if row.roleID = roleID ∧ row.taskID = taskID then [row.delegateNum] else [] := by
  rw [completedNums]
  by_cases same : row.roleID = roleID ∧ row.taskID = taskID
  · obtain ⟨rfl, rfl⟩ := same
    rw [todays_of_running sound.toTableSound member running]
    simp [running.2]
  · rw [if_neg same, List.map_eq_nil_iff, List.filter_eq_nil_iff]
    intro entry listed found
    obtain ⟨stored, sameRole, sameTask, -⟩ := mem_todays.mp listed
    have key := (of_decide_eq_true found).1
    obtain rfl := List.inj_on_of_nodup_map sound.distinct stored member key
    exact same ⟨sameRole, sameTask⟩

/-- The history is accounted for by the present rows. -/
structure Account (history : History DelegateSvc DelegateEvent) (svc : DelegateSvc) : Prop where
  sound : svc.Sound
  paid : ∀ entry ∈ history, ∀ request, entry.2 = .request request →
    (entry.1.processBegRoleDelegate request).1 = 0 → entry.1.Paid request
  completed : ∀ entry ∈ history, ∀ delegateID, entry.2 = .timeout delegateID →
    ∃ next row task, entry.1.step entry.2 = some next ∧ row.delegateID = delegateID ∧
      Completed entry.1 next row task
  matched : ∀ roleID taskID,
    history.flatMap (fun entry => acceptedNums roleID taskID entry.1 entry.2) =
      history.flatMap (fun entry => completedNums roleID taskID entry.1 entry.2) ++
        svc.pending roleID taskID

/-- A request adds its number to the accepted and to the pending ones. -/
theorem Account.request (account : Account history svc) (request : DelegateRequest)
    (sound : next.Sound)
    (paid : (svc.processBegRoleDelegate request).1 = 0 → svc.Paid request)
    (pending : ∀ roleID taskID, next.pending roleID taskID =
      svc.pending roleID taskID ++ acceptedNums roleID taskID svc (.request request)) :
    Account (history ++ [(svc, .request request)]) next where
  sound := sound
  paid := by
    rw [List.forall_mem_append, List.forall_mem_singleton]
    refine ⟨account.paid, ?_⟩
    intro other same
    cases same
    exact paid
  completed := by
    rw [List.forall_mem_append, List.forall_mem_singleton]
    refine ⟨account.completed, ?_⟩
    intro delegateID other
    cases other
  matched roleID taskID := by
    rw [List.flatMap_append, List.flatMap_append, List.flatMap_singleton, List.flatMap_singleton,
      account.matched, pending, completedNums, List.append_nil, List.append_assoc]

theorem acceptedNums_of_refused {request : DelegateRequest}
    (refused : (svc.processBegRoleDelegate request).1 ≠ 0) (roleID taskID : UInt32) :
    acceptedNums roleID taskID svc (.request request) = [] := by
  rw [acceptedNums, if_neg]
  intro both
  exact refused both.1

theorem Account.request_step (account : Account history svc) (request : DelegateRequest)
    (fair : svc.Fair (.request request)) :
    Account (history ++ [(svc, .request request)]) (svc.processBegRoleDelegate request).2 := by
  rcases request_cases account.sound fair with
    ⟨refused, left⟩ | ⟨taskID, task, gold, zero, body, found, balance, accepted⟩
  · have none := acceptedNums_of_refused refused
    rcases left with same | same
    · rw [same]
      refine account.request request account.sound (fun zero => absurd zero refused) ?_
      intro role other
      rw [none, List.append_nil]
    · rw [same]
      refine account.request request account.sound.deleteOld (fun zero => absurd zero refused) ?_
      intro role other
      rw [none, List.append_nil, pending_deleteOld]
  · refine account.request request accepted.sound ?_ ?_
    · intro _
      refine ⟨taskID, 1, task, gold, body, found, balance, le_refl _, ?_, ?_⟩
      · simpa using accepted.enough
      · rw [accepted.gold]
        simp [DelegateSvc.deleteOld]
    · intro role other
      rw [accepted.pending, pending_deleteOld, acceptedNums, body]
      by_cases sameRole : request.roleID = role
      · by_cases sameTask : taskID = other
        · simp [zero, sameRole, sameTask, Option.filter]
        · simp [zero, sameRole, sameTask, Option.filter]
      · simp [sameRole]

theorem Account.timeout_step (account : Account history svc) (timer : delegateID ∈ svc.timers)
    (stepped : svc.step (.timeout delegateID) = some next) :
    Account (history ++ [(svc, .timeout delegateID)]) next := by
  obtain ⟨sound, row, task, rfl, completed, pending⟩ := timeout_effect account.sound timer stepped
  refine ⟨sound, ?_, ?_, ?_⟩
  · rw [List.forall_mem_append, List.forall_mem_singleton]
    refine ⟨account.paid, ?_⟩
    intro request other
    cases other
  · rw [List.forall_mem_append, List.forall_mem_singleton]
    refine ⟨account.completed, ?_⟩
    intro delegateID same
    cases same
    exact ⟨next, row, task, stepped, rfl, completed⟩
  · intro role other
    rw [List.flatMap_append, List.flatMap_append, List.flatMap_singleton, List.flatMap_singleton,
      account.matched, completedNums_timeout account.sound completed.member completed.running,
      acceptedNums, List.append_nil, pending, List.append_assoc]

theorem Account.delegated (account : Account history svc) : Delegated history svc where
  unique := account.sound.unique
  bounded row member today := by
    obtain ⟨task, found, -, fits⟩ := account.sound.bounded row member today
    exact ⟨task, found, fits⟩
  timed := account.sound.timed
  paid := account.paid
  completed := account.completed
  matched := account.matched

end Runs

/-- A day whose requests are fair keeps its delegations. -/
theorem run_delegated {start final : DelegateSvc} {history : History DelegateSvc DelegateEvent}
    (opening : start.Opening) (run : Run step Fair start history final) :
    Delegated history final := by
  have initial : Account [] start := by
    refine ⟨opening.sound, by simp, by simp, ?_⟩
    intro roleID taskID
    simp [opening.pending]
  have account : Account history final := by
    refine run.historyInvariant Account initial ?_
    intro history svc event next account fair stepped
    cases event with
    | request request =>
        obtain rfl := Option.some.inj stepped
        exact account.request_step request fair
    | timeout delegateID =>
        have timer : delegateID ∈ svc.timers := by
          by_contra absent
          rw [step, if_neg absent] at stepped
          cases stepped
        exact account.timeout_step timer stepped
  exact account.delegated

instance (svc : DelegateSvc) : (event : DelegateEvent) → Decidable (svc.Fair event)
  | .request request =>
      decidable_of_iff ((svc.checked request).all (fun found => found.2.1 = 1 ∧
          (svc.gold request.roleID).all (fun gold => 0 ≤ gold) = true ∧
          0 < printed found.2.2.delegateTime ∧
          svc.lastTimerID < BaseServer.maxTimerNum) = true) (by
        simp only [Option.all_eq_true, decide_eq_true_eq, Fair, Prod.forall])
  | .timeout _ => .isTrue trivial

/-- Task 7 can be delegated three times a day, and role 1 has gold. -/
def morning : DelegateSvc where
  today := 1
  task taskID := if taskID = 7 then some ⟨3, 3, 60, 10, 50, [65]⟩ else none
  gold _ := some 100
  rows := []
  lastDelegateID := 0
  lastTimerID := 0
  timers := []
  rewards := []

theorem morning_opening : morning.Opening where
  distinct := List.nodup_nil
  issued := by simp [morning]
  unique := by simp [morning, todays]
  bounded := by simp [morning]
  finished := by simp [morning]
  timers := rfl
  gold roleID gold found := by
    obtain rfl := Option.some.inj found
    decide

def ask (delegateNum : UInt16) : DelegateEvent := .request ⟨1, some 5, 0, some (7, delegateNum)⟩

/-- One delegation is completed, and the next one runs. -/
theorem run_delegated_three : ∃ history final, Run step Fair morning history final ∧
    final.rows = [⟨1, 1, 7, false, 1, 0, 1, 1⟩] ∧ Delegated history final := by
  obtain ⟨history, final, run, rows⟩ := exists_run_of_replay step Fair morning
    [ask 1, .timeout 1, ask 1] (fun _ final => final.rows = [⟨1, 1, 7, false, 1, 0, 1, 1⟩])
    (by decide +kernel)
  exact ⟨history, final, run, of_decide_eq_true rows, run_delegated morning_opening run⟩

/-- Two tasks are paid for, and the script runs once. -/
theorem run_not_delegated :
    ¬ ∀ (start final : DelegateSvc) (history : History DelegateSvc DelegateEvent), start.Opening →
      Run step anyEvent start history final → Delegated history final := by
  intro claim
  have run : Run step anyEvent morning
      ([(morning, ask 2)] ++ [((morning.processBegRoleDelegate ⟨1, some 5, 0, some (7, 2)⟩).2,
        .timeout 1)]) _ := .snoc (.snoc .nil trivial rfl) trivial rfl
  obtain ⟨next, row, task, stepped, -, completed⟩ :=
    (claim _ _ _ morning_opening run).completed _
      (List.mem_append_right _ (List.mem_singleton_self _)) 1 rfl
  have only : row.delegateNum = 2 := by
    obtain rfl := List.mem_singleton.mp completed.member
    rfl
  have rewards := congrArg List.length completed.rewards
  rw [← Option.some.inj stepped, List.length_append, List.length_replicate, only] at rewards
  exact absurd rewards (by decide)

end AppSvr.MainServer.DelegateSvc
