/-
This file shows how the held items cover the goals of the tasks and what a look at one item
settles.
-/

import AppSvr.Proof.MainServer.TaskFrames
import AppSvr.ToMathlib.Allotment

namespace AppSvr.MainServer

open Programs

namespace RoleTaskDetail

/-- No statement changes these columns of a detail. -/
structure SameGoal (row after : RoleTaskDetail) : Prop where
  detailID : after.detailID = row.detailID
  roleID : after.roleID = row.roleID
  taskID : after.taskID = row.taskID
  goal : after.toTaskGoal = row.toTaskGoal

namespace SameGoal

variable {row middle after : RoleTaskDetail}

theorem refl (row : RoleTaskDetail) : row.SameGoal row := ⟨rfl, rfl, rfl, rfl⟩

theorem trans (first : row.SameGoal middle) (second : middle.SameGoal after) :
    row.SameGoal after :=
  ⟨second.1.trans first.1, second.2.trans first.2, second.3.trans first.3,
    second.4.trans first.4⟩

theorem named (same : row.SameGoal after) (roleID taskID : UInt32) :
    after.Named roleID taskID ↔ row.Named roleID taskID := by
  rw [Named, Named, same.roleID, same.taskID]

theorem holds (same : row.SameGoal after) (roleID itemID : UInt32) :
    after.Holds roleID itemID ↔ row.Holds roleID itemID := by
  rw [Holds, Holds, same.roleID, same.goal]

end SameGoal

end RoleTaskDetail

namespace TaskSvc

section Coverage

variable (svc : TaskSvc) (roleID itemID : UInt32)

/-- The bag of the role has a row of the item. -/
def HasItem : Prop := ∃ row ∈ svc.bag, row.roleID = roleID ∧ row.itemID = itemID

/-- The goals of an item ask for it in the order of their numbers. -/
def itemDemands : List Demand :=
  (svc.itemDetails roleID itemID).map fun row => (row.detailID, row.goalNum)

/-- The held items reach to this goal. -/
def Covers (row : RoleTaskDetail) : Prop :=
  svc.HasItem row.roleID row.goalID ∧
    row.detailID ∈ Demand.served (svc.bagItemNum row.roleID row.goalID)
      (svc.itemDemands row.roleID row.goalID)

/-- A finished task has only finished details. -/
def FinishedDone : Prop :=
  ∀ key row, svc.roleTask.find key = some row → row.finishStatus = 1 →
    svc.AllFinished key.1 key.2

/-- A finished goal of items is covered. -/
def ItemsCovered : Prop :=
  ∀ row ∈ svc.roleTaskDetail.rows, row.goalType = 2 → row.isFinish → svc.Covers row

end Coverage

/-- Details with these numbers can be finished, and a task is finished behind its details. -/
structure Settles (numbers : Nat → Prop) (before after : TaskSvc) : Prop where
  details : ∃ f, after.roleTaskDetail.rows = before.roleTaskDetail.rows.map f ∧
    ∀ row ∈ before.roleTaskDetail.rows, row.SameGoal (f row) ∧ (row.isFinish → (f row).isFinish) ∧
      (¬ numbers row.detailID → f row = row)
  finished : ∀ key row, after.roleTask.find key = some row → row.finishStatus = 1 →
    (∃ old, before.roleTask.find key = some old ∧ old.finishStatus = 1) ∨
      after.AllFinished key.1 key.2
  accepted : ∀ roleID taskID, after.Accepted roleID taskID → before.Accepted roleID taskID
  bag : after.bag = before.bag

namespace Settles

variable {numbers wider : Nat → Prop} {before middle after : TaskSvc} {roleID taskID : UInt32}

theorem refl (svc : TaskSvc) : svc.Settles numbers svc where
  details := ⟨id, (List.map_id _).symm, fun row _ =>
    ⟨RoleTaskDetail.SameGoal.refl row, id, fun _ => rfl⟩⟩
  finished _ row found one := Or.inl ⟨row, found, one⟩
  accepted _ _ := id
  bag := rfl

theorem allFinished (settles : before.Settles numbers after)
    (finished : before.AllFinished roleID taskID) : after.AllFinished roleID taskID := by
  obtain ⟨f, mapped, kept⟩ := settles.details
  intro row member named
  rw [mapped] at member
  obtain ⟨old, stored, rfl⟩ := List.mem_map.mp member
  obtain ⟨same, grows, -⟩ := kept old stored
  exact grows (finished old stored ((same.named _ _).mp named))

theorem trans (first : before.Settles numbers middle) (second : middle.Settles numbers after) :
    before.Settles numbers after where
  details := by
    obtain ⟨f, mapped, kept⟩ := first.details
    obtain ⟨g, again, keeps⟩ := second.details
    refine ⟨g ∘ f, by rw [again, mapped, List.map_map], ?_⟩
    intro row member
    obtain ⟨same, grows, others⟩ := kept row member
    obtain ⟨same', grows', others'⟩ := keeps (f row) (mapped ▸ List.mem_map_of_mem member)
    refine ⟨same.trans same', fun finished => grows' (grows finished), ?_⟩
    intro never
    rw [same.detailID] at others'
    rw [Function.comp_apply, others' never, others never]
  finished := by
    intro key row found one
    rcases second.finished key row found one with ⟨old, stored, same⟩ | done
    · rcases first.finished key old stored same with old | done
      · exact Or.inl old
      · exact Or.inr (second.allFinished done)
    · exact Or.inr done
  accepted roleID taskID ended := first.accepted roleID taskID (second.accepted roleID taskID ended)
  bag := second.bag.trans first.bag

theorem mono (settles : before.Settles numbers after)
    (widens : ∀ number, numbers number → wider number) : before.Settles wider after where
  details := by
    obtain ⟨f, mapped, kept⟩ := settles.details
    refine ⟨f, mapped, ?_⟩
    intro row member
    obtain ⟨same, grows, others⟩ := kept row member
    exact ⟨same, grows, fun never => others fun inside => never (widens _ inside)⟩
  finished := settles.finished
  accepted := settles.accepted
  bag := settles.bag

end Settles

section Pieces

variable {svc : TaskSvc} {numbers : Nat → Prop} (roleID taskID : UInt32)

/-- A finished task that is refreshed has finished details. -/
theorem refresh_settles : svc.Settles numbers (svc.refresh roleID taskID) := by
  by_cases accepted : svc.status roleID taskID = some 2 ∨ svc.status roleID taskID = some 3
  · cases found : svc.task.find taskID with
    | none =>
        rw [status, found] at accepted
        simp at accepted
    | some task =>
        rw [refresh_of_accepted found accepted]
        rw [status_accepted found] at accepted
        split_ifs with done
        · refine ⟨(Settles.refl svc).details, ?_, ?_, rfl⟩
          · intro key row stored one
            rw [finish, TaskProgram.setFinishStatus_find] at stored
            obtain ⟨old, found_, rfl⟩ := Option.map_eq_some_iff.mp stored
            by_cases named : old.Named roleID taskID
            · right
              have same := KeyedTable.find_key found_
              rw [← same, RoleTask.key, named.1, named.2]
              exact done
            · rw [RoleTask.setStatus, if_neg named] at one
              exact Or.inl ⟨old, found_, one⟩
          · rintro role other ⟨row, stored, status⟩
            rw [finish, TaskProgram.setFinishStatus_find] at stored
            obtain ⟨old, found_, rfl⟩ := Option.map_eq_some_iff.mp stored
            by_cases named : old.Named roleID taskID
            · have same := KeyedTable.find_key found_
              rw [RoleTask.key, named.1, named.2] at same
              cases same
              exact accepted
            · rw [RoleTask.setStatus, if_neg named] at status
              exact ⟨old, found_, status⟩
        · exact Settles.refl svc
  · rw [refresh_of_settled accepted]
    exact Settles.refl svc

theorem refresh_details : (svc.refresh roleID taskID).roleTaskDetail = svc.roleTaskDetail := by
  unfold refresh
  cases svc.task.find taskID with
  | none => rfl
  | some task =>
      dsimp only
      split_ifs <;> rfl

/-- A change of details settles if it takes no finished status away. -/
theorem change_settles {f : RoleTaskDetail → RoleTaskDetail}
    (keeps : ∀ row, (f row).detailID = row.detailID)
    (kept : ∀ row ∈ svc.roleTaskDetail.rows, row.SameGoal (f row) ∧
      (row.isFinish → (f row).isFinish) ∧ (¬ numbers row.detailID → f row = row)) :
    svc.Settles numbers { svc with roleTaskDetail := svc.roleTaskDetail.change f keeps } where
  details := ⟨f, rfl, kept⟩
  finished _ row found one := Or.inl ⟨row, found, one⟩
  accepted _ _ := id
  bag := rfl

/-- A detail is finished, or an unfinished one gets another number. -/
theorem progress_settles {detailID : Nat} {isFinish : Bool} (finishNum : UInt32)
    (inside : numbers detailID) (unfinished : isFinish = true ∨
      ∀ row ∈ svc.roleTaskDetail.rows, row.detailID = detailID → row.isFinish = false) :
    svc.Settles numbers (svc.progress detailID isFinish finishNum) := by
  apply change_settles
  intro row member
  unfold RoleTaskDetail.progress
  split_ifs with same
  · refine ⟨⟨rfl, rfl, rfl, rfl⟩, ?_, fun outside => absurd (same ▸ inside) outside⟩
    intro finished
    rcases unfinished with now | before
    · exact now
    · rw [before row member same] at finished
      cases finished
  · exact ⟨RoleTaskDetail.SameGoal.refl row, id, fun _ => rfl⟩

end Pieces

section Allotment

variable {svc : TaskSvc} {roleID itemID : UInt32}

def demands (ltd : List RoleTaskDetail) : List Demand :=
  ltd.map fun row => (row.detailID, row.goalNum)

/-- The items are served to the details, and the details behind the end stay unfinished. -/
theorem allocated_settles (svc : TaskSvc) (roleID bagItemNum : UInt32) (ltd : List RoleTaskDetail)
    (distinct : (ltd.map RoleTaskDetail.detailID).Nodup)
    (unfinished : ∀ row ∈ svc.roleTaskDetail.rows,
      row.detailID ∈ ltd.map RoleTaskDetail.detailID → row.isFinish = false) :
    svc.Settles (· ∈ ltd.map RoleTaskDetail.detailID) (svc.allocated roleID bagItemNum ltd) ∧
    ∀ row ∈ (svc.allocated roleID bagItemNum ltd).roleTaskDetail.rows,
      row.detailID ∈ ltd.map RoleTaskDetail.detailID →
        (row.isFinish ↔ row.detailID ∈ Demand.served bagItemNum (demands ltd)) := by
  induction ltd generalizing svc bagItemNum with
  | nil => exact ⟨Settles.refl svc, fun _ _ inside => nomatch inside⟩
  | cons detail ltd ih =>
      rw [List.map_cons, List.nodup_cons] at distinct
      have head : detail.detailID ∈ (detail :: ltd).map RoleTaskDetail.detailID :=
        List.mem_cons_self
      have line : demands (detail :: ltd) = (detail.detailID, detail.goalNum) :: demands ltd := rfl
      rw [allocated, line, Demand.served]
      split_ifs with lacks
      · constructor
        · apply progress_settles bagItemNum head
          right
          intro row member same
          exact unfinished row member (same ▸ head)
        · intro row member inside
          obtain ⟨old, stored, rfl⟩ := List.mem_map.mp member
          rw [RoleTaskDetail.progress_detailID] at inside
          have before := unfinished old stored inside
          unfold RoleTaskDetail.progress
          split_ifs <;> simp [before]
      · have first : svc.Settles (· ∈ (detail :: ltd).map RoleTaskDetail.detailID)
            (svc.progress detail.detailID true detail.goalNum) :=
          progress_settles detail.goalNum head (Or.inl rfl)
        have refreshed : (svc.progress detail.detailID true detail.goalNum).Settles
            (· ∈ (detail :: ltd).map RoleTaskDetail.detailID)
            ((svc.progress detail.detailID true detail.goalNum).refresh roleID detail.taskID) :=
          refresh_settles roleID detail.taskID
        have rows : ((svc.progress detail.detailID true detail.goalNum).refresh roleID
            detail.taskID).roleTaskDetail.rows =
            svc.roleTaskDetail.rows.map
              (RoleTaskDetail.progress detail.detailID true detail.goalNum) := by
          rw [refresh_details]
          rfl
        obtain ⟨settles, served⟩ := ih _ (bagItemNum - detail.goalNum) distinct.2 (by
          intro row member inside
          rw [rows] at member
          obtain ⟨old, stored, rfl⟩ := List.mem_map.mp member
          rw [RoleTaskDetail.progress_detailID] at inside
          have other : old.detailID ≠ detail.detailID := fun same => distinct.1 (same ▸ inside)
          rw [RoleTaskDetail.progress, if_neg other]
          exact unfinished old stored (List.mem_cons_of_mem _ inside))
        constructor
        · exact first.trans (refreshed.trans (settles.mono fun number inside =>
            List.mem_cons_of_mem _ inside))
        · intro row member inside
          rcases List.mem_cons.mp inside with same | later
          · obtain ⟨g, mapped, kept⟩ := settles.details
            rw [mapped] at member
            obtain ⟨middle, stored, rfl⟩ := List.mem_map.mp member
            obtain ⟨columns, -, others⟩ := kept middle stored
            rw [columns.detailID] at same
            rw [others (same ▸ distinct.1), same]
            rw [rows] at stored
            obtain ⟨old, _, rfl⟩ := List.mem_map.mp stored
            rw [RoleTaskDetail.progress_detailID] at same
            rw [RoleTaskDetail.progress, if_pos same]
            exact iff_of_true rfl List.mem_cons_self
          · have other : row.detailID ≠ detail.detailID := fun same => distinct.1 (same ▸ later)
            rw [served row member later, List.mem_cons, or_iff_right other]

end Allotment

/-- The goals stay, no task is accepted and the bags stay. -/
structure Moves (before after : TaskSvc) : Prop where
  details : ∃ f, after.roleTaskDetail.rows = before.roleTaskDetail.rows.map f ∧
    ∀ row ∈ before.roleTaskDetail.rows, row.SameGoal (f row)
  accepted : ∀ roleID taskID, after.Accepted roleID taskID → before.Accepted roleID taskID
  bag : after.bag = before.bag

namespace Moves

variable {before middle after : TaskSvc} {row next : RoleTaskDetail}

theorem refl (svc : TaskSvc) : svc.Moves svc where
  details := ⟨id, (List.map_id _).symm, fun row _ => RoleTaskDetail.SameGoal.refl row⟩
  accepted _ _ := id
  bag := rfl

theorem trans (first : before.Moves middle) (second : middle.Moves after) :
    before.Moves after where
  details := by
    obtain ⟨f, mapped, kept⟩ := first.details
    obtain ⟨g, again, keeps⟩ := second.details
    refine ⟨g ∘ f, by rw [again, mapped, List.map_map], ?_⟩
    intro row member
    exact (kept row member).trans (keeps (f row) (mapped ▸ List.mem_map_of_mem member))
  accepted roleID taskID ended := first.accepted roleID taskID (second.accepted roleID taskID ended)
  bag := second.bag.trans first.bag

theorem itemDemands (moves : before.Moves after) (roleID itemID : UInt32) :
    after.itemDemands roleID itemID = before.itemDemands roleID itemID := by
  obtain ⟨f, mapped, kept⟩ := moves.details
  have same : before.roleTaskDetail.rows.filter
      ((fun row => decide (row.Holds roleID itemID)) ∘ f) =
      before.roleTaskDetail.rows.filter fun row => decide (row.Holds roleID itemID) := by
    apply List.filter_congr
    intro row member
    simp only [Function.comp_apply, (kept row member).holds]
  rw [TaskSvc.itemDemands, itemDetails, mapped, List.filter_map, same, List.map_map,
    TaskSvc.itemDemands, itemDetails]
  apply List.map_congr_left
  intro row member
  have goal := kept row (List.mem_of_mem_filter member)
  rw [Function.comp_apply, goal.detailID, goal.goal]

/-- Whether the items reach to a goal depends on nothing that moves. -/
theorem covers (moves : before.Moves after) (same : row.SameGoal next) :
    after.Covers next ↔ before.Covers row := by
  rw [Covers, Covers, moves.itemDemands, HasItem, HasItem, bagItemNum, bagItemNum, moves.bag,
    same.roleID, same.detailID, same.goal]

end Moves

theorem Settles.moves {numbers : Nat → Prop} {before after : TaskSvc}
    (settles : before.Settles numbers after) : before.Moves after where
  details := by
    obtain ⟨f, mapped, kept⟩ := settles.details
    exact ⟨f, mapped, fun row member => (kept row member).1⟩
  accepted := settles.accepted
  bag := settles.bag

section Recheck

variable {svc : TaskSvc} {roleID itemID : UInt32}

theorem mem_itemDetails {row : RoleTaskDetail} :
    row ∈ svc.itemDetails roleID itemID ↔
      row ∈ svc.roleTaskDetail.rows ∧ row.Holds roleID itemID := by
  rw [itemDetails, List.mem_filter, decide_eq_true_iff]

theorem holds_of_number {row : RoleTaskDetail} (member : row ∈ svc.roleTaskDetail.rows)
    (listed : row.detailID ∈ (svc.itemDetails roleID itemID).map RoleTaskDetail.detailID) :
    row.Holds roleID itemID := by
  obtain ⟨other, selected, same⟩ := List.mem_map.mp listed
  obtain ⟨stored, holds⟩ := mem_itemDetails.mp selected
  obtain rfl := TaskProgram.detailID_injective stored member same
  exact holds

theorem reset_sameGoal (row : RoleTaskDetail) : row.SameGoal (row.reset roleID itemID) := by
  unfold RoleTaskDetail.reset
  split_ifs <;> exact ⟨rfl, rfl, rfl, rfl⟩

theorem resetItem_moves : svc.Moves (svc.resetItem roleID itemID) where
  details := ⟨_, rfl, fun row _ => reset_sameGoal row⟩
  accepted _ _ := id
  bag := rfl

/-- The finished goals of the other items are covered, and those of the item are about to be
looked at. -/
structure Pending (svc : TaskSvc) (roleID itemID : UInt32) : Prop where
  finished : svc.FinishedDone
  others : ∀ row ∈ svc.roleTaskDetail.rows, row.goalType = 2 → row.isFinish →
    ¬ row.Holds roleID itemID → svc.Covers row
  item : ∀ row ∈ svc.roleTaskDetail.rows, row.Holds roleID itemID →
    (∃ old, svc.roleTask.find (roleID, row.taskID) = some old ∧ old.finishStatus = 1) →
      svc.Covers row

/-- A task that waits for its delivery keeps its goals of the item. -/
theorem Pending.covers {key : UInt32 × UInt32} {old : RoleTask} {row : RoleTaskDetail}
    (pending : svc.Pending roleID itemID) (found : svc.roleTask.find key = some old)
    (one : old.finishStatus = 1) (member : row ∈ svc.roleTaskDetail.rows)
    (named : row.Named key.1 key.2) (holds : row.Holds roleID itemID) : svc.Covers row := by
  apply pending.item row member holds
  refine ⟨old, ?_, one⟩
  rw [← holds.1, named.1, named.2]
  exact found

theorem resetItem_sound (pending : svc.Pending roleID itemID)
    (empty : ¬ svc.HasItem roleID itemID) :
    (svc.resetItem roleID itemID).FinishedDone ∧ (svc.resetItem roleID itemID).ItemsCovered := by
  constructor
  · intro key old found one row member named
    obtain ⟨before, stored, rfl⟩ := List.mem_map.mp member
    rw [(reset_sameGoal before).named] at named
    by_cases holds : before.Holds roleID itemID
    · have covers := (pending.covers found one stored named holds).1
      rw [holds.1, holds.2.2] at covers
      exact absurd covers empty
    · rw [RoleTaskDetail.reset, if_neg holds]
      exact pending.finished key old found one before stored named
  · intro row member item finished
    obtain ⟨before, stored, rfl⟩ := List.mem_map.mp member
    by_cases holds : before.Holds roleID itemID
    · rw [RoleTaskDetail.reset, if_pos holds] at finished
      cases finished
    · rw [RoleTaskDetail.reset, if_neg holds] at item finished ⊢
      rw [resetItem_moves.covers (RoleTaskDetail.SameGoal.refl before)]
      exact pending.others before stored item finished holds

theorem itemDetails_distinct :
    ((svc.itemDetails roleID itemID).map RoleTaskDetail.detailID).Nodup := by
  rw [List.Nodup, List.pairwise_map]
  exact (svc.roleTaskDetail.sorted.imp fun less => Nat.ne_of_lt less).sublist List.filter_sublist

/-- A look at one item leaves finished exactly the goals of it that are covered. -/
theorem allocated_sound (pending : svc.Pending roleID itemID) (held : svc.HasItem roleID itemID) :
    let after := (svc.resetItem roleID itemID).allocated roleID (svc.bagItemNum roleID itemID)
      (svc.itemDetails roleID itemID)
    after.FinishedDone ∧ after.ItemsCovered ∧ svc.Moves after := by
  intro after
  obtain ⟨settles, served⟩ := allocated_settles (svc.resetItem roleID itemID) roleID
    (svc.bagItemNum roleID itemID) (svc.itemDetails roleID itemID) itemDetails_distinct (by
      intro row member listed
      obtain ⟨before, stored, rfl⟩ := List.mem_map.mp member
      rw [RoleTaskDetail.reset_detailID] at listed
      rw [RoleTaskDetail.reset, if_pos (holds_of_number stored listed)])
  have moves : svc.Moves after := resetItem_moves.trans settles.moves
  have origin : ∀ row ∈ after.roleTaskDetail.rows, ∃ old ∈ svc.roleTaskDetail.rows,
      old.SameGoal row ∧ (old.Holds roleID itemID → (row.isFinish ↔ svc.Covers old)) ∧
        (¬ old.Holds roleID itemID → row = old) := by
    intro row member
    obtain ⟨g, mapped, kept⟩ := settles.details
    have listed := member
    rw [mapped] at listed
    obtain ⟨middle, reset, rfl⟩ := List.mem_map.mp listed
    obtain ⟨columns, -, others⟩ := kept middle reset
    obtain ⟨old, stored, rfl⟩ := List.mem_map.mp reset
    have goal := (reset_sameGoal old).trans columns
    refine ⟨old, stored, goal, ?_, ?_⟩
    · intro holds
      have number : (g (old.reset roleID itemID)).detailID ∈
          (svc.itemDetails roleID itemID).map RoleTaskDetail.detailID := by
        rw [goal.detailID]
        exact List.mem_map_of_mem (mem_itemDetails.mpr ⟨stored, holds⟩)
      rw [served _ member number, goal.detailID, Covers, holds.1, holds.2.2]
      exact (and_iff_right held).symm
    · intro other
      have absent : (old.reset roleID itemID).detailID ∉
          (svc.itemDetails roleID itemID).map RoleTaskDetail.detailID := by
        rw [RoleTaskDetail.reset_detailID]
        exact fun inside => other (holds_of_number stored inside)
      rw [others absent, RoleTaskDetail.reset, if_neg other]
  refine ⟨?_, ?_, moves⟩
  · intro key old found one
    rcases settles.finished key old found one with ⟨row, stored, waits⟩ | done
    · intro detail member named
      obtain ⟨before, listed, goal, item, other⟩ := origin detail member
      rw [goal.named] at named
      by_cases holds : before.Holds roleID itemID
      · exact (item holds).mpr (pending.covers stored waits listed named holds)
      · rw [other holds]
        exact pending.finished key row stored waits before listed named
    · exact done
  · intro row member type finished
    obtain ⟨before, listed, goal, item, other⟩ := origin row member
    rw [moves.covers goal]
    by_cases holds : before.Holds roleID itemID
    · exact (item holds).mp finished
    · obtain rfl := other holds
      exact pending.others row listed type finished holds

theorem recheck_sound (pending : svc.Pending roleID itemID) :
    (svc.recheck roleID itemID).FinishedDone ∧ (svc.recheck roleID itemID).ItemsCovered ∧
      svc.Moves (svc.recheck roleID itemID) := by
  rw [recheck]
  split_ifs with none_ empty
  · refine ⟨pending.finished, ?_, Moves.refl svc⟩
    intro row member item finished
    apply pending.others row member item finished
    intro holds
    have listed := mem_itemDetails.mpr ⟨member, holds⟩
    rw [none_] at listed
    cases listed
  · obtain ⟨finished, covered⟩ := resetItem_sound pending (by
      rintro ⟨row, member, same⟩
      exact empty row member same)
    exact ⟨finished, covered, resetItem_moves⟩
  · apply allocated_sound pending
    by_contra absent
    exact empty fun row member same => absent ⟨row, member, same⟩

/-- A look at all items starts from goals that are covered. -/
theorem recheckAll_sound (finished : svc.FinishedDone) (covered : svc.ItemsCovered) :
    (svc.recheckAll roleID).FinishedDone ∧ (svc.recheckAll roleID).ItemsCovered ∧
      svc.Moves (svc.recheckAll roleID) := by
  unfold recheckAll
  generalize ((svc.bag.filter fun row => row.roleID = roleID).map HeldItem.itemID).dedup = items
  induction items generalizing svc with
  | nil => exact ⟨finished, covered, Moves.refl svc⟩
  | cons itemID items ih =>
      have pending : svc.Pending roleID itemID := by
        refine ⟨finished, fun row member item done _ => covered row member item done, ?_⟩
        rintro row member holds ⟨old, stored, one⟩
        exact covered row member holds.2.1
          (finished _ old stored one row member ⟨holds.1, rfl⟩)
      obtain ⟨finished', covered', first⟩ := recheck_sound pending
      obtain ⟨finished'', covered'', rest⟩ := ih finished' covered'
      exact ⟨finished'', covered'', first.trans rest⟩

end Recheck

end TaskSvc

end AppSvr.MainServer
