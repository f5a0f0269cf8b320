/-
This file proves that sorting a bag keeps every item's number of pieces.
-/

import AppSvr.Proof.MainServer.BagRows

namespace AppSvr.MainServer.BagSvc

open KeyedRows

variable {Other : Type*} {svc next : BagSvc Other} {tables : ItemTables}
  {roleID itemID : UInt32} {celIndex other : UInt16} {row : DBBagItem}

/-- The cell holds exactly this row. -/
structure Holds (svc : BagSvc Other) (roleID : UInt32) (row : DBBagItem) : Prop where
  only : svc.selectCell roleID row.cellIndex = [row]
  legal : LegalRow row

theorem Holds.owned (holds : svc.Holds roleID row) : row.roleID = roleID := by
  have found : row ∈ svc.selectCell roleID row.cellIndex := by
    rw [holds.only]
    exact List.mem_singleton_self row
  exact (mem_selectCell.mp found).2.1

/-- A deletion leaves the other cells alone. -/
theorem selectCell_deleteCells (different : other ≠ celIndex) :
    (svc.deleteCells roleID [celIndex]).selectCell roleID other =
      svc.selectCell roleID other := by
  apply filter_delete
  intro row ⟨_, inOther⟩ ⟨_, inCell⟩
  rw [List.mem_singleton] at inOther inCell
  exact different (inOther.symm.trans inCell)

/-- An update leaves the other cells alone. -/
theorem selectCell_updateNum (different : other ≠ celIndex) (num : Int) :
    (svc.updateNum roleID celIndex num).selectCell roleID other =
      svc.selectCell roleID other := by
  apply filter_update
  · intro row ⟨_, inOther⟩ ⟨_, inCell⟩
    rw [List.mem_singleton] at inOther inCell
    exact different (inOther.symm.trans inCell)
  · intro row ⟨_, inCell⟩ ⟨_, inOther⟩
    rw [List.mem_singleton] at inOther inCell
    exact different (inOther.symm.trans inCell)

/-- The row in the cell counts with its new number. -/
theorem Holds.updateNum_gains (holds : svc.Holds roleID row) (legal : svc.Legal) (num : UInt16)
    (low : 1 ≤ num.toNat) (high : num.toNat ≤ 99) :
    Gains svc (svc.updateNum roleID row.cellIndex num.toNat) roleID row.itemID
      (num.toNat - printed row.num) where
  legal := by
    apply legal.updateNum (by omega)
    intro _
    show (num.toNat : Int) ≤ 99
    omega
  issued := rfl
  total role item := by
    obtain rfl := holds.owned
    have updated := sum_update (pieces role item) holds.only
      fun row => { row with num := UInt32.ofInt num.toNat }
    have split := share_add row.roleID row.itemID role item (num.toNat - printed row.num)
      (printed row.num)
    rw [Int.sub_add_cancel] at split
    unfold pieces at updated
    rw [printed_ofInt (by omega) (by omega), split, ← add_assoc] at updated
    exact add_right_cancel updated

/-- The row in the cell does not count any more. -/
theorem Holds.deleteCells_gains (holds : svc.Holds roleID row) (legal : svc.Legal) :
    Gains svc (svc.deleteCells roleID [row.cellIndex]) roleID row.itemID (- printed row.num) where
  legal := legal.deleteCells roleID [row.cellIndex]
  issued := rfl
  total role item := by
    obtain rfl := holds.owned
    have deleted : (svc.deleteCells row.roleID [row.cellIndex]).total role item +
        share row.roleID row.itemID role item (printed row.num) = svc.total role item :=
      sum_delete (pieces role item) holds.only
    have split := share_add row.roleID row.itemID role item (- printed row.num) (printed row.num)
    rw [neg_add_cancel, share_zero] at split
    omega

/-- A full cell keeps the legal rest for the next one. -/
theorem merged_full {num added : UInt16} (first : num.toNat ≤ 99) (second : added.toNat ≤ 99)
    (full : topStackNum < num + added) :
    (num + added - topStackNum).toNat + 99 = num.toNat + added.toNat ∧
      1 ≤ (num + added - topStackNum).toNat ∧ (num + added - topStackNum).toNat ≤ 99 := by
  have limit : topStackNum.toNat = 99 := rfl
  have sum : (num + added).toNat = num.toNat + added.toNat := by
    rw [UInt16.toNat_add]
    omega
  have above := UInt16.lt_iff_toNat_lt.mp full
  rw [UInt16.toNat_sub_of_le _ _ (UInt16.le_of_lt full)]
  omega

/-- Two numbers that fit into one cell are added. -/
theorem merged_small {num added : UInt16} (first : num.toNat ≤ 99) (second : added.toNat ≤ 99)
    (small : ¬ topStackNum < num + added) :
    (num + added).toNat = num.toNat + added.toNat ∧ num.toNat + added.toNat ≤ 99 := by
  have limit : topStackNum.toNat = 99 := rfl
  have sum : (num + added).toNat = num.toNat + added.toNat := by
    rw [UInt16.toNat_add]
    omega
  have below := UInt16.le_iff_toNat_le.mp (UInt16.not_lt.mp small)
  omega

theorem Holds.deleteCells (holds : svc.Holds roleID row) (different : row.cellIndex ≠ celIndex) :
    (svc.deleteCells roleID [celIndex]).Holds roleID row where
  only := by rw [selectCell_deleteCells different, holds.only]
  legal := holds.legal

theorem Holds.updateNum (holds : svc.Holds roleID row) (different : row.cellIndex ≠ celIndex)
    (num : Int) : (svc.updateNum roleID celIndex num).Holds roleID row where
  only := by rw [selectCell_updateNum different, holds.only]
  legal := holds.legal

/-- The rows wait for the merge: each lies alone in its cell. -/
def Waiting (svc : BagSvc Other) (roleID : UInt32) (rows : List DBBagItem) : Prop :=
  ∀ row ∈ rows, svc.Holds roleID row

theorem Waiting.deleteCells {rows : List DBBagItem} (waiting : svc.Waiting roleID rows)
    (apart : ∀ row ∈ rows, celIndex ≠ row.cellIndex) :
    (svc.deleteCells roleID [celIndex]).Waiting roleID rows := by
  intro row member
  exact (waiting row member).deleteCells (apart row member).symm

theorem Waiting.updateNum {rows : List DBBagItem} (waiting : svc.Waiting roleID rows)
    (apart : ∀ row ∈ rows, celIndex ≠ row.cellIndex) (num : Int) :
    (svc.updateNum roleID celIndex num).Waiting roleID rows := by
  intro row member
  exact (waiting row member).updateNum (apart row member).symm num

/-- Rows in different cells are merged without a loss. The current row counts with the number that
the loop has merged so far. -/
theorem mergeRows_gains (rest : List DBBagItem) (legal : svc.Legal)
    (waiting : svc.Waiting roleID (row :: rest))
    (apart : (row :: rest).Pairwise fun row1 row2 => row1.cellIndex ≠ row2.cellIndex)
    (num : UInt16) (low : 1 ≤ num.toNat) (high : num.toNat ≤ 99) :
    Gains svc (mergeRows roleID row.cellIndex row.itemID num rest svc) roleID row.itemID
      (num.toNat - printed row.num) := by
  induction rest generalizing svc row num with
  | nil => exact (waiting row List.mem_cons_self).updateNum_gains legal num low high
  | cons later rest ih =>
      obtain ⟨ahead, behind⟩ := List.pairwise_cons.mp apart
      have current := waiting row List.mem_cons_self
      have remaining : svc.Waiting roleID (later :: rest) := fun row member =>
        waiting row (List.mem_cons_of_mem _ member)
      have other := remaining later List.mem_cons_self
      have numbered := other.legal.printed_eq
      have positive := other.legal.1
      have small : printed later.num ≤ 99 := other.legal.2
      unfold mergeRows
      split
      case isTrue same =>
        rw [same]
        dsimp only
        split
        case isTrue full =>
          obtain ⟨sum, low, below⟩ := merged_full high (by omega) full
          have written := current.updateNum_gains legal topStackNum (by decide) (by decide)
          have merged := ih written.legal (remaining.updateNum ahead _) behind _ low below
          have limit : (topStackNum.toNat : Int) = 99 := rfl
          have amount : (num.toNat : Int) - printed row.num =
              (topStackNum.toNat - printed row.num) +
                ((num + later.num.toUInt16 - topStackNum).toNat - printed later.num) := by
            omega
          rw [amount, ← same]
          rw [← same] at merged
          exact written.trans merged
        case isFalse fits =>
          obtain ⟨sum, below⟩ := merged_small high (by omega) fits
          have deleted := current.deleteCells_gains legal
          have merged := ih deleted.legal (remaining.deleteCells ahead) behind
            (num + later.num.toUInt16) (by omega) (by omega)
          have amount : (num.toNat : Int) - printed row.num =
              - printed row.num + ((num + later.num.toUInt16).toNat - printed later.num) := by
            omega
          rw [amount, ← same]
          rw [← same] at merged
          exact deleted.trans merged
      case isFalse =>
        have written := current.updateNum_gains legal num low high
        have merged := ih written.legal (remaining.updateNum ahead _) behind later.num.toUInt16
          (by omega) (by omega)
        have nothing : (later.num.toUInt16.toNat : Int) - printed later.num = 0 := by omega
        rw [nothing] at merged
        rw [← add_zero ((num.toNat : Int) - printed row.num)]
        exact written.trans (merged.of_zero row.itemID)

/-- Every stack that can be merged lies alone in its cell. -/
def StacksAlone (tables : ItemTables) (svc : BagSvc Other) (roleID : UInt32) : Prop :=
  ∀ row ∈ svc.bag, Mergeable tables roleID row → svc.Alone roleID row.cellIndex

instance (tables : ItemTables) (svc : BagSvc Other) (roleID : UInt32) :
    Decidable (StacksAlone tables svc roleID) :=
  inferInstanceAs (Decidable (∀ row ∈ svc.bag, _ → _))

theorem StacksAlone.holds (alone : StacksAlone tables svc roleID) (legal : svc.Legal)
    (member : row ∈ svc.bag) (mergeable : Mergeable tables roleID row) :
    svc.Holds roleID row where
  only := (alone row member mergeable).selectCell_eq
    (mem_selectCell.mpr ⟨member, mergeable.1, rfl⟩)
  legal := legal row member

/-- Stacks that lie alone lie in different cells. -/
theorem StacksAlone.apart (alone : StacksAlone tables svc roleID) :
    (svc.bag.filter (Mergeable tables roleID)).Pairwise
      fun row1 row2 => row1.cellIndex ≠ row2.cellIndex := by
  rw [List.pairwise_iff_forall_sublist]
  intro row1 row2 found same
  have inBag := found.trans List.filter_sublist
  obtain ⟨member, selected⟩ := List.mem_filter.mp (found.subset List.mem_cons_self)
  obtain ⟨_, selected2⟩ :=
    List.mem_filter.mp (found.subset (List.mem_cons_of_mem _ (List.mem_singleton_self _)))
  have mergeable := of_decide_eq_true selected
  have mergeable2 := of_decide_eq_true selected2
  have both := (inBag.filter (MainSvc.Listed roleID [row1.cellIndex])).length_le
  have alone := alone row1 member mergeable
  have first : MainSvc.Listed roleID [row1.cellIndex] row1 :=
    ⟨mergeable.1, List.mem_singleton_self _⟩
  have second : MainSvc.Listed roleID [row1.cellIndex] row2 :=
    ⟨mergeable2.1, List.mem_singleton.mpr same.symm⟩
  have kept : [row1, row2].filter (MainSvc.Listed roleID [row1.cellIndex]) = [row1, row2] := by
    simp [first, second]
  rw [kept] at both
  exact absurd (le_trans both alone) (by simp)

/-- Merging neither takes nor gives a piece. -/
theorem Legal.mergeStacks (legal : svc.Legal) (alone : StacksAlone tables svc roleID) :
    svc.Accounted (mergeStacks roleID (svc.selectMergeable tables roleID) svc) := by
  have sorted := List.perm_insertionSort (mergeOrder · ·)
    (svc.bag.filter (Mergeable tables roleID))
  have apart := (sorted.pairwise_iff (R := fun row1 row2 => row1.cellIndex ≠ row2.cellIndex)
    Ne.symm).mpr alone.apart
  have waiting : svc.Waiting roleID (svc.selectMergeable tables roleID) := by
    intro row member
    obtain ⟨inBag, selected⟩ := List.mem_filter.mp (sorted.subset member)
    exact alone.holds legal inBag (of_decide_eq_true selected)
  unfold selectMergeable at waiting ⊢
  cases rows : (svc.bag.filter (Mergeable tables roleID)).insertionSort (mergeOrder · ·) with
  | nil => exact legal.accounted_refl
  | cons row rest =>
      rw [rows] at apart waiting
      have current := waiting row List.mem_cons_self
      have numbered := current.legal.printed_eq
      have positive := current.legal.1
      have small : printed row.num ≤ 99 := current.legal.2
      have merged := mergeRows_gains rest legal waiting apart row.num.toUInt16 (by omega) (by omega)
      have nothing : (row.num.toUInt16.toNat : Int) - printed row.num = 0 := by omega
      rw [nothing] at merged
      exact merged.accounted

/-- These columns of a row decide what it counts for. -/
def contents (row : DBBagItem) : UInt32 × UInt32 × UInt32 := (row.roleID, row.itemID, row.num)

/-- Moving rows to other cells changes nothing that counts. -/
theorem Legal.accounted_of_contents (legal : svc.Legal)
    (same : next.bag.map contents = svc.bag.map contents) (issued : next.issued = svc.issued) :
    svc.Accounted next where
  legal row member := by
    have found : contents row ∈ svc.bag.map contents := by
      rw [← same]
      exact List.mem_map_of_mem member
    obtain ⟨old, inBag, equal⟩ := List.mem_map.mp found
    have number : old.num = row.num := congrArg (fun columns => columns.2.2) equal
    rw [LegalRow, ← number]
    exact legal old inBag
  covered role item := by
    have counted (bag : List DBBagItem) : bag.map (pieces role item) = (bag.map contents).map
        fun columns => share columns.1 columns.2.1 role item (printed columns.2.2) := by
      rw [List.map_map]
      rfl
    rw [total, total, issuedTo, issuedTo, counted, counted, same, issued]

theorem contents_updateCellIndex (svc : BagSvc Other) (roleID : UInt32) (sqlCell cellnum : UInt16) :
    (svc.updateCellIndex roleID sqlCell cellnum).bag.map contents = svc.bag.map contents := by
  rw [updateCellIndex, List.map_map]
  apply List.map_congr_left
  intro row _
  rw [Function.comp_apply]
  split <;> rfl

theorem contents_renumber (rows : List DBBagItem) (cellnum : Nat) (svc : BagSvc Other) :
    (renumber roleID rows cellnum svc).bag.map contents = svc.bag.map contents ∧
      (renumber roleID rows cellnum svc).issued = svc.issued := by
  induction rows generalizing cellnum svc with
  | nil => exact ⟨rfl, rfl⟩
  | cons row rest ih =>
      have later := ih (cellnum + 1) (if cellnum + 1 < row.cellIndex.toNat then
        svc.updateCellIndex roleID row.cellIndex (UInt16.ofNat (cellnum + 1)) else svc)
      unfold renumber
      split at later
      case isTrue above =>
        rw [if_pos above, later.1, later.2, contents_updateCellIndex]
        exact ⟨rfl, rfl⟩
      case isFalse below => rwa [if_neg below]

/-- The new numbers of the cells change nothing that counts. -/
theorem Legal.renumberCells (legal : svc.Legal) (roleID : UInt32) :
    svc.Accounted (svc.renumberCells roleID) := by
  unfold BagSvc.renumberCells
  apply legal.accounted_of_contents
  · refine (contents_renumber _ _ _).1.trans ?_
    rw [List.map_map]
    apply List.map_congr_left
    intro row _
    rw [Function.comp_apply]
    split
    · rw [contents, contents]
    · rfl
  · exact (contents_renumber _ _ _).2

/-- Sorting neither takes nor gives a piece. -/
theorem Legal.processSortItem (legal : svc.Legal) (alone : StacksAlone tables svc roleID) :
    svc.Accounted (svc.processSortItem tables roleID).2 := by
  have merged := legal.mergeStacks alone
  exact merged.trans (merged.legal.renumberCells roleID)

end AppSvr.MainServer.BagSvc
