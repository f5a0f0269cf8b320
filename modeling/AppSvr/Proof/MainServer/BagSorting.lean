/-
This file proves that sorting a bag keeps its items and compacts them.
-/

import AppSvr.Proof.MainServer.StackMerge
import AppSvr.ToMathlib.WeightedPrefix

namespace AppSvr.MainServer.BagSvc

open WeightedPrefix

variable {Other : Type*} {svc next : BagSvc Other} {tables : ItemTables}
  {roleID itemID : UInt32} {row : DBBagItem} {rows others : List DBBagItem}

def ownRows (svc : BagSvc Other) (roleID : UInt32) : List DBBagItem :=
  svc.bag.filter fun row => row.roleID = roleID

/-- A row counts its pieces for its own item. -/
def itemUnits (itemID : UInt32) (row : DBBagItem) : Nat :=
  if row.itemID = itemID then row.num.toNat else 0

/-- The cells before a request are distinct and in range, and every number fits into a cell. -/
structure Sortable (svc : BagSvc Other) (roleID : UInt32) : Prop where
  cells : ((svc.ownRows roleID).map DBBagItem.cellIndex).Nodup
  range : ∀ row ∈ svc.ownRows roleID, 1 ≤ row.cellIndex.toNat ∧ row.cellIndex.toNat ≤ 999
  num : ∀ row ∈ svc.ownRows roleID, 1 ≤ row.num.toNat ∧ row.num.toNat ≤ topStackNum.toNat

def Stackable (tables : ItemTables) (itemID : UInt32) : Prop :=
  (tables.item itemID).map Item.isStack = some 1

instance (tables : ItemTables) (itemID : UInt32) : Decidable (Stackable tables itemID) :=
  inferInstanceAs (Decidable (_ = _))

/-- A stack without an entity that is not full. -/
def PartStack (itemID : UInt32) (row : DBBagItem) : Prop :=
  row.itemID = itemID ∧ row.entityID = 0 ∧ row.num.toNat < topStackNum.toNat

instance (itemID : UInt32) (row : DBBagItem) : Decidable (PartStack itemID row) :=
  inferInstanceAs (Decidable (_ ∧ _))

/-- The items are the same, they lie in the first cells, and each stackable item has at most one
stack that is not full. -/
structure Compacted (tables : ItemTables) (svc next : BagSvc Other) (roleID : UInt32) : Prop where
  totals : ∀ itemID, weightOf (itemUnits itemID) (next.ownRows roleID) =
    weightOf (itemUnits itemID) (svc.ownRows roleID)
  entities : (((next.ownRows roleID).filter fun row => row.entityID ≠ 0).map fun row =>
      (row.itemID, row.entityID)).Perm
    (((svc.ownRows roleID).filter fun row => row.entityID ≠ 0).map fun row =>
      (row.itemID, row.entityID))
  cells : ((next.ownRows roleID).map fun row => row.cellIndex.toNat).Perm
    (List.range' 1 (next.ownRows roleID).length)
  num : ∀ row ∈ next.ownRows roleID, 1 ≤ row.num.toNat ∧ row.num.toNat ≤ topStackNum.toNat
  parts : ∀ itemID, Stackable tables itemID →
    ((next.ownRows roleID).filter (PartStack itemID)).length ≤ 1

section Statements

/-- A statement that changes the row of one cell leaves the other rows alone. -/
theorem own_change {change : DBBagItem → DBBagItem}
    (keeps : ∀ row, (change row).roleID = row.roleID)
    (own : (svc.ownRows roleID).Perm (row :: others))
    (apart : ∀ other ∈ others, other.cellIndex ≠ row.cellIndex) :
    ((svc.bag.map fun other => if MainSvc.Listed roleID [row.cellIndex] other then change other
      else other).filter fun row => row.roleID = roleID).Perm (change row :: others) := by
  have role : row.roleID = roleID := by
    have member := own.symm.subset List.mem_cons_self
    exact of_decide_eq_true (List.mem_filter.mp member).2
  have kept : (fun other => decide ((if MainSvc.Listed roleID [row.cellIndex] other then
      change other else other).roleID = roleID)) = fun other => decide (other.roleID = roleID) := by
    funext other
    split_ifs <;> simp [keeps]
  have mapped := own.map fun other =>
    if MainSvc.Listed roleID [row.cellIndex] other then change other else other
  have unchanged : (others.map fun other =>
      if MainSvc.Listed roleID [row.cellIndex] other then change other else other) = others := by
    refine (List.map_congr_left fun other member => ?_).trans (List.map_id others)
    exact if_neg fun listed => apart other member (List.mem_singleton.mp listed.2)
  rw [List.map_cons, unchanged, if_pos ⟨role, List.mem_singleton_self _⟩] at mapped
  rw [List.filter_map]
  unfold Function.comp
  rw [kept]
  exact mapped

theorem own_updateNum (own : (svc.ownRows roleID).Perm (row :: others))
    (apart : ∀ other ∈ others, other.cellIndex ≠ row.cellIndex) (num : UInt16) :
    ((svc.updateNum roleID row.cellIndex num.toNat).ownRows roleID).Perm
      ({ row with num := num.toUInt32 } :: others) := by
  have stored : UInt32.ofInt num.toNat = num.toUInt32 := by
    have bound := num.toNat_lt
    have small : (num.toNat : Int) % 4294967296 = num.toNat := by omega
    rw [UInt32.ofInt]
    simp [small]
  unfold ownRows updateNum
  rw [stored]
  exact own_change (fun _ => rfl) own apart

theorem own_updateCellIndex (own : (svc.ownRows roleID).Perm (row :: others))
    (apart : ∀ other ∈ others, other.cellIndex ≠ row.cellIndex) (cellnum : UInt16) :
    ((svc.updateCellIndex roleID row.cellIndex cellnum).ownRows roleID).Perm
      ({ row with cellIndex := cellnum } :: others) :=
  own_change (fun _ => rfl) own apart

theorem own_deleteCells (own : (svc.ownRows roleID).Perm (row :: others))
    (apart : ∀ other ∈ others, other.cellIndex ≠ row.cellIndex) :
    ((svc.deleteCells roleID [row.cellIndex]).ownRows roleID).Perm others := by
  have role : row.roleID = roleID := by
    have member := own.symm.subset List.mem_cons_self
    exact of_decide_eq_true (List.mem_filter.mp member).2
  have listed : MainSvc.Listed roleID [row.cellIndex] row := ⟨role, List.mem_singleton_self _⟩
  have kept := own.filter fun other => ¬ MainSvc.Listed roleID [row.cellIndex] other
  have others' : (others.filter fun other => ¬ MainSvc.Listed roleID [row.cellIndex] other) =
      others := by
    refine List.filter_eq_self.mpr fun other member => decide_eq_true fun listed => ?_
    exact apart other member (List.mem_singleton.mp listed.2)
  rw [List.filter_cons_of_neg (by simpa using listed), others'] at kept
  unfold ownRows deleteCells
  rw [List.filter_comm]
  exact kept

end Statements

section Merge

/-- These rows are left of the merged stacks. The current row has merged the given number so far. -/
def mergedRows (row : DBBagItem) (num : UInt16) : List DBBagItem → List DBBagItem
  | [] => [{ row with num := num.toUInt32 }]
  | later :: rest =>
      if row.itemID = later.itemID then
        if topStackNum < num + later.num.toUInt16 then
          { row with num := topStackNum.toUInt32 } ::
            mergedRows later (num + later.num.toUInt16 - topStackNum) rest
        else mergedRows later (num + later.num.toUInt16) rest
      else { row with num := num.toUInt32 } :: mergedRows later later.num.toUInt16 rest

theorem apart_of_nodup (distinct : ((row :: others).map DBBagItem.cellIndex).Nodup) :
    ∀ other ∈ others, other.cellIndex ≠ row.cellIndex := fun _ member same =>
  (List.nodup_cons.mp distinct).1 (same ▸ List.mem_map_of_mem member)

/-- The loop over the selected rows leaves the merged rows and the other rows. -/
theorem mergeRows_own (rest others : List DBBagItem) (num : UInt16)
    (own : (svc.ownRows roleID).Perm (row :: rest ++ others))
    (distinct : ((row :: rest ++ others).map DBBagItem.cellIndex).Nodup) :
    ((mergeRows roleID row.cellIndex row.itemID num rest svc).ownRows roleID).Perm
      (mergedRows row num rest ++ others) := by
  induction rest generalizing svc row num others with
  | nil => exact own_updateNum own (apart_of_nodup distinct) num
  | cons later rest inductive_hypothesis =>
      have fewer : ((later :: rest ++ others).map DBBagItem.cellIndex).Nodup :=
        (List.nodup_cons.mp distinct).2
      have apart := apart_of_nodup distinct
      -- A row that is done joins the other rows.
      have joins (num : UInt16) : (later :: rest ++ { row with num := num.toUInt32 } :: others).Perm
          ({ row with num := num.toUInt32 } :: (later :: rest ++ others)) := List.perm_middle
      have joined (num : UInt16) : ((later :: rest ++ { row with num := num.toUInt32 } ::
          others).map DBBagItem.cellIndex).Nodup :=
        ((joins num).map DBBagItem.cellIndex).nodup_iff.mpr distinct
      have written (num : UInt16) := (own_updateNum own apart num).trans (joins num).symm
      unfold mergeRows mergedRows
      by_cases same : row.itemID = later.itemID
      · rw [if_pos same, if_pos same]
        dsimp only
        by_cases full : topStackNum < num + later.num.toUInt16
        · have merged := inductive_hypothesis _ (num + later.num.toUInt16 - topStackNum)
            (written topStackNum) (joined _)
          rw [← same] at merged
          rw [if_pos full, if_pos full]
          exact merged.trans List.perm_middle
        · have merged := inductive_hypothesis _ (num + later.num.toUInt16)
            (own_deleteCells own apart) fewer
          rw [← same] at merged
          rw [if_neg full, if_neg full]
          exact merged
      · rw [if_neg same, if_neg same]
        exact (inductive_hypothesis _ _ (written num) (joined _)).trans List.perm_middle

/-- A row that takes part in the merge has a number that fits into a cell. -/
def Small (row : DBBagItem) : Prop := 1 ≤ row.num.toNat ∧ row.num.toNat ≤ topStackNum.toNat

theorem Small.toUInt16 (small : Small row) : row.num.toUInt16.toNat = row.num.toNat := by
  have bound : row.num.toNat ≤ 99 := small.2
  rw [UInt32.toNat_toUInt16]
  omega

variable (rest : List DBBagItem)

/-- Every merged row is a former row with another number. -/
theorem mem_mergedRows (num : UInt16) {merged : DBBagItem}
    (member : merged ∈ mergedRows row num rest) :
    ∃ old ∈ row :: rest, ∃ count : UInt16, merged = { old with num := count.toUInt32 } := by
  induction rest generalizing row num with
  | nil =>
      obtain rfl := List.mem_singleton.mp member
      exact ⟨row, List.mem_cons_self, num, rfl⟩
  | cons later rest inductive_hypothesis =>
      have behind {num : UInt16} (member : merged ∈ mergedRows later num rest) :
          ∃ old ∈ row :: later :: rest, ∃ count : UInt16,
            merged = { old with num := count.toUInt32 } := by
        obtain ⟨old, among, found⟩ := inductive_hypothesis num member
        exact ⟨old, List.mem_cons_of_mem _ among, found⟩
      unfold mergedRows at member
      split_ifs at member
      · rcases List.mem_cons.mp member with rfl | member
        · exact ⟨row, List.mem_cons_self, topStackNum, rfl⟩
        · exact behind member
      · exact behind member
      · rcases List.mem_cons.mp member with rfl | member
        · exact ⟨row, List.mem_cons_self, num, rfl⟩
        · exact behind member

theorem mergedRows_small (num : UInt16) (low : 1 ≤ num.toNat)
    (high : num.toNat ≤ 99) (small : ∀ row ∈ rest, Small row) :
    ∀ merged ∈ mergedRows row num rest, Small merged := by
  have counts {num : UInt16} (low : 1 ≤ num.toNat) (high : num.toNat ≤ 99) (row : DBBagItem) :
      Small { row with num := num.toUInt32 } := by
    rw [Small, UInt16.toNat_toUInt32]
    exact ⟨low, high⟩
  induction rest generalizing row num with
  | nil => exact List.forall_mem_singleton.mpr (counts low high row)
  | cons later rest inductive_hypothesis =>
      obtain ⟨own, smaller⟩ := List.forall_mem_cons.mp small
      have counted := own.toUInt16
      have positive := own.1
      have below : later.num.toNat ≤ 99 := own.2
      unfold mergedRows
      split_ifs with same full
      · obtain ⟨_, low, high⟩ := merged_full high (by omega) full
        exact List.forall_mem_cons.mpr
          ⟨counts (by decide) (by decide) row, inductive_hypothesis _ low high smaller⟩
      · obtain ⟨sum, high⟩ := merged_small high (by omega) full
        exact inductive_hypothesis _ (by omega) (by omega) smaller
      · exact List.forall_mem_cons.mpr
          ⟨counts low high row, inductive_hypothesis _ (by omega) (by omega) smaller⟩

theorem mergedRows_cells (num : UInt16) :
    ((mergedRows row num rest).map DBBagItem.cellIndex).Sublist
      ((row :: rest).map DBBagItem.cellIndex) := by
  induction rest generalizing row num with
  | nil => exact List.Sublist.refl _
  | cons later rest inductive_hypothesis =>
      unfold mergedRows
      split_ifs
      · exact (inductive_hypothesis _).cons_cons _
      · exact (inductive_hypothesis _).cons _
      · exact (inductive_hypothesis _).cons_cons _

/-- The merged rows hold what the rows held, where the current row holds the given number. -/
theorem mergedRows_units (itemID : UInt32) (rest : List DBBagItem) (num : UInt16)
    (high : num.toNat ≤ 99) (small : ∀ row ∈ rest, Small row) :
    weightOf (itemUnits itemID) (mergedRows row num rest) =
      itemUnits itemID { row with num := num.toUInt32 } + weightOf (itemUnits itemID) rest := by
  induction rest generalizing row num with
  | nil => rfl
  | cons later rest inductive_hypothesis =>
      have own := small later List.mem_cons_self
      have counted := own.toUInt16
      have below : later.num.toNat ≤ 99 := own.2
      have limit : topStackNum.toNat = 99 := rfl
      have smaller : ∀ row ∈ rest, Small row := fun row member =>
        small row (List.mem_cons_of_mem _ member)
      unfold mergedRows
      split_ifs with same full
      · obtain ⟨sum, _, high⟩ := merged_full high (by omega) full
        rw [weightOf_cons, weightOf_cons, inductive_hypothesis _ high smaller]
        unfold itemUnits
        simp only [same, UInt16.toNat_toUInt32]
        split_ifs <;> omega
      · obtain ⟨sum, _⟩ := merged_small high (by omega) full
        rw [weightOf_cons, inductive_hypothesis _ (by omega) smaller]
        unfold itemUnits
        simp only [same, UInt16.toNat_toUInt32]
        split_ifs <;> omega
      · rw [weightOf_cons, weightOf_cons, inductive_hypothesis _ (by omega) smaller]
        unfold itemUnits
        simp only [UInt16.toNat_toUInt32, counted]

/-- Rows in the order of their items leave at most one stack of an item that is not full. -/
theorem mergedRows_parts (itemID : UInt32) (rest : List DBBagItem) (num : UInt16)
    (ordered : (row :: rest).Pairwise fun row1 row2 => row2.itemID ≤ row1.itemID) :
    ((mergedRows row num rest).filter (PartStack itemID)).length ≤ 1 := by
  induction rest generalizing row num with
  | nil => exact List.length_filter_le _ _
  | cons later rest inductive_hypothesis =>
      obtain ⟨ahead, behind⟩ := List.pairwise_cons.mp ordered
      unfold mergedRows
      split_ifs with same full
      · have filled : ¬ PartStack itemID { row with num := topStackNum.toUInt32 } :=
          fun part => Nat.lt_irrefl 99 part.2.2
        rw [List.filter_cons_of_neg (by simpa using filled)]
        exact inductive_hypothesis _ behind
      · exact inductive_hypothesis _ behind
      · by_cases wanted : row.itemID = itemID
        · -- The rows behind belong to smaller items.
          have none : (mergedRows later later.num.toUInt16 rest).filter
              (PartStack itemID) = [] := by
            refine List.filter_eq_nil_iff.mpr fun merged member part => ?_
            obtain ⟨old, among, count, rfl⟩ := mem_mergedRows rest _ member
            have item : old.itemID = row.itemID := (of_decide_eq_true part).1.trans wanted.symm
            have next : later.itemID ≤ row.itemID := ahead later List.mem_cons_self
            rcases List.mem_cons.mp among with rfl | among
            · exact same item.symm
            · have order := (List.pairwise_cons.mp behind).1 old among
              exact same (UInt32.le_antisymm (item ▸ order) next)
          rw [List.filter_cons, none]
          split_ifs <;> simp
        · have other : ¬ PartStack itemID { row with num := num.toUInt32 } :=
            fun part => wanted part.1
          rw [List.filter_cons_of_neg (by simpa using other)]
          exact inductive_hypothesis _ behind

/-- The rows that take part in the merge, and the other rows of the role. -/
theorem own_selectMergeable (tables : ItemTables) (svc : BagSvc Other) (roleID : UInt32) :
    (svc.ownRows roleID).Perm (svc.selectMergeable tables roleID ++
      (svc.ownRows roleID).filter fun row => ¬ Mergeable tables roleID row) := by
  have selected : (svc.selectMergeable tables roleID).Perm
      ((svc.ownRows roleID).filter (Mergeable tables roleID)) := by
    refine (List.perm_insertionSort _ _).trans (List.Perm.of_eq ?_)
    rw [ownRows, List.filter_filter]
    refine List.filter_congr fun row _ => ?_
    by_cases mergeable : Mergeable tables roleID row
    · simp [mergeable, mergeable.1]
    · simp [mergeable]
  have split := List.filter_append_perm (fun row => decide (Mergeable tables roleID row))
    (svc.ownRows roleID)
  refine split.symm.trans (selected.symm.append (List.Perm.of_eq ?_))
  exact List.filter_congr fun row _ => (decide_not).symm

/-- The rows are selected in the order of their items. -/
theorem selectMergeable_ordered (tables : ItemTables) (svc : BagSvc Other) (roleID : UInt32) :
    (svc.selectMergeable tables roleID).Pairwise fun row1 row2 => row2.itemID ≤ row1.itemID := by
  have order (row1 row2 : DBBagItem) : mergeOrder row1 row2 ↔
      row2.itemID.toNat < row1.itemID.toNat ∨ row1.itemID.toNat = row2.itemID.toNat ∧
        printed row2.num ≤ printed row1.num := by
    simp [mergeOrder, UInt32.lt_iff_toNat_lt, ← UInt32.toNat_inj]
  have : Std.Total fun row1 row2 => mergeOrder row1 row2 = true :=
    ⟨fun row1 row2 => by rw [order, order]; omega⟩
  have : IsTrans DBBagItem fun row1 row2 => mergeOrder row1 row2 = true :=
    ⟨fun row1 row2 row3 => by rw [order, order, order]; omega⟩
  refine (List.pairwise_insertionSort (mergeOrder · ·) _).imp fun {row1 row2} sorted => ?_
  rw [UInt32.le_iff_toNat_le]
  rw [order] at sorted
  omega

/-- What the rows of a role keep while stacks are merged and moved. -/
structure Kept (tables : ItemTables) (svc : BagSvc Other) (roleID : UInt32)
    (rows : List DBBagItem) : Prop where
  totals : ∀ itemID, weightOf (itemUnits itemID) rows =
    weightOf (itemUnits itemID) (svc.ownRows roleID)
  entities : ((rows.filter fun row => row.entityID ≠ 0).map fun row =>
      (row.itemID, row.entityID)).Perm
    (((svc.ownRows roleID).filter fun row => row.entityID ≠ 0).map fun row =>
      (row.itemID, row.entityID))
  small : ∀ row ∈ rows, Small row
  parts : ∀ itemID, Stackable tables itemID → (rows.filter (PartStack itemID)).length ≤ 1

/-- A stack that is not full takes part in the merge. -/
theorem filter_parts_others (stackable : Stackable tables itemID) :
    (((svc.ownRows roleID).filter fun row => ¬ Mergeable tables roleID row).filter
      (PartStack itemID)) = [] := by
  refine List.filter_eq_nil_iff.mpr fun row member part => ?_
  obtain ⟨own, out⟩ := List.mem_filter.mp member
  obtain ⟨rfl, stack, less⟩ := of_decide_eq_true part
  have limit : topStackNum.toNat = 99 := rfl
  refine of_decide_eq_true out ⟨of_decide_eq_true (List.mem_filter.mp own).2, stack, stackable, ?_⟩
  rw [printed_small (by omega)]
  omega

/-- Merged stacks keep the pieces of each item, and leave one part of a stack at most. -/
theorem mergedRows_kept {row : DBBagItem} {rest others : List DBBagItem}
    (sortable : svc.Sortable roleID) (own : (svc.ownRows roleID).Perm (row :: rest ++ others))
    (mergeable : ∀ other ∈ row :: rest, Mergeable tables roleID other)
    (ordered : (row :: rest).Pairwise fun row1 row2 => row2.itemID ≤ row1.itemID)
    (noParts : ∀ itemID, Stackable tables itemID → others.filter (PartStack itemID) = []) :
    Kept tables svc roleID (mergedRows row row.num.toUInt16 rest ++ others) := by
  have small : ∀ other ∈ row :: rest ++ others, Small other := fun other member =>
    sortable.num other (own.symm.subset member)
  have current := small row List.mem_cons_self
  have counted := current.toUInt16
  have positive := current.1
  have below : row.num.toNat ≤ 99 := current.2
  have restSmall : ∀ other ∈ rest, Small other := fun other member =>
    small other (List.mem_append_left _ (List.mem_cons_of_mem _ member))
  have noEntity : ((mergedRows row row.num.toUInt16 rest).filter fun row =>
      row.entityID ≠ 0) = [] := by
    refine List.filter_eq_nil_iff.mpr fun merged member entity => ?_
    obtain ⟨old, among, count, rfl⟩ := mem_mergedRows rest _ member
    exact of_decide_eq_true entity (mergeable old among).2.1
  have noEntity' : ((row :: rest).filter fun row => row.entityID ≠ 0) = [] :=
    List.filter_eq_nil_iff.mpr fun old among entity =>
      of_decide_eq_true entity (mergeable old among).2.1
  constructor
  · intro itemID
    rw [weightOf_append, mergedRows_units itemID rest _ (by omega) restSmall,
      weightOf_perm _ own, weightOf_append, weightOf_cons]
    simp only [itemUnits, UInt16.toNat_toUInt32, counted]
  · refine List.Perm.map _ (List.Perm.trans ?_ (own.filter _).symm)
    rw [List.filter_append, List.filter_append, noEntity, noEntity']
  · have merged := @mergedRows_small row rest row.num.toUInt16 (by omega) (by omega) restSmall
    refine List.forall_mem_append.mpr ⟨merged, ?_⟩
    exact fun other member => small other (List.mem_append_right _ member)
  · intro itemID stackable
    rw [List.filter_append, noParts itemID stackable, List.append_nil]
    exact mergedRows_parts itemID rest _ ordered

theorem mergeStacks_own (tables : ItemTables) (sortable : svc.Sortable roleID) :
    ∃ rows,
      ((mergeStacks roleID (svc.selectMergeable tables roleID) svc).ownRows roleID).Perm rows ∧
      Kept tables svc roleID rows ∧ (rows.map DBBagItem.cellIndex).Nodup ∧
      ∀ row ∈ rows, 1 ≤ row.cellIndex.toNat ∧ row.cellIndex.toNat ≤ 999 := by
  have own := own_selectMergeable tables svc roleID
  have ordered := selectMergeable_ordered tables svc roleID
  have mergeable : ∀ row ∈ svc.selectMergeable tables roleID, Mergeable tables roleID row := by
    intro row member
    exact of_decide_eq_true (List.mem_filter.mp
      ((List.perm_insertionSort _ _).subset member)).2
  have noParts := fun itemID stackable =>
    @filter_parts_others Other svc tables roleID itemID stackable
  generalize ((svc.ownRows roleID).filter fun row => ¬ Mergeable tables roleID row) = others
    at own noParts
  cases selected : svc.selectMergeable tables roleID with
  | nil =>
      rw [selected, List.nil_append] at own
      refine ⟨svc.ownRows roleID, List.Perm.refl _, ⟨fun _ => rfl, List.Perm.refl _, sortable.num,
        fun itemID stackable => ?_⟩, sortable.cells, sortable.range⟩
      rw [(own.filter (PartStack itemID)).length_eq, noParts itemID stackable]
      exact Nat.zero_le 1
  | cons row rest =>
      rw [selected] at own ordered mergeable
      have distinct := (own.map DBBagItem.cellIndex).nodup_iff.mp sortable.cells
      refine ⟨mergedRows row row.num.toUInt16 rest ++ others,
        mergeRows_own rest others _ own distinct,
        mergedRows_kept sortable own mergeable ordered noParts, ?_, ?_⟩
      · refine distinct.sublist ?_
        rw [List.map_append, List.map_append]
        exact (mergedRows_cells rest _).append_right _
      · refine List.forall_mem_append.mpr ⟨fun merged member => ?_, fun other member => ?_⟩
        · obtain ⟨old, among, count, rfl⟩ := mem_mergedRows rest _ member
          exact sortable.range old (own.symm.subset (List.mem_append_left _ among))
        · exact sortable.range other (own.symm.subset (List.mem_append_right _ member))

end Merge

section Numbers

/-- The rows are numbered behind the given cell. -/
def numbered : Nat → List DBBagItem → List DBBagItem
  | _, [] => []
  | cellnum, row :: rest =>
      { row with cellIndex := UInt16.ofNat (cellnum + 1) } :: numbered (cellnum + 1) rest

theorem toNat_cellnum {cellnum : Nat} (fits : cellnum + 1 < 65536) :
    (UInt16.ofNat (cellnum + 1)).toNat = cellnum + 1 := by
  rw [UInt16.toNat_ofNat']
  omega

/-- Every row comes into a lower cell, where no row lies. -/
theorem renumber_own (rows done : List DBBagItem) (cellnum : Nat)
    (own : (svc.ownRows roleID).Perm (rows ++ done))
    (distinct : (rows.map DBBagItem.cellIndex).Nodup)
    (above : ∀ row ∈ rows, cellnum + rows.length < row.cellIndex.toNat)
    (below : ∀ row ∈ done, row.cellIndex.toNat ≤ cellnum) :
    ((renumber roleID rows cellnum svc).ownRows roleID).Perm (numbered cellnum rows ++ done) := by
  induction rows generalizing svc cellnum done with
  | nil => exact own
  | cons row rest inductive_hypothesis =>
      have high := above row List.mem_cons_self
      have bound := row.cellIndex.toNat_lt
      rw [List.length_cons] at high
      have number := @toNat_cellnum cellnum (by omega)
      have apart : ∀ other ∈ rest ++ done, other.cellIndex ≠ row.cellIndex := by
        intro other member same
        rcases List.mem_append.mp member with later | earlier
        · exact (List.nodup_cons.mp distinct).1 (same ▸ List.mem_map_of_mem later)
        · have low := below other earlier
          rw [same] at low
          omega
      unfold renumber numbered
      rw [if_pos (by omega)]
      have moved := (own_updateCellIndex own apart (UInt16.ofNat (cellnum + 1))).trans
        List.perm_middle.symm
      refine (inductive_hypothesis _ (cellnum + 1) moved (List.nodup_cons.mp distinct).2
        (fun other member => ?_) ?_).trans List.perm_middle
      · have far := above other (List.mem_cons_of_mem _ member)
        rw [List.length_cons] at far
        omega
      · refine List.forall_mem_cons.mpr ⟨number.le, fun other member => ?_⟩
        exact (below other member).trans (Nat.le_succ cellnum)

theorem numbered_cells (rows : List DBBagItem) (cellnum : Nat)
    (fits : cellnum + rows.length < 65536) :
    (numbered cellnum rows).map (fun row => row.cellIndex.toNat) =
      List.range' (cellnum + 1) rows.length := by
  induction rows generalizing cellnum with
  | nil => rfl
  | cons row rest inductive_hypothesis =>
      rw [List.length_cons] at fits
      have number := @toNat_cellnum cellnum (by omega)
      rw [numbered, List.map_cons, inductive_hypothesis (cellnum + 1) (by omega), List.length_cons,
        List.range'_succ, number]

/-- What does not read the cells does not see the numbers. -/
theorem map_numbered {Value : Type*} {read : DBBagItem → Value}
    (blind : ∀ row cellIndex, read { row with cellIndex := cellIndex } = read row)
    (rows : List DBBagItem) (cellnum : Nat) :
    (numbered cellnum rows).map read = rows.map read := by
  induction rows generalizing cellnum with
  | nil => rfl
  | cons row rest inductive_hypothesis =>
      rw [numbered, List.map_cons, List.map_cons, inductive_hypothesis, blind]

/-- The row without its cell. -/
def content (row : DBBagItem) : DBBagItem := { row with cellIndex := 0 }

theorem content_eq {row other : DBBagItem} (same : content row = content other) :
    row = { other with cellIndex := row.cellIndex } := by
  cases row
  cases other
  simpa [content] using same

theorem filter_map_content {Value : Type*} {property : DBBagItem → Prop} [DecidablePred property]
    {read : DBBagItem → Value} (blind : ∀ row, property (content row) ↔ property row)
    (blindRead : ∀ row, read (content row) = read row) (rows : List DBBagItem) :
    ((rows.map content).filter property).map read = (rows.filter property).map read := by
  have kept : (fun row => decide (property (content row))) = fun row => decide (property row) :=
    funext fun row => decide_eq_decide.mpr (blind row)
  have seen : read ∘ content = read := funext blindRead
  rw [List.filter_map, List.map_map, seen]
  unfold Function.comp
  rw [kept]

/-- Rows that differ in their cells only keep the same. -/
theorem Kept.of_content (kept : Kept tables svc roleID rows)
    (same : (others.map content).Perm (rows.map content)) : Kept tables svc roleID others where
  totals itemID := by
    have units (rows : List DBBagItem) : weightOf (itemUnits itemID) rows =
        weightOf (itemUnits itemID) (rows.map content) := by
      rw [weightOf, weightOf, List.map_map]
      rfl
    rw [units others, weightOf_perm _ same, ← units rows, kept.totals]
  entities := by
    have moved := (same.filter fun row => row.entityID ≠ 0).map fun row =>
      (row.itemID, row.entityID)
    rw [filter_map_content (fun _ => Iff.rfl) fun _ => rfl,
      filter_map_content (fun _ => Iff.rfl) fun _ => rfl] at moved
    exact moved.trans kept.entities
  small row member := by
    obtain ⟨old, among, equal⟩ := List.mem_map.mp (same.subset (List.mem_map_of_mem member))
    rw [content_eq equal.symm]
    exact kept.small old among
  parts itemID stackable := by
    have moved := ((same.filter (PartStack itemID)).map fun row => row.itemID).length_eq
    rw [filter_map_content (fun _ => Iff.rfl) fun _ => rfl,
      filter_map_content (fun _ => Iff.rfl) fun _ => rfl, List.length_map, List.length_map] at moved
    exact moved ▸ kept.parts itemID stackable

theorem length_le_of_cells (cells : (rows.map DBBagItem.cellIndex).Nodup)
    (range : ∀ row ∈ rows, 1 ≤ row.cellIndex.toNat ∧ row.cellIndex.toNat ≤ 999) :
    rows.length ≤ 999 := by
  have distinct : ((rows.map DBBagItem.cellIndex).map UInt16.toNat).Nodup :=
    cells.map fun _ _ => UInt16.toNat_inj.mp
  have inside : (rows.map DBBagItem.cellIndex).map UInt16.toNat ⊆ List.range' 1 999 := by
    intro cell member
    simp only [List.map_map, List.mem_map, Function.comp_apply] at member
    obtain ⟨row, among, rfl⟩ := member
    have bounds := range row among
    exact List.mem_range'_1.mpr (by omega)
  simpa using (List.subperm_of_subset distinct inside).length_le

/-- The row lies a thousand cells behind its old cell. -/
def shifted (row : DBBagItem) : DBBagItem := { row with cellIndex := row.cellIndex + 1000 }

theorem own_shifted (svc : BagSvc Other) (roleID : UInt32) :
    ((svc.bag.map fun row => if row.roleID = roleID then shifted row else row).filter fun row =>
      row.roleID = roleID) = (svc.ownRows roleID).map shifted := by
  have kept : (fun row : DBBagItem => decide ((if row.roleID = roleID then shifted row
      else row).roleID = roleID)) = fun row => decide (row.roleID = roleID) := by
    funext row
    split_ifs with own <;> simp [shifted, own]
  rw [List.filter_map]
  unfold Function.comp
  rw [kept]
  refine List.map_congr_left fun row member => ?_
  exact if_pos (of_decide_eq_true (List.mem_filter.mp member).2)

/-- The cells behind the bag are numbered from one on, and nothing else changes. -/
theorem renumberCells_own (own : (svc.ownRows roleID).Perm rows)
    (cells : (rows.map DBBagItem.cellIndex).Nodup)
    (range : ∀ row ∈ rows, 1 ≤ row.cellIndex.toNat ∧ row.cellIndex.toNat ≤ 999) :
    (((svc.renumberCells roleID).ownRows roleID).map content).Perm (rows.map content) ∧
      (((svc.renumberCells roleID).ownRows roleID).map fun row => row.cellIndex.toNat).Perm
        (List.range' 1 ((svc.renumberCells roleID).ownRows roleID).length) := by
  let moved : BagSvc Other := { svc with
    bag := svc.bag.map fun row => if row.roleID = roleID then shifted row else row }
  let sorted := (moved.ownRows roleID).insertionSort fun row1 row2 =>
    row1.itemType < row2.itemType ∨ row1.itemType = row2.itemType ∧ row1.cellIndex ≤ row2.cellIndex
  have final : svc.renumberCells roleID = renumber roleID sorted 0 moved := rfl
  have movedOwn : (moved.ownRows roleID).Perm (rows.map shifted) := by
    change ((svc.bag.map _).filter _).Perm _
    rw [own_shifted]
    exact own.map shifted
  have perm : sorted.Perm (moved.ownRows roleID) := List.perm_insertionSort _ _
  have members := perm.trans movedOwn
  have distinct : (sorted.map DBBagItem.cellIndex).Nodup := by
    refine (members.map DBBagItem.cellIndex).nodup_iff.mpr ?_
    have behind := cells.map fun (first second : UInt16) (same : first + 1000 = second + 1000) =>
      (UInt16.add_left_inj 1000).mp same
    rw [List.map_map] at behind ⊢
    exact behind
  have short := length_le_of_cells cells range
  have length : sorted.length = rows.length := by
    rw [members.length_eq, List.length_map]
  have above : ∀ row ∈ sorted, 0 + sorted.length < row.cellIndex.toNat := by
    intro row member
    obtain ⟨old, among, rfl⟩ := List.mem_map.mp (members.subset member)
    have bounds := range old among
    have number : (shifted old).cellIndex.toNat = old.cellIndex.toNat + 1000 := by
      change (old.cellIndex + 1000).toNat = _
      rw [UInt16.toNat_add]
      change (old.cellIndex.toNat + 1000) % 65536 = _
      omega
    omega
  have result := renumber_own sorted [] 0 (by simpa using perm.symm) distinct above (by simp)
  rw [List.append_nil, ← final] at result
  constructor
  · refine (result.map content).trans ?_
    rw [map_numbered fun _ _ => rfl]
    refine (members.map content).trans (List.Perm.of_eq ?_)
    rw [List.map_map]
    exact List.map_congr_left fun row _ => by simp only [Function.comp_apply, content, shifted]
  · refine (result.map _).trans (List.Perm.of_eq ?_)
    have size : ((svc.renumberCells roleID).ownRows roleID).length = sorted.length := by
      have numbers := congrArg List.length (numbered_cells sorted 0 (by omega))
      rw [List.length_map, List.length_range'] at numbers
      exact result.length_eq.trans numbers
    rw [numbered_cells sorted 0 (by omega), size]

end Numbers

/-- Sorting keeps the items of the role and compacts its bag. -/
theorem processSortItem_compacts (tables : ItemTables) (sortable : svc.Sortable roleID) :
    Compacted tables svc (svc.processSortItem tables roleID).2 roleID := by
  obtain ⟨rows, own, kept, cells, range⟩ := mergeStacks_own tables sortable
  obtain ⟨same, numbers⟩ := renumberCells_own own cells range
  have final := kept.of_content same
  exact ⟨final.totals, final.entities, numbers, final.small, final.parts⟩

/-- Item 50 can be stacked. -/
def gemTables : ItemTables where
  item itemID := if itemID = 50 then some { Item.null with isStack := 1 } else none
  itemComposite := []
  giftItemBag := []
  itemBonus := []

/-- The first two cells of role 7 hold these pieces of item 50 with these entities. -/
def gemBag (first second : UInt32 × UInt32) : BagSvc Empty where
  mapRole _ := none
  bag := [⟨7, 1, 0, 0, 50, first.1, first.2⟩, ⟨7, 2, 0, 0, 50, second.1, second.2⟩]
  roleMoney _ := ⟨0, 0, 0⟩
  equip := []
  bindStatus _ := none
  isVip _ := none
  nextEntityID := 1
  runes := .initial fun _ _ => 0
  issued := []

theorem gemBag_compacts : Compacted gemTables (gemBag (0, 60) (0, 70))
    ((gemBag (0, 60) (0, 70)).processSortItem gemTables 7).2 7 :=
  processSortItem_compacts gemTables ⟨by decide, by decide, by decide⟩

/-- Two pieces with entities stay in two rows. -/
theorem twoEntities_not_compacted :
    ¬ ∀ (tables : ItemTables) (svc : BagSvc Empty) (roleID itemID : UInt32), svc.Sortable roleID →
      (∀ row ∈ svc.ownRows roleID, row.entityID ≠ 0 → row.num = 1) → Stackable tables itemID →
      (((svc.processSortItem tables roleID).2.ownRows roleID).filter fun row =>
        row.itemID = itemID ∧ row.num.toNat < topStackNum.toNat).length ≤ 1 := by
  intro claimed
  have single := claimed gemTables (gemBag (3, 1) (4, 1)) 7 50 ⟨by decide, by decide, by decide⟩
    (by decide) (by decide)
  exact absurd single (by decide +kernel)

end AppSvr.MainServer.BagSvc
