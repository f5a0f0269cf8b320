/-
This file proves when the exchange of items is complete or leaves both bags unchanged.
-/

import AppSvr.Proof.MainServer.FreeCells
import Mathlib.Data.List.Perm.Basic

namespace AppSvr.MainServer
open FreeIndices

/-- The item in a row is its kind, its entity, and its number. -/
def DBBagItem.item (row : DBBagItem) : UInt32 × UInt32 × UInt32 :=
  (row.itemID, row.entityID, row.num)

/-- The row of an item that moved to a cell of another role. -/
def DBBagItem.moveTo (roleID : UInt32) (cell : UInt16) (row : DBBagItem) : DBBagItem :=
  { row with roleID := roleID, cellIndex := cell }

namespace MainSvc

@[simp] theorem selectBag_mem {svc : MainSvc} {roleID : UInt32} {row : DBBagItem} :
    row ∈ svc.selectBag roleID ↔ row ∈ svc.bag ∧ row.roleID = roleID := by
  simp [selectBag]

/-- The insert loop appends the moved rows. -/
theorem getAllToBag_bag (svc : MainSvc) (roleID : UInt32) (cells : List UInt16)
    (items : List DBBagItem) :
    (svc.getAllToBag roleID cells items).bag =
      svc.bag ++ List.zipWith (DBBagItem.moveTo roleID) cells items := by
  induction cells generalizing svc items with
  | nil => simp [getAllToBag]
  | cons cell cells ih =>
      cases items with
      | nil => simp [getAllToBag]
      | cons item items =>
          rw [getAllToBag, ih]
          simp [getToBag, DBBagItem.moveTo]

/-- The listed rows are chosen from the rows of the role. -/
theorem filter_listed (svc : MainSvc) (roleID : UInt32) (cell : List UInt16) :
    svc.bag.filter (Listed roleID cell) =
      (svc.selectBag roleID).filter fun row => row.cellIndex ∈ cell := by
  rw [selectBag, List.filter_filter]
  apply List.filter_congr
  intro row _
  rw [Bool.eq_iff_iff, Bool.and_eq_true, decide_eq_true_iff, decide_eq_true_iff, decide_eq_true_iff]
  exact And.comm

section Listed

variable {svc : MainSvc} {roleID : UInt32} (formed : svc.BagWellFormed roleID) {cell : List UInt16}
  (stored : ∀ index ∈ cell, index ∈ (svc.selectBag roleID).map DBBagItem.cellIndex)
  (distinct : cell.Nodup)
include formed stored distinct

/-- Distinct occupied cells list one row each. -/
theorem listed_cells :
    ((svc.bag.filter (Listed roleID cell)).map DBBagItem.cellIndex).Perm cell := by
  rw [filter_listed]
  apply (List.perm_ext_iff_of_nodup
    (formed.distinct.sublist (List.filter_sublist.map DBBagItem.cellIndex)) distinct).mpr
  intro index
  constructor
  · intro member
    obtain ⟨row, kept, rfl⟩ := List.mem_map.mp member
    exact of_decide_eq_true (List.mem_filter.mp kept).2
  · intro member
    obtain ⟨row, kept, rfl⟩ := List.mem_map.mp (stored index member)
    exact List.mem_map.mpr ⟨row, List.mem_filter.mpr ⟨kept, decide_eq_true member⟩, rfl⟩

theorem listed_length : (svc.bag.filter (Listed roleID cell)).length = cell.length := by
  rw [← (listed_cells formed stored distinct).length_eq, List.length_map]

/-- The length of the list fits its sixteen-bit local. -/
theorem cell_length_lt : cell.length < 2 ^ 16 := by
  have rows : (svc.bag.filter (Listed roleID cell)).length ≤ (svc.selectBag roleID).length := by
    rw [filter_listed]
    exact List.length_filter_le _ _
  rw [listed_length formed stored distinct] at rows
  exact lt_of_le_of_lt rows formed.length_lt

theorem size_toNat : (UInt16.ofNat cell.length).toNat = cell.length :=
  UInt16.toNat_ofNat_of_lt' (cell_length_lt formed stored distinct)

/-- Every listed row leaves the table, but the caller receives only the first of them. -/
theorem deletefromBag_eq :
    (if UInt16.ofNat cell.length ≠ 0 then svc.deletefromBag roleID cell [] else (1, svc, [])) =
      (1, { svc with bag := svc.bag.filter fun row => ¬ Listed roleID cell row },
        (svc.bag.filter (Listed roleID cell)).take 1) := by
  have length := listed_length formed stored distinct
  by_cases empty : cell = []
  · obtain rfl := empty
    simp [Listed]
  · have positive := List.length_pos_iff.mpr empty
    have size : UInt16.ofNat cell.length ≠ 0 := by
      intro zero
      have same := congrArg UInt16.toNat zero
      rw [size_toNat formed stored distinct] at same
      exact absurd same (Nat.ne_of_gt positive)
    rw [if_pos size]
    unfold deletefromBag
    cases rows : svc.bag.filter (Listed roleID cell) with
    | nil =>
        rw [rows] at length
        exact absurd length (Nat.ne_of_lt positive)
    | cons first rest => simp

end Listed

/-- A moved row keeps its item and lies in a free cell of the new owner. -/
structure Moves (svc : MainSvc) (toRoleID : UInt32) (row moved : DBBagItem) : Prop where
  owner : moved.roleID = toRoleID
  item : moved.item = row.item
  free : moved.cellIndex ∉ (svc.selectBag toRoleID).map DBBagItem.cellIndex
  inside : 1 ≤ moved.cellIndex.toNat ∧
    moved.cellIndex.toNat ≤ (svc.getRoleCellNum toRoleID).toNat

/-- The rows that neither role offers. -/
def keptRows (svc : MainSvc) (roleID : UInt32) (cell : List UInt16) (toRoleID : UInt32)
    (cell1 : List UInt16) : List DBBagItem :=
  (svc.bag.filter fun row => ¬ Listed roleID cell row).filter
    fun row => ¬ Listed toRoleID cell1 row

/-- Each role receives the listed items of the other, and no other row changes. -/
structure Exchanged (svc after : MainSvc) (roleID : UInt32) (cell : List UInt16)
    (toRoleID : UInt32) (cell1 : List UInt16) (given received : List DBBagItem) : Prop where
  givenMoves : List.Forall₂ (svc.Moves toRoleID) (svc.bag.filter (Listed roleID cell)) given
  receivedMoves : List.Forall₂ (svc.Moves roleID) (svc.bag.filter (Listed toRoleID cell1)) received
  distinct : (given.map DBBagItem.cellIndex).Nodup ∧ (received.map DBBagItem.cellIndex).Nodup
  rows : after.bag.Perm (svc.keptRows roleID cell toRoleID cell1 ++ (given ++ received))

/-- The items over the two bags. -/
def items (rows : List DBBagItem) (roleID toRoleID : UInt32) : List (UInt32 × UInt32 × UInt32) :=
  (rows.filter fun row => row.roleID = roleID ∨ row.roleID = toRoleID).map DBBagItem.item

/-- The exchange is complete or changes nothing, and it keeps every item. -/
def AllOrNothing (svc : MainSvc) (roleID : UInt32) (cell : List UInt16) (toRoleID : UInt32)
    (cell1 : List UInt16) : Prop :=
  let (result, after) := svc.tradeItem roleID cell toRoleID cell1
  (result = 1 ∧ (∃ given received,
      svc.Exchanged after roleID cell toRoleID cell1 given received) ∨
    (result = 0 ∨ result = -1) ∧ after.bag.Perm svc.bag) ∧
  (items after.bag roleID toRoleID).Perm (items svc.bag roleID toRoleID)

/-- Two roles offer distinct occupied cells of well-formed bags. -/
structure Offers (svc : MainSvc) (roleID : UInt32) (cell : List UInt16) (toRoleID : UInt32)
    (cell1 : List UInt16) : Prop where
  different : roleID ≠ toRoleID
  formed : svc.BagWellFormed roleID
  stored : ∀ index ∈ cell, index ∈ (svc.selectBag roleID).map DBBagItem.cellIndex
  distinct : cell.Nodup
  formed1 : svc.BagWellFormed toRoleID
  stored1 : ∀ index ∈ cell1, index ∈ (svc.selectBag toRoleID).map DBBagItem.cellIndex
  distinct1 : cell1.Nodup

/-- Each bag has room for the items of the other role. -/
def BothHaveRoom (svc : MainSvc) (roleID : UInt32) (cell : List UInt16) (toRoleID : UInt32)
    (cell1 : List UInt16) : Prop :=
  svc.HasRoom roleID cell1.length ∧ svc.HasRoom toRoleID cell.length

section Items

theorem items_append (first second : List DBBagItem) (roleID toRoleID : UInt32) :
    items (first ++ second) roleID toRoleID =
      items first roleID toRoleID ++ items second roleID toRoleID := by
  simp [items]

theorem items_perm {first second : List DBBagItem} (same : first.Perm second)
    (roleID toRoleID : UInt32) :
    (items first roleID toRoleID).Perm (items second roleID toRoleID) :=
  (same.filter _).map _

theorem items_owned {rows : List DBBagItem} {roleID toRoleID : UInt32}
    (owned : ∀ row ∈ rows, row.roleID = roleID ∨ row.roleID = toRoleID) :
    items rows roleID toRoleID = rows.map DBBagItem.item := by
  rw [items, List.filter_eq_self.mpr fun row member => decide_eq_true (owned row member)]

/-- The rows outside and inside an offer make up the table. -/
theorem filter_split (rows : List DBBagItem) (roleID : UInt32) (cell : List UInt16) :
    rows.Perm ((rows.filter fun row => ¬ Listed roleID cell row) ++
      rows.filter (Listed roleID cell)) := by
  have split := List.filter_append_perm (fun row => decide (Listed roleID cell row)) rows
  simp only [← decide_not] at split
  exact split.symm.trans List.perm_append_comm

/-- The rows of one offer stay when the other offer leaves. -/
theorem filter_other {svc : MainSvc} {roleID toRoleID : UInt32} (different : roleID ≠ toRoleID)
    (cell cell1 : List UInt16) :
    (svc.bag.filter fun row => ¬ Listed roleID cell row).filter (Listed toRoleID cell1) =
      svc.bag.filter (Listed toRoleID cell1) := by
  rw [List.filter_filter]
  apply List.filter_congr
  intro row _
  rw [Bool.eq_iff_iff, Bool.and_eq_true, decide_eq_true_iff, decide_eq_true_iff]
  exact and_iff_left_of_imp fun listed other => different (other.1.symm.trans listed.1)

/-- The rows of the two offers and the kept rows make up the table. -/
theorem bag_split {svc : MainSvc} {roleID toRoleID : UInt32} (different : roleID ≠ toRoleID)
    (cell cell1 : List UInt16) :
    svc.bag.Perm (svc.keptRows roleID cell toRoleID cell1 ++
      (svc.bag.filter (Listed roleID cell) ++ svc.bag.filter (Listed toRoleID cell1))) := by
  have first := filter_split svc.bag roleID cell
  have second := filter_split (svc.bag.filter fun row => ¬ Listed roleID cell row) toRoleID cell1
  rw [filter_other different] at second
  refine first.trans ((second.append_right _).trans ?_)
  rw [List.append_assoc]
  exact List.perm_append_comm.append_left _

variable {svc : MainSvc} {toRoleID : UInt32}

/-- Moved rows hold the items of their originals. -/
theorem moves_items {rows moved : List DBBagItem}
    (moves : List.Forall₂ (svc.Moves toRoleID) rows moved) :
    moved.map DBBagItem.item = rows.map DBBagItem.item ∧
      ∀ row ∈ moved, row.roleID = toRoleID := by
  induction moves with
  | nil => simp
  | cons move _ ih =>
      constructor
      · rw [List.map_cons, List.map_cons, move.item, ih.1]
      · simpa [move.owner] using ih.2

/-- An exchange keeps every item. -/
theorem Exchanged.items_perm {after : MainSvc} {roleID : UInt32} {cell cell1 : List UInt16}
    {given received : List DBBagItem} (different : roleID ≠ toRoleID)
    (exchanged : svc.Exchanged after roleID cell toRoleID cell1 given received) :
    (items after.bag roleID toRoleID).Perm (items svc.bag roleID toRoleID) := by
  obtain ⟨givenItems, givenOwner⟩ := moves_items exchanged.givenMoves
  obtain ⟨receivedItems, receivedOwner⟩ := moves_items exchanged.receivedMoves
  have listed (owner : UInt32) (cells : List UInt16) :
      ∀ row ∈ svc.bag.filter (Listed owner cells), row.roleID = owner :=
    fun row member => (of_decide_eq_true (List.mem_filter.mp member).2).1
  refine (MainSvc.items_perm exchanged.rows _ _).trans ?_
  refine .trans ?_ (MainSvc.items_perm (bag_split different cell cell1) _ _).symm
  rw [items_append, items_append, items_append, items_append,
    items_owned fun row member => .inr (givenOwner row member),
    items_owned fun row member => .inl (receivedOwner row member), givenItems, receivedItems,
    items_owned fun row member => .inl (listed _ _ row member),
    items_owned fun row member => .inr (listed _ _ row member)]

theorem allOrNothing_of_exchanged {after : MainSvc} {roleID : UInt32} {cell cell1 : List UInt16}
    {given received : List DBBagItem} (different : roleID ≠ toRoleID)
    (result : svc.tradeItem roleID cell toRoleID cell1 = (1, after))
    (exchanged : svc.Exchanged after roleID cell toRoleID cell1 given received) :
    svc.AllOrNothing roleID cell toRoleID cell1 := by
  rw [AllOrNothing, result]
  exact ⟨.inl ⟨rfl, given, received, exchanged⟩, exchanged.items_perm different⟩

end Items

/-- The rows of another role stay when an offer leaves. -/
theorem selectBag_deleted (svc : MainSvc) {roleID toRoleID : UInt32} (different : roleID ≠ toRoleID)
    (cell : List UInt16) :
    selectBag { svc with bag := svc.bag.filter fun row => ¬ Listed roleID cell row } toRoleID =
      svc.selectBag toRoleID := by
  rw [selectBag, selectBag, List.filter_filter]
  apply List.filter_congr
  intro row _
  rw [Bool.eq_iff_iff, Bool.and_eq_true, decide_eq_true_iff, decide_eq_true_iff]
  exact and_iff_left_of_imp fun owned listed => different (listed.1.symm.trans owned)

/-- Only one row per role reaches the size check. -/
theorem size_take {svc : MainSvc} {owner : UInt32} {cells : List UInt16}
    (formed : svc.BagWellFormed owner)
    (stored : ∀ index ∈ cells, index ∈ (svc.selectBag owner).map DBBagItem.cellIndex)
    (distinct : cells.Nodup) :
    UInt16.ofNat cells.length ≠
        UInt16.ofNat ((svc.bag.filter (Listed owner cells)).take 1).length ↔
      1 < cells.length := by
  have length := listed_length formed stored distinct
  have size := size_toNat formed stored distinct
  have seen : (UInt16.ofNat ((svc.bag.filter (Listed owner cells)).take 1).length).toNat =
      min 1 cells.length := by
    rw [List.length_take, length]
    exact UInt16.toNat_ofNat_of_lt' (lt_of_le_of_lt (min_le_left _ _) (by decide))
  rw [Ne, ← UInt16.toNat_inj, size, seen]
  omega

theorem mem_keptRows {svc : MainSvc} {roleID toRoleID : UInt32} {cell cell1 : List UInt16}
    {row : DBBagItem} : row ∈ svc.keptRows roleID cell toRoleID cell1 ↔
      row ∈ svc.bag ∧ ¬ Listed roleID cell row ∧ ¬ Listed toRoleID cell1 row := by
  simp only [keptRows, List.mem_filter, decide_eq_true_eq, and_assoc]

section Exchange

variable {svc : MainSvc} {roleID toRoleID : UInt32} {cell cell1 : List UInt16}
  (offers : svc.Offers roleID cell toRoleID cell1)
include offers

theorem tradeItem_of_full (full : ¬ svc.BothHaveRoom roleID cell toRoleID cell1) :
    svc.tradeItem roleID cell toRoleID cell1 = (0, svc) := by
  have refused : (svc.ifhassomany roleID (UInt16.ofNat cell1.length)).1 = 0 ∨
      (svc.ifhassomany toRoleID (UInt16.ofNat cell.length)).1 = 0 := by
    rw [ifhassomany_eq_zero offers.formed, ifhassomany_eq_zero offers.formed1,
      size_toNat offers.formed offers.stored offers.distinct,
      size_toNat offers.formed1 offers.stored1 offers.distinct1]
    exact not_and_or.mp full
  simp only [tradeItem, if_pos refused]

/-- The second delete finds the rows of its role unchanged. -/
theorem Offers.deletefromBag_second :
    (if UInt16.ofNat cell1.length ≠ 0 then
      deletefromBag { svc with bag := svc.bag.filter fun row => ¬ Listed roleID cell row }
        toRoleID cell1 []
      else (1, { svc with bag := svc.bag.filter fun row => ¬ Listed roleID cell row }, [])) =
      (1, { svc with bag := svc.keptRows roleID cell toRoleID cell1 },
        (svc.bag.filter (Listed toRoleID cell1)).take 1) := by
  have rows := selectBag_deleted svc offers.different cell
  have formed : BagWellFormed
      { svc with bag := svc.bag.filter fun row => ¬ Listed roleID cell row } toRoleID :=
    ⟨by rw [rows]; exact offers.formed1.distinct, by rw [rows]; exact offers.formed1.within⟩
  have deleted := deletefromBag_eq formed (by rw [rows]; exact offers.stored1) offers.distinct1
  rw [deleted, filter_other offers.different]
  rfl

theorem tradeItem_of_room (room : svc.BothHaveRoom roleID cell toRoleID cell1) :
    svc.tradeItem roleID cell toRoleID cell1 =
      let deleted := { svc with bag := svc.keptRows roleID cell toRoleID cell1 }
      if 1 < cell.length ∨ 1 < cell1.length then (-1, deleted)
      else (1, (deleted.getAllToBag toRoleID
        (svc.ifhassomany toRoleID (UInt16.ofNat cell.length)).2
          ((svc.bag.filter (Listed roleID cell)).take 1)).getAllToBag roleID
        (svc.ifhassomany roleID (UInt16.ofNat cell1.length)).2
          ((svc.bag.filter (Listed toRoleID cell1)).take 1)) := by
  have granted : ¬ ((svc.ifhassomany roleID (UInt16.ofNat cell1.length)).1 = 0 ∨
      (svc.ifhassomany toRoleID (UInt16.ofNat cell.length)).1 = 0) := by
    rw [ifhassomany_eq_zero offers.formed, ifhassomany_eq_zero offers.formed1,
      size_toNat offers.formed offers.stored offers.distinct,
      size_toNat offers.formed1 offers.stored1 offers.distinct1, ← not_and_or, not_not]
    exact room
  simp only [tradeItem, if_neg granted,
    deletefromBag_eq offers.formed offers.stored offers.distinct, offers.deletefromBag_second,
    size_take offers.formed offers.stored offers.distinct,
    size_take offers.formed1 offers.stored1 offers.distinct1,
    if_neg (by decide : ¬ (1 : UInt16) = 0)]

/-- With two items from one role, rows are deleted and the call fails. -/
theorem not_allOrNothing_of_many (room : svc.BothHaveRoom roleID cell toRoleID cell1)
    (many : 1 < cell.length ∨ 1 < cell1.length) :
    ¬ svc.AllOrNothing roleID cell toRoleID cell1 := by
  rw [AllOrNothing, tradeItem_of_room offers room, if_pos many]
  rintro ⟨⟨success, -⟩ | ⟨-, same⟩, -⟩
  · exact absurd success (by decide)
  · -- a listed row is in the table before but not after the call
    have stays {row : DBBagItem} (stored : row ∈ svc.bag) :=
      mem_keptRows.mp (same.mem_iff.mpr stored)
    rcases many with many | many
    · obtain ⟨index, member⟩ := List.exists_mem_of_length_pos (Nat.zero_lt_of_lt many)
      obtain ⟨row, stored, rfl⟩ := List.mem_map.mp (offers.stored index member)
      obtain ⟨stored, owned⟩ := selectBag_mem.mp stored
      exact (stays stored).2.1 ⟨owned, member⟩
    · obtain ⟨index, member⟩ := List.exists_mem_of_length_pos (Nat.zero_lt_of_lt many)
      obtain ⟨row, stored, rfl⟩ := List.mem_map.mp (offers.stored1 index member)
      obtain ⟨stored, owned⟩ := selectBag_mem.mp stored
      exact (stays stored).2.2 ⟨owned, member⟩

end Exchange

/-- At most one item moves into the bag, and the cell counter reaches it. -/
def FitsOne (svc : MainSvc) (roleID : UInt32) (cell : List UInt16) : Prop :=
  cell.length ≤ 1 ∧ cell.length + (svc.selectBag roleID).length < 2 ^ 16

/-- Free cells of the new owner make up moved rows. -/
theorem moves_of_free {svc : MainSvc} {toRoleID : UInt32} {cells : List UInt16}
    {rows : List DBBagItem} (same : cells.length = rows.length)
    (free : ∀ index ∈ cells, index ∉ (svc.selectBag toRoleID).map DBBagItem.cellIndex ∧
      1 ≤ index.toNat ∧ index.toNat ≤ (svc.getRoleCellNum toRoleID).toNat) :
    List.Forall₂ (svc.Moves toRoleID) rows (List.zipWith (DBBagItem.moveTo toRoleID) cells rows) ∧
      (List.zipWith (DBBagItem.moveTo toRoleID) cells rows).map DBBagItem.cellIndex = cells := by
  induction cells generalizing rows with
  | nil =>
      obtain rfl := List.length_eq_zero_iff.mp same.symm
      exact ⟨.nil, rfl⟩
  | cons index cells ih =>
      cases rows with
      | nil => cases same
      | cons row rows =>
          obtain ⟨first, rest⟩ := List.forall_mem_cons.mp free
          obtain ⟨moves, cellIndexes⟩ := ih (Nat.succ.inj same) rest
          exact ⟨.cons ⟨rfl, rfl, first.1, first.2⟩ moves, congrArg (index :: ·) cellIndexes⟩

/-- A bag whose rows use every cell number receives nothing. -/
theorem not_moves_of_full {svc : MainSvc} {toRoleID : UInt32} (formed : svc.BagWellFormed toRoleID)
    {rows moved : List DBBagItem} (full : 2 ^ 16 ≤ rows.length + (svc.selectBag toRoleID).length)
    (few : rows.length ≤ 1) : ¬ List.Forall₂ (svc.Moves toRoleID) rows moved := by
  intro moves
  have bound := formed.length_lt
  have filled := length_upTo formed.occupied_nodup formed.occupied_numbered
  rw [occupied_length] at filled
  cases moves with
  | nil => exact absurd full (not_le.mpr (by simpa using bound))
  | @cons _ new rest _ move _ =>
      rw [List.length_cons] at full few
      have numbered : new.cellIndex.toNat ∈ upTo (svc.occupied toRoleID) (2 ^ 16 - 1) := by
        refine mem_upTo.mpr ⟨⟨move.inside.1, Nat.le_sub_one_of_lt new.cellIndex.toNat_lt⟩, ?_⟩
        intro taken
        obtain ⟨row, stored, same⟩ := List.mem_map.mp taken
        exact move.free (List.mem_map.mpr ⟨row, stored, UInt16.toNat_inj.mp same⟩)
      have present := List.length_pos_of_mem numbered
      omega

/-- The single row of an offer moves into the free cell that was found. -/
theorem moves_found {svc : MainSvc} {roleID toRoleID : UInt32} {cell : List UInt16}
    (formed : svc.BagWellFormed roleID)
    (stored : ∀ index ∈ cell, index ∈ (svc.selectBag roleID).map DBBagItem.cellIndex)
    (distinct : cell.Nodup) (formedTo : svc.BagWellFormed toRoleID)
    (room : svc.HasRoom toRoleID cell.length) (one : svc.FitsOne toRoleID cell) :
    let rows := svc.bag.filter (Listed roleID cell)
    let moved := List.zipWith (DBBagItem.moveTo toRoleID)
      (svc.ifhassomany toRoleID (UInt16.ofNat cell.length)).2 rows
    rows.take 1 = rows ∧ List.Forall₂ (svc.Moves toRoleID) rows moved ∧
      (moved.map DBBagItem.cellIndex).Nodup := by
  intro rows moved
  have length : rows.length = cell.length := listed_length formed stored distinct
  have size := size_toNat formed stored distinct
  have room : svc.HasRoom toRoleID (UInt16.ofNat cell.length).toNat := by
    rw [size]
    exact room
  have small : (UInt16.ofNat cell.length).toNat + (svc.selectBag toRoleID).length < 2 ^ 16 := by
    rw [size]
    exact one.2
  obtain ⟨nodup, free⟩ := ifhassomany_free formedTo room small
  have found := (ifhassomany_of_room formedTo room).2.1
  obtain ⟨moves, cells⟩ := moves_of_free (found.trans (size.trans length.symm)) free
  refine ⟨List.take_of_length_le (by rw [length]; exact one.1), moves, ?_⟩
  rw [cells]
  exact nodup

section Main

variable {svc : MainSvc} {roleID toRoleID : UInt32} {cell cell1 : List UInt16}
  (offers : svc.Offers roleID cell toRoleID cell1)
include offers

/-- One item a side moves into the free cells that were found. -/
theorem allOrNothing_of_one (room : svc.BothHaveRoom roleID cell toRoleID cell1)
    (one : svc.FitsOne toRoleID cell) (one1 : svc.FitsOne roleID cell1) :
    svc.AllOrNothing roleID cell toRoleID cell1 := by
  obtain ⟨take, moves, nodup⟩ :=
    moves_found offers.formed offers.stored offers.distinct offers.formed1 room.2 one
  obtain ⟨take1, moves1, nodup1⟩ :=
    moves_found offers.formed1 offers.stored1 offers.distinct1 offers.formed room.1 one1
  have few : ¬ (1 < cell.length ∨ 1 < cell1.length) :=
    not_or.mpr ⟨not_lt.mpr one.1, not_lt.mpr one1.1⟩
  have result := tradeItem_of_room offers room
  rw [if_neg few, take, take1] at result
  refine allOrNothing_of_exchanged offers.different result ⟨moves, moves1, ⟨nodup, nodup1⟩, ?_⟩
  rw [getAllToBag_bag, getAllToBag_bag, List.append_assoc]

/-- A bag that uses every cell number cannot receive an item. -/
theorem not_allOrNothing_of_wrapped (room : svc.BothHaveRoom roleID cell toRoleID cell1)
    (few : ¬ (1 < cell.length ∨ 1 < cell1.length))
    (wrapped : 2 ^ 16 ≤ cell.length + (svc.selectBag toRoleID).length ∨
      2 ^ 16 ≤ cell1.length + (svc.selectBag roleID).length) :
    ¬ svc.AllOrNothing roleID cell toRoleID cell1 := by
  rw [AllOrNothing, tradeItem_of_room offers room, if_neg few]
  rintro ⟨⟨-, given, received, exchanged⟩ | ⟨failed, -⟩, -⟩
  · have few := not_or.mp few
    rcases wrapped with wrapped | wrapped
    · rw [← listed_length offers.formed offers.stored offers.distinct] at wrapped few
      exact not_moves_of_full offers.formed1 wrapped (not_lt.mp few.1) exchanged.givenMoves
    · rw [← listed_length offers.formed1 offers.stored1 offers.distinct1] at wrapped few
      exact not_moves_of_full offers.formed wrapped (not_lt.mp few.2) exchanged.receivedMoves
  · exact absurd failed (by decide)

/-- The exchange is all or nothing exactly when a bag has no room or at most one item moves each
way. -/
theorem tradeItem_allOrNothing_iff :
    svc.AllOrNothing roleID cell toRoleID cell1 ↔
      ¬ svc.BothHaveRoom roleID cell toRoleID cell1 ∨
        svc.FitsOne toRoleID cell ∧ svc.FitsOne roleID cell1 := by
  by_cases room : svc.BothHaveRoom roleID cell toRoleID cell1
  · rw [or_iff_right (not_not.mpr room)]
    constructor
    · intro holds
      have few : ¬ (1 < cell.length ∨ 1 < cell1.length) :=
        fun many => not_allOrNothing_of_many offers room many holds
      have fits := fun wrapped => not_allOrNothing_of_wrapped offers room few wrapped holds
      obtain ⟨few, few1⟩ := not_or.mp few
      obtain ⟨fits, fits1⟩ := not_or.mp fits
      exact ⟨⟨not_lt.mp few, not_le.mp fits⟩, not_lt.mp few1, not_le.mp fits1⟩
    · rintro ⟨one, one1⟩
      exact allOrNothing_of_one offers room one one1
  · rw [AllOrNothing, tradeItem_of_full offers room]
    exact iff_of_true ⟨.inr ⟨.inl rfl, .refl _⟩, .refl _⟩ (.inl room)

end Main

/-- Role one owns two items and role two owns none. -/
def twoItems : MainSvc where
  mapRole _ := none
  bag := [⟨1, 1, 1, 1, 2001, 0, 1⟩, ⟨1, 2, 1, 1, 2002, 0, 1⟩]
  roleMoney _ := none
  bindStatus _ := none

theorem twoItems_formed (roleID : UInt32) (role : roleID = 1 ∨ roleID = 2) :
    twoItems.BagWellFormed roleID := by
  obtain rfl | rfl := role
  · exact ⟨by decide +kernel, by decide +kernel⟩
  · exact ⟨by decide +kernel, by decide +kernel⟩

/-- One of the two items moves completely. -/
theorem tradeItem_allOrNothing_single : twoItems.AllOrNothing 1 [1] 2 [] := by
  have offers : twoItems.Offers 1 [1] 2 [] :=
    ⟨by decide, twoItems_formed 1 (.inl rfl), by simp [twoItems, selectBag], by decide,
      twoItems_formed 2 (.inr rfl), by simp, by decide⟩
  exact (tradeItem_allOrNothing_iff offers).mpr
    (.inr ⟨⟨by decide, by decide +kernel⟩, by decide, by decide +kernel⟩)

/-- Both items at once are deleted, and nothing is inserted. -/
theorem tradeItem_not_allOrNothing :
    ¬ ∀ (svc : MainSvc) (roleID : UInt32) (cell : List UInt16) (toRoleID : UInt32)
      (cell1 : List UInt16), svc.Offers roleID cell toRoleID cell1 →
        svc.AllOrNothing roleID cell toRoleID cell1 := by
  intro claim
  have offers : twoItems.Offers 1 [1, 2] 2 [] :=
    ⟨by decide, twoItems_formed 1 (.inl rfl), by simp [twoItems, selectBag], by decide,
      twoItems_formed 2 (.inr rfl), by simp, by decide⟩
  have room : twoItems.BothHaveRoom 1 [1, 2] 2 [] :=
    ⟨.inl rfl, .inr (by decide +kernel)⟩
  exact not_allOrNothing_of_many offers room (.inl (by decide)) (claim _ _ _ _ _ offers)

end MainSvc

end AppSvr.MainServer
