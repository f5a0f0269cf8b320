/-
This file counts the pieces that a role holds after one piece of an item is used.
-/

import AppSvr.Construction.MainServer.BagProcess
import AppSvr.Proof.MainServer.CellSearch
import AppSvr.Proof.MainServer.ItemDrops
import AppSvr.Proof.MainServer.MoneyUpdates
import AppSvr.ToMathlib.KeyedTable

namespace AppSvr.MainServer.BagSvc

open WeightedPrefix

variable {Other : Type*} {svc next : BagSvc Other} {tables : ItemTables}
  {roleID itemID : UInt32} {row : DBBagItem} {packet : BagPacket}

/-- The cells of the role are distinct and in its bag, whose size is a number of a cell. The rows of
an item all have an entity or all have none, an entity is a single piece, and every number is
positive and was inserted as a number of sixteen bits. The keys of the entities are not used up. -/
structure UsableBag (svc : BagSvc Other) (roleID : UInt32) : Prop where
  formed : svc.mainSvc.BagWellFormed roleID
  size : (svc.mainSvc.getRoleCellNum roleID).toNat < 2 ^ 16
  kinds : ∀ row ∈ svc.bag, ∀ other ∈ svc.bag, row.roleID = roleID → other.roleID = roleID →
    row.itemID = other.itemID → (row.entityID = 0 ↔ other.entityID = 0)
  num : ∀ row ∈ svc.bag, row.roleID = roleID → 1 ≤ row.num.toNat ∧ row.num.toNat < 2 ^ 16
  single : ∀ row ∈ svc.bag, row.roleID = roleID → row.entityID ≠ 0 → row.num = 1
  keys : 0 < svc.nextEntityID.toNat ∧ svc.nextEntityID.toNat + 2 ^ 16 ≤ 2 ^ 32

theorem UsableBag.stocked (usable : svc.UsableBag roleID) : svc.Stocked roleID where
  cells := usable.formed.distinct
  kinds := usable.kinds
  num row member own := lt_trans (usable.num row member own).2 (by decide)

/-- A row is alone in its cell. -/
theorem UsableBag.only (usable : svc.UsableBag roleID) (member : row ∈ svc.bag)
    (own : row.roleID = roleID) : svc.selectCell roleID row.cellIndex = [row] := by
  have stored : row ∈ svc.mainSvc.selectBag roleID :=
    List.mem_filter.mpr ⟨member, decide_eq_true own⟩
  let cells : KeyedTable DBBagItem.cellIndex :=
    ⟨svc.mainSvc.selectBag roleID, usable.formed.distinct⟩
  have found : cells.find row.cellIndex = some row :=
    KeyedTable.find_eq_some_iff.mpr ⟨stored, rfl⟩
  rw [← KeyedTable.filter_eq_singleton found]
  change _ = (svc.bag.filter fun row => row.roleID = roleID).filter _
  rw [List.filter_filter]
  refine List.filter_congr fun other _ => ?_
  simp [MainSvc.Listed, Bool.and_comm]

/-- A request to use an item uses the first row that is selected. -/
def usedRow (svc : BagSvc Other) (roleID : UInt32) : BagRequest → Option DBBagItem
  | .useItem celIndex => (svc.selectCell roleID celIndex).head?
  | .useItemFromItemID itemId =>
      (svc.bag.filter fun row => row.roleID = roleID ∧ row.itemID = itemId).head?
  | _ => none

/-- The role has the level and the profession for the item. -/
def UseAdmitted (tables : ItemTables) (svc : BagSvc Other) (roleID : UInt32) (row : DBBagItem) :
    Prop :=
  let item := (tables.item row.itemID).getD .null
  let role := svc.processGetRolePtr roleID
  ¬ role.level < item.minLevel ∧ proAllowed item.proID role.proID

/-- One piece in the cell of the row is consumed. -/
def consumeUnit (svc : BagSvc Other) (roleID : UInt32) (row : DBBagItem) : BagSvc Other :=
  if row.num = 1 then svc.deleteCells roleID [row.cellIndex]
  else svc.updateNum roleID row.cellIndex (row.num.toNat - 1)

section Request

theorem mem_of_usedRow {request : BagRequest} (used : svc.usedRow roleID request = some row) :
    row ∈ svc.bag ∧ row.roleID = roleID := by
  cases request with
  | useItem celIndex =>
      obtain ⟨inBag, key⟩ := List.mem_filter.mp (List.mem_of_mem_head? used)
      exact ⟨inBag, (of_decide_eq_true key).1⟩
  | useItemFromItemID itemId =>
      obtain ⟨inBag, key⟩ := List.mem_filter.mp (List.mem_of_mem_head? used)
      exact ⟨inBag, (of_decide_eq_true key).1⟩
  | _ => cases used

/-- The number of a cell is read with sixteen bits, and one piece less is written back. -/
theorem consumeUnit_eq (positive : 1 ≤ row.num.toNat) (small : row.num.toNat < 2 ^ 16)
    (svc : BagSvc Other) (roleID : UInt32) :
    (if row.num.toUInt16 = 1 then (0, svc.deleteCells roleID [row.cellIndex])
      else (0, svc.updateNum roleID row.cellIndex (row.num.toUInt16 - 1).toNat)) =
      ((0 : UInt32), svc.consumeUnit roleID row) := by
  have number : row.num.toUInt16.toNat = row.num.toNat := by
    rw [UInt32.toNat_toUInt16, Nat.mod_eq_of_lt small]
  have one : row.num.toUInt16 = 1 ↔ row.num = 1 := by
    rw [← UInt16.toNat_inj, ← UInt32.toNat_inj, number]
    rfl
  have less : ((row.num.toUInt16 - 1).toNat : Int) = row.num.toNat - 1 := by
    have ordered : (1 : UInt16) ≤ row.num.toUInt16 := by
      rw [UInt16.le_iff_toNat_le, number]
      exact positive
    rw [UInt16.toNat_sub_of_le _ _ ordered, number]
    exact Int.natCast_sub positive
  rw [less, consumeUnit]
  by_cases single : row.num = 1
  · rw [if_pos (one.mpr single), if_pos single]
  · rw [if_neg (single ∘ one.mp), if_neg single]

/-- The number of a cell is read with a sign, and one piece less is written back. -/
theorem consumeUnit_signed (positive : 1 ≤ row.num.toNat) (small : row.num.toNat < 2 ^ 16)
    (svc : BagSvc Other) (roleID : UInt32) :
    (if printed row.num - 1 ≤ 0 then (0, svc.deleteCells roleID [row.cellIndex])
      else (0, svc.updateNum roleID row.cellIndex (printed row.num - 1))) =
      ((0 : UInt32), svc.consumeUnit roleID row) := by
  have one : (row.num.toNat : Int) - 1 ≤ 0 ↔ row.num = 1 := by
    rw [← UInt32.toNat_inj]
    change _ ↔ row.num.toNat = 1
    omega
  rw [printed_small (by omega), consumeUnit]
  by_cases single : row.num = 1
  · rw [if_pos (one.mpr single), if_pos single]
  · rw [if_neg (single ∘ one.mp), if_neg single]

/-- Both requests use the item and consume a piece in the same way. -/
theorem process_use_eq [DecidableEq Other] (usable : svc.UsableBag packet.roleID)
    (used : svc.usedRow packet.roleID packet.request = some row)
    (wearable : row.itemType ≠ 2) (admitted : UseAdmitted tables svc packet.roleID row) :
    svc.process tables packet =
      let (retCode, svc, _) := svc.useItemExcludeEquip tables packet.roleID row.itemType
        ((tables.item row.itemID).getD .null).cdTime row.itemID packet.now
      if retCode ≠ 0 then (retCode, svc) else (0, svc.consumeUnit packet.roleID row) := by
  obtain ⟨inBag, own⟩ := mem_of_usedRow used
  obtain ⟨positive, small⟩ := usable.num row inBag own
  obtain ⟨level, pro⟩ := admitted
  obtain ⟨roleID, now, request⟩ := packet
  cases request with
  | useItem celIndex =>
      obtain rfl : row.cellIndex = celIndex :=
        List.mem_singleton.mp (of_decide_eq_true (List.mem_filter.mp
          (List.mem_of_mem_head? used)).2).2
      change svc.processUseItem tables roleID row.cellIndex now = _
      rw [processUseItem, show (svc.selectCell roleID row.cellIndex).head? = some row from used]
      dsimp only
      rw [if_neg level, if_neg (not_not_intro pro), consumeUnit_eq positive small]
  | useItemFromItemID itemId =>
      obtain rfl : row.itemID = itemId :=
        (of_decide_eq_true (List.mem_filter.mp (List.mem_of_mem_head? used)).2).2
      change svc.processUseItemFromItemID tables roleID row.itemID now = _
      rw [processUseItemFromItemID, show (svc.bag.filter fun other =>
        other.roleID = roleID ∧ other.itemID = row.itemID).head? = some row from used]
      dsimp only
      rw [if_neg level, if_neg (not_not_intro pro), if_neg wearable,
        consumeUnit_signed positive small]
  | _ => cases used

theorem process_use_refused [DecidableEq Other]
    (used : svc.usedRow packet.roleID packet.request = some row)
    (refused : ¬ UseAdmitted tables svc packet.roleID row) :
    svc.process tables packet = (errSystemSerError, svc) := by
  obtain ⟨roleID, now, request⟩ := packet
  have closed {kept : UInt32 × BagSvc Other} :
      (if (svc.processGetRolePtr roleID).level < ((tables.item row.itemID).getD .null).minLevel then
        (errSystemSerError, svc)
      else if ¬ proAllowed ((tables.item row.itemID).getD .null).proID
          (svc.processGetRolePtr roleID).proID then (errSystemSerError, svc)
      else kept) = (errSystemSerError, svc) := by
    by_cases level : (svc.processGetRolePtr roleID).level <
        ((tables.item row.itemID).getD .null).minLevel
    · rw [if_pos level]
    · rw [if_neg level, if_pos fun pro => refused ⟨level, pro⟩]
  cases request with
  | useItem celIndex =>
      change svc.processUseItem tables roleID celIndex now = _
      rw [processUseItem, show (svc.selectCell roleID celIndex).head? = some row from used]
      exact closed
  | useItemFromItemID itemId =>
      change svc.processUseItemFromItemID tables roleID itemId now = _
      rw [processUseItemFromItemID, show (svc.bag.filter fun row =>
        row.roleID = roleID ∧ row.itemID = itemId).head? = some row from used]
      exact closed
  | _ => cases used

end Request

section Units

/-- A row counts for the role and the item that it belongs to. -/
def unitsFor (roleID itemID : UInt32) (row : DBBagItem) : Nat :=
  if row.roleID = roleID ∧ row.itemID = itemID then rowUnits row else 0

/-- What a row counts after a piece of the used row is consumed. -/
def unitsAfter (roleID itemID : UInt32) (used row : DBBagItem) : Nat :=
  if MainSvc.Listed roleID [used.cellIndex] row then
    if used.num = 1 then 0 else unitsFor roleID itemID { row with num := used.num - 1 }
  else unitsFor roleID itemID row

theorem held_eq (svc : BagSvc Other) (roleID itemID : UInt32) :
    svc.held roleID itemID = weightOf (unitsFor roleID itemID) svc.bag :=
  weightOf_of_filter rowUnits _ svc.bag

theorem held_consumeUnit (svc : BagSvc Other) (roleID itemID : UInt32) {row : DBBagItem}
    (positive : 1 ≤ row.num.toNat) : (svc.consumeUnit roleID row).held roleID itemID =
      weightOf (unitsAfter roleID itemID row) svc.bag := by
  rw [held_eq, consumeUnit]
  by_cases single : row.num = 1
  · rw [if_pos single]
    change weightOf _
      (svc.bag.filter fun other => ¬ MainSvc.Listed roleID [row.cellIndex] other) = _
    rw [weightOf_of_filter]
    refine weightOf_congr _ fun other _ => ?_
    rw [unitsAfter, if_pos single, ite_not]
  · have less : UInt32.ofInt (row.num.toNat - 1) = row.num - 1 := by
      have bound := row.num.toNat_lt
      have ordered : (1 : UInt32) ≤ row.num := UInt32.le_iff_toNat_le.mpr positive
      apply UInt32.toNat.inj
      rw [UInt32.toNat_sub_of_le _ _ ordered, UInt32.ofInt, UInt32.toNat_ofNat']
      change _ = row.num.toNat - 1
      omega
    rw [if_neg single]
    change weightOf _ (svc.bag.map fun other => if MainSvc.Listed roleID [row.cellIndex] other then
      { other with num := UInt32.ofInt (row.num.toNat - 1) } else other) = _
    rw [weightOf, weightOf, List.map_map, less]
    refine congrArg List.sum (List.map_congr_left fun other _ => ?_)
    rw [Function.comp_apply, unitsAfter, if_neg single]
    split_ifs <;> rfl

/-- Only the rows in the used cell change what they count. -/
theorem weightOf_unitsAfter_split (bag : List DBBagItem) :
    ∃ others, weightOf (unitsAfter roleID itemID row) bag = others +
      weightOf (unitsAfter roleID itemID row)
        (bag.filter (MainSvc.Listed roleID [row.cellIndex])) ∧
      weightOf (unitsFor roleID itemID) bag = others +
        weightOf (unitsFor roleID itemID)
          (bag.filter (MainSvc.Listed roleID [row.cellIndex])) := by
  refine ⟨weightOf (unitsFor roleID itemID)
    (bag.filter fun other => ¬ MainSvc.Listed roleID [row.cellIndex] other), ?_, ?_⟩
  · rw [← weightOf_filter (unitsAfter roleID itemID row)
      (MainSvc.Listed roleID [row.cellIndex]) bag]
    refine congrArg (· + _) (weightOf_congr _ fun other member => ?_)
    exact if_neg (of_decide_eq_true (List.mem_filter.mp member).2)
  · exact (weightOf_filter _ _ bag).symm

/-- The used row counts one piece less, and the other rows stay. -/
theorem weightOf_unitsAfter {bag : List DBBagItem}
    (only : bag.filter (MainSvc.Listed roleID [row.cellIndex]) = [row])
    (positive : 1 ≤ row.num.toNat) (single : row.entityID ≠ 0 → row.num = 1) :
    weightOf (unitsAfter roleID itemID row) bag + (if row.itemID = itemID then 1 else 0) =
      weightOf (unitsFor roleID itemID) bag := by
  have listed : MainSvc.Listed roleID [row.cellIndex] row := by
    have member : row ∈ bag.filter (MainSvc.Listed roleID [row.cellIndex]) := by
      rw [only]
      exact List.mem_singleton_self row
    exact of_decide_eq_true (List.mem_filter.mp member).2
  have own : unitsAfter roleID itemID row row + (if row.itemID = itemID then 1 else 0) =
      unitsFor roleID itemID row := by
    have ordered : (1 : UInt32) ≤ row.num := UInt32.le_iff_toNat_le.mpr positive
    have less : (row.num - 1).toNat = row.num.toNat - 1 := UInt32.toNat_sub_of_le _ _ ordered
    rw [unitsAfter, if_pos listed]
    by_cases same : row.itemID = itemID
    · by_cases one : row.num = 1
      · simp [unitsFor, rowUnits, listed.1, same, one]
      · have stack : row.entityID = 0 := by
          by_contra entity
          exact one (single entity)
        simp only [unitsFor, rowUnits, listed.1, same, one, stack, less, and_self, if_true,
          if_false]
        omega
    · simp [unitsFor, same]
  obtain ⟨others, after, before⟩ :=
    @weightOf_unitsAfter_split roleID itemID row bag
  rw [only] at after before
  simp only [weightOf_cons, weightOf_nil] at after before
  omega

/-- Without the used row nothing changes. -/
theorem weightOf_unitsAfter_gone {bag : List DBBagItem}
    (gone : bag.filter (MainSvc.Listed roleID [row.cellIndex]) = []) :
    weightOf (unitsAfter roleID itemID row) bag = weightOf (unitsFor roleID itemID) bag := by
  obtain ⟨others, after, before⟩ :=
    @weightOf_unitsAfter_split roleID itemID row bag
  rw [gone] at after before
  rw [after, before]
  rfl

end Units

end AppSvr.MainServer.BagSvc
