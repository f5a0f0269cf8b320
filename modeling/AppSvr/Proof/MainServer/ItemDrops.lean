/-
This file proves when dropping items takes exactly the amounts that are asked for.
-/

import AppSvr.Construction.MainServer.ItemUse
import AppSvr.ToMathlib.KeyedRows
import AppSvr.ToMathlib.WeightedPrefix

namespace AppSvr.MainServer.BagSvc

open SqlText WeightedPrefix

variable {Other : Type*} {svc next : BagSvc Other} {roleID itemID entityID : UInt32}
  {items : List ItemList} {item : ItemList}

/-- A row with an entity is one piece, whatever its number says. -/
def rowUnits (row : DBBagItem) : Nat := if row.entityID = 0 then row.num.toNat else 1

def itemRows (svc : BagSvc Other) (roleID itemID : UInt32) : List DBBagItem :=
  svc.bag.filter fun row => row.roleID = roleID ∧ row.itemID = itemID

def held (svc : BagSvc Other) (roleID itemID : UInt32) : Nat :=
  weightOf rowUnits (svc.itemRows roleID itemID)

def requested (items : List ItemList) (itemID : UInt32) : Nat :=
  weightOf (fun item => item.num.toNat) (items.filter fun item => item.itemID = itemID)

/-- The role has one row in a cell, its rows of an item all have an entity or all have none, and
the signed column of the numbers holds no negative number. -/
structure Stocked (svc : BagSvc Other) (roleID : UInt32) : Prop where
  cells : ((svc.bag.filter fun row => row.roleID = roleID).map DBBagItem.cellIndex).Nodup
  kinds : ∀ row ∈ svc.bag, ∀ other ∈ svc.bag, row.roleID = roleID → other.roleID = roleID →
    row.itemID = other.itemID → (row.entityID = 0 ↔ other.entityID = 0)
  num : ∀ row ∈ svc.bag, row.roleID = roleID → row.num.toNat < 2 ^ 31

def Enough (svc : BagSvc Other) (roleID : UInt32) (items : List ItemList) : Prop :=
  ∀ item ∈ items, item.num.toNat ≤ svc.held roleID item.itemID

/-- The statements that list the selected cells fit into their buffers. -/
def TextsFit (svc : BagSvc Other) (roleID : UInt32) (items : List ItemList) : Prop :=
  ∀ lic, svc.selectIfhasItems roleID items 0 0 [] = some lic →
    (dropSql roleID lic).length < 1024 ∧ (dropCat lic).length < 256

/-- The role has lost the wanted pieces of each item and nothing else, and the entities of the rows
that are gone are deleted. -/
structure Dropped (svc next : BagSvc Other) (roleID : UInt32) (items : List ItemList) : Prop where
  held : ∀ itemID, next.held roleID itemID + requested items itemID = svc.held roleID itemID
  others : (next.bag.filter fun row => row.roleID ≠ roleID) =
    svc.bag.filter fun row => row.roleID ≠ roleID
  entities : next.bindStatus = fun entityID =>
    if entityID ≠ 0 ∧ ∃ row ∈ svc.bag, row.roleID = roleID ∧ row.entityID = entityID ∧
      row ∉ next.bag then none else svc.bindStatus entityID
  rest : next = { svc with bag := next.bag, bindStatus := next.bindStatus }

/-- The wanted pieces are taken if the bag holds them all, and else nothing changes. -/
def DropsExactly (svc : BagSvc Other) (roleID : UInt32) (items : List ItemList) : Prop :=
  let (code, next) := svc.dropItems roleID items
  code = 0 ∧ svc.Enough roleID items ∧ svc.TextsFit roleID items ∧ Dropped svc next roleID items ∨
    code = -1 ∧ ¬ svc.Enough roleID items ∧ next = svc

/-- These rows are taken for a wanted item. -/
def takenRows (svc : BagSvc Other) (roleID : UInt32) (item : ItemList) : List DBBagItem :=
  reach rowUnits item.num.toNat (svc.itemRows roleID item.itemID)

/-- A cell without an entity is listed with the last entity in front of it. -/
def dropCell (entityID : UInt32) (row : DBBagItem) : UInt16 × UInt32 :=
  (row.cellIndex, if row.entityID = 0 then entityID else row.entityID)

/-- The cells of the wanted items are listed with these entities. -/
def dropCells (svc : BagSvc Other) (roleID : UInt32) :
    List ItemList → UInt32 → List (UInt16 × UInt32)
  | [], _ => []
  | item :: items, entityID =>
      let cells := (svc.takenRows roleID item).map (dropCell entityID)
      cells ++ svc.dropCells roleID items ((cells.getLast?.map Prod.snd).getD entityID)

/-- The buffers have room for the numbers of the taken rows and for a byte behind each. -/
def NumbersFit (svc : BagSvc Other) (roleID : UInt32) (items : List ItemList) : Prop :=
  let cells := svc.dropCells roleID items 0
  (decimal (printed roleID)).length +
      (cells.map fun cell => (decimal cell.1.toNat).length + 1).sum < 977 ∧
    ((cells.filter fun cell => cell.2 ≠ 0).map fun cell =>
      (decimal (printed cell.2)).length + 1).sum < 218

/-- The bag holds too little of an item, or some first rows of each item are exactly the wanted
pieces. -/
def DropFair (svc : BagSvc Other) (roleID : UInt32) (items : List ItemList) : Prop :=
  (∃ item ∈ items, svc.held roleID item.itemID < item.num.toNat) ∨
    (∀ item ∈ items, svc.itemRows roleID item.itemID ≠ [] ∧
      ∃ count, weightOf rowUnits ((svc.itemRows roleID item.itemID).take count) = item.num.toNat) ∧
    svc.NumbersFit roleID items

section Selection

/-- The cell of a list entry with the entity that is printed for it. -/
def dropEntry (cell : ItemCell) : UInt16 × UInt32 := (cell.celIndex, cell.entityID)

/-- A stackable item is counted without an overflow, and its cells keep the entity in front. -/
theorem takeStacks_spec (item : ItemList) (entityID : UInt32) {rows : List DBBagItem}
    (stackable : ∀ row ∈ rows, row.entityID = 0) (small : ∀ row ∈ rows, row.num.toNat < 2 ^ 31)
    (num : UInt32) (counted : num.toNat < 2 ^ 31 + 2 ^ 16) (lic : List ItemCell) :
    ∃ result cells, takeStacks item entityID rows num lic = (result, lic ++ cells) ∧
      cells.map dropEntry =
        (reach rowUnits (item.num.toNat - num.toNat) rows).map (dropCell entityID) ∧
      result.toNat =
        num.toNat + weightOf rowUnits (reach rowUnits (item.num.toNat - num.toNat) rows) ∧
      result.toNat < 2 ^ 31 + 2 ^ 16 := by
  induction rows generalizing num lic with
  | nil => exact ⟨num, [], by simp [takeStacks], by simp, by simp, counted⟩
  | cons row rest inductive_hypothesis =>
      have wanted : item.num.toNat < 2 ^ 16 := item.num.toNat_lt
      have stack : row.entityID = 0 := stackable row List.mem_cons_self
      have units : rowUnits row = row.num.toNat := if_pos stack
      have bound : row.num.toNat < 2 ^ 31 := small row List.mem_cons_self
      by_cases more : num < item.num.toUInt32
      · have less : num.toNat < item.num.toNat := by
          simpa [UInt32.lt_iff_toNat_lt] using more
        have added : (num + row.num).toNat = num.toNat + row.num.toNat := by
          rw [UInt32.toNat_add, Nat.mod_eq_of_lt (by omega)]
        let cell : ItemCell := ⟨row.cellIndex, item.itemID, entityID,
          (if item.num.toUInt32 < num + row.num then
            row.num - (num + row.num - item.num.toUInt32) else row.num).toUInt16⟩
        obtain ⟨result, cells, taken, entries, sum, below⟩ := inductive_hypothesis
          (fun row member => stackable row (List.mem_cons_of_mem _ member))
          (fun row member => small row (List.mem_cons_of_mem _ member)) (num + row.num)
          (by omega) (lic ++ [cell])
        have left : item.num.toNat - (num + row.num).toNat =
            item.num.toNat - num.toNat - rowUnits row := by rw [added, units]; omega
        rw [left] at entries sum
        refine ⟨result, cell :: cells, ?_, ?_, ?_, below⟩
        · rw [takeStacks, if_pos more, List.append_cons]
          exact taken
        · rw [reach_cons rowUnits (by omega), List.map_cons, List.map_cons, entries]
          simp [dropEntry, dropCell, stack, cell]
        · rw [reach_cons rowUnits (by omega), weightOf_cons, sum, added, units]
          omega
      · have enough : item.num.toNat - num.toNat = 0 := by
          simp only [UInt32.lt_iff_toNat_lt, UInt16.toNat_toUInt32] at more
          omega
        refine ⟨num, [], ?_, ?_, ?_, counted⟩
        · rw [takeStacks, if_neg more, List.append_nil]
        · simp [enough]
        · simp [enough]

theorem itemRows_kinds (stocked : svc.Stocked roleID) {first row : DBBagItem}
    (member : first ∈ svc.itemRows roleID itemID) (other : row ∈ svc.itemRows roleID itemID) :
    row.entityID = 0 ↔ first.entityID = 0 := by
  obtain ⟨inBag, key⟩ := List.mem_filter.mp member
  obtain ⟨otherInBag, otherKey⟩ := List.mem_filter.mp other
  obtain ⟨role, item⟩ := of_decide_eq_true key
  obtain ⟨otherRole, otherItem⟩ := of_decide_eq_true otherKey
  exact stocked.kinds row otherInBag first inBag otherRole role (otherItem.trans item.symm)

theorem mem_itemRows_of_mem_takenRows {row : DBBagItem} (taken : row ∈ svc.takenRows roleID item) :
    row ∈ svc.itemRows roleID item.itemID := by
  obtain ⟨count, first⟩ := reach_eq_take rowUnits item.num.toNat (svc.itemRows roleID item.itemID)
  rw [takenRows, first] at taken
  exact List.mem_of_mem_take taken

theorem lastEntity_same {cells : List (UInt16 × UInt32)}
    (same : ∀ cell ∈ cells, cell.2 = entityID) :
    (cells.getLast?.map Prod.snd).getD entityID = entityID := by
  cases last : cells.getLast? with
  | none => rfl
  | some cell => exact same cell (List.mem_of_getLast? last)

/-- The rows of an item hold enough pieces, and there is one at least. -/
def Available (svc : BagSvc Other) (roleID : UInt32) (item : ItemList) : Prop :=
  svc.itemRows roleID item.itemID ≠ [] ∧ item.num.toNat ≤ svc.held roleID item.itemID

/-- Stacks are collected until their pieces suffice. -/
theorem selectIfhasItems_stacks (stocked : svc.Stocked roleID) (item : ItemList)
    (items : List ItemList) (entityID i : UInt32) (lic : List ItemCell) {row : DBBagItem}
    {rest : List DBBagItem} (rows : svc.itemRows roleID item.itemID = row :: rest)
    (stack : row.entityID = 0) :
    let cells := (svc.takenRows roleID item).map (dropCell entityID)
    ∃ taken j, j ≠ -1 ∧ taken.map dropEntry = cells ∧
      svc.selectIfhasItems roleID (item :: items) entityID i lic =
        if item.num.toNat ≤ weightOf rowUnits (row :: rest) then
          svc.selectIfhasItems roleID items ((cells.getLast?.map Prod.snd).getD entityID) j
            (lic ++ taken)
        else none := by
  intro cells
  have member (other) (listed : other ∈ row :: rest) :
      other ∈ svc.itemRows roleID item.itemID := by
    rw [rows]
    exact listed
  have stacked : ∀ other ∈ row :: rest, other.entityID = 0 := fun other listed =>
    (itemRows_kinds stocked (member row List.mem_cons_self) (member other listed)).mpr stack
  have small : ∀ other ∈ row :: rest, other.num.toNat < 2 ^ 31 := by
    intro other listed
    obtain ⟨inBag, key⟩ := List.mem_filter.mp (member other listed)
    exact stocked.num other inBag (of_decide_eq_true key).1
  obtain ⟨result, taken, found, entries, sum, below⟩ :=
    takeStacks_spec item entityID stacked small 0 (by decide) lic
  have listed : cells = (reach rowUnits item.num.toNat (row :: rest)).map (dropCell entityID) := by
    rw [← rows]
    rfl
  have enough : result < item.num.toUInt32 ↔
      ¬ item.num.toNat ≤ weightOf rowUnits (row :: rest) := by
    rw [← le_weightOf_reach_iff, UInt32.lt_iff_toNat_lt, UInt16.toNat_toUInt32, sum]
    simp
  have last : (cells.getLast?.map Prod.snd).getD entityID = entityID := by
    refine lastEntity_same fun cell collected => ?_
    obtain ⟨other, taken, rfl⟩ := List.mem_map.mp collected
    exact if_pos (stacked other (rows ▸ mem_itemRows_of_mem_takenRows taken))
  have j : result ≠ -1 := by
    rintro rfl
    exact absurd below (by decide)
  refine ⟨taken, result, j, ?_, ?_⟩
  · rw [entries, listed]
    simp
  · rw [selectIfhasItems, ← itemRows.eq_1 svc roleID item.itemID, rows, last]
    simp only [stack, ne_eq, not_true_eq_false, if_false, found, enough, ite_not]

/-- Pieces with entities are collected one by one. -/
theorem selectIfhasItems_entities (stocked : svc.Stocked roleID) (item : ItemList)
    (items : List ItemList) (entityID i : UInt32) (counted : i ≠ -1) (lic : List ItemCell)
    {row : DBBagItem} {rest : List DBBagItem}
    (rows : svc.itemRows roleID item.itemID = row :: rest) (entity : row.entityID ≠ 0) :
    let cells := (svc.takenRows roleID item).map (dropCell entityID)
    ∃ taken j, j ≠ -1 ∧ taken.map dropEntry = cells ∧
      svc.selectIfhasItems roleID (item :: items) entityID i lic =
        if item.num.toNat ≤ weightOf rowUnits (row :: rest) then
          svc.selectIfhasItems roleID items ((cells.getLast?.map Prod.snd).getD entityID) j
            (lic ++ taken)
        else none := by
  intro cells
  have member (other) (listed : other ∈ row :: rest) :
      other ∈ svc.itemRows roleID item.itemID := by
    rw [rows]
    exact listed
  have entities : ∀ other ∈ row :: rest, other.entityID ≠ 0 := fun other listed none =>
    entity ((itemRows_kinds stocked (member row List.mem_cons_self) (member other listed)).mp none)
  have ones : ∀ other ∈ row :: rest, rowUnits other = 1 := fun other listed =>
    if_neg (entities other listed)
  have taken : svc.takenRows roleID item = (row :: rest).take item.num.toNat := by
    rw [takenRows, rows, reach_of_ones rowUnits ones]
  have listed : cells = ((row :: rest).take item.num.toNat).map fun other =>
      (other.cellIndex, other.entityID) := by
    refine (congrArg (List.map _) taken).trans (List.map_congr_left fun other taken => ?_)
    rw [dropCell, if_neg (entities other (List.mem_of_mem_take taken))]
  refine ⟨((row :: rest).take item.num.toNat).map fun other =>
    ItemCell.mk other.cellIndex item.itemID other.entityID 1, i, counted, ?_, ?_⟩
  · rw [listed, List.map_map]
    rfl
  · rw [selectIfhasItems, ← itemRows.eq_1 svc roleID item.itemID, rows,
      weightOf_of_ones rowUnits ones, listed, List.getLast?_map, Option.map_map]
    simp only [ne_eq, entity, not_false_eq_true, if_true]
    rfl

theorem selectIfhasItems_cons (stocked : svc.Stocked roleID) (item : ItemList)
    (items : List ItemList) (entityID i : UInt32) (counted : i ≠ -1) (lic : List ItemCell) :
    let cells := (svc.takenRows roleID item).map (dropCell entityID)
    (svc.Available roleID item → ∃ taken j, j ≠ -1 ∧ taken.map dropEntry = cells ∧
      svc.selectIfhasItems roleID (item :: items) entityID i lic =
        svc.selectIfhasItems roleID items ((cells.getLast?.map Prod.snd).getD entityID) j
          (lic ++ taken)) ∧
    (¬ svc.Available roleID item →
      svc.selectIfhasItems roleID (item :: items) entityID i lic = none) := by
  intro cells
  unfold Available held
  cases rows : svc.itemRows roleID item.itemID with
  | nil =>
      rw [selectIfhasItems, ← itemRows.eq_1 svc roleID item.itemID, rows]
      simp
  | cons row rest =>
      obtain ⟨taken, j, used, entries, selected⟩ : ∃ taken j, j ≠ -1 ∧
          taken.map dropEntry = cells ∧
          svc.selectIfhasItems roleID (item :: items) entityID i lic =
            if item.num.toNat ≤ weightOf rowUnits (row :: rest) then
              svc.selectIfhasItems roleID items ((cells.getLast?.map Prod.snd).getD entityID) j
                (lic ++ taken)
            else none := by
        by_cases stack : row.entityID = 0
        · exact selectIfhasItems_stacks stocked item items entityID i lic rows stack
        · exact selectIfhasItems_entities stocked item items entityID i counted lic rows stack
      rw [selected]
      refine ⟨fun available => ⟨taken, j, used, entries, if_pos available.2⟩, fun missing => ?_⟩
      exact if_neg fun enough => missing ⟨List.cons_ne_nil row rest, enough⟩

/-- The cells are collected if each item is available, and the selection fails else. -/
theorem selectIfhasItems_spec (stocked : svc.Stocked roleID) (items : List ItemList)
    (entityID i : UInt32) (counted : i ≠ -1) (lic : List ItemCell) :
    ((∀ item ∈ items, svc.Available roleID item) → ∃ taken,
      taken.map dropEntry = svc.dropCells roleID items entityID ∧
      svc.selectIfhasItems roleID items entityID i lic = some (lic ++ taken)) ∧
    ((∃ item ∈ items, ¬ svc.Available roleID item) →
      svc.selectIfhasItems roleID items entityID i lic = none) := by
  induction items generalizing entityID i lic with
  | nil => exact ⟨fun _ => ⟨[], rfl, by simp [selectIfhasItems, counted]⟩, by simp⟩
  | cons item items inductive_hypothesis =>
      obtain ⟨found, missed⟩ := selectIfhasItems_cons stocked item items entityID i counted lic
      by_cases available : svc.Available roleID item
      · obtain ⟨first, j, restCounted, entries, selected⟩ := found available
        rw [selected]
        obtain ⟨all, some⟩ := inductive_hypothesis _ j restCounted (lic ++ first)
        refine ⟨fun each => ?_, fun missing => some ?_⟩
        · obtain ⟨taken, restEntries, restSelected⟩ :=
            all fun item member => each item (List.mem_cons_of_mem _ member)
          refine ⟨first ++ taken, ?_, ?_⟩
          · rw [List.map_append, entries, restEntries, dropCells]
          · rw [restSelected, List.append_assoc]
        · obtain ⟨other, member, unavailable⟩ := missing
          rcases List.mem_cons.mp member with rfl | member
          · exact absurd available unavailable
          · exact ⟨other, member, unavailable⟩
      · refine ⟨fun each => absurd (each item List.mem_cons_self) available, fun _ => ?_⟩
        exact missed available

end Selection

section Texts

theorem printCells_length (lic : List ItemCell) : (printCells lic).length =
    ((lic.map dropEntry).map fun cell => (decimal cell.1.toNat).length + 1).sum := by
  have close : (ascii ")").length = 1 := rfl
  have comma : (ascii ",").length = 1 := rfl
  induction lic with
  | nil => rfl
  | cons cell rest inductive_hypothesis =>
      rw [printCells, List.length_append, List.length_append, inductive_hypothesis,
        apply_ite ascii, apply_ite List.length, close, comma, ite_self]
      rfl

theorem printEntities_length (lic : List ItemCell) : (printEntities lic).length =
    (((lic.map dropEntry).filter fun cell => cell.2 ≠ 0).map fun cell =>
      (decimal (printed cell.2)).length + 1).sum := by
  have close : (ascii ")").length = 1 := rfl
  have comma : (ascii ",").length = 1 := rfl
  induction lic with
  | nil => rfl
  | cons cell rest inductive_hypothesis =>
      rw [printEntities, List.length_append, inductive_hypothesis, List.map_cons]
      by_cases entity : cell.entityID = 0
      · simp [dropEntry, entity]
      · rw [if_pos entity, List.length_append, apply_ite ascii, apply_ite List.length, close, comma,
          ite_self, List.filter_cons_of_pos (by exact decide_eq_true entity)]
        rfl

/-- The texts fit if the numbers in them do. -/
theorem textsFit_iff (stocked : svc.Stocked roleID)
    (available : ∀ item ∈ items, svc.Available roleID item) :
    svc.TextsFit roleID items ↔ svc.NumbersFit roleID items := by
  obtain ⟨lic, entries, selected⟩ :=
    (selectIfhasItems_spec stocked items 0 0 (by decide) []).1 available
  have delete : (ascii "delete from Bag where RoleID=").length = 29 := rfl
  have cells : (ascii " and CellIndex in(").length = 18 := rfl
  have entities : (ascii "delete from Entity where EntityID in( ").length = 38 := rfl
  unfold TextsFit NumbersFit
  rw [selected, ← entries]
  dsimp only
  rw [← printCells_length, ← printEntities_length]
  simp only [List.nil_append, Option.some.injEq, forall_eq', dropSql, dropCat, List.length_append,
    delete, cells, entities]
  omega

end Texts

section Entities

def removedRows (svc : BagSvc Other) (roleID : UInt32) (items : List ItemList) : List DBBagItem :=
  items.flatMap (svc.takenRows roleID)

theorem dropCells_cells (items : List ItemList) (entityID : UInt32) :
    (svc.dropCells roleID items entityID).map Prod.fst =
      (svc.removedRows roleID items).map DBBagItem.cellIndex := by
  induction items generalizing entityID with
  | nil => rfl
  | cons item items inductive_hypothesis =>
      rw [dropCells, List.map_append, inductive_hypothesis, removedRows, removedRows,
        List.flatMap_cons, List.map_append, List.map_map]
      rfl

/-- Each cell behind an entity is listed with an entity. -/
theorem dropCells_ne_zero (entity : entityID ≠ 0) :
    ∀ cell ∈ svc.dropCells roleID items entityID, cell.2 ≠ 0 := by
  induction items generalizing entityID with
  | nil => simp [dropCells]
  | cons item items inductive_hypothesis =>
      have own : ∀ cell ∈ (svc.takenRows roleID item).map (dropCell entityID), cell.2 ≠ 0 := by
        intro cell member
        obtain ⟨row, _, rfl⟩ := List.mem_map.mp member
        unfold dropCell
        split_ifs with stack
        · exact entity
        · exact stack
      intro cell member
      rw [dropCells] at member
      rcases List.mem_append.mp member with member | member
      · exact own cell member
      · refine inductive_hypothesis ?_ cell member
        cases last : ((svc.takenRows roleID item).map (dropCell entityID)).getLast? with
        | none => exact entity
        | some cell => exact own cell (List.mem_of_getLast? last)

/-- The list of entities is empty, or the last cell closes it. -/
theorem dropCells_closed (stocked : svc.Stocked roleID) (items : List ItemList) :
    (∀ cell ∈ svc.dropCells roleID items 0, cell.2 = 0) ∨
      ∃ cell, (svc.dropCells roleID items 0).getLast? = some cell ∧ cell.2 ≠ 0 := by
  induction items with
  | nil => simp [dropCells]
  | cons item items inductive_hypothesis =>
      let cells := (svc.takenRows roleID item).map (dropCell 0)
      have split : svc.dropCells roleID (item :: items) 0 = cells ++
        svc.dropCells roleID items ((cells.getLast?.map Prod.snd).getD 0) := rfl
      rw [split]
      by_cases stack : ∀ cell ∈ cells, cell.2 = 0
      · rw [lastEntity_same stack, List.getLast?_append]
        rcases inductive_hypothesis with none | ⟨cell, last, entity⟩
        · exact .inl fun cell member => (List.mem_append.mp member).elim (stack cell) (none cell)
        · exact .inr ⟨cell, by rw [last]; rfl, entity⟩
      · push Not at stack
        obtain ⟨cell, member, entity⟩ := stack
        have all : ∀ cell ∈ cells, cell.2 ≠ 0 := by
          obtain ⟨first, taken, rfl⟩ := List.mem_map.mp member
          intro cell other
          obtain ⟨row, otherTaken, rfl⟩ := List.mem_map.mp other
          have kinds := itemRows_kinds stocked (mem_itemRows_of_mem_takenRows taken)
            (mem_itemRows_of_mem_takenRows otherTaken)
          unfold dropCell at entity ⊢
          by_cases none : first.entityID = 0
          · simp [none] at entity
          · have some : row.entityID ≠ 0 := fun wrong => none (kinds.mp wrong)
            simp [some]
        obtain ⟨last, found⟩ : ∃ last, cells.getLast? = some last :=
          ⟨_, List.getLast?_eq_some_getLast (List.ne_nil_of_mem member)⟩
        have lastEntity : last.2 ≠ 0 := all last (List.mem_of_getLast? found)
        rw [found]
        refine .inr ?_
        rw [List.getLast?_append]
        cases rest : (svc.dropCells roleID items (((some last).map Prod.snd).getD 0)).getLast? with
        | none => exact ⟨last, by rw [found]; rfl, lastEntity⟩
        | some cell =>
            exact ⟨cell, rfl, dropCells_ne_zero lastEntity cell (List.mem_of_getLast? rest)⟩

theorem mem_dropCell_entities (entityID : UInt32) (rows : List DBBagItem) {listed : UInt32}
    (entity : listed ≠ 0) :
    (listed ∈ (rows.map (dropCell entityID)).map Prod.snd →
      listed = entityID ∨ listed ∈ rows.map DBBagItem.entityID) ∧
    (listed ∈ rows.map DBBagItem.entityID →
      listed ∈ (rows.map (dropCell entityID)).map Prod.snd) := by
  constructor
  · intro member
    simp only [List.map_map, List.mem_map, Function.comp_apply, dropCell] at member ⊢
    obtain ⟨row, inRows, value⟩ := member
    split_ifs at value with stack
    · exact .inl value.symm
    · exact .inr ⟨row, inRows, value⟩
  · intro member
    simp only [List.map_map, List.mem_map, Function.comp_apply, dropCell] at member ⊢
    obtain ⟨row, inRows, value⟩ := member
    exact ⟨row, inRows, by rw [if_neg (by rw [value]; exact entity), value]⟩

/-- The listed entities are those of the taken rows and the one in front. -/
theorem mem_dropCells_entities (items : List ItemList) {listed : UInt32} (entity : listed ≠ 0) :
    (listed ∈ (svc.dropCells roleID items entityID).map Prod.snd →
      listed = entityID ∨ listed ∈ (svc.removedRows roleID items).map DBBagItem.entityID) ∧
    (listed ∈ (svc.removedRows roleID items).map DBBagItem.entityID →
      listed ∈ (svc.dropCells roleID items entityID).map Prod.snd) := by
  induction items generalizing entityID with
  | nil => simp [dropCells, removedRows]
  | cons item items inductive_hypothesis =>
      let cells := (svc.takenRows roleID item).map (dropCell entityID)
      have split : svc.dropCells roleID (item :: items) entityID = cells ++
        svc.dropCells roleID items ((cells.getLast?.map Prod.snd).getD entityID) := rfl
      have own := mem_dropCell_entities entityID (svc.takenRows roleID item) entity
      have front : ((cells.getLast?.map Prod.snd).getD entityID) = entityID ∨
          ((cells.getLast?.map Prod.snd).getD entityID) ∈ cells.map Prod.snd := by
        cases last : cells.getLast? with
        | none => exact .inl rfl
        | some cell => exact .inr (List.mem_map_of_mem (List.mem_of_getLast? last))
      have later := @inductive_hypothesis ((cells.getLast?.map Prod.snd).getD entityID)
      have rows : svc.removedRows roleID (item :: items) =
        svc.takenRows roleID item ++ svc.removedRows roleID items := rfl
      rw [split, rows, List.map_append, List.map_append, List.mem_append, List.mem_append]
      refine ⟨fun member => ?_, Or.imp own.2 later.2⟩
      rcases member with member | member
      · exact (own.1 member).imp_right .inl
      · rcases later.1 member with same | member
        · rcases front with stays | among
          · exact .inl (same.trans stays)
          · exact (own.1 (same ▸ among)).imp_right .inl
        · exact .inr (.inr member)

end Entities

section Removal

/-- The taken rows are gone, and so are their entities. -/
def withoutRows (svc : BagSvc Other) (roleID : UInt32) (rows : List DBBagItem) : BagSvc Other :=
  { svc with
    bag := svc.bag.filter fun row => ¬ MainSvc.Listed roleID (rows.map DBBagItem.cellIndex) row
    bindStatus := fun entityID =>
      if entityID ≠ 0 ∧ entityID ∈ rows.map DBBagItem.entityID then none
      else svc.bindStatus entityID }

/-- The open list of entities does no harm, since it has no entity. -/
theorem deleteEntities_eq (stocked : svc.Stocked roleID) {lic : List ItemCell}
    (entries : lic.map dropEntry = svc.dropCells roleID items 0) :
    (svc.deleteCells roleID (lic.map ItemCell.celIndex)).deleteEntities lic =
      svc.withoutRows roleID (svc.removedRows roleID items) := by
  have cells : lic.map ItemCell.celIndex =
      (svc.removedRows roleID items).map DBBagItem.cellIndex := by
    rw [← dropCells_cells items 0, ← entries, List.map_map]
    rfl
  have listed : lic.map ItemCell.entityID = (svc.dropCells roleID items 0).map Prod.snd := by
    rw [← entries, List.map_map]
    rfl
  have same (entityID : UInt32) (entity : entityID ≠ 0) : entityID ∈ lic.map ItemCell.entityID ↔
      entityID ∈ (svc.removedRows roleID items).map DBBagItem.entityID := by
    rw [listed]
    have both := @mem_dropCells_entities Other svc roleID 0 items entityID entity
    exact ⟨fun member => (both.1 member).resolve_left entity, both.2⟩
  have statuses : (fun entityID =>
      if entityID ≠ 0 ∧ entityID ∈ lic.map ItemCell.entityID then none
      else svc.bindStatus entityID) =
      (svc.withoutRows roleID (svc.removedRows roleID items)).bindStatus := by
    funext entityID
    exact if_congr (and_congr_right (same entityID)) rfl rfl
  unfold deleteEntities
  split_ifs with closed
  · rw [cells]
    exact congrArg (fun statuses =>
      { svc.deleteCells roleID ((svc.removedRows roleID items).map DBBagItem.cellIndex) with
        bindStatus := statuses }) statuses
  · have none : ∀ cell ∈ svc.dropCells roleID items 0, cell.2 = 0 := by
      refine (dropCells_closed stocked items).resolve_right ?_
      rintro ⟨cell, last, entity⟩
      rw [← entries, List.getLast?_map, Option.map_eq_some_iff] at last
      obtain ⟨entry, last, rfl⟩ := last
      exact closed (by rw [last]; exact decide_eq_true entity)
    have unchanged : (svc.withoutRows roleID (svc.removedRows roleID items)).bindStatus =
        svc.bindStatus := by
      rw [← statuses]
      funext entityID
      refine if_neg fun wrong => wrong.1 ?_
      rw [listed] at wrong
      obtain ⟨cell, member, value⟩ := List.mem_map.mp wrong.2
      exact value ▸ none cell member
    rw [cells]
    exact congrArg (fun statuses =>
      { svc.deleteCells roleID ((svc.removedRows roleID items).map DBBagItem.cellIndex) with
        bindStatus := statuses }) unchanged.symm

theorem dropItems_available (stocked : svc.Stocked roleID)
    (available : ∀ item ∈ items, svc.Available roleID item) :
    svc.dropItems roleID items = (0, svc.withoutRows roleID (svc.removedRows roleID items)) := by
  obtain ⟨lic, entries, selected⟩ :=
    (selectIfhasItems_spec stocked items 0 0 (by decide) []).1 available
  rw [dropItems, selected, List.nil_append, ← deleteEntities_eq stocked entries]
  cases lic with
  | nil => simp [deleteCells, deleteEntities, MainSvc.Listed]
  | cons cell lic => rfl

theorem dropItems_unavailable (stocked : svc.Stocked roleID)
    (missing : ∃ item ∈ items, ¬ svc.Available roleID item) :
    svc.dropItems roleID items = (-1, svc) := by
  rw [dropItems, (selectIfhasItems_spec stocked items 0 0 (by decide) []).2 missing]

theorem own_of_mem_removedRows {row : DBBagItem} (removed : row ∈ svc.removedRows roleID items) :
    row ∈ svc.bag ∧ row.roleID = roleID := by
  obtain ⟨item, _, taken⟩ := List.mem_flatMap.mp removed
  obtain ⟨inBag, key⟩ := List.mem_filter.mp (mem_itemRows_of_mem_takenRows taken)
  exact ⟨inBag, (of_decide_eq_true key).1⟩

/-- A row of the role is known by its cell. -/
theorem cell_removed_iff (stocked : svc.Stocked roleID) {row : DBBagItem} (inBag : row ∈ svc.bag)
    (role : row.roleID = roleID) :
    row.cellIndex ∈ (svc.removedRows roleID items).map DBBagItem.cellIndex ↔
      row ∈ svc.removedRows roleID items := by
  refine ⟨fun listed => ?_, List.mem_map_of_mem⟩
  obtain ⟨other, removed, same⟩ := List.mem_map.mp listed
  obtain ⟨otherInBag, otherRole⟩ := own_of_mem_removedRows removed
  have equal : other = row := List.inj_on_of_nodup_map stocked.cells
    (List.mem_filter.mpr ⟨otherInBag, decide_eq_true otherRole⟩)
    (List.mem_filter.mpr ⟨inBag, decide_eq_true role⟩) same
  exact equal ▸ removed

theorem takenRows_iff (distinct : (items.map ItemList.itemID).Nodup) (wanted : item ∈ items)
    {row : DBBagItem} (own : row ∈ svc.itemRows roleID item.itemID) :
    row ∈ svc.removedRows roleID items ↔ row ∈ svc.takenRows roleID item := by
  refine ⟨fun removed => ?_, fun taken => List.mem_flatMap.mpr ⟨item, wanted, taken⟩⟩
  obtain ⟨other, otherWanted, taken⟩ := List.mem_flatMap.mp removed
  have first := (of_decide_eq_true (List.mem_filter.mp own).2).2
  have second :=
    (of_decide_eq_true (List.mem_filter.mp (mem_itemRows_of_mem_takenRows taken)).2).2
  have same : other = item :=
    List.inj_on_of_nodup_map distinct otherWanted wanted (second.symm.trans first)
  exact same ▸ taken

/-- What is left and what is taken are what was there. -/
theorem held_withoutRows (svc : BagSvc Other) (roleID : UInt32) (rows : List DBBagItem)
    (itemID : UInt32) : (svc.withoutRows roleID rows).held roleID itemID +
      weightOf rowUnits ((svc.itemRows roleID itemID).filter fun row =>
        row.cellIndex ∈ rows.map DBBagItem.cellIndex) = svc.held roleID itemID := by
  have left : (svc.withoutRows roleID rows).itemRows roleID itemID =
      (svc.itemRows roleID itemID).filter fun row =>
        ¬ row.cellIndex ∈ rows.map DBBagItem.cellIndex := by
    unfold itemRows withoutRows
    rw [List.filter_filter, List.filter_filter]
    refine List.filter_congr fun row _ => ?_
    by_cases role : row.roleID = roleID
    · simp [MainSvc.Listed, role, Bool.and_comm]
    · simp [role]
  rw [held, held, left]
  exact weightOf_filter rowUnits (fun row => row.cellIndex ∈ rows.map DBBagItem.cellIndex) _

theorem filter_removed (stocked : svc.Stocked roleID)
    (distinct : (items.map ItemList.itemID).Nodup) (wanted : item ∈ items) :
    ((svc.itemRows roleID item.itemID).filter fun row =>
      row.cellIndex ∈ (svc.removedRows roleID items).map DBBagItem.cellIndex) =
      svc.takenRows roleID item := by
  obtain ⟨count, first⟩ :=
    reach_eq_take rowUnits item.num.toNat (svc.itemRows roleID item.itemID)
  have cells : ((svc.itemRows roleID item.itemID).map DBBagItem.cellIndex).Nodup := by
    refine stocked.cells.sublist (List.Sublist.map _ (List.monotone_filter_right _ ?_))
    intro row own
    exact decide_eq_true (of_decide_eq_true own).1
  refine (KeyedRows.filter_mem_take DBBagItem.cellIndex cells count fun row own => ?_).trans
    first.symm
  obtain ⟨inBag, key⟩ := List.mem_filter.mp own
  rw [cell_removed_iff stocked inBag (of_decide_eq_true key).1, takenRows_iff distinct wanted own,
    takenRows, first]

theorem filter_removed_other (stocked : svc.Stocked roleID)
    (unwanted : itemID ∉ items.map ItemList.itemID) :
    ((svc.itemRows roleID itemID).filter fun row =>
      row.cellIndex ∈ (svc.removedRows roleID items).map DBBagItem.cellIndex) = [] := by
  refine List.filter_eq_nil_iff.mpr fun row own listed => unwanted ?_
  obtain ⟨inBag, key⟩ := List.mem_filter.mp own
  obtain ⟨role, same⟩ := of_decide_eq_true key
  obtain ⟨item, wanted, taken⟩ := List.mem_flatMap.mp
    ((cell_removed_iff stocked inBag role).mp (of_decide_eq_true listed))
  have takenItem :=
    (of_decide_eq_true (List.mem_filter.mp (mem_itemRows_of_mem_takenRows taken)).2).2
  exact List.mem_map.mpr ⟨item, wanted, takenItem.symm.trans same⟩

theorem requested_eq (distinct : (items.map ItemList.itemID).Nodup) (wanted : item ∈ items) :
    requested items item.itemID = item.num.toNat := by
  unfold requested
  induction items with
  | nil => simp at wanted
  | cons other items inductive_hypothesis =>
      rw [List.map_cons, List.nodup_cons] at distinct
      rcases List.mem_cons.mp wanted with rfl | wanted
      · have none : (items.filter fun other => other.itemID = item.itemID) = [] :=
          List.filter_eq_nil_iff.mpr fun other wanted same =>
            distinct.1 (List.mem_map.mpr ⟨other, wanted, of_decide_eq_true same⟩)
        rw [List.filter_cons_of_pos (by exact decide_eq_true rfl), none]
        simp
      · have apart : ¬ other.itemID = item.itemID := fun same =>
          distinct.1 (same ▸ List.mem_map_of_mem wanted)
        rw [List.filter_cons_of_neg (by simpa using apart)]
        exact inductive_hypothesis distinct.2 wanted

theorem requested_other (unwanted : itemID ∉ items.map ItemList.itemID) :
    requested items itemID = 0 := by
  have none : (items.filter fun other => other.itemID = itemID) = [] :=
    List.filter_eq_nil_iff.mpr fun other wanted same =>
      unwanted (List.mem_map.mpr ⟨other, wanted, of_decide_eq_true same⟩)
  rw [requested, none, weightOf_nil]

/-- The wanted pieces are gone if the taken rows are exactly these pieces. -/
theorem dropped_iff (stocked : svc.Stocked roleID)
    (distinct : (items.map ItemList.itemID).Nodup) :
    Dropped svc (svc.withoutRows roleID (svc.removedRows roleID items)) roleID items ↔
      ∀ item ∈ items, weightOf rowUnits (svc.takenRows roleID item) = item.num.toNat := by
  have left := held_withoutRows svc roleID (svc.removedRows roleID items)
  constructor
  · intro dropped item wanted
    have before := left item.itemID
    have after := dropped.held item.itemID
    rw [filter_removed stocked distinct wanted] at before
    rw [requested_eq distinct wanted] at after
    omega
  · intro exactly
    refine ⟨fun itemID => ?_, ?_, ?_, rfl⟩
    · by_cases wanted : itemID ∈ items.map ItemList.itemID
      · obtain ⟨item, member, rfl⟩ := List.mem_map.mp wanted
        have before := left item.itemID
        rw [filter_removed stocked distinct member, exactly item member] at before
        rw [requested_eq distinct member, before]
      · have before := left itemID
        rw [filter_removed_other stocked wanted, weightOf_nil] at before
        rw [requested_other wanted, before]
    · exact KeyedRows.filter_delete (fun row other listed => other listed.1) svc.bag
    · funext entityID
      refine if_congr (and_congr_right fun _ => ?_) rfl rfl
      rw [List.mem_map]
      constructor
      · rintro ⟨row, removed, entity⟩
        obtain ⟨inBag, role⟩ := own_of_mem_removedRows removed
        refine ⟨row, inBag, role, entity, fun stays => ?_⟩
        exact of_decide_eq_true (List.mem_filter.mp stays).2
          ⟨role, (cell_removed_iff stocked inBag role).mpr removed⟩
      · rintro ⟨row, inBag, role, entity, gone⟩
        refine ⟨row, (cell_removed_iff stocked inBag role).mp ?_, entity⟩
        by_contra stays
        exact gone (List.mem_filter.mpr ⟨inBag, decide_eq_true fun listed => stays listed.2⟩)

end Removal

/-- Dropping takes exactly the wanted amounts when the bag holds too little of an item, or when some
first rows of each item are exactly the wanted pieces and the statements fit into their buffers. -/
theorem dropItems_exact_iff (stocked : svc.Stocked roleID)
    (distinct : (items.map ItemList.itemID).Nodup) :
    svc.DropsExactly roleID items ↔ svc.DropFair roleID items := by
  have taken_iff (item : ItemList) :
      weightOf rowUnits (svc.takenRows roleID item) = item.num.toNat ↔
      ∃ count, weightOf rowUnits ((svc.itemRows roleID item.itemID).take count) = item.num.toNat :=
    weightOf_reach_eq_iff rowUnits _ _
  unfold DropsExactly DropFair
  by_cases available : ∀ item ∈ items, svc.Available roleID item
  · have enough : svc.Enough roleID items := fun item wanted => (available item wanted).2
    have covered : ¬ ∃ item ∈ items, svc.held roleID item.itemID < item.num.toNat := by
      rintro ⟨item, wanted, less⟩
      exact absurd (enough item wanted) (not_le_of_gt less)
    rw [dropItems_available stocked available]
    simp only [enough, covered, textsFit_iff stocked available, dropped_iff stocked distinct,
      taken_iff, true_and, false_or, not_true_eq_false, and_false, false_and, or_false]
    rw [and_comm]
    refine and_congr_left fun _ => forall₂_congr fun item wanted => ?_
    exact (and_iff_right (available item wanted).1).symm
  · have missing : ∃ item ∈ items, ¬ svc.Available roleID item := by
      simpa only [not_forall, exists_prop] using available
    have short : ¬ ((∀ item ∈ items, svc.itemRows roleID item.itemID ≠ [] ∧
        ∃ count, weightOf rowUnits ((svc.itemRows roleID item.itemID).take count) =
          item.num.toNat) ∧ svc.NumbersFit roleID items) := by
      rintro ⟨each, _⟩
      refine available fun item wanted => ⟨(each item wanted).1, ?_⟩
      exact (le_weightOf_reach_iff rowUnits _ _).mp
        ((weightOf_reach_eq_iff rowUnits _ _).mpr (each item wanted).2).ge
    rw [dropItems_unavailable stocked missing]
    simp only [short, or_false, Enough, not_forall, not_le, exists_prop, and_true, true_and]
    simp

/-- This role has one stack of five arrows. -/
def quiver : BagSvc Empty where
  mapRole _ := none
  bag := [⟨7, 1, 0, 0, 40, 0, 5⟩]
  roleMoney _ := ⟨0, 0, 0⟩
  equip := []
  bindStatus _ := none
  isVip _ := none
  nextEntityID := 1
  runes := .initial fun _ _ => 0
  issued := []

theorem quiver_stocked : quiver.Stocked 7 where
  cells := by decide
  kinds := by decide
  num := by decide

theorem quiver_drops : quiver.DropsExactly 7 [⟨40, 5⟩] := by
  refine (dropItems_exact_iff quiver_stocked (by decide)).mpr (.inr ⟨?_, ?_⟩)
  · intro item wanted
    obtain rfl := List.mem_singleton.mp wanted
    exact ⟨by decide, 1, by decide⟩
  · unfold NumbersFit
    decide +kernel

/-- One arrow is wanted, and all five are gone. -/
theorem oneArrow_not_dropsExactly :
    ¬ ∀ (svc : BagSvc Empty) (roleID : UInt32) (items : List ItemList), svc.Stocked roleID →
      (items.map ItemList.itemID).Nodup → svc.DropsExactly roleID items := by
  intro claimed
  rcases claimed quiver 7 [⟨40, 1⟩] quiver_stocked (by decide) with
    ⟨_, _, _, dropped⟩ | ⟨failed, _⟩
  · exact absurd (dropped.held 40) (by decide +kernel)
  · exact absurd failed (by decide +kernel)

end AppSvr.MainServer.BagSvc
