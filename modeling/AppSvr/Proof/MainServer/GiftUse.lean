/-
This file proves when the use of a gift delivers everything that the gift lists.
-/

import AppSvr.Proof.MainServer.UsedUnits

namespace AppSvr.MainServer.BagSvc

open WeightedPrefix

variable {Other : Type*} {svc : BagSvc Other} {tables : ItemTables}
  {roleID itemID : UInt32} {row : DBBagItem} {hit : Prop}

section Gaps

/-- Rows behind a gap do not matter. -/
theorem firstGap_append {cells : List UInt16} {countIndex countInt : UInt16}
    (found : (firstGap cells countIndex countInt).1 ≠ 0) (more : List UInt16) :
    firstGap (cells ++ more) countIndex countInt = firstGap cells countIndex countInt := by
  induction cells generalizing countIndex countInt with
  | nil => exact absurd rfl found
  | cons index cells inductive_hypothesis =>
      rw [firstGap] at found
      rw [List.cons_append, firstGap, firstGap]
      by_cases gap : countInt < index
      · rw [if_pos gap, if_pos gap]
      · rw [if_neg gap] at found
        rw [if_neg gap, if_neg gap, inductive_hypothesis found]

/-- Numbered rows have no gap. -/
theorem firstGap_range {cells : List UInt16} {countIndex : UInt16} {num : Nat}
    (numbered : cells.map UInt16.toNat = List.range' (countIndex.toNat + 1) num) :
    (firstGap cells countIndex (countIndex + 1)).1 = 0 ∧
      (firstGap cells countIndex (countIndex + 1)).2.toNat = countIndex.toNat + num := by
  induction cells generalizing countIndex num with
  | nil =>
      obtain rfl : num = 0 := by simpa using numbered
      exact ⟨rfl, rfl⟩
  | cons index cells inductive_hypothesis =>
      cases num with
      | zero => simp at numbered
      | succ num =>
          rw [List.map_cons, List.range'_succ] at numbered
          obtain ⟨first, rest⟩ := List.cons.inj numbered
          have same : countIndex + 1 = index := by
            have bound := index.toNat_lt
            apply UInt16.toNat.inj
            rw [UInt16.toNat_add, UInt16.toNat_one, Nat.mod_eq_of_lt (by omega), first]
          rw [← first] at rest
          obtain ⟨none, last⟩ := inductive_hypothesis rest
          rw [firstGap, same, if_neg (UInt16.lt_irrefl index)]
          exact ⟨none, by omega⟩

/-- The search for a free cell hits the cell at every row that is added, or at none of them. Either
it stops at a gap in front of the added rows, or it counts the rows. -/
def Steady (cell : UInt16) (hit : Prop) (cells : List UInt16) : Prop :=
  (firstGap cells 0 1).1 ≠ 0 ∧ (hit ↔ (firstGap cells 0 1).1 = cell) ∨
    ¬ hit ∧ cells.map UInt16.toNat = List.range' 1 cells.length ∧ cell.toNat ≤ cells.length

/-- The cells of the role's rows. -/
def ownCells (svc : BagSvc Other) (roleID : UInt32) : List UInt16 :=
  (svc.mainSvc.selectBag roleID).map DBBagItem.cellIndex

theorem ifhascellIndex_of_room {top : Nat}
    (size : (svc.mainSvc.getRoleCellNum roleID).toNat = top)
    (room : (svc.ownCells roleID).length < top) (small : top < 2 ^ 16) :
    svc.ifhascellIndex roleID =
      if (firstGap (svc.ownCells roleID) 0 1).2.toNat < top ∧
        (firstGap (svc.ownCells roleID) 0 1).1 = 0 then
        (firstGap (svc.ownCells roleID) 0 1).2 + 1
      else (firstGap (svc.ownCells roleID) 0 1).1 := by
  unfold ifhascellIndex
  dsimp only
  rw [size, ← ownCells.eq_1, UInt16.toNat_ofNat_of_lt' (by change _ < 2 ^ 16; omega),
    if_neg (not_le_of_gt room)]

/-- The next row is put into a free cell, and the search stays as it is. -/
theorem Steady.advance {cell : UInt16} (steady : Steady cell hit (svc.ownCells roleID))
    (room : (svc.ownCells roleID).length < (svc.mainSvc.getRoleCellNum roleID).toNat)
    (small : (svc.mainSvc.getRoleCellNum roleID).toNat < 2 ^ 16) :
    svc.ifhascellIndex roleID ≠ 0 ∧ (hit ↔ svc.ifhascellIndex roleID = cell) ∧
      Steady cell hit (svc.ownCells roleID ++ [svc.ifhascellIndex roleID]) := by
  rw [ifhascellIndex_of_room rfl room small]
  generalize svc.ownCells roleID = cells at steady room ⊢
  rcases steady with ⟨found, hits⟩ | ⟨misses, numbered, below⟩
  · rw [if_neg fun both => found both.2]
    refine ⟨found, hits, .inl ?_⟩
    rw [firstGap_append found]
    exact ⟨found, hits⟩
  · obtain ⟨none, last⟩ := @firstGap_range cells 0 cells.length numbered
    rw [UInt16.toNat_zero, Nat.zero_add] at last
    rw [show (0 : UInt16) + 1 = 1 from rfl] at none last
    rw [if_pos ⟨by omega, none⟩]
    generalize (firstGap cells 0 1).2 = countIndex at last ⊢
    have number : (countIndex + 1).toNat = cells.length + 1 := by
      rw [UInt16.toNat_add, UInt16.toNat_one, last, Nat.mod_eq_of_lt (by omega)]
    refine ⟨fun zero => ?_, iff_of_false misses fun same => ?_, .inr ⟨misses, ?_, ?_⟩⟩
    · rw [zero] at number
      exact absurd number (Nat.succ_ne_zero _).symm
    · rw [← same, number] at below
      exact absurd below (Nat.not_succ_le_self _)
    · rw [List.map_append, numbered, List.map_singleton, number, List.length_append,
        List.length_singleton, List.range'_1_concat, Nat.add_comm 1]
    · rw [List.length_append]
      exact Nat.le_add_right_of_le below

/-- A bag whose rows have distinct cells is searched steadily. -/
theorem steady_of_formed (formed : svc.mainSvc.BagWellFormed roleID)
    (small : (svc.mainSvc.getRoleCellNum roleID).toNat < 2 ^ 16)
    (room : (svc.ownCells roleID).length < (svc.mainSvc.getRoleCellNum roleID).toNat)
    {cell : UInt16} (own : cell ∈ svc.ownCells roleID) :
    Steady cell (svc.ifhascellIndex roleID = cell) (svc.ownCells roleID) := by
  have above : ∀ row ∈ svc.ownCells roleID, (0 : UInt16).toNat < row.toNat := by
    intro row member
    obtain ⟨item, stored, rfl⟩ := List.mem_map.mp member
    exact (formed.within item stored).1
  have distinct : (svc.ownCells roleID).Nodup := formed.distinct
  rw [ifhascellIndex_of_room rfl room small]
  generalize svc.ownCells roleID = cells at above distinct room own ⊢
  obtain ⟨taken, rest, split, ended⟩ := firstGap_numbered distinct above
  rw [UInt16.toNat_zero, Nat.zero_add, show (0 : UInt16) + 1 = 1 from rfl] at ended
  rw [UInt16.toNat_zero, Nat.zero_add] at split
  rcases ended with ⟨rfl, none, last⟩ | ⟨index, -, -, found⟩
  · -- The rows are numbered in order, and the cell of none of them is hit.
    rw [List.append_nil] at split
    have length : cells.length = taken := by
      rw [← List.length_map (f := UInt16.toNat), split, List.length_range']
    have below : cell.toNat < 1 + taken :=
      (List.mem_range'_1.mp (split ▸ List.mem_map_of_mem own)).2
    rw [if_pos ⟨by omega, none⟩]
    refine .inr ⟨fun same => ?_, by rw [split, length], by omega⟩
    have number : ((firstGap cells 0 1).2 + 1).toNat = taken + 1 := by
      rw [UInt16.toNat_add, UInt16.toNat_one, last, Nat.mod_eq_of_lt (by omega)]
    rw [same] at number
    omega
  · have present : (firstGap cells 0 1).1 ≠ 0 := fun zero => by
      rw [zero] at found
      exact absurd found (Nat.succ_ne_zero taken).symm
    rw [if_neg fun both => present both.2]
    exact .inl ⟨present, Iff.rfl⟩

end Gaps

section Delivery

/-- A granted item counts this much after a piece of the used row is consumed. An item that is not
described and a number of single items are not granted, and a new row in the used cell is changed
like the used row. -/
def deliveredUnits (tables : ItemTables) (used : DBBagItem) (hit : Prop) [Decidable hit]
    (itemID : UInt32) (num : UInt16) : Nat :=
  match tables.item itemID with
  | none => 0
  | some item =>
      if item.itemType ≠ 2 ∧ item.isStack = 0 ∧ num ≠ 1 then 0
      else if hit ∧ used.num = 1 then 0
      else if item.itemType = 2 then 1
      else if hit then used.num.toNat - 1
      else num.toNat

variable {used : DBBagItem}

/-- A row that is put into a cell counts like a granted item. -/
theorem unitsAfter_granted {cell cellType itemType : UInt16} {entityID : UInt32}
    {num : UInt16} [Decidable hit] {item : Item} (described : tables.item itemID = some item)
    (granted : ¬ (item.itemType ≠ 2 ∧ item.isStack = 0 ∧ num ≠ 1))
    (hits : hit ↔ cell = used.cellIndex) (entity : entityID = 0 ↔ item.itemType ≠ 2)
    (positive : 1 ≤ used.num.toNat) (counted : UInt32) :
    unitsAfter roleID counted used
        ⟨roleID, cell, cellType, itemType, itemID, entityID, num.toUInt32⟩ =
      if itemID = counted then deliveredUnits tables used hit itemID num else 0 := by
  have ordered : (1 : UInt32) ≤ used.num := UInt32.le_iff_toNat_le.mpr positive
  have less : (used.num - 1).toNat = used.num.toNat - 1 := UInt32.toNat_sub_of_le _ _ ordered
  have listed : MainSvc.Listed roleID [used.cellIndex]
      ⟨roleID, cell, cellType, itemType, itemID, entityID, num.toUInt32⟩ ↔ hit := by
    rw [hits]
    simp [MainSvc.Listed]
  unfold unitsAfter deliveredUnits unitsFor rowUnits
  rw [described]
  simp only [listed, entity, less, UInt16.toNat_toUInt32, if_neg granted, true_and]
  split_ifs <;> simp_all

/-- The item is put into the cell that is found, or it is not granted. -/
theorem getItem_units [Decidable hit] (tables : ItemTables) (itemID : UInt32)
    (lic : List ItemCell) (num : UInt16) (present : svc.ifhascellIndex roleID ≠ 0)
    (hits : hit ↔ svc.ifhascellIndex roleID = used.cellIndex) (entity : svc.nextEntityID ≠ 0)
    (positive : 1 ≤ used.num.toNat) :
    ∃ rows, (svc.getItem tables roleID itemID lic num).2.1.bag = svc.bag ++ rows ∧
      (rows = [] ∨ ∃ row, rows = [row] ∧ row.roleID = roleID ∧
        row.cellIndex = svc.ifhascellIndex roleID) ∧
      (svc.getItem tables roleID itemID lic num).2.1.mapRole = svc.mapRole ∧
      ((svc.getItem tables roleID itemID lic num).2.1.nextEntityID = svc.nextEntityID ∨
        (svc.getItem tables roleID itemID lic num).2.1.nextEntityID = svc.nextEntityID + 1) ∧
      ∀ counted, weightOf (unitsAfter roleID counted used) rows =
        if itemID = counted then deliveredUnits tables used hit itemID num else 0 := by
  unfold getItem
  dsimp only
  rw [if_neg present]
  cases described : tables.item itemID with
  | none => exact ⟨[], by simp, .inl rfl, rfl, .inl rfl, by simp [deliveredUnits, described]⟩
  | some item =>
      dsimp only
      by_cases refused : item.itemType ≠ 2 ∧ item.isStack = 0 ∧ num ≠ 1
      · rw [if_pos refused]
        refine ⟨[], by simp, .inl rfl, rfl, .inl rfl, ?_⟩
        simp only [deliveredUnits, described, if_pos refused, ite_self, weightOf_nil, implies_true]
      · rw [if_neg refused]
        have units := fun entityID kind counted =>
          @unitsAfter_granted tables roleID itemID hit used (svc.ifhascellIndex roleID)
            item.cellType item.itemType entityID num _ item described refused hits kind positive
            counted
        by_cases equipment : item.itemType = 2
        · rw [if_pos equipment]
          refine ⟨[⟨roleID, svc.ifhascellIndex roleID, item.cellType, item.itemType, itemID,
            svc.nextEntityID, num.toUInt32⟩], rfl, .inr ⟨_, rfl, rfl, rfl⟩, rfl, .inr rfl, ?_⟩
          intro counted
          rw [← units svc.nextEntityID (by simp [entity, equipment]) counted]
          rfl
        · rw [if_neg equipment]
          refine ⟨[⟨roleID, svc.ifhascellIndex roleID, item.cellType, item.itemType, itemID, 0,
            num.toUInt32⟩], rfl, .inr ⟨_, rfl, rfl, rfl⟩, rfl, .inl rfl, ?_⟩
          intro counted
          rw [← units 0 (by simp [equipment]) counted]
          rfl

/-- The bag has room and keys for the items that are left. -/
structure Receiving (svc : BagSvc Other) (roleID : UInt32) (cell : UInt16) (hit : Prop)
    (left : Nat) : Prop where
  steady : Steady cell hit (svc.ownCells roleID)
  room : (svc.ownCells roleID).length + left ≤ (svc.mainSvc.getRoleCellNum roleID).toNat
  size : (svc.mainSvc.getRoleCellNum roleID).toNat < 2 ^ 16
  keys : 0 < svc.nextEntityID.toNat ∧ svc.nextEntityID.toNat + left < 2 ^ 32

theorem Receiving.getItem [Decidable hit] {left : Nat}
    (receiving : svc.Receiving roleID used.cellIndex hit (left + 1))
    (positive : 1 ≤ used.num.toNat) (tables : ItemTables) (itemID : UInt32) (lic : List ItemCell)
    (num : UInt16) :
    (svc.getItem tables roleID itemID lic num).2.1.Receiving roleID used.cellIndex hit left ∧
      ∀ counted, weightOf (unitsAfter roleID counted used)
          (svc.getItem tables roleID itemID lic num).2.1.bag =
        weightOf (unitsAfter roleID counted used) svc.bag +
          if itemID = counted then deliveredUnits tables used hit itemID num else 0 := by
  obtain ⟨steady, room, size, keys, below⟩ := receiving
  obtain ⟨present, hits, after⟩ := steady.advance (by omega) size
  have entity : svc.nextEntityID ≠ 0 := fun zero => by
    rw [zero] at keys
    exact absurd keys (by decide)
  obtain ⟨rows, bag, added, roles, entities, units⟩ :=
    getItem_units tables itemID lic num present hits entity positive
  generalize (svc.getItem tables roleID itemID lic num).2.1 = next at bag roles entities ⊢
  have top : next.mainSvc.getRoleCellNum roleID = svc.mainSvc.getRoleCellNum roleID := by
    unfold MainSvc.getRoleCellNum MainSvc.processGetRolePtr mainSvc
    rw [roles]
  have cells : next.ownCells roleID = svc.ownCells roleID ∨
      next.ownCells roleID = svc.ownCells roleID ++ [svc.ifhascellIndex roleID] := by
    have own : next.ownCells roleID = svc.ownCells roleID ++
        (rows.filter fun row => row.roleID = roleID).map DBBagItem.cellIndex := by
      unfold ownCells MainSvc.selectBag mainSvc
      rw [bag, List.filter_append, List.map_append]
    rcases added with rfl | ⟨row, rfl, role, cell⟩
    · exact .inl (by simpa using own)
    · exact .inr (by simpa [role, cell] using own)
  refine ⟨⟨?_, ?_, by rw [top]; exact size, ?_⟩, fun counted => ?_⟩
  · rcases cells with same | more
    · rw [same]
      exact steady
    · rw [more]
      exact after
  · rw [top]
    rcases cells with same | more
    · rw [same]
      omega
    · rw [more, List.length_append, List.length_singleton]
      omega
  · rcases entities with same | more
    · rw [same]
      omega
    · rw [more, UInt32.toNat_add, UInt32.toNat_one, Nat.mod_eq_of_lt (by omega)]
      omega
  · rw [bag, weightOf_append, units]

/-- The results of the calls are ignored, and each item counts for itself. -/
theorem Receiving.getItems [Decidable hit] (positive : 1 ≤ used.num.toNat)
    (tables : ItemTables) (items : List ItemList) (lic : List ItemCell)
    (receiving : svc.Receiving roleID used.cellIndex hit items.length) (counted : UInt32) :
    weightOf (unitsAfter roleID counted used) (getItems tables roleID items svc lic).1.bag =
      weightOf (unitsAfter roleID counted used) svc.bag +
        weightOf (fun item => deliveredUnits tables used hit item.itemID item.num)
          (items.filter fun item => item.itemID = counted) := by
  induction items generalizing svc lic with
  | nil => rfl
  | cons item items inductive_hypothesis =>
      obtain ⟨after, units⟩ := receiving.getItem positive tables item.itemID lic item.num
      rw [BagSvc.getItems]
      rw [inductive_hypothesis _ after, units counted, List.filter_cons]
      by_cases same : item.itemID = counted
      · simp only [same, if_true, decide_true, weightOf_cons]
        omega
      · simp only [same, if_false, decide_false, Bool.false_eq_true]
        omega

theorem getEmtycellNum_toNat (formed : svc.mainSvc.BagWellFormed roleID) :
    (svc.getEmtycellNum roleID).toNat =
      (svc.mainSvc.getRoleCellNum roleID).toNat - (svc.ownCells roleID).length := by
  have fits := formed.length_le
  have count : (UInt16.ofNat (svc.mainSvc.selectBag roleID).length).toNat =
      (svc.mainSvc.selectBag roleID).length := UInt16.toNat_ofNat_of_lt' formed.length_lt
  rw [ownCells, List.length_map]
  unfold getEmtycellNum
  dsimp only
  rw [count]
  by_cases full : (svc.mainSvc.getRoleCellNum roleID).toNat ≤
      (svc.mainSvc.selectBag roleID).length
  · rw [if_pos full, Nat.sub_eq_zero_of_le full]
    rfl
  · have ordered : (UInt16.ofNat (svc.mainSvc.selectBag roleID).length).toUInt32 ≤
        svc.mainSvc.getRoleCellNum roleID := by
      rw [UInt32.le_iff_toNat_le, UInt16.toNat_toUInt32, count]
      exact fits
    rw [if_neg full, UInt32.toNat_sub_of_le _ _ ordered, UInt16.toNat_toUInt32, count]

end Delivery

section Gift

variable (parts : List PartRow)

/-- The pieces of an item that these parts list. -/
def listedUnits (itemID : UInt32) : Nat :=
  weightOf (fun part => part.num.toNat) (parts.filter fun part => part.partItemID = itemID)

/-- The parts of a gift. -/
def giftParts (tables : ItemTables) (itemID : UInt32) : List PartRow :=
  tables.giftItemBag.filter fun part => part.itemID = itemID

/-- The parts arrive if they fit and each item counts what is listed for it. Parts that do not fit
are lost, so they may list nothing. -/
def GiftFair (tables : ItemTables) (svc : BagSvc Other) (roleID : UInt32) (used : DBBagItem) :
    Prop :=
  let parts := giftParts tables used.itemID
  if (svc.ownCells roleID).length + parts.length ≤ (svc.mainSvc.getRoleCellNum roleID).toNat then
    ∀ itemID, weightOf (fun part => deliveredUnits tables used
        (svc.ifhascellIndex roleID = used.cellIndex) part.partItemID part.num.toUInt16)
      (parts.filter fun part => part.partItemID = itemID) = listedUnits parts itemID
  else ∀ part ∈ parts, part.num = 0

theorem listedUnits_eq_zero_iff :
    (∀ itemID, listedUnits parts itemID = 0) ↔ ∀ part ∈ parts, part.num = 0 := by
  constructor
  · intro none part member
    have zero := none part.partItemID
    rw [listedUnits, weightOf, List.sum_eq_zero_iff] at zero
    have listed : part ∈ parts.filter fun other => other.partItemID = part.partItemID :=
      List.mem_filter.mpr ⟨member, decide_eq_true rfl⟩
    exact UInt32.toNat.inj (zero _ (List.mem_map_of_mem listed))
  · intro none itemID
    rw [listedUnits, weightOf, List.sum_eq_zero_iff]
    intro num listed
    obtain ⟨part, member, rfl⟩ := List.mem_map.mp listed
    rw [none part (List.mem_of_mem_filter member)]
    rfl

/-- These parts are asked for with numbers of sixteen bits. -/
def partItems : List ItemList :=
  parts.map fun part => ⟨part.partItemID, part.num.toUInt16⟩

theorem weightOf_partItems (weight : ItemList → Nat) (parts : List PartRow) (itemID : UInt32) :
    weightOf weight ((partItems parts).filter fun item => item.itemID = itemID) =
      weightOf (fun part => weight ⟨part.partItemID, part.num.toUInt16⟩)
        (parts.filter fun part => part.partItemID = itemID) := by
  rw [partItems, List.filter_map, weightOf, weightOf, List.map_map]
  rfl

/-- What a role holds after a gift is opened and a piece of it is consumed. -/
theorem roleGetItem_held (usable : svc.UsableBag roleID) (member : row ∈ svc.bag)
    (own : row.roleID = roleID) (items : List ItemList) (nonempty : items ≠ []) :
    (((svc.roleGetItem tables roleID items).2.1.consumeUnit roleID row).held roleID itemID) +
        (if row.itemID = itemID then 1 else 0) =
      svc.held roleID itemID +
        if (svc.ownCells roleID).length + items.length ≤
            (svc.mainSvc.getRoleCellNum roleID).toNat then
          weightOf (fun item => deliveredUnits tables row
              (svc.ifhascellIndex roleID = row.cellIndex) item.itemID item.num)
            (items.filter fun item => item.itemID = itemID)
        else 0 := by
  obtain ⟨positive, -⟩ := usable.num row member own
  have consumed := @weightOf_unitsAfter roleID itemID row svc.bag (usable.only member own) positive
    (usable.single row member own)
  have some : 0 < items.length := List.length_pos_iff.mpr nonempty
  have size := usable.size
  have keys := usable.keys
  rw [held_consumeUnit _ _ _ positive, held_eq, ← consumed]
  unfold roleGetItem
  rw [getEmtycellNum_toNat usable.formed]
  by_cases room : (svc.ownCells roleID).length + items.length ≤
      (svc.mainSvc.getRoleCellNum roleID).toNat
  · have cell : row.cellIndex ∈ svc.ownCells roleID :=
      List.mem_map_of_mem (List.mem_filter.mpr ⟨member, decide_eq_true own⟩)
    have steady := steady_of_formed usable.formed size (by omega) cell
    have received := Receiving.getItems positive tables items []
      ⟨steady, room, size, keys.1, by omega⟩ itemID
    rw [if_neg (by omega), if_pos room]
    dsimp only
    rw [received]
    omega
  · rw [if_pos (by omega), if_neg room]
    rfl

/-- The use of a gift keeps the sums exactly when the gift is fair. -/
theorem giftFair_iff (usable : svc.UsableBag roleID) (member : row ∈ svc.bag)
    (own : row.roleID = roleID) (nonempty : giftParts tables row.itemID ≠ []) :
    (∀ itemID, ((svc.roleGetItem tables roleID
          (partItems (giftParts tables row.itemID))).2.1.consumeUnit roleID row).held roleID
            itemID +
        (if row.itemID = itemID then 1 else 0) =
      svc.held roleID itemID + listedUnits (giftParts tables row.itemID) itemID) ↔
      GiftFair tables svc roleID row := by
  have some : partItems (giftParts tables row.itemID) ≠ [] := by
    rw [partItems, Ne, List.map_eq_nil_iff]
    exact nonempty
  have count : (partItems (giftParts tables row.itemID)).length =
      (giftParts tables row.itemID).length := List.length_map _
  have held := fun itemID => @roleGetItem_held Other svc tables roleID itemID row usable member own
    (partItems (giftParts tables row.itemID)) some
  simp only [held, Nat.add_left_cancel_iff, count, weightOf_partItems]
  unfold GiftFair
  dsimp only
  by_cases room : (svc.ownCells roleID).length + (giftParts tables row.itemID).length ≤
      (svc.mainSvc.getRoleCellNum roleID).toNat
  · rw [if_pos room]
    simp only [if_pos room]
  · rw [if_neg room, ← listedUnits_eq_zero_iff]
    simp only [if_neg room, eq_comm]

end Gift

end AppSvr.MainServer.BagSvc
