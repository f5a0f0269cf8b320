/-
This file proves when a purchase delivers what is paid and charges its exact price.
-/

import AppSvr.Proof.MainServer.CellSearch
import AppSvr.Proof.MainServer.ItemSales
import AppSvr.Proof.MainServer.Purchases

namespace AppSvr.MainServer.BagSvc

variable {Other : Type*}

/-- The number of pieces in a bought row. -/
def boughtCount (flag : UInt8) (num : UInt16) (numcell : UInt32) : UInt16 :=
  if flag = 2 then
    if numcell = 1 ∧ num % topStackNum ≠ 0 then num % topStackNum else topStackNum
  else 1

/-- These are the rows that a purchase inserts. -/
def boughtRows (roleID itemID : UInt32) (item : Item) (flag : UInt8) (num : UInt16) :
    List UInt16 → UInt32 → UInt32 → List DBBagItem
  | [], _, _ => []
  | cell :: cells, numcell, entityID =>
      ⟨roleID, cell, item.cellType, item.itemType, itemID, if flag = 0 then entityID else 0,
          (boughtCount flag num numcell).toUInt32⟩ ::
        boughtRows roleID itemID item flag num cells (numcell - 1)
          (if flag = 0 then entityID + 1 else entityID)

variable {svc : BagSvc Other} {tables : ItemTables} {roleID itemID : UInt32} {item : Item}
  {flag : UInt8} {num : UInt16}

/-- The rows are appended, the new entities get their bind status, and no balance changes. -/
theorem insertBought_eq (cells : List UInt16) (numcell : UInt32) (svc : BagSvc Other) :
    (insertBought roleID itemID item flag num cells numcell svc).bag = svc.bag ++
        boughtRows roleID itemID item flag num cells numcell svc.nextEntityID ∧
      (insertBought roleID itemID item flag num cells numcell svc).roleMoney = svc.roleMoney ∧
      ∀ entityID, (insertBought roleID itemID item flag num cells numcell svc).bindStatus entityID =
        if flag = 0 ∧ entityID ∈ (boughtRows roleID itemID item flag num cells numcell
          svc.nextEntityID).map DBBagItem.entityID then some item.bind
        else svc.bindStatus entityID := by
  induction cells generalizing numcell svc with
  | nil => exact ⟨(List.append_nil _).symm, rfl, fun entityID => by simp [insertBought, boughtRows]⟩
  | cons cell cells ih =>
      have unfolded : insertBought roleID itemID item flag num (cell :: cells) numcell svc =
          insertBought roleID itemID item flag num cells (numcell - 1)
            ((if flag = 0 then svc.insertEntity item.bind else (0, svc)).2.insertBag
              ⟨roleID, cell, item.cellType, item.itemType, itemID,
                (if flag = 0 then svc.insertEntity item.bind else (0, svc)).1,
                (boughtCount flag num numcell).toUInt32⟩) := rfl
      rw [unfolded]
      by_cases entities : flag = 0
      · simp only [if_pos entities]
        obtain ⟨bag, money, status⟩ := ih (numcell - 1)
          ((svc.insertEntity item.bind).2.insertBag ⟨roleID, cell, item.cellType, item.itemType,
            itemID, svc.nextEntityID, (boughtCount flag num numcell).toUInt32⟩)
        refine ⟨?_, money, fun entityID => (status entityID).trans ?_⟩
        · rw [boughtRows, if_pos entities, if_pos entities, List.append_cons]
          exact bag
        · rw [boughtRows, if_pos entities, if_pos entities]
          simp only [List.map_cons, List.mem_cons, entities, true_and, insertBag, insertEntity]
          by_cases this : entityID = svc.nextEntityID
          · simp [this]
          · simp [this]
      · simp only [if_neg entities]
        obtain ⟨bag, money, status⟩ := ih (numcell - 1)
          (svc.insertBag ⟨roleID, cell, item.cellType, item.itemType, itemID, 0,
            (boughtCount flag num numcell).toUInt32⟩)
        refine ⟨?_, money, fun entityID => (status entityID).trans ?_⟩
        · rw [boughtRows, if_neg entities, if_neg entities, List.append_cons]
          exact bag
        · simp [entities, insertBag]

theorem boughtRows_cells (cells : List UInt16) (numcell entityID : UInt32) :
    (boughtRows roleID itemID item flag num cells numcell entityID).map DBBagItem.cellIndex =
      cells := by
  induction cells generalizing numcell entityID with
  | nil => rfl
  | cons cell cells ih => rw [boughtRows, List.map_cons, ih]

theorem boughtRows_mem {cells : List UInt16} {numcell entityID : UInt32} {row : DBBagItem}
    (member : row ∈ boughtRows roleID itemID item flag num cells numcell entityID) :
    row.roleID = roleID ∧ row.itemID = itemID ∧ (flag ≠ 0 → row.entityID = 0) ∧
      ∃ numcell, row.num = (boughtCount flag num numcell).toUInt32 := by
  induction cells generalizing numcell entityID with
  | nil => cases member
  | cons cell cells ih =>
      rcases List.mem_cons.mp member with rfl | later
      · exact ⟨rfl, rfl, fun none => if_neg none, numcell, rfl⟩
      · exact ih later

/-- The entities are numbered one after another. -/
theorem boughtRows_entities (entities : flag = 0) {cells : List UInt16} (numcell : UInt32)
    {entityID : UInt32} (left : entityID.toNat + cells.length ≤ 2 ^ 32) :
    (boughtRows roleID itemID item flag num cells numcell entityID).map
      (fun row => row.entityID.toNat) = List.range' entityID.toNat cells.length := by
  induction cells generalizing numcell entityID with
  | nil => rfl
  | cons cell cells ih =>
      rw [List.length_cons] at left
      rw [boughtRows, List.map_cons, if_pos entities, if_pos entities, List.length_cons,
        List.range'_succ]
      congr 1
      rcases cells with - | ⟨second, rest⟩
      · rfl
      · have one : (1 : UInt32).toNat = 1 := rfl
        have next : (entityID + 1).toNat = entityID.toNat + 1 := by
          rw [List.length_cons] at left
          rw [UInt32.toNat_add, one, Nat.mod_eq_of_lt (by omega)]
        rw [ih (numcell - 1) (by rw [next]; omega), next]

/-- The sum of the pieces in some rows. -/
def piecesIn (rows : List DBBagItem) : Nat := (rows.map fun row => row.num.toNat).sum

theorem boughtRows_single (single : flag ≠ 2) (cells : List UInt16) (numcell entityID : UInt32) :
    piecesIn (boughtRows roleID itemID item flag num cells numcell entityID) = cells.length := by
  induction cells generalizing numcell entityID with
  | nil => rfl
  | cons cell cells ih =>
      have one : (boughtCount flag num numcell).toUInt32.toNat = 1 := by
        rw [boughtCount, if_neg single]
        rfl
      rw [piecesIn, boughtRows, List.map_cons, List.sum_cons, one, List.length_cons, Nat.add_comm]
      exact congrArg (· + 1) (ih _ _)

/-- Only the last stack may hold the rest. -/
theorem boughtRows_stacks (cells : List UInt16) (numcell entityID : UInt32)
    (counted : numcell.toNat = cells.length) :
    piecesIn (boughtRows roleID itemID item 2 num cells numcell entityID) =
      if cells.length = 0 then 0 else 99 * (cells.length - 1) + (lastCount num).toNat := by
  induction cells generalizing numcell entityID with
  | nil => rfl
  | cons cell cells ih =>
      rw [List.length_cons] at counted ⊢
      have narrow : (boughtCount 2 num numcell).toUInt32.toNat =
          (boughtCount 2 num numcell).toNat := UInt16.toNat_toUInt32 _
      have one : (1 : UInt32).toNat = 1 := rfl
      have present : (1 : UInt32) ≤ numcell := UInt32.le_iff_toNat_le.mpr (by omega)
      have later := ih (numcell - 1) entityID (by
        rw [UInt32.toNat_sub_of_le _ _ present, one]
        omega)
      rw [piecesIn] at later ⊢
      rw [boughtRows, List.map_cons, List.sum_cons, narrow, if_neg (Nat.succ_ne_zero _)]
      have entityless : ¬ (2 : UInt8) = 0 := by decide
      rw [if_neg entityless, later]
      by_cases last : numcell = 1
      · have count : boughtCount 2 num numcell = lastCount num := by
          simp [boughtCount, lastCount, last]
        have none : cells.length = 0 := by
          rw [last, one] at counted
          omega
        rw [count, if_pos none, none]
        omega
      · have count : boughtCount 2 num numcell = topStackNum := by
          simp [boughtCount, last]
        have limit : topStackNum.toNat = 99 := rfl
        have several : cells.length ≠ 0 := by
          intro none
          refine last (UInt32.toNat.inj ?_)
          rw [counted, none, one]
        rw [count, limit, if_neg several]
        omega

/-- The number of cells that a purchase asks for. -/
def cellsWanted (item : Item) (num : UInt16) : UInt16 :=
  if item.itemType = 2 ∨ item.isStack = 0 then num
  else if num % topStackNum ≠ 0 then num / topStackNum + 1 else num / topStackNum

/-- The kind of the rows that a purchase inserts. -/
def boughtFlag (item : Item) : UInt8 :=
  if item.itemType = 2 then 0 else if item.isStack = 0 then 1 else 2

variable (row : MoneyRow)

/-- The unsigned balance covers the price, a product of thirty-two bits. -/
def Affords (item : Item) (num : UInt16) : Prop :=
  item.costBuy * num.toUInt32 ≤
    if item.costMoneyType = 3 then UInt32.ofInt row.gold
    else UInt32.ofInt row.money + UInt32.ofInt row.bindMoney

/-- The exact price of a purchase. -/
def priceOf (item : Item) (num : UInt16) : Nat := item.costBuy.toNat * num.toNat

/-- The price or the balance that it leaves is printed exactly. -/
def ChargesExactly (item : Item) (num : UInt16) : Prop :=
  if item.costMoneyType = 3 then priceOf item num < 2 ^ 31
  else if item.costBuy * num.toUInt32 ≤ UInt32.ofInt row.bindMoney then
    -2 ^ 31 ≤ row.bindMoney - priceOf item num
  else
    -2 ^ 31 ≤ row.money + row.bindMoney - priceOf item num ∧
      row.money + row.bindMoney - priceOf item num < 2 ^ 31

/-- The balances are values of a column with thirty-two bits. -/
structure MoneyStored (row : MoneyRow) : Prop where
  money : -2 ^ 31 ≤ row.money ∧ row.money < 2 ^ 31
  bindMoney : -2 ^ 31 ≤ row.bindMoney ∧ row.bindMoney < 2 ^ 31

/-- The balance of the currency has lost the exact price. -/
def Paid (row next : MoneyRow) (item : Item) (num : UInt16) : Prop :=
  if item.costMoneyType = 3 then next = { row with gold := row.gold - priceOf item num }
  else next.gold = row.gold ∧
    next.money + next.bindMoney = row.money + row.bindMoney - priceOf item num

theorem run_dropGold (num : UInt32) : (Statements.dropGold num).run row =
      if UInt32.ofInt row.gold < num then (-1, row)
      else (1, { row with gold := row.gold - printed num }) := by
  rw [Statements.dropGold, Statements.run]
  split <;> rfl

theorem run_dropmoney (num : UInt32) : (Statements.dropmoney num).run row =
      if UInt32.ofInt row.money + UInt32.ofInt row.bindMoney < num then (-1, row)
      else (1, { row with
        money := printed (Statements.dropBalance num (UInt32.ofInt row.money)
          (UInt32.ofInt row.bindMoney)).1
        bindMoney := printed (Statements.dropBalance num (UInt32.ofInt row.money)
          (UInt32.ofInt row.bindMoney)).2 }) := by
  rw [Statements.dropmoney, Statements.run]
  split <;> rfl

/-- The reduced balances add up exactly when the balance that is left is printed exactly. -/
theorem dropBalance_exact_iff {row : MoneyRow} (stored : MoneyStored row) {price : UInt32}
    {exact : Nat} (wrapped : price.toNat = exact % 2 ^ 32) :
    printed (Statements.dropBalance price (UInt32.ofInt row.money)
          (UInt32.ofInt row.bindMoney)).1 +
        printed (Statements.dropBalance price (UInt32.ofInt row.money)
          (UInt32.ofInt row.bindMoney)).2 = row.money + row.bindMoney - exact ↔
      if price ≤ UInt32.ofInt row.bindMoney then -2 ^ 31 ≤ row.bindMoney - exact
      else -2 ^ 31 ≤ row.money + row.bindMoney - exact ∧
        row.money + row.bindMoney - exact < 2 ^ 31 := by
  obtain ⟨⟨low, high⟩, bindLow, bindHigh⟩ := stored
  have money := toNat_ofInt_emod row.money
  have bindMoney := toNat_ofInt_emod row.bindMoney
  unfold Statements.dropBalance
  by_cases bound : price ≤ UInt32.ofInt row.bindMoney
  · rw [if_pos bound, if_pos bound, printed_ofInt low high, printed_eq,
      UInt32.toNat_sub_of_le _ _ bound]
    rw [UInt32.le_iff_toNat_le] at bound
    split <;> omega
  · rw [if_neg bound, if_neg bound, printed_eq, printed_eq, UInt32.toNat_sub, UInt32.toNat_sub,
      UInt32.toNat_zero]
    rw [UInt32.le_iff_toNat_le] at bound
    split <;> split <;> omega

/-- A payment either finds too little and changes no balance, or it succeeds, and the balance
loses the exact price exactly when that is printed right. -/
theorem pay_spec (charged : Charged item) (stored : MoneyStored (svc.roleMoney roleID)) :
    (¬ Affords (svc.roleMoney roleID) item num ∧ (svc.pay roleID itemID item num).1 ≠ 1 ∧
        (svc.pay roleID itemID item num).2.roleMoney = svc.roleMoney) ∨
      Affords (svc.roleMoney roleID) item num ∧ (svc.pay roleID itemID item num).1 = 1 ∧
        ∃ row, (svc.pay roleID itemID item num).2.roleMoney =
            Function.update svc.roleMoney roleID row ∧
          (Paid (svc.roleMoney roleID) row item num ↔
            ChargesExactly (svc.roleMoney roleID) item num) := by
  have wide : num.toUInt32.toNat = num.toNat := UInt16.toNat_toUInt32 num
  by_cases gold : item.costMoneyType = 3
  · have run := run_dropGold (svc.roleMoney roleID) (item.costBuy * num.toUInt32)
    unfold pay Affords ChargesExactly Paid
    simp only [gold, if_true, run]
    by_cases short : UInt32.ofInt (svc.roleMoney roleID).gold < item.costBuy * num.toUInt32
    · simp only [if_pos short]
      refine .inl ⟨UInt32.not_le.mpr short, by decide, Function.update_eq_self _ _⟩
    · simp only [if_neg short, if_true]
      refine .inr ⟨UInt32.not_lt.mp short, trivial, _, rfl, ?_⟩
      rw [priceOf, ← printed_price_iff]
      simp
  · have money : item.costMoneyType = 1 ∨ item.costMoneyType = 2 := by
      rcases charged with one | two | three
      · exact .inl one
      · exact .inr two
      · exact absurd three gold
    have run := run_dropmoney (svc.roleMoney roleID) (item.costBuy * num.toUInt32)
    unfold pay Affords ChargesExactly Paid
    simp only [gold, money, if_true, if_false, run]
    by_cases short : UInt32.ofInt (svc.roleMoney roleID).money +
        UInt32.ofInt (svc.roleMoney roleID).bindMoney < item.costBuy * num.toUInt32
    · simp only [if_pos short]
      refine .inl ⟨UInt32.not_le.mpr short, by decide, Function.update_eq_self _ _⟩
    · simp only [if_neg short, if_true]
      refine .inr ⟨UInt32.not_lt.mp short, trivial, _, rfl, ?_⟩
      refine (and_iff_right rfl).trans (dropBalance_exact_iff stored ?_)
      rw [UInt32.toNat_mul, wide]
      rfl

theorem pay_rest (svc : BagSvc Other) (roleID itemID : UInt32) (item : Item) (num : UInt16) :
    (svc.pay roleID itemID item num).2.bindStatus = svc.bindStatus ∧
      (svc.pay roleID itemID item num).2.nextEntityID = svc.nextEntityID := by
  unfold pay
  dsimp only
  constructor <;> split_ifs <;> dsimp only <;> split_ifs <;> rfl

/-- The database numbers the next entities with unused keys. -/
structure EntitiesLeft (svc : BagSvc Other) (num : UInt16) : Prop where
  unused : ∀ entityID, svc.nextEntityID ≤ entityID → svc.bindStatus entityID = none
  left : svc.nextEntityID.toNat + num.toNat ≤ 2 ^ 32

/-- The rows lie in distinct free cells, hold so many pieces together, and have fresh entities
where the item asks for them. -/
structure Delivered (svc next : BagSvc Other) (roleID itemID : UInt32) (item : Item) (num : UInt16)
    (rows : List DBBagItem) : Prop where
  bag : next.bag = svc.bag ++ rows
  owned : ∀ row ∈ rows, row.roleID = roleID ∧ row.itemID = itemID
  cells : (rows.map DBBagItem.cellIndex).Nodup
  free : ∀ row ∈ rows, svc.mainSvc.FreeCell roleID row.cellIndex
  total : piecesIn rows = num.toNat
  sizes : ∀ row ∈ rows, if item.itemType = 2 ∨ item.isStack = 0 then row.num = 1
    else 1 ≤ row.num.toNat ∧ row.num.toNat ≤ topStackNum.toNat
  entities : if item.itemType = 2 then
      (rows.map DBBagItem.entityID).Nodup ∧ ∀ row ∈ rows,
        svc.bindStatus row.entityID = none ∧ next.bindStatus row.entityID = some item.bind
    else ∀ row ∈ rows, row.entityID = 0

/-- A refused purchase changes neither bag nor balance, and another one delivers what is paid. -/
def BuysExactly (tables : ItemTables) (svc : BagSvc Other) (roleID itemID : UInt32) (num : UInt16) :
    Prop :=
  (svc.processBuyItem tables roleID itemID num).1 ≠ 0 ∧
      (svc.processBuyItem tables roleID itemID num).2.bag = svc.bag ∧
      (svc.processBuyItem tables roleID itemID num).2.roleMoney = svc.roleMoney ∨
    (svc.processBuyItem tables roleID itemID num).1 = 0 ∧
      ∃ item ∈ tables.item itemID, ∃ rows row,
        Delivered svc (svc.processBuyItem tables roleID itemID num).2 roleID itemID item num rows ∧
        (svc.processBuyItem tables roleID itemID num).2.roleMoney =
          Function.update svc.roleMoney roleID row ∧
        Paid (svc.roleMoney roleID) row item num

/-- A purchase that is not refused needs cells with a number and an exact charge. -/
def PurchaseFair (tables : ItemTables) (svc : BagSvc Other) (roleID itemID : UInt32)
    (num : UInt16) : Prop :=
  ∀ item ∈ tables.item itemID, ¬ (item.itemType = 2 ∧ item.isStack = 1) →
    (cellsWanted item num).toNat + (svc.mainSvc.selectBag roleID).length ≤
      (svc.mainSvc.getRoleCellNum roleID).toNat →
    Affords (svc.roleMoney roleID) item num →
    (cellsWanted item num).toNat + (svc.mainSvc.selectBag roleID).length < 2 ^ 16 ∧
      ChargesExactly (svc.roleMoney roleID) item num

/-- All kinds of items are bought in one way. -/
theorem processBuyItem_eq {item : Item} (described : tables.item itemID = some item)
    (kind : ¬ (item.itemType = 2 ∧ item.isStack = 1)) :
    ∃ numcell noRoom, noRoom ≠ 0 ∧
      (boughtFlag item = 2 → numcell.toNat = (cellsWanted item num).toNat) ∧
      svc.processBuyItem tables roleID itemID num =
        svc.buyCells roleID itemID item (boughtFlag item) num numcell (cellsWanted item num)
          noRoom := by
  have codes : errSystemDbError ≠ 0 ∧ errSystemDbNoRecord ≠ 0 := by decide
  unfold processBuyItem boughtFlag cellsWanted
  simp only [described]
  by_cases entity : item.itemType = 2
  · have stack : item.isStack ≠ 1 := fun stack => kind ⟨entity, stack⟩
    simp only [entity, stack, if_true, if_false, true_or]
    exact ⟨1, _, codes.2, fun wrong => absurd wrong (by decide), rfl⟩
  · by_cases single : item.isStack = 0
    · simp only [entity, single, if_true, if_false, or_true]
      exact ⟨1, _, codes.1, fun wrong => absurd wrong (by decide), rfl⟩
    · simp only [entity, single, if_false, or_self]
      exact ⟨_, _, codes.1, fun _ => UInt16.toNat_toUInt32 _, rfl⟩

/-- The sizes of the inserted rows add up to the bought number. -/
theorem boughtRows_total (item : Item) {cells : List UInt16} {numcell : UInt32} (entityID : UInt32)
    (count : cells.length = (cellsWanted item num).toNat)
    (counted : boughtFlag item = 2 → numcell.toNat = (cellsWanted item num).toNat) :
    piecesIn (boughtRows roleID itemID item (boughtFlag item) num cells numcell entityID) =
      num.toNat := by
  by_cases single : item.itemType = 2 ∨ item.isStack = 0
  · have flag : boughtFlag item ≠ 2 := by
      rcases single with entity | single
      · simp [boughtFlag, entity]
      · by_cases entity : item.itemType = 2 <;> simp [boughtFlag, entity, single]
    rw [boughtRows_single flag, count, cellsWanted, if_pos single]
  · obtain ⟨entity, stack⟩ := not_or.mp single
    have flag : boughtFlag item = 2 := by simp [boughtFlag, entity, stack]
    have wanted : cellsWanted item num =
        if num % topStackNum ≠ 0 then num / topStackNum + 1 else num / topStackNum := if_neg single
    have amount := (stackCells num).2
    rw [← wanted] at amount
    rw [flag, boughtRows_stacks cells numcell entityID ((counted flag).trans count.symm), count]
    split at amount <;> split <;> omega

theorem boughtCount_size (item : Item) (numcell : UInt32) :
    if item.itemType = 2 ∨ item.isStack = 0 then
      (boughtCount (boughtFlag item) num numcell).toUInt32 = 1
    else 1 ≤ (boughtCount (boughtFlag item) num numcell).toUInt32.toNat ∧
      (boughtCount (boughtFlag item) num numcell).toUInt32.toNat ≤ topStackNum.toNat := by
  by_cases single : item.itemType = 2 ∨ item.isStack = 0
  · have flag : boughtFlag item ≠ 2 := by
      rcases single with entity | single
      · simp [boughtFlag, entity]
      · by_cases entity : item.itemType = 2 <;> simp [boughtFlag, entity, single]
    rw [if_pos single, boughtCount, if_neg flag]
    rfl
  · obtain ⟨entity, stack⟩ := not_or.mp single
    have flag : boughtFlag item = 2 := by simp [boughtFlag, entity, stack]
    have rest : (num % topStackNum).toNat = num.toNat % 99 := UInt16.toNat_mod num topStackNum
    have limit : topStackNum.toNat = 99 := rfl
    rw [if_neg single, flag, UInt16.toNat_toUInt32, boughtCount, if_pos rfl]
    split
    case isTrue part =>
      have some : (num % topStackNum).toNat ≠ 0 := fun zero => part.2 (UInt16.toNat.inj zero)
      omega
    case isFalse => omega

/-- A purchase that gets distinct free cells delivers its rows. -/
theorem delivered_of_cells {paid : BagSvc Other} (entities : EntitiesLeft svc num)
    (bag : paid.bag = svc.bag) (status : paid.bindStatus = svc.bindStatus)
    (next : paid.nextEntityID = svc.nextEntityID) {cells : List UInt16} {numcell : UInt32}
    (count : cells.length = (cellsWanted item num).toNat)
    (counted : boughtFlag item = 2 → numcell.toNat = (cellsWanted item num).toNat)
    (distinct : cells.Nodup) (free : ∀ index ∈ cells, svc.mainSvc.FreeCell roleID index) :
    Delivered svc (insertBought roleID itemID item (boughtFlag item) num cells numcell paid) roleID
      itemID item num
      (boughtRows roleID itemID item (boughtFlag item) num cells numcell svc.nextEntityID) := by
  obtain ⟨inserted, -, bound⟩ := @insertBought_eq _ roleID itemID item (boughtFlag item) num cells
    numcell paid
  rw [bag, next] at inserted
  rw [next, status] at bound
  refine ⟨inserted, fun row member => ?_, ?_, fun row member => ?_,
    boughtRows_total item _ count counted, fun row member => ?_, ?_⟩
  · obtain ⟨owner, kind, -⟩ := boughtRows_mem member
    exact ⟨owner, kind⟩
  · rw [boughtRows_cells]
    exact distinct
  · apply free
    rw [← @boughtRows_cells roleID itemID item (boughtFlag item) num cells numcell svc.nextEntityID]
    exact List.mem_map_of_mem member
  · obtain ⟨-, -, -, numcell, size⟩ := boughtRows_mem member
    rw [size]
    exact boughtCount_size item numcell
  · by_cases entity : item.itemType = 2
    · have flag : boughtFlag item = 0 := by simp [boughtFlag, entity]
      have wanted : cells.length = num.toNat := by
        rw [count, cellsWanted, if_pos (.inl entity)]
      have numbers := @boughtRows_entities roleID itemID item _ num flag cells numcell
        svc.nextEntityID (by rw [wanted]; exact entities.left)
      rw [if_pos entity]
      refine ⟨?_, fun row member => ⟨entities.unused _ ?_, ?_⟩⟩
      · apply List.Nodup.of_map UInt32.toNat
        rw [List.map_map]
        change (List.map (fun row : DBBagItem => row.entityID.toNat) _).Nodup
        rw [numbers]
        exact List.nodup_range'
      · have number : row.entityID.toNat ∈ List.range' svc.nextEntityID.toNat cells.length := by
          rw [← numbers]
          exact List.mem_map_of_mem member
        exact UInt32.le_iff_toNat_le.mpr (List.mem_range'_1.mp number).1
      · rw [bound, if_pos ⟨flag, List.mem_map_of_mem member⟩]
    · have flag : boughtFlag item ≠ 0 := by
        unfold boughtFlag
        rw [if_neg entity]
        split <;> decide
      rw [if_neg entity]
      intro row member
      exact (boughtRows_mem member).2.2.1 flag

/-- Distinct free cells have a number that the rows do not need. -/
theorem cells_lt {main : MainSvc} {cells : List UInt16} (formed : main.BagWellFormed roleID)
    (distinct : cells.Nodup) (free : ∀ index ∈ cells, main.FreeCell roleID index) :
    cells.length + (main.selectBag roleID).length < 2 ^ 16 := by
  have numbers : (main.occupied roleID ++ cells.map UInt16.toNat).Nodup := by
    apply formed.occupied_nodup.append (distinct.map fun _ _ same => UInt16.toNat_inj.mp same)
    intro index taken member
    obtain ⟨cell, listed, rfl⟩ := List.mem_map.mp member
    exact (MainSvc.freeCell_iff.mp (free cell listed)).2 taken
  have within : main.occupied roleID ++ cells.map UInt16.toNat ⊆
      List.range' 1 (2 ^ 16 - 1) := by
    intro index member
    rw [List.mem_range'_1]
    rcases List.mem_append.mp member with taken | chosen
    · have bounds := formed.occupied_numbered index taken
      omega
    · obtain ⟨cell, listed, rfl⟩ := List.mem_map.mp chosen
      have low := (MainSvc.freeCell_iff.mp (free cell listed)).1.1
      have high := cell.toNat_lt
      omega
  have fewer := (List.subperm_of_subset numbers within).length_le
  rw [List.length_append, List.length_map, MainSvc.occupied_length, List.length_range'] at fewer
  omega

/-- The cells that are found are distinct and free exactly when their numbers are small. -/
theorem ifhassomany_free_iff {main : MainSvc} (formed : main.BagWellFormed roleID)
    (fits : main.HasRoom roleID num.toNat) :
    ((main.ifhassomany roleID num).2.Nodup ∧
        ∀ index ∈ (main.ifhassomany roleID num).2, main.FreeCell roleID index) ↔
      num.toNat + (main.selectBag roleID).length < 2 ^ 16 := by
  constructor
  · rintro ⟨distinct, free⟩
    have small := cells_lt formed distinct free
    rwa [(MainSvc.ifhassomany_of_room formed fits).2.1] at small
  · intro small
    obtain ⟨distinct, free⟩ := MainSvc.ifhassomany_free formed fits small
    refine ⟨distinct, fun index member => ?_⟩
    obtain ⟨fresh, low, high⟩ := free index member
    refine MainSvc.freeCell_iff.mpr ⟨⟨low, high⟩, fun taken => fresh ?_⟩
    obtain ⟨row, listed, same⟩ := List.mem_map.mp taken
    exact List.mem_map.mpr ⟨row, listed, UInt16.toNat.inj same⟩

theorem buysExactly_of_refused {code : UInt32} {next : BagSvc Other}
    (answer : svc.processBuyItem tables roleID itemID num = (code, next)) (refused : code ≠ 0)
    (bag : next.bag = svc.bag) (money : next.roleMoney = svc.roleMoney) :
    BuysExactly tables svc roleID itemID num := by
  refine .inl ?_
  rw [answer]
  exact ⟨refused, bag, money⟩

/-- A paid purchase is exact if its cells have a number and its charge is exact. -/
theorem buysExactly_of_paid {item : Item} {numcell : UInt32} {row : MoneyRow}
    (formed : svc.mainSvc.BagWellFormed roleID) (entities : EntitiesLeft svc num)
    (described : tables.item itemID = some item)
    (counted : boughtFlag item = 2 → numcell.toNat = (cellsWanted item num).toNat)
    (room : (cellsWanted item num).toNat + (svc.mainSvc.selectBag roleID).length ≤
      (svc.mainSvc.getRoleCellNum roleID).toNat)
    (money : (svc.pay roleID itemID item num).2.roleMoney =
      Function.update svc.roleMoney roleID row)
    (exact : Paid (svc.roleMoney roleID) row item num ↔
      ChargesExactly (svc.roleMoney roleID) item num)
    (answer : svc.processBuyItem tables roleID itemID num =
      (0, insertBought roleID itemID item (boughtFlag item) num
        (svc.mainSvc.ifhassomany roleID (cellsWanted item num)).2 numcell
        (svc.pay roleID itemID item num).2)) :
    BuysExactly tables svc roleID itemID num ↔
      (cellsWanted item num).toNat + (svc.mainSvc.selectBag roleID).length < 2 ^ 16 ∧
        ChargesExactly (svc.roleMoney roleID) item num := by
  have fits := (formed.hasRoom_iff (cellsWanted item num).toNat).mpr room
  obtain ⟨-, count, -⟩ := MainSvc.ifhassomany_of_room formed fits
  have status := pay_rest svc roleID itemID item num
  have bag := pay_bag svc roleID itemID item num
  obtain ⟨inserted, kept, -⟩ := @insertBought_eq _ roleID itemID item (boughtFlag item) num
    (svc.mainSvc.ifhassomany roleID (cellsWanted item num)).2 numcell
    (svc.pay roleID itemID item num).2
  rw [money] at kept
  rw [bag, status.2] at inserted
  rw [BuysExactly, answer]
  constructor
  · rintro (⟨wrong, -⟩ | ⟨-, other, found, rows, row', delivered, account, charge⟩)
    · exact absurd rfl wrong
    rw [described] at found
    obtain rfl := Option.some.inj found
    obtain rfl := List.append_cancel_left (inserted.symm.trans delivered.bag)
    have cells := @boughtRows_cells roleID itemID item (boughtFlag item) num
      (svc.mainSvc.ifhassomany roleID (cellsWanted item num)).2 numcell svc.nextEntityID
    have distinct := delivered.cells
    rw [cells] at distinct
    have small := (ifhassomany_free_iff formed fits).mp ⟨distinct, fun index member => by
      rw [← cells] at member
      obtain ⟨row, listed, rfl⟩ := List.mem_map.mp member
      exact delivered.free row listed⟩
    have same := congrFun (kept.symm.trans account) roleID
    rw [Function.update_self, Function.update_self] at same
    exact ⟨small, exact.mp (same ▸ charge)⟩
  · rintro ⟨small, charges⟩
    obtain ⟨distinct, free⟩ := (ifhassomany_free_iff formed fits).mpr small
    exact .inr ⟨rfl, item, described, _, row, delivered_of_cells entities bag status.1
      status.2 count counted distinct free, kept, exact.mpr charges⟩

/-- A purchase delivers what is paid exactly when its charge and its cells are fair. -/
theorem processBuyItem_exact_iff (formed : svc.mainSvc.BagWellFormed roleID)
    (charged : ∀ item ∈ tables.item itemID, Charged item)
    (stored : MoneyStored (svc.roleMoney roleID)) (entities : EntitiesLeft svc num) :
    BuysExactly tables svc roleID itemID num ↔ PurchaseFair tables svc roleID itemID num := by
  have codes : errSystemDbError ≠ 0 ∧ errSystemDbNoRecord ≠ 0 := by decide
  unfold PurchaseFair
  cases described : tables.item itemID with
  | none =>
      refine iff_of_true (buysExactly_of_refused ?_ codes.1 rfl rfl) (by simp)
      rw [processBuyItem, described]
  | some item =>
      simp only [Option.mem_def, Option.some.injEq, forall_eq']
      by_cases kind : item.itemType = 2 ∧ item.isStack = 1
      · refine iff_of_true (buysExactly_of_refused ?_ codes.2 rfl rfl) fun other =>
          absurd kind other
        simp only [processBuyItem, described, if_pos kind.1, if_pos kind.2]
      obtain ⟨numcell, noRoom, code, counted, bought⟩ :=
        @processBuyItem_eq _ svc tables roleID itemID num item described kind
      rw [imp_iff_right kind]
      by_cases room : (cellsWanted item num).toNat + (svc.mainSvc.selectBag roleID).length ≤
          (svc.mainSvc.getRoleCellNum roleID).toNat
      · rw [imp_iff_right room]
        have fits := (formed.hasRoom_iff (cellsWanted item num).toNat).mpr room
        obtain ⟨success, -, -⟩ := MainSvc.ifhassomany_of_room formed fits
        rcases @pay_spec _ svc roleID itemID item num (charged item described) stored with
          ⟨short, refused, money⟩ | ⟨enough, paid, row, money, exact⟩
        · refine iff_of_true (buysExactly_of_refused ?_ codes.2
            (pay_bag svc roleID itemID item num) money) fun enough => absurd enough short
          simp only [bought, buyCells, success, ne_eq, not_true_eq_false, if_false, refused,
            not_false_eq_true, if_true]
        · rw [imp_iff_right enough]
          refine buysExactly_of_paid formed entities described counted room money exact ?_
          simp only [bought, buyCells, success, ne_eq, not_true_eq_false, if_false, paid]
      · refine iff_of_true (buysExactly_of_refused ?_ code rfl rfl) fun fits => absurd fits room
        have full := MainSvc.ifhassomany_of_full formed
          (mt (formed.hasRoom_iff (cellsWanted item num).toNat).mp room)
        have zero : ¬ (0 : UInt16) = 1 := by decide
        simp only [bought, buyCells, full, ne_eq, zero, not_false_eq_true, if_true]

/-- An item for a thousand million, and arrows for two in stacks. -/
def marketTables : ItemTables where
  item itemID :=
    if itemID = 3001 then
      some { Item.null with itemType := 5, costMoneyType := 1, costBuy := 1000000000 }
    else if itemID = 2001 then
      some { Item.null with itemType := 5, isStack := 1, costMoneyType := 1, costBuy := 2 }
    else none
  itemComposite := []
  giftItemBag := []
  itemBonus := []

/-- Role 7 has this money and an empty bag of 25 cells. -/
def purse (money : Int) : BagSvc Empty where
  mapRole roleID :=
    if roleID = 7 then some { ItemRole.new with id := 7, topCellNum := 25 } else none
  bag := []
  roleMoney _ := ⟨money, 0, 0⟩
  equip := []
  bindStatus _ := none
  isVip _ := none
  nextEntityID := 1
  runes := .initial fun _ _ => 0
  issued := []

theorem purse_formed (money : Int) : (purse money).mainSvc.BagWellFormed 7 :=
  ⟨List.nodup_nil, fun _ member => nomatch member⟩

/-- A hundred arrows fill two cells and cost two hundred. -/
theorem arrows_buyExactly :
    (processBuyItem marketTables (purse 500) 7 2001 100).1 = 0 ∧
      BuysExactly marketTables (purse 500) 7 2001 100 := by
  have charged : ∀ item ∈ marketTables.item 2001, Charged item := by decide
  have stored : MoneyStored ((purse 500).roleMoney 7) := ⟨by decide, by decide⟩
  have entities : EntitiesLeft (purse 500) 100 := ⟨fun _ _ => rfl, by decide⟩
  have fair : PurchaseFair marketTables (purse 500) 7 2001 100 := by
    intro item found _ _ _
    obtain rfl := Option.some.inj found
    exact ⟨by decide, by unfold ChargesExactly; decide⟩
  exact ⟨by decide +kernel,
    (processBuyItem_exact_iff (purse_formed 500) charged stored entities).mpr fair⟩

/-- Five items for five thousand million are sold for the rest modulo 4294967296. -/
theorem fiveItems_not_buyExactly :
    ¬ ∀ (tables : ItemTables) (svc : BagSvc Empty) (roleID itemID : UInt32) (num : UInt16),
      svc.mainSvc.BagWellFormed roleID → (∀ item ∈ tables.item itemID, Charged item) →
      MoneyStored (svc.roleMoney roleID) → EntitiesLeft svc num →
      BuysExactly tables svc roleID itemID num := by
  intro claimed
  have bought := claimed marketTables (purse 1000000000) 7 3001 5 (purse_formed _) (by decide)
    ⟨by decide, by decide⟩ ⟨fun _ _ => rfl, by decide⟩
  rcases bought with ⟨refused, -⟩ | ⟨-, item, found, rows, row, -, money, paid⟩
  · exact refused (by decide +kernel)
  · obtain rfl := Option.some.inj found
    have left := congrFun money 7
    rw [Function.update_self] at left
    rw [← left] at paid
    exact absurd paid (by unfold Paid; decide +kernel)

end AppSvr.MainServer.BagSvc
