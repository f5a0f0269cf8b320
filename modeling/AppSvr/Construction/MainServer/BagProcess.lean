/-
This file defines the bag requests that move an item or change the number of pieces in a cell. Every
statement succeeds.
-/

import AppSvr.Construction.MainServer.ItemUse
import Mathlib.Data.Nat.Digits.Defs

namespace AppSvr.MainServer

/-- A row of table `Bag`. The column of the cell takes every number that a statement prints. -/
structure CellRow where
  roleID : UInt32
  cellIndex : Int
  itemID : UInt32
  entityID : UInt32
  num : UInt32
  deriving DecidableEq, Repr

/-- The packet carries the role and two signed cells. -/
structure ChangeRequest where
  roleID : UInt32
  celIndex1 : Int16
  celIndex2 : Int16

variable (bag : List CellRow)

/-- This is `select ItemID from Bag where RoleID=.. and CellIndex=..`. -/
def selectItemID (roleID : UInt32) (celIndex : Int) : List UInt32 :=
  (bag.filter fun row => row.roleID = roleID ∧ row.cellIndex = celIndex).map CellRow.itemID

/-- This is `update Bag set CellIndex=.. where RoleID=.. and CellIndex=..`. -/
def updateBag (roleID : UInt32) (celIndex value : Int) : List CellRow :=
  bag.map fun row =>
    if row.roleID = roleID ∧ row.cellIndex = celIndex then { row with cellIndex := value } else row

/-- Two items change places by way of the cell that is a thousand behind the first one. -/
def processchangeItem (request : ChangeRequest) : UInt32 × List CellRow :=
  let roleID := request.roleID
  let celIndex1 := request.celIndex1.toInt
  let celIndex2 := request.celIndex2.toInt
  if (selectItemID bag roleID celIndex1).isEmpty then (errSystemDbNoRecord, bag)
  else if (selectItemID bag roleID celIndex2).isEmpty then
    (0, updateBag bag roleID celIndex1 celIndex2)
  else
    let bag := updateBag bag roleID celIndex1 (celIndex1 + 1000)
    let bag := updateBag bag roleID celIndex2 celIndex1
    (0, updateBag bag roleID (celIndex1 + 1000) celIndex2)

/-- Every request is answered. -/
def changeStep (request : ChangeRequest) : Option (List CellRow) :=
  some (processchangeItem bag request).2

def noItem : UInt32 := 8887
def errSystemDataNotExists : UInt32 := 11

/-- The decoded bodies of the messages 802, 803, 810, 811, 805 and 899. -/
inductive BagRequest where
  | buyItem (itemID : UInt32) (num : UInt16)
  | useItem (celIndex : UInt16)
  | useItemFromItemID (itemId : UInt32)
  | useRune (celIndex count : UInt16)
  | sellItem (celIndex num : UInt16) (sellOption : UInt8)
  | sortItem
  deriving DecidableEq, Repr

/-- A request arrives from a role at a time. -/
structure BagPacket where
  roleID : UInt32
  now : UInt32
  request : BagRequest
  deriving DecidableEq, Repr

namespace BagSvc

variable {Other : Type*}

/-- Every digit of `ProID` names an admitted profession, and zero admits all of them. -/
def proAllowed (pro roleProID : UInt32) : Bool :=
  pro = 0 ∨ roleProID.toNat ∈ Nat.digits 10 pro.toNat

variable (tables : ItemTables) (svc : BagSvc Other) (roleID : UInt32)

/-- A price in another currency is not charged. -/
def pay (roleID itemID : UInt32) (item : Item) (num : UInt16) : Int × BagSvc Other :=
  let price := item.costBuy * num.toUInt32
  let call : Option Statements :=
    if item.costMoneyType = 3 then some (.dropGold price)
    else if item.costMoneyType = 1 ∨ item.costMoneyType = 2 then some (.dropmoney price)
    else none
  match call with
  | none => (1, svc)
  | some call =>
      let (result, row) := call.run (svc.roleMoney roleID)
      let svc := { svc with roleMoney := Function.update svc.roleMoney roleID row }
      (result, if result = 1 then { svc with issued := svc.issued ++ [⟨roleID, itemID, num⟩] }
        else svc)

/-- The flag is zero for an entity, one for a single piece, and two for a stack. Only the last
stack may have fewer pieces than a cell holds. -/
def insertBought (roleID itemID : UInt32) (item : Item) (flag : UInt8) (num : UInt16) :
    List UInt16 → UInt32 → BagSvc Other → BagSvc Other
  | [], _, svc => svc
  | cell :: cells, numcell, svc =>
      let (entityID, svc) := if flag = 0 then svc.insertEntity item.bind else (0, svc)
      let count :=
        if flag = 2 then
          if numcell = 1 ∧ num % topStackNum ≠ 0 then num % topStackNum else topStackNum
        else 1
      let row : DBBagItem :=
        ⟨roleID, cell, item.cellType, item.itemType, itemID, entityID, count.toUInt32⟩
      insertBought roleID itemID item flag num cells (numcell - 1) (svc.insertBag row)

/-- The cells are found and the price is paid before the rows are inserted. -/
def buyCells (roleID itemID : UInt32) (item : Item) (flag : UInt8)
    (num : UInt16) (numcell : UInt32) (wanted : UInt16) (noRoom : UInt32) :
    UInt32 × BagSvc Other :=
  let (room, cell) := svc.mainSvc.ifhassomany roleID wanted
  if room ≠ 1 then (noRoom, svc)
  else
    let (result, svc) := svc.pay roleID itemID item num
    if result ≠ 1 then (errSystemDbNoRecord, svc)
    else (0, insertBought roleID itemID item flag num cell numcell svc)

def processBuyItem (roleID itemID : UInt32) (num : UInt16) : UInt32 × BagSvc Other :=
  match tables.item itemID with
  | none => (errSystemDbError, svc)
  | some item =>
      if item.itemType = 2 then
        if item.isStack = 1 then (errSystemDbNoRecord, svc)
        else svc.buyCells roleID itemID item 0 num 1 num errSystemDbNoRecord
      else if item.isStack = 0 then svc.buyCells roleID itemID item 1 num 1 num errSystemDbError
      else
        let numcell :=
          if num % topStackNum ≠ 0 then num / topStackNum + 1 else num / topStackNum
        svc.buyCells roleID itemID item 2 num numcell.toUInt32 numcell errSystemDbError

/-- The number is the one that was read before the item was used. -/
def processUseItem (celIndex : UInt16) (now : UInt32) : UInt32 × BagSvc Other :=
  match (svc.selectCell roleID celIndex).head? with
  | none => (errSystemDbError, svc)
  | some row =>
      let item := (tables.item row.itemID).getD .null
      let role := svc.processGetRolePtr roleID
      if role.level < item.minLevel then (errSystemSerError, svc)
      else if ¬ proAllowed item.proID role.proID then (errSystemSerError, svc)
      else
        let (retCode, svc, _) :=
          svc.useItemExcludeEquip tables roleID row.itemType item.cdTime row.itemID now
        if retCode ≠ 0 then (retCode, svc)
        else
          let num := row.num.toUInt16
          if num = 1 then (0, svc.deleteCells roleID [celIndex])
          else (0, svc.updateNum roleID celIndex (num - 1).toNat)

/-- The first row of the item is used, and its number is a signed local here. -/
def processUseItemFromItemID (roleID itemId now : UInt32) : UInt32 × BagSvc Other :=
  match (svc.bag.filter fun row => row.roleID = roleID ∧ row.itemID = itemId).head? with
  | none => (noItem, svc)
  | some row =>
      let item := (tables.item row.itemID).getD .null
      let role := svc.processGetRolePtr roleID
      if role.level < item.minLevel then (errSystemSerError, svc)
      else if ¬ proAllowed item.proID role.proID then (errSystemSerError, svc)
      else if row.itemType = 2 then
        svc.avatarUseItem roleID itemId row.entityID item.equipPos row.cellIndex
      else
        let (retCode, svc, _) :=
          svc.useItemExcludeEquip tables roleID row.itemType item.cdTime itemId now
        if retCode ≠ 0 then (retCode, svc)
        else
          let num := printed row.num - 1
          if num ≤ 0 then (0, svc.deleteCells roleID [row.cellIndex])
          else (0, svc.updateNum roleID row.cellIndex num)

/-- The remainder is signed, and nothing compares the requested count with the number of runes. -/
def processUseRune [DecidableEq Other] (svc : BagSvc Other) (roleID : UInt32)
    (celIndex count : UInt16) : UInt32 × BagSvc Other :=
  match (svc.selectCell roleID celIndex).head? with
  | none => (errSystemDbNoRecord, svc)
  | some row =>
      if row.itemType ≠ 10 then (errSystemDataNotExists, svc)
      else
        let remainder : Int := row.num.toUInt16.toNat - count.toNat
        let svc := { svc with runes := svc.runes.useRune roleID row.itemID.toNat }
        if remainder = 0 then (0, svc.deleteCells roleID [celIndex])
        else (0, svc.updateNum roleID celIndex remainder)

/-- The proceeds are added to the bound money. -/
def sellProceeds (roleID itemID : UInt32) (num : UInt16) : UInt32 × BagSvc Other :=
  match tables.item itemID with
  | none => (errSystemDbNoRecord, svc)
  | some item =>
      (0, svc.exceMoney roleID (.addBindMoney (printed (item.costSell * num.toUInt32))))

/-- The first option is reserved for VIP roles. A row with an entity is sold whole. -/
def processSellItem (celIndex num : UInt16) (sellOption : UInt8) : UInt32 × BagSvc Other :=
  if sellOption ≠ 1 ∧ sellOption ≠ 2 then (errAppData, svc)
  else if sellOption = 1 ∧ ¬ (svc.isVip roleID).any (fun isVip => 1 ≤ isVip ∧ isVip ≤ 6) then
    (errAppData, svc)
  else
    match (svc.selectCell roleID celIndex).head? with
    | none => (errSystemDbNoRecord, svc)
    | some row =>
        let sqlnum := row.num.toUInt16
        if row.entityID = 0 then
          if sqlnum = num then
            (svc.deleteCells roleID [celIndex]).sellProceeds tables roleID row.itemID num
          else if num < sqlnum then
            (svc.updateNum roleID celIndex (sqlnum - num).toNat).sellProceeds tables roleID
              row.itemID num
          else (errSystemDbNoRecord, svc)
        else
          let svc := svc.deleteCells roleID [celIndex]
          let svc := { svc with bindStatus := Function.update svc.bindStatus row.entityID none }
          svc.sellProceeds tables roleID row.itemID num

/-- A full cell takes part in no merge. -/
def Mergeable (row : DBBagItem) : Prop :=
  row.roleID = roleID ∧ row.entityID = 0 ∧ (tables.item row.itemID).map Item.isStack = some 1 ∧
    printed row.num ≠ topStackNum.toNat

instance (tables : ItemTables) (roleID : UInt32) (row : DBBagItem) :
    Decidable (Mergeable tables roleID row) :=
  inferInstanceAs (Decidable (_ ∧ _))

/-- The order of the select is by item and number, both descending. -/
def mergeOrder (row1 row2 : DBBagItem) : Bool :=
  row2.itemID < row1.itemID ∨ row1.itemID = row2.itemID ∧ printed row2.num ≤ printed row1.num

def selectMergeable : List DBBagItem :=
  (svc.bag.filter (Mergeable tables roleID)).insertionSort (mergeOrder · ·)

/-- The two loops over the selected rows are one here: a row of the next item writes the number of
the current cell and starts over. -/
def mergeRows (roleID : UInt32) (celIndex : UInt16) (itemID : UInt32) (num : UInt16) :
    List DBBagItem → BagSvc Other → BagSvc Other
  | [], svc => svc.updateNum roleID celIndex num.toNat
  | row :: rest, svc =>
      if itemID = row.itemID then
        let num := num + row.num.toUInt16
        if topStackNum < num then
          mergeRows roleID row.cellIndex itemID (num - topStackNum) rest
            (svc.updateNum roleID celIndex topStackNum.toNat)
        else
          mergeRows roleID row.cellIndex itemID num rest (svc.deleteCells roleID [celIndex])
      else
        mergeRows roleID row.cellIndex row.itemID row.num.toUInt16 rest
          (svc.updateNum roleID celIndex num.toNat)

def mergeStacks : List DBBagItem → BagSvc Other → BagSvc Other
  | [], svc => svc
  | row :: rest, svc =>
      mergeRows roleID row.cellIndex row.itemID row.num.toUInt16 rest svc

/-- This is `update Bag set CellIndex=.. where RoleID=.. and CellIndex=..`. -/
def updateCellIndex (sqlCell cellnum : UInt16) : BagSvc Other :=
  { svc with
    bag := svc.bag.map fun row =>
      if MainSvc.Listed roleID [sqlCell] row then { row with cellIndex := cellnum } else row }

/-- The rows are numbered in the order of the select. -/
def renumber (roleID : UInt32) : List DBBagItem → Nat → BagSvc Other → BagSvc Other
  | [], _, svc => svc
  | row :: rest, cellnum, svc =>
      renumber roleID rest (cellnum + 1)
        (if cellnum + 1 < row.cellIndex.toNat then
          svc.updateCellIndex roleID row.cellIndex (UInt16.ofNat (cellnum + 1))
        else svc)

/-- All cells are moved behind the bag and then numbered by item type and cell. -/
def renumberCells : BagSvc Other :=
  let svc := { svc with
    bag := svc.bag.map fun row =>
      if row.roleID = roleID then { row with cellIndex := row.cellIndex + 1000 } else row }
  let rows := (svc.mainSvc.selectBag roleID).insertionSort fun row1 row2 =>
    row1.itemType < row2.itemType ∨
      row1.itemType = row2.itemType ∧ row1.cellIndex ≤ row2.cellIndex
  renumber roleID rows 0 svc

def processSortItem : UInt32 × BagSvc Other :=
  (0, (mergeStacks roleID (svc.selectMergeable tables roleID) svc).renumberCells roleID)

def process [DecidableEq Other] (tables : ItemTables) (svc : BagSvc Other) (packet : BagPacket) :
    UInt32 × BagSvc Other :=
  match packet.request with
  | .buyItem itemID num => svc.processBuyItem tables packet.roleID itemID num
  | .useItem celIndex => svc.processUseItem tables packet.roleID celIndex packet.now
  | .useItemFromItemID itemId =>
      svc.processUseItemFromItemID tables packet.roleID itemId packet.now
  | .useRune celIndex count => svc.processUseRune packet.roleID celIndex count
  | .sellItem celIndex num sellOption =>
      svc.processSellItem tables packet.roleID celIndex num sellOption
  | .sortItem => svc.processSortItem tables packet.roleID

/-- Every request is answered. -/
def step [DecidableEq Other] (tables : ItemTables) (svc : BagSvc Other) (packet : BagPacket) :
    Option (BagSvc Other) :=
  some (svc.process tables packet).2

end BagSvc

end AppSvr.MainServer
