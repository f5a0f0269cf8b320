/-
This file defines the tables that describe items and the bag functions that use an item. Every
statement succeeds.
-/

import AppSvr.Construction.MainServer.BagSvc
import AppSvr.Construction.MainServer.RoleMoney
import AppSvr.Construction.MainServer.Runes
import AppSvr.ToMathlib.SqlText

namespace AppSvr.MainServer

open SqlText

/-- A cell holds at most this many pieces of an item. -/
def topStackNum : UInt16 := 99

/-- A row of table `Item` without its key. -/
structure Item where
  itemType : UInt16
  cellType : UInt16
  isStack : UInt16
  bind : UInt8
  costMoneyType : UInt32
  costBuy : UInt32
  costSell : UInt32
  minLevel : UInt16
  proID : UInt32
  cdTime : UInt32
  equipPos : UInt32
  deriving DecidableEq, Repr

/-- A left join that finds no item reads zeros. -/
def Item.null : Item := ⟨0, 0, 0, 0, 0, 0, 0, 0, 0, 0, 0⟩

/-- A row of table `ItemComposite` or of table `GiftItemBag`. -/
structure PartRow where
  itemID : UInt32
  partItemID : UInt32
  num : UInt32
  deriving DecidableEq, Repr

/-- A row of table `ItemBonus`. -/
structure BonusRow where
  itemID : UInt32
  bonusAttr : UInt32
  bonusValue : UInt32
  deriving DecidableEq, Repr

/-- No request changes these tables. -/
structure ItemTables where
  item : UInt32 → Option Item
  itemComposite : List PartRow
  giftItemBag : List PartRow
  itemBonus : List BonusRow

/-- An entry of a list of wanted items. -/
structure ItemList where
  itemID : UInt32
  num : UInt16
  deriving DecidableEq, Repr

/-- A cell that the client is told about. -/
structure ItemCell where
  celIndex : UInt16
  itemID : UInt32
  entityID : UInt32
  num : UInt16
  deriving DecidableEq, Repr

/-- A row of table `Equip`. -/
structure EquipRow where
  roleID : UInt32
  equipIndex : UInt8
  itemType : UInt16
  itemID : UInt32
  entityID : UInt32
  deriving DecidableEq, Repr

/-- An online role with the attributes that its items depend on. -/
structure ItemRole extends Role where
  level : UInt16
  proID : UInt32
  vip : UInt8
  hpCDflag : UInt32
  mpCDflag : UInt32
  hpMpflag : UInt32
  deriving DecidableEq, Repr

def ItemRole.new : ItemRole := { Role.new with
  level := 0, proID := 0, vip := 0, hpCDflag := 0, mpCDflag := 0, hpMpflag := 0 }

/-- A role got this many pieces of an item by a payment or by a grant. -/
structure Issue where
  roleID : UInt32
  itemID : UInt32
  num : UInt16
  deriving DecidableEq, Repr

/-- `mapRole` holds the online roles and `runes` their runes. The tables are `Bag`, `RoleMoney`,
`Equip`, the bind status of `Entity` and the column `IsVIP` of `Role`. The history `issued` is not
part of the source: it lists the payments and the grants that have been made. -/
structure BagSvc (Other : Type*) where
  mapRole : UInt32 → Option ItemRole
  bag : List DBBagItem
  roleMoney : UInt32 → MoneyRow
  equip : List EquipRow
  bindStatus : UInt32 → Option UInt8
  isVip : UInt32 → Option UInt8
  nextEntityID : UInt32
  runes : RuneSvc Other
  issued : List Issue

/-- The statements of a call run one after another. -/
def Statements.run (row : MoneyRow) : Statements → Int × MoneyRow
  | .done result => (result, row)
  | .selectmoney next => run row (next (UInt32.ofInt row.money) (UInt32.ofInt row.bindMoney))
  | .selectGold next => run row (next (UInt32.ofInt row.gold))
  | .exceSQL update next => run (update.apply row) (next 0)

namespace BagSvc

variable {Other : Type*}

variable (svc : BagSvc Other) (roleID : UInt32) (tables : ItemTables)

/-- These are the roles and the tables as the trade sees them. -/
def mainSvc : MainSvc where
  mapRole roleID := (svc.mapRole roleID).map ItemRole.toRole
  bag := svc.bag
  roleMoney roleID := some ⟨(svc.roleMoney roleID).money, (svc.roleMoney roleID).gold⟩
  bindStatus := svc.bindStatus

def processGetRolePtr : ItemRole :=
  (svc.mapRole roleID).getD .new

/-- A change of an offline role is lost with the fresh role. -/
def modifyRole (change : ItemRole → ItemRole) : BagSvc Other :=
  { svc with
    mapRole := Function.update svc.mapRole roleID ((svc.mapRole roleID).map change) }

/-- The statement `select .. from Bag where RoleID=.. and CellIndex=..` returns these rows. -/
def selectCell (celIndex : UInt16) : List DBBagItem :=
  svc.bag.filter (MainSvc.Listed roleID [celIndex])

/-- This is `delete from Bag where RoleID=.. and CellIndex in (..)`. -/
def deleteCells (cells : List UInt16) : BagSvc Other :=
  { svc with bag := svc.bag.filter fun row => ¬ MainSvc.Listed roleID cells row }

/-- This is `update Bag set Num=.. where RoleID=.. and CellIndex=..`. The column keeps the bits of
the printed number. -/
def updateNum (celIndex : UInt16) (num : Int) : BagSvc Other :=
  { svc with
    bag := svc.bag.map fun row =>
      if MainSvc.Listed roleID [celIndex] row then { row with num := UInt32.ofInt num } else row }

def insertBag (row : DBBagItem) : BagSvc Other :=
  { svc with bag := svc.bag ++ [row] }

/-- The new entity is numbered by the database. -/
def insertEntity (bind : UInt8) : UInt32 × BagSvc Other :=
  (svc.nextEntityID,
    { svc with
      bindStatus := Function.update svc.bindStatus svc.nextEntityID (some bind)
      nextEntityID := svc.nextEntityID + 1 })

def exceMoney (update : MoneyUpdate) : BagSvc Other :=
  { svc with
    roleMoney := Function.update svc.roleMoney roleID (update.apply (svc.roleMoney roleID)) }

/-- The loop stops at a row behind the expected index. It returns zero if there is none, and the
index of the last row that it read. -/
def firstGap : List UInt16 → (countIndex countInt : UInt16) → UInt16 × UInt16
  | [], countIndex, _ => (0, countIndex)
  | index :: rest, _, countInt =>
      if countInt < index then (countInt, index) else firstGap rest index (index + 1)

/-- The rows are read in the order in which the database returns them. -/
def ifhascellIndex : UInt16 :=
  let topCellNum := svc.mainSvc.getRoleCellNum roleID
  let rows := (svc.mainSvc.selectBag roleID).map DBBagItem.cellIndex
  let count := UInt16.ofNat rows.length
  if topCellNum.toNat ≤ count.toNat then 0
  else
    let (cellIndex, countIndex) := firstGap rows 0 1
    if countIndex.toNat < topCellNum.toNat ∧ cellIndex = 0 then countIndex + 1 else cellIndex

def getEmtycellNum : UInt32 :=
  let topCellNum := svc.mainSvc.getRoleCellNum roleID
  let count := UInt16.ofNat (svc.mainSvc.selectBag roleID).length
  if topCellNum.toNat ≤ count.toNat then 0 else topCellNum - count.toUInt32

/-- The row is inserted with the given number, whatever it is. -/
def getItem (svc : BagSvc Other) (roleID itemID : UInt32)
    (lic : List ItemCell) (num : UInt16) : UInt16 × BagSvc Other × List ItemCell :=
  let cellIndex := svc.ifhascellIndex roleID
  if cellIndex = 0 then (0, svc, lic)
  else
    match tables.item itemID with
    | none => (0, svc, lic)
    | some item =>
        if item.itemType ≠ 2 ∧ item.isStack = 0 ∧ num ≠ 1 then (0, svc, lic)
        else
          let (entityID, svc) := if item.itemType = 2 then svc.insertEntity item.bind else (0, svc)
          let row : DBBagItem :=
            ⟨roleID, cellIndex, item.cellType, item.itemType, itemID, entityID, num.toUInt32⟩
          let svc := { svc.insertBag row with issued := svc.issued ++ [⟨roleID, itemID, num⟩] }
          (cellIndex, svc, lic ++ [⟨cellIndex, itemID, entityID, num⟩])

/-- The results of the calls are ignored. -/
def getItems (tables : ItemTables) (roleID : UInt32) :
    List ItemList → BagSvc Other → List ItemCell → BagSvc Other × List ItemCell
  | [], svc, lic => (svc, lic)
  | item :: items, svc, lic =>
      let (_, svc, lic) := svc.getItem tables roleID item.itemID lic item.num
      getItems tables roleID items svc lic

def roleGetItem (svc : BagSvc Other) (roleID : UInt32)
    (items : List ItemList) : Int × BagSvc Other × List ItemCell :=
  if (svc.getEmtycellNum roleID).toNat < items.length then (-1, svc, [])
  else
    let (svc, lic) := getItems tables roleID items svc []
    (0, svc, lic)

/-- The loop over the rows of a stackable item stops when enough pieces are found. The last stack
keeps the pieces that are too many. The cells carry the entity that the local `lic1` still has. -/
def takeStacks (item : ItemList) (entityID : UInt32) :
    List DBBagItem → UInt32 → List ItemCell → UInt32 × List ItemCell
  | [], num, lic => (num, lic)
  | row :: rest, num, lic =>
      if num < item.num.toUInt32 then
        let num := num + row.num
        let count :=
          if item.num.toUInt32 < num then row.num - (num - item.num.toUInt32) else row.num
        takeStacks item entityID rest num
          (lic ++ [⟨row.cellIndex, item.itemID, entityID, count.toUInt16⟩])
      else (num, lic)

/-- The cells of the wanted items are collected. The entity of an item's first row decides how its
rows are counted. The result `i` is the count of the last stackable item. -/
def selectIfhasItems (svc : BagSvc Other) (roleID : UInt32) :
    List ItemList → (entityID i : UInt32) → List ItemCell → Option (List ItemCell)
  | [], _, i, lic => if i = -1 then none else some lic
  | item :: items, entityID, i, lic =>
      match svc.bag.filter fun row => row.roleID = roleID ∧ row.itemID = item.itemID with
      | [] => none
      | row :: rest =>
          if row.entityID ≠ 0 then
            if item.num.toNat ≤ (row :: rest).length then
              let taken := (row :: rest).take item.num.toNat
              selectIfhasItems svc roleID items
                ((taken.getLast?.map DBBagItem.entityID).getD entityID) i
                (lic ++ taken.map fun row => ⟨row.cellIndex, item.itemID, row.entityID, 1⟩)
            else none
          else
            let (num, lic) := takeStacks item entityID (row :: rest) 0 lic
            if num < item.num.toUInt32 then none
            else selectIfhasItems svc roleID items entityID num lic

/-- The cells are printed behind each other, and a bracket closes the list. -/
def printCells : List ItemCell → List UInt8
  | [] => []
  | cell :: rest =>
      decimal cell.celIndex.toNat ++ ascii (if rest.isEmpty then ")" else ",") ++ printCells rest

/-- Only the cells with an entity are printed here. -/
def printEntities : List ItemCell → List UInt8
  | [] => []
  | cell :: rest =>
      (if cell.entityID ≠ 0 then
        decimal (printed cell.entityID) ++ ascii (if rest.isEmpty then ")" else ",")
      else []) ++ printEntities rest

/-- The text of `szSql`, a buffer of 1024 bytes. -/
def dropSql (lic : List ItemCell) : List UInt8 :=
  ascii "delete from Bag where RoleID=" ++ decimal (printed roleID) ++
    ascii " and CellIndex in(" ++ printCells lic

/-- The text of `szCat`, a buffer of 256 bytes. -/
def dropCat (lic : List ItemCell) : List UInt8 :=
  ascii "delete from Entity where EntityID in( " ++ printEntities lic

/-- The list of entities is closed with the last cell, and a list that is not closed is refused by
the database. -/
def deleteEntities (lic : List ItemCell) : BagSvc Other :=
  if lic.getLast?.any fun cell => cell.entityID ≠ 0 then
    { svc with
      bindStatus := fun entityID =>
        if entityID ≠ 0 ∧ entityID ∈ lic.map ItemCell.entityID then none
        else svc.bindStatus entityID }
  else svc

/-- Every collected cell is deleted with all its pieces. -/
def dropItems (items : List ItemList) : Int × BagSvc Other :=
  match svc.selectIfhasItems roleID items 0 0 [] with
  | none => (-1, svc)
  | some [] => (0, svc)
  | some lic => (0, (svc.deleteCells roleID (lic.map ItemCell.celIndex)).deleteEntities lic)

/-- The subquery must name one composite. -/
def compositeOf (itemID : UInt32) : List PartRow :=
  match tables.itemComposite.filter fun row => row.partItemID = itemID with
  | [part] => tables.itemComposite.filter fun row =>
      row.itemID ≠ itemID ∧ row.itemID = part.itemID
  | _ => []

/-- The result is the composite, or zero for a failure. -/
def compiteUse (svc : BagSvc Other) (roleID itemID : UInt32) : UInt32 × BagSvc Other :=
  match compositeOf tables itemID with
  | [] => (0, svc)
  | part :: parts =>
      let items := (part :: parts).map fun row => ⟨row.partItemID, row.num.toUInt16⟩
      let (result, svc) := svc.dropItems roleID items
      if result = -1 then (0, svc) else (part.itemID, svc)

/-- The select finds the contents of the gift or nothing. -/
def useGiftBag (itemID : UInt32) : Option (List ItemList) :=
  match tables.giftItemBag.filter fun row => row.itemID = itemID with
  | [] => none
  | row :: rest => some ((row :: rest).map fun row => ⟨row.partItemID, row.num.toUInt16⟩)

/-- The last row of an attribute is the one that counts. -/
def bonusValue (tables : ItemTables) (itemID bonusAttr : UInt32) : UInt32 :=
  ((tables.itemBonus.filter fun row => row.itemID = itemID ∧ row.bonusAttr = bonusAttr).getLast?.map
    BonusRow.bonusValue).getD 0

/-- A potion is refused until its cooldown is over. -/
def useItemToHpMp (svc : BagSvc Other) (roleID itemID cdTime now : UInt32) : Int × BagSvc Other :=
  let role := svc.processGetRolePtr roleID
  let hpAdd := bonusValue tables itemID 20
  let mpAdd := bonusValue tables itemID 21
  if hpAdd ≠ 0 ∧ mpAdd = 0 then
    if role.hpCDflag ≤ now then
      (0, svc.modifyRole roleID fun role => { role with hpCDflag := now + cdTime })
    else (-1, svc)
  else if hpAdd = 0 ∧ mpAdd ≠ 0 then
    if role.mpCDflag ≤ now then
      (0, svc.modifyRole roleID fun role => { role with mpCDflag := now + cdTime })
    else (-1, svc)
  else if hpAdd ≠ 0 ∧ mpAdd ≠ 0 then
    if role.hpMpflag ≤ now then
      (0, svc.modifyRole roleID fun role => { role with hpMpflag := now + cdTime })
    else (-1, svc)
  else (0, svc)

/-- A former level is above ten. -/
def useVIPItem (svc : BagSvc Other) (roleID itemID : UInt32) (vip : UInt8) : Int × BagSvc Other :=
  if tables.itemBonus.any fun row => row.itemID = itemID then
    if vip = 0 then (0, svc.modifyRole roleID fun role => { role with vip := 1 })
    else if 10 < vip then (0, svc.modifyRole roleID fun role => { role with vip := vip - 10 })
    else (0, svc)
  else (-1, svc)

def useSilverCoinCard : Int × BagSvc Other :=
  (0, svc.exceMoney roleID (.addMoney 1000))

/-- The last component lists the cells that `GetItem` has filled. -/
def useItemExcludeEquip (svc : BagSvc Other) (roleID : UInt32)
    (itemType : UInt16) (cdTime itemId now : UInt32) :
    UInt32 × BagSvc Other × List ItemCell :=
  if itemType = 1 then
    if itemId = 6000 then
      let (result, svc) := svc.useSilverCoinCard roleID
      (if result ≠ 0 then errAppData else 0, svc, [])
    else
      let (result, svc) := svc.useItemToHpMp tables roleID itemId cdTime now
      (if result = -1 then errSystemDbError else 0, svc, [])
  else if itemType = 3 then
    let (itemID1, svc) := svc.compiteUse tables roleID itemId
    if itemID1 ≠ 0 then
      let (_, svc, lic) := svc.getItem tables roleID itemID1 [] 1
      (0, svc, lic)
    else (errSystemDbNoRecord, svc, [])
  else if itemType = 9 then
    match useGiftBag tables itemId with
    | some lis =>
        let (_, svc, lic) := svc.roleGetItem tables roleID lis
        (0, svc, lic)
    | none => (errSystemDbNoRecord, svc, [])
  else if itemType = 12 then
    let (result, svc) := svc.useVIPItem tables roleID itemId (svc.processGetRolePtr roleID).vip
    (if result = -1 then errSystemDbNoRecord else 0, svc, [])
  else if itemType ∈ [5, 6, 8, 10, 11, 13] then (0, svc, [])
  else (errAppData, svc, [])

/-- The first position of the equipment decides where it is worn. -/
def equipPosition (equipPos : UInt32) : UInt8 :=
  if equipPos % 100 ≤ 13 ∧ 0 < equipPos then (equipPos % 100).toUInt8 else 0

/-- This is `AvatarSvc::UseItem`. A worn piece stays where it is. -/
def avatarUseItem (roleID itemID entityID equipPos : UInt32)
    (celIndex : UInt16) : UInt32 × BagSvc Other :=
  match svc.bindStatus entityID with
  | none => (errAppData, svc)
  | some _ =>
      if svc.equip.any fun row => row.roleID = roleID ∧ row.entityID = entityID then (0, svc)
      else
        let equipIndex := equipPosition equipPos
        let equip := svc.equip.map fun row =>
          if row.roleID = roleID ∧ row.equipIndex = equipIndex then
            { row with itemType := 2, itemID := itemID, entityID := entityID }
          else row
        (0, { svc with equip := equip }.deleteCells roleID [celIndex])

end BagSvc

end AppSvr.MainServer
