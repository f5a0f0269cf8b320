/-
This file defines the statements that bag operations run on the tables `Bag` and `Entity`, their
interleaving with the trade messages, and the statements whose lists are appended in a loop. Every
statement succeeds.
-/

import AppSvr.Construction.MainServer.ClientStrings
import AppSvr.Construction.MainServer.TradeSvc

namespace AppSvr.MainServer

/-- The assignments of the statements `update Bag set ..`. -/
inductive BagSet where
  | num (num : UInt32)
  | numMinus (num : UInt32)
  | item (cellType itemType : UInt16) (itemID entityID num : UInt32)
  | cellIndex (cellIndex : UInt16)
  | cellIndexPlus
  deriving DecidableEq, Repr

/-- The sort and the swap of two cells move rows behind the bag by a thousand. -/
def BagSet.apply (row : DBBagItem) : BagSet → DBBagItem
  | .num count => { row with num := count }
  | .numMinus count => { row with num := row.num - count }
  | .item cellType itemType itemID entityID count =>
      { row with
        cellType := cellType
        itemType := itemType
        itemID := itemID
        entityID := entityID
        num := count }
  | .cellIndex index => { row with cellIndex := index }
  | .cellIndexPlus => { row with cellIndex := row.cellIndex + 1000 }

/-- A bag operation runs a sequence of these statements. An update without a cell changes every row
of the role, and the identifier of an inserted entity is chosen by the database. -/
inductive BagStatement where
  | insertBag (row : DBBagItem)
  | deleteBag (roleID : UInt32) (cells : List UInt16)
  | updateBag (roleID : UInt32) (cell : Option UInt16) (set : BagSet)
  | insertEntity (entityID : UInt32) (bindStatus : UInt8)
  | deleteEntity (entityIDs : List UInt32)
  | bindEntity (entityID : UInt32)
  deriving DecidableEq, Repr

namespace MainSvc

/-- The `where` clause of an update selects the row. -/
def Selected (roleID : UInt32) (cell : Option UInt16) (row : DBBagItem) : Prop :=
  row.roleID = roleID ∧ ∀ index ∈ cell, row.cellIndex = index

instance (roleID : UInt32) (cell : Option UInt16) (row : DBBagItem) :
    Decidable (Selected roleID cell row) :=
  inferInstanceAs (Decidable (_ ∧ _))

def exceSQL (svc : MainSvc) : BagStatement → MainSvc
  | .insertBag row => { svc with bag := svc.bag ++ [row] }
  | .deleteBag roleID cells =>
      { svc with bag := svc.bag.filter fun row => ¬ Listed roleID cells row }
  | .updateBag roleID cell set =>
      { svc with
        bag := svc.bag.map fun row => if Selected roleID cell row then set.apply row else row }
  | .insertEntity entityID bindStatus =>
      { svc with
        bindStatus := Function.update svc.bindStatus entityID (some bindStatus) }
  | .deleteEntity entityIDs =>
      { svc with
        bindStatus := fun entityID =>
          if entityID ∈ entityIDs then none else svc.bindStatus entityID }
  | .bindEntity entityID =>
      { svc with
        bindStatus := Function.update svc.bindStatus entityID
          ((svc.bindStatus entityID).map fun _ => 1) }

end MainSvc

/-- The server processes a trade message or the next statement of a bag operation. -/
inductive MarketEvent where
  | message (message : Message)
  | statement (statement : BagStatement)
  deriving DecidableEq, Repr

/-- A statement of any role can run before every message. -/
def MainSvc.marketStep (svc : MainSvc) : MarketEvent → Option MainSvc
  | .message message => svc.step message
  | .statement statement => some (svc.exceSQL statement)

open SqlText

/-- The last number closes the list. -/
def listed (between close : String) : List Int → List Piece
  | [] => []
  | [value] => [.number value, text close]
  | value :: values => .number value :: text between :: listed between close values

/-- `DeletefromBag` has three texts: the list and the two statements that end with it. -/
structure CellTexts where
  szCat : List Piece
  select : List Piece
  delete : List Piece

def deletefromBagTexts (roleID : UInt32) (cell : List UInt16) : CellTexts :=
  let szCat := text " " :: listed ", " "); " (cell.map fun index => (index.toNat : Int))
  { szCat := szCat
    select :=
      text "select RoleID,CellIndex ,CellType , ItemType ,ItemID,EntityID ,Num from Bag " ::
        text "where RoleID=" :: .number (printed roleID) :: text " and CellIndex in(" :: szCat
    delete :=
      text "delete from Bag where RoleID=" :: .number (printed roleID) ::
        text " and CellIndex in(" :: szCat }

/-- `TradeItem` calls `DeletefromBag` with these arguments. -/
def MainSvc.tradeItemCalls (svc : MainSvc) (roleID : UInt32) (cell : List UInt16)
    (toRoleID : UInt32) (cell1 : List UInt16) : List (UInt32 × List UInt16) :=
  let size1 := UInt16.ofNat cell.length
  let size2 := UInt16.ofNat cell1.length
  if (svc.ifhassomany roleID size2).1 = 0 ∨ (svc.ifhassomany toRoleID size1).1 = 0 then []
  else
    let first := if size1 ≠ 0 then [(roleID, cell)] else []
    if size1 ≠ 0 ∧ (svc.deletefromBag roleID cell []).1 = 0 then first
    else if size2 ≠ 0 then first ++ [(toRoleID, cell1)]
    else first

variable (entity : List UInt32)

def selectMixEquipMoneyText : List Piece :=
  text "select Entity.Durability,Entity.ItemID ,Item.Durability,Item.MinLevel,Item.EquipPos " ::
    text "from Entity left join Item " :: tabs 9 ::
    text "on Entity.ItemID=Item.ItemID where " :: tabs 8 :: text "EntityID in(" ::
    listed "," ");" (entity.map printed)

def updateMixEquipText : List Piece :=
  text "update  Entity set Durability=(select Durability from Item where " ::
    text "ItemID=Entity.ItemID) where EntityID in(" :: listed "," ");" (entity.map printed)

/-- A query without rows ends the repair. The update follows the payment. -/
def mixEquipTexts (paid : Bool) : List (List Piece) :=
  if entity = [] then []
  else if paid then [selectMixEquipMoneyText entity, updateMixEquipText entity]
  else [selectMixEquipMoneyText entity]

end AppSvr.MainServer
