/-
This file defines the roles and the tables of the main server that a trade reads and writes.
-/

import AppSvr.Construction.OurDef
import Mathlib.Logic.Function.Basic

namespace AppSvr.MainServer

/-- The trade record of a role. -/
structure TradeItem where
  isOnTrade : UInt8
  tradeRoleID : UInt32
  isLockTrade : UInt8
  isTrade : UInt8
  tradeMoney : UInt32
  tradeGold : UInt32
  tradeCellIndex : List UInt16
  deriving DecidableEq, Repr

/-- The constructor clears every field. -/
def TradeItem.new : TradeItem where
  isOnTrade := 0
  tradeRoleID := 0
  isLockTrade := 0
  isTrade := 0
  tradeMoney := 0
  tradeGold := 0
  tradeCellIndex := []

/-- An online role carries its identifier, its bag size, and its trade record. -/
structure Role where
  id : UInt32
  topCellNum : UInt32
  tradeInfo : TradeItem
  deriving DecidableEq, Repr

def Role.new : Role := ⟨0, 0, .new⟩

/-- A row of table `Bag`. -/
structure DBBagItem where
  roleID : UInt32
  cellIndex : UInt16
  cellType : UInt16
  itemType : UInt16
  itemID : UInt32
  entityID : UInt32
  num : UInt32
  deriving DecidableEq, Repr

/-- A row of table `RoleMoney` without its key. -/
structure RoleMoney where
  money : Int
  gold : Int
  deriving DecidableEq, Repr

/-- `mapRole` holds the online roles. The other fields are tables: the rows of `Bag` in the order
in which the database returns them, `RoleMoney` by role, and the bind status of `Entity` by
entity. -/
structure MainSvc where
  mapRole : UInt32 → Option Role
  bag : List DBBagItem
  roleMoney : UInt32 → Option RoleMoney
  bindStatus : UInt32 → Option UInt8

namespace MainSvc

/-- An offline role is answered with a fresh role. -/
def processGetRolePtr (svc : MainSvc) (roleID : UInt32) : Role :=
  (svc.mapRole roleID).getD .new

/-- This is the setter `CoreData::TradeInfo`. -/
def setTradeInfo (svc : MainSvc) (tradeItem : TradeItem) (roleID : UInt32) : Int × MainSvc :=
  match svc.mapRole roleID with
  | none => (-1, svc)
  | some role =>
      (0, { svc with
        mapRole := Function.update svc.mapRole roleID (some { role with tradeInfo := tradeItem }) })

end MainSvc

/-- The format `%d` prints the bits of an unsigned value as a signed number. -/
def printed (value : UInt32) : Int := value.toBitVec.toInt

end AppSvr.MainServer
