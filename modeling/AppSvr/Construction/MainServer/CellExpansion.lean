/-
This file defines the requests that buy cells for the bag and for the warehouse of a role. One of
their statements can fail, and nothing is rolled back.
-/

import AppSvr.Construction.MainServer.RoleMoney

namespace AppSvr.MainServer

/-- The statement that fails. A failed `select` leaves the local `Gold` uninitialised. -/
inductive ExpansionFault where
  | selectGold (uninitialised : UInt32)
  | updateGold
  | selectBalance
  | updateStore
  deriving DecidableEq, Repr

/-- The bag size of the role is missing while it is offline. The others are its `TopStoreCellNum` in
table `Role` and its row of table `RoleMoney`. -/
structure CellOwner where
  topCellNum : Option UInt32
  topStoreCellNum : Option Nat
  roleMoney : Option MoneyRow
  deriving DecidableEq, Repr

namespace CellOwner

def selectGold (owner : CellOwner) (fault : Option ExpansionFault) : UInt32 :=
  match fault with
  | some (.selectGold uninitialised) => uninitialised
  | _ => (owner.roleMoney.map fun row => UInt32.ofInt row.gold).getD 0

/-- The result is minus one without enough gold, zero for a failed update and one otherwise. The
notice about the new balance only reads. -/
def dropGold (owner : CellOwner) (fault : Option ExpansionFault) (num : UInt32) :
    Int × CellOwner :=
  if owner.selectGold fault < num then (-1, owner)
  else if fault = some .updateGold then (0, owner)
  else
    (1, { owner with
      roleMoney := owner.roleMoney.map fun row => MoneyUpdate.apply row (.dropGold (printed num)) })

/-- A bag without a size has twenty-five cells. -/
def cellNum (topcellnum : UInt32) : UInt32 := if topcellnum = 0 then 25 else topcellnum

/-- Only the first type asks for more cells. -/
def wantedCellNum (topcellnum : UInt32) (type : UInt8) : UInt32 :=
  if type = 1 then cellNum topcellnum + 25 else cellNum topcellnum

/-- A role that is offline is answered with a fresh role, whose size is lost. -/
def processchangeTopcell (owner : CellOwner) (fault : Option ExpansionFault) (body : Option UInt8) :
    UInt32 × CellOwner :=
  match body with
  | none => (errSystemSerError, owner)
  | some type =>
      let topcellnum := wantedCellNum (owner.topCellNum.getD 0) type
      if topcellnum = 100 then (errSystemSerError, owner)
      else
        let dropped := owner.dropGold fault 100
        if dropped.1 = -1 then (errSystemSerError, dropped.2)
        else
          (0, { dropped.2 with topCellNum := dropped.2.topCellNum.map fun _ => topcellnum })

/-- The type is read and not used. -/
def processAddTopCell (owner : CellOwner) (fault : Option ExpansionFault) (body : Option UInt8) :
    UInt32 × CellOwner :=
  match body with
  | none => (errSystemSerError, owner)
  | some _ =>
      let dropped := owner.dropGold fault 100
      if dropped.1 = -1 then (errSystemSerError, dropped.2)
      else if fault = some .updateStore then (errSystemSerError, dropped.2)
      else
        (0, { dropped.2 with topStoreCellNum := dropped.2.topStoreCellNum.map (· + 36) })

end CellOwner

/-- A request has the type byte that could be read. -/
inductive Expansion where
  | bag (body : Option UInt8)
  | store (body : Option UInt8)
  deriving DecidableEq, Repr

def Expansion.process (request : Expansion) (owner : CellOwner) (fault : Option ExpansionFault) :
    UInt32 × CellOwner :=
  match request with
  | .bag body => owner.processchangeTopcell fault body
  | .store body => owner.processAddTopCell fault body

/-- The requests come one after the other, each with the statement that fails in it. -/
def CellOwner.run (owner : CellOwner) : List (Expansion × Option ExpansionFault) → CellOwner
  | [] => owner
  | (request, fault) :: requests => (request.process owner fault).2.run requests

end AppSvr.MainServer
