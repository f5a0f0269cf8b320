/-
This file defines the bag functions that exchange the items of a trade. Every statement succeeds.
-/

import AppSvr.Construction.MainServer.MainSvc
import Mathlib.Data.List.Sort

namespace AppSvr.MainServer.MainSvc

variable (svc : MainSvc) (roleID : UInt32)

/-- A bag has twenty-five cells until it is extended. -/
def getRoleCellNum : UInt32 :=
  let num := (svc.processGetRolePtr roleID).topCellNum
  if num = 0 then 25 else num

/-- The statement `select .. from Bag where RoleID=..` returns these rows. -/
def selectBag : List DBBagItem :=
  svc.bag.filter fun row => row.roleID = roleID

/-- The inner loop takes the cells in front of the next occupied one. -/
def fillGap (countIndex : UInt16) : Nat → UInt16 → List UInt16 → Nat × UInt16 × List UInt16
  | 0, countInt, cell => (0, countInt, cell)
  | num + 1, countInt, cell =>
      if countInt.toNat + 1 < countIndex.toNat then
        fillGap countIndex num (countInt + 1) (cell ++ [countInt + 1])
      else (num + 1, countInt, cell)

/-- The outer loop visits the occupied cells until enough free ones are found. -/
def fillGaps : List UInt16 → Nat → UInt16 → List UInt16 → Nat × UInt16 × List UInt16
  | [], num, countInt, cell => (num, countInt, cell)
  | countIndex :: rest, num, countInt, cell =>
      let (num, _, cell) := fillGap countIndex num countInt cell
      if num = 0 then (0, countIndex, cell) else fillGaps rest num countIndex cell

/-- The last loop takes the cells behind the last occupied one. -/
def fillTail (topCellNum : UInt32) : Nat → UInt16 → List UInt16 → Nat × List UInt16
  | 0, _, cell => (0, cell)
  | num + 1, countInt, cell =>
      if countInt.toNat < topCellNum.toNat then
        fillTail topCellNum num (countInt + 1) (cell ++ [countInt + 1])
      else (num + 1, cell)

/-- The result names free cells; the row count is a sixteen-bit local. -/
def ifhassomany (num : UInt16) : UInt16 × List UInt16 :=
  let topCellNum := svc.getRoleCellNum roleID
  if num = 0 then (1, [])
  else
    let rows := ((svc.selectBag roleID).map DBBagItem.cellIndex).insertionSort (· ≤ ·)
    let count := UInt16.ofNat rows.length
    if topCellNum.toNat < num.toNat + count.toNat then (0, [])
    else
      let (num, countInt, cell) := fillGaps rows num.toNat 0 []
      let (num, cell) := fillTail topCellNum num countInt cell
      (if num = 0 then 1 else 0, cell)

/-- The row lies in one of the listed cells of the role. -/
def Listed (cell : List UInt16) (row : DBBagItem) : Prop :=
  row.roleID = roleID ∧ row.cellIndex ∈ cell

instance (roleID : UInt32) (cell : List UInt16) (row : DBBagItem) :
    Decidable (Listed roleID cell row) :=
  inferInstanceAs (Decidable (_ ∧ _))

/-- The select returns the rows of every listed cell, but only its first record is read. -/
def deletefromBag (cell : List UInt16)
    (bagitem : List DBBagItem) : UInt16 × MainSvc × List DBBagItem :=
  match svc.bag.filter (Listed roleID cell) with
  | [] => (0, svc, bagitem)
  | item :: _ =>
      (1, { svc with bag := svc.bag.filter fun row => ¬ Listed roleID cell row },
        bagitem ++ [item])

/-- The item is inserted for its new owner. -/
def getToBag (cell : UInt16) (item : DBBagItem) : MainSvc :=
  { svc with bag := svc.bag ++ [{ item with roleID := roleID, cellIndex := cell }] }

/-- The insert loop walks over the items and the free cells together. -/
def getAllToBag (svc : MainSvc) (roleID : UInt32) : List UInt16 → List DBBagItem → MainSvc
  | cell :: cells, item :: items => getAllToBag (svc.getToBag roleID cell item) roleID cells items
  | _, _ => svc

/-- The result is one for success, zero for a bag without room, and minus one for a failure. -/
def tradeItem (cell : List UInt16) (toRoleID : UInt32) (cell1 : List UInt16) : Int × MainSvc :=
  let size1 := UInt16.ofNat cell.length
  let size2 := UInt16.ofNat cell1.length
  let (room, lic) := svc.ifhassomany roleID size2
  let (room2, lic2) := svc.ifhassomany toRoleID size1
  if room = 0 ∨ room2 = 0 then (0, svc)
  else
    let (deleted, svc, bagitem) :=
      if size1 ≠ 0 then svc.deletefromBag roleID cell [] else (1, svc, [])
    if deleted = 0 then (-1, svc)
    else
      let (deleted, svc, bagitem2) :=
        if size2 ≠ 0 then svc.deletefromBag toRoleID cell1 [] else (1, svc, [])
      if deleted = 0 then (-1, svc)
      else if size1 ≠ UInt16.ofNat bagitem.length ∨ size2 ≠ UInt16.ofNat bagitem2.length then
        (-1, svc)
      else (1, (svc.getAllToBag toRoleID lic2 bagitem).getAllToBag roleID lic bagitem2)

/-- A left join reads the bind status of the item in the cell. -/
def roleSelectCell (cellIndex : UInt16) : Int × UInt8 :=
  match (svc.bag.filter (Listed roleID [cellIndex])).getLast? with
  | none => (-1, 0)
  | some row => (0, (svc.bindStatus row.entityID).getD 0)

end AppSvr.MainServer.MainSvc
