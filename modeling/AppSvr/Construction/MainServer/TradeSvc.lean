/-
This file defines the trade messages and the exchange in which one statement fails. A body is absent
when the serializer reports an error, every handler returns its answer code, and nothing is rolled
back.
-/

import AppSvr.Construction.MainServer.BagSvc

namespace AppSvr.MainServer

/-- The record names its partner. -/
def TradeItem.engage (item : TradeItem) (id : UInt32) : TradeItem :=
  { item with isOnTrade := 1, tradeRoleID := id }

/-- The record takes an offer; the listed cells follow the earlier ones. -/
def TradeItem.lock (item : TradeItem) (money gold : UInt32) (lic : List UInt16) : TradeItem :=
  { item with
    isLockTrade := 1
    tradeMoney := money
    tradeGold := gold
    tradeCellIndex := item.tradeCellIndex ++ lic }

/-- The record takes the confirmation. -/
def TradeItem.confirm (item : TradeItem) : TradeItem := { item with isTrade := 1 }

namespace MainSvc

variable (svc : MainSvc) (roleID : UInt32)

/-- Only the identifier zero tells an offline role. -/
def isOffline : Prop := (svc.processGetRolePtr roleID).id = 0

instance (svc : MainSvc) (roleID : UInt32) : Decidable (svc.isOffline roleID) :=
  inferInstanceAs (Decidable (_ = _))

/-- This is the getter `Role::TradeInfo` behind `ProcessGetRolePtr`. -/
def tradeInfo (svc : MainSvc) (roleID : UInt32) : TradeItem :=
  (svc.processGetRolePtr roleID).tradeInfo

/-- Message 1301 only notifies the other role. -/
def processRequestTrade (body : Option UInt32) : UInt32 :=
  match body with
  | none => errSystemSerError
  | some id =>
      if id = roleID then errSystemSerError
      else if svc.isOffline id then errSystemSerError
      else if svc.isOffline roleID then errSystemDbNoRecord
      else 0

/-- Both records take the other role; their locks, confirmations, and offers stay. -/
def acceptTrade (roleID id : UInt32) : UInt32 × MainSvc :=
  let roleItem := svc.tradeInfo roleID
  if svc.isOffline id then (errAppOp, svc)
  else
    let tradeRoleItem := svc.tradeInfo id
    if tradeRoleItem.isOnTrade ≠ 1 ∨ tradeRoleItem.tradeRoleID ≠ roleID then
      let (iRet, svc) := svc.setTradeInfo (tradeRoleItem.engage roleID) id
      if iRet ≠ 0 then (errAppOp, svc)
      else
        let roleItem :=
          if roleItem.isOnTrade ≠ 1 ∨ roleItem.tradeRoleID ≠ id then roleItem.engage id
          else roleItem
        let (iRet, svc) := svc.setTradeInfo roleItem roleID
        if iRet ≠ 0 then (errAppOp, svc) else (0, svc)
    else (errAppOp, svc)

/-- Message 1302 answers a request; type one accepts it. -/
def processAnswerTrade (body : Option (UInt32 × UInt8)) : UInt32 × MainSvc :=
  match body with
  | none => (errSystemSerError, svc)
  | some (id, type) =>
      if id = roleID then (errAppData, svc)
      else if type ≠ 0 ∧ type ≠ 1 then (errAppData, svc)
      else if svc.isOffline roleID then (errAppOp, svc)
      else if type = 1 then svc.acceptTrade roleID id
      else (0, svc)

/-- Message 1303 shows an item to the other role. -/
def processItemPast (body : Option (UInt32 × UInt16 × UInt8)) : UInt32 :=
  match body with
  | none => errSystemSerError
  | some (id, cellIndex, type) =>
      if id = roleID then errAppData
      else if svc.isOffline roleID then errAppData
      else if (svc.tradeInfo roleID).tradeRoleID ≠ id then errAppData
      else if type ≠ 0 ∧ type ≠ 1 then errAppData
      else
        let (iRet, bindStatus) := svc.roleSelectCell roleID cellIndex
        if iRet ≠ 0 then errAppOp
        else if bindStatus = 1 then bindItem
        else 0

/-- Message 1304 locks an offer to the partner. -/
def processLockTrade (body : Option (UInt32 × UInt32 × UInt32 × List UInt16)) : UInt32 × MainSvc :=
  match body with
  | none => (errSystemSerError, svc)
  | some (id, money, gold, lic) =>
      if id = roleID then (errAppOp, svc)
      else if svc.isOffline roleID then (errAppOp, svc)
      else
        let roleItem := svc.tradeInfo roleID
        if roleItem.isOnTrade ≠ 1 ∨ roleItem.tradeRoleID ≠ id then (errAppOp, svc)
        else
          let (iRet, svc) := svc.setTradeInfo (roleItem.lock money gold lic) roleID
          if iRet ≠ 0 then (errAppOp, svc) else (0, svc)

/-- Message 1305 checks an amount against the balance and stores nothing. -/
def processMoney (body : Option (UInt32 × UInt32 × UInt32)) : UInt32 :=
  match body with
  | none => errSystemSerError
  | some (id, money, gold) =>
      if id = roleID then errAppData
      else if svc.isOffline roleID then errAppData
      else if (svc.tradeInfo roleID).tradeRoleID ≠ id then errAppData
      else if money = 0 ∧ gold = 0 then 0
      else
        match svc.roleMoney roleID with
        | none => errSystemDbError
        | some balance =>
            if balance.money < printed money ∨ balance.gold < printed gold then errAppOp else 0

/-- The statement `update RoleMoney set Money = (Money + received - given), ..` changes one row. -/
def updateRoleMoney (received given : TradeItem) : MainSvc :=
  { svc with
    roleMoney := Function.update svc.roleMoney roleID ((svc.roleMoney roleID).map fun balance =>
      { money := balance.money + printed received.tradeMoney - printed given.tradeMoney
        gold := balance.gold + printed received.tradeGold - printed given.tradeGold }) }

/-- The rows to change are named by the partners that the two records store. -/
def tradeMoney (svc : MainSvc) (lic1 lic2 : TradeItem) : Int × MainSvc :=
  let money := lic1.tradeMoney - lic2.tradeMoney
  let gold := lic1.tradeGold - lic2.tradeGold
  if gold = 0 ∧ money = 0 then (0, svc)
  else
    (0, (svc.updateRoleMoney lic2.tradeRoleID lic2 lic1).updateRoleMoney lic1.tradeRoleID
      lic1 lic2)

/-- A finished or cancelled trade clears the record. -/
def initTradeItem : Int × MainSvc :=
  let (iRet, svc) := svc.setTradeInfo .new roleID
  if iRet ≠ 0 then (-1, svc) else (0, svc)

/-- The exchange runs after both roles have confirmed. -/
def settleTrade (roleID desRoleID : UInt32) : UInt32 × MainSvc :=
  let roleSelfInfo := svc.tradeInfo roleID
  let desRoleInfo := svc.tradeInfo desRoleID
  let (iRet, svc) :=
    svc.tradeItem roleID roleSelfInfo.tradeCellIndex desRoleID desRoleInfo.tradeCellIndex
  if iRet = 0 then (errAppData, svc)
  else if iRet = -1 then (errAppData, svc)
  else
    let (iRet, svc) := svc.tradeMoney roleSelfInfo desRoleInfo
    if iRet ≠ 0 then (errAppData, svc)
    else
      let (iRet, svc) := svc.initTradeItem roleID
      if iRet ≠ 0 then (errAppData, svc)
      else
        let (iRet, svc) := svc.initTradeItem desRoleID
        if iRet ≠ 0 then (errAppData, svc) else (0, svc)

/-- Message 1306 confirms; the second confirmation runs the exchange. -/
def processTrade : UInt32 × MainSvc :=
  if svc.isOffline roleID then (errAppData, svc)
  else
    let roleSelfInfo := svc.tradeInfo roleID
    let desRoleID := roleSelfInfo.tradeRoleID
    if svc.isOffline desRoleID then (errAppData, svc)
    else
      let desRoleInfo := svc.tradeInfo desRoleID
      if roleSelfInfo.isLockTrade ≠ 1 ∨ desRoleInfo.isLockTrade ≠ 1 then (errAppData, svc)
      else if desRoleInfo.isTrade = 1 then svc.settleTrade roleID desRoleID
      else
        let (iRet, svc) := svc.setTradeInfo roleSelfInfo.confirm roleID
        if iRet ≠ 0 then (errAppData, svc) else (0, svc)

/-- Message 1307 clears the sender and whichever role the body names. -/
def processCancelTrade (body : Option UInt32) : UInt32 × MainSvc :=
  match body with
  | none => (errSystemSerError, svc)
  | some desRoleID =>
      if svc.isOffline roleID then (errAppData, svc)
      else if (svc.tradeInfo roleID).isOnTrade ≠ 1 then (errAppData, svc)
      else
        let (iRet, svc) := svc.initTradeItem roleID
        if iRet ≠ 0 then (errAppData, svc)
        else
          let (iRet, svc) := svc.initTradeItem desRoleID
          if iRet ≠ 0 then (errAppData, svc) else (0, svc)

end MainSvc

/-- The trade messages with their sender and their body. -/
inductive Message where
  | requestTrade (roleID : UInt32) (body : Option UInt32)
  | answerTrade (roleID : UInt32) (body : Option (UInt32 × UInt8))
  | itemPast (roleID : UInt32) (body : Option (UInt32 × UInt16 × UInt8))
  | lockTrade (roleID : UInt32) (body : Option (UInt32 × UInt32 × UInt32 × List UInt16))
  | money (roleID : UInt32) (body : Option (UInt32 × UInt32 × UInt32))
  | trade (roleID : UInt32)
  | cancelTrade (roleID : UInt32) (body : Option UInt32)
  deriving DecidableEq, Repr

namespace MainSvc

/-- The message type selects the handler. -/
def onProcessPacket (svc : MainSvc) : Message → UInt32 × MainSvc
  | .requestTrade roleID body => (svc.processRequestTrade roleID body, svc)
  | .answerTrade roleID body => svc.processAnswerTrade roleID body
  | .itemPast roleID body => (svc.processItemPast roleID body, svc)
  | .lockTrade roleID body => svc.processLockTrade roleID body
  | .money roleID body => (svc.processMoney roleID body, svc)
  | .trade roleID => svc.processTrade roleID
  | .cancelTrade roleID body => svc.processCancelTrade roleID body

/-- Every message is processed to its end before the next one. -/
def step (svc : MainSvc) (message : Message) : Option MainSvc :=
  some (svc.onProcessPacket message).2

end MainSvc

/-- These are the statements of the exchange. The own side is that of the confirming role. -/
inductive TradeStatement where
  /-- The failed select leaves the pointer to its record uninitialised; the flag tells whether it is
  taken for a row. -/
  | selectBag (own garbage : Bool)
  | selectCells (own : Bool)
  | deleteCells (own : Bool)
  | insertBag (own : Bool) (place : Nat)
  | updateRoleMoney (own : Bool)
  deriving DecidableEq, Repr

namespace MainSvc

variable (fault : Option TradeStatement) (svc : MainSvc) (roleID : UInt32)

/-- A failed select counts no row. The loop over the rows never ends if it sees one. -/
def ifhassomanyUnder (own : Bool) (svc : MainSvc) (roleID : UInt32)
    (num : UInt16) : Option (UInt16 × List UInt16) :=
  match fault with
  | some (.selectBag side garbage) =>
      if side = own then
        let (room, cell) := ifhassomany { svc with bag := [] } roleID num
        if num ≠ 0 ∧ room ≠ 0 ∧ garbage then none else some (room, cell)
      else some (svc.ifhassomany roleID num)
  | _ => some (svc.ifhassomany roleID num)

/-- Both failures are reported alike. -/
def deletefromBagUnder (own : Bool) (svc : MainSvc)
    (roleID : UInt32) (cell : List UInt16) : UInt16 × MainSvc × List DBBagItem :=
  if fault = some (.selectCells own) then (0, svc, [])
  else if fault = some (.deleteCells own) then
    (0, svc, (svc.bag.filter (Listed roleID cell)).take 1)
  else svc.deletefromBag roleID cell []

/-- Nobody looks at the result of an insertion. -/
def getAllToBagUnder (fault : Option TradeStatement) (own : Bool) (svc : MainSvc)
    (roleID : UInt32) : Nat → List UInt16 → List DBBagItem → MainSvc
  | place, cell :: cells, item :: items =>
      getAllToBagUnder fault own
        (if fault = some (.insertBag own place) then svc else svc.getToBag roleID cell item)
        roleID (place + 1) cells items
  | _, _, _ => svc

/-- The first search that finds no room ends the exchange. -/
def findRoomUnder (size2 : UInt16) (toRoleID : UInt32) (size1 : UInt16) :
    Option (Option (List UInt16 × List UInt16)) :=
  (svc.ifhassomanyUnder fault true roleID size2).bind fun (room, lic) =>
    if room = 0 then some none
    else
      (svc.ifhassomanyUnder fault false toRoleID size1).map fun (room2, lic2) =>
        if room2 = 0 then none else some (lic, lic2)

/-- The items are deleted on both sides before the first one is inserted. -/
def moveItemsUnder
    (cell lic : List UInt16) (toRoleID : UInt32) (cell1 lic2 : List UInt16) : Int × MainSvc :=
  let size1 := UInt16.ofNat cell.length
  let size2 := UInt16.ofNat cell1.length
  let (deleted, svc, bagitem) :=
    if size1 ≠ 0 then svc.deletefromBagUnder fault true roleID cell else (1, svc, [])
  if deleted = 0 then (-1, svc)
  else
    let (deleted, svc, bagitem2) :=
      if size2 ≠ 0 then svc.deletefromBagUnder fault false toRoleID cell1 else (1, svc, [])
    if deleted = 0 then (-1, svc)
    else if size1 ≠ UInt16.ofNat bagitem.length ∨ size2 ≠ UInt16.ofNat bagitem2.length then
      (-1, svc)
    else (1, (svc.getAllToBagUnder fault false toRoleID 0 lic2 bagitem).getAllToBagUnder fault true
      roleID 0 lic bagitem2)

def tradeItemUnder
    (cell : List UInt16) (toRoleID : UInt32) (cell1 : List UInt16) : Option (Int × MainSvc) :=
  (svc.findRoomUnder fault roleID (UInt16.ofNat cell1.length) toRoleID
    (UInt16.ofNat cell.length)).map fun found =>
      match found with
      | none => (0, svc)
      | some (lic, lic2) => svc.moveItemsUnder fault roleID cell lic toRoleID cell1 lic2

/-- A failed update ends the exchange of the money where it is. -/
def tradeMoneyUnder (lic1 lic2 : TradeItem) : Int × MainSvc :=
  let money := lic1.tradeMoney - lic2.tradeMoney
  let gold := lic1.tradeGold - lic2.tradeGold
  if gold = 0 ∧ money = 0 then (0, svc)
  else if fault = some (.updateRoleMoney true) then (-1, svc)
  else
    let svc := svc.updateRoleMoney lic2.tradeRoleID lic2 lic1
    if fault = some (.updateRoleMoney false) then (-1, svc)
    else (0, svc.updateRoleMoney lic1.tradeRoleID lic1 lic2)

/-- The money follows the items, and the records are cleared at the end. -/
def settleTradeUnder (roleID desRoleID : UInt32) : Option (UInt32 × MainSvc) :=
  let roleSelfInfo := svc.tradeInfo roleID
  let desRoleInfo := svc.tradeInfo desRoleID
  (svc.tradeItemUnder fault roleID roleSelfInfo.tradeCellIndex desRoleID
    desRoleInfo.tradeCellIndex).map fun (iRet, svc) =>
      if iRet = 0 then (errAppData, svc)
      else if iRet = -1 then (errAppData, svc)
      else
        let (iRet, svc) := svc.tradeMoneyUnder fault roleSelfInfo desRoleInfo
        if iRet ≠ 0 then (errAppData, svc)
        else
          let (iRet, svc) := svc.initTradeItem roleID
          if iRet ≠ 0 then (errAppData, svc)
          else
            let (iRet, svc) := svc.initTradeItem desRoleID
            if iRet ≠ 0 then (errAppData, svc) else (0, svc)

/-- Message 1306 with a failing statement. A handler without a result never returns. -/
def processTradeUnder : Option (UInt32 × MainSvc) :=
  if svc.isOffline roleID then some (errAppData, svc)
  else
    let roleSelfInfo := svc.tradeInfo roleID
    let desRoleID := roleSelfInfo.tradeRoleID
    if svc.isOffline desRoleID then some (errAppData, svc)
    else
      let desRoleInfo := svc.tradeInfo desRoleID
      if roleSelfInfo.isLockTrade ≠ 1 ∨ desRoleInfo.isLockTrade ≠ 1 then some (errAppData, svc)
      else if desRoleInfo.isTrade = 1 then svc.settleTradeUnder fault roleID desRoleID
      else
        let (iRet, svc) := svc.setTradeInfo roleSelfInfo.confirm roleID
        if iRet ≠ 0 then some (errAppData, svc) else some (0, svc)

end MainSvc

end AppSvr.MainServer
