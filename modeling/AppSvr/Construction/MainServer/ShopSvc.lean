/-
This file defines the purchases in the shop as sequences of statements. Every statement succeeds.
-/

import AppSvr.Construction.MainServer.BagStatements
import AppSvr.Construction.MainServer.ItemUse
import AppSvr.ToMathlib.Programs

namespace AppSvr.MainServer

open Programs

def noMuchGold : UInt32 := 1799
def noMuchGift : UInt32 := 1798

/-- These are the tables of the shop: `NowPrice` and `ItemSellTolalNum` of `ShopItem` by item and
category, `leftNum` of `specialItem`, `Discount` of `VipDiscountDesc`, and `Gift` and `Gold` of
`RoleMoney`. -/
structure ShopSvc where
  mainSvc : MainSvc
  item : UInt32 → Option Item
  vip : UInt32 → UInt32
  nowPrice : UInt32 → UInt8 → Option UInt32
  itemSellTotalNum : UInt32 → UInt8 → Nat
  specialItem : UInt32 → Option UInt32
  discount : UInt32 → Option UInt32
  gift : UInt32 → Int
  gold : UInt32 → Int
  lastEntityID : UInt32

/-- The call of the task service works on other tables, and `reply` sends the answer. -/
inductive ShopStatement where
  | selectNowPrice (itemID : UInt32) (type : UInt8)
  | selectGift (roleID : UInt32)
  | dropGift (roleID num : UInt32)
  | selectSpecialItem (itemID : UInt32)
  | selectDiscount (vipLevel : UInt32)
  | selectGold (roleID : UInt32)
  | dropGold (roleID num : UInt32)
  | selectItem (itemID : UInt32)
  | selectBag (roleID : UInt32)
  | selectCdTime (itemID : UInt32)
  | insertEntity (itemID : UInt32) (bind : UInt8)
  | insertBag (row : DBBagItem)
  | onBagItemAddOrDelete (roleID itemID : UInt32)
  | reply (retCode : UInt32)
  | updateSpecialItem (itemID num : UInt32)
  | selectLeftNum (itemID : UInt32)
  | updateItemSellCount (itemID : UInt32) (type : UInt8) (num : UInt32)
  deriving DecidableEq, Repr

/-- The stock is only counted down when it is larger than the number. -/
def ShopSvc.updateSpecialItem (svc : ShopSvc) (itemID num : UInt32) : ShopSvc :=
  { svc with
    specialItem := Function.update svc.specialItem itemID
      ((svc.specialItem itemID).map fun leftNum =>
        if leftNum > num then leftNum - num else leftNum) }

def ShopStatement.execute (statement : ShopStatement) (svc : ShopSvc) : Option ShopSvc :=
  match statement with
  | .dropGift roleID num =>
      some { svc with
        gift := Function.update svc.gift roleID (svc.gift roleID - printed num) }
  | .dropGold roleID num =>
      some { svc with
        gold := Function.update svc.gold roleID (svc.gold roleID - printed num) }
  | .insertEntity _ bind =>
      some { svc with
        mainSvc := svc.mainSvc.exceSQL (.insertEntity (svc.lastEntityID + 1) bind)
        lastEntityID := svc.lastEntityID + 1 }
  | .insertBag row => some { svc with mainSvc := svc.mainSvc.exceSQL (.insertBag row) }
  | .updateSpecialItem itemID num => some (svc.updateSpecialItem itemID num)
  | .updateItemSellCount itemID type num =>
      some { svc with
        itemSellTotalNum := fun item category =>
          if item = itemID ∧ category = type then svc.itemSellTotalNum item category + num.toNat
          else svc.itemSellTotalNum item category }
  | .selectNowPrice _ _ | .selectGift _ | .selectSpecialItem _ | .selectDiscount _
  | .selectGold _ | .selectItem _ | .selectBag _ | .selectCdTime _ | .onBagItemAddOrDelete _ _
  | .reply _ | .selectLeftNum _ => some svc

abbrev ShopProgram (Result : Type) := Program ShopStatement ShopSvc Result

namespace ShopProgram

/-- The result is one when the vouchers are too few. -/
def dropGift (roleID num : UInt32) : ShopProgram Int :=
  .statement (.selectGift roleID) fun svc =>
    if UInt32.ofInt (svc.gift roleID) > num then
      .statement (.dropGift roleID num) fun _ => .done 0
    else .done 1

/-- The result is minus one when the gold is too little. -/
def dropGold (roleID num : UInt32) : ShopProgram Int :=
  .statement (.selectGold roleID) fun svc =>
    if UInt32.ofInt (svc.gold roleID) < num then .done (-1)
    else .statement (.dropGold roleID num) fun _ => .done 1

def ifhassomany (roleID : UInt32) (num : UInt16) : ShopProgram (UInt16 × List UInt16) :=
  if num = 0 then .done (1, [])
  else .statement (.selectBag roleID) fun svc => .done (svc.mainSvc.ifhassomany roleID num)

/-- The flag is zero for an entity, one for a single piece, and two for a stack. Only the last
stack may have fewer pieces than a cell holds. -/
def insertBought (roleID itemID : UInt32) (item : Item) (flag : UInt8) (num : UInt16) :
    List UInt16 → UInt32 → ShopProgram UInt32
  | [], _ => .statement (.onBagItemAddOrDelete roleID itemID) fun _ => .done 0
  | cell :: cells, numcell =>
      let count :=
        if flag = 2 then
          if numcell = 1 ∧ num % topStackNum ≠ 0 then num % topStackNum else topStackNum
        else 1
      let row (entityID : UInt32) : DBBagItem :=
        ⟨roleID, cell, item.cellType, item.itemType, itemID, entityID, count.toUInt32⟩
      if flag = 0 then
        .statement (.insertEntity itemID item.bind) fun svc =>
          .statement (.insertBag (row (svc.lastEntityID + 1))) fun _ =>
            insertBought roleID itemID item flag num cells (numcell - 1)
      else
        .statement (.insertBag (row 0)) fun _ =>
          insertBought roleID itemID item flag num cells (numcell - 1)

/-- The paid item goes to the free cells of the bag. -/
def deliver (roleID itemID : UInt32) (num : UInt16) : ShopProgram UInt32 :=
  .statement (.selectItem itemID) fun svc =>
    match svc.item itemID with
    | none => .done errSystemDbNoRecord
    | some item =>
        if item.itemType = 2 then
          if item.isStack = 1 then .done errSystemDbNoRecord
          else
            (ifhassomany roleID num).bind fun room =>
              if room.1 ≠ 1 then .done errSystemDbNoRecord
              else insertBought roleID itemID item 0 num room.2 1
        else if item.isStack = 0 then
          (ifhassomany roleID num).bind fun room =>
            if room.1 ≠ 1 then .done errSystemDbError
            else
              .statement (.selectCdTime itemID) fun _ =>
                insertBought roleID itemID item 1 num room.2 1
        else
          let numcell :=
            if num % topStackNum ≠ 0 then num / topStackNum + 1 else num / topStackNum
          (ifhassomany roleID numcell).bind fun room =>
            if room.1 = 0 then .done errSystemDbError
            else
              .statement (.selectCdTime itemID) fun _ =>
                insertBought roleID itemID item 2 num room.2 numcell.toUInt32

/-- The gold is paid at the printed price. -/
def payGold (roleID itemID : UInt32) (num : UInt16) (price : UInt32) : ShopProgram UInt32 :=
  (dropGold roleID (price * num.toUInt32)).bind fun iRet =>
    if iRet = -1 then .done noMuchGold
    else if iRet = 0 then .done errSystemDbNoRecord
    else deliver roleID itemID num

/-- Category five has a discount, six is paid with vouchers, and seven has a limited stock. -/
def buyItem (roleID : UInt32) (type : UInt8) (itemID : UInt32) (num : UInt16) :
    ShopProgram UInt32 :=
  .statement (.selectNowPrice itemID type) fun svc =>
    match svc.nowPrice itemID type with
    | none => .done errSystemDbNoRecord
    | some price =>
        if type = 6 then
          (dropGift roleID (price * num.toUInt32)).bind fun iRet =>
            if iRet = 1 then .done noMuchGift
            else if iRet = -1 then .done errAppData
            else deliver roleID itemID num
        else if type = 7 then
          .statement (.selectSpecialItem itemID) fun svc =>
            match svc.specialItem itemID with
            | none => .done errSystemDbNoRecord
            | some leftnum =>
                if leftnum < num.toUInt32 then .done errSystemDbNoRecord
                else payGold roleID itemID num price
        else if type = 5 then
          .statement (.selectDiscount (svc.vip roleID)) fun state =>
            match state.discount (svc.vip roleID) with
            | none => .done errSystemDbError
            | some discount =>
                payGold roleID itemID num
                  (if discount ≠ 0 then
                    if price * discount / 100 > 0 then price * discount / 100 else 1
                  else price)
        else payGold roleID itemID num price

def updateDBItemSellCount (itemID : UInt32) (type : UInt8) (num : UInt32) : ShopProgram UInt32 :=
  .statement (.updateItemSellCount itemID type num) fun _ => .done 0

/-- The new stock is read for a notification. -/
def updateDBspecialItem (itemID num : UInt32) : ShopProgram UInt32 :=
  .statement (.updateSpecialItem itemID num) fun _ =>
    .statement (.selectLeftNum itemID) fun _ => .done 0

/-- The counters are written behind the answer. -/
def processBuyItem (roleID : UInt32) (type : UInt8) (itemID : UInt32) (num : UInt16) :
    ShopProgram UInt32 :=
  (buyItem roleID type itemID num).bind fun retCode =>
    .statement (.reply retCode) fun _ =>
      if retCode ≠ 0 then .done retCode
      else if type = 7 then
        (updateDBspecialItem itemID num.toUInt32).bind fun _ =>
          updateDBItemSellCount itemID type num.toUInt32
      else updateDBItemSellCount itemID type num.toUInt32

end ShopProgram

/-- This is a purchase of category seven. -/
structure StockRequest where
  roleID : UInt32
  itemID : UInt32
  num : UInt16
  deriving DecidableEq, Repr

def StockRequest.program (request : StockRequest) : ShopProgram UInt32 :=
  .processBuyItem request.roleID 7 request.itemID request.num

/-- The worker threads process the purchases at the same time. -/
abbrev StockPool := Pool StockRequest ShopStatement ShopSvc UInt32

def StockPool.step : StockPool → PoolEvent StockRequest → Option StockPool :=
  Pool.step StockRequest.program ShopStatement.execute

end AppSvr.MainServer
