/-
This file proves when a purchase in the shop is refused without a charge or delivered at its exact
price.
-/

import AppSvr.Construction.MainServer.ShopSvc
import AppSvr.Proof.MainServer.PurchaseDelivery

namespace AppSvr.MainServer

open BagSvc (boughtFlag boughtRows cellsWanted piecesIn)

/-- The purchase has left the bag and the balances alone. -/
structure ShopSvc.Untouched (svc after : ShopSvc) : Prop where
  bag : after.mainSvc.bag = svc.mainSvc.bag
  gold : after.gold = svc.gold
  gift : after.gift = svc.gift

namespace ShopSvc

section Purchases

variable (svc : ShopSvc) (roleID : UInt32) (type : UInt8) (itemID : UInt32) (num : UInt16)

/-- The vouchers pay for category six, and the gold for every other one. -/
def pay (charge : Int) : ShopSvc :=
  if type = 6 then { svc with gift := Function.update svc.gift roleID (svc.gift roleID - charge) }
  else { svc with gold := Function.update svc.gold roleID (svc.gold roleID - charge) }

/-- The balance passes the test of the code. -/
def Covers (charge : UInt32) : Prop :=
  if type = 6 then charge < UInt32.ofInt (svc.gift roleID)
  else charge ≤ UInt32.ofInt (svc.gold roleID)

instance (charge : UInt32) : Decidable (svc.Covers roleID type charge) :=
  inferInstanceAs (Decidable (ite _ _ _))

/-- The discount in thirty-two bits. -/
def reduced (price discount : UInt32) : UInt32 :=
  if discount ≠ 0 then if price * discount / 100 > 0 then price * discount / 100 else 1 else price

/-- The price with which the payment is made, if the request gets there. -/
def asked : Option UInt32 :=
  (svc.nowPrice itemID type).bind fun price =>
    if type = 7 then
      (svc.specialItem itemID).bind fun leftnum =>
        if leftnum < num.toUInt32 then none else some price
    else if type = 5 then (svc.discount (svc.vip roleID)).map (reduced price)
    else some price

/-- The item can be put into the bag. -/
def Sells : Prop :=
  ∃ item ∈ svc.item itemID, ¬ (item.itemType = 2 ∧ item.isStack = 1) ∧
    (cellsWanted item num).toNat + (svc.mainSvc.selectBag roleID).length ≤
      (svc.mainSvc.getRoleCellNum roleID).toNat

end Purchases

end ShopSvc

namespace ShopProgram

open Programs

section Runs

variable {Result : Type} {svc after : ShopSvc} {roleID itemID : UInt32} {item : Item} {num : UInt16}
  {type : UInt8}

/-- No statement fails. -/
theorem run_of_bind {First : Type} {program : ShopProgram First} {rest : First → ShopProgram Result}
    {result : First} (ran : program.run ShopStatement.execute svc = some (after, result)) :
    (program.bind rest).run ShopStatement.execute svc =
      (rest result).run ShopStatement.execute after := by
  rw [Program.run_bind, ran]
  rfl

theorem run_ifhassomany :
    (ifhassomany roleID num).run ShopStatement.execute svc =
      some (svc, svc.mainSvc.ifhassomany roleID num) := by
  unfold ifhassomany
  split
  case isTrue none => rw [Program.run_done, MainSvc.ifhassomany, if_pos none]
  case isFalse => rfl

/-- The rows are appended, and the balances stay. -/
theorem run_insertBought (flag : UInt8) (cells : List UInt16) (numcell : UInt32) (svc : ShopSvc) :
    ∃ after, (insertBought roleID itemID item flag num cells numcell).run
        ShopStatement.execute svc = some (after, 0) ∧
      after.mainSvc.bag = svc.mainSvc.bag ++
        boughtRows roleID itemID item flag num cells numcell (svc.lastEntityID + 1) ∧
      after.gold = svc.gold ∧ after.gift = svc.gift := by
  induction cells generalizing numcell svc with
  | nil => exact ⟨svc, rfl, (List.append_nil _).symm, rfl, rfl⟩
  | cons cell cells ih =>
      by_cases entities : flag = 0
      · subst entities
        obtain ⟨after, ran, bag, gold, gift⟩ := ih (numcell - 1)
          { svc with
            mainSvc := (svc.mainSvc.exceSQL (.insertEntity (svc.lastEntityID + 1) item.bind)).exceSQL
              (.insertBag ⟨roleID, cell, item.cellType, item.itemType, itemID,
                svc.lastEntityID + 1, (1 : UInt16).toUInt32⟩)
            lastEntityID := svc.lastEntityID + 1 }
        exact ⟨after, ran, bag.trans (List.append_assoc _ [_] _), gold, gift⟩
      · obtain ⟨after, ran, bag, gold, gift⟩ := ih (numcell - 1)
          { svc with
            mainSvc := svc.mainSvc.exceSQL (.insertBag ⟨roleID, cell, item.cellType, item.itemType,
              itemID, 0, (BagSvc.boughtCount flag num numcell).toUInt32⟩) }
        refine ⟨after, ?_, bag.trans ?_, gold, gift⟩
        · unfold insertBought
          simp only [if_neg entities]
          exact ran
        · rw [boughtRows, if_neg entities, if_neg entities]
          exact List.append_assoc _ [_] _

/-- All kinds of items look for their cells in one way. -/
theorem run_deliver (described : svc.item itemID = some item)
    (kind : ¬ (item.itemType = 2 ∧ item.isStack = 1)) {room : UInt16 × List UInt16}
    (found : svc.mainSvc.ifhassomany roleID (cellsWanted item num) = room)
    (answer : room.1 = 0 ∨ room.1 = 1) :
    ∃ numcell noRoom, noRoom ≠ 0 ∧
      (boughtFlag item = 2 → numcell.toNat = (cellsWanted item num).toNat) ∧
      (deliver roleID itemID num).run ShopStatement.execute svc =
        if room.1 = 1 then
          (insertBought roleID itemID item (boughtFlag item) num room.2 numcell).run
            ShopStatement.execute svc
        else some (svc, noRoom) := by
  have codes : errSystemDbError ≠ 0 ∧ errSystemDbNoRecord ≠ 0 := by decide
  have test : room.1 = 0 ↔ ¬ room.1 = 1 := by
    rcases answer with zero | one
    · rw [zero]
      decide
    · rw [one]
      decide
  have looked {rest : UInt16 × List UInt16 → ShopProgram UInt32} :
      ((ifhassomany roleID (cellsWanted item num)).bind rest).run ShopStatement.execute svc =
        (rest room).run ShopStatement.execute svc := by
    rw [run_of_bind run_ifhassomany, found]
  have read : (deliver roleID itemID num).run ShopStatement.execute svc = _ :=
    Program.run_statement ..
  rw [read]
  simp only [ShopStatement.execute, Option.bind_some, described]
  by_cases entity : item.itemType = 2
  · have stack : item.isStack ≠ 1 := fun stack => kind ⟨entity, stack⟩
    have wanted : cellsWanted item num = num := if_pos (.inl entity)
    have flag : boughtFlag item = 0 := if_pos entity
    rw [wanted] at looked ⊢
    rw [if_pos entity, if_neg stack, looked, flag]
    refine ⟨1, _, codes.2, fun wrong => absurd wrong (by decide), ?_⟩
    split_ifs <;> first | rfl | contradiction
  · by_cases single : item.isStack = 0
    · have wanted : cellsWanted item num = num := if_pos (.inr single)
      have flag : boughtFlag item = 1 := (if_neg entity).trans (if_pos single)
      rw [wanted] at looked ⊢
      rw [if_neg entity, if_pos single, looked, flag]
      refine ⟨1, _, codes.1, fun wrong => absurd wrong (by decide), ?_⟩
      split_ifs <;> first | rfl | contradiction
    · have wanted : cellsWanted item num =
          if num % topStackNum ≠ 0 then num / topStackNum + 1 else num / topStackNum :=
        if_neg (not_or.mpr ⟨entity, single⟩)
      have flag : boughtFlag item = 2 := (if_neg entity).trans (if_neg single)
      rw [if_neg entity, if_neg single, ← wanted, looked, flag]
      refine ⟨(cellsWanted item num).toUInt32, _, codes.1, fun _ => UInt16.toNat_toUInt32 _, ?_⟩
      simp only [test]
      split_ifs <;> rfl

/-- Nothing is put into the bag when the item cannot be sold. -/
theorem run_deliver_refused (formed : svc.mainSvc.BagWellFormed roleID)
    (refused : ¬ svc.Sells roleID itemID num) :
    ∃ code, code ≠ 0 ∧
      (deliver roleID itemID num).run ShopStatement.execute svc = some (svc, code) := by
  have code : errSystemDbNoRecord ≠ 0 := by decide
  have read : (deliver roleID itemID num).run ShopStatement.execute svc = _ :=
    Program.run_statement ..
  cases described : svc.item itemID with
  | none =>
      refine ⟨errSystemDbNoRecord, code, ?_⟩
      rw [read]
      simp only [ShopStatement.execute, Option.bind_some, described]
      rfl
  | some item =>
      by_cases kind : item.itemType = 2 ∧ item.isStack = 1
      · refine ⟨errSystemDbNoRecord, code, ?_⟩
        rw [read]
        simp only [ShopStatement.execute, Option.bind_some, described, if_pos kind.1, if_pos kind.2]
        rfl
      · have full := MainSvc.ifhassomany_of_full formed fun room => refused
          ⟨item, described, kind, (formed.hasRoom_iff _).mp room⟩
        obtain ⟨numcell, noRoom, wrong, -, ran⟩ := run_deliver described kind full (.inl rfl)
        exact ⟨noRoom, wrong, ran⟩

/-- The rows of an item that can be sold. -/
theorem run_deliver_sold (formed : svc.mainSvc.BagWellFormed roleID)
    (sells : svc.Sells roleID itemID num) :
    ∃ item ∈ svc.item itemID, ∃ numcell after,
      (boughtFlag item = 2 → numcell.toNat = (cellsWanted item num).toNat) ∧
      (svc.mainSvc.ifhassomany roleID (cellsWanted item num)).2.length =
        (cellsWanted item num).toNat ∧
      (cellsWanted item num).toNat + (svc.mainSvc.selectBag roleID).length ≤
        (svc.mainSvc.getRoleCellNum roleID).toNat ∧
      (deliver roleID itemID num).run ShopStatement.execute svc = some (after, 0) ∧
      after.mainSvc.bag = svc.mainSvc.bag ++ boughtRows roleID itemID item (boughtFlag item) num
        (svc.mainSvc.ifhassomany roleID (cellsWanted item num)).2 numcell (svc.lastEntityID + 1) ∧
      after.gold = svc.gold ∧ after.gift = svc.gift := by
  obtain ⟨item, described, kind, room⟩ := sells
  obtain ⟨success, count, -⟩ :=
    MainSvc.ifhassomany_of_room formed ((formed.hasRoom_iff (cellsWanted item num).toNat).mpr room)
  obtain ⟨numcell, noRoom, -, counted, ran⟩ := run_deliver described kind rfl (.inr success)
  rw [if_pos success] at ran
  obtain ⟨after, inserted, rest⟩ := run_insertBought (boughtFlag item)
    (svc.mainSvc.ifhassomany roleID (cellsWanted item num)).2 numcell svc
  exact ⟨item, described, numcell, after, counted, count, room, ran.trans inserted, rest⟩

theorem run_payGold (gold : type ≠ 6) (price : UInt32) :
    (payGold roleID itemID num price).run ShopStatement.execute svc =
      if svc.Covers roleID type (price * num.toUInt32) then
        (deliver roleID itemID num).run ShopStatement.execute
          (svc.pay roleID type (printed (price * num.toUInt32)))
      else some (svc, noMuchGold) := by
  have covers : svc.Covers roleID type (price * num.toUInt32) ↔
      ¬ UInt32.ofInt (svc.gold roleID) < price * num.toUInt32 := by
    rw [ShopSvc.Covers, if_neg gold, UInt32.not_lt]
  have codes : ¬ (1 : Int) = -1 ∧ ¬ (1 : Int) = 0 := by decide
  have selected : (dropGold roleID (price * num.toUInt32)).run ShopStatement.execute svc =
      (if UInt32.ofInt (svc.gold roleID) < price * num.toUInt32 then .done (-1)
      else .statement (.dropGold roleID (price * num.toUInt32)) fun _ => .done 1 :
        ShopProgram Int).run ShopStatement.execute svc := rfl
  unfold payGold
  by_cases short : UInt32.ofInt (svc.gold roleID) < price * num.toUInt32
  · rw [if_pos short] at selected
    rw [run_of_bind selected, if_neg (not_not.mpr short ∘ covers.mp), if_pos rfl]
    rfl
  · rw [if_neg short] at selected
    rw [run_of_bind selected, if_neg codes.1, if_neg codes.2, if_pos (covers.mpr short),
      ShopSvc.pay, if_neg gold]

theorem run_payGift (price : UInt32) :
    ((dropGift roleID (price * num.toUInt32)).bind fun iRet =>
      if iRet = 1 then .done noMuchGift
      else if iRet = -1 then .done errAppData
      else deliver roleID itemID num).run ShopStatement.execute svc =
      if svc.Covers roleID 6 (price * num.toUInt32) then
        (deliver roleID itemID num).run ShopStatement.execute
          (svc.pay roleID 6 (printed (price * num.toUInt32)))
      else some (svc, noMuchGift) := by
  have codes : ¬ (0 : Int) = 1 ∧ ¬ (0 : Int) = -1 := by decide
  have selected : (dropGift roleID (price * num.toUInt32)).run ShopStatement.execute svc =
      (if UInt32.ofInt (svc.gift roleID) > price * num.toUInt32 then
        .statement (.dropGift roleID (price * num.toUInt32)) fun _ => .done 0
      else .done 1 : ShopProgram Int).run ShopStatement.execute svc := rfl
  by_cases covered : price * num.toUInt32 < UInt32.ofInt (svc.gift roleID)
  · have covers : svc.Covers roleID 6 (price * num.toUInt32) := covered
    rw [if_pos covered] at selected
    rw [run_of_bind selected, if_neg codes.1, if_neg codes.2, if_pos covers]
    rfl
  · have covers : ¬ svc.Covers roleID 6 (price * num.toUInt32) := covered
    rw [if_neg covered] at selected
    rw [run_of_bind selected, if_pos rfl, if_neg covers]
    rfl

/-- A purchase pays the price that it asks for and goes on to the delivery. -/
theorem run_buyItem (svc : ShopSvc) :
    ∃ code, code ≠ 0 ∧
      (buyItem roleID type itemID num).run ShopStatement.execute svc =
        (svc.asked roleID type itemID num).elim (some (svc, code)) fun price =>
          if svc.Covers roleID type (price * num.toUInt32) then
            (deliver roleID itemID num).run ShopStatement.execute
              (svc.pay roleID type (printed (price * num.toUInt32)))
          else some (svc, if type = 6 then noMuchGift else noMuchGold) := by
  have codes : errSystemDbError ≠ 0 ∧ errSystemDbNoRecord ≠ 0 := by decide
  have read : (buyItem roleID type itemID num).run ShopStatement.execute svc = _ :=
    Program.run_statement ..
  rw [read]
  simp only [ShopStatement.execute, Option.bind_some]
  unfold ShopSvc.asked
  cases listed : svc.nowPrice itemID type with
  | none => exact ⟨errSystemDbNoRecord, codes.2, rfl⟩
  | some price =>
      simp only [Option.bind_some]
      by_cases gift : type = 6
      · have others : ¬ (6 : UInt8) = 7 ∧ ¬ (6 : UInt8) = 5 := by decide
        subst gift
        refine ⟨errSystemDbNoRecord, codes.2, ?_⟩
        rw [if_pos rfl, if_neg others.1, if_neg others.2, run_payGift]
        rfl
      rw [if_neg gift]
      by_cases limited : type = 7
      · rw [if_pos limited, if_pos limited, Program.run_statement]
        simp only [ShopStatement.execute, Option.bind_some]
        refine ⟨errSystemDbNoRecord, codes.2, ?_⟩
        cases svc.specialItem itemID with
        | none => rfl
        | some leftnum =>
            dsimp only [Option.bind_some]
            split_ifs
            · rfl
            · exact run_payGold gift price
      rw [if_neg limited, if_neg limited]
      by_cases reduced : type = 5
      · rw [if_pos reduced, if_pos reduced, Program.run_statement]
        simp only [ShopStatement.execute, Option.bind_some]
        refine ⟨errSystemDbError, codes.1, ?_⟩
        cases svc.discount (svc.vip roleID) with
        | none => rfl
        | some discount =>
            simp only [if_neg gift]
            exact run_payGold gift _
      · simp only [if_neg reduced, if_neg gift]
        exact ⟨errSystemDbError, codes.1, run_payGold gift price⟩

/-- The answer is sent before the counters are written. -/
theorem run_processBuyItem {code : UInt32}
    (ran : (buyItem roleID type itemID num).run ShopStatement.execute svc = some (after, code)) :
    ∃ final, (processBuyItem roleID type itemID num).run ShopStatement.execute svc =
      some (final, code) ∧ after.Untouched final := by
  unfold processBuyItem
  rw [run_of_bind ran, Program.run_statement]
  simp only [ShopStatement.execute, Option.bind_some]
  by_cases refused : code ≠ 0
  · rw [if_pos refused]
    exact ⟨after, rfl, rfl, rfl, rfl⟩
  · obtain rfl := not_not.mp refused
    rw [if_neg refused]
    split_ifs
    · exact ⟨_, rfl, rfl, rfl, rfl⟩
    · exact ⟨_, rfl, rfl, rfl, rfl⟩

end Runs

end ShopProgram

namespace ShopSvc

section Prices

variable (svc : ShopSvc) (roleID : UInt32) (type : UInt8) (itemID : UInt32) (num : UInt16)

/-- The discounted price in exact arithmetic. -/
def discounted (price discount : UInt32) : Nat :=
  if discount = 0 then price.toNat else max 1 (price.toNat * discount.toNat / 100)

/-- The price of one piece. -/
def exactPrice : Option Nat :=
  (svc.nowPrice itemID type).bind fun price =>
    if type = 5 then (svc.discount (svc.vip roleID)).map (discounted price) else some price.toNat

/-- Neither the discount nor the product of price and number leaves its thirty-two bits. -/
def ChargesExactly : Prop :=
  num = 0 ∨
    (type = 5 → ∀ price ∈ svc.nowPrice itemID type, ∀ discount ∈ svc.discount (svc.vip roleID),
      price.toNat * discount.toNat < 2 ^ 32) ∧
    ∀ price ∈ svc.exactPrice roleID type itemID, price * num.toNat < 2 ^ 31

/-- The purchase has taken the exact price and put the pieces into distinct free cells. -/
structure Sold (after : ShopSvc) (price : Nat) (rows : List DBBagItem) : Prop where
  bag : after.mainSvc.bag = svc.mainSvc.bag ++ rows
  owned : ∀ row ∈ rows, row.roleID = roleID ∧ row.itemID = itemID
  cells : (rows.map DBBagItem.cellIndex).Nodup
  free : ∀ row ∈ rows, svc.mainSvc.FreeCell roleID row.cellIndex
  total : piecesIn rows = num.toNat
  gold : after.gold = (svc.pay roleID type (price * num.toNat : Nat)).gold
  gift : after.gift = (svc.pay roleID type (price * num.toNat : Nat)).gift

/-- A refused purchase changes nothing, an accepted one is sold at its exact price, and a price of
all the vouchers is accepted. -/
structure Whole (after : ShopSvc) (code : UInt32) : Prop where
  bought : code ≠ 0 ∧ svc.Untouched after ∨
    code = 0 ∧ ∃ price ∈ svc.exactPrice roleID type itemID, ∃ rows,
      svc.Sold roleID type itemID num after price rows
  vouchers : type = 6 → svc.Sells roleID itemID num →
    ∀ price ∈ svc.exactPrice roleID type itemID,
      (price * num.toNat : Nat) = svc.gift roleID → code = 0

def BuysWhole : Prop :=
  ∃ after code, (ShopProgram.processBuyItem roleID type itemID num).run ShopStatement.execute svc =
    some (after, code) ∧ svc.Whole roleID type itemID num after code

/-- A purchase in category six does not cost all the vouchers. -/
def LeavesVouchers : Prop :=
  type = 6 → svc.Sells roleID itemID num → ∀ price ∈ svc.exactPrice roleID type itemID,
    (price * num.toNat : Nat) ≠ svc.gift roleID

/-- A covered purchase of an item that can be sold has cells with a number and an exact charge, and
one of another item is free of charge. -/
def Fair : Prop :=
  (∀ price ∈ svc.asked roleID type itemID num,
    svc.Covers roleID type (price * num.toUInt32) →
      (svc.Sells roleID itemID num →
        (∀ item ∈ svc.item itemID,
          (cellsWanted item num).toNat + (svc.mainSvc.selectBag roleID).length < 2 ^ 16) ∧
        svc.ChargesExactly roleID type itemID num) ∧
      (¬ svc.Sells roleID itemID num → price * num.toUInt32 = 0)) ∧
  svc.LeavesVouchers roleID type itemID num

end Prices

section Charges

variable {svc : ShopSvc} {roleID itemID price : UInt32} {type : UInt8} {num : UInt16}

theorem reduced_toNat (price discount : UInt32) :
    if price.toNat * discount.toNat < 2 ^ 32 then
      (reduced price discount).toNat = discounted price discount
    else (reduced price discount).toNat < discounted price discount := by
  have product : (price * discount / 100).toNat =
      price.toNat * discount.toNat % 2 ^ 32 / 100 := by
    rw [UInt32.toNat_div, UInt32.toNat_mul]
    rfl
  have zero : (0 : UInt32).toNat = 0 := rfl
  have one : (1 : UInt32).toNat = 1 := rfl
  unfold reduced discounted
  by_cases none : discount = 0
  · rw [if_neg (not_not.mpr none), if_pos none, none, zero, Nat.mul_zero]
    exact (if_pos (Nat.two_pow_pos 32)).mpr rfl
  · rw [if_pos none, if_neg none]
    have positive : price * discount / 100 > 0 ↔
        0 < price.toNat * discount.toNat % 2 ^ 32 / 100 := by
      rw [gt_iff_lt, UInt32.lt_iff_toNat_lt, product, zero]
    simp only [positive]
    split_ifs <;> omega

/-- A price that wrapped is below the exact one, so that only its product with zero is right. -/
theorem printed_charge_iff {fits : Prop} [Decidable fits] {exact : Nat}
    (wrapped : if fits then price.toNat = exact else price.toNat < exact) (num : UInt16) :
    printed (price * num.toUInt32) = (exact * num.toNat : Nat) ↔
      num = 0 ∨ fits ∧ exact * num.toNat < 2 ^ 31 := by
  have zero : num = 0 ↔ num.toNat = 0 := UInt16.toNat_inj.symm
  rw [zero]
  by_cases whole : fits
  · rw [if_pos whole] at wrapped
    rw [← wrapped, BagSvc.printed_price_iff, and_iff_right whole]
    constructor
    · exact .inr
    · rintro (none | small)
      · rw [none, Nat.mul_zero]
        exact Nat.two_pow_pos 31
      · exact small
  · rw [if_neg whole] at wrapped
    have wide : num.toUInt32.toNat = num.toNat := UInt16.toNat_toUInt32 num
    have value : (price * num.toUInt32).toNat = price.toNat * num.toNat % 2 ^ 32 := by
      rw [UInt32.toNat_mul, wide]
    have least := Nat.mod_le (price.toNat * num.toNat) (2 ^ 32)
    rw [printed_eq, value]
    by_cases none : num.toNat = 0
    · rw [none]
      exact iff_of_true rfl (.inl rfl)
    · have below : price.toNat * num.toNat < exact * num.toNat :=
        Nat.mul_lt_mul_of_pos_right wrapped (Nat.pos_of_ne_zero none)
      refine iff_of_false (fun same => ?_) fun either => either.elim none fun fits => whole fits.1
      split at same <;> omega

/-- The payment takes the exact price just where no thirty-two bits are left. -/
theorem exactPrice_of_asked {asked : UInt32}
    (asks : svc.asked roleID type itemID num = some asked) :
    ∃ price ∈ svc.exactPrice roleID type itemID,
      (printed (asked * num.toUInt32) = (price * num.toNat : Nat) ↔
        svc.ChargesExactly roleID type itemID num) := by
  obtain ⟨price, listed, asks⟩ := Option.bind_eq_some_iff.mp asks
  unfold exactPrice ChargesExactly
  simp only [listed, Option.bind_some, Option.mem_def, Option.some.injEq, forall_eq']
  by_cases reduced : type = 5
  · have other : ¬ (5 : UInt8) = 7 := by decide
    subst reduced
    rw [if_neg other, if_pos rfl] at asks
    obtain ⟨discount, found, rfl⟩ := Option.map_eq_some_iff.mp asks
    rw [if_pos rfl, found]
    refine ⟨_, rfl, (printed_charge_iff (reduced_toNat price discount) num).trans ?_⟩
    simp [exactPrice, listed, found]
  · have same : asked = price := by
      by_cases limited : type = 7
      · rw [if_pos limited] at asks
        obtain ⟨leftnum, -, asks⟩ := Option.bind_eq_some_iff.mp asks
        split_ifs at asks
        exact (Option.some.inj asks).symm
      · rw [if_neg limited, if_neg reduced] at asks
        exact (Option.some.inj asks).symm
    subst same
    have whole : if True then asked.toNat = asked.toNat else asked.toNat < asked.toNat :=
      (if_pos trivial).mpr rfl
    rw [if_neg reduced]
    refine ⟨_, rfl, (printed_charge_iff whole num).trans ?_⟩
    simp [exactPrice, listed, reduced]

end Charges

section Purchases

variable {svc after final : ShopSvc} {code roleID itemID : UInt32} {type : UInt8} {num : UInt16}

theorem pay_eq_iff (first second : Int) :
    (svc.pay roleID type first).gold = (svc.pay roleID type second).gold ∧
      (svc.pay roleID type first).gift = (svc.pay roleID type second).gift ↔ first = second := by
  constructor
  · rintro ⟨gold, gift⟩
    unfold pay at gold gift
    by_cases vouchers : type = 6
    · rw [if_pos vouchers, if_pos vouchers] at gift
      have same := congrFun gift roleID
      dsimp only at same
      rw [Function.update_self, Function.update_self] at same
      omega
    · rw [if_neg vouchers, if_neg vouchers] at gold
      have same := congrFun gold roleID
      dsimp only at same
      rw [Function.update_self, Function.update_self] at same
      omega
  · rintro rfl
    exact ⟨rfl, rfl⟩

theorem pay_zero (svc : ShopSvc) (roleID : UInt32) (type : UInt8) :
    svc.pay roleID type 0 = svc := by
  unfold pay
  rw [Int.sub_zero, Int.sub_zero, Function.update_eq_self, Function.update_eq_self]
  exact ite_self svc

theorem pay_mainSvc (svc : ShopSvc) (roleID : UInt32) (type : UInt8) (charge : Int) :
    (svc.pay roleID type charge).mainSvc = svc.mainSvc ∧
      (svc.pay roleID type charge).item = svc.item := by
  unfold pay
  split_ifs
  · exact ⟨rfl, rfl⟩
  · exact ⟨rfl, rfl⟩

theorem pay_sells_iff (charge : Int) :
    (svc.pay roleID type charge).Sells roleID itemID num ↔ svc.Sells roleID itemID num := by
  obtain ⟨main, item⟩ := pay_mainSvc svc roleID type charge
  unfold Sells
  rw [main, item]

theorem Untouched.symm (kept : svc.Untouched after) : after.Untouched svc :=
  ⟨kept.bag.symm, kept.gold.symm, kept.gift.symm⟩

theorem Whole.of_untouched (whole : svc.Whole roleID type itemID num after code)
    (kept : after.Untouched final) : svc.Whole roleID type itemID num final code where
  bought := by
    rcases whole.bought with ⟨refused, same⟩ | ⟨accepted, price, listed, rows, sold⟩
    · exact .inl ⟨refused, kept.bag.trans same.bag, kept.gold.trans same.gold,
        kept.gift.trans same.gift⟩
    · exact .inr ⟨accepted, price, listed, rows,
        { sold with
          bag := kept.bag.trans sold.bag
          gold := kept.gold.trans sold.gold
          gift := kept.gift.trans sold.gift }⟩
  vouchers := whole.vouchers

/-- The counters that are written behind the answer do not matter. -/
theorem buysWhole_iff (ran : (ShopProgram.buyItem roleID type itemID num).run
    ShopStatement.execute svc = some (after, code)) :
    svc.BuysWhole roleID type itemID num ↔ svc.Whole roleID type itemID num after code := by
  obtain ⟨final, finished, kept⟩ := ShopProgram.run_processBuyItem ran
  unfold BuysWhole
  constructor
  · rintro ⟨last, answer, same, whole⟩
    rw [finished] at same
    cases same
    exact whole.of_untouched kept.symm
  · exact fun whole => ⟨final, code, finished, whole.of_untouched kept⟩

/-- A price of all the vouchers is not covered. -/
theorem not_covers_of_all {price : UInt32} (listed : svc.asked roleID 6 itemID num = some price)
    {exact : Nat} (exactly : svc.exactPrice roleID 6 itemID = some exact)
    (all : (exact * num.toNat : Nat) = svc.gift roleID) :
    ¬ svc.Covers roleID 6 (price * num.toUInt32) := by
  have others : ¬ (6 : UInt8) = 7 ∧ ¬ (6 : UInt8) = 5 := by decide
  have wide : num.toUInt32.toNat = num.toNat := UInt16.toNat_toUInt32 num
  obtain ⟨stored, found, listed⟩ := Option.bind_eq_some_iff.mp listed
  rw [if_neg others.1, if_neg others.2] at listed
  obtain rfl := Option.some.inj listed
  unfold exactPrice at exactly
  rw [found, Option.bind_some, if_neg others.2] at exactly
  obtain rfl := Option.some.inj exactly
  have same : UInt32.ofInt (svc.gift roleID) = stored * num.toUInt32 := by
    apply UInt32.toNat.inj
    have value := toNat_ofInt_emod (svc.gift roleID)
    rw [← all] at value ⊢
    rw [UInt32.toNat_mul, wide]
    omega
  unfold Covers
  rw [if_pos rfl, same]
  exact UInt32.lt_irrefl _

theorem whole_refused_iff (wrong : code ≠ 0) :
    svc.Whole roleID type itemID num after code ↔
      svc.Untouched after ∧ svc.LeavesVouchers roleID type itemID num := by
  constructor
  · intro whole
    refine ⟨whole.bought.elim And.right fun sold => absurd sold.1 wrong, ?_⟩
    exact fun vouchers sells price listed all =>
      wrong (whole.vouchers vouchers sells price listed all)
  · rintro ⟨same, fair⟩
    exact ⟨.inl ⟨wrong, same⟩, fun vouchers sells price listed all =>
      absurd all (fair vouchers sells price listed)⟩

theorem whole_accepted_iff :
    svc.Whole roleID type itemID num after 0 ↔
      ∃ price ∈ svc.exactPrice roleID type itemID, ∃ rows,
        svc.Sold roleID type itemID num after price rows := by
  constructor
  · exact fun whole => whole.bought.elim (fun refused => absurd rfl refused.1) And.right
  · exact fun sold => ⟨.inr ⟨rfl, sold⟩, fun _ _ _ _ _ => rfl⟩

theorem untouched_pay_iff (charge : UInt32) :
    svc.Untouched (svc.pay roleID type (printed charge)) ↔ charge = 0 := by
  have zero : printed charge = 0 ↔ charge = 0 := by
    rw [printed_eq, ← UInt32.toNat_inj]
    have bound := charge.toNat_lt
    have none : (0 : UInt32).toNat = 0 := rfl
    split <;> omega
  have free := @pay_eq_iff svc roleID type (printed charge) 0
  rw [pay_zero] at free
  rw [← zero, ← free]
  exact ⟨fun same => ⟨same.gold, same.gift⟩,
    fun same => ⟨congrArg MainSvc.bag (pay_mainSvc ..).1, same.1, same.2⟩⟩

/-- The inserted rows lie in distinct free cells exactly when their cells have a number. -/
theorem sold_iff (formed : svc.mainSvc.BagWellFormed roleID) {item : Item} {numcell : UInt32}
    {entityID charge : UInt32} {price : Nat}
    (room : (cellsWanted item num).toNat + (svc.mainSvc.selectBag roleID).length ≤
      (svc.mainSvc.getRoleCellNum roleID).toNat)
    (counted : boughtFlag item = 2 → numcell.toNat = (cellsWanted item num).toNat)
    (bag : after.mainSvc.bag = svc.mainSvc.bag ++
      boughtRows roleID itemID item (boughtFlag item) num
        (svc.mainSvc.ifhassomany roleID (cellsWanted item num)).2 numcell entityID)
    (gold : after.gold = (svc.pay roleID type (printed charge)).gold)
    (gift : after.gift = (svc.pay roleID type (printed charge)).gift) :
    (∃ rows, svc.Sold roleID type itemID num after price rows) ↔
      (cellsWanted item num).toNat + (svc.mainSvc.selectBag roleID).length < 2 ^ 16 ∧
        printed charge = (price * num.toNat : Nat) := by
  have fits := (formed.hasRoom_iff (cellsWanted item num).toNat).mpr room
  have cells := @BagSvc.boughtRows_cells roleID itemID item (boughtFlag item) num
    (svc.mainSvc.ifhassomany roleID (cellsWanted item num)).2 numcell entityID
  have paid := @pay_eq_iff svc roleID type (printed charge) (price * num.toNat : Nat)
  rw [← BagSvc.ifhassomany_free_iff formed fits, ← paid, ← gold, ← gift]
  constructor
  · rintro ⟨rows, sold⟩
    obtain rfl := List.append_cancel_left (bag.symm.trans sold.bag)
    refine ⟨⟨cells ▸ sold.cells, fun index member => ?_⟩, sold.gold, sold.gift⟩
    rw [← cells] at member
    obtain ⟨row, listed, rfl⟩ := List.mem_map.mp member
    exact sold.free row listed
  · rintro ⟨⟨distinct, free⟩, goldSame, giftSame⟩
    refine ⟨_, bag, fun row member => ?_, cells.symm ▸ distinct, fun row member => ?_,
      BagSvc.boughtRows_total item entityID (MainSvc.ifhassomany_of_room formed fits).2.1 counted,
      goldSame, giftSame⟩
    · obtain ⟨owner, kind, -⟩ := BagSvc.boughtRows_mem member
      exact ⟨owner, kind⟩
    · apply free
      rw [← cells]
      exact List.mem_map_of_mem member

/-- A purchase is refused without a charge or delivered at its exact price if and only if it is
fair. -/
theorem processBuyItem_whole_iff (formed : svc.mainSvc.BagWellFormed roleID) :
    svc.BuysWhole roleID type itemID num ↔ svc.Fair roleID type itemID num := by
  obtain ⟨refusal, wrong, ran⟩ := @ShopProgram.run_buyItem roleID itemID num type svc
  unfold Fair
  cases asks : svc.asked roleID type itemID num with
  | none =>
      rw [asks] at ran
      rw [buysWhole_iff ran, whole_refused_iff wrong]
      exact and_congr_left' (iff_of_true ⟨rfl, rfl, rfl⟩ (by simp))
  | some price =>
      rw [asks] at ran
      simp only [Option.elim_some] at ran
      simp only [Option.mem_def, Option.some.injEq, forall_eq']
      by_cases covers : svc.Covers roleID type (price * num.toUInt32)
      · rw [if_pos covers] at ran
        rw [imp_iff_right covers]
        obtain ⟨main, items⟩ := pay_mainSvc svc roleID type (printed (price * num.toUInt32))
        have sells := @pay_sells_iff svc roleID itemID type num (printed (price * num.toUInt32))
        have vouchers : svc.LeavesVouchers roleID type itemID num := by
          rintro rfl - exact listed all
          exact not_covers_of_all asks listed all covers
        rw [and_iff_left vouchers]
        by_cases sold : svc.Sells roleID itemID num
        · rw [imp_iff_right sold, and_iff_left fun unsold => absurd sold unsold]
          obtain ⟨item, described, numcell, after, counted, -, room, delivered, bag, gold, gift⟩ :=
            ShopProgram.run_deliver_sold (main.symm ▸ formed) (sells.mpr sold)
          rw [main] at room bag
          rw [items] at described
          obtain ⟨exact, listed, charge⟩ := exactPrice_of_asked asks
          rw [buysWhole_iff (ran.trans delivered), whole_accepted_iff, ← charge]
          have single : (∃ price ∈ svc.exactPrice roleID type itemID, ∃ rows,
              svc.Sold roleID type itemID num after price rows) ↔
                ∃ rows, svc.Sold roleID type itemID num after exact rows := by
            rw [Option.mem_def.mp listed]
            simp
          rw [single, sold_iff formed room counted bag gold gift]
          refine and_congr_left' ?_
          rw [Option.mem_def.mp described]
          simp
        · obtain ⟨code, failed, delivered⟩ := ShopProgram.run_deliver_refused
            (main.symm ▸ formed) (mt sells.mp sold)
          rw [buysWhole_iff (ran.trans delivered), whole_refused_iff failed, untouched_pay_iff,
            and_iff_left vouchers, imp_iff_right sold]
          exact (and_iff_right fun there => absurd there sold).symm
      · rw [if_neg covers] at ran
        have code : (if type = 6 then noMuchGift else noMuchGold) ≠ 0 := by
          split_ifs <;> decide
        rw [buysWhole_iff ran, whole_refused_iff code]
        exact and_congr_left' (iff_of_true ⟨rfl, rfl, rfl⟩ fun paid => absurd paid covers)

end Purchases

section Examples

/-- Role 7 has an empty bag of 25 cells. A piece of item 2001 costs five and fills a cell. -/
def fairShop (gift gold : Int) : ShopSvc where
  mainSvc :=
    { mapRole := fun roleID => if roleID = 7 then some ⟨7, 25, .new⟩ else none
      bag := []
      roleMoney := fun _ => none
      bindStatus := fun _ => none }
  item itemID := if itemID = 2001 then some { Item.null with itemType := 5 } else none
  vip _ := 0
  nowPrice _ _ := some 5
  itemSellTotalNum _ _ := 0
  specialItem _ := none
  discount _ := none
  gift _ := gift
  gold _ := gold
  lastEntityID := 0

theorem fairShop_formed (gift gold : Int) : (fairShop gift gold).mainSvc.BagWellFormed 7 :=
  ⟨List.nodup_nil, fun _ member => nomatch member⟩

/-- Three pieces cost fifteen pieces of gold. -/
theorem processBuyItem_whole_three : (fairShop 0 20).BuysWhole 7 1 2001 3 := by
  refine (processBuyItem_whole_iff (fairShop_formed 0 20)).mpr ⟨?_, fun wrong => ?_⟩
  · rintro price listed -
    obtain rfl := Option.some.inj listed
    refine ⟨fun _ => ⟨fun item found => ?_, .inr ⟨fun wrong => ?_, fun exact listed => ?_⟩⟩,
      fun unsold => ?_⟩
    · obtain rfl := Option.some.inj found
      decide
    · exact absurd wrong (by decide)
    · obtain rfl := Option.some.inj listed
      decide
    · exact absurd ⟨_, rfl, by decide, by decide⟩ unsold
  · exact absurd wrong (by decide)

/-- Twenty-six pieces are paid and refused since there are too few cells, and a price of all the
vouchers is refused. -/
theorem processBuyItem_not_whole :
    ¬ (∀ (svc : ShopSvc) (roleID : UInt32) (type : UInt8) (itemID : UInt32) (num : UInt16),
        svc.mainSvc.BagWellFormed roleID → svc.BuysWhole roleID type itemID num) ∧
      ¬ (fairShop 15 0).BuysWhole 7 6 2001 3 := by
  constructor
  · intro all
    obtain ⟨after, code, ran, whole⟩ := all (fairShop 0 200) 7 1 2001 26 (fairShop_formed 0 200)
    cases ran
    rcases whole.bought with ⟨-, same⟩ | ⟨accepted, -⟩
    · exact absurd (congrFun same.gold 7) (by decide)
    · exact absurd accepted (by decide)
  · rintro ⟨after, code, ran, whole⟩
    cases ran
    exact absurd (whole.vouchers rfl ⟨_, rfl, by decide, by decide⟩ 5 rfl rfl) (by decide)

end Examples

end ShopSvc

end AppSvr.MainServer
