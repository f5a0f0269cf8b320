/-
This file proves when the exchange of money pays both offers.
-/

import AppSvr.Proof.MainServer.TradeSteps
import AppSvr.ToMathlib.TransitionSystem
import Mathlib.Algebra.Order.Ring.Int

namespace AppSvr.MainServer
open TransitionSystem

variable (first second : UInt32)

/-- Two values print with the same sign. -/
def SameSign : Prop := first.toNat < 2 ^ 31 ↔ second.toNat < 2 ^ 31

instance (first second : UInt32) : Decidable (SameSign first second) :=
  inferInstanceAs (Decidable (_ ↔ _))

theorem printed_eq (value : UInt32) : printed value =
    if value.toNat < 2 ^ 31 then (value.toNat : Int) else value.toNat - 2 ^ 32 := by
  rw [printed, BitVec.toInt_eq_toNat_cond, UInt32.toNat_toBitVec]
  have half : 2 * value.toNat < 2 ^ 32 ↔ value.toNat < 2 ^ 31 := by omega
  simp only [half]
  norm_cast

/-- The printed difference is the difference exactly for values of the same sign. -/
theorem printed_sub_iff : printed first - printed second = (first.toNat : Int) - second.toNat ↔
      SameSign first second := by
  have firstBound := first.toNat_lt
  have secondBound := second.toNat_lt
  rw [printed_eq, printed_eq, SameSign]
  split <;> split <;> omega

theorem SameSign.comm {first second : UInt32} : SameSign first second ↔ SameSign second first :=
  Iff.comm

theorem sub_eq_zero_iff : first - second = 0 ↔ first = second := by
  rw [UInt32.sub_eq_iff_eq_add, UInt32.zero_add]

/-- The balance changes by the two offers and does not become negative. -/
structure Paid (before after : RoleMoney) (received given : TradeItem) : Prop where
  money : after.money = before.money + received.tradeMoney.toNat - given.tradeMoney.toNat
  gold : after.gold = before.gold + received.tradeGold.toNat - given.tradeGold.toNat
  moneyNonneg : 0 ≤ after.money
  goldNonneg : 0 ≤ after.gold

/-- The balance and the received offer cover the given offer. -/
structure Covers (before : RoleMoney) (received given : TradeItem) : Prop where
  money : (given.tradeMoney.toNat : Int) ≤ before.money + received.tradeMoney.toNat
  gold : (given.tradeGold.toNat : Int) ≤ before.gold + received.tradeGold.toNat

/-- The statement for one row writes this balance. -/
def RoleMoney.pay (before : RoleMoney) (received given : TradeItem) : RoleMoney where
  money := before.money + printed received.tradeMoney - printed given.tradeMoney
  gold := before.gold + printed received.tradeGold - printed given.tradeGold

theorem paid_pay_iff (before : RoleMoney) (received given : TradeItem) :
    Paid before (before.pay received given) received given ↔
      (SameSign received.tradeMoney given.tradeMoney ∧
        SameSign received.tradeGold given.tradeGold) ∧ Covers before received given := by
  have money := printed_sub_iff received.tradeMoney given.tradeMoney
  have gold := printed_sub_iff received.tradeGold given.tradeGold
  rw [← money, ← gold]
  constructor
  · rintro ⟨paidMoney, paidGold, moneyNonneg, goldNonneg⟩
    simp only [RoleMoney.pay] at paidMoney paidGold moneyNonneg goldNonneg
    exact ⟨⟨by omega, by omega⟩, ⟨by omega, by omega⟩⟩
  · rintro ⟨⟨sameMoney, sameGold⟩, coversMoney, coversGold⟩
    refine ⟨?_, ?_, ?_, ?_⟩ <;> simp only [RoleMoney.pay] <;> omega

/-- An unchanged balance pays exactly two equal offers that it covers. -/
theorem paid_self_iff (before : RoleMoney) (received given : TradeItem) :
    Paid before before received given ↔
      (received.tradeMoney = given.tradeMoney ∧ received.tradeGold = given.tradeGold) ∧
        Covers before received given := by
  rw [← UInt32.toNat_inj, ← UInt32.toNat_inj]
  constructor
  · rintro ⟨paidMoney, paidGold, moneyNonneg, goldNonneg⟩
    exact ⟨⟨by omega, by omega⟩, ⟨by omega, by omega⟩⟩
  · rintro ⟨⟨sameMoney, sameGold⟩, coversMoney, coversGold⟩
    exact ⟨by omega, by omega, by omega, by omega⟩

namespace MainSvc

variable (svc : MainSvc)

/-- Message 1306 of the role reaches the exchange of money. -/
def ReachesTradeMoney (roleID : UInt32) : Prop :=
  let desRoleID := (svc.tradeInfo roleID).tradeRoleID
  let result := (svc.tradeItem roleID (svc.tradeInfo roleID).tradeCellIndex desRoleID
    (svc.tradeInfo desRoleID).tradeCellIndex).1
  svc.ReachesTradeItem roleID ∧ result ≠ 0 ∧ result ≠ -1

instance (svc : MainSvc) (roleID : UInt32) : Decidable (svc.ReachesTradeMoney roleID) :=
  inferInstanceAs (Decidable (_ ∧ _ ∧ _))

/-- Both roles are paid and the sums are preserved. -/
def MoneySafe (roleID : UInt32) : Prop :=
  let roleSelfInfo := svc.tradeInfo roleID
  let desRoleID := roleSelfInfo.tradeRoleID
  let desRoleInfo := svc.tradeInfo desRoleID
  let next := (svc.processTrade roleID).2
  ∃ before after desBefore desAfter,
    svc.roleMoney roleID = some before ∧ next.roleMoney roleID = some after ∧
    svc.roleMoney desRoleID = some desBefore ∧ next.roleMoney desRoleID = some desAfter ∧
    Paid before after desRoleInfo roleSelfInfo ∧ Paid desBefore desAfter roleSelfInfo desRoleInfo ∧
    after.money + desAfter.money = before.money + desBefore.money ∧
    after.gold + desAfter.gold = before.gold + desBefore.gold

theorem updateRoleMoney_congr {svc next : MainSvc} (same : next.roleMoney = svc.roleMoney)
    (roleID : UInt32) (received given : TradeItem) :
    (next.updateRoleMoney roleID received given).roleMoney =
      (svc.updateRoleMoney roleID received given).roleMoney := by
  simp only [updateRoleMoney, same]

/-- The exchange reads and writes only the table of balances. -/
theorem tradeMoney_congr {svc next : MainSvc} (same : next.roleMoney = svc.roleMoney)
    (lic1 lic2 : TradeItem) :
    (next.tradeMoney lic1 lic2).2.roleMoney = (svc.tradeMoney lic1 lic2).2.roleMoney := by
  unfold tradeMoney
  dsimp only
  split
  · exact same
  · exact updateRoleMoney_congr (updateRoleMoney_congr same _ _ _) _ _ _

/-- The whole message changes the balances as the exchange of money does. -/
theorem processTrade_roleMoney {svc : MainSvc} {roleID : UInt32}
    (reaches : svc.ReachesTradeMoney roleID) :
    (svc.processTrade roleID).2.roleMoney =
      (svc.tradeMoney (svc.tradeInfo roleID)
        (svc.tradeInfo (svc.tradeInfo roleID).tradeRoleID)).2.roleMoney := by
  obtain ⟨reaches, room, complete⟩ := reaches
  have items := tradeItem_onlyBag svc roleID (svc.tradeInfo roleID).tradeCellIndex
    (svc.tradeInfo roleID).tradeRoleID
    (svc.tradeInfo (svc.tradeInfo roleID).tradeRoleID).tradeCellIndex
  rw [processTrade_of_reaches svc reaches, settleTrade]
  dsimp only
  rw [if_neg room, if_neg complete, if_neg (not_not.mpr (tradeMoney_success ..)),
    ← tradeMoney_congr items.roleMoney]
  split
  · exact initTradeItem_roleMoney ..
  split
  · exact (initTradeItem_roleMoney ..).trans (initTradeItem_roleMoney ..)
  · exact (initTradeItem_roleMoney ..).trans (initTradeItem_roleMoney ..)

/-- Equal offers change no balance. -/
theorem tradeMoney_equal {lic1 lic2 : TradeItem}
    (money : lic1.tradeMoney = lic2.tradeMoney) (gold : lic1.tradeGold = lic2.tradeGold) :
    (svc.tradeMoney lic1 lic2).2 = svc := by
  simp [tradeMoney, money, gold]

/-- Different offers change the two rows that the records name. -/
theorem tradeMoney_different {lic1 lic2 : TradeItem}
    (different : ¬ (lic1.tradeMoney = lic2.tradeMoney ∧ lic1.tradeGold = lic2.tradeGold)) :
    (svc.tradeMoney lic1 lic2).2.roleMoney =
      let first := Function.update svc.roleMoney lic2.tradeRoleID
        ((svc.roleMoney lic2.tradeRoleID).map fun before => before.pay lic2 lic1)
      Function.update first lic1.tradeRoleID
        ((first lic1.tradeRoleID).map fun before => before.pay lic1 lic2) := by
  unfold tradeMoney
  dsimp only
  rw [if_neg]
  · rfl
  · rw [sub_eq_zero_iff, sub_eq_zero_iff]
    exact fun same => different same.symm

/-- The offers name each other or are equal, they print with the same sign, and they are covered. -/
structure OffersCovered (svc : MainSvc) (roleID : UInt32) (before desBefore : RoleMoney)
    (roleSelfInfo desRoleInfo : TradeItem) : Prop where
  named : roleSelfInfo.tradeMoney = desRoleInfo.tradeMoney ∧
    roleSelfInfo.tradeGold = desRoleInfo.tradeGold ∨ desRoleInfo.tradeRoleID = roleID
  money : SameSign roleSelfInfo.tradeMoney desRoleInfo.tradeMoney
  gold : SameSign roleSelfInfo.tradeGold desRoleInfo.tradeGold
  covers : Covers before desRoleInfo roleSelfInfo
  desCovers : Covers desBefore roleSelfInfo desRoleInfo

/-- Both roles have been paid in the later table. -/
def BothPaid (roleMoney : UInt32 → Option RoleMoney) (roleID : UInt32)
    (before desBefore : RoleMoney) (lic1 lic2 : TradeItem) : Prop :=
  ∃ after desAfter, roleMoney roleID = some after ∧ roleMoney lic1.tradeRoleID = some desAfter ∧
    Paid before after lic2 lic1 ∧ Paid desBefore desAfter lic1 lic2

theorem bothPaid_iff {roleMoney : UInt32 → Option RoleMoney} {roleID : UInt32}
    {before desBefore after desAfter : RoleMoney} {lic1 lic2 : TradeItem}
    (afterRow : roleMoney roleID = some after)
    (desAfterRow : roleMoney lic1.tradeRoleID = some desAfter) :
    BothPaid roleMoney roleID before desBefore lic1 lic2 ↔
      Paid before after lic2 lic1 ∧ Paid desBefore desAfter lic1 lic2 := by
  simp [BothPaid, afterRow, desAfterRow]

section Main

variable {svc : MainSvc} {roleID : UInt32} {before desBefore : RoleMoney} {lic1 lic2 : TradeItem}
  (row : svc.roleMoney roleID = some before)
  (desRow : svc.roleMoney lic1.tradeRoleID = some desBefore)
include row desRow

/-- Equal offers only have to be covered. -/
theorem bothPaid_iff_of_equal (money : lic1.tradeMoney = lic2.tradeMoney)
    (gold : lic1.tradeGold = lic2.tradeGold) :
    BothPaid (svc.tradeMoney lic1 lic2).2.roleMoney roleID before desBefore lic1 lic2 ↔
      svc.OffersCovered roleID before desBefore lic1 lic2 := by
  rw [tradeMoney_equal svc money gold, bothPaid_iff row desRow, paid_self_iff, paid_self_iff]
  constructor
  · rintro ⟨⟨-, covers⟩, -, desCovers⟩
    refine ⟨.inl ⟨money, gold⟩, ?_, ?_, covers, desCovers⟩
    · rw [money]
      exact Iff.rfl
    · rw [gold]
      exact Iff.rfl
  · intro covered
    exact ⟨⟨⟨money.symm, gold.symm⟩, covered.covers⟩, ⟨money, gold⟩, covered.desCovers⟩

/-- Offers that name each other also have to print with the same sign. -/
theorem bothPaid_iff_of_named (different : lic1.tradeRoleID ≠ roleID)
    (unequal : ¬ (lic1.tradeMoney = lic2.tradeMoney ∧ lic1.tradeGold = lic2.tradeGold))
    (named : lic2.tradeRoleID = roleID) :
    BothPaid (svc.tradeMoney lic1 lic2).2.roleMoney roleID before desBefore lic1 lic2 ↔
      svc.OffersCovered roleID before desBefore lic1 lic2 := by
  have table := tradeMoney_different svc unequal
  rw [named] at table
  have afterRow := congrFun table roleID
  have desAfterRow := congrFun table lic1.tradeRoleID
  simp only [Function.update_self, Function.update_of_ne different,
    Function.update_of_ne different.symm, row, desRow, Option.map_some] at afterRow desAfterRow
  rw [bothPaid_iff afterRow desAfterRow, paid_pay_iff, paid_pay_iff]
  constructor
  · rintro ⟨⟨-, covers⟩, ⟨money, gold⟩, desCovers⟩
    exact ⟨.inr named, money, gold, covers, desCovers⟩
  · rintro ⟨-, money, gold, covers, desCovers⟩
    exact ⟨⟨⟨SameSign.comm.mp money, SameSign.comm.mp gold⟩, covers⟩, ⟨money, gold⟩, desCovers⟩

/-- The exchange pays both roles exactly when the offers name each other or are equal, print with
the same sign, and are covered by the balances. -/
theorem tradeMoney_bothPaid_iff
    (apart : ¬ (lic1.tradeMoney = lic2.tradeMoney ∧ lic1.tradeGold = lic2.tradeGold) →
      lic1.tradeRoleID ≠ roleID) :
    BothPaid (svc.tradeMoney lic1 lic2).2.roleMoney roleID before desBefore lic1 lic2 ↔
      svc.OffersCovered roleID before desBefore lic1 lic2 := by
  by_cases equal : lic1.tradeMoney = lic2.tradeMoney ∧ lic1.tradeGold = lic2.tradeGold
  · exact bothPaid_iff_of_equal row desRow equal.1 equal.2
  by_cases named : lic2.tradeRoleID = roleID
  · exact bothPaid_iff_of_named row desRow (apart equal) equal named
  · -- a third role is paid, so the balance of this role stays
    refine iff_of_false ?_ fun covered => covered.named.elim equal named
    rintro ⟨after, desAfter, afterRow, -, paid, -⟩
    rw [tradeMoney_different svc equal] at afterRow
    dsimp only at afterRow
    rw [Function.update_of_ne (apart equal).symm, Function.update_of_ne (Ne.symm named),
      row] at afterRow
    obtain rfl := Option.some.inj afterRow
    obtain ⟨money, gold⟩ := ((paid_self_iff ..).mp paid).1
    exact equal ⟨money.symm, gold.symm⟩

end Main

/-- The exchange of money is safe exactly when the offers name each other or are equal, print with
the same sign, and are covered by the balances. -/
theorem trade_moneySafe_iff {svc : MainSvc} {roleID : UInt32} {before desBefore : RoleMoney}
    (reaches : svc.ReachesTradeMoney roleID)
    (row : svc.roleMoney roleID = some before)
    (desRow : svc.roleMoney (svc.tradeInfo roleID).tradeRoleID = some desBefore) :
    svc.MoneySafe roleID ↔
      svc.OffersCovered roleID before desBefore (svc.tradeInfo roleID)
        (svc.tradeInfo (svc.tradeInfo roleID).tradeRoleID) := by
  rw [← tradeMoney_bothPaid_iff row desRow, ← processTrade_roleMoney reaches]
  · constructor
    · rintro ⟨before', after, desBefore', desAfter, row', afterRow, desRow', desAfterRow, paid,
        desPaid, -⟩
      obtain rfl := Option.some.inj (row.symm.trans row')
      obtain rfl := Option.some.inj (desRow.symm.trans desRow')
      exact ⟨after, desAfter, afterRow, desAfterRow, paid, desPaid⟩
    · -- the sums follow from the two payments
      rintro ⟨after, desAfter, afterRow, desAfterRow, paid, desPaid⟩
      refine ⟨before, after, desBefore, desAfter, row, afterRow, desRow, desAfterRow, paid, desPaid,
        ?_, ?_⟩
      · rw [paid.money, desPaid.money]
        omega
      · rw [paid.gold, desPaid.gold]
        omega
  · intro unequal same
    rw [same] at unequal
    exact unequal ⟨rfl, rfl⟩

/-- Role one offers twenty coins and role two offers five. -/
theorem trade_moneySafe_small : ∃ history svc,
    Run MainSvc.step anyEvent traders history svc ∧ svc.MoneySafe 2 := by
  obtain ⟨history, svc, reached, ready⟩ := exists_run_of_replay MainSvc.step anyEvent traders
    (lockBoth 20 5 ++ [.trade 1]) (fun _ svc => svc.ReachesTradeMoney 2 ∧
      svc.tradeInfo 2 = ⟨1, 1, 1, 0, 5, 0, []⟩ ∧ svc.tradeInfo 1 = ⟨1, 2, 1, 1, 20, 0, []⟩ ∧
      svc.roleMoney 2 = some ⟨100, 100⟩ ∧ svc.roleMoney 1 = some ⟨100, 100⟩)
    (by decide +kernel)
  obtain ⟨reaches, own, des, row, desRow⟩ := of_decide_eq_true ready
  have partner : (svc.tradeInfo 2).tradeRoleID = 1 := by rw [own]
  refine ⟨history, svc, reached, ?_⟩
  have safe := trade_moneySafe_iff reaches row (by rw [partner]; exact desRow)
  rw [partner, own, des] at safe
  exact safe.mpr ⟨.inr rfl, by decide, by decide, ⟨by decide, by decide⟩, by decide, by decide⟩

/-- Role one offers more coins than a signed number can print and receives a coin. -/
theorem trade_not_moneySafe :
    ¬ ∀ (start : MainSvc) (history : History MainSvc Message) (svc : MainSvc), start.Start →
      Run MainSvc.step anyEvent start history svc →
        ∀ roleID before desBefore, svc.ReachesTradeMoney roleID →
          (svc.tradeInfo roleID).tradeRoleID ≠ roleID → svc.roleMoney roleID = some before →
          svc.roleMoney (svc.tradeInfo roleID).tradeRoleID = some desBefore →
            svc.MoneySafe roleID := by
  intro claim
  obtain ⟨history, svc, reached, ready⟩ := exists_run_of_replay MainSvc.step anyEvent traders
    (lockBoth 4294967295 0 ++ [.trade 1]) (fun _ svc => svc.ReachesTradeMoney 2 ∧
      svc.tradeInfo 2 = ⟨1, 1, 1, 0, 0, 0, []⟩ ∧ svc.roleMoney 2 = some ⟨100, 100⟩ ∧
      svc.roleMoney 1 = some ⟨100, 100⟩ ∧ (svc.processTrade 2).2.roleMoney 1 = some ⟨101, 100⟩)
    (by decide +kernel)
  obtain ⟨reaches, own, row, desRow, paidRow⟩ := of_decide_eq_true ready
  have partner : (svc.tradeInfo 2).tradeRoleID = 1 := by rw [own]
  have safe := claim traders history svc traders_start reached 2 _ _ reaches
    (by rw [partner]; decide) row (by rw [partner]; exact desRow)
  obtain ⟨-, -, before, after, -, -, desRow', afterRow, -, paid, -⟩ := safe
  rw [partner] at desRow' afterRow paid
  obtain rfl := Option.some.inj (desRow.symm.trans desRow')
  obtain rfl := Option.some.inj (paidRow.symm.trans afterRow)
  -- the offer is not negative, but the balance of its giver grew
  have money := paid.money
  rw [own] at money
  simp only [UInt32.toNat_zero] at money
  omega

end MainSvc

end AppSvr.MainServer
