/-
This file proves when a trade with a failing statement settles completely or changes nothing.
-/

import AppSvr.Proof.MainServer.ItemSettlement
import AppSvr.Proof.MainServer.MoneyExchange

namespace AppSvr.MainServer.MainSvc
open TransitionSystem

section Faultless

variable (svc : MainSvc) (roleID : UInt32)

theorem getAllToBagUnder_none (own : Bool) (place : Nat) (cells : List UInt16)
    (items : List DBBagItem) :
    svc.getAllToBagUnder none own roleID place cells items = svc.getAllToBag roleID cells items := by
  induction cells generalizing svc items place with
  | nil => rfl
  | cons cell cells ih =>
      cases items with
      | nil => rfl
      | cons item items =>
          rw [getAllToBagUnder, getAllToBag, ih]
          rfl

theorem tradeItemUnder_none (cell : List UInt16) (toRoleID : UInt32) (cell1 : List UInt16) :
    svc.tradeItemUnder none roleID cell toRoleID cell1 =
      some (svc.tradeItem roleID cell toRoleID cell1) := by
  simp only [tradeItemUnder, findRoomUnder, ifhassomanyUnder, Option.bind_some, Option.map_some]
  unfold tradeItem
  by_cases full : (svc.ifhassomany roleID (UInt16.ofNat cell1.length)).1 = 0
  · simp only [full, true_or, if_true, Option.map_some]
  by_cases full2 : (svc.ifhassomany toRoleID (UInt16.ofNat cell.length)).1 = 0
  · simp only [full2, or_true, if_true, if_neg full, Option.map_some]
  · simp only [full, full2, or_self, if_false, Option.map_some, moveItemsUnder,
      deletefromBagUnder, reduceCtorEq, getAllToBagUnder_none]

/-- Without a failing statement, the handler is the one of the messages. -/
theorem processTradeUnder_none :
    svc.processTradeUnder none roleID = some (svc.processTrade roleID) := by
  have money (svc : MainSvc) (lic1 lic2 : TradeItem) :
      svc.tradeMoneyUnder none lic1 lic2 = svc.tradeMoney lic1 lic2 := by
    simp only [tradeMoneyUnder, reduceCtorEq, if_false]
    rfl
  have settle (desRoleID : UInt32) :
      svc.settleTradeUnder none roleID desRoleID = some (svc.settleTrade roleID desRoleID) := by
    simp only [settleTradeUnder, tradeItemUnder_none, money, Option.map_some]
    rfl
  simp only [processTradeUnder, processTrade, settle, apply_ite some]

end Faultless

section Money

variable {fault : Option TradeStatement} {svc : MainSvc} {roleID : UInt32}
  {before : RoleMoney} {lic1 lic2 : TradeItem}

/-- The two offers are the same. -/
def EqualOffers (lic1 lic2 : TradeItem) : Prop :=
  lic1.tradeMoney = lic2.tradeMoney ∧ lic1.tradeGold = lic2.tradeGold

/-- No statement for the money is needed, or none fails. -/
def MoneyRuns (fault : Option TradeStatement) (lic1 lic2 : TradeItem) : Prop :=
  EqualOffers lic1 lic2 ∨ ∀ own, fault ≠ some (.updateRoleMoney own)

theorem tradeMoneyUnder_of_runs (runs : MoneyRuns fault lic1 lic2) :
    svc.tradeMoneyUnder fault lic1 lic2 = svc.tradeMoney lic1 lic2 := by
  unfold tradeMoneyUnder tradeMoney
  dsimp only
  split_ifs with equal first second
  · rfl
  · rw [sub_eq_zero_iff, sub_eq_zero_iff] at equal
    exact absurd first (runs.resolve_left (mt And.symm equal) true)
  · rw [sub_eq_zero_iff, sub_eq_zero_iff] at equal
    exact absurd second (runs.resolve_left (mt And.symm equal) false)
  · rfl

/-- A failing second update keeps the first one. -/
def unpaid (fault : Option TradeStatement) (svc : MainSvc) (lic1 lic2 : TradeItem) : MainSvc :=
  if fault = some (.updateRoleMoney true) then svc
  else svc.updateRoleMoney lic2.tradeRoleID lic2 lic1

theorem unpaid_bag : (svc.unpaid fault lic1 lic2).bag = svc.bag := by
  unfold unpaid
  split_ifs <;> rfl

theorem unpaid_mapRole : (svc.unpaid fault lic1 lic2).mapRole = svc.mapRole := by
  unfold unpaid
  split_ifs <;> rfl

theorem unpaid_congr {next : MainSvc} (same : next.roleMoney = svc.roleMoney) :
    (next.unpaid fault lic1 lic2).roleMoney = (svc.unpaid fault lic1 lic2).roleMoney := by
  unfold unpaid
  split_ifs
  · exact same
  · exact updateRoleMoney_congr same _ _ _

theorem tradeMoneyUnder_of_fails (fails : ¬ MoneyRuns fault lic1 lic2) :
    svc.tradeMoneyUnder fault lic1 lic2 = (-1, svc.unpaid fault lic1 lic2) := by
  obtain ⟨differ, some_fails⟩ := not_or.mp fails
  obtain ⟨own, fail⟩ := not_forall_not.mp some_fails
  have different : ¬ (lic1.tradeGold - lic2.tradeGold = 0 ∧
      lic1.tradeMoney - lic2.tradeMoney = 0) := by
    rw [sub_eq_zero_iff, sub_eq_zero_iff]
    exact mt And.symm differ
  unfold tradeMoneyUnder unpaid
  dsimp only
  rw [if_neg different]
  cases own with
  | true => rw [if_pos fail, if_pos fail]
  | false =>
      subst fail
      simp

theorem printed_injective {first second : UInt32} (same : printed first = printed second) :
    first = second := by
  rw [← UInt32.toBitVec_inj]
  exact BitVec.toInt_inj.mp same

/-- Different offers change a paid balance. -/
theorem pay_eq_self_iff :
    before.pay lic2 lic1 = before ↔ EqualOffers lic1 lic2 := by
  constructor
  · intro same
    have money := congrArg RoleMoney.money same
    have gold := congrArg RoleMoney.gold same
    simp only [RoleMoney.pay] at money gold
    exact ⟨printed_injective (by omega), printed_injective (by omega)⟩
  · rintro ⟨money, gold⟩
    simp [RoleMoney.pay, money, gold]

/-- An update for different offers changes the row of its role. -/
theorem updateRoleMoney_row_iff (differ : ¬ EqualOffers lic1 lic2) {other : UInt32}
    (row : svc.roleMoney other = some before) :
    (svc.updateRoleMoney roleID lic2 lic1).roleMoney other = svc.roleMoney other ↔
      roleID ≠ other := by
  by_cases same : roleID = other
  · subst same
    refine iff_of_false (fun stays => differ ?_) (not_not.mpr rfl)
    simp only [updateRoleMoney, Function.update_self, row, Option.map_some] at stays
    exact pay_eq_self_iff.mp (Option.some.inj stays)
  · refine iff_of_true ?_ same
    exact Function.update_of_ne (Ne.symm same) _ _

end Money

section Settle

variable {fault : Option TradeStatement} {svc next : MainSvc} {roleID : UInt32}
  {before desBefore : RoleMoney} {lic lic2 : List UInt16}

/-- The offers have changed their owners, and both records are fresh again. -/
structure Settled (svc next : MainSvc) (roleID : UInt32) (before desBefore : RoleMoney) :
    Prop where
  items : svc.ItemsSettled next roleID (svc.tradeInfo roleID).tradeCellIndex
    (svc.tradeInfo roleID).tradeRoleID
    (svc.tradeInfo (svc.tradeInfo roleID).tradeRoleID).tradeCellIndex
  money : BothPaid next.roleMoney roleID before desBefore (svc.tradeInfo roleID)
    (svc.tradeInfo (svc.tradeInfo roleID).tradeRoleID)
  record : next.tradeInfo roleID = .new
  desRecord : next.tradeInfo (svc.tradeInfo roleID).tradeRoleID = .new

/-- Both bags and both balances are what they were. -/
structure Untouched (svc next : MainSvc) (roleID : UInt32) : Prop where
  bag : next.bag.Perm svc.bag
  row : next.roleMoney roleID = svc.roleMoney roleID
  desRow : next.roleMoney (svc.tradeInfo roleID).tradeRoleID =
    svc.roleMoney (svc.tradeInfo roleID).tradeRoleID

/-- The confirmation returns and settles the whole trade, or it fails and changes nothing. -/
def SettlesOrStops (fault : Option TradeStatement) (svc : MainSvc) (roleID : UInt32)
    (before desBefore : RoleMoney) : Prop :=
  ∃ retCode next, svc.processTradeUnder fault roleID = some (retCode, next) ∧
    (svc.Settled next roleID before desBefore ∨ retCode ≠ 0 ∧ svc.Untouched next roleID)

theorem processTradeUnder_of_reaches (reaches : svc.ReachesTradeItem roleID) :
    svc.processTradeUnder fault roleID =
      svc.settleTradeUnder fault roleID (svc.tradeInfo roleID).tradeRoleID := by
  obtain ⟨⟨online, desOnline, locked, desLocked⟩, confirmed⟩ := reaches
  simp [processTradeUnder, online, desOnline, locked, desLocked, confirmed]

/-- A failure leaves the locks in the records. -/
theorem not_settled_of_same (reaches : svc.ReachesTradeItem roleID)
    (same : next.mapRole = svc.mapRole) : ¬ svc.Settled next roleID before desBefore := by
  intro settled
  have record := settled.record
  rw [tradeInfo_congr same] at record
  have locked := reaches.1.locked
  rw [record] at locked
  exact absurd locked (by decide)

/-- With one result, the claim is about this result. -/
theorem settlesOrStops_iff {retCode : UInt32}
    (result : svc.processTradeUnder fault roleID = some (retCode, next)) :
    svc.SettlesOrStops fault roleID before desBefore ↔
      svc.Settled next roleID before desBefore ∨ retCode ≠ 0 ∧ svc.Untouched next roleID := by
  simp [SettlesOrStops, result]

/-- A failed confirmation has to leave bags and balances alone. -/
theorem settlesOrStops_of_failed (reaches : svc.ReachesTradeItem roleID)
    (result : svc.processTradeUnder fault roleID = some (errAppData, next))
    (same : next.mapRole = svc.mapRole) :
    svc.SettlesOrStops fault roleID before desBefore ↔ svc.Untouched next roleID := by
  rw [settlesOrStops_iff result, or_iff_right (not_settled_of_same reaches same),
    and_iff_right (by decide)]

theorem initTradeItem_online (other : UInt32) :
    (svc.initTradeItem roleID).2.isOffline other ↔ svc.isOffline other := by
  apply SameOnline.isOffline
  unfold initTradeItem
  dsimp only
  split <;> exact setTradeInfo_sameOnline svc .new roleID

/-- Both records are cleared after the money. -/
theorem clear_both (reaches : svc.ReachesTradeItem roleID) (same : next.mapRole = svc.mapRole) :
    (next.initTradeItem roleID).1 = 0 ∧
      ((next.initTradeItem roleID).2.initTradeItem (svc.tradeInfo roleID).tradeRoleID).1 = 0 := by
  have online : ¬ next.isOffline roleID := mt (isOffline_congr same roleID).mp reaches.1.online
  have desOnline : ¬ next.isOffline (svc.tradeInfo roleID).tradeRoleID :=
    mt (isOffline_congr same _).mp reaches.1.desOnline
  obtain ⟨role, found⟩ := mapRole_of_online online
  obtain ⟨desRole, desFound⟩ := mapRole_of_online (mt (initTradeItem_online _).mp desOnline)
  exact ⟨initTradeItem_of_some next roleID found, initTradeItem_of_some _ _ desFound⟩

/-- Paid offers leave two fresh records. -/
theorem settle_of_paid (reaches : svc.ReachesTradeItem roleID) {moved paid : MainSvc}
    (items : svc.tradeItemUnder fault roleID (svc.tradeInfo roleID).tradeCellIndex
      (svc.tradeInfo roleID).tradeRoleID
      (svc.tradeInfo (svc.tradeInfo roleID).tradeRoleID).tradeCellIndex = some (1, moved))
    (money : moved.tradeMoneyUnder fault (svc.tradeInfo roleID)
      (svc.tradeInfo (svc.tradeInfo roleID).tradeRoleID) = (0, paid))
    (same : paid.mapRole = svc.mapRole) :
    ∃ next, svc.processTradeUnder fault roleID = some (0, next) ∧ next.bag = paid.bag ∧
      next.roleMoney = paid.roleMoney ∧ next.tradeInfo roleID = .new ∧
      next.tradeInfo (svc.tradeInfo roleID).tradeRoleID = .new := by
  obtain ⟨cleared, desCleared⟩ := clear_both reaches same
  rw [processTradeUnder_of_reaches reaches, settleTradeUnder]
  dsimp only
  rw [items, Option.map_some]
  dsimp only
  rw [money]
  dsimp only
  rw [if_neg (by decide), if_neg (by decide), if_neg (not_not.mpr rfl),
    if_neg (not_not.mpr cleared), if_neg (not_not.mpr desCleared)]
  refine ⟨_, rfl, ?_, ?_, ?_, ?_⟩
  · simp
  · exact (initTradeItem_roleMoney ..).trans (initTradeItem_roleMoney ..)
  · rw [initTradeItem_both, Function.update_apply, Function.update_self, ite_self]
  · rw [initTradeItem_both, Function.update_self]

/-- Unpaid offers leave the records. -/
theorem settle_of_unpaid (reaches : svc.ReachesTradeItem roleID) {moved paid : MainSvc}
    (items : svc.tradeItemUnder fault roleID (svc.tradeInfo roleID).tradeCellIndex
      (svc.tradeInfo roleID).tradeRoleID
      (svc.tradeInfo (svc.tradeInfo roleID).tradeRoleID).tradeCellIndex = some (1, moved))
    (money : moved.tradeMoneyUnder fault (svc.tradeInfo roleID)
      (svc.tradeInfo (svc.tradeInfo roleID).tradeRoleID) = (-1, paid)) :
    svc.processTradeUnder fault roleID = some (errAppData, paid) := by
  rw [processTradeUnder_of_reaches reaches, settleTradeUnder]
  dsimp only
  rw [items, Option.map_some]
  dsimp only
  rw [money]
  rfl

/-- Items that did not move end the exchange. -/
theorem settle_of_failed (reaches : svc.ReachesTradeItem roleID) {moved : MainSvc} {iRet : Int}
    (items : svc.tradeItemUnder fault roleID (svc.tradeInfo roleID).tradeCellIndex
      (svc.tradeInfo roleID).tradeRoleID
      (svc.tradeInfo (svc.tradeInfo roleID).tradeRoleID).tradeCellIndex = some (iRet, moved))
    (failed : iRet = 0 ∨ iRet = -1) :
    svc.processTradeUnder fault roleID = some (errAppData, moved) := by
  rw [processTradeUnder_of_reaches reaches, settleTradeUnder]
  dsimp only
  rw [items, Option.map_some]
  rcases failed with rfl | rfl <;> rfl

end Settle

variable (fault : Option TradeStatement)

/-- The money is not paid, and no statement before the failing one changes a row of the roles. -/
def UnpaidAlone (roleID : UInt32) (lic1 lic2 : TradeItem) : Prop :=
  ¬ EqualOffers lic1 lic2 ∧ (fault = some (.updateRoleMoney true) ∨
    fault = some (.updateRoleMoney false) ∧ lic2.tradeRoleID ≠ roleID ∧
      lic2.tradeRoleID ≠ lic1.tradeRoleID)

/-- The search for room, as the confirmation makes it. -/
def searchUnder (svc : MainSvc) (roleID : UInt32)
    (lic1 lic2 : TradeItem) : Option (Option (List UInt16 × List UInt16)) :=
  svc.findRoomUnder fault roleID (UInt16.ofNat lic2.tradeCellIndex.length) lic1.tradeRoleID
    (UInt16.ofNat lic1.tradeCellIndex.length)

/-- The exchange fails before it changes a row of the two roles. -/
def StopsEarly (svc : MainSvc) (roleID : UInt32) (lic1 lic2 : TradeItem) : Prop :=
  Stuck fault true svc roleID lic1.tradeCellIndex ∨
    UInt16.ofNat lic1.tradeCellIndex.length = 0 ∧
      Stuck fault false svc lic1.tradeRoleID lic2.tradeCellIndex ∨
    NoItems lic1.tradeCellIndex lic2.tradeCellIndex ∧ UnpaidAlone fault roleID lic1 lic2

variable {fault : Option TradeStatement}

variable {svc : MainSvc} {roleID : UInt32}

/-- The rows of the two roles stay exactly when the update that succeeded is for a third role. -/
theorem unpaidAlone_iff
    {before desBefore : RoleMoney} {lic1 lic2 : TradeItem} (fails : ¬ MoneyRuns fault lic1 lic2)
    (row : svc.roleMoney roleID = some before)
    (desRow : svc.roleMoney lic1.tradeRoleID = some desBefore) :
    ((svc.unpaid fault lic1 lic2).roleMoney roleID = svc.roleMoney roleID ∧
        (svc.unpaid fault lic1 lic2).roleMoney lic1.tradeRoleID =
          svc.roleMoney lic1.tradeRoleID) ↔ UnpaidAlone fault roleID lic1 lic2 := by
  obtain ⟨differ, some_fails⟩ := not_or.mp fails
  obtain ⟨own, fail⟩ := not_forall_not.mp some_fails
  rw [UnpaidAlone, and_iff_right differ, fail, unpaid]
  cases own with
  | true => simp
  | false =>
      have second : ¬ some (TradeStatement.updateRoleMoney false) =
          some (.updateRoleMoney true) := by decide
      rw [if_neg second, updateRoleMoney_row_iff differ row, updateRoleMoney_row_iff differ desRow,
        or_iff_right second, and_iff_right rfl]

/-- Both sides deliver into the cells that were found, and both offers are covered. -/
structure RunsThrough (fault : Option TradeStatement) (svc : MainSvc) (roleID : UInt32)
    (before desBefore : RoleMoney) (lic1 lic2 : TradeItem) (lic desLic : List UInt16) : Prop where
  delivers : Delivers fault true svc roleID lic1.tradeCellIndex lic1.tradeRoleID desLic
  desDelivers : Delivers fault false svc lic1.tradeRoleID lic2.tradeCellIndex roleID lic
  moneyRuns : MoneyRuns fault lic1 lic2
  covered : svc.OffersCovered roleID before desBefore lic1 lic2

theorem tradeItemUnder_of_search {svc next : MainSvc}
    {roleID toRoleID : UInt32} {cell cell1 lic lic2 : List UInt16} {iRet : Int}
    (search : svc.findRoomUnder fault roleID (UInt16.ofNat cell1.length) toRoleID
      (UInt16.ofNat cell.length) = some (some (lic, lic2)))
    (items : svc.moveItemsUnder fault roleID cell lic toRoleID cell1 lic2 = (iRet, next)) :
    svc.tradeItemUnder fault roleID cell toRoleID cell1 = some (iRet, next) := by
  rw [tradeItemUnder, search]
  exact congrArg some items

theorem found_of_search {roleID toRoleID : UInt32} {cell cell1 lic lic2 : List UInt16}
    (search : svc.findRoomUnder fault roleID (UInt16.ofNat cell1.length) toRoleID
      (UInt16.ofNat cell.length) = some (some (lic, lic2))) :
    Found cell1 lic ∧ Found cell lic2 := by
  obtain ⟨⟨room, found, enough⟩, room2, found2, enough2⟩ := findRoomUnder_some search
  exact ⟨ifhassomanyUnder_length found enough, ifhassomanyUnder_length found2 enough2⟩

/-- A failing update leaves the searches alone. -/
theorem search_free {roleID toRoleID : UInt32}
    {size1 size2 : UInt16} {lic lic2 : List UInt16} {own : Bool}
    (fail : fault = some (.updateRoleMoney own))
    (small : (svc.getRoleCellNum roleID).toNat < 2 ^ 16)
    (toSmall : (svc.getRoleCellNum toRoleID).toNat < 2 ^ 16)
    (few : size1.toNat ≤ 1) (few2 : size2.toNat ≤ 1)
    (search : svc.findRoomUnder fault roleID size2 toRoleID size1 = some (some (lic, lic2))) :
    (∀ index ∈ lic, index ∉ (svc.selectBag roleID).map DBBagItem.cellIndex) ∧
      ∀ index ∈ lic2, index ∉ (svc.selectBag toRoleID).map DBBagItem.cellIndex := by
  have runs (own : Bool) (garbage : Bool) : fault ≠ some (.selectBag own garbage) := by
    rw [fail]
    simp
  obtain ⟨⟨room, found, enough⟩, room2, found2, enough2⟩ := findRoomUnder_some search
  exact ⟨ifhassomanyUnder_free (runs true) small few2 found enough,
    ifhassomanyUnder_free (runs false) toSmall few found2 enough2⟩

theorem matches_of_zero {cell : List UInt16}
    (size : UInt16.ofNat cell.length = 0) : svc.Matches roleID cell := by
  rw [Matches, taken_eq_nil size, size]
  rfl

theorem UnpaidAlone.not_runs {lic1 lic2 : TradeItem} (unpaid : UnpaidAlone fault roleID lic1 lic2) :
    ¬ MoneyRuns fault lic1 lic2 := by
  rintro (equal | runs)
  · exact unpaid.1 equal
  · exact unpaid.2.elim (runs true) fun second => runs false second.1

theorem stopsEarly_iff
    {lic1 lic2 : TradeItem} (free : ¬ Stuck fault true svc roleID lic1.tradeCellIndex)
    (free1 : ¬ Stuck fault false svc lic1.tradeRoleID lic2.tradeCellIndex) :
    svc.StopsEarly fault roleID lic1 lic2 ↔
      NoItems lic1.tradeCellIndex lic2.tradeCellIndex ∧ UnpaidAlone fault roleID lic1 lic2 := by
  rw [StopsEarly, or_iff_right free, or_iff_right fun second => free1 second.2]

section Failed

variable {fault : Option TradeStatement} {svc : MainSvc} {roleID : UInt32}
  {before desBefore : RoleMoney} {lic1 lic2 : TradeItem} {lic desLic : List UInt16}
  (reaches : svc.ReachesTradeItem roleID)
  (own : svc.tradeInfo roleID = lic1) (des : svc.tradeInfo lic1.tradeRoleID = lic2)
  (different : lic1.tradeRoleID ≠ roleID)
  (search : svc.searchUnder fault roleID lic1 lic2 = some (some (lic, desLic)))
  (free : ¬ Stuck fault true svc roleID lic1.tradeCellIndex)
include reaches own des different search free

/-- After the own items are deleted, a missing item of the partner is too late. -/
theorem settlesOrStops_of_second
    (stuck1 : Stuck fault false svc lic1.tradeRoleID lic2.tradeCellIndex) :
    svc.SettlesOrStops fault roleID before desBefore ↔ svc.StopsEarly fault roleID lic1 lic2 := by
  subst own des
  have items := tradeItemUnder_of_search search
    (moveItemsUnder_of_second lic desLic different.symm free stuck1)
  rw [settlesOrStops_of_failed reaches (settle_of_failed reaches items (.inr rfl))
    leftover_onlyBag.mapRole, StopsEarly, or_iff_right free, and_iff_left stuck1,
    or_iff_left fun none => stuck1.1 none.1.2]
  constructor
  · intro untouched
    by_contra size
    exact absurd untouched.bag.length_eq (Nat.ne_of_lt (leftover_length_lt free size))
  · intro size
    rw [leftover_eq_self size]
    exact ⟨.refl _, rfl, rfl⟩

/-- More items than the deletion has read are lost. -/
theorem not_settlesOrStops_of_mismatch
    (free1 : ¬ Stuck fault false svc lic1.tradeRoleID lic2.tradeCellIndex)
    (mismatch : ¬ (svc.Matches roleID lic1.tradeCellIndex ∧
      svc.Matches lic1.tradeRoleID lic2.tradeCellIndex)) :
    ¬ svc.SettlesOrStops fault roleID before desBefore := by
  subst own des
  have items := tradeItemUnder_of_search search
    (moveItemsUnder_of_mismatch lic desLic different.symm free free1 mismatch)
  rw [settlesOrStops_of_failed reaches (settle_of_failed reaches items (.inr rfl))
    (leftover_onlyBag.trans leftover_onlyBag).mapRole]
  intro untouched
  have same := untouched.bag.length_eq
  have free2 : ¬ Stuck fault false (svc.leftover roleID (svc.tradeInfo roleID).tradeCellIndex)
      _ _ :=
    mt (stuck_leftover different.symm).mp free1
  by_cases size : UInt16.ofNat (svc.tradeInfo roleID).tradeCellIndex.length = 0
  · have size1 : UInt16.ofNat
        (svc.tradeInfo (svc.tradeInfo roleID).tradeRoleID).tradeCellIndex.length ≠ 0 :=
      fun size1 => mismatch ⟨matches_of_zero size, matches_of_zero size1⟩
    have second := leftover_length_lt free2 size1
    rw [same] at second
    exact absurd second (not_lt.mpr leftover_length)
  · have first := leftover_length_lt free size
    rw [← same] at first
    exact absurd first (not_lt.mpr leftover_length)

end Failed

section Main

variable {fault : Option TradeStatement} {svc : MainSvc} {roleID : UInt32}
  {before desBefore : RoleMoney} {lic1 lic2 : TradeItem} {lic desLic : List UInt16}
  (reaches : svc.ReachesTradeItem roleID)
  (own : svc.tradeInfo roleID = lic1) (des : svc.tradeInfo lic1.tradeRoleID = lic2)
  (different : lic1.tradeRoleID ≠ roleID)
  (row : svc.roleMoney roleID = some before)
  (desRow : svc.roleMoney lic1.tradeRoleID = some desBefore)
include reaches own des different row desRow

/-- Paid offers settle exactly when both sides deliver and the offers are covered. -/
theorem settlesOrStops_of_paid
    (search : svc.searchUnder fault roleID lic1 lic2 = some (some (lic, desLic)))
    (free : ¬ Stuck fault true svc roleID lic1.tradeCellIndex)
    (free1 : ¬ Stuck fault false svc lic1.tradeRoleID lic2.tradeCellIndex)
    (same : svc.Matches roleID lic1.tradeCellIndex)
    (same1 : svc.Matches lic1.tradeRoleID lic2.tradeCellIndex)
    (runs : MoneyRuns fault lic1 lic2) :
    svc.SettlesOrStops fault roleID before desBefore ↔
      svc.RunsThrough fault roleID before desBefore lic1 lic2 lic desLic := by
  subst own des
  obtain ⟨found, desFound⟩ := found_of_search search
  obtain ⟨moved, items, onlyBag, bag⟩ :=
    moveItemsUnder_of_matches lic desLic different.symm free free1 same same1
  have exchanged := tradeItemUnder_of_search search items
  have money : moved.tradeMoneyUnder fault (svc.tradeInfo roleID)
      (svc.tradeInfo (svc.tradeInfo roleID).tradeRoleID) = (0, _) :=
    (tradeMoneyUnder_of_runs runs).trans (Prod.ext (tradeMoney_success ..) rfl)
  obtain ⟨next, result, nextBag, nextMoney, record, desRecord⟩ := settle_of_paid reaches exchanged
    money ((tradeMoney_mapRole ..).trans onlyBag.mapRole)
  rw [tradeMoney_bag, bag] at nextBag
  rw [tradeMoney_congr onlyBag.roleMoney] at nextMoney
  have settledItems := itemsSettled_iff different.symm nextBag free free1 same same1 desFound found
  have paid : BothPaid next.roleMoney roleID before desBefore (svc.tradeInfo roleID)
      (svc.tradeInfo (svc.tradeInfo roleID).tradeRoleID) ↔ svc.OffersCovered roleID before
        desBefore (svc.tradeInfo roleID) (svc.tradeInfo (svc.tradeInfo roleID).tradeRoleID) := by
    rw [nextMoney]
    exact tradeMoney_bothPaid_iff row desRow fun _ => different
  rw [settlesOrStops_iff result, or_iff_left fun failed => failed.1 rfl]
  constructor
  · intro settled
    obtain ⟨delivers, desDelivers⟩ := settledItems.mp settled.items
    exact ⟨delivers, desDelivers, runs, paid.mp settled.money⟩
  · intro through
    exact ⟨settledItems.mpr ⟨through.delivers, through.desDelivers⟩, paid.mpr through.covered,
      record, desRecord⟩

/-- Unpaid offers stop exactly when no item has moved and no row of the two roles has changed. -/
theorem settlesOrStops_of_unpaid (small : (svc.getRoleCellNum roleID).toNat < 2 ^ 16)
    (desSmall : (svc.getRoleCellNum lic1.tradeRoleID).toNat < 2 ^ 16)
    (search : svc.searchUnder fault roleID lic1 lic2 = some (some (lic, desLic)))
    (free : ¬ Stuck fault true svc roleID lic1.tradeCellIndex)
    (free1 : ¬ Stuck fault false svc lic1.tradeRoleID lic2.tradeCellIndex)
    (same : svc.Matches roleID lic1.tradeCellIndex)
    (same1 : svc.Matches lic1.tradeRoleID lic2.tradeCellIndex)
    (fails : ¬ MoneyRuns fault lic1 lic2) :
    svc.SettlesOrStops fault roleID before desBefore ↔
      NoItems lic1.tradeCellIndex lic2.tradeCellIndex ∧ UnpaidAlone fault roleID lic1 lic2 := by
  subst own des
  obtain ⟨found, desFound⟩ := found_of_search search
  obtain ⟨moved, items, onlyBag, bag⟩ :=
    moveItemsUnder_of_matches lic desLic different.symm free free1 same same1
  have exchanged := tradeItemUnder_of_search search items
  have result := settle_of_unpaid reaches exchanged (tradeMoneyUnder_of_fails fails)
  obtain ⟨side, fail⟩ := not_forall_not.mp (not_or.mp fails).2
  have rows := unpaidAlone_iff fails row desRow
  rw [← unpaid_congr onlyBag.roleMoney] at rows
  have inserts (own : Bool) : fault ≠ some (.insertBag own 0) := by
    rw [fail]
    simp
  obtain ⟨cells, desCells⟩ :=
    search_free fail small desSmall same.size_le same1.size_le search
  have items := movedBag_perm_iff inserts same same1 desFound found desCells cells
  rw [← bag] at items
  rw [settlesOrStops_of_failed reaches result (unpaid_mapRole.trans onlyBag.mapRole), ← items,
    ← rows]
  constructor
  · intro untouched
    have sameBag := untouched.bag
    rw [unpaid_bag] at sameBag
    exact ⟨sameBag, untouched.row, untouched.desRow⟩
  · rintro ⟨sameBag, row, desRow⟩
    refine ⟨?_, row, desRow⟩
    rw [unpaid_bag]
    exact sameBag

/-- Found cells let the exchange begin. -/
theorem settlesOrStops_of_search (small : (svc.getRoleCellNum roleID).toNat < 2 ^ 16)
    (desSmall : (svc.getRoleCellNum lic1.tradeRoleID).toNat < 2 ^ 16)
    (search : svc.searchUnder fault roleID lic1 lic2 = some (some (lic, desLic))) :
    svc.SettlesOrStops fault roleID before desBefore ↔
      svc.StopsEarly fault roleID lic1 lic2 ∨
        svc.RunsThrough fault roleID before desBefore lic1 lic2 lic desLic := by
  by_cases stuck : Stuck fault true svc roleID lic1.tradeCellIndex
  · refine iff_of_true ?_ (.inl (.inl stuck))
    subst own des
    have items := tradeItemUnder_of_search search (moveItemsUnder_of_stuck lic desLic stuck)
    exact (settlesOrStops_of_failed reaches (settle_of_failed reaches items (.inr rfl)) rfl).mpr
      ⟨.refl _, rfl, rfl⟩
  by_cases stuck1 : Stuck fault false svc lic1.tradeRoleID lic2.tradeCellIndex
  · rw [or_iff_left fun through => through.desDelivers.free_of_stuck stuck1]
    exact settlesOrStops_of_second reaches own des different search stuck stuck1
  rw [stopsEarly_iff stuck stuck1]
  by_cases same : svc.Matches roleID lic1.tradeCellIndex ∧
      svc.Matches lic1.tradeRoleID lic2.tradeCellIndex
  · by_cases runs : MoneyRuns fault lic1 lic2
    · rw [or_iff_right fun unpaid => unpaid.2.not_runs runs]
      exact settlesOrStops_of_paid reaches own des different row desRow search stuck stuck1 same.1
        same.2 runs
    · rw [or_iff_left fun through => runs through.moneyRuns]
      exact settlesOrStops_of_unpaid reaches own des different row desRow small desSmall search
        stuck stuck1 same.1 same.2 runs
  · refine iff_of_false
      (not_settlesOrStops_of_mismatch reaches own des different search stuck stuck1 same) ?_
    rintro (⟨none, -⟩ | through)
    · exact same ⟨matches_of_zero none.1, matches_of_zero none.2⟩
    · exact same ⟨through.delivers.matches, through.desDelivers.matches⟩

end Main

/-- Role one owns two items, and both roles have a hundred coins. -/
def holders : MainSvc := { traders with bag := twoItems.bag }

theorem holders_start : holders.Start := traders_start

/-- Role one offers twenty coins and these cells, role two offers five coins, and role one
confirms. -/
def agree (cell : List UInt16) : List Message :=
  [.answerTrade 2 (some (1, 1)), .lockTrade 1 (some (2, 20, 0, cell)),
    .lockTrade 2 (some (1, 5, 0, [])), .trade 1]

end AppSvr.MainServer.MainSvc
