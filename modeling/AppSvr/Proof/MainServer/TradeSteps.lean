/-
This file proves what one trade message does to the trade records.
-/

import AppSvr.Construction.MainServer.TradeSvc

namespace AppSvr.MainServer.MainSvc

/-- An online role is in the map. -/
theorem mapRole_of_online {svc : MainSvc} {roleID : UInt32} (online : ¬ svc.isOffline roleID) :
    ∃ role, svc.mapRole roleID = some role := by
  cases found : svc.mapRole roleID with
  | none =>
      refine absurd ?_ online
      rw [isOffline, processGetRolePtr, found]
      rfl
  | some role => exact ⟨role, rfl⟩

/-- The states have the same roles online. -/
def SameOnline (svc next : MainSvc) : Prop :=
  ∀ roleID, (next.processGetRolePtr roleID).id = (svc.processGetRolePtr roleID).id

section SetTradeInfo

variable (svc : MainSvc) (item : TradeItem) (roleID : UInt32)

/-- The setter succeeds exactly for a role in the map. -/
theorem setTradeInfo_of_some {role : Role} (found : svc.mapRole roleID = some role) :
    (svc.setTradeInfo item roleID).1 = 0 ∧
      (svc.setTradeInfo item roleID).2.tradeInfo = Function.update svc.tradeInfo roleID item := by
  rw [setTradeInfo, found]
  refine ⟨rfl, funext fun other => ?_⟩
  by_cases same : other = roleID
  · simp [tradeInfo, processGetRolePtr, same]
  · simp [tradeInfo, processGetRolePtr, Function.update_of_ne same]

theorem setTradeInfo_of_none (absent : svc.mapRole roleID = none) :
    svc.setTradeInfo item roleID = (-1, svc) := by
  rw [setTradeInfo, absent]

theorem setTradeInfo_sameOnline : svc.SameOnline (svc.setTradeInfo item roleID).2 := by
  intro other
  cases found : svc.mapRole roleID with
  | none => rw [setTradeInfo_of_none svc item roleID found]
  | some role =>
      rw [setTradeInfo, found]
      by_cases same : other = roleID
      · simp [processGetRolePtr, same, found]
      · simp [processGetRolePtr, Function.update_of_ne same]

theorem setTradeInfo_roleMoney : (svc.setTradeInfo item roleID).2.roleMoney = svc.roleMoney := by
  unfold setTradeInfo
  split <;> rfl

@[simp] theorem setTradeInfo_bag : (svc.setTradeInfo item roleID).2.bag = svc.bag := by
  unfold setTradeInfo
  split <;> rfl

@[simp] theorem initTradeItem_bag : (svc.initTradeItem roleID).2.bag = svc.bag := by
  unfold initTradeItem
  dsimp only
  split <;> simp

theorem initTradeItem_roleMoney : (svc.initTradeItem roleID).2.roleMoney = svc.roleMoney := by
  have same := setTradeInfo_roleMoney svc .new roleID
  unfold initTradeItem
  dsimp only
  split <;> exact same

/-- Clearing a record gives the fresh record, also for a role outside the map. -/
theorem initTradeItem_tradeInfo :
    (svc.initTradeItem roleID).2.tradeInfo = Function.update svc.tradeInfo roleID .new := by
  cases found : svc.mapRole roleID with
  | none =>
      have fresh : svc.tradeInfo roleID = .new := by
        rw [tradeInfo, processGetRolePtr, found]
        rfl
      rw [initTradeItem, setTradeInfo_of_none svc _ roleID found, ← fresh, Function.update_eq_self]
      rfl
  | some role =>
      obtain ⟨success, info⟩ := setTradeInfo_of_some svc .new roleID found
      rw [initTradeItem]
      simp [success, info]

theorem initTradeItem_both (desRoleID : UInt32) :
    ((svc.initTradeItem roleID).2.initTradeItem desRoleID).2.tradeInfo =
      Function.update (Function.update svc.tradeInfo roleID .new) desRoleID .new := by
  rw [initTradeItem_tradeInfo, initTradeItem_tradeInfo]

theorem initTradeItem_of_some {role : Role} (found : svc.mapRole roleID = some role) :
    (svc.initTradeItem roleID).1 = 0 := by
  rw [initTradeItem]
  simp [(setTradeInfo_of_some svc .new roleID found).1]

end SetTradeInfo

theorem SameOnline.isOffline {svc next : MainSvc} (same : svc.SameOnline next) (roleID : UInt32) :
    next.isOffline roleID ↔ svc.isOffline roleID := by
  rw [MainSvc.isOffline, MainSvc.isOffline, same roleID]

/-- An online role always takes its new record. -/
theorem setTradeInfo_of_online {svc : MainSvc} {roleID : UInt32} (online : ¬ svc.isOffline roleID)
    (item : TradeItem) : (svc.setTradeInfo item roleID).1 = 0 ∧
      (svc.setTradeInfo item roleID).2.tradeInfo = Function.update svc.tradeInfo roleID item := by
  obtain ⟨role, found⟩ := mapRole_of_online online
  exact setTradeInfo_of_some svc item roleID found

/-- The role accepts a request that its target does not already count as accepted. -/
structure Accepts (svc : MainSvc) (roleID id : UInt32) : Prop where
  different : id ≠ roleID
  online : ¬ svc.isOffline roleID
  desOnline : ¬ svc.isOffline id
  free : (svc.tradeInfo id).isOnTrade ≠ 1 ∨ (svc.tradeInfo id).tradeRoleID ≠ roleID

/-- The role locks an offer to its partner. -/
structure Locks (svc : MainSvc) (roleID id : UInt32) : Prop where
  different : id ≠ roleID
  online : ¬ svc.isOffline roleID
  engaged : (svc.tradeInfo roleID).isOnTrade = 1
  partner : (svc.tradeInfo roleID).tradeRoleID = id

instance (svc : MainSvc) (roleID id : UInt32) : Decidable (svc.Accepts roleID id) :=
  decidable_of_iff (id ≠ roleID ∧ ¬ svc.isOffline roleID ∧ ¬ svc.isOffline id ∧
    ((svc.tradeInfo id).isOnTrade ≠ 1 ∨ (svc.tradeInfo id).tradeRoleID ≠ roleID))
    ⟨fun ⟨different, online, desOnline, free⟩ => ⟨different, online, desOnline, free⟩,
      fun accepts => ⟨accepts.different, accepts.online, accepts.desOnline, accepts.free⟩⟩

instance (svc : MainSvc) (roleID id : UInt32) : Decidable (svc.Locks roleID id) :=
  decidable_of_iff (id ≠ roleID ∧ ¬ svc.isOffline roleID ∧
    (svc.tradeInfo roleID).isOnTrade = 1 ∧ (svc.tradeInfo roleID).tradeRoleID = id)
    ⟨fun ⟨different, online, engaged, partner⟩ => ⟨different, online, engaged, partner⟩,
      fun locks => ⟨locks.different, locks.online, locks.engaged, locks.partner⟩⟩

/-- The role and its partner are online and locked. -/
structure BothLocked (svc : MainSvc) (roleID : UInt32) : Prop where
  online : ¬ svc.isOffline roleID
  desOnline : ¬ svc.isOffline (svc.tradeInfo roleID).tradeRoleID
  locked : (svc.tradeInfo roleID).isLockTrade = 1
  desLocked : (svc.tradeInfo (svc.tradeInfo roleID).tradeRoleID).isLockTrade = 1

instance (svc : MainSvc) (roleID : UInt32) : Decidable (svc.BothLocked roleID) :=
  decidable_of_iff (¬ svc.isOffline roleID ∧
    ¬ svc.isOffline (svc.tradeInfo roleID).tradeRoleID ∧
    (svc.tradeInfo roleID).isLockTrade = 1 ∧
    (svc.tradeInfo (svc.tradeInfo roleID).tradeRoleID).isLockTrade = 1)
    ⟨fun ⟨online, desOnline, locked, desLocked⟩ => ⟨online, desOnline, locked, desLocked⟩,
      fun both => ⟨both.online, both.desOnline, both.locked, both.desLocked⟩⟩

variable (svc : MainSvc) (roleID : UInt32)

/-- The confirmation waits for the partner. -/
def Waits : Prop :=
  svc.BothLocked roleID ∧ (svc.tradeInfo (svc.tradeInfo roleID).tradeRoleID).isTrade ≠ 1

/-- The confirmation reaches the exchange. -/
def ReachesTradeItem : Prop :=
  svc.BothLocked roleID ∧ (svc.tradeInfo (svc.tradeInfo roleID).tradeRoleID).isTrade = 1

instance (svc : MainSvc) (roleID : UInt32) : Decidable (svc.ReachesTradeItem roleID) :=
  inferInstanceAs (Decidable (_ ∧ _))

/-- One message changes the trade records in one of these ways. -/
inductive TradeEffect (svc : MainSvc) : Message → (UInt32 → TradeItem) → Prop where
  | unchanged (message : Message) : TradeEffect svc message svc.tradeInfo
  | accepted {roleID id : UInt32} (accepts : svc.Accepts roleID id) :
      TradeEffect svc (.answerTrade roleID (some (id, 1)))
        (Function.update (Function.update svc.tradeInfo id ((svc.tradeInfo id).engage roleID))
          roleID ((svc.tradeInfo roleID).engage id))
  | locked {roleID id : UInt32} (money gold : UInt32) (lic : List UInt16)
      (locks : svc.Locks roleID id) :
      TradeEffect svc (.lockTrade roleID (some (id, money, gold, lic)))
        (Function.update svc.tradeInfo roleID ((svc.tradeInfo roleID).lock money gold lic))
  | confirmed {roleID : UInt32} (waits : svc.Waits roleID) :
      TradeEffect svc (.trade roleID)
        (Function.update svc.tradeInfo roleID (svc.tradeInfo roleID).confirm)
  | settled {roleID : UInt32} (reaches : svc.ReachesTradeItem roleID) :
      TradeEffect svc (.trade roleID)
        (Function.update (Function.update svc.tradeInfo roleID .new)
          (svc.tradeInfo roleID).tradeRoleID .new)
  | cancelled {roleID : UInt32} (desRoleID : UInt32)
      (engaged : (svc.tradeInfo roleID).isOnTrade = 1) :
      TradeEffect svc (.cancelTrade roleID (some desRoleID))
        (Function.update (Function.update svc.tradeInfo roleID .new) desRoleID .new)

@[simp] theorem engage_eq (item : TradeItem) (id : UInt32) :
    (if item.isOnTrade ≠ 1 ∨ item.tradeRoleID ≠ id then item.engage id else item) =
      item.engage id := by
  split
  · rfl
  · rename_i engaged
    obtain ⟨onTrade, partner⟩ := not_or.mp engaged
    rw [TradeItem.engage, ← not_not.mp onTrade, ← not_not.mp partner]

/-- An accepted request engages both roles. -/
theorem acceptTrade_tradeInfo {svc : MainSvc} {roleID id : UInt32}
    (accepts : svc.Accepts roleID id) : (svc.acceptTrade roleID id).2.tradeInfo =
      Function.update (Function.update svc.tradeInfo id ((svc.tradeInfo id).engage roleID))
        roleID ((svc.tradeInfo roleID).engage id) := by
  have first := setTradeInfo_of_online accepts.desOnline ((svc.tradeInfo id).engage roleID)
  have same := setTradeInfo_sameOnline svc ((svc.tradeInfo id).engage roleID) id
  have second := setTradeInfo_of_online (mt (same.isOffline roleID).mp accepts.online)
    ((svc.tradeInfo roleID).engage id)
  simp only [acceptTrade, if_neg accepts.desOnline, if_pos accepts.free, first.1, engage_eq,
    second.1, ne_eq, not_true_eq_false, if_false, second.2, first.2]

theorem acceptTrade_refused {svc : MainSvc} {roleID id : UInt32} (different : id ≠ roleID)
    (online : ¬ svc.isOffline roleID) (refused : ¬ svc.Accepts roleID id) :
    (svc.acceptTrade roleID id).2 = svc := by
  unfold acceptTrade
  dsimp only
  split
  · rfl
  rename_i desOnline
  split
  · rename_i free
    exact absurd ⟨different, online, desOnline, free⟩ refused
  · rfl

theorem processAnswerTrade_effect (body : Option (UInt32 × UInt8)) :
    svc.TradeEffect (.answerTrade roleID body)
      (svc.processAnswerTrade roleID body).2.tradeInfo := by
  unfold processAnswerTrade
  split
  · exact .unchanged _
  rename_i id type
  by_cases different : id = roleID
  · rw [if_pos different]
    exact .unchanged _
  rw [if_neg different]
  split
  · exact .unchanged _
  by_cases offline : svc.isOffline roleID
  · rw [if_pos offline]
    exact .unchanged _
  rw [if_neg offline]
  by_cases accept : type = 1
  · obtain rfl := accept
    rw [if_pos rfl]
    by_cases accepts : svc.Accepts roleID id
    · rw [acceptTrade_tradeInfo accepts]
      exact .accepted accepts
    · rw [acceptTrade_refused different offline accepts]
      exact .unchanged _
  · rw [if_neg accept]
    exact .unchanged _

theorem processLockTrade_effect (body : Option (UInt32 × UInt32 × UInt32 × List UInt16)) :
    svc.TradeEffect (.lockTrade roleID body) (svc.processLockTrade roleID body).2.tradeInfo := by
  unfold processLockTrade
  split
  · exact .unchanged _
  rename_i id money gold lic
  by_cases different : id = roleID
  · rw [if_pos different]
    exact .unchanged _
  rw [if_neg different]
  by_cases offline : svc.isOffline roleID
  · rw [if_pos offline]
    exact .unchanged _
  rw [if_neg offline]
  dsimp only
  by_cases apart : (svc.tradeInfo roleID).isOnTrade ≠ 1 ∨ (svc.tradeInfo roleID).tradeRoleID ≠ id
  · rw [if_pos apart]
    exact .unchanged _
  obtain ⟨engaged, partner⟩ := not_or.mp apart
  obtain ⟨success, info⟩ :=
    setTradeInfo_of_online offline ((svc.tradeInfo roleID).lock money gold lic)
  simp only [if_neg apart, success, ne_eq, not_true_eq_false, if_false, info]
  exact .locked money gold lic ⟨different, offline, not_not.mp engaged, not_not.mp partner⟩

theorem processCancelTrade_effect (body : Option UInt32) :
    svc.TradeEffect (.cancelTrade roleID body)
      (svc.processCancelTrade roleID body).2.tradeInfo := by
  unfold processCancelTrade
  split
  · exact .unchanged _
  rename_i desRoleID
  by_cases offline : svc.isOffline roleID
  · rw [if_pos offline]
    exact .unchanged _
  rw [if_neg offline]
  by_cases engaged : (svc.tradeInfo roleID).isOnTrade = 1
  · obtain ⟨role, found⟩ := mapRole_of_online offline
    have success := initTradeItem_of_some svc roleID found
    have info := initTradeItem_both svc roleID desRoleID
    simp only [engaged, success, ne_eq, not_true_eq_false, if_false]
    split
    · rw [info]
      exact .cancelled desRoleID engaged
    · rw [info]
      exact .cancelled desRoleID engaged
  · rw [if_pos engaged]
    exact .unchanged _

section Exchange

theorem tradeInfo_congr {svc next : MainSvc} (same : next.mapRole = svc.mapRole) :
    next.tradeInfo = svc.tradeInfo := by
  funext roleID
  rw [tradeInfo, tradeInfo, processGetRolePtr, processGetRolePtr, same]

theorem isOffline_congr {svc next : MainSvc} (same : next.mapRole = svc.mapRole)
    (roleID : UInt32) : next.isOffline roleID ↔ svc.isOffline roleID := by
  rw [isOffline, isOffline, processGetRolePtr, processGetRolePtr, same]

variable (svc : MainSvc)

/-- The bag functions write only the table `Bag`. -/
structure OnlyBag (next : MainSvc) : Prop where
  mapRole : next.mapRole = svc.mapRole
  roleMoney : next.roleMoney = svc.roleMoney
  bindStatus : next.bindStatus = svc.bindStatus

theorem OnlyBag.refl : svc.OnlyBag svc := ⟨rfl, rfl, rfl⟩

variable {svc}

theorem OnlyBag.trans {next final : MainSvc} (first : svc.OnlyBag next)
    (second : next.OnlyBag final) : svc.OnlyBag final :=
  ⟨second.mapRole.trans first.mapRole, second.roleMoney.trans first.roleMoney,
    second.bindStatus.trans first.bindStatus⟩

variable (svc)

variable (roleID : UInt32) (lic1 lic2 : TradeItem)

theorem deletefromBag_onlyBag (cell : List UInt16) (bagitem : List DBBagItem) :
    svc.OnlyBag (svc.deletefromBag roleID cell bagitem).2.1 := by
  unfold deletefromBag
  split
  · exact .refl svc
  · exact ⟨rfl, rfl, rfl⟩

theorem getAllToBag_onlyBag (cells : List UInt16) (items : List DBBagItem) :
    svc.OnlyBag (svc.getAllToBag roleID cells items) := by
  induction cells generalizing svc items with
  | nil => exact .refl svc
  | cons cell cells ih =>
      cases items with
      | nil => exact .refl svc
      | cons item items =>
          have first : svc.OnlyBag (svc.getToBag roleID cell item) := ⟨rfl, rfl, rfl⟩
          exact first.trans (ih _ items)

theorem tradeItem_onlyBag (cell : List UInt16) (toRoleID : UInt32)
    (cell1 : List UInt16) : svc.OnlyBag (svc.tradeItem roleID cell toRoleID cell1).2 := by
  have deleted (current : MainSvc) (size : UInt16) (owner : UInt32) (cells : List UInt16) :
      current.OnlyBag (if size ≠ 0 then current.deletefromBag owner cells []
        else (1, current, [])).2.1 := by
    split
    · exact deletefromBag_onlyBag current owner cells []
    · exact .refl current
  unfold tradeItem
  dsimp only
  split
  · exact .refl svc
  have first := deleted svc (UInt16.ofNat cell.length) roleID cell
  generalize (if UInt16.ofNat cell.length ≠ 0 then svc.deletefromBag roleID cell []
    else (1, svc, [])) = result at first ⊢
  split
  · exact first
  have second := first.trans (deleted result.2.1 (UInt16.ofNat cell1.length) toRoleID cell1)
  generalize (if UInt16.ofNat cell1.length ≠ 0 then result.2.1.deletefromBag toRoleID cell1 []
    else (1, result.2.1, [])) = result2 at second ⊢
  split
  · exact second
  split
  · exact second
  · exact (second.trans (getAllToBag_onlyBag _ _ _ _)).trans (getAllToBag_onlyBag _ _ _ _)

theorem tradeMoney_success : (svc.tradeMoney lic1 lic2).1 = 0 := by
  unfold tradeMoney
  dsimp only
  split <;> rfl

@[simp] theorem tradeMoney_bag : (svc.tradeMoney lic1 lic2).2.bag = svc.bag := by
  unfold tradeMoney
  dsimp only
  split <;> rfl

theorem tradeMoney_mapRole : (svc.tradeMoney lic1 lic2).2.mapRole = svc.mapRole := by
  unfold tradeMoney
  dsimp only
  split <;> rfl

/-- A failed exchange keeps both records, and a finished one clears them. -/
theorem settleTrade_tradeInfo {roleID : UInt32} (desRoleID : UInt32)
    (online : ¬ svc.isOffline roleID) :
    (svc.settleTrade roleID desRoleID).2.tradeInfo = svc.tradeInfo ∨
      (svc.settleTrade roleID desRoleID).2.tradeInfo =
        Function.update (Function.update svc.tradeInfo roleID .new) desRoleID .new := by
  have items := tradeItem_onlyBag svc roleID (svc.tradeInfo roleID).tradeCellIndex desRoleID
    (svc.tradeInfo desRoleID).tradeCellIndex
  unfold settleTrade
  dsimp only
  generalize svc.tradeItem roleID (svc.tradeInfo roleID).tradeCellIndex desRoleID
    (svc.tradeInfo desRoleID).tradeCellIndex = result at items ⊢
  split
  · exact .inl (tradeInfo_congr items.mapRole)
  split
  · exact .inl (tradeInfo_congr items.mapRole)
  have paid := tradeMoney_mapRole result.2 (svc.tradeInfo roleID) (svc.tradeInfo desRoleID)
  rw [items.mapRole] at paid
  rw [if_neg (not_not.mpr (tradeMoney_success ..))]
  generalize (result.2.tradeMoney (svc.tradeInfo roleID) (svc.tradeInfo desRoleID)).2 = next
    at paid ⊢
  obtain ⟨role, found⟩ := mapRole_of_online (mt (isOffline_congr paid roleID).mp online)
  have cleared := initTradeItem_both next roleID desRoleID
  rw [tradeInfo_congr paid] at cleared
  rw [if_neg (not_not.mpr (initTradeItem_of_some next roleID found))]
  split
  · exact .inr cleared
  · exact .inr cleared

theorem processTrade_of_reaches {roleID : UInt32} (reaches : svc.ReachesTradeItem roleID) :
    svc.processTrade roleID = svc.settleTrade roleID (svc.tradeInfo roleID).tradeRoleID := by
  obtain ⟨⟨online, desOnline, locked, desLocked⟩, confirmed⟩ := reaches
  simp [processTrade, online, desOnline, locked, desLocked, confirmed]

theorem processTrade_effect :
    svc.TradeEffect (.trade roleID) (svc.processTrade roleID).2.tradeInfo := by
  by_cases both : svc.BothLocked roleID
  · by_cases confirmed : (svc.tradeInfo (svc.tradeInfo roleID).tradeRoleID).isTrade = 1
    · rw [processTrade_of_reaches svc ⟨both, confirmed⟩]
      rcases settleTrade_tradeInfo svc (svc.tradeInfo roleID).tradeRoleID both.online with
        same | cleared
      · rw [same]
        exact .unchanged _
      · rw [cleared]
        exact .settled ⟨both, confirmed⟩
    · obtain ⟨success, info⟩ :=
        setTradeInfo_of_online both.online (svc.tradeInfo roleID).confirm
      simp only [processTrade, if_neg both.online, if_neg both.desOnline, both.locked,
        both.desLocked, if_neg confirmed, ne_eq, not_true_eq_false, or_self, if_false, success,
        info]
      exact .confirmed ⟨both, confirmed⟩
  · have refused : (svc.processTrade roleID).2 = svc := by
      unfold processTrade
      split
      · rfl
      rename_i online
      dsimp only
      split
      · rfl
      rename_i desOnline
      split
      · rfl
      rename_i locked
      obtain ⟨locked, desLocked⟩ := not_or.mp locked
      exact absurd ⟨online, desOnline, not_not.mp locked, not_not.mp desLocked⟩ both
    rw [refused]
    exact .unchanged _

end Exchange

/-- Every message changes the trade records in one of the listed ways. -/
theorem onProcessPacket_effect (svc : MainSvc) (message : Message) :
    svc.TradeEffect message (svc.onProcessPacket message).2.tradeInfo := by
  cases message with
  | requestTrade roleID body => exact .unchanged _
  | answerTrade roleID body => exact processAnswerTrade_effect svc roleID body
  | itemPast roleID body => exact .unchanged _
  | lockTrade roleID body => exact processLockTrade_effect svc roleID body
  | money roleID body => exact .unchanged _
  | trade roleID => exact processTrade_effect svc roleID
  | cancelTrade roleID body => exact processCancelTrade_effect svc roleID body

/-- Every online role starts under its own identifier with a fresh record. -/
def Start (svc : MainSvc) : Prop :=
  ∀ roleID role, svc.mapRole roleID = some role → role.id = roleID ∧ role.tradeInfo = .new

/-- Two roles with a hundred coins are online. -/
def traders : MainSvc where
  mapRole roleID := if roleID = 1 ∨ roleID = 2 then some ⟨roleID, 0, .new⟩ else none
  bag := []
  roleMoney roleID := if roleID = 1 ∨ roleID = 2 then some ⟨100, 100⟩ else none
  bindStatus _ := none

theorem traders_start : traders.Start := by
  intro roleID role found
  rw [traders] at found
  dsimp only at found
  split at found
  · obtain rfl := Option.some.inj found
    exact ⟨rfl, rfl⟩
  · cases found

/-- The two roles agree to trade and lock these amounts of money. -/
def lockBoth (money desMoney : UInt32) : List Message :=
  [.answerTrade 2 (some (1, 1)), .lockTrade 1 (some (2, money, 0, [])),
    .lockTrade 2 (some (1, desMoney, 0, []))]

end AppSvr.MainServer.MainSvc
