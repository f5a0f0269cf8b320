/-
This file proves when an exchange follows the offers that both roles confirmed, and when an answered
or cancelled trade leaves the trades of other roles alone.
-/

import AppSvr.Proof.MainServer.TradeSteps
import AppSvr.ToMathlib.Matching
import AppSvr.ToMathlib.TransitionSystem

namespace AppSvr.MainServer
open Matching TransitionSystem

variable (item : TradeItem)

/-- The partner, the money, the gold, and the cells make up the offer of a role. -/
def TradeItem.offer : UInt32 × UInt32 × UInt32 × List UInt16 :=
  (item.tradeRoleID, item.tradeMoney, item.tradeGold, item.tradeCellIndex)

/-- A role that is not on trade has no partner. -/
def TradeItem.partner : Option UInt32 :=
  if item.isOnTrade = 1 then some item.tradeRoleID else none

@[simp] theorem TradeItem.partner_lock (money gold : UInt32)
    (lic : List UInt16) : (item.lock money gold lic).partner = item.partner := rfl

@[simp] theorem TradeItem.partner_confirm : item.confirm.partner = item.partner := rfl

@[simp] theorem TradeItem.partner_new : TradeItem.new.partner = none := rfl

theorem TradeItem.partner_of_onTrade {item : TradeItem} (onTrade : item.isOnTrade = 1) :
    item.partner = some item.tradeRoleID :=
  if_pos onTrade

theorem TradeItem.partner_of_free {item : TradeItem} (free : item.isOnTrade ≠ 1) :
    item.partner = none :=
  if_neg free

theorem TradeItem.partner_eq_some {item : TradeItem} {id : UInt32} :
    item.partner = some id ↔ item.isOnTrade = 1 ∧ item.tradeRoleID = id := by
  simp [partner]

/-- The partners of all roles. -/
def partners (info : UInt32 → TradeItem) (roleID : UInt32) : Option UInt32 := (info roleID).partner

@[simp] theorem partners_update (info : UInt32 → TradeItem) (roleID : UInt32) (item : TradeItem) :
    partners (Function.update info roleID item) =
      Function.update (partners info) roleID item.partner := by
  funext other
  by_cases same : other = roleID
  · simp [partners, same]
  · simp [partners, Function.update_of_ne same]

/-- Locked records stay on trade when one record changes to such a record. -/
theorem onTrade_update {info : UInt32 → TradeItem}
    (engaged : ∀ roleID, (info roleID).isLockTrade = 1 → (info roleID).isOnTrade = 1)
    {roleID : UInt32} {item : TradeItem} (own : item.isLockTrade = 1 → item.isOnTrade = 1)
    (other : UInt32) : (Function.update info roleID item other).isLockTrade = 1 →
      (Function.update info roleID item other).isOnTrade = 1 := by
  by_cases same : other = roleID
  · rw [same, Function.update_self]
    exact own
  · rw [Function.update_of_ne same]
    exact engaged other

/-- A confirmed record is not one that changes to an unconfirmed record. -/
theorem confirmed_update {info : UInt32 → TradeItem} {roleID other : UInt32} {item : TradeItem}
    (confirmed : (Function.update info roleID item other).isTrade = 1)
    (waits : item.isTrade ≠ 1) : other ≠ roleID ∧ (info other).isTrade = 1 := by
  by_cases same : other = roleID
  · rw [same, Function.update_self] at confirmed
    exact absurd confirmed waits
  · rw [Function.update_of_ne same] at confirmed
    exact ⟨same, confirmed⟩

namespace MainSvc

/-- The message locks an offer of the role. -/
def LockedBy (svc : MainSvc) (message : Message) (roleID : UInt32) : Prop :=
  ∃ id money gold lic, message = .lockTrade roleID (some (id, money, gold, lic)) ∧
    svc.Locks roleID id

/-- A request is accepted between two free roles, an offer is locked before either side confirms,
and a trade is cancelled with the own partner. -/
def KeepsConsent (svc : MainSvc) : Message → Prop
  | .answerTrade roleID (some (id, type)) => type = 1 → svc.Accepts roleID id →
      (svc.tradeInfo roleID).isOnTrade ≠ 1 ∧ (svc.tradeInfo id).isOnTrade ≠ 1
  | .lockTrade roleID (some (id, _)) => svc.Locks roleID id →
      (svc.tradeInfo roleID).isTrade ≠ 1 ∧ (svc.tradeInfo id).isTrade ≠ 1
  | .cancelTrade roleID (some desRoleID) => (svc.tradeInfo roleID).isOnTrade = 1 →
      desRoleID = (svc.tradeInfo roleID).tradeRoleID
  | _ => True

instance (svc : MainSvc) (message : Message) : Decidable (svc.KeepsConsent message) :=
  match message with
  | .answerTrade _ (some _) => inferInstanceAs (Decidable (_ → _ → _))
  | .lockTrade _ (some _) => inferInstanceAs (Decidable (_ → _))
  | .cancelTrade _ (some _) => inferInstanceAs (Decidable (_ → _))
  | .requestTrade _ _ | .answerTrade _ none | .itemPast _ _ | .lockTrade _ none | .money _ _
  | .trade _ | .cancelTrade _ none => inferInstanceAs (Decidable True)

/-- Both roles are locked and name each other. -/
structure LockedTogether (svc : MainSvc) (roleID desRoleID : UInt32) : Prop where
  names : (svc.tradeInfo roleID).tradeRoleID = desRoleID
  named : (svc.tradeInfo desRoleID).tradeRoleID = roleID
  locked : (svc.tradeInfo roleID).isLockTrade = 1
  desLocked : (svc.tradeInfo desRoleID).isLockTrade = 1

/-- The offers of both roles stay as they are, and neither role locks again. -/
structure Undisturbed (svc : MainSvc) (roleID desRoleID : UInt32) (entry : MainSvc × Message) :
    Prop where
  offer : (entry.1.tradeInfo roleID).offer = (svc.tradeInfo roleID).offer
  desOffer : (entry.1.tradeInfo desRoleID).offer = (svc.tradeInfo desRoleID).offer
  unlocked : ¬ entry.1.LockedBy entry.2 roleID
  desUnlocked : ¬ entry.1.LockedBy entry.2 desRoleID

/-- The other role confirmed these offers while both roles were locked on each other, and nothing
disturbed them since. -/
def ConfirmedSince (history : History MainSvc Message) (svc : MainSvc)
    (roleID desRoleID : UInt32) : Prop :=
  ∃ earlier before later, history = earlier ++ (before, .trade desRoleID) :: later ∧
    before.Waits desRoleID ∧ before.LockedTogether roleID desRoleID ∧
    (before.tradeInfo roleID).offer = (svc.tradeInfo roleID).offer ∧
    (before.tradeInfo desRoleID).offer = (svc.tradeInfo desRoleID).offer ∧
    ∀ entry ∈ later, svc.Undisturbed roleID desRoleID entry

/-- The exchange that the role starts has the consent of both roles. -/
def Consented (history : History MainSvc Message) (svc : MainSvc) (roleID : UInt32) : Prop :=
  svc.LockedTogether roleID (svc.tradeInfo roleID).tradeRoleID ∧
    ConfirmedSince history svc roleID (svc.tradeInfo roleID).tradeRoleID

/-- A confirmed role and its partner are locked on each other, and its confirmation is on record. -/
structure Confirmed (history : History MainSvc Message) (svc : MainSvc) (roleID : UInt32) :
    Prop where
  locked : (svc.tradeInfo roleID).isLockTrade = 1
  partnerLocked : (svc.tradeInfo (svc.tradeInfo roleID).tradeRoleID).isLockTrade = 1
  partnerWaits : (svc.tradeInfo (svc.tradeInfo roleID).tradeRoleID).isTrade ≠ 1
  since : ConfirmedSince history svc (svc.tradeInfo roleID).tradeRoleID roleID

/-- The trade records pair the roles, and every confirmation is on record. -/
structure TradesAgree (history : History MainSvc Message) (svc : MainSvc) : Prop where
  matching : IsMatching (partners svc.tradeInfo)
  engaged : ∀ roleID, (svc.tradeInfo roleID).isLockTrade = 1 → (svc.tradeInfo roleID).isOnTrade = 1
  confirmed : ∀ roleID, (svc.tradeInfo roleID).isTrade = 1 → Confirmed history svc roleID

section Step

variable {history : History MainSvc Message} {svc next : MainSvc} {message : Message}

theorem TradesAgree.partner (agree : TradesAgree history svc) {roleID : UInt32}
    (confirmed : (svc.tradeInfo roleID).isTrade = 1) :
    partners svc.tradeInfo roleID = some (svc.tradeInfo roleID).tradeRoleID :=
  TradeItem.partner_of_onTrade (agree.engaged _ (agree.confirmed _ confirmed).locked)

/-- After a confirmation neither of the two roles locks again. -/
theorem TradesAgree.not_lockedBy (agree : TradesAgree history svc) (kept : svc.KeepsConsent message)
    {roleID : UInt32} (confirmed : (svc.tradeInfo roleID).isTrade = 1) :
    ¬ svc.LockedBy message roleID ∧ ¬ svc.LockedBy message (svc.tradeInfo roleID).tradeRoleID := by
  constructor
  · rintro ⟨id, money, gold, lic, rfl, locks⟩
    exact (kept locks).1 confirmed
  · rintro ⟨id, money, gold, lic, rfl, locks⟩
    have back := (agree.matching _ _ (agree.partner confirmed)).2
    have same := (TradeItem.partner_eq_some.mp back).2
    rw [locks.partner] at same
    obtain rfl := same
    exact (kept locks).2 confirmed

/-- A step that keeps both records keeps the recorded confirmation. -/
theorem Confirmed.snoc {roleID : UInt32} (confirmed : Confirmed history svc roleID)
    (same : next.tradeInfo roleID = svc.tradeInfo roleID)
    (samePartner : next.tradeInfo (svc.tradeInfo roleID).tradeRoleID =
      svc.tradeInfo (svc.tradeInfo roleID).tradeRoleID)
    (unlocked : ¬ svc.LockedBy message roleID ∧
      ¬ svc.LockedBy message (svc.tradeInfo roleID).tradeRoleID) :
    Confirmed (history ++ [(svc, message)]) next roleID := by
  obtain ⟨earlier, before, later, split, waits, together, offer, desOffer, undisturbed⟩ :=
    confirmed.since
  refine ⟨?_, ?_, ?_, earlier, before, later ++ [(svc, message)], ?_, waits, ?_, ?_, ?_, ?_⟩
  · rw [same]
    exact confirmed.locked
  · rw [same, samePartner]
    exact confirmed.partnerLocked
  · rw [same, samePartner]
    exact confirmed.partnerWaits
  · rw [split, List.append_assoc, List.cons_append]
  · rw [same]
    exact together
  · rw [same, samePartner]
    exact offer
  · rw [same]
    exact desOffer
  · intro entry member
    rw [same]
    rcases List.mem_append.mp member with old | new
    · obtain ⟨offer, desOffer, first, second⟩ := undisturbed entry old
      exact ⟨by rw [samePartner]; exact offer, by rw [same]; exact desOffer, first, second⟩
    · obtain rfl := List.mem_singleton.mp new
      exact ⟨by rw [samePartner], by rw [same], unlocked.2, unlocked.1⟩

variable (agree : TradesAgree history svc) (kept : svc.KeepsConsent message)
include agree kept

/-- A confirmed role stays confirmed when its record and its partner's record stay. -/
theorem TradesAgree.confirmed_snoc {roleID : UInt32}
    (confirmed : (svc.tradeInfo roleID).isTrade = 1)
    (same : next.tradeInfo roleID = svc.tradeInfo roleID)
    (samePartner : next.tradeInfo (svc.tradeInfo roleID).tradeRoleID =
      svc.tradeInfo (svc.tradeInfo roleID).tradeRoleID) :
    Confirmed (history ++ [(svc, message)]) next roleID :=
  (agree.confirmed _ confirmed).snoc same samePartner (agree.not_lockedBy kept confirmed)

theorem TradesAgree.unchanged (info : next.tradeInfo = svc.tradeInfo) :
    TradesAgree (history ++ [(svc, message)]) next where
  matching := by
    rw [info]
    exact agree.matching
  engaged := by
    rw [info]
    exact agree.engaged
  confirmed roleID confirmed := by
    rw [info] at confirmed
    exact agree.confirmed_snoc kept confirmed (by rw [info]) (by rw [info])

/-- Two free roles engage. -/
theorem TradesAgree.accepted {roleID id : UInt32} (different : roleID ≠ id)
    (free : (svc.tradeInfo roleID).isOnTrade ≠ 1) (desFree : (svc.tradeInfo id).isOnTrade ≠ 1)
    (info : next.tradeInfo = Function.update
      (Function.update svc.tradeInfo id ((svc.tradeInfo id).engage roleID)) roleID
        ((svc.tradeInfo roleID).engage id)) :
    TradesAgree (history ++ [(svc, message)]) next := by
  have alone : partners svc.tradeInfo roleID = none := TradeItem.partner_of_free free
  have desAlone : partners svc.tradeInfo id = none := TradeItem.partner_of_free desFree
  -- a free role has not confirmed, and no confirmed role names it
  have waits {role : UInt32} (free : (svc.tradeInfo role).isOnTrade ≠ 1) :
      (svc.tradeInfo role).isTrade ≠ 1 :=
    fun confirmed => free (agree.engaged _ (agree.confirmed _ confirmed).locked)
  refine ⟨?_, fun other => ?_, fun other confirmed => ?_⟩
  · rw [info, partners_update, partners_update]
    exact agree.matching.join different alone desAlone
  · rw [info]
    apply onTrade_update
    · apply onTrade_update agree.engaged
      exact fun _ => rfl
    · exact fun _ => rfl
  · rw [info] at confirmed
    obtain ⟨notRole, confirmed⟩ := confirmed_update confirmed (waits free)
    obtain ⟨notId, confirmed⟩ := confirmed_update confirmed (waits desFree)
    have back := (agree.matching _ _ (agree.partner confirmed)).2
    have apart : (svc.tradeInfo other).tradeRoleID ≠ roleID := by
      intro same
      rw [same, alone] at back
      cases back
    have desApart : (svc.tradeInfo other).tradeRoleID ≠ id := by
      intro same
      rw [same, desAlone] at back
      cases back
    apply agree.confirmed_snoc kept confirmed
    · rw [info, Function.update_of_ne notRole, Function.update_of_ne notId]
    · rw [info, Function.update_of_ne apart, Function.update_of_ne desApart]

/-- A role locks an offer before either side has confirmed. -/
theorem TradesAgree.locked {roleID id money gold : UInt32} {lic : List UInt16}
    (locks : svc.Locks roleID id) (waits : (svc.tradeInfo roleID).isTrade ≠ 1)
    (desWaits : (svc.tradeInfo id).isTrade ≠ 1)
    (info : next.tradeInfo = Function.update svc.tradeInfo roleID
      ((svc.tradeInfo roleID).lock money gold lic)) :
    TradesAgree (history ++ [(svc, message)]) next := by
  refine ⟨?_, fun other => ?_, fun other confirmed => ?_⟩
  · rw [info, partners_update, TradeItem.partner_lock]
    show IsMatching (Function.update _ _ (partners svc.tradeInfo roleID))
    rw [Function.update_eq_self]
    exact agree.matching
  · rw [info]
    apply onTrade_update agree.engaged
    exact fun _ => locks.engaged
  · rw [info] at confirmed
    obtain ⟨notRole, confirmed⟩ := confirmed_update confirmed waits
    have apart : (svc.tradeInfo other).tradeRoleID ≠ roleID := by
      intro same
      have back := (agree.matching _ _ (agree.partner confirmed)).2
      rw [same] at back
      have named := (TradeItem.partner_eq_some.mp back).2
      rw [locks.partner] at named
      rw [named] at desWaits
      exact desWaits confirmed
    apply agree.confirmed_snoc kept confirmed
    · rw [info, Function.update_of_ne notRole]
    · rw [info, Function.update_of_ne apart]

/-- A waiting confirmation goes on record. -/
theorem TradesAgree.waiting {roleID : UInt32} (waits : svc.Waits roleID)
    (sent : message = .trade roleID)
    (info : next.tradeInfo = Function.update svc.tradeInfo roleID
      (svc.tradeInfo roleID).confirm) :
    TradesAgree (history ++ [(svc, message)]) next := by
  have pair : partners svc.tradeInfo roleID = some (svc.tradeInfo roleID).tradeRoleID :=
    TradeItem.partner_of_onTrade (agree.engaged _ waits.1.locked)
  obtain ⟨different, back⟩ := agree.matching _ _ pair
  refine ⟨?_, fun other => ?_, fun other confirmed => ?_⟩
  · rw [info, partners_update, TradeItem.partner_confirm]
    show IsMatching (Function.update _ _ (partners svc.tradeInfo roleID))
    rw [Function.update_eq_self]
    exact agree.matching
  · rw [info]
    apply onTrade_update agree.engaged
    exact fun _ => agree.engaged _ waits.1.locked
  · by_cases isRole : other = roleID
    · obtain rfl := isRole
      have own : next.tradeInfo other = (svc.tradeInfo other).confirm := by
        rw [info, Function.update_self]
      have partner : next.tradeInfo (svc.tradeInfo other).tradeRoleID =
          svc.tradeInfo (svc.tradeInfo other).tradeRoleID := by
        rw [info, Function.update_of_ne different.symm]
      have names : (next.tradeInfo other).tradeRoleID = (svc.tradeInfo other).tradeRoleID := by
        rw [own]
        rfl
      have named := (TradeItem.partner_eq_some.mp back).2
      refine ⟨?_, ?_, ?_, history, svc, [], by rw [sent], waits, ?_, ?_, ?_, by simp⟩
      · rw [own]
        exact waits.1.locked
      · rw [names, partner]
        exact waits.1.desLocked
      · rw [names, partner]
        exact waits.2
      · rw [names]
        exact ⟨named, rfl, waits.1.desLocked, waits.1.locked⟩
      · rw [names, partner]
      · rw [own]
        rfl
    · rw [info, Function.update_of_ne isRole] at confirmed
      have apart : (svc.tradeInfo other).tradeRoleID ≠ roleID := by
        intro same
        have named := (agree.matching _ _ (agree.partner confirmed)).2
        rw [same, pair] at named
        obtain rfl := Option.some.inj named
        exact waits.2 confirmed
      apply agree.confirmed_snoc kept confirmed
      · rw [info, Function.update_of_ne isRole]
      · rw [info, Function.update_of_ne apart]

/-- A role and its partner clear their records together. -/
theorem TradesAgree.cleared {roleID id : UInt32}
    (pair : partners svc.tradeInfo roleID = some id)
    (info : next.tradeInfo =
      Function.update (Function.update svc.tradeInfo roleID .new) id .new) :
    TradesAgree (history ++ [(svc, message)]) next := by
  refine ⟨?_, fun other => ?_, fun other confirmed => ?_⟩
  · rw [info, partners_update, partners_update]
    exact agree.matching.separate pair
  · rw [info]
    have fresh : TradeItem.new.isLockTrade = 1 → TradeItem.new.isOnTrade = 1 := by decide
    exact onTrade_update (onTrade_update agree.engaged fresh) fresh other
  · rw [info] at confirmed
    have waits : TradeItem.new.isTrade ≠ 1 := by decide
    obtain ⟨notId, confirmed⟩ := confirmed_update confirmed waits
    obtain ⟨notRole, confirmed⟩ := confirmed_update confirmed waits
    obtain ⟨apart, desApart⟩ := agree.matching.apart pair ⟨notRole, notId⟩
    rw [agree.partner confirmed] at apart desApart
    apply agree.confirmed_snoc kept confirmed
    · rw [info, Function.update_of_ne notId, Function.update_of_ne notRole]
    · rw [info, Function.update_of_ne fun same => desApart (congrArg some same),
        Function.update_of_ne fun same => apart (congrArg some same)]

/-- Every message that keeps consent keeps the agreement. -/
theorem TradesAgree.step (enabled : svc.step message = some next) :
    TradesAgree (history ++ [(svc, message)]) next := by
  obtain rfl := Option.some.inj enabled
  have effect := onProcessPacket_effect svc message
  generalize info : (svc.onProcessPacket message).2.tradeInfo = records at effect
  cases effect with
  | unchanged => exact agree.unchanged kept info
  | accepted accepts =>
      obtain ⟨free, desFree⟩ := kept rfl accepts
      exact agree.accepted kept accepts.different.symm free desFree info
  | locked money gold lic locks =>
      obtain ⟨waits, desWaits⟩ := kept locks
      exact agree.locked kept locks waits desWaits info
  | confirmed waits => exact agree.waiting kept waits rfl info
  | settled reaches =>
      exact agree.cleared kept
        (TradeItem.partner_of_onTrade (agree.engaged _ reaches.1.locked)) info
  | cancelled desRoleID engaged =>
      obtain rfl := kept engaged
      exact agree.cleared kept (TradeItem.partner_of_onTrade engaged) info

end Step

/-- Fresh records agree. -/
theorem Start.tradesAgree {svc : MainSvc} (start : svc.Start) : TradesAgree [] svc := by
  have fresh (roleID : UInt32) : svc.tradeInfo roleID = .new := by
    rw [tradeInfo, processGetRolePtr]
    cases found : svc.mapRole roleID with
    | none => rfl
    | some role => exact (start roleID role found).2
  refine ⟨?_, fun roleID locked => ?_, fun roleID confirmed => ?_⟩
  · have alone : partners svc.tradeInfo = fun _ => none := by
      funext roleID
      rw [partners, fresh, TradeItem.partner_new]
    rw [alone]
    exact .empty
  · rw [fresh] at locked
    exact absurd locked (by decide)
  · rw [fresh] at confirmed
    exact absurd confirmed (by decide)

/-- Every exchange has the consent of both roles while requests join free roles, offers are locked
before any confirmation, and cancellations name the own partner. -/
theorem trade_consented {start svc : MainSvc} (fresh : start.Start)
    {history : History MainSvc Message}
    (reached : Run MainSvc.step KeepsConsent start history svc) {roleID : UInt32}
    (reaches : svc.ReachesTradeItem roleID) : Consented history svc roleID := by
  have agree : TradesAgree history svc := reached.historyInvariant TradesAgree fresh.tradesAgree
    fun _ _ _ _ agree kept enabled => agree.step kept enabled
  obtain ⟨both, desConfirmed⟩ := reaches
  have back := (agree.matching _ _
    (TradeItem.partner_of_onTrade (agree.engaged _ both.locked))).2
  have named := (TradeItem.partner_eq_some.mp back).2
  have since := (agree.confirmed _ desConfirmed).since
  rw [named] at since
  exact ⟨⟨rfl, named, both.locked, both.desLocked⟩, since⟩

/-- Role one confirms after both roles have locked, and role two confirms next. -/
theorem trade_consented_second : ∃ history svc,
    Run MainSvc.step KeepsConsent traders history svc ∧ svc.ReachesTradeItem 2 ∧
      Consented history svc 2 := by
  obtain ⟨history, svc, reached, reaches⟩ := exists_run_of_replay MainSvc.step KeepsConsent
    traders (lockBoth 0 10 ++ [.trade 1]) (fun _ svc => svc.ReachesTradeItem 2)
    (by decide +kernel)
  have reaches := of_decide_eq_true reaches
  exact ⟨history, svc, reached, reaches, trade_consented traders_start reached reaches⟩

/-- Role two locks a smaller offer after role one has confirmed. -/
theorem trade_not_consented :
    ¬ ∀ (start : MainSvc) (history : History MainSvc Message) (svc : MainSvc), start.Start →
      Run MainSvc.step anyEvent start history svc →
        ∀ roleID, svc.ReachesTradeItem roleID → Consented history svc roleID := by
  intro claim
  obtain ⟨history, svc, reached, changed⟩ := exists_run_of_replay MainSvc.step anyEvent traders
    (lockBoth 0 10 ++ [.trade 1, .lockTrade 2 (some (1, 0, 0, []))])
    (fun history svc => svc.ReachesTradeItem 2 ∧ (svc.tradeInfo 2).tradeRoleID = 1 ∧
      (svc.tradeInfo 2).tradeMoney = 0 ∧ history.all fun entry =>
        entry.2 = .trade 1 → (entry.1.tradeInfo 2).tradeMoney = 10)
    (by decide +kernel)
  obtain ⟨reaches, partner, money, before⟩ := of_decide_eq_true changed
  obtain ⟨-, since⟩ := claim traders history svc traders_start reached 2 reaches
  rw [partner] at since
  obtain ⟨earlier, state, later, rfl, -, -, offer, -⟩ := since
  have recorded := of_decide_eq_true (List.all_eq_true.mp before (state, .trade 1) (by simp)) rfl
  have same : (state.tradeInfo 2).tradeMoney = (svc.tradeInfo 2).tradeMoney :=
    congrArg (fun offer => offer.2.1) offer
  rw [recorded, money] at same
  exact absurd same (by decide)

end MainSvc

open TransitionSystem

/-- The two messages that change the record of the role in their body. -/
inductive TradeReply where
  | answerTrade (type : UInt8)
  | cancelTrade
  deriving DecidableEq, Repr

def TradeReply.message (roleID id : UInt32) : TradeReply → Message
  | .answerTrade type => .answerTrade roleID (some (id, type))
  | .cancelTrade => .cancelTrade roleID (some id)

namespace MainSvc

/-- The role asked for a trade that the other role has not answered since. -/
def OpenRequest (history : History MainSvc Message) (roleID id : UInt32) : Prop :=
  ∃ earlier before later, history = earlier ++ (before, .requestTrade roleID (some id)) :: later ∧
    before.processRequestTrade roleID (some id) = 0 ∧
    ∀ entry ∈ later, ∀ type, entry.2 ≠ .answerTrade id (some (roleID, type))

/-- Only the two roles of a trade change, and the named role only as a partner or after its
request. -/
structure TouchesParties (history : History MainSvc Message) (svc next : MainSvc)
    (roleID id : UInt32) : Prop where
  others : ∀ other, other ≠ roleID → other ≠ id → next.tradeInfo other = svc.tradeInfo other
  named : id ≠ roleID → next.tradeInfo id ≠ svc.tradeInfo id →
    (svc.tradeInfo roleID).partner = some id ∨ OpenRequest history id roleID
  engaged : id ≠ roleID → ∀ third, (svc.tradeInfo id).partner = some third → third ≠ roleID →
    next.tradeInfo id = svc.tradeInfo id

/-- The message changes the record of the named role. -/
def Rewrites (svc : MainSvc) (roleID id : UInt32) : TradeReply → Prop
  | .answerTrade type => type = 1 ∧ svc.Accepts roleID id
  | .cancelTrade => ¬ svc.isOffline roleID ∧ (svc.tradeInfo roleID).isOnTrade = 1 ∧
      id ≠ roleID ∧ svc.tradeInfo id ≠ .new

/-- A rewritten record is that of the partner or of a role that asked, and names no third role. -/
def SparesOthers (history : History MainSvc Message) (svc : MainSvc) (roleID id : UInt32)
    (reply : TradeReply) : Prop :=
  svc.Rewrites roleID id reply →
    ((svc.tradeInfo roleID).partner = some id ∨ OpenRequest history id roleID) ∧
      ∀ third, (svc.tradeInfo id).partner = some third → third = roleID

variable (svc : MainSvc) (roleID id : UInt32)

theorem processAnswerTrade_tradeInfo (type : UInt8) :
    (svc.processAnswerTrade roleID (some (id, type))).2.tradeInfo =
      if type = 1 ∧ svc.Accepts roleID id then
        Function.update (Function.update svc.tradeInfo id ((svc.tradeInfo id).engage roleID))
          roleID ((svc.tradeInfo roleID).engage id)
      else svc.tradeInfo := by
  by_cases accepted : type = 1 ∧ svc.Accepts roleID id
  · obtain ⟨rfl, accepts⟩ := accepted
    have known : ¬ ((1 : UInt8) ≠ 0 ∧ (1 : UInt8) ≠ 1) := fun both => both.2 rfl
    rw [if_pos ⟨rfl, accepts⟩, processAnswerTrade]
    simp only [if_neg accepts.different, if_neg known, if_neg accepts.online, if_pos]
    exact acceptTrade_tradeInfo accepts
  · rw [if_neg accepted, processAnswerTrade]
    by_cases same : id = roleID
    · simp only [if_pos same]
    by_cases offline : svc.isOffline roleID
    · simp only [if_neg same, if_pos offline]
      split <;> rfl
    by_cases accept : type = 1
    · have refused := acceptTrade_refused same offline fun accepts => accepted ⟨accept, accepts⟩
      simp only [if_neg same, if_neg offline, if_pos accept]
      split
      · rfl
      · rw [refused]
    · simp only [if_neg same, if_neg offline, if_neg accept]
      split <;> rfl

theorem processCancelTrade_tradeInfo :
    (svc.processCancelTrade roleID (some id)).2.tradeInfo =
      if ¬ svc.isOffline roleID ∧ (svc.tradeInfo roleID).isOnTrade = 1 then
        Function.update (Function.update svc.tradeInfo roleID .new) id .new
      else svc.tradeInfo := by
  by_cases cancelled : ¬ svc.isOffline roleID ∧ (svc.tradeInfo roleID).isOnTrade = 1
  · obtain ⟨online, onTrade⟩ := cancelled
    obtain ⟨role, found⟩ := mapRole_of_online online
    have success := initTradeItem_of_some svc roleID found
    rw [if_pos ⟨online, onTrade⟩, ← initTradeItem_both, processCancelTrade]
    simp only [if_neg online, onTrade, success, ne_eq, not_true_eq_false, if_false]
    split <;> rfl
  · rw [if_neg cancelled, processCancelTrade]
    by_cases offline : svc.isOffline roleID
    · simp only [if_pos offline]
    · have free : (svc.tradeInfo roleID).isOnTrade ≠ 1 := fun onTrade =>
        cancelled ⟨offline, onTrade⟩
      simp only [if_neg offline, if_pos free]

/-- The message changes the record exactly when it passes the checks of its handler. -/
theorem rewrites_iff (reply : TradeReply) (different : id ≠ roleID) :
    (svc.onProcessPacket (reply.message roleID id)).2.tradeInfo id ≠ svc.tradeInfo id ↔
      svc.Rewrites roleID id reply := by
  cases reply with
  | answerTrade type =>
      change (svc.processAnswerTrade roleID (some (id, type))).2.tradeInfo id ≠ _ ↔ _ ∧ _
      rw [processAnswerTrade_tradeInfo]
      split
      case isTrue accepted =>
        rw [Function.update_of_ne different, Function.update_self]
        refine iff_of_true (fun same => ?_) accepted
        obtain free | other := accepted.2.free
        · exact free (congrArg TradeItem.isOnTrade same).symm
        · exact other (congrArg TradeItem.tradeRoleID same).symm
      case isFalse refused => exact iff_of_false (fun changed => changed rfl) refused
  | cancelTrade =>
      change (svc.processCancelTrade roleID (some id)).2.tradeInfo id ≠ _ ↔ _ ∧ _
      rw [processCancelTrade_tradeInfo]
      split
      case isTrue cancelled =>
        rw [Function.update_self]
        constructor
        · intro changed
          exact ⟨cancelled.1, cancelled.2, different, changed.symm⟩
        · intro rewrites
          exact rewrites.2.2.2.symm
      case isFalse refused =>
        exact iff_of_false (fun changed => changed rfl) fun rewrites =>
          refused ⟨rewrites.1, rewrites.2.1⟩

/-- The records of all roles but two stay. -/
theorem reply_others (reply : TradeReply) {other : UInt32} (notSender : other ≠ roleID)
    (notNamed : other ≠ id) :
    (svc.onProcessPacket (reply.message roleID id)).2.tradeInfo other = svc.tradeInfo other := by
  cases reply with
  | answerTrade type =>
      change (svc.processAnswerTrade roleID (some (id, type))).2.tradeInfo other = _
      rw [processAnswerTrade_tradeInfo]
      split
      · rw [Function.update_of_ne notSender, Function.update_of_ne notNamed]
      · rfl
  | cancelTrade =>
      change (svc.processCancelTrade roleID (some id)).2.tradeInfo other = _
      rw [processCancelTrade_tradeInfo]
      split
      · rw [Function.update_of_ne notNamed, Function.update_of_ne notSender]
      · rfl

/-- The trades of other roles stay exactly when the rewritten record belongs to the sender. -/
theorem touchesParties_iff (history : History MainSvc Message) (reply : TradeReply) :
    TouchesParties history svc (svc.onProcessPacket (reply.message roleID id)).2 roleID id ↔
      SparesOthers history svc roleID id reply := by
  constructor
  · intro touches rewrites
    have different : id ≠ roleID := by
      cases reply with
      | answerTrade type => exact rewrites.2.different
      | cancelTrade => exact rewrites.2.2.1
    have changed := (rewrites_iff svc roleID id reply different).mpr rewrites
    refine ⟨touches.named different changed, fun third partner => ?_⟩
    by_contra engaged
    exact changed (touches.engaged different third partner engaged)
  · intro spares
    constructor
    case others =>
      intro other notSender notNamed
      exact reply_others svc roleID id reply notSender notNamed
    case named =>
      intro different changed
      exact (spares ((rewrites_iff svc roleID id reply different).mp changed)).1
    case engaged =>
      intro different third partner engaged
      by_contra changed
      exact engaged ((spares ((rewrites_iff svc roleID id reply different).mp changed)).2 third
        partner)

/-- The roles one and two trade, and so do the roles three and four. -/
def twoTrades : MainSvc where
  mapRole roleID :=
    if roleID = 0 ∨ 4 < roleID then none
    else some ⟨roleID, 10, TradeItem.new.engage ((roleID - 1 ^^^ 1) + 1)⟩
  bag := []
  roleMoney _ := none
  bindStatus _ := none

/-- Role one cancels in the name of role three, whose trade with role four is cleared. -/
theorem not_touchesParties : ¬ ∀ (history : History MainSvc Message) (svc : MainSvc)
    (roleID id : UInt32) (reply : TradeReply),
    TouchesParties history svc (svc.onProcessPacket (reply.message roleID id)).2 roleID id := by
  intro claim
  have kept := (claim [] twoTrades 1 3 .cancelTrade).engaged (by decide) 4 (by decide) (by decide)
  exact absurd kept (by decide)

end MainSvc

end AppSvr.MainServer
