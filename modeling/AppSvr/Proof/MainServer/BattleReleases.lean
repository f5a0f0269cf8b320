/-
This file proves when an ended battle releases its roles and pays once.
-/

import AppSvr.Proof.MainServer.PKRewards
import AppSvr.Proof.MainServer.Refusals

namespace AppSvr.MainServer
open TransitionSystem

/-- A credit of nothing has the amount zero. -/
def Credit.amount : Credit → Nat
  | .killed _ _ num => num.toNat
  | .bindMoney _ num => num.toNat
  | .exp _ num => num.toNat
  | .items _ stored => stored.length

/-- Some role or pet gets something. -/
def PKPayment.Pays (payment : PKPayment) : Prop :=
  (∃ credit ∈ payment.credits, credit.amount ≠ 0) ∨ ∃ entry ∈ payment.petExp, entry.2 ≠ 0

namespace PKCore

/-- The event reports the end of the battle and pays for it. -/
def Pays (scenes : Scenes) (pkID : UInt32) (entry : PKCore × PKEvent) : Prop :=
  match entry.2 with
  | .processPKEnd world (some report) => report.pkID = pkID ∧
      ∃ payment, entry.1.payment scenes world report = some payment ∧ payment.Pays
  | _ => False

/-- The event registers a battle under the identifier. -/
def Registers (scenes : Scenes) (pkID : UInt32) (entry : PKCore × PKEvent) : Prop :=
  match entry.2 with
  | .processPKReq roleID body _ => roleID = pkID ∧
      ∃ accepted, entry.1.draft scenes roleID body = .ok accepted
  | _ => False

/-- A report releases the roles of its battle, and only a new registration lets a second report pay
for the same identifier. -/
structure EndsOnce (scenes : Scenes) (history : History PKCore PKEvent) (core : PKCore) : Prop where
  released : ∀ earlier before world report,
    history = earlier ++ [(before, .processPKEnd world (some report))] →
      ∀ roleID, core.briefs.mapRolePKID roleID ≠ some report.pkID
  paidOnce : ∀ pkID earlier first middle second later,
    history = earlier ++ first :: middle ++ second :: later →
      Pays scenes pkID first → Pays scenes pkID second →
        ∃ entry ∈ middle, Registers scenes pkID entry

/-- A replacing brief lists the roles that are still registered under its identifier, and all losses
of a registered battle succeed. -/
def KeepsBattles (scenes : Scenes) (core : PKCore) : PKEvent → Prop
  | .processPKReq roleID body _ => ∀ srcRole pkList,
      core.draft scenes roleID body = .ok (srcRole, pkList) →
        core.briefs.KeepsRegistry (.addPKBrif roleID pkList)
  | .processPKEnd world (some report) =>
      core.briefs.mapPkInfo report.pkID = none ∨ world.equipDurabilityLoss 0 report.lei = 0
  | .processPKEnd _ none => True
  | .others _ _ => True

section Absent

/-- The reward and the report of a role are empty. -/
def NoReward (reward : PKEndInfo × List Credit) : Prop :=
  reward.1.pkr.exp = 0 ∧ ∀ credit ∈ reward.2, credit.amount = 0

theorem vipShare_zero (vip : UInt8) : RewardWorld.vipShare vip 0 = 0 := by
  have zero : (0 : UInt32).toNat = 0 := rfl
  simp only [RewardWorld.vipShare, zero, Nat.cast_zero, mul_zero]
  decide

theorem vipExtraExpAndMoney_zero (world : RewardWorld) (licRoleVip : List UInt32)
    (roleID : UInt32) :
    world.vipExtraExpAndMoney licRoleVip roleID (0, 0) = none ∨
      world.vipExtraExpAndMoney licRoleVip roleID (0, 0) = some (0, 0) := by
  unfold RewardWorld.vipExtraExpAndMoney
  cases licRoleVip.find? (· = roleID) with
  | none => exact .inl rfl
  | some found => simp [vipShare_zero]

variable {world : PKEndWorld}

theorem creditsOf_zero (call : Nat) (roleID : UInt32) :
    ∀ credit ∈ world.rewards.creditsOf call roleID 0 0 [], credit.amount = 0 := by
  intro credit member
  simp only [RewardWorld.creditsOf, List.mem_cons, List.not_mem_nil, or_false] at member
  rcases member with rfl | rfl | rfl
  · rfl
  · rfl
  · simp [Credit.amount, world.noItems]

theorem rewardSingle_nothing (licRoleVip : List UInt32) (record : ArchvPKEndInfo) :
    NoReward (world.rewards.rewardSingle licRoleVip ⟨0, 0, [], 0⟩ record) := by
  have exp : castUInt32 0 = 0 := by decide
  have rune : world.rewards.addExpByExpRune record.roleID 0 = 0 := by
    unfold RewardWorld.addExpByExpRune
    split_ifs <;> rfl
  unfold RewardWorld.rewardSingle
  dsimp only
  rw [exp]
  rcases vipExtraExpAndMoney_zero world.rewards licRoleVip record.roleID with values | values
  · rw [values]
    exact ⟨rune, creditsOf_zero 0 record.roleID⟩
  · rw [values]
    exact ⟨rune, creditsOf_zero 0 record.roleID⟩

theorem rewardShared_nothing (roleLev licRoleVip : List UInt32) (place : Nat)
    (record : ArchvPKEndInfo) :
    NoReward (world.rewards.rewardShared roleLev licRoleVip ⟨0, 0, [], 0⟩ place [] record) := by
  have none : PkServer.double 0 = 0 := if_pos rfl
  have exp : castUInt32 0 = 0 := by decide
  have money : UInt32.ofNat ((0 : UInt32).toNat / roleLev.length) = 0 := by
    rw [show (0 : UInt32).toNat = 0 from rfl, Nat.zero_div]
    rfl
  unfold RewardWorld.rewardShared
  simp only [zero_mul, zero_div, none, exp, money]
  rcases vipExtraExpAndMoney_zero world.rewards licRoleVip record.roleID with values | values
  · rw [values]
    exact ⟨rfl, creditsOf_zero place record.roleID⟩
  · rw [values]
    exact ⟨rfl, creditsOf_zero place record.roleID⟩

/-- Without monsters nobody gets anything. -/
theorem getItemFromPkEnd_nothing {roleIDs : List UInt32} {lei : List ArchvPKEndInfo}
    {rewards : PKRewards} (paid : getItemFromPkEnd world.rewards roleIDs lei [] = some rewards) :
    (∀ credit ∈ rewards.credits, credit.amount = 0) ∧ ∀ info ∈ rewards.lpkei, info.pkr.exp = 0 := by
  have finished {list : List (PKEndInfo × List Credit)} (none : ∀ reward ∈ list, NoReward reward) :
      (∀ credit ∈ list.flatMap Prod.snd, credit.amount = 0) ∧
        ∀ info ∈ list.map Prod.fst, info.pkr.exp = 0 := by
    constructor
    · intro credit member
      obtain ⟨reward, listed, member⟩ := List.mem_flatMap.mp member
      exact (none reward listed).2 credit member
    · intro info member
      obtain ⟨reward, listed, rfl⟩ := List.mem_map.mp member
      exact (none reward listed).1
  have loot : world.rewards.lootOf roleIDs [] = ⟨0, 0, [], 0⟩ := rfl
  simp only [getItemFromPkEnd, loot, ne_eq, not_true_eq_false, and_false, if_false, killCredits,
    List.flatMap_nil, List.nil_append, RewardWorld.shareItems, Option.bind_some] at paid
  split_ifs at paid
  · obtain rfl := Option.some.inj paid
    apply finished
    intro reward member
    obtain ⟨record, -, rfl⟩ := List.mem_map.mp member
    exact rewardSingle_nothing _ record
  · rw [RewardWorld.rewardAll_eq] at paid
    obtain ⟨list, shared, rfl⟩ := Option.map_eq_some_iff.mp paid
    split_ifs at shared
    obtain rfl := Option.some.inj shared
    apply finished
    intro reward member
    obtain ⟨⟨record, place⟩, -, rfl⟩ := List.mem_map.mp member
    have empty : (List.replicate 5 ([] : List UInt32)).getD place [] = [] := by
      rw [List.getD_eq_getElem?_getD, List.getElem?_replicate]
      split <;> rfl
    dsimp only
    rw [empty]
    exact rewardShared_nothing _ _ place record

/-- A battle without a brief pays nothing. -/
theorem not_pays_of_absent {scenes : Scenes} {core : PKCore} {report : PKEnd} {pay : PKPayment}
    (absent : core.briefs.mapPkInfo report.pkID = none)
    (paid : core.payment scenes world report = some pay) : ¬ pay.Pays := by
  have monsters : core.beatenMonsters scenes report = [] := by
    simp [beatenMonsters, PKBriefs.getPkInfo, absent, PKBriefList.new]
  have nothing : ¬ (⟨[], []⟩ : PKPayment).Pays := by simp [PKPayment.Pays]
  unfold payment getInfoFromPkEnd1 at paid
  dsimp only at paid
  rw [monsters] at paid
  split_ifs at paid
  · obtain rfl := Option.some.inj paid
    exact nothing
  · obtain ⟨rewards, credited, rfl⟩ := Option.map_eq_some_iff.mp paid
    obtain ⟨credits, reports⟩ := getItemFromPkEnd_nothing credited
    rintro (⟨credit, member, amount⟩ | ⟨entry, member, exp⟩)
    · exact amount (credits credit member)
    · obtain ⟨petID, -, found⟩ := List.mem_filterMap.mp member
      obtain ⟨roleId, -, found⟩ := Option.bind_eq_some_iff.mp found
      obtain ⟨info, listed, rfl⟩ := Option.map_eq_some_iff.mp found
      exact exp (reports info (List.mem_of_find?_eq_some listed))
  · obtain rfl := Option.some.inj paid
    exact nothing

end Absent

section Steps

variable {scenes : Scenes} {core next : PKCore} {event : PKEvent}

/-- A request registers its brief or not, and then it may erase its own entry. -/
theorem processPKReq_briefs (scenes : Scenes) (core : PKCore) (roleID : UInt32)
    (body : Option (UInt8 × UInt32)) (iRet : UInt32) :
    let before := match core.draft scenes roleID body with
      | .error _ => core.briefs
      | .ok (_, pkList) => core.briefs.addPKBrif roleID pkList
    (core.processPKReq scenes roleID body iRet).2.briefs = before ∨
      (core.processPKReq scenes roleID body iRet).2.briefs = before.eraseRolePKID roleID := by
  unfold processPKReq
  cases core.draft scenes roleID body with
  | error refusal => exact .inr rfl
  | ok accepted =>
      dsimp only
      split_ifs
      · exact .inr rfl
      · exact .inr rfl
      · exact .inl rfl

theorem step_listed (listed : core.briefs.Listed) (keeps : core.KeepsBattles scenes event)
    (enabled : core.step scenes event = some next) : next.briefs.Listed := by
  cases event with
  | processPKReq roleID body iRet =>
      obtain rfl := Option.some.inj enabled
      have before : (match core.draft scenes roleID body with
          | .error _ => core.briefs
          | .ok (_, pkList) => core.briefs.addPKBrif roleID pkList).Listed := by
        cases drafted : core.draft scenes roleID body with
        | error refusal => exact listed
        | ok accepted => exact listed.add (keeps accepted.1 accepted.2 drafted)
      rcases processPKReq_briefs scenes core roleID body iRet with same | same
      · rw [same]
        exact before
      · rw [same]
        exact before.erase roleID
  | processPKEnd world body =>
      obtain ⟨result, processed, rfl⟩ := Option.map_eq_some_iff.mp enabled
      rw [processPKEnd_briefs processed]
      cases body with
      | none => exact listed
      | some report =>
          dsimp only
          split_ifs
          · exact listed
          · exact listed.delete report.pkID
  | others mapRole mapTeam =>
      obtain rfl := Option.some.inj enabled
      exact listed

/-- Only a registration adds a brief. -/
theorem step_absent {pkID : UInt32} (absent : core.briefs.mapPkInfo pkID = none)
    (other : ¬ Registers scenes pkID (core, event))
    (enabled : core.step scenes event = some next) : next.briefs.mapPkInfo pkID = none := by
  cases event with
  | processPKReq roleID body iRet =>
      obtain rfl := Option.some.inj enabled
      rw [processPKReq_mapPkInfo]
      cases drafted : core.draft scenes roleID body with
      | error refusal => exact absent
      | ok accepted =>
          have different : pkID ≠ roleID := fun same => other ⟨same.symm, accepted, drafted⟩
          dsimp only
          rw [Function.update_of_ne different]
          exact absent
  | processPKEnd world body =>
      obtain ⟨result, processed, rfl⟩ := Option.map_eq_some_iff.mp enabled
      have kept (info : PKBriefList) : result.2.2.briefs.mapPkInfo pkID ≠ some info := by
        intro found
        rw [processPKEnd_briefs processed] at found
        have before : core.briefs.mapPkInfo pkID = some info := by
          cases body with
          | none => exact found
          | some report =>
              dsimp only at found
              split_ifs at found
              · exact found
              · exact deletePkBrif_found found
        rw [absent] at before
        cases before
      exact Option.eq_none_iff_forall_ne_some.mpr kept
  | others mapRole mapTeam =>
      obtain rfl := Option.some.inj enabled
      exact absent

/-- A report leaves no brief under its identifier. -/
theorem end_absent {world : PKEndWorld} {report : PKEnd}
    (keeps : core.KeepsBattles scenes (.processPKEnd world (some report)))
    (enabled : core.step scenes (.processPKEnd world (some report)) = some next) :
    next.briefs.mapPkInfo report.pkID = none := by
  by_cases absent : core.briefs.mapPkInfo report.pkID = none
  · exact step_absent absent (by simp [Registers]) enabled
  · have done := keeps.resolve_left absent
    obtain ⟨result, processed, rfl⟩ := Option.map_eq_some_iff.mp enabled
    obtain ⟨info, found⟩ := Option.ne_none_iff_exists'.mp absent
    rw [processPKEnd_briefs processed]
    dsimp only
    rw [if_neg (not_not.mpr done), PKBriefs.deletePkBrif_mapPkInfo found, Function.update_self]

theorem pays_present {pkID : UInt32} (pays : Pays scenes pkID (core, event)) :
    core.briefs.mapPkInfo pkID ≠ none := by
  cases event with
  | processPKReq roleID body iRet => exact pays.elim
  | others mapRole mapTeam => exact pays.elim
  | processPKEnd world body =>
      cases body with
      | none => exact pays.elim
      | some report =>
          obtain ⟨rfl, pay, paid, something⟩ := pays
          exact fun absent => not_pays_of_absent absent paid something

end Steps

/-- A paid battle has no brief until the next registration. -/
structure Settled (scenes : Scenes) (history : History PKCore PKEvent) (core : PKCore) : Prop where
  listed : core.briefs.Listed
  unpaid : ∀ pkID earlier first later, history = earlier ++ first :: later →
    Pays scenes pkID first → (∀ entry ∈ later, ¬ Registers scenes pkID entry) →
      core.briefs.mapPkInfo pkID = none
  ends : EndsOnce scenes history core

theorem Settled.step {scenes : Scenes} {history : History PKCore PKEvent} {core next : PKCore}
    {event : PKEvent} (settled : Settled scenes history core)
    (keeps : core.KeepsBattles scenes event) (enabled : core.step scenes event = some next) :
    Settled scenes (history ++ [(core, event)]) next := by
  have listed := step_listed settled.listed keeps enabled
  refine ⟨listed, ?_, ?_, ?_⟩
  · intro pkID earlier first later split pays others
    rcases List.eq_nil_or_concat' later with rfl | ⟨later, last, rfl⟩
    · obtain ⟨-, same⟩ := List.append_inj' split rfl
      obtain rfl := List.head_eq_of_cons_eq same
      cases event with
      | processPKReq roleID body iRet => exact pays.elim
      | others mapRole mapTeam => exact pays.elim
      | processPKEnd world body =>
          cases body with
          | none => exact pays.elim
          | some report =>
              obtain ⟨rfl, -⟩ := pays
              exact end_absent keeps enabled
    · rw [← List.cons_append, ← List.append_assoc] at split
      obtain ⟨before, same⟩ := List.append_inj' split rfl
      obtain rfl := List.head_eq_of_cons_eq same
      have absent := settled.unpaid pkID earlier first later before pays
        fun entry member => others entry (List.mem_append_left _ member)
      exact step_absent absent (others _ (by simp)) enabled
  · intro earlier before world report split roleID mapped
    obtain ⟨-, same⟩ := List.append_inj' split rfl
    injection List.head_eq_of_cons_eq same with sameCore sameEvent
    subst sameEvent
    obtain ⟨info, found, -⟩ := listed roleID report.pkID mapped
    rw [end_absent keeps enabled] at found
    cases found
  · intro pkID earlier first middle second later split paysFirst paysSecond
    rcases List.eq_nil_or_concat' later with rfl | ⟨later, last, rfl⟩
    · obtain ⟨before, same⟩ := List.append_inj' split rfl
      obtain rfl := List.head_eq_of_cons_eq same
      by_contra unregistered
      refine pays_present paysSecond (settled.unpaid pkID earlier first middle before paysFirst ?_)
      exact fun entry member registers => unregistered ⟨entry, member, registers⟩
    · rw [← List.cons_append, ← List.append_assoc] at split
      obtain ⟨before, -⟩ := List.append_inj' split rfl
      exact settled.ends.paidOnce pkID earlier first middle second later before paysFirst paysSecond

/-- Every report releases its roles, and every registered battle is paid at most once. -/
theorem run_endsOnce {scenes : Scenes} {start core : PKCore} {history : History PKCore PKEvent}
    (started : start.briefs = .empty)
    (reached : Run (step scenes) (KeepsBattles scenes) start history core) :
    EndsOnce scenes history core := by
  have initial : Settled scenes [] start := by
    refine ⟨?_, ?_, ?_, ?_⟩
    · intro roleID pkID mapped
      rw [started] at mapped
      cases mapped
    · intro pkID earlier first later split
      simp at split
    · intro earlier before world report split
      simp at split
    · intro pkID earlier first middle second later split
      simp at split
  have settled := reached.historyInvariant (Settled scenes) initial
    fun _ _ _ _ settled keeps enabled => settled.step keeps enabled
  exact settled.ends

/-- A single monster stands on the first map. -/
def hunting : Scenes :=
  ⟨fun _ creatureID => if creatureID = 100030001 then some [] else none, fun _ mID => mID⟩

def lossless (losses : Nat → Int) : PKEndWorld := ⟨beginners, fun _ => none, losses, fun _ => rfl⟩

/-- Role one fights the monster, and its victory is reported with these results of the losses. -/
def hunt (losses : Nat → Int) : List PKEvent :=
  [.processPKReq 1 (some (2, 100030001)) 0,
    .processPKEnd (lossless losses) (some ⟨1, 1, 1, [standing 1]⟩)]

theorem run_endsOnce_hunt : ∃ history core,
    Run (step hunting) (KeepsBattles hunting) duel history core ∧
      core.briefs.ifRoleInPK 1 = 0 ∧ EndsOnce hunting history core := by
  have reached := run_of_replay (show replay (step hunting) duel (hunt fun _ => 0) = some _ from rfl)
  have kept : Run (step hunting) (KeepsBattles hunting) duel _ _ := reached.restrict <| by
    rw [List.forall_mem_cons, List.forall_mem_singleton]
    refine ⟨?_, .inr (by decide)⟩
    intro srcRole pkList _ old found
    cases found
  exact ⟨_, _, kept, by decide +kernel, run_endsOnce rfl kept⟩

/-- A failed loss keeps role one in the registry. -/
theorem run_not_endsOnce : ¬ ∀ (scenes : Scenes) (start core : PKCore)
    (history : History PKCore PKEvent), start.briefs = .empty →
      Run (step scenes) anyEvent start history core → EndsOnce scenes history core := by
  intro claim
  have reached :=
    run_of_replay (show replay (step hunting) duel (hunt fun _ => -1) = some _ from rfl)
  have ends := claim hunting duel _ _ rfl reached
  exact ends.released [_] _ _ _ rfl 1 (by decide +kernel)

end PKCore

end AppSvr.MainServer
