/-
This file proves that the attacks, the moves, and the orders take only these steps, and with them a
whole battle.
-/

import AppSvr.Proof.PkServer.SkillStirs
import Mathlib.Tactic.Linarith

namespace AppSvr.PkServer
open Relation

namespace PKPE

namespace Stirs

variable {battle next : PKPE} {id : Int}

section Hate

omit id in
theorem hatreBound_range (value : Int) : 0 ≤ hatreBound value ∧ hatreBound value ≤ 8 := by
  unfold hatreBound
  split_ifs <;> omega

theorem inRange_iff (info : HaterInfo) : info.InRange ↔
    (0 ≤ info.distance ∧ info.distance ≤ 8) ∧ (0 ≤ info.hp ∧ info.hp ≤ 8) ∧
      (0 ≤ info.attack ∧ info.attack ≤ 8) ∧ 0 ≤ info.hit ∧ info.hit ≤ 8 := by
  simp [HaterInfo.InRange]

theorem modifyHatre_calm {role : RoleState} {change : HaterInfo → HaterInfo} (other : Int)
    (range : role.Reaching → ∀ info : HaterInfo, info.InRange → (change info).InRange) :
    role.Calm (role.modifyHatre other change) := by
  refine ⟨rfl, rfl, fun reaching hates entry member => ?_⟩
  obtain ⟨⟨key, info⟩, listed, rfl⟩ := List.mem_map.mp member
  have known : info.InRange := hates (key, info) listed
  dsimp only
  split
  · exact range reaching info known
  · exact known

theorem addHatre_calm {role : RoleState} {info : HaterInfo} (other : Int)
    (range : role.Reaching → info.InRange) : role.Calm (role.addHatre other info) := by
  unfold RoleState.addHatre
  split
  · refine ⟨rfl, rfl, fun reaching hates entry member => ?_⟩
    rcases List.mem_append.mp member with old | new
    · exact hates entry old
    · obtain rfl := List.mem_singleton.mp new
      exact range reaching
  · exact .refl role

/-- The hate for the distance lies between one and eight. -/
theorem distance_range {role : RoleState} (reaching : role.Reaching) (a b : Pos) :
    0 ≤ (if distShort a b ≤ role.physicalAttrib.attackArea then 8
      else max 1 (short (8 - (distShort a b - role.physicalAttrib.attackArea)))) ∧
    (if distShort a b ≤ role.physicalAttrib.attackArea then 8
      else max 1 (short (8 - (distShort a b - role.physicalAttrib.attackArea)))) ≤ 8 := by
  unfold RoleState.Reaching at reaching
  unfold distShort short
  split_ifs <;> omega

theorem le_sqrtCeil (value : Nat) : (value : Int) ≤ sqrtCeil value * sqrtCeil value := by
  unfold sqrtCeil
  split_ifs with square
  · exact_mod_cast square.ge
  · exact_mod_cast (Nat.lt_succ_sqrt value).le

/-- A place out of reach is further away than the reach. -/
theorem hatreDistance_range (area square : Int) :
    0 ≤ hatreDistance area square ∧ hatreDistance area square ≤ 8 := by
  unfold hatreDistance
  split_ifs with near
  · omega
  · have root := le_sqrtCeil square.toNat
    have nonneg : 0 ≤ sqrtCeil square.toNat := by
      unfold sqrtCeil
      split_ifs <;> omega
    have further : area < sqrtCeil square.toNat := by
      by_contra close
      exact near ⟨by omega, by nlinarith [square.self_le_toNat]⟩
    unfold short
    omega

theorem hateOne (ids : List Int) (state : (Int × Int) × PKPE) (before : battle.Stirs state.2) :
    battle.Stirs (ids.foldl (hateOne id) state).2 := by
  induction ids generalizing state with
  | nil => exact before
  | cons target ids ih =>
      refine ih _ ?_
      unfold PKPE.hateOne
      dsimp only
      split
      · exact before
      · dsimp only
        refine Stirs.calm before ?_
        refine RoleState.Calm.trans (modifyHatre_calm target fun reaching info known => ?_)
          (addHatre_calm target fun reaching => ?_)
        · have distance := distance_range reaching (state.2.role id).moveAttrb.currentPos
            (state.2.role target).moveAttrb.currentPos
          have hp := hatreBound_range (short (8 - healthTenths (state.2.role target).hp
            (state.2.role target).currHpMax))
          obtain ⟨-, -, attack, hit⟩ := (inRange_iff info).mp known
          refine (inRange_iff _).mpr ⟨distance, hp, ?_⟩
          unfold short
          dsimp only
          omega
        · exact (inRange_iff _).mpr ⟨distance_range reaching _ _, hatreBound_range _, by simp⟩

variable (before : battle.Stirs next)
include before

theorem attackAround : battle.Stirs (attackAround id next) := by
  unfold PKPE.attackAround
  dsimp only
  split
  · exact before.lasting rfl
  · exact before.lasting rfl

theorem calculateAIAttack : battle.Stirs (calculateAIAttack id next) := by
  have hated : battle.Stirs (next.ids.foldl (PKPE.hateOne id) ((0, 0), next)).2 :=
    hateOne _ _ before
  unfold PKPE.calculateAIAttack
  split
  · exact before.attackAround
  · split
    · exact before
    · dsimp only
      split
      · exact Stirs.lasting hated rfl
      · refine Stirs.lasting hated ?_
        split <;> rfl

theorem remember (other : Int) {first : HaterInfo} {again : HaterInfo → HaterInfo}
    (firstRange : first.InRange)
    (againRange : ∀ info : HaterInfo, info.InRange → (again info).InRange) :
    battle.Stirs (remember id other first again next) := by
  unfold PKPE.remember
  split
  · split
    · exact before.calm (modifyHatre_calm other fun _ => againRange)
    · exact (before.calm (addHatre_calm other fun _ => firstRange)).calculateAIAttack
  · exact before

theorem calculateAttack (attackID targetID : Int) :
    battle.Stirs (calculateAttack attackID targetID next) := by
  have first (role other : RoleState) {attack hit : Int} (small : (0 ≤ attack ∧ attack ≤ 8) ∧
      0 ≤ hit ∧ hit ≤ 8) : (firstHatre role other attack hit).InRange :=
    (inRange_iff _).mpr ⟨hatreDistance_range _ _, hatreBound_range _, small⟩
  unfold PKPE.calculateAttack
  refine (((before.send (by simp [Broadcast.IsSkill])).addBullet _).remember _
    (first _ _ (by decide)) fun info known => ?_).remember _ (first _ _ (by decide))
      fun info known => ?_
  · obtain ⟨distance, hp, attack, hit⟩ := (inRange_iff info).mp known
    refine (inRange_iff _).mpr ⟨distance, hp, ?_, hit⟩
    unfold short
    dsimp only
    omega
  · obtain ⟨distance, hp, attack, hit⟩ := (inRange_iff info).mp known
    refine (inRange_iff _).mpr ⟨distance, hp, attack, ?_⟩
    unfold short
    dsimp only
    omega

end Hate

section Moves

variable (before : battle.Stirs next)
include before

theorem drain : battle.Stirs (drain id next) := by
  refine before.foldl fun index _ state _ => ?_
  unfold drainOne
  split
  · exact .refl
  · split
    · exact .refl
    · split
      · exact Stirs.lasting .refl rfl
      · exact (Stirs.lasting .refl rfl).send (by simp [Broadcast.IsSkill])

theorem crossPos : battle.Stirs (crossPos id next).2 := by
  have entered (pos next' : Pos) (line : List Pos) :
      battle.Stirs ((next.note (.cross next.toRoles id next')).modifyRole id fun role =>
        (role.setMoveLine (pos :: line)).setCurrentPos pos) :=
    (before.note _).lasting rfl
  unfold PKPE.crossPos
  split
  · dsimp only
    split
    · exact entered _ _ _
    · dsimp only
      exact Stirs.lasting (entered _ _ _) rfl
  · exact before

theorem calculateMoveP : battle.Stirs (calculateMoveP id next).2 := by
  unfold PKPE.calculateMoveP
  dsimp only
  split
  · exact before
  · split
    · exact before
    · have moved (mini : Pos) : battle.Stirs ((PKPE.drain id next).modifyRole id fun role =>
          role.setCurrentPosMini mini) := before.drain.lasting rfl
      split
      · exact before.drain
      · split
        · exact moved _
        · exact (moved _).crossPos

theorem stop : battle.Stirs (stop id next) := by
  have idle : battle.Stirs (next.modifyRole id fun role => role.setOrderType orderTypeNo) :=
    before.lasting rfl
  unfold PKPE.stop
  dsimp only
  split
  · exact idle
  · exact (idle.lasting rfl).send (by simp [Broadcast.IsSkill])

theorem aStar (startPos endPos : Pos) : battle.Stirs (next.aStar id startPos endPos).2 := by
  have noted := before.note (.aStar startPos)
  have found (line : List Pos) (direct : Int) :
      battle.Stirs ((next.note (.aStar startPos)).modifyRole id fun role =>
        (role.setMoveLine line).setDirect direct) := noted.lasting rfl
  unfold PKPE.aStar
  dsimp only
  split
  · exact noted
  · split
    · exact noted
    · exact noted
    · split
      · exact found _ _
      · split
        · exact found _ _
        · exact (found _ _).send (by simp [Broadcast.IsSkill])

theorem chase (target : Int) : battle.Stirs (chase id target next).2 := by
  have moved : battle.Stirs (PKPE.calculateMoveP id next).2 := before.calculateMoveP
  have found (startPos endPos : Pos) :
      battle.Stirs ((PKPE.calculateMoveP id next).2.aStar id startPos endPos).2 := moved.aStar _ _
  unfold PKPE.chase
  dsimp only
  split
  · split
    · split
      · exact (found _ _).calculateMoveP
      · exact found _ _
    · exact moved
  · split
    · exact (found _ _).calculateMoveP
    · dsimp only
      exact Stirs.lasting (found _ _) rfl

theorem processCSAttack : battle.Stirs (processCSAttack id next).2 := by
  have ready (role : RoleState) : battle.Stirs (if role.physicalAttrib.preTimeStatus = 0 then
      next.modifyRole id fun role => (role.setPreTimeStatus 1).setMoveLine [] else next) := by
    split
    · exact before.lasting rfl
    · exact before
  have waiting : battle.Stirs (next.modifyRole id fun role => role.setPreTimeStatus 0) :=
    before.lasting rfl
  unfold PKPE.processCSAttack
  dsimp only
  split
  · exact before
  · split
    · exact before
    · split
      · exact before
      · split
        · exact before
        · split
          · exact ((ready _).lasting rfl).calculateAttack _ _
          · split
            · exact before
            · split
              · split
                · exact waiting.aStar _ _
                · dsimp only
                  exact Stirs.lasting (waiting.aStar _ _) rfl
              · exact before.chase _

theorem approach (goal : Pos) : battle.Stirs (approach id goal next).2 := by
  unfold PKPE.approach
  split
  · exact before
  · dsimp only
    split
    · exact before.calculateMoveP
    · exact before.calculateMoveP.aStar _ _

end Moves

section Orders

variable (before : battle.Stirs next)
include before

theorem addSkillOrder {skillOrder : SkillOrder} (member : skillOrder.role ∈ next.ids) :
    battle.Stirs (next.addSkillOrder skillOrder) := by
  refine before.tail (.aside rfl rfl rfl (fun ready => ready) fun other listed => ?_)
  rcases List.mem_append.mp listed with old | new
  · exact .inl old
  · exact .inr (List.mem_singleton.mp new ▸ member)

theorem startSkill {skill : SkillAttr} (member : id ∈ next.ids)
    (found : (next.role id).skill? (next.role id).currentOrder.type = some skill)
    (ready : next.canRevive skill) : battle.Stirs (startSkill id skill next) := by
  have stopped (pos mini : Pos) : battle.Stirs (next.send (.stop id pos mini)) :=
    before.send (by simp [Broadcast.IsSkill])
  have listed (pos mini : Pos) (skillOrder : SkillOrder) (role : skillOrder.role = id) :
      battle.Stirs ((next.send (.stop id pos mini)).addSkillOrder skillOrder) :=
    (stopped pos mini).addSkillOrder (role ▸ member)
  unfold PKPE.startSkill
  dsimp only
  -- The payment and its message may follow the use of the skill.
  rw [send_modifyRole, modifyRole_modifyRole, ← send_modifyRole, ← note_modifyRole]
  refine Stirs.send (Stirs.note ?_ _) (by simp [Broadcast.IsSkill])
  refine Stirs.use (listed _ _ _ rfl) found ready ?_
  rfl

omit before in
/-- A skill that is not refused for its pause is ready. -/
theorem canRevive_of_not {skill : SkillAttr} (ready : ¬ (skill.lastUseTime ≠ 0 ∧
    uint (next.fragmentNow - skill.lastUseTime) < skill.skillCD)) : next.canRevive skill := by
  unfold canRevive
  omega

theorem processCSSkill (member : id ∈ next.ids) : battle.Stirs (processCSSkill id next).2 := by
  unfold PKPE.processCSSkill
  dsimp only
  split
  · exact before
  · split
    · next skill goal found _ =>
        split
        · exact before
        · next ready =>
            split
            · exact before
            · split
              · exact before.approach _
              · exact before.startSkill member found (canRevive_of_not ready)
    · exact before

theorem castSkill (order : RoleOrder) (level : Int) (member : id ∈ next.ids) :
    battle.Stirs (castSkill id order level next) := by
  unfold PKPE.castSkill
  split
  · exact before
  · next skill _ =>
      cases skill with
      | yueShi => exact before.skillProcess201
      | huoXueShu => exact before.skillProcess202
      | yaoShu => exact before.skillProcess203
      | jianRenFengBao => exact before.skillProcess204
      | youLingLang => exact before.skillProcess205
      | jingXiang => exact before.skillProcess206
      | fengBaoZhiChui => exact before.throwBullet _
      | taoTaiZhiRen => exact before.skillProcess208
      | wuGuangZhiDun => exact before.skillProcess209
      | fanJiLuoXuan => exact before.skillProcess210
      | diCi => exact before.skillProcess211
      | duSheShouWei => exact before.skillProcess212
      | paoXiao => exact before.skillProcess213
      | xueXing => exact before.skillProcess214
      | quSan => exact before.skillProcess215
      | lianSuoShanDian => exact before.skillProcess216
      | youBu => exact before.throwBullet _
      | zhiLiaoShouWei => exact before.skillProcess218
      | liuXingHuoYU => exact before.skillProcess219
      | zhanZhengJianTa => exact before.skillProcess220
      | nuHou => exact before.skillProcess221
      | chongFeng => exact before.skillProcess222
      | zuiJiuYunWu => exact before.throwBullet _
      | wuDiZhan => exact before.skillProcess224
      | zuZhou => exact before.skillProcess225
      | nengLiangLiuShi => exact before.skillProcess226
      | qiangLiYiJi => exact before.skillProcess227
      | shuFuZhiJian => exact before.skillProcess228
      | weiKunZhiJian => exact before.skillProcess229
      | sheShouTianFu => exact before.skillProcess230
      | benTeng => exact before.skillProcess231
      | fenShen => exact before.skillProcess232 member
      | feiXueZhiMao => exact before.skillProcess233
      | xiSheng => exact before.skillProcess234
      | chenMo => exact before.skillProcess235
      | fuHuo => exact before

theorem runSkillOrder {skillOrder : SkillOrder} (member : skillOrder.role ∈ next.ids) :
    battle.Stirs (runSkillOrder next skillOrder) := by
  unfold PKPE.runSkillOrder
  split
  · exact before
  · split
    · exact before.addSkillOrder member
    · exact (before.note _).castSkill _ _ member

theorem calculateSkill (members : ∀ skillOrder ∈ next.skillOrderList, skillOrder.role ∈ next.ids) :
    battle.Stirs (calculateSkill next) := by
  have cleared : battle.Stirs { next with skillOrderList := [] } :=
    before.tail (.aside rfl rfl rfl (fun ready => ready) fun _ listed =>
      absurd listed List.not_mem_nil)
  exact cleared.foldl fun skillOrder listed state reached =>
    Stirs.runSkillOrder .refl (reached.ids (members skillOrder listed))

theorem searchWay : battle.Stirs (searchWay id next) := by
  have read := before.note (.readMap (next.role id).currentOrder.targetPos)
  unfold PKPE.searchWay
  dsimp only [readMap]
  split
  · exact read.stop
  · split
    · exact read.aStar _ _
    · exact (((read.aStar _ _).note _).send (by simp [Broadcast.IsSkill])).calm (.dead _)
        |>.checkOver _

theorem runRole (member : id ∈ next.ids) : battle.Stirs (runRole id next) := by
  have noted := before.note (.runRole (next.role id) next.fragmentNow)
  unfold PKPE.runRole
  dsimp only
  split
  · split
    · exact noted.calculateAIAttack
    · exact noted
  · split
    · exact noted.processCSAttack
    · exact noted.processCSAttack.stop
  · split
    · exact noted.calculateMoveP.searchWay
    · exact noted.calculateMoveP.stop
    · exact noted.calculateMoveP
  all_goals first | exact noted | skip
  split
  · exact (noted.processCSSkill member).lasting rfl
  · exact noted.processCSSkill member

theorem runOne (member : id ∈ next.ids) : battle.Stirs (runOne id next) := by
  unfold PKPE.runOne
  split
  · exact before
  · split
    · exact (before.lasting rfl).checkOver _
    · have flown : battle.Stirs (PKPE.calculateBuff id next).calculateBullets :=
        before.calculateBuff.calculateBullets
      dsimp only
      split
      · exact flown.lasting rfl
      · exact flown.runRole ((Stirs.calculateBullets (Stirs.calculateBuff .refl)).ids member)

theorem runTime (members : ∀ skillOrder ∈ next.skillOrderList, skillOrder.role ∈ next.ids) :
    battle.Stirs (runTime next) := by
  have ran : next.Stirs (next.forRoles PKPE.runOne) :=
    Stirs.forRoles .refl fun id member state reached => Stirs.runOne .refl (reached.ids member)
  exact Stirs.calculateSkill (before.trans ran) (ran.orders members)

theorem atEnd (goal : Pos) : battle.Stirs (atEnd id goal next).2 := by
  unfold PKPE.atEnd
  dsimp only
  split
  · exact before.note _
  · exact (before.note _).rand

theorem acceptOrder (userOrder : UserOrder) : battle.Stirs (acceptOrder next userOrder) := by
  unfold PKPE.acceptOrder
  dsimp only
  split
  · exact before
  · next role _ =>
      have stopped : battle.Stirs (PKPE.breakLastSkill userOrder.roleID
          (next.note (.acceptOrder role userOrder.order))) := (before.note _).breakLoop _ _
      split
      · exact before
      · split
        · split
          · exact stopped
          · split
            · exact stopped
            · exact stopped.lasting rfl
        · split
          · exact stopped.atEnd _
          · split
            · exact Stirs.lasting ((stopped.atEnd _).aStar _ _) rfl
            · exact (stopped.atEnd _).aStar _ _
        · exact stopped.lasting rfl

theorem processCSOrder : battle.Stirs (processCSOrder next) := by
  have cleared : battle.Stirs { next with orders := [] } :=
    before.tail (.aside rfl rfl rfl (fun ready => ready) fun _ => .inl)
  exact cleared.foldl fun userOrder _ state _ => Stirs.acceptOrder .refl userOrder

end Orders

end Stirs

end PKPE

/-- Only the course of time moves the clock of a battle that has begun. -/
def Event.clock (event : Event) (now : Int) : Int :=
  match event with
  | .runTime _ _ => uint (now + 1)
  | _ => now

namespace PKPE

variable {battle next : PKPE} {event : Event}

theorem finish_eq_some (finished : battle.finish = some next) : next = battle := by
  unfold finish at finished
  split at finished
  · cases finished
  · exact (Option.some.inj finished).symm

/-- An event of a battle that has begun takes such steps. -/
theorem step_stirs (members : ∀ skillOrder ∈ battle.skillOrderList, skillOrder.role ∈ battle.ids)
    (begun : battle.pkState ≠ .ready) (enabled : step battle event = some next) :
    Stirs { battle with fragmentNow := event.clock battle.fragmentNow } next := by
  cases event with
  | ready id =>
      obtain rfl := Option.some.inj enabled
      rw [processCSReady, if_pos (.inl begun)]
      exact .refl
  | addOrder order =>
      simp only [step] at enabled
      split at enabled
      · obtain rfl := Option.some.inj enabled
        exact .single (.aside rfl rfl rfl (fun ready => ready) fun _ => .inl)
      · cases enabled
  | processOrders draws =>
      simp only [step] at enabled
      split at enabled
      · obtain rfl := finish_eq_some enabled
        exact (Stirs.supply .refl draws [] _ _).processCSOrder
      · next ready => exact absurd ready begun
      · cases enabled
  | runTime draws objects =>
      simp only [step] at enabled
      split at enabled
      · obtain rfl := finish_eq_some enabled
        exact (Stirs.supply .refl draws objects _ _).runTime members
      · next ready => exact absurd ready begun
      · cases enabled

/-- Nothing happens to the roles before a battle begins. -/
theorem step_ready (waits : battle.pkState = .ready) (enabled : step battle event = some next) :
    (∀ id, (next.role id).lasting = (battle.role id).lasting) ∧ next.ids = battle.ids ∧
      next.skillOrderList = battle.skillOrderList ∧
        ∃ added, next.sent = battle.sent ++ added ∧ ∀ entry ∈ added, ¬ entry.2.IsSkill := by
  have none : ∃ added, battle.sent = battle.sent ++ added ∧ ∀ entry ∈ added, ¬ entry.2.IsSkill :=
    ⟨[], by simp⟩
  cases event with
  | ready id =>
      obtain rfl := Option.some.inj enabled
      have roles (other : Int) : ((battle.modifyRole id fun role => { role with pkState := 2 }).role
          other).lasting = (battle.role other).lasting := by
        by_cases same : other = id
        · subst same
          rw [modifyRole_self]
          rfl
        · rw [modifyRole_of_ne _ _ _ _ same]
      unfold processCSReady
      split
      · exact ⟨fun _ => rfl, rfl, rfl, none⟩
      · dsimp only
        split
        · exact ⟨roles, rfl, rfl, [(battle.fragmentNow, .ready id), (0, .begin)],
            List.append_assoc .., by simp [Broadcast.IsSkill]⟩
        · exact ⟨roles, rfl, rfl, [(battle.fragmentNow, .ready id)], rfl,
            by simp [Broadcast.IsSkill]⟩
  | addOrder order =>
      simp only [step] at enabled
      split at enabled
      · obtain rfl := Option.some.inj enabled
        exact ⟨fun _ => rfl, rfl, rfl, none⟩
      · cases enabled
  | processOrders draws =>
      simp only [step, waits] at enabled
      obtain rfl := Option.some.inj enabled
      exact ⟨fun _ => rfl, rfl, rfl, none⟩
  | runTime draws objects =>
      simp only [step, waits] at enabled
      obtain rfl := Option.some.inj enabled
      unfold wait
      dsimp only
      split
      · exact ⟨fun _ => rfl, rfl, rfl, [(0, .begin)], rfl, by simp [Broadcast.IsSkill]⟩
      · exact ⟨fun _ => rfl, rfl, rfl, none⟩

/-- The roles that give orders to cast skills take part in the battle. -/
def OrdersListed (battle : PKPE) : Prop :=
  ∀ skillOrder ∈ battle.skillOrderList, skillOrder.role ∈ battle.ids

theorem OrdersListed.step (listed : battle.OrdersListed) (enabled : step battle event = some next) :
    next.OrdersListed := by
  by_cases waits : battle.pkState = .ready
  · obtain ⟨-, ids, orders, -⟩ := step_ready waits enabled
    unfold OrdersListed
    rwa [orders, ids]
  · exact (step_stirs listed waits enabled).orders listed

theorem init_orders {option : Options} {pkID mapID : Int} {inputs : List (RoleInput × RoleState)}
    {outside : Pos → Bool} {role : Int → RoleState}
    (accepted : init option pkID mapID inputs outside role = some battle) :
    battle.skillOrderList = [] := by
  have kept (inputs : List (RoleInput × RoleState)) (first last : PKPE)
      (made : initRoles option inputs first = some last) :
      last.skillOrderList = first.skillOrderList := by
    induction inputs generalizing first with
    | nil => exact congrArg _ (Option.some.inj made).symm
    | cons entry inputs ih =>
        obtain ⟨input, memory⟩ := entry
        obtain ⟨role, -, rest⟩ := Option.bind_eq_some_iff.mp made
        rw [ih _ rest]
        rcases first.insertRole_cases role with same | ⟨_, same⟩ <;> rw [same]
        rfl
  unfold init at accepted
  split at accepted
  · obtain ⟨made, roles, rfl⟩ := Option.map_eq_some_iff.mp accepted
    exact kept inputs _ made roles
  · cases accepted

end PKPE

end AppSvr.PkServer
