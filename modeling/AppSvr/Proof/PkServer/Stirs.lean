/-
This file proves that the functions of a battle touch the hate, the reach, and the uses of the skills
in a few kinds of steps only.
-/

import AppSvr.Proof.PkServer.Transitions

namespace AppSvr.PkServer
open Relation

/-- A component of the hate lies between zero and eight. -/
def HaterInfo.InRange (info : HaterInfo) : Prop :=
  ∀ part ∈ [info.distance, info.hp, info.attack, info.hit], 0 ≤ part ∧ part ≤ 8

instance (info : HaterInfo) : Decidable info.InRange :=
  inferInstanceAs (Decidable (∀ part ∈ _, _))

namespace RoleState

def HatesInRange (role : RoleState) : Prop := ∀ entry ∈ role.hatreMap, entry.2.InRange

/-- The reach is not so negative that a distance minus the reach leaves `short int`. -/
def Reaching (role : RoleState) : Prop := -9 ≤ role.physicalAttrib.attackArea

/-- The parts that the course of a buff never touches. -/
def lasting (role : RoleState) : Int × List (Int × SkillAttr) × List (Int × HaterInfo) :=
  (role.physicalAttrib.attackArea, role.magicAttrb.skillMap, role.hatreMap)

section Lasting

variable (role : RoleState) (value : Int)

@[simp] theorem addSpeedMod_lasting : (role.addSpeedMod value).lasting = role.lasting := rfl
@[simp] theorem addAttackHit_lasting : (role.addAttackHit value).lasting = role.lasting := rfl
@[simp] theorem addAttackCrit_lasting : (role.addAttackCrit value).lasting = role.lasting := rfl
@[simp] theorem addDefenseArmor_lasting : (role.addDefenseArmor value).lasting = role.lasting := rfl
@[simp] theorem addAttackPowerAdd_lasting :
    (role.addAttackPowerAdd value).lasting = role.lasting := rfl
@[simp] theorem addHurtAdd_lasting : (role.addHurtAdd value).lasting = role.lasting := rfl
@[simp] theorem addCurrHpMax_lasting : (role.addCurrHpMax value).lasting = role.lasting := rfl
@[simp] theorem addCurrMpMax_lasting : (role.addCurrMpMax value).lasting = role.lasting := rfl
@[simp] theorem addHp_lasting : (role.addHp value).lasting = role.lasting := rfl
@[simp] theorem addMoveLimit_lasting : (role.addMoveLimit value).lasting = role.lasting := rfl
@[simp] theorem addPhysicalLimit_lasting :
    (role.addPhysicalLimit value).lasting = role.lasting := rfl
@[simp] theorem addMagicLimit_lasting : (role.addMagicLimit value).lasting = role.lasting := rfl
@[simp] theorem addExempt_lasting : (role.addExempt value).lasting = role.lasting := rfl
@[simp] theorem addExemptBad_lasting : (role.addExemptBad value).lasting = role.lasting := rfl
@[simp] theorem addExemptAll_lasting : (role.addExemptAll value).lasting = role.lasting := rfl
@[simp] theorem setOrderType_lasting : (role.setOrderType value).lasting = role.lasting := rfl

theorem replace_lasting (check : Option Nat) {undo : Buff → RoleState → RoleState}
    (store : Buff → Buff) (undone : ∀ old, (undo old role).lasting = role.lasting) :
    (role.replace check undo store).lasting = role.lasting := by
  unfold RoleState.replace
  split
  · rfl
  · split
    · rfl
    · exact undone _

theorem updataEffect_lasting (check : Option Nat) (buff : Buff) :
    (role.updataEffect value check buff).lasting = role.lasting := by
  have replaced (undo : Buff → RoleState → RoleState) (store : Buff → Buff)
      (undone : ∀ old, (undo old role).lasting = role.lasting) :
      (role.replace check undo store).lasting = role.lasting := role.replace_lasting check store undone
  unfold RoleState.updataEffect
  dsimp only
  cases buff.type with
  | bySkill =>
      cases buff.parentSkill with
      | yaoShu =>
          cases check with
          | none => rfl
          | some index =>
              dsimp only
              rw [addSpeedMod_lasting]
              exact replaced _ _ fun _ => rfl
      | zuiJiuYunWu | zuZhou | wuGuangZhiDun | fanJiLuoXuan | sheShouTianFu =>
          simp only [addSpeedMod_lasting, addAttackHit_lasting, addHurtAdd_lasting,
            addAttackCrit_lasting]
          exact replaced _ _ fun _ => rfl
      | _ => simp
  | castSkill =>
      cases buff.parentSkill with
      | jianRenFengBao | wuDiZhan | chongFeng | liuXingHuoYU =>
          dsimp only
          split <;> simp
      | _ => simp
  | moveSpeed | armor | attackPower | maxHp | maxMp =>
      simp only [addSpeedMod_lasting, addDefenseArmor_lasting, addAttackPowerAdd_lasting,
        addCurrHpMax_lasting, addCurrMpMax_lasting, addHp_lasting]
      exact replaced _ _ fun _ => rfl
  | xuanYun | noSkill | noMove =>
      dsimp only
      split <;> simp
  | _ => simp

theorem useSkill_lasting {role other : RoleState} (same : role.lasting = other.lasting)
    (code now : Int) : (role.useSkill code now).lasting = (other.useSkill code now).lasting :=
  congrArg (fun parts => (parts.1, parts.2.1.map fun entry =>
    (entry.1, if entry.1 = code then { entry.2 with lastUseTime := now } else entry.2),
      parts.2.2)) same

end Lasting

/-- The reach and the skills stay, and the hate stays in its range. -/
structure Calm (role next : RoleState) : Prop where
  attackArea : next.physicalAttrib.attackArea = role.physicalAttrib.attackArea
  skillMap : next.magicAttrb.skillMap = role.magicAttrb.skillMap
  hatreMap : role.Reaching → role.HatesInRange → next.HatesInRange

namespace Calm

variable {role next last : RoleState}

theorem same (lasting : next.lasting = role.lasting) : role.Calm next := by
  refine ⟨congrArg Prod.fst lasting, congrArg (·.2.1) lasting, fun _ hates => ?_⟩
  have hatreMap : next.hatreMap = role.hatreMap := congrArg (·.2.2) lasting
  unfold HatesInRange
  rwa [hatreMap]

theorem refl (role : RoleState) : role.Calm role := same rfl

theorem trans (before : role.Calm next) (after : next.Calm last) : role.Calm last where
  attackArea := after.attackArea.trans before.attackArea
  skillMap := after.skillMap.trans before.skillMap
  hatreMap reaching hates := by
    refine after.hatreMap ?_ (before.hatreMap reaching hates)
    unfold Reaching
    rwa [before.attackArea]

theorem dead (role : RoleState) : role.Calm role.dead :=
  ⟨rfl, rfl, fun _ _ _ member => absurd member List.not_mem_nil⟩

end Calm

end RoleState

/-- The message tells the clients that a role uses a skill. -/
def Broadcast.IsSkill : Broadcast → Prop
  | .skill .. => True
  | _ => False

namespace PKPE

/-- These are the steps in which a battle touches the hate, the reach, or the uses of the skills. -/
inductive Stir (battle : PKPE) : PKPE → Prop where
  | aside {next : PKPE} (roles : next.toRoles = battle.toRoles) (sent : next.sent = battle.sent)
      (fragmentNow : next.fragmentNow = battle.fragmentNow)
      (pkState : next.pkState = .ready → battle.pkState = .ready)
      (orders : ∀ skillOrder ∈ next.skillOrderList, skillOrder ∈ battle.skillOrderList ∨
        skillOrder.role ∈ battle.ids) : Stir battle next
  | send (message : Broadcast) (other : ¬ message.IsSkill) : Stir battle (battle.send message)
  | role (id : Int) (change : RoleState → RoleState)
      (calm : (battle.role id).Calm (change (battle.role id))) :
      Stir battle (battle.modifyRole id change)
  | use (id code targetType : Int) (target : Pos ⊕ Int) (skill : SkillAttr)
      (found : (battle.role id).skill? code = some skill) (ready : battle.canRevive skill) :
      Stir battle ((battle.send (.skill id code targetType target)).modifyRole id fun role =>
        role.useSkill code battle.fragmentNow)
  | insertRole (role : RoleState) (unskilled : role.magicAttrb.skillMap = [])
      (hatreMap : role.hatreMap = [])
      (reaching : role.Reaching ∨ ∃ source ∈ battle.ids,
        role.physicalAttrib.attackArea = (battle.role source).physicalAttrib.attackArea) :
      Stir battle (battle.insertRole role)

abbrev Stirs (battle next : PKPE) : Prop := ReflTransGen Stir battle next

theorem Stir.ids {battle next : PKPE} (step : battle.Stir next) : battle.ids ⊆ next.ids := by
  cases step with
  | aside roles =>
      rw [roles]
      exact List.Subset.refl _
  | insertRole role =>
      rcases battle.insertRole_cases role with same | ⟨_, same⟩
      · rw [same]
        exact List.Subset.refl _
      · rw [same]
        exact fun id member => (List.mem_orderedInsert ..).mpr (.inr member)
  | _ => exact List.Subset.refl _

theorem Stir.orders {battle next : PKPE} (step : battle.Stir next)
    (members : ∀ skillOrder ∈ battle.skillOrderList, skillOrder.role ∈ battle.ids) :
    ∀ skillOrder ∈ next.skillOrderList, skillOrder.role ∈ next.ids := by
  intro skillOrder listed
  refine step.ids ?_
  cases step with
  | aside _ _ _ _ orders =>
      rcases orders skillOrder listed with old | member
      · exact members skillOrder old
      · exact member
  | insertRole role =>
      rcases battle.insertRole_cases role with same | ⟨_, same⟩ <;>
        exact members skillOrder (by rwa [same] at listed)
  | _ => exact members skillOrder listed

namespace Stirs

variable {battle next : PKPE}

theorem ids (before : battle.Stirs next) : battle.ids ⊆ next.ids := by
  induction before with
  | refl => exact List.Subset.refl _
  | tail _ step ih => exact List.Subset.trans ih step.ids

/-- Only roles of the battle give orders to cast skills. -/
theorem orders (before : battle.Stirs next)
    (members : ∀ skillOrder ∈ battle.skillOrderList, skillOrder.role ∈ battle.ids) :
    ∀ skillOrder ∈ next.skillOrderList, skillOrder.role ∈ next.ids := by
  induction before with
  | refl => exact members
  | tail _ step ih => exact step.orders ih

section Parts

variable (before : battle.Stirs next)
include before

theorem note (call : Call) : battle.Stirs (next.note call) :=
  before.tail (.aside rfl rfl rfl (fun ready => ready) fun _ => .inl)

theorem send {message : Broadcast} (other : ¬ message.IsSkill) : battle.Stirs (next.send message) :=
  before.tail (.send message other)

variable {id : Int}

theorem calm {change : RoleState → RoleState}
    (calm : (next.role id).Calm (change (next.role id))) :
    battle.Stirs (next.modifyRole id change) :=
  before.tail (.role id change calm)

/-- Most changes of a role touch none of these parts. -/
theorem lasting {change : RoleState → RoleState}
    (same : (change (next.role id)).lasting = (next.role id).lasting) :
    battle.Stirs (next.modifyRole id change) :=
  before.calm (.same same)

/-- A role that uses a skill may change its other parts at once. -/
theorem use {code targetType : Int} {target : Pos ⊕ Int} {skill : SkillAttr}
    {change : RoleState → RoleState} (found : (next.role id).skill? code = some skill)
    (ready : next.canRevive skill) (same : (change (next.role id)).lasting =
      ((next.role id).useSkill code next.fragmentNow).lasting) :
    battle.Stirs ((next.send (.skill id code targetType target)).modifyRole id change) := by
  have used := before.tail (.use id code targetType target skill found ready)
  have after : battle.Stirs (((next.send (.skill id code targetType target)).modifyRole id
      fun role => role.useSkill code next.fragmentNow).modifyRole id
        fun _ => change (next.role id)) := by
    refine Stirs.lasting used ?_
    rw [modifyRole_self]
    exact same
  rw [modifyRole_modifyRole] at after
  have equal : (next.send (.skill id code targetType target)).modifyRole id change =
      (next.send (.skill id code targetType target)).modifyRole id
        fun _ => change (next.role id) := by
    simp [modifyRole]
  rwa [equal]

theorem rand : battle.Stirs next.rand.2 := by
  obtain ⟨draws, starved, same⟩ := next.exists_rand
  rw [same]
  exact before.tail (.aside rfl rfl rfl (fun ready => ready) fun _ => .inl)

theorem checkOver (opposition : Int) : battle.Stirs (next.checkOver opposition) := by
  have ended : battle.Stirs (next.endGame (next.winOpposition opposition)) := by
    unfold endGame
    dsimp only
    split
    · exact (before.note _).rand
    · exact ((before.note _).rand.send (by simp [Broadcast.IsSkill])).send
        (by simp [Broadcast.IsSkill])
  unfold PKPE.checkOver
  split
  · exact before
  · split
    · exact before
    · exact ended.tail (.aside rfl rfl rfl (by simp) fun _ => .inl)

end Parts

section Loops

/-- A loop goes on when every pass does. -/
theorem foldl {α : Type*} (before : battle.Stirs next) {body : PKPE → α → PKPE} {values : List α}
    (pass : ∀ value ∈ values, ∀ state : PKPE, next.Stirs state → state.Stirs (body state value)) :
    battle.Stirs (values.foldl body next) := by
  refine before.trans (List.foldlRecOn (motive := fun state : PKPE => next.Stirs state) values body .refl ?_)
  exact fun (state : PKPE) (reached : next.Stirs state) value member =>
    reached.trans (pass value member state reached)

theorem forRoles (before : battle.Stirs next) {body : Int → PKPE → PKPE}
    (pass : ∀ target ∈ next.ids, ∀ state : PKPE, next.Stirs state → state.Stirs (body target state)) :
    battle.Stirs (next.forRoles body) :=
  before.foldl pass

theorem forSelected (before : battle.Stirs next) {id : Int}
    {select : RoleState → RoleState → Bool} {body : Int → PKPE → PKPE}
    (pass : ∀ target (state : PKPE), state.Stirs (body target state)) :
    battle.Stirs (next.forSelected id select body) := by
  refine before.forRoles fun target _ state _ => ?_
  split
  · exact pass target state
  · exact .refl

end Loops

section Buffs

variable (before : battle.Stirs next) {id : Int}
include before

theorem sendSkillBuffer (tmpBuff : Buff) : battle.Stirs (next.sendSkillBuffer id tmpBuff) := by
  unfold PKPE.sendSkillBuffer
  split
  · exact before.send (by simp [Broadcast.IsSkill])
  · exact before

theorem updataBufferAdd {interrupt : Int → PKPE → PKPE}
    (interrupts : ∀ id state, battle.Stirs state → battle.Stirs (interrupt id state))
    (tmpBuff : Buff) : battle.Stirs (updataBufferAdd interrupt id tmpBuff next) := by
  unfold PKPE.updataBufferAdd
  dsimp only
  split
  · exact before.note _
  · exact ((before.note _).lasting rfl).sendSkillBuffer _
  · exact (((before.note _).lasting rfl).sendSkillBuffer _).lasting
      (RoleState.updataEffect_lasting ..)
  · refine Stirs.lasting ?_ (RoleState.updataEffect_lasting ..)
    split
    · exact interrupts id _ ((before.note _).sendSkillBuffer _)
    · exact (before.note _).sendSkillBuffer _

theorem revive {skill : SkillAttr} (found : (next.role id).skill? SkillType.fuHuo.code = some skill)
    (ready : next.canRevive skill) : battle.Stirs (next.revive id skill) := by
  rw [revive_eq]
  refine (before.note _).use found ready ?_
  have same : (((next.role id).cleared.insertBuff (next.reviveBuff skill.skillLevel)).updataEffect 1
      none (next.reviveBuff skill.skillLevel)).lasting = (next.role id).lasting :=
    RoleState.updataEffect_lasting ..
  exact RoleState.useSkill_lasting same _ _

theorem onRoleDead (undone : List Buff) : battle.Stirs (onRoleDead undone id next) := by
  have sent : battle.Stirs ((next.note (.onRoleDead (next.role id) undone)).send (.dead id)) :=
    (before.note _).send (by simp [Broadcast.IsSkill])
  have dead : battle.Stirs ((((next.note (.onRoleDead (next.role id) undone)).send (.dead id)).modifyRole
      id RoleState.dead).checkOver (next.role id).opposition) :=
    (sent.calm (.dead _)).checkOver _
  unfold PKPE.onRoleDead
  dsimp only
  split
  · next skill found =>
      split
      · next ready => exact sent.revive found ready
      · exact dead
  · exact dead

theorem loseHp (hurt : Int) (effect : HpEffect) : battle.Stirs (loseHp id hurt effect next) := by
  have hit : battle.Stirs (((next.note (.hurt (next.role id) hurt)).modifyRole id fun role =>
      role.addHp (-hurt)).send (.hpChange id (short (-hurt)) effect)) :=
    ((before.note _).lasting rfl).send (by simp [Broadcast.IsSkill])
  unfold PKPE.loseHp
  dsimp only
  split
  · exact hit.onRoleDead _
  · exact hit

theorem calculateSkillHurt (attackLevel hurtValue : Int) (effect : SkillType) :
    battle.Stirs (calculateSkillHurt id attackLevel hurtValue effect next) :=
  before.loseHp _ _

theorem multiHurtOne (target : Int × Int) (deadOpp : Int) :
    battle.Stirs (multiHurtOne target (deadOpp, next)).2 := by
  have hit : battle.Stirs (next.modifyRole target.1 fun role => role.addHp (-target.2)) :=
    before.lasting rfl
  unfold PKPE.multiHurtOne
  dsimp only
  split
  · exact before
  · split
    · exact (hit.lasting rfl).send (by simp [Broadcast.IsSkill])
    · exact hit

theorem calculateMultiSkillHurt (targets : List (Int × Int)) (attackLevel : Int)
    (effect : SkillType) :
    battle.Stirs (calculateMultiSkillHurt targets attackLevel effect next) := by
  have struck (targets : List (Int × Int)) (state : Int × PKPE) (before : battle.Stirs state.2) :
      battle.Stirs (targets.foldl (fun state target => PKPE.multiHurtOne target state) state).2 := by
    induction targets generalizing state with
    | nil => exact before
    | cons target targets ih => exact ih _ (before.multiHurtOne target state.1)
  unfold PKPE.calculateMultiSkillHurt
  dsimp only
  generalize List.map _ targets = values
  have hit := struck values (-1, next.note (.multiHurt next.toRoles next.pkState values))
    (before.note _)
  generalize List.foldl _ _ values = state at hit ⊢
  obtain ⟨deadOpp, struck⟩ := state
  have sent : battle.Stirs (if values = [] then struck else struck.send (.multiHurt values effect)) := by
    split
    · exact hit
    · exact hit.send (by simp [Broadcast.IsSkill])
  dsimp only
  split
  · exact sent.checkOver _
  · exact sent

theorem skillProcess209Buffer (buff : Buff) :
    battle.Stirs (skillProcess209Buffer id buff next) := by
  refine before.forRoles fun target _ state _ => ?_
  dsimp only
  split
  · exact Stirs.calculateSkillHurt .refl _ _ _
  · exact .refl

theorem curseEnds (buff : Buff) : battle.Stirs (curseEnds id buff next) := by
  have hit (hurt : Int) : battle.Stirs (((next.note (.hurt (next.role id) hurt)).send
      (.hpChange id (short (-hurt)) (.skill .zuZhou))).modifyRole id fun role =>
        role.addHp (-hurt)) :=
    ((before.note _).send (by simp [Broadcast.IsSkill])).lasting rfl
  unfold PKPE.curseEnds
  dsimp only
  split
  · exact ((hit _).lasting rfl).onRoleDead _
  · exact hit _

theorem updataBufferDel (buff : Buff) : battle.Stirs (updataBufferDel id buff next) := by
  have sent : battle.Stirs (if buff.bSendClient then
      (next.note (.delBuffer (next.role id) buff)).sendBufferStop id buff
      else next.note (.delBuffer (next.role id) buff)) := by
    split
    · exact (before.note _).send (by simp [Broadcast.IsSkill])
    · exact before.note _
  have undo (state : PKPE) (sent : battle.Stirs state) : battle.Stirs (state.modifyRole id
      fun role => role.updataEffect (-1) none buff) :=
    sent.lasting (RoleState.updataEffect_lasting ..)
  have undone := undo _ sent
  unfold PKPE.updataBufferDel
  dsimp only
  split
  · exact undone.curseEnds _
  · exact undone.skillProcess209Buffer _
  · exact (undone.lasting rfl).send (by simp [Broadcast.IsSkill])
  · exact undone.onRoleDead _
  · exact undone

theorem eraseIterator (index : Nat) (buffs : List Buff) :
    battle.Stirs (eraseIterator id index buffs next) := by
  unfold PKPE.eraseIterator
  split
  · exact before.lasting rfl
  · exact before.note _

theorem breakLoop (fuel index : Nat) : battle.Stirs (breakLoop id fuel index next) := by
  induction fuel generalizing index next with
  | zero => exact before
  | succ fuel ih =>
      unfold PKPE.breakLoop
      split
      · exact before
      · split
        · exact ih (((before.updataBufferDel _).send (by simp [Broadcast.IsSkill])).eraseIterator _ _) _
        · exact ih before _

theorem updataBuffer (buff : Buff) : battle.Stirs (updataBuffer id buff next) :=
  before.updataBufferAdd (fun _ _ before => before.breakLoop _ _) buff

end Buffs

end Stirs

end PKPE

end AppSvr.PkServer
