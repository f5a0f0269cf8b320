/-
This file proves that the skills, the bullets, and the buffs take only these steps.
-/

import AppSvr.Proof.PkServer.Stirs

namespace AppSvr.PkServer
open Relation

namespace PKPE

namespace Stirs

variable {battle next : PKPE} {id : Int}

section Targets

variable {order : RoleOrder}

theorem onTarget (before : battle.Stirs next) {body : Int → PKPE → PKPE}
    (pass : order.targetRoleID ∈ next.ids → battle.Stirs (body order.targetRoleID next)) :
    battle.Stirs (next.onTarget order body) := by
  unfold PKPE.onTarget find
  split
  · exact before
  · next found =>
      split at found
      · next member => exact pass member
      · simp at found

theorem onLine (before : battle.Stirs next) {body : Pos → PKPE → PKPE}
    (pass : ∀ tempPos, battle.Stirs (body tempPos next)) :
    battle.Stirs (next.onLine order body) := by
  unfold PKPE.onLine
  split
  · exact pass _
  · exact before.onTarget fun _ => pass _

variable (before : battle.Stirs next) {level : Int}
include before

theorem supply (draws : List Nat) (objects : List RoleState) (starved crashed : Bool) :
    battle.Stirs { next with
      draws := draws, objects := objects, starved := starved, crashed := crashed } :=
  before.tail (.aside rfl rfl rfl (fun ready => ready) fun _ => .inl)

theorem addBullet (bullet : Bullet) : battle.Stirs (next.addBullet bullet) :=
  before.tail (.aside rfl rfl rfl (fun ready => ready) fun _ => .inl)

theorem throwBullet (skill : SkillType) : battle.Stirs (throwBullet skill id order level next) :=
  before.onTarget fun _ => before.addBullet _

theorem skillProcess201 : battle.Stirs (skillProcess201 id order level next) := by
  refine before.onTarget fun _ => ?_
  dsimp only
  split
  · exact (before.calculateSkillHurt _ _ _).updataBuffer _
  · exact before.calculateSkillHurt _ _ _

theorem skillProcess202 : battle.Stirs (skillProcess202 id order level next) :=
  before.onTarget fun _ => before.updataBuffer _

theorem skillProcess203 : battle.Stirs (skillProcess203 id order level next) :=
  before.onTarget fun _ => before.updataBuffer _

theorem skillProcess204 : battle.Stirs (skillProcess204 id order level next) :=
  before.updataBuffer _

theorem skillProcess204Buffer (hurtValue : Int) :
    battle.Stirs (skillProcess204Buffer id hurtValue next) :=
  before.forSelected fun _ _ => Stirs.calculateSkillHurt .refl _ _ _

theorem skillProcess207Effect (targetPos : Pos) :
    battle.Stirs (skillProcess207Effect targetPos id level next) :=
  before.forSelected fun _ _ => (Stirs.updataBuffer .refl _).calculateSkillHurt _ _ _

theorem skillProcess208 : battle.Stirs (skillProcess208 id order level next) :=
  before.onTarget fun _ => before.calculateSkillHurt _ _ _

theorem skillProcess209 : battle.Stirs (skillProcess209 id order level next) := by
  unfold PKPE.skillProcess209
  dsimp only
  split
  · exact before.updataBuffer _
  · exact before.onTarget fun _ => before.updataBuffer _

theorem skillProcess210 : battle.Stirs (skillProcess210 id order level next) :=
  before.updataBuffer _

theorem skillProcess210Buffer (index : Nat) (buff : Buff) :
    battle.Stirs (skillProcess210Buffer id index buff next) := by
  unfold PKPE.skillProcess210Buffer
  split
  · dsimp only
    split
    · have run : battle.Stirs ((next.rand.2.send (.bufferRun id .fanJiLuoXuan buff.beginTime)).modifyRole
          id fun role => role.modifyBuff index fun buff => { buff with parametar2 := 0 }) :=
        (before.rand.send (by simp [Broadcast.IsSkill])).lasting rfl
      exact run.forSelected fun _ _ => Stirs.calculateSkillHurt .refl _ _ _
    · exact before.rand
  · exact before

theorem divideByZero : battle.Stirs next.divideByZero :=
  before.supply next.draws next.objects next.starved true

theorem skillProcess211 : battle.Stirs (skillProcess211 id order level next) := by
  refine before.onLine fun tempPos => ?_
  dsimp only
  split
  · exact before.divideByZero
  · exact before.forSelected fun _ _ => (Stirs.updataBuffer .refl _).calculateSkillHurt _ _ _

theorem skillProcess213 : battle.Stirs (skillProcess213 id order level next) :=
  before.forSelected fun _ _ => Stirs.updataBuffer .refl _

theorem skillProcess214 : battle.Stirs (skillProcess214 id order level next) :=
  before.forSelected fun _ _ => Stirs.updataBuffer .refl _

theorem dispelLoop (fuel index : Nat) : battle.Stirs (dispelLoop id fuel index next) := by
  induction fuel generalizing index next with
  | zero => exact before
  | succ fuel ih =>
      unfold PKPE.dispelLoop
      split
      · exact before
      · split
        · exact ih ((before.updataBufferDel _).eraseIterator _ _) _
        · exact ih before _

theorem skillProcess215 : battle.Stirs (skillProcess215 id order level next) := by
  refine before.onTarget fun _ => ?_
  dsimp only
  split
  · exact before.calculateSkillHurt _ _ _
  · split
    · have hurt : battle.Stirs (PKPE.calculateSkillHurt order.targetRoleID (next.role id).level 0
        .quSan next) := before.calculateSkillHurt _ _ _
      split
      · exact (hurt.dispelLoop _ _).updataBuffer _
      · exact hurt.dispelLoop _ _
    · split
      · exact (before.dispelLoop _ _).updataBuffer _
      · exact before.dispelLoop _ _

theorem skillProcess216 : battle.Stirs (skillProcess216 id order level next) :=
  before.onTarget fun _ => before.calculateMultiSkillHurt _ _ _

theorem skillProcess217Effect (bullet : Bullet) :
    battle.Stirs (skillProcess217Effect bullet next) := by
  unfold PKPE.skillProcess217Effect
  split
  · exact before.updataBuffer _
  · exact before

theorem skillProcess218Buffer (buff : Buff) :
    battle.Stirs (skillProcess218Buffer id buff next) := by
  refine before.forSelected fun target state => ?_
  dsimp only
  split
  · exact (Stirs.lasting .refl rfl).send (by simp [Broadcast.IsSkill])
  · exact .refl

theorem skillProcess219 : battle.Stirs (skillProcess219 id order level next) := by
  unfold PKPE.skillProcess219
  dsimp only
  split
  · exact before.onLine fun _ => (before.updataBuffer _).lasting rfl
  · exact before

theorem skillProcess219Effect (buff : Buff) :
    battle.Stirs (skillProcess219Effect id buff next) := by
  unfold PKPE.skillProcess219Effect
  dsimp only
  split
  · exact before
  · exact before.calculateMultiSkillHurt _ _ _

theorem skillProcess220 : battle.Stirs (skillProcess220 id order level next) := by
  unfold PKPE.skillProcess220
  exact before.forSelected fun _ _ => (Stirs.updataBuffer .refl _).calculateSkillHurt _ _ _

theorem skillProcess221 : battle.Stirs (skillProcess221 id order level next) :=
  before.forSelected fun _ _ => Stirs.updataBuffer .refl _

theorem relocate (endPos : Pos) (skill : SkillType) :
    battle.Stirs (relocate id endPos skill next) :=
  ((before.note _).lasting rfl).send (by simp [Broadcast.IsSkill])

theorem skillProcess222 : battle.Stirs (skillProcess222 id order level next) := by
  refine before.onLine fun tempPos => ?_
  dsimp only
  split
  · exact before.divideByZero
  · refine Stirs.forSelected ?_ fun _ _ => Stirs.calculateSkillHurt .refl _ _ _
    exact (((before.note _).lasting rfl).relocate _ _).updataBuffer _

theorem skillProcess223Effect (targetPos : Pos) (opposition : Int) :
    battle.Stirs (skillProcess223Effect targetPos opposition level next) := by
  refine before.forRoles fun target _ state _ => ?_
  dsimp only
  split
  · exact Stirs.updataBuffer .refl _
  · exact .refl

theorem skillProcess224 : battle.Stirs (skillProcess224 id order level next) :=
  before.updataBuffer _

theorem drawVictim (count : Int) (tries : Nat) :
    battle.Stirs (drawVictim id count tries next).2 := by
  induction tries generalizing next with
  | zero => exact before
  | succ tries ih =>
      unfold PKPE.drawVictim
      dsimp only
      split
      · exact before.rand
      · split
        · exact before.rand
        · exact ih before.rand

theorem drawCell (pos : Pos) (draws : Nat) : battle.Stirs (drawCell pos draws next).2 := by
  induction draws generalizing next with
  | zero => exact before.supply next.draws next.objects true next.crashed
  | succ draws ih =>
      unfold PKPE.drawCell
      dsimp only
      split
      · exact before.rand
      · exact ih before.rand

theorem skillProcess224Effect (buff : Buff) :
    battle.Stirs (skillProcess224Effect id buff next) := by
  unfold PKPE.skillProcess224Effect
  dsimp only
  have drawn : battle.Stirs (PKPE.drawVictim id (short next.ids.length)
    (short (short next.ids.length * 3)).toNat next).2 := before.drawVictim _ _
  split
  · next same =>
      rw [same] at drawn
      exact drawn
  · next same =>
      rw [same] at drawn
      exact ((drawn.drawCell _ _).relocate _ _).calculateSkillHurt _ _ _

theorem skillProcess225 : battle.Stirs (skillProcess225 id order level next) :=
  before.onTarget fun _ => before.updataBuffer _

theorem skillProcess226 : battle.Stirs (skillProcess226 id order level next) :=
  before.onTarget fun _ => before.updataBuffer _

theorem skillProcess227 : battle.Stirs (skillProcess227 id order level next) := by
  refine before.onLine fun tempPos => ?_
  dsimp only
  split
  · exact before.divideByZero
  · exact before.forSelected fun _ _ => Stirs.calculateSkillHurt .refl _ _ _

theorem skillProcess228 : battle.Stirs (skillProcess228 id order level next) := by
  refine before.onTarget fun _ => before.forRoles fun target _ state _ => ?_
  split
  · exact Stirs.updataBuffer .refl _
  · exact .refl

theorem skillProcess229 : battle.Stirs (skillProcess229 id order level next) := by
  unfold PKPE.skillProcess229
  exact before.forSelected fun _ _ => Stirs.calculateSkillHurt .refl _ _ _

theorem skillProcess230 : battle.Stirs (skillProcess230 id order level next) :=
  before.updataBuffer _

theorem skillProcess231 : battle.Stirs (skillProcess231 id order level next) :=
  before.onTarget fun _ => before.updataBuffer _

theorem skillProcess233 : battle.Stirs (skillProcess233 id order level next) :=
  before.updataBuffer _

theorem skillProcess234 : battle.Stirs (skillProcess234 id order level next) := by
  refine before.onTarget fun _ => ?_
  have lost (value hurt : Int) : battle.Stirs (loseWithoutCheck order.targetRoleID value
      (loseWithoutCheck id hurt next)) :=
    (((before.note _).lasting rfl).note _).lasting rfl
  exact ((lost _ _).send (by simp [Broadcast.IsSkill])).send (by simp [Broadcast.IsSkill])

theorem skillProcess235 : battle.Stirs (skillProcess235 id order level next) :=
  before.forSelected fun _ _ => Stirs.updataBuffer .refl _

end Targets

section Summons

variable (before : battle.Stirs next) {order : RoleOrder} {level : Int}
include before

theorem newObject (default : RoleState) : battle.Stirs (next.newObject default).2 := by
  unfold PKPE.newObject
  split
  · exact before.supply next.draws next.objects true next.crashed
  · exact before.supply next.draws _ next.starved next.crashed

theorem insertRole {role : RoleState} (unskilled : role.magicAttrb.skillMap = [])
    (hatreMap : role.hatreMap = []) (reaching : role.Reaching ∨ ∃ source ∈ next.ids,
      role.physicalAttrib.attackArea = (next.role source).physicalAttrib.attackArea) :
    battle.Stirs (next.insertRole role) :=
  before.tail (.insertRole role unskilled hatreMap reaching)

omit before in
/-- A new object has neither skills nor hate. -/
theorem newObject_lasting (next : PKPE) (default : RoleState) :
    (next.newObject default).1.magicAttrb.skillMap = [] ∧
      (next.newObject default).1.hatreMap = [] ∧
        (next.newObject default).2.toRoles = next.toRoles := by
  unfold PKPE.newObject
  split <;> exact ⟨rfl, rfl, rfl⟩

theorem join {role : RoleState} (keepTime copiedID : Int) (effect : SkillType)
    (unskilled : role.magicAttrb.skillMap = []) (hatreMap : role.hatreMap = [])
    (reaching : role.Reaching ∨ ∃ source ∈ next.ids,
      role.physicalAttrib.attackArea = (next.role source).physicalAttrib.attackArea) :
    battle.Stirs (join role level keepTime copiedID effect next) := by
  have same := RoleState.updataEffect_lasting
    (role.insertBuff (next.callBuffer effect level keepTime)) 1 none
    (next.callBuffer effect level keepTime)
  have skills := congrArg (·.2.1) same
  have hates := congrArg (·.2.2) same
  have area := congrArg Prod.fst same
  refine Stirs.send ((before.note _).insertRole (skills.trans unskilled) (hates.trans hatreMap) ?_)
    (by simp [Broadcast.IsSkill])
  rcases reaching with near | ⟨source, member, equal⟩
  · exact .inl (near.trans_eq area.symm)
  · exact .inr ⟨source, member, Eq.trans area equal⟩

theorem skillProcess205 : battle.Stirs (skillProcess205 id order level next) := by
  have fresh := newObject_lasting next (next.role id)
  exact (before.newObject (next.role id)).join _ _ _ fresh.1 fresh.2.1
    (.inl (show (-9 : Int) ≤ 2 by decide))

theorem skillProcess206 : battle.Stirs (skillProcess206 id order level next) := by
  refine before.onTarget fun member => ?_
  have fresh := newObject_lasting next (next.role id)
  refine (before.newObject (next.role id)).join _ _ _ fresh.1 fresh.2.1 (.inr ?_)
  rw [fresh.2.2]
  exact ⟨order.targetRoleID, member, rfl⟩

theorem callPos : battle.Stirs (callPos id order next).2 := before.note _

theorem skillProcess212 : battle.Stirs (skillProcess212 id order level next) := by
  have fresh := newObject_lasting next (next.role id)
  have called : battle.Stirs (PKPE.callPos id order (next.newObject (next.role id)).2).2 :=
    (before.newObject (next.role id)).callPos
  exact called.join _ _ _ fresh.1 fresh.2.1 (.inl (show (-9 : Int) ≤ 10 by decide))

/-- A role may join with two buffs. -/
theorem insertTwice {role : RoleState} {first second : Buff}
    (unskilled : role.magicAttrb.skillMap = []) (hatreMap : role.hatreMap = [])
    (reaching : role.Reaching) :
    battle.Stirs (next.insertRole ((((role.insertBuff first).updataEffect 1 none first).insertBuff
      second).updataEffect 1 none second)) := by
  have same := (RoleState.updataEffect_lasting (((role.insertBuff first).updataEffect 1 none
    first).insertBuff second) 1 none second).trans
      (RoleState.updataEffect_lasting (role.insertBuff first) 1 none first)
  have skills := congrArg (·.2.1) same
  have hates := congrArg (·.2.2) same
  have area := congrArg Prod.fst same
  exact before.insertRole (skills.trans unskilled) (hates.trans hatreMap)
    (.inl (reaching.trans_eq area.symm))

theorem skillProcess218 : battle.Stirs (skillProcess218 id order level next) := by
  have fresh := newObject_lasting next (next.role id)
  have called : battle.Stirs (PKPE.callPos id order (next.newObject (next.role id)).2).2 :=
    (before.newObject (next.role id)).callPos
  exact (((called.note _).note _).send (by simp [Broadcast.IsSkill])).insertTwice fresh.1 fresh.2.1
    (show (-9 : Int) ≤ 13 by decide)

theorem skillProcess232 (member : id ∈ next.ids) :
    battle.Stirs (skillProcess232 id order level next) := by
  have fresh := newObject_lasting next (next.role id)
  refine (before.newObject (next.role id)).join _ _ _ fresh.1 fresh.2.1 (.inr ?_)
  rw [fresh.2.2]
  exact ⟨id, member, rfl⟩

end Summons

section Bullets

variable (before : battle.Stirs next)
include before

theorem shieldLoop (fuel index : Nat) (hurtValue : Int) :
    battle.Stirs (shieldLoop id fuel index hurtValue next).2 := by
  induction fuel generalizing index hurtValue next with
  | zero => exact before
  | succ fuel ih =>
      have store (index : Nat) (value : Int) : battle.Stirs (next.modifyRole id fun role =>
          role.modifyBuff index fun buff => { buff with parametar2 := value }) :=
        before.lasting rfl
      unfold PKPE.shieldLoop
      split
      · exact before
      · split
        · dsimp only
          split
          · exact ih ((((store _ _).skillProcess209Buffer _).send
              (by simp [Broadcast.IsSkill])).lasting rfl) _ _
          · exact ih (store _ _) _ _
        · split
          · exact ih (before.skillProcess210Buffer _ _) _ _
          · exact ih before _ _

theorem weaponHurt (attack target : RoleState) :
    battle.Stirs (weaponHurt attack target next).2.2 := by
  unfold PKPE.weaponHurt
  dsimp only
  generalize hurt : (if attack.physicalAttrib.attackPowerHignBase -
    attack.physicalAttrib.attackPowerLowBase ≠ 0 then _ else (_, next)) = drawn
  have drew : battle.Stirs drawn.2 := by
    rw [← hurt]
    split
    · exact before.rand
    · exact before
  split
  · exact drew
  · split <;> exact drew.rand

omit before in
theorem sharpen_lasting (role : RoleState) (hurtValue : Int) :
    (role.sharpen hurtValue).2.lasting = role.lasting := by
  unfold RoleState.sharpen
  split
  · rfl
  · split <;> rfl

theorem calculateAttackHurt (attackID targetID : Int) :
    battle.Stirs (calculateAttackHurt attackID targetID next) := by
  unfold PKPE.calculateAttackHurt
  dsimp only
  split
  · exact before.rand.send (by simp [Broadcast.IsSkill])
  · have struck := before.rand.weaponHurt (next.role attackID) (next.role targetID)
    generalize PKPE.weaponHurt (next.role attackID) (next.role targetID) next.rand.2 = hurt
      at struck ⊢
    have collected (value : Int) : battle.Stirs (hurt.2.2.modifyRole targetID fun role =>
        role.collectHurt value) := struck.lasting rfl
    have sharpened (value : Int) : battle.Stirs ((hurt.2.2.modifyRole targetID fun role =>
        role.collectHurt value).modifyRole attackID fun _ => (((hurt.2.2.modifyRole targetID
          fun role => role.collectHurt value).role attackID).sharpen value).2) :=
      (collected value).lasting (sharpen_lasting _ _)
    split
    · exact ((sharpened _).shieldLoop _ _ _).loseHp _ _
    · exact (sharpened _).shieldLoop _ _ _

theorem flyBullet (bullet : Bullet) : battle.Stirs (flyBullet next bullet) := by
  unfold PKPE.flyBullet
  dsimp only
  split
  · exact before
  · split
    · exact before.addBullet _
    · split
      · exact before.calculateAttackHurt _ _
      · split
        · exact before.addBullet _
        · split
          · exact before.calculateAttackHurt _ _
          · exact before.skillProcess207Effect _
          · exact before.skillProcess217Effect _
          · exact before.skillProcess223Effect _ _
          · exact before

theorem calculateBullets : battle.Stirs (calculateBullets next) := by
  have cleared : battle.Stirs { next with bullets := [] } :=
    before.tail (.aside rfl rfl rfl (fun ready => ready) fun _ => .inl)
  exact cleared.foldl fun bullet _ state _ => Stirs.flyBullet .refl bullet

end Bullets

section CourseOfBuffs

variable (before : battle.Stirs next)
include before

theorem runHealth (buff : Buff) : battle.Stirs (runHealth id buff next) := by
  unfold PKPE.runHealth
  dsimp only
  split
  · exact before
  · exact (before.lasting rfl).send (by simp [Broadcast.IsSkill])

theorem runBuffer (index : Nat) (buff : Buff) : battle.Stirs (runBuffer id index buff next) := by
  unfold PKPE.runBuffer
  split
  · exact before.skillProcess204Buffer _
  · exact before.skillProcess219Effect _
  · exact before.skillProcess224Effect _
  · exact before.skillProcess218Buffer _
  · exact before.lasting rfl
  · exact before.runHealth _
  · exact before

theorem countBuff (index : Nat) (buff : Buff) : battle.Stirs (countBuff id index buff next) := by
  have count {state : PKPE} (before : battle.Stirs state) (value : Int) :
      battle.Stirs (state.modifyRole id fun role =>
        role.modifyBuff index fun buff => { buff with runCounter := value }) :=
    before.lasting rfl
  unfold PKPE.countBuff
  dsimp only
  split
  · exact before
  · split
    · exact count before _
    · exact count ((count before _).runBuffer _ _) _

theorem buffLoop (fuel index : Nat) : battle.Stirs (buffLoop id fuel index next) := by
  induction fuel generalizing index next with
  | zero => exact before
  | succ fuel ih =>
      unfold PKPE.buffLoop
      split
      · exact before
      · next buff _ =>
          have counted : battle.Stirs (PKPE.countBuff id index buff next) := before.countBuff _ _
          dsimp only
          split
          · exact counted
          · split
            · split
              · exact counted.updataBufferDel _
              · exact ih ((counted.updataBufferDel _).eraseIterator _ _) _
            · exact ih counted _

theorem calculateBuff : battle.Stirs (calculateBuff id next) := before.buffLoop _ _

end CourseOfBuffs

end Stirs

end PKPE

end AppSvr.PkServer
