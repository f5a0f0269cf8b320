/-
This file proves that no effect of a bullet touches the list of bullets.
-/

import AppSvr.Proof.PkServer.Transitions

namespace AppSvr.PkServer.PKPE

/-- This part of the server leaves the bullets as they are. -/
def KeepsBullets (body : PKPE → PKPE) : Prop :=
  ∀ battle, (body battle).bullets = battle.bullets

section Loops

theorem rand_bullets (battle : PKPE) : battle.rand.2.bullets = battle.bullets := by
  obtain ⟨draws, starved, same⟩ := battle.exists_rand
  rw [same]

theorem keepsBullets_foldl {α : Type*} {body : α → PKPE → PKPE}
    (keeps : ∀ value, KeepsBullets (body value)) (values : List α) (battle : PKPE) :
    (values.foldl (fun battle value => body value battle) battle).bullets = battle.bullets := by
  induction values generalizing battle with
  | nil => rfl
  | cons value values ih => exact (ih _).trans (keeps value battle)

variable {body : Int → PKPE → PKPE} (keeps : ∀ id, KeepsBullets (body id))
include keeps

theorem keepsBullets_forRoles : KeepsBullets fun battle => battle.forRoles body :=
  fun battle => keepsBullets_foldl keeps battle.ids battle

theorem keepsBullets_forSelected (id : Int) (select : RoleState → RoleState → Bool) :
    KeepsBullets (forSelected id select body) := by
  refine keepsBullets_forRoles fun target battle => ?_
  split
  · exact keeps target battle
  · rfl

end Loops

section Buffs

variable (id : Int)

theorem sendSkillBuffer_bullets (battle : PKPE) (tmpBuff : Buff) :
    (battle.sendSkillBuffer id tmpBuff).bullets = battle.bullets := by
  rw [sendSkillBuffer]
  split <;> rfl

theorem updataBufferAdd_bullets {interrupt : Int → PKPE → PKPE}
    (keeps : ∀ id, KeepsBullets (interrupt id)) (tmpBuff : Buff) :
    KeepsBullets (updataBufferAdd interrupt id tmpBuff) := by
  intro battle
  unfold updataBufferAdd
  dsimp only
  split
  · rfl
  · exact sendSkillBuffer_bullets id _ _
  · exact sendSkillBuffer_bullets id _ _
  · rw [modifyRole_bullets]
    split
    · rw [keeps, sendSkillBuffer_bullets, note_bullets]
    · rw [sendSkillBuffer_bullets, note_bullets]

theorem revive_bullets (battle : PKPE) (skill : SkillAttr) :
    (battle.revive id skill).bullets = battle.bullets :=
  updataBufferAdd_bullets id (fun _ _ => rfl) _ _

theorem onRoleDead_bullets (undone : List Buff) : KeepsBullets (onRoleDead undone id) := by
  intro battle
  have ended (opposition : Int) (next : PKPE) :
      (next.checkOver opposition).bullets = next.bullets := (next.checkOver_onlyEnds _).bullets
  unfold onRoleDead
  dsimp only
  split
  · split
    · exact revive_bullets id _ _
    · exact ended _ _
  · exact ended _ _

theorem loseHp_bullets (hurt : Int) (effect : HpEffect) : KeepsBullets (loseHp id hurt effect) := by
  intro battle
  unfold loseHp
  dsimp only
  split
  · exact onRoleDead_bullets id _ _
  · rfl

theorem calculateSkillHurt_bullets (attackLevel hurtValue : Int) (effect : SkillType) :
    KeepsBullets (calculateSkillHurt id attackLevel hurtValue effect) :=
  fun battle => loseHp_bullets id _ _ battle

theorem skillProcess209Buffer_bullets (buff : Buff) :
    KeepsBullets (skillProcess209Buffer id buff) := by
  refine fun battle => keepsBullets_forRoles (fun target battle => ?_) battle
  dsimp only
  split
  · exact calculateSkillHurt_bullets target _ _ _ battle
  · rfl

theorem curseEnds_bullets (buff : Buff) : KeepsBullets (curseEnds id buff) := by
  intro battle
  unfold curseEnds
  dsimp only
  split
  · exact onRoleDead_bullets id _ _
  · rfl

theorem updataBufferDel_bullets (buff : Buff) : KeepsBullets (updataBufferDel id buff) := by
  intro battle
  have sent : (if buff.bSendClient then
      (battle.note (.delBuffer (battle.role id) buff)).sendBufferStop id buff
      else battle.note (.delBuffer (battle.role id) buff)).bullets = battle.bullets := by
    split <;> rfl
  unfold updataBufferDel
  dsimp only
  split
  · exact (curseEnds_bullets id _ _).trans sent
  · exact (skillProcess209Buffer_bullets id _ _).trans sent
  · exact sent
  · exact (onRoleDead_bullets id _ _).trans sent
  · exact sent

theorem eraseIterator_bullets (index : Nat) (before : List Buff) :
    KeepsBullets (eraseIterator id index before) := by
  intro battle
  unfold eraseIterator
  split <;> rfl

theorem breakLoop_bullets (fuel index : Nat) : KeepsBullets (breakLoop id fuel index) := by
  induction fuel generalizing index with
  | zero => exact fun _ => rfl
  | succ fuel ih =>
      intro battle
      unfold breakLoop
      split
      · rfl
      · split
        · rw [ih, eraseIterator_bullets]
          exact updataBufferDel_bullets id _ battle
        · exact ih _ battle

theorem updataBuffer_bullets (buff : Buff) : KeepsBullets (updataBuffer id buff) :=
  updataBufferAdd_bullets id (fun other battle => breakLoop_bullets other _ 0 battle) buff

end Buffs

section Effects

variable (id : Int)

theorem skillProcess210Buffer_bullets (index : Nat) (buff : Buff) :
    KeepsBullets (skillProcess210Buffer id index buff) := by
  intro battle
  unfold skillProcess210Buffer
  split
  · dsimp only
    split
    · refine (keepsBullets_forSelected (fun target battle => ?_) id _ _).trans (rand_bullets battle)
      exact calculateSkillHurt_bullets target _ _ _ battle
    · exact rand_bullets battle
  · rfl

theorem skillProcess207Effect_bullets (targetPos : Pos) (level : Int) :
    KeepsBullets (skillProcess207Effect targetPos id level) := by
  refine keepsBullets_forSelected (fun target battle => ?_) id _
  exact (calculateSkillHurt_bullets target _ _ _ _).trans (updataBuffer_bullets target _ battle)

theorem skillProcess217Effect_bullets (bullet : Bullet) :
    KeepsBullets (skillProcess217Effect bullet) := by
  intro battle
  unfold skillProcess217Effect
  split
  · exact updataBuffer_bullets _ _ battle
  · rfl

theorem skillProcess223Effect_bullets (targetPos : Pos) (opposition level : Int) :
    KeepsBullets (skillProcess223Effect targetPos opposition level) := by
  refine fun battle => keepsBullets_forRoles (fun target battle => ?_) battle
  dsimp only
  split
  · exact updataBuffer_bullets target _ battle
  · rfl

theorem shieldLoop_bullets (fuel index : Nat) (hurtValue : Int) (battle : PKPE) :
    (shieldLoop id fuel index hurtValue battle).2.bullets = battle.bullets := by
  induction fuel generalizing index hurtValue battle with
  | zero => rfl
  | succ fuel ih =>
      unfold shieldLoop
      split
      · rfl
      · split
        · dsimp only
          split
          · rw [ih]
            exact skillProcess209Buffer_bullets id _ _
          · rw [ih]
            rfl
        · split
          · rw [ih]
            exact skillProcess210Buffer_bullets id _ _ battle
          · exact ih _ _ battle

theorem weaponHurt_bullets (attack target : RoleState) (battle : PKPE) :
    (weaponHurt attack target battle).2.2.bullets = battle.bullets := by
  unfold weaponHurt
  dsimp only
  generalize hurt : (if attack.physicalAttrib.attackPowerHignBase -
    attack.physicalAttrib.attackPowerLowBase ≠ 0 then _ else (_, battle)) = drawn
  have before : drawn.2.bullets = battle.bullets := by
    rw [← hurt]
    split
    · exact rand_bullets battle
    · rfl
  split
  · exact before
  · split <;> exact (rand_bullets drawn.2).trans before

theorem calculateAttackHurt_bullets (attackID targetID : Int) :
    KeepsBullets (calculateAttackHurt attackID targetID) := by
  intro battle
  unfold calculateAttackHurt
  dsimp only
  split
  · exact rand_bullets battle
  · generalize hurt :
      weaponHurt (battle.role attackID) (battle.role targetID) battle.rand.2 = struck
    have before : struck.2.2.bullets = battle.bullets := by
      rw [← hurt, weaponHurt_bullets]
      exact rand_bullets battle
    split
    · rw [loseHp_bullets, shieldLoop_bullets]
      exact before
    · rw [shieldLoop_bullets]
      exact before

end Effects

end AppSvr.PkServer.PKPE
