/-
This file proves that the functions of the buffs are sequences of transitions.
-/

import AppSvr.Proof.PkServer.Transitions

namespace AppSvr.PkServer

/-- The end of such a buff changes its role only. -/
structure Buff.Plain (buff : Buff) : Prop where
  call : buff.type ≠ .call
  curse : buff.type = .bySkill → buff.parentSkill ≠ .zuZhou
  shield : buff.type = .bySkill → buff.parentSkill ≠ .wuGuangZhiDun
  weakness : buff.type = .bySkill → buff.parentSkill ≠ .fuHuo

theorem Buff.plain_or (buff : Buff) :
    buff.Plain ∨ buff.type = .call ∨ buff.type = .bySkill ∧ (buff.parentSkill = .zuZhou ∨
      buff.parentSkill = .wuGuangZhiDun ∨ buff.parentSkill = .fuHuo) := by
  by_cases plain : buff.Plain
  · exact .inl plain
  · right
    by_contra other
    push Not at other
    exact plain ⟨other.1, fun type => (other.2 type).1, fun type => (other.2 type).2.1,
      fun type => (other.2 type).2.2⟩

theorem Buff.plain_castSkill {buff : Buff} (type : buff.type = .castSkill) : buff.Plain :=
  ⟨by simp [type], by simp [type], by simp [type], by simp [type]⟩

/-- The last hurt of a curse. -/
def Buff.lastHurt (buff : Buff) : Int :=
  short ((buff.parametar1.tmod 100 * buff.parametar2).tdiv 100)

theorem RoleState.updataEffect_multimapBuff (role : RoleState) (updataType : Int) (buff : Buff) :
    (role.updataEffect updataType none buff).multimapBuff = role.multimapBuff := by
  obtain ⟨_, _, same, _⟩ := role.body_updataEffect buff updataType
  exact (congrArg RoleState.multimapBuff same :)

namespace PKPE

variable {battle : PKPE} {id other : Int} {buff : Buff} {index : Nat}

section Hurts

theorem onRoleDead_of_ne (undone : List Buff) (differs : other ≠ id) :
    (onRoleDead undone id battle).role other = battle.role other := by
  rcases battle.onRoleDead_cases id undone with ⟨skill, _, same⟩ | same
  · rw [same, revive_eq, modifyRole_of_ne _ _ _ _ differs]
    rfl
  · rw [same, (checkOver_onlyEnds _ _).roles, modifyRole_of_ne _ _ _ _ differs]
    rfl

theorem loseHp_of_ne (hurt : Int) (effect : HpEffect) (differs : other ≠ id) :
    (loseHp id hurt effect battle).role other = battle.role other := by
  unfold loseHp
  dsimp only
  split
  · rw [onRoleDead_of_ne _ differs, send_toRoles, modifyRole_of_ne _ _ _ _ differs]
    rfl
  · rw [send_toRoles, modifyRole_of_ne _ _ _ _ differs]
    rfl

/-- The shield of a role does not hurt the role itself. -/
theorem skillProcess209Buffer_self :
    (skillProcess209Buffer id buff battle).role id = battle.role id := by
  unfold skillProcess209Buffer forRoles
  refine List.foldlRecOn (motive := fun state : PKPE => state.role id = battle.role id) battle.ids _ rfl
    fun state same target _ => ?_
  dsimp only
  split
  · next hit =>
      have differs : id ≠ target := by
        rintro rfl
        exact hit.2.1 rfl
      exact (loseHp_of_ne _ _ differs).trans same
  · exact same

end Hurts

section Endings

/-- The end of a buff is recorded and sent. -/
def ending (id : Int) (buff : Buff) (battle : PKPE) : PKPE :=
  let battle := battle.note (.delBuffer (battle.role id) buff)
  if buff.bSendClient then battle.sendBufferStop id buff else battle

@[simp] theorem ending_toRoles : (battle.ending id buff).toRoles = battle.toRoles := by
  unfold ending
  dsimp only
  split <;> rfl

/-- The effect of the buff is taken back. -/
def ended (id : Int) (buff : Buff) (battle : PKPE) : PKPE :=
  (battle.ending id buff).modifyRole id fun role => role.updataEffect (-1) none buff

theorem updataBufferDel_plain (plain : buff.Plain) :
    updataBufferDel id buff battle = battle.ended id buff := by
  unfold updataBufferDel
  dsimp only
  split
  · next type parentSkill => exact absurd parentSkill (plain.curse type)
  · next type parentSkill => exact absurd parentSkill (plain.shield type)
  · next type parentSkill => exact absurd parentSkill (plain.weakness type)
  · next type => exact absurd type plain.call
  · rfl

theorem updataBufferDel_curse (type : buff.type = .bySkill)
    (parentSkill : buff.parentSkill = .zuZhou) :
    updataBufferDel id buff battle = curseEnds id buff (battle.ended id buff) := by
  simp only [updataBufferDel, type, parentSkill]
  rfl

theorem updataBufferDel_shield (type : buff.type = .bySkill)
    (parentSkill : buff.parentSkill = .wuGuangZhiDun) :
    updataBufferDel id buff battle = skillProcess209Buffer id buff (battle.ended id buff) := by
  simp only [updataBufferDel, type, parentSkill]
  rfl

theorem updataBufferDel_weakness (type : buff.type = .bySkill)
    (parentSkill : buff.parentSkill = .fuHuo) :
    updataBufferDel id buff battle = weaknessEnds id buff (battle.ended id buff) := by
  simp only [updataBufferDel, type, parentSkill]
  rfl

theorem updataBufferDel_call (type : buff.type = .call) :
    updataBufferDel id buff battle = onRoleDead [] id (battle.ended id buff) := by
  simp only [updataBufferDel, type]
  rfl

/-- A buff without effects only ends. -/
theorem ended_inert (inert : buff.Inert) : battle.ended id buff = battle.ending id buff := by
  have same (role : RoleState) : role.updataEffect (-1) none buff = role := by
    rcases inert with ⟨type, parentSkill⟩ | type
    · simp [RoleState.updataEffect, RoleState.replace, type, parentSkill]
    · simp [RoleState.updataEffect, type]
  unfold ended PKPE.modifyRole
  simp only [same, Function.update_eq_self]

theorem eraseIterator_send (before : List Buff) (message : Broadcast) :
    eraseIterator id index before (battle.send message) =
      (eraseIterator id index before battle).send message := by
  unfold eraseIterator
  rw [send_toRoles]
  split <;> rfl

theorem removed_plain (plain : buff.Plain) :
    eraseIterator id index (battle.role id).multimapBuff (updataBufferDel id buff battle) =
      (battle.ending id buff).modifyRole id fun role =>
        (role.updataEffect (-1) none buff).eraseBuff index := by
  rw [updataBufferDel_plain plain]
  unfold eraseIterator ended
  rw [modifyRole_self, if_pos, modifyRole_modifyRole]
  rw [RoleState.updataEffect_multimapBuff, ending_toRoles]

/-- The battle in which a curse hurts for the last time. -/
def cursed (id hurt : Int) (buff : Buff) (battle : PKPE) : PKPE :=
  ((battle.ending id buff).note (.hurt ((battle.ended id buff).role id) hurt)).send
    (.hpChange id (short (-hurt)) (.skill .zuZhou))

theorem curseEnds_eq :
    curseEnds id buff (battle.ended id buff) =
      let hurt (role : RoleState) := (role.updataEffect (-1) none buff).addHp (-buff.lastHurt)
      let next := battle.cursed id buff.lastHurt buff
      if (hurt (battle.role id)).hp ≤ 0 then
        onRoleDead [buff] id (next.modifyRole id fun role => (hurt role).setHp 0)
      else next.modifyRole id hurt := by
  have merged : ((((battle.ended id buff).note (.hurt ((battle.ended id buff).role id)
      buff.lastHurt)).send (.hpChange id (short (-buff.lastHurt)) (.skill .zuZhou))).modifyRole id
        fun role => role.addHp (-buff.lastHurt)) =
      (battle.cursed id buff.lastHurt buff).modifyRole id
        fun role => (role.updataEffect (-1) none buff).addHp (-buff.lastHurt) := by
    unfold ended
    rw [note_modifyRole, send_modifyRole, modifyRole_modifyRole]
    rfl
  have ids : (battle.cursed id buff.lastHurt buff).role id = battle.role id := by
    unfold cursed
    simp
  unfold curseEnds
  dsimp only
  rw [show short ((buff.parametar1.tmod 100 * buff.parametar2).tdiv 100) = buff.lastHurt from rfl,
    merged, modifyRole_self, ids, modifyRole_modifyRole]

@[simp] theorem cursed_toRoles (hurt : Int) :
    (battle.cursed id hurt buff).toRoles = battle.toRoles :=
  ending_toRoles

end Endings

section Interrupts

/-- A continued skill is erased, and its end is sent twice. -/
def broken (id : Int) (index : Nat) (buff : Buff) (battle : PKPE) : PKPE :=
  ((battle.ending id buff).modifyRole id fun role =>
    (role.updataEffect (-1) none buff).eraseBuff index).sendBufferStop id buff

theorem broken_eq (type : buff.type = .castSkill) :
    eraseIterator id index (battle.role id).multimapBuff
      ((updataBufferDel id buff battle).sendBufferStop id buff) = battle.broken id index buff := by
  unfold sendBufferStop
  rw [eraseIterator_send, removed_plain (Buff.plain_castSkill type)]
  rfl

theorem broken_live : ((battle.broken id index buff).role other).live = (battle.role other).live := by
  unfold broken sendBufferStop
  rw [send_toRoles]
  by_cases same : other = id
  · subst same
    rw [modifyRole_self, ending_toRoles]
    exact RoleState.updataEffect_live ..
  · rw [modifyRole_of_ne _ _ _ _ same, ending_toRoles]

theorem broken_of_ne (differs : other ≠ id) :
    (battle.broken id index buff).role other = battle.role other := by
  unfold broken sendBufferStop
  rw [send_toRoles, modifyRole_of_ne _ _ _ _ differs, ending_toRoles]

theorem breakLoop_live (fuel : Nat) :
    ((breakLoop id fuel index battle).role other).live = (battle.role other).live := by
  induction fuel generalizing index battle with
  | zero => rfl
  | succ fuel ih =>
      simp only [breakLoop]
      split
      · rfl
      · split
        · next breaks => rw [broken_eq breaks.1, ih, broken_live]
        · exact ih

theorem breakLoop_of_ne (fuel : Nat) (differs : other ≠ id) :
    (breakLoop id fuel index battle).role other = battle.role other := by
  induction fuel generalizing index battle with
  | zero => rfl
  | succ fuel ih =>
      simp only [breakLoop]
      split
      · rfl
      · split
        · next breaks => rw [broken_eq breaks.1, ih, broken_of_ne differs]
        · exact ih

end Interrupts

section Updates

@[simp] theorem sendSkillBuffer_toRoles :
    (battle.sendSkillBuffer id buff).toRoles = battle.toRoles := by
  unfold sendSkillBuffer
  split <;> rfl

theorem existing_weaker {role : RoleState} (weaker : role.existing buff = .weaker index) :
    ∃ old, role.multimapBuff[index]? = some old ∧ old.type = buff.type ∧
      old.parentSkill = buff.parentSkill := by
  unfold RoleState.existing at weaker
  split at weaker
  · cases weaker
  · split at weaker
    · cases weaker
    · next place first =>
        split at weaker
        · cases weaker
        · next old found =>
            split at weaker
            · cases weaker
            · split at weaker
              · obtain rfl := Existing.weaker.inj weaker
                have matched := List.of_findIdx?_eq_some first
                rw [found] at matched
                exact ⟨old, found, of_decide_eq_true matched⟩
              · cases weaker

/-- A buff lasts longer, and its clients learn it. -/
def refreshed (id : Int) (index : Nat) (buff : Buff) (battle : PKPE) : PKPE :=
  (battle.modifyRole id fun role =>
    role.modifyBuff index fun old => { old with endTime := buff.endTime }).sendSkillBuffer id buff

/-- A new buff of these types interrupts a skill. -/
def interrupted (id : Int) (buff : Buff) (battle : PKPE) : PKPE :=
  if buff.type = .xuanYun ∨ buff.type = .noMove ∨ buff.type = .noSkill then
    breakLastSkill id (battle.sendSkillBuffer id buff)
  else battle.sendSkillBuffer id buff

theorem updataBuffer_eq :
    updataBuffer id buff battle =
      let noted := battle.note (.addBuffer (battle.role id) buff)
      match (battle.role id).existing buff with
      | .stronger => noted
      | .same index => noted.refreshed id index buff
      | .weaker index => (noted.refreshed id index buff).modifyRole id fun role =>
          role.updataEffect 1 (some index) buff
      | .missing => (noted.interrupted id buff).modifyRole id fun role =>
          (role.insertBuff buff).updataEffect 1 none buff := by
  unfold updataBuffer updataBufferAdd interrupted
  dsimp only
  rw [note_toRoles]
  cases (battle.role id).existing buff <;> rfl

theorem modifyRole_live {change : RoleState → RoleState}
    (same : (change (battle.role id)).live = (battle.role id).live) :
    ((battle.modifyRole id change).role other).live = (battle.role other).live := by
  by_cases self : other = id
  · subst self
    rw [modifyRole_self, same]
  · rw [modifyRole_of_ne _ _ _ _ self]

theorem interrupted_live : ((battle.interrupted id buff).role other).live =
    (battle.role other).live := by
  unfold interrupted breakLastSkill
  split
  · rw [breakLoop_live, sendSkillBuffer_toRoles]
  · rw [sendSkillBuffer_toRoles]

theorem refreshed_live : ((battle.refreshed id index buff).role other).live =
    (battle.role other).live := by
  unfold refreshed
  rw [sendSkillBuffer_toRoles]
  exact modifyRole_live rfl

/-- A buff kills nobody when it is added. -/
theorem updataBuffer_live (ordinary : buff.parentSkill ≠ .fuHuo) :
    ((updataBuffer id buff battle).role other).live = (battle.role other).live := by
  rw [updataBuffer_eq]
  dsimp only
  split
  · rfl
  · exact refreshed_live
  · next index weaker =>
      obtain ⟨old, found, type, parentSkill⟩ := existing_weaker weaker
      refine (modifyRole_live ?_).trans refreshed_live
      have kept : (((battle.note (.addBuffer (battle.role id) buff)).refreshed id index buff).role
          id).multimapBuff[index]? = some { old with endTime := buff.endTime } := by
        unfold refreshed
        rw [sendSkillBuffer_toRoles, modifyRole_self]
        simp [RoleState.modifyBuff, found]
      exact RoleState.upgrade_live kept type parentSkill ordinary
  · refine (modifyRole_live ?_).trans interrupted_live
    exact RoleState.updataEffect_live ..

theorem updataBuffer_of_ne (differs : other ≠ id) :
    (updataBuffer id buff battle).role other = battle.role other := by
  have refreshed (battle : PKPE) (index : Nat) :
      (battle.refreshed id index buff).role other = battle.role other := by
    unfold PKPE.refreshed
    rw [sendSkillBuffer_toRoles, modifyRole_of_ne _ _ _ _ differs]
  have interrupted (battle : PKPE) :
      (battle.interrupted id buff).role other = battle.role other := by
    unfold PKPE.interrupted breakLastSkill
    split
    · rw [breakLoop_of_ne _ differs, sendSkillBuffer_toRoles]
    · rw [sendSkillBuffer_toRoles]
  rw [updataBuffer_eq]
  dsimp only
  split
  · rfl
  · rw [refreshed]
    rfl
  · rw [modifyRole_of_ne _ _ _ _ differs, refreshed]
    rfl
  · rw [modifyRole_of_ne _ _ _ _ differs, interrupted]
    rfl

end Updates

end PKPE

end AppSvr.PkServer
