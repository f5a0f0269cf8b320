/-
This file proves when a loop over the buffs of a role erases and visits entries that are still there.
-/

import AppSvr.Proof.PkServer.AreaHits
import AppSvr.Proof.PkServer.AttackHurts
import AppSvr.ToMathlib.ErasingLoops

namespace AppSvr.PkServer
open ErasingLoops

/-- This identifies an entry of the map. Its end, its counter, and its parameters may change. -/
def Buff.entry (buff : Buff) : BufferType × SkillType × Int × Int :=
  (buff.type, buff.parentSkill, buff.level, buff.beginTime)

def RoleState.entries (role : RoleState) : List (BufferType × SkillType × Int × Int) :=
  role.multimapBuff.map Buff.entry

/-- The end of the buff kills its role. -/
def RoleState.EndKills (role : RoleState) (buff : Buff) : Prop :=
  buff.type = .call ∨
    buff.type = .bySkill ∧ buff.parentSkill = .zuZhou ∧ (role.addHp (-buff.lastHurt)).hp ≤ 0

theorem RoleState.EndKills.fatal {role : RoleState} {buff : Buff} (kills : role.EndKills buff) :
    buff.type = .call ∨ buff.type = .bySkill ∧ buff.parentSkill = .zuZhou := by
  rcases kills with type | ⟨type, parentSkill, _⟩
  · exact .inl type
  · exact .inr ⟨type, parentSkill⟩

theorem RoleState.updataEffect_curse (role : RoleState) {buff : Buff} (type : buff.type = .bySkill)
    (parentSkill : buff.parentSkill = .zuZhou) : role.updataEffect (-1) none buff =
      role.addHurtAdd (short (buff.parametar1.tdiv 100) * -1) := by
  simp [RoleState.updataEffect, RoleState.replace, type, parentSkill]

namespace PKPE

section Loops

variable (id : Int)

/-- These are the passes of `CalculateBuff`. -/
def buffPasses : Loop PKPE (BufferType × SkillType × Int × Int) where
  entries battle := (battle.role id).entries
  pass index battle :=
    match (battle.role id).multimapBuff[index]? with
    | none => .ends battle
    | some buff =>
        let counted := countBuff id index buff battle
        match (counted.role id).multimapBuff[index]? with
        | none => .ends counted
        | some buff =>
            if buff.endTime ≤ counted.fragmentNow then
              let after := updataBufferDel id buff counted
              if (after.role id).live = .dead then .ends after
              else .erases after (eraseIterator id index (counted.role id).multimapBuff after)
            else .passes counted

/-- These are the passes of `breakLastSkill`. -/
def breakPasses : Loop PKPE (BufferType × SkillType × Int × Int) where
  entries battle := (battle.role id).entries
  pass index battle :=
    match (battle.role id).multimapBuff[index]? with
    | none => .ends battle
    | some buff =>
        if buff.type = .castSkill ∧ buff.bCanBreak then
          let after := (updataBufferDel id buff battle).sendBufferStop id buff
          .erases after (eraseIterator id index (battle.role id).multimapBuff after)
        else .passes battle

/-- These are the passes of `skill_process_215`. -/
def dispelPasses : Loop PKPE (BufferType × SkillType × Int × Int) where
  entries battle := (battle.role id).entries
  pass index battle :=
    match (battle.role id).multimapBuff[index]? with
    | none => .ends battle
    | some buff =>
        if buff.bCanBreak ∧ buff.type ≠ .castSkill then
          let after := updataBufferDel id buff battle
          .erases after (eraseIterator id index (battle.role id).multimapBuff after)
        else .passes battle

/-- These are the passes of `CalculateAttackHurt`, with the hurt that is left. -/
def shieldPasses : Loop (Int × PKPE) (BufferType × SkillType × Int × Int) where
  entries state := (state.2.role id).entries
  pass index state :=
    let hurtValue := state.1
    let battle := state.2
    match (battle.role id).multimapBuff[index]? with
    | none => .ends state
    | some buff =>
        if buff.parentSkill = .wuGuangZhiDun then
          let total := buff.parametar2 + hurtValue
          let store (value : Int) : PKPE :=
            battle.modifyRole id fun role =>
              role.modifyBuff index fun buff => { buff with parametar2 := value }
          if buff.parametar1 ≤ total then
            let after := (skillProcess209Buffer id { buff with parametar2 := buff.parametar1 }
              (store buff.parametar1)).sendBufferStop id buff
            .erases (ushort (total - buff.parametar1), after)
              (ushort (total - buff.parametar1), after.modifyRole id fun role => role.eraseBuff index)
          else .passes (0, store total)
        else if buff.parentSkill = .fanJiLuoXuan then
          .passes (hurtValue, skillProcess210Buffer id index buff battle)
        else .passes state

variable {id} (fuel index : Nat) (battle : PKPE)

theorem buffLoop_eq_run : buffLoop id fuel index battle = (buffPasses id).run fuel index battle := by
  induction fuel generalizing index battle with
  | zero => rfl
  | succ fuel ih =>
      unfold buffLoop Loop.run buffPasses
      dsimp only
      cases (battle.role id).multimapBuff[index]? with
      | none => rfl
      | some buff =>
          dsimp only
          cases ((countBuff id index buff battle).role id).multimapBuff[index]? with
          | none => rfl
          | some buff =>
              dsimp only
              split
              · split
                · rfl
                · exact ih ..
              · exact ih ..

theorem breakLoop_eq_run :
    breakLoop id fuel index battle = (breakPasses id).run fuel index battle := by
  induction fuel generalizing index battle with
  | zero => rfl
  | succ fuel ih =>
      unfold breakLoop Loop.run breakPasses
      dsimp only
      cases (battle.role id).multimapBuff[index]? with
      | none => rfl
      | some buff =>
          dsimp only
          split
          · exact ih ..
          · exact ih ..

theorem dispelLoop_eq_run :
    dispelLoop id fuel index battle = (dispelPasses id).run fuel index battle := by
  induction fuel generalizing index battle with
  | zero => rfl
  | succ fuel ih =>
      unfold dispelLoop Loop.run dispelPasses
      dsimp only
      cases (battle.role id).multimapBuff[index]? with
      | none => rfl
      | some buff =>
          dsimp only
          split
          · exact ih ..
          · exact ih ..

theorem shieldLoop_eq_run (hurtValue : Int) :
    shieldLoop id fuel index hurtValue battle =
      (shieldPasses id).run fuel index (hurtValue, battle) := by
  induction fuel generalizing index hurtValue battle with
  | zero => rfl
  | succ fuel ih =>
      unfold shieldLoop Loop.run shieldPasses
      dsimp only
      cases (battle.role id).multimapBuff[index]? with
      | none => rfl
      | some buff =>
          dsimp only
          split
          · split
            · exact ih ..
            · exact ih ..
          · split
            · exact ih ..
            · exact ih ..

end Loops

section Callbacks

variable {battle : PKPE} {id : Int}

theorem entries_modifyBuff (role : RoleState) (index : Nat) {change : Buff → Buff}
    (same : ∀ buff, (change buff).entry = buff.entry) :
    (role.modifyBuff index change).entries = role.entries := by
  unfold RoleState.entries RoleState.modifyBuff
  dsimp only
  induction role.multimapBuff generalizing index with
  | nil => rw [List.modify_nil]
  | cons buff buffs ih =>
      cases index with
      | zero => rw [List.modify_zero_cons, List.map_cons, List.map_cons, same]
      | succ index => rw [List.modify_succ_cons, List.map_cons, List.map_cons, ih]

theorem drawVictim_strikes (id count : Int) (tries : Nat) (battle : PKPE) :
    (drawVictim id count tries battle).2.toRoles = battle.toRoles ∧
      ∀ target, (drawVictim id count tries battle).1 = some target →
        (battle.role id).Strikes (battle.role target) := by
  induction tries generalizing battle with
  | zero => exact ⟨rfl, nofun⟩
  | succ tries ih =>
      have drawn := rand_toRoles battle
      unfold drawVictim
      dsimp only
      split
      · exact ⟨drawn, nofun⟩
      · next target listed =>
          split
          · next strikes =>
              rw [drawn] at strikes
              refine ⟨drawn, fun other same => ?_⟩
              rwa [← Option.some.inj same]
          · rw [← drawn]
            exact ih battle.rand.2

theorem drawCell_toRoles (pos : Pos) (draws : Nat) (battle : PKPE) :
    (drawCell pos draws battle).2.toRoles = battle.toRoles := by
  induction draws generalizing battle with
  | zero => rfl
  | succ draws ih =>
      unfold drawCell
      dsimp only
      split
      · exact rand_toRoles battle
      · exact (ih _).trans (rand_toRoles battle)

theorem skillProcess204Buffer_self (hurtValue : Int) :
    (skillProcess204Buffer id hurtValue battle).role id = battle.role id := by
  refine forSelected_hurt_self (fun role passive selected => ?_)
    (fun battle => (battle.role id).level) _ _
  rw [decide_eq_true_eq] at selected
  exact selected.1.1.2

theorem skillProcess219Effect_self (buff : Buff) :
    (skillProcess219Effect id buff battle).role id = battle.role id := by
  unfold skillProcess219Effect
  dsimp only
  split
  · rfl
  · refine calculateMultiSkillHurt_of_not_mem _ _ _ fun hit => ?_
    rw [List.map_map, List.mem_map] at hit
    obtain ⟨target, selected, same⟩ := hit
    have enemy := of_decide_eq_true (List.mem_filter.mp selected).2
    change target = id at same
    rw [same] at enemy
    exact enemy.1.1.2 rfl

theorem skillProcess224Effect_entries (buff : Buff) :
    ((skillProcess224Effect id buff battle).role id).entries = (battle.role id).entries := by
  have drawn := drawVictim_strikes id (short battle.ids.length)
    (short (short battle.ids.length * 3)).toNat battle
  unfold skillProcess224Effect
  dsimp only
  generalize drawVictim id _ _ battle = victim at drawn ⊢
  obtain ⟨victim, next⟩ := victim
  obtain ⟨same, strikes⟩ := drawn
  dsimp only at same strikes ⊢
  cases victim with
  | none =>
      dsimp only
      rw [same]
  | some target =>
      have differs : id ≠ target := by
        rintro rfl
        exact (strikes id rfl).1.2 rfl
      dsimp only
      rw [calculateSkillHurt, loseHp_of_ne _ _ differs, relocate, send_toRoles, modifyRole_self,
        note_toRoles, drawCell_toRoles, same]
      rfl

theorem skillProcess218Buffer_entries (buff : Buff) :
    ((skillProcess218Buffer id buff battle).role id).entries = (battle.role id).entries := by
  unfold skillProcess218Buffer forSelected forRoles
  refine List.foldlRecOn (motive := fun state : PKPE =>
    (state.role id).entries = (battle.role id).entries) battle.ids _ rfl fun state same target _ => ?_
  dsimp only
  split
  · split
    · rw [send_toRoles]
      by_cases self : id = target
      · rw [← self, modifyRole_self]
        exact same
      · rw [modifyRole_of_ne _ _ _ _ self]
        exact same
    · exact same
  · exact same

/-- The run of a buff changes no entry of its role. -/
theorem runBuffer_entries (index : Nat) (buff : Buff) :
    ((runBuffer id index buff battle).role id).entries = (battle.role id).entries := by
  unfold runBuffer
  split
  · rw [skillProcess204Buffer_self]
  · rw [skillProcess219Effect_self]
  · exact skillProcess224Effect_entries _
  · exact skillProcess218Buffer_entries _
  · rw [modifyRole_self]
    exact entries_modifyBuff _ _ fun _ => rfl
  · unfold runHealth
    dsimp only
    split
    · rfl
    · rw [send_toRoles, modifyRole_self]
      rfl
  · rfl

theorem countBuff_entries (index : Nat) (buff : Buff) :
    ((countBuff id index buff battle).role id).entries = (battle.role id).entries := by
  have counted (value : Int) (state : PKPE) : ((state.modifyRole id fun role =>
      role.modifyBuff index fun buff => { buff with runCounter := value }).role id).entries =
        (state.role id).entries := by
    rw [modifyRole_self]
    exact entries_modifyBuff _ _ fun _ => rfl
  unfold countBuff
  dsimp only
  split
  · rfl
  · split
    · exact counted _ _
    · rw [counted, runBuffer_entries, counted]

end Callbacks

section Endings

variable {battle : PKPE} {id : Int} {buff : Buff} {index : Nat}

/-- The role comes back when it dies. -/
def Revives (id : Int) (battle : PKPE) : Prop :=
  ∃ skill, (battle.role id).skill? SkillType.fuHuo.code = some skill ∧ battle.canRevive skill

/-- The weakness is the only buff after a death. -/
theorem onRoleDead_weak (undone : List Buff) :
    ∀ other ∈ ((onRoleDead undone id battle).role id).multimapBuff,
      other.type = .bySkill ∧ other.parentSkill = .fuHuo := by
  intro other kept
  rcases battle.onRoleDead_cases id undone with ⟨skill, _, dies⟩ | dies
  · rw [dies, revive_eq, modifyRole_self] at kept
    have only (role : RoleState) (buff : Buff) (now : Int) :
        (role.revived buff now).multimapBuff = [buff] := RoleState.updataEffect_multimapBuff ..
    rw [only, List.mem_singleton] at kept
    rw [kept]
    exact ⟨rfl, rfl⟩
  · rw [dies, (checkOver_onlyEnds _ _).roles, modifyRole_self] at kept
    exact absurd kept List.not_mem_nil

theorem onRoleDead_entries (undone : List Buff) {entries : List Buff} (listed : buff ∈ entries)
    (ordinary : buff.type ≠ .bySkill ∨ buff.parentSkill ≠ .fuHuo) :
    ((onRoleDead undone id battle).role id).entries ≠ entries.map Buff.entry := by
  intro same
  have member : buff.entry ∈ ((onRoleDead undone id battle).role id).entries :=
    same ▸ List.mem_map_of_mem listed
  obtain ⟨other, kept, equal⟩ := List.mem_map.mp member
  obtain ⟨type, parentSkill⟩ := onRoleDead_weak undone other kept
  rcases ordinary with differs | differs
  · exact differs ((congrArg Prod.fst equal).symm.trans type)
  · exact differs ((congrArg (·.2.1) equal).symm.trans parentSkill)

theorem onRoleDead_live (undone : List Buff) :
    ((onRoleDead undone id battle).role id).live = .dead ↔ ¬ battle.Revives id := by
  have falls : (((((battle.note (.onRoleDead (battle.role id) undone)).send (.dead id)).modifyRole id
      RoleState.dead).checkOver (battle.role id).opposition).role id).live = .dead := by
    rw [(checkOver_onlyEnds _ _).roles, modifyRole_self]
    rfl
  unfold onRoleDead Revives
  dsimp only [note_toRoles, send_toRoles]
  cases known : (battle.role id).skill? SkillType.fuHuo.code with
  | none => exact iff_of_true falls (by simp)
  | some skill =>
      dsimp only
      split
      · next ready =>
          rw [revive_eq, modifyRole_self]
          refine iff_of_false ?_ (not_not_intro ⟨skill, rfl, ready⟩)
          have lives (role : RoleState) (buff : Buff) (now : Int) :
              (role.revived buff now).live = .live := RoleState.updataEffect_live ..
          rw [lives]
          decide
      · next waits =>
          refine iff_of_true falls ?_
          rintro ⟨other, same, ready⟩
          rw [← Option.some.inj same] at ready
          exact waits ready

/-- The end of a buff keeps the entries, unless it kills the role. -/
theorem updataBufferDel_entries_iff
    (found : (battle.role id).multimapBuff[index]? = some buff) :
    ((updataBufferDel id buff battle).role id).entries = (battle.role id).entries ↔
      ¬ (battle.role id).EndKills buff := by
  have listed := List.mem_of_getElem? found
  have ended : ((battle.ended id buff).role id).entries = (battle.role id).entries := by
    unfold PKPE.ended RoleState.entries
    rw [modifyRole_self, RoleState.updataEffect_multimapBuff, ending_toRoles]
  rcases buff.plain_or with plain | type | ⟨type, parentSkill | parentSkill | parentSkill⟩
  · rw [updataBufferDel_plain plain]
    refine iff_of_true ended ?_
    rintro (type | ⟨type, parentSkill, _⟩)
    · exact plain.call type
    · exact plain.curse type parentSkill
  · rw [updataBufferDel_call type]
    exact iff_of_false (onRoleDead_entries _ listed (.inl (by simp [type])))
      (not_not_intro (.inl type))
  · have health : (((battle.role id).updataEffect (-1) none buff).addHp (-buff.lastHurt)).hp =
        ((battle.role id).addHp (-buff.lastHurt)).hp := by
      rw [RoleState.updataEffect_curse _ type parentSkill]
      rfl
    rw [updataBufferDel_curse type parentSkill, curseEnds_eq]
    dsimp only
    split
    · next dies =>
        rw [health] at dies
        exact iff_of_false (onRoleDead_entries _ listed (.inr (by simp [parentSkill])))
          (not_not_intro (.inr ⟨type, parentSkill, dies⟩))
    · next survives =>
        rw [health] at survives
        refine iff_of_true ?_ ?_
        · rw [modifyRole_self, cursed_toRoles]
          exact congrArg (List.map Buff.entry) (RoleState.updataEffect_multimapBuff ..)
        · rintro (other | ⟨_, _, dies⟩)
          · simp [type] at other
          · exact survives dies
  · rw [updataBufferDel_shield type parentSkill, skillProcess209Buffer_self]
    refine iff_of_true ended ?_
    rintro (other | ⟨_, other, _⟩)
    · simp [type] at other
    · simp [parentSkill] at other
  · rw [updataBufferDel_weakness type parentSkill]
    refine iff_of_true ?_ ?_
    · unfold weaknessEnds
      rw [send_toRoles, modifyRole_self]
      exact ended
    · rintro (other | ⟨_, other, _⟩)
      · simp [type] at other
      · simp [parentSkill] at other

theorem revives_congr {next : PKPE} (skillMap : (next.role id).magicAttrb.skillMap =
    (battle.role id).magicAttrb.skillMap) (now : next.fragmentNow = battle.fragmentNow) :
    next.Revives id ↔ battle.Revives id := by
  unfold Revives RoleState.skill? canRevive
  rw [skillMap, now]

/-- A role that is killed by the end of a buff is dead, unless it revives. -/
theorem updataBufferDel_live (kills : (battle.role id).EndKills buff) :
    ((updataBufferDel id buff battle).role id).live = .dead ↔ ¬ battle.Revives id := by
  have now : (battle.ending id buff).fragmentNow = battle.fragmentNow := by
    unfold ending
    dsimp only
    split <;> rfl
  rcases kills with type | ⟨type, parentSkill, dies⟩
  · rw [updataBufferDel_call type, ended_inert (.inr type), onRoleDead_live]
    exact not_congr (revives_congr (by rw [ending_toRoles]) now)
  · have effect (role : RoleState) := role.updataEffect_curse type parentSkill
    rw [updataBufferDel_curse type parentSkill, curseEnds_eq]
    dsimp only
    rw [if_pos (by rwa [effect]), onRoleDead_live]
    refine not_congr (revives_congr ?_ now)
    rw [modifyRole_self, cursed_toRoles, effect]
    rfl

end Endings

section Passes

variable {id : Int} {index : Nat} {battle : PKPE} {buff : Buff}

/-- The counter of such a buff counts without an effect. -/
theorem countBuff_fatal (found : (battle.role id).multimapBuff[index]? = some buff)
    (fatal : buff.type = .call ∨ buff.type = .bySkill ∧ buff.parentSkill = .zuZhou) :
    (∃ value, ((countBuff id index buff battle).role id).multimapBuff[index]? =
        some { buff with runCounter := value }) ∧
      ((countBuff id index buff battle).role id).hp = (battle.role id).hp ∧
      ((countBuff id index buff battle).role id).magicAttrb.skillMap =
        (battle.role id).magicAttrb.skillMap ∧
      (countBuff id index buff battle).fragmentNow = battle.fragmentNow := by
  have idle (counter : Int) (state : PKPE) :
      runBuffer id index { buff with runCounter := counter } state = state := by
    rcases fatal with type | ⟨type, parentSkill⟩
    · simp [runBuffer, type]
    · simp [runBuffer, type, parentSkill]
  have setCounter (value : Int) (old : Buff) (state : PKPE)
      (found : (state.role id).multimapBuff[index]? = some old) :
      ((state.modifyRole id fun role => role.modifyBuff index fun buff =>
        { buff with runCounter := value }).role id).multimapBuff[index]? =
          some { old with runCounter := value } := by
    rw [modifyRole_self]
    unfold RoleState.modifyBuff
    rw [List.getElem?_modify_eq, found]
    rfl
  unfold countBuff
  dsimp only
  split
  · exact ⟨⟨buff.runCounter, found⟩, rfl, rfl, rfl⟩
  · split
    · refine ⟨⟨_, setCounter _ buff battle found⟩, ?_, ?_, rfl⟩ <;> rw [modifyRole_self] <;> rfl
    · have first := setCounter (ushort (buff.runCounter + 1)) buff battle found
      have second := setCounter 0 _ _ first
      rw [idle]
      refine ⟨⟨0, second⟩, ?_, ?_, rfl⟩ <;>
        rw [modifyRole_self, modifyRole_self] <;> rfl

/-- The counter keeps the visited entry. -/
theorem countBuff_current (found : (battle.role id).multimapBuff[index]? = some buff) :
    ∃ current, ((countBuff id index buff battle).role id).multimapBuff[index]? = some current ∧
      current.entry = buff.entry := by
  have entries : ((countBuff id index buff battle).role id).entries = (battle.role id).entries :=
    countBuff_entries index buff
  have entry : ((countBuff id index buff battle).role id).multimapBuff[index]?.map Buff.entry =
      some buff.entry := by
    rw [← List.getElem?_map]
    change ((countBuff id index buff battle).role id).entries[index]? = _
    rw [entries, RoleState.entries, List.getElem?_map, found, Option.map_some]
  exact Option.map_eq_some_iff.mp entry

theorem breakPasses_keeps (index : Nat) (battle : PKPE) : (breakPasses id).Keeps index battle := by
  unfold Loop.Keeps breakPasses
  dsimp only
  cases found : (battle.role id).multimapBuff[index]? with
  | none => trivial
  | some buff =>
      dsimp only
      by_cases breaks : buff.type = .castSkill ∧ buff.bCanBreak
      · rw [if_pos breaks]
        dsimp only
        rw [sendBufferStop, send_toRoles]
        refine (updataBufferDel_entries_iff found).mpr fun kills => ?_
        rcases kills.fatal with type | ⟨type, _⟩ <;> simp [breaks.1] at type
      · rw [if_neg breaks]

/-- The dispel ends a buff that kills its role. -/
def DispelKills (id : Int) (index : Nat) (battle : PKPE) : Prop :=
  ∃ buff, (battle.role id).multimapBuff[index]? = some buff ∧ buff.bCanBreak ∧
    (battle.role id).EndKills buff

theorem dispelPasses_keeps_iff (index : Nat) (battle : PKPE) :
    (dispelPasses id).Keeps index battle ↔ ¬ DispelKills id index battle := by
  unfold Loop.Keeps dispelPasses DispelKills
  dsimp only
  cases found : (battle.role id).multimapBuff[index]? with
  | none => simp
  | some buff =>
      dsimp only
      have only (holds : Buff → Prop) :
          (∃ other, some buff = some other ∧ holds other) ↔ holds buff := by
        simp
      rw [only]
      by_cases dispels : buff.bCanBreak ∧ buff.type ≠ .castSkill
      · rw [if_pos dispels]
        dsimp only
        rw [updataBufferDel_entries_iff found]
        exact not_congr (and_iff_right dispels.1).symm
      · rw [if_neg dispels]
        refine iff_of_true rfl fun both => dispels ⟨both.1, fun type => ?_⟩
        rcases both.2.fatal with other | ⟨other, _⟩ <;> simp [type] at other

/-- The buff has expired, its end kills the role, and the role revives. -/
def ExpiredRevival (id : Int) (buff : Buff) (battle : PKPE) : Prop :=
  buff.endTime ≤ battle.fragmentNow ∧ (battle.role id).EndKills buff ∧ battle.Revives id

/-- An expired buff kills its role, and the role revives. -/
def ExpiryRevives (id : Int) (index : Nat) (battle : PKPE) : Prop :=
  ∃ buff, (battle.role id).multimapBuff[index]? = some buff ∧ battle.ExpiredRevival id buff

/-- The count changes neither the end of such a buff nor the death. -/
theorem countBuff_expiredRevival (found : (battle.role id).multimapBuff[index]? = some buff)
    {current : Buff} (now : ((countBuff id index buff battle).role id).multimapBuff[index]? =
      some current) (same : current.entry = buff.entry) :
    (countBuff id index buff battle).ExpiredRevival id current ↔
      battle.ExpiredRevival id buff := by
  have type : current.type = buff.type := congrArg Prod.fst same
  have parentSkill : current.parentSkill = buff.parentSkill := congrArg (·.2.1) same
  by_cases fatal : buff.type = .call ∨ buff.type = .bySkill ∧ buff.parentSkill = .zuZhou
  · obtain ⟨⟨value, counted⟩, hp, skillMap, fragmentNow⟩ := countBuff_fatal found fatal
    have kills : ((countBuff id index buff battle).role id).EndKills
        { buff with runCounter := value } ↔ (battle.role id).EndKills buff := by
      have health (hurt : Int) : (((countBuff id index buff battle).role id).addHp hurt).hp =
          ((battle.role id).addHp hurt).hp := by
        unfold RoleState.addHp
        rw [hp]
        rfl
      unfold RoleState.EndKills
      rw [health]
      rfl
    obtain rfl := Option.some.inj (now.symm.trans counted)
    unfold ExpiredRevival
    rw [kills, revives_congr skillMap fragmentNow, fragmentNow]
  · refine iff_of_false (fun revival => fatal ?_) fun revival => fatal revival.2.1.fatal
    have still := revival.2.1.fatal
    rwa [type, parentSkill] at still

theorem buffPasses_keeps_iff (index : Nat) (battle : PKPE) :
    (buffPasses id).Keeps index battle ↔ ¬ ExpiryRevives id index battle := by
  unfold Loop.Keeps buffPasses ExpiryRevives
  dsimp only
  cases found : (battle.role id).multimapBuff[index]? with
  | none => simp
  | some buff =>
      dsimp only
      have only (holds : Buff → Prop) :
          (∃ other, some buff = some other ∧ holds other) ↔ holds buff := by
        simp
      obtain ⟨current, now, same⟩ := countBuff_current found
      have counted : ((countBuff id index buff battle).role id).entries =
        (battle.role id).entries := countBuff_entries index buff
      rw [only, ← countBuff_expiredRevival found now same, now]
      dsimp only
      generalize countBuff id index buff battle = next at now counted ⊢
      by_cases expired : current.endTime ≤ next.fragmentNow
      · rw [if_pos expired]
        by_cases dead : ((updataBufferDel id current next).role id).live = .dead
        · rw [if_pos dead]
          refine iff_of_true trivial fun revival => ?_
          exact (updataBufferDel_live revival.2.1).mp dead revival.2.2
        · rw [if_neg dead, ← counted]
          dsimp only
          rw [updataBufferDel_entries_iff now]
          refine not_congr ⟨fun kills => ⟨expired, kills, ?_⟩, fun revival => revival.2.1⟩
          exact not_not.mp fun dies => dead ((updataBufferDel_live kills).mpr dies)
      · rw [if_neg expired]
        exact iff_of_true counted fun revival => expired revival.1

theorem shieldPasses_keeps (index : Nat) (state : Int × PKPE) :
    (shieldPasses id).Keeps index state := by
  unfold Loop.Keeps shieldPasses
  dsimp only
  cases found : (state.2.role id).multimapBuff[index]? with
  | none => trivial
  | some buff =>
      dsimp only
      by_cases shield : buff.parentSkill = .wuGuangZhiDun
      · rw [if_pos shield]
        by_cases through : buff.parametar1 ≤ buff.parametar2 + state.1
        · rw [if_pos through]
          dsimp only
          rw [sendBufferStop, send_toRoles, skillProcess209Buffer_self, modifyRole_self]
          exact entries_modifyBuff _ _ fun _ => rfl
        · rw [if_neg through]
          dsimp only
          rw [modifyRole_self]
          exact entries_modifyBuff _ _ fun _ => rfl
      · rw [if_neg shield]
        by_cases counter : buff.parentSkill = .fanJiLuoXuan
        · rw [if_pos counter]
          dsimp only
          rcases skillProcess210Buffer_self state.2 id index buff with same | reset
          · rw [same]
          · rw [reset]
            exact entries_modifyBuff _ _ fun _ => rfl
        · rw [if_neg counter]

end Passes

/-- Two of the loops are always safe. The expiry is safe as long as no role revives behind its back,
and the dispel as long as it kills nobody. -/
theorem iterations_safe_iff (id : Int) (fuel : Nat) (battle : PKPE) :
    let buffs := (battle.role id).multimapBuff.length
    (calculateBuff id battle = (buffPasses id).run buffs 0 battle ∧
      ((buffPasses id).Safe fuel 0 battle ↔
        (buffPasses id).Always (fun index battle => ¬ ExpiryRevives id index battle) fuel 0 battle)) ∧
    (breakLastSkill id battle = (breakPasses id).run buffs 0 battle ∧
      (breakPasses id).Safe fuel 0 battle) ∧
    (dispelLoop id buffs 0 battle = (dispelPasses id).run buffs 0 battle ∧
      ((dispelPasses id).Safe fuel 0 battle ↔
        (dispelPasses id).Always (fun index battle => ¬ DispelKills id index battle) fuel 0 battle)) ∧
    ∀ hurtValue, shieldLoop id buffs 0 hurtValue battle =
        (shieldPasses id).run buffs 0 (hurtValue, battle) ∧
      (shieldPasses id).Safe fuel 0 (hurtValue, battle) := by
  intro buffs
  refine ⟨⟨buffLoop_eq_run .., ?_⟩, ⟨breakLoop_eq_run .., ?_⟩, ⟨dispelLoop_eq_run .., ?_⟩,
    fun hurtValue => ⟨shieldLoop_eq_run .., ?_⟩⟩
  · exact Loop.Always.congr buffPasses_keeps_iff fuel 0 battle
  · exact Loop.Always.of_forall breakPasses_keeps fuel 0 battle
  · exact Loop.Always.congr dispelPasses_keeps_iff fuel 0 battle
  · exact Loop.Always.of_forall shieldPasses_keeps fuel 0 (hurtValue, battle)

/-- This curse has gathered enough hurt for its last blow. It can be broken. -/
def lastCurse : Buff :=
  { Buff.new .bySkill .zuZhou 1 0 40 true true with parametar1 := 505, parametar2 := 400 }

/-- The second role is cursed, and the curse expires now. -/
def curses (skillMap : List (Int × SkillAttr)) : PKPE :=
  { empty 7 1 (fun _ => false) (fun id =>
      if id = 2 then
        { (default : RoleState) with
          hp := 20, opposition := 4, multimapBuff := [lastCurse]
          magicAttrb := { (default : MagicAttr) with skillMap := skillMap } }
      else (default : RoleState)) with
    ids := [1, 2], pkState := .pking, fragmentNow := 40, draws := [0] }

/-- The dispel erases a curse that has already been cleared, and so does the expiry of a role that
revives. -/
theorem curses_not_safe :
    ¬ (∀ (battle : PKPE) (id : Int),
      (dispelPasses id).Safe (battle.role id).multimapBuff.length 0 battle) ∧
    ¬ (∀ (battle : PKPE) (id : Int),
      (buffPasses id).Safe (battle.role id).multimapBuff.length 0 battle) ∧
    ((updataBufferDel 2 lastCurse (curses [])).role 2).multimapBuff = [] ∧
    ((updataBufferDel 2 lastCurse
      (curses [(SkillType.fuHuo.code, ⟨1, 0, 0, 0, 100, 0⟩)])).role 2).multimapBuff ≠
        [lastCurse] := by
  refine ⟨fun claim => ?_, fun claim => ?_, by decide +kernel, by decide +kernel⟩
  · have keeps := (claim (curses []) 2).1
    refine (dispelPasses_keeps_iff 0 (curses [])).mp keeps ⟨lastCurse, rfl, rfl, .inr ?_⟩
    exact ⟨rfl, rfl, by decide +kernel⟩
  · have keeps := (claim (curses [(SkillType.fuHuo.code, ⟨1, 0, 0, 0, 100, 0⟩)]) 2).1
    refine (buffPasses_keeps_iff 0 _).mp keeps ⟨lastCurse, rfl, by decide +kernel, .inr ?_, ?_⟩
    · exact ⟨rfl, rfl, by decide +kernel⟩
    · exact ⟨_, rfl, .inl rfl⟩

end PKPE

end AppSvr.PkServer
