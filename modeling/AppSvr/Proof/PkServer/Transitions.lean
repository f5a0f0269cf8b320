/-
This file proves how a battle reads after its changes, how roles lose health, die and come back, and
how a battle ends.
-/

import AppSvr.Construction.PkServer.Battle
import AppSvr.Proof.PkServer.Values
import AppSvr.ToMathlib.TransitionSystem

namespace AppSvr.PkServer

section Fields

variable (battle : PKPE) (id other : Int) (change : RoleState → RoleState) (message : Broadcast)
  (call : Call)

@[simp] theorem PKPE.note_toRoles : (battle.note call).toRoles = battle.toRoles := rfl
@[simp] theorem PKPE.send_toRoles : (battle.send message).toRoles = battle.toRoles := rfl
@[simp] theorem PKPE.note_calls : (battle.note call).calls = battle.calls ++ [call] := rfl
@[simp] theorem PKPE.send_calls : (battle.send message).calls = battle.calls := rfl
@[simp] theorem PKPE.modifyRole_calls : (battle.modifyRole id change).calls = battle.calls := rfl
@[simp] theorem PKPE.note_sent : (battle.note call).sent = battle.sent := rfl
@[simp] theorem PKPE.modifyRole_sent : (battle.modifyRole id change).sent = battle.sent := rfl
@[simp] theorem PKPE.note_fragmentNow : (battle.note call).fragmentNow = battle.fragmentNow := rfl
@[simp] theorem PKPE.send_fragmentNow :
    (battle.send message).fragmentNow = battle.fragmentNow := rfl
@[simp] theorem PKPE.modifyRole_fragmentNow :
    (battle.modifyRole id change).fragmentNow = battle.fragmentNow := rfl
@[simp] theorem PKPE.note_pkState : (battle.note call).pkState = battle.pkState := rfl
@[simp] theorem PKPE.send_pkState : (battle.send message).pkState = battle.pkState := rfl
@[simp] theorem PKPE.modifyRole_pkState :
    (battle.modifyRole id change).pkState = battle.pkState := rfl
@[simp] theorem PKPE.note_pkMapBase : (battle.note call).pkMapBase = battle.pkMapBase := rfl
@[simp] theorem PKPE.send_pkMapBase : (battle.send message).pkMapBase = battle.pkMapBase := rfl
@[simp] theorem PKPE.modifyRole_pkMapBase :
    (battle.modifyRole id change).pkMapBase = battle.pkMapBase := rfl
@[simp] theorem PKPE.note_bullets : (battle.note call).bullets = battle.bullets := rfl
@[simp] theorem PKPE.send_bullets : (battle.send message).bullets = battle.bullets := rfl
@[simp] theorem PKPE.modifyRole_bullets :
    (battle.modifyRole id change).bullets = battle.bullets := rfl
@[simp] theorem PKPE.note_skillOrderList :
    (battle.note call).skillOrderList = battle.skillOrderList := rfl
@[simp] theorem PKPE.send_skillOrderList :
    (battle.send message).skillOrderList = battle.skillOrderList := rfl
@[simp] theorem PKPE.modifyRole_skillOrderList :
    (battle.modifyRole id change).skillOrderList = battle.skillOrderList := rfl
@[simp] theorem PKPE.modifyRole_ids : (battle.modifyRole id change).ids = battle.ids := rfl

@[simp] theorem PKPE.modifyRole_self :
    (battle.modifyRole id change).role id = change (battle.role id) :=
  Function.update_self ..

theorem PKPE.modifyRole_of_ne (differs : other ≠ id) :
    (battle.modifyRole id change).role other = battle.role other :=
  Function.update_of_ne differs ..

theorem PKPE.modifyRole_modifyRole (next : RoleState → RoleState) :
    (battle.modifyRole id change).modifyRole id next =
      battle.modifyRole id fun role => next (change role) := by
  simp [PKPE.modifyRole]

theorem PKPE.send_modifyRole :
    (battle.modifyRole id change).send message = (battle.send message).modifyRole id change := rfl

theorem PKPE.note_modifyRole :
    (battle.modifyRole id change).note call = (battle.note call).modifyRole id change := rfl

end Fields

/-- The buffs without a value are erased before their time. -/
def Buff.Inert (buff : Buff) : Prop :=
  buff.type = .bySkill ∧ buff.parentSkill = .wuGuangZhiDun ∨ buff.type = .call

/-- The cells are different neighbours. -/
def Pos.Beside (cell next : Pos) : Prop :=
  cell ≠ next ∧ (cell.x - next.x).natAbs ≤ 1 ∧ (cell.y - next.y).natAbs ≤ 1

/-- The line starts at the role and leads over neighbouring cells. -/
structure Walk (pos : Pos) (direct : Int) (way : List Pos) : Prop where
  start : way.head? = some pos
  chain : way.IsChain Pos.Beside
  leads : ∀ next, way[1]? = some next → direct = getDirect next pos
  inside : pos.InMap → ∀ cell ∈ way, cell.InMap


theorem RoleState.updataEffect_live (role : RoleState) (updataType : Int) (buff : Buff) :
    (role.updataEffect updataType none buff).live = role.live := by
  obtain ⟨_, _, same, _⟩ := role.body_updataEffect buff updataType
  exact (congrArg RoleState.live same :)

theorem RoleState.upgrade_live {role : RoleState} {buff old : Buff} {index : Nat}
    (found : role.multimapBuff[index]? = some old) (type : old.type = buff.type)
    (parentSkill : old.parentSkill = buff.parentSkill) (ordinary : buff.parentSkill ≠ .fuHuo) :
    (role.updataEffect 1 (some index) buff).live = role.live := by
  obtain ⟨store, before, after, _, same, _⟩ :=
    role.updataEffect_upgrade buff found type parentSkill ordinary
  rw [same]
  have second := congrArg RoleState.live
    ((((role.upgradeHp buff old).addValues before).modifyBuff index store).body_addValues after)
  have first := congrArg RoleState.live ((role.upgradeHp buff old).body_addValues before)
  refine second.trans (Eq.trans first ?_)
  change (role.upgradeHp buff old).live = _
  unfold upgradeHp
  split <;> rfl

namespace PKPE

section CheckOver

variable (battle : PKPE) (opposition : Int)

/-- The end of a battle changes its state, its messages, and its records. -/
structure OnlyEnds (battle next : PKPE) : Prop where
  roles : next.toRoles = battle.toRoles
  pkMapBase : next.pkMapBase = battle.pkMapBase
  bullets : next.bullets = battle.bullets
  orders : next.skillOrderList = battle.skillOrderList
  fragmentNow : next.fragmentNow = battle.fragmentNow
  calls : next.calls = battle.calls ∨ ∃ winOpposition,
    next.calls = battle.calls ++ [.endGame battle.toRoles winOpposition]
  sent : next.sent = battle.sent ∨ ∃ pkID mapID winOpposition records,
    next.sent = battle.sent ++ [(battle.fragmentNow, .fightEnd),
      (battle.fragmentNow, .endGame pkID mapID winOpposition records)]

theorem exists_rand :
    ∃ draws starved, battle.rand.2 = { battle with draws := draws, starved := starved } := by
  unfold rand
  cases battle.draws with
  | nil => exact ⟨_, true, rfl⟩
  | cons draw rest => exact ⟨rest, battle.starved, rfl⟩

theorem rand_toRoles (battle : PKPE) : battle.rand.2.toRoles = battle.toRoles := by
  obtain ⟨draws, starved, same⟩ := battle.exists_rand
  rw [same]

theorem endGame_onlyEnds (winOpposition : Int) :
    OnlyEnds battle (battle.endGame winOpposition) := by
  obtain ⟨draws, starved, after⟩ := exists_rand (battle.note (.endGame battle.toRoles winOpposition))
  unfold endGame
  dsimp only
  rw [after]
  split
  · exact ⟨rfl, rfl, rfl, rfl, rfl, .inr ⟨winOpposition, rfl⟩, .inl rfl⟩
  · exact ⟨rfl, rfl, rfl, rfl, rfl, .inr ⟨winOpposition, rfl⟩,
      .inr ⟨_, _, _, _, List.append_assoc ..⟩⟩

theorem checkOver_onlyEnds : OnlyEnds battle (battle.checkOver opposition) := by
  unfold checkOver
  split
  · exact ⟨rfl, rfl, rfl, rfl, rfl, .inl rfl, .inl rfl⟩
  · split
    · exact ⟨rfl, rfl, rfl, rfl, rfl, .inl rfl, .inl rfl⟩
    · obtain ⟨roles, map, bullets, orders, now, calls, sent⟩ :=
        battle.endGame_onlyEnds (battle.winOpposition opposition)
      exact ⟨roles, map, bullets, orders, now, calls, sent⟩

end CheckOver

end PKPE


/-- A role comes back without its buffs. -/
def RoleState.cleared (role : RoleState) : RoleState :=
  ({ role with multimapBuff := [] } : RoleState).init

/-- The weakness is the only buff of a role that comes back. -/
def RoleState.revived (role : RoleState) (buff : Buff) (now : Int) : RoleState :=
  (((role.cleared.insertBuff buff).updataEffect 1 none buff).useSkill SkillType.fuHuo.code
    now).setOrderType orderTypeNo

namespace PKPE

variable (battle : PKPE) (id : Int)

theorem revive_eq (skill : SkillAttr) :
    battle.revive id skill =
      (((battle.note (.addBuffer (battle.role id).cleared
        (battle.reviveBuff skill.skillLevel))).send
          (.skill id SkillType.fuHuo.code 2 (.inr id))).modifyRole id fun role =>
            role.revived (battle.reviveBuff skill.skillLevel) battle.fragmentNow) := by
  have missing (role : RoleState) (buff : Buff) : role.cleared.existing buff = .missing := by
    simp [RoleState.existing, RoleState.cleared, RoleState.init]
  have first : (battle.modifyRole id fun role =>
      ({ role with multimapBuff := [] } : RoleState).init).role id = (battle.role id).cleared :=
    modifyRole_self ..
  unfold revive updataBufferAdd
  dsimp only [note_toRoles]
  rw [first, missing]
  simp only [sendSkillBuffer, reviveBuff, Buff.new]
  simp [modifyRole, note, send, RoleState.revived, RoleState.cleared]

/-- A role that dies is sent, and comes back or falls. -/
def fallen (undone : List Buff) : PKPE :=
  (battle.note (.onRoleDead (battle.role id) undone)).send (.dead id)

theorem onRoleDead_cases (undone : List Buff) :
    (∃ skill, (battle.role id).skill? SkillType.fuHuo.code = some skill ∧
      onRoleDead undone id battle = (battle.fallen id undone).revive id skill) ∨
    onRoleDead undone id battle =
      ((battle.fallen id undone).modifyRole id RoleState.dead).checkOver
        (battle.role id).opposition := by
  unfold onRoleDead
  dsimp only [note_toRoles, send_toRoles]
  cases known : (battle.role id).skill? SkillType.fuHuo.code with
  | none =>
      exact .inr rfl
  | some skill =>
      dsimp only
      split
      · exact .inl ⟨skill, rfl, rfl⟩
      · exact .inr rfl

end PKPE

namespace PKPE

section MultiHurt

variable (battle : PKPE) (target : Int × Int) (deadOpp : Int)

theorem multiHurtOne_missing (missing : target.1 ∉ battle.ids) :
    multiHurtOne target (deadOpp, battle) = (deadOpp, battle) := by
  simp [multiHurtOne, missing]

end MultiHurt

end PKPE

namespace PKPE

/-- A role that joins has a new number. -/
theorem insertRole_cases (battle : PKPE) (role : RoleState) :
    battle.insertRole role = battle ∨ role.roleID ∉ battle.ids ∧
      battle.insertRole role = { battle.note (.newRole role) with
        ids := battle.ids.orderedInsert (· ≤ ·) role.roleID
        role := Function.update battle.role role.roleID role } := by
  unfold insertRole
  split
  · exact .inl rfl
  · next fresh => exact .inr ⟨fresh, rfl⟩

end PKPE

end AppSvr.PkServer
