/-
This file defines attacks, bullets, and the course of buffs.
-/

import AppSvr.Construction.PkServer.Movement
import AppSvr.Construction.PkServer.Skills

namespace AppSvr.PkServer

/-- This is `ATTACKRESULT_..`. -/
inductive AttackResult where
  | okAttack | noAttack | cdLimit | targetInvalid | noMove | astarFail | moveFail | moveing
  deriving DecidableEq, Repr

/-- The tenths of the health. The division by zero gives the least integer. -/
def healthTenths (hp hpMax : Int) : Int :=
  if hpMax = 0 then -2147483648 else toInt (double (double ((hp : ℚ) / hpMax) * 10))

/-- A value of hate lies between one and eight. -/
def hatreBound (value : Int) : Int := if 8 < value then 8 else if value < 1 then 1 else value

/-- The hate grows when the distance shrinks. -/
def hatreDistance (area square : Int) : Int :=
  if 0 ≤ area ∧ square ≤ area * area then 8
  else short (max 1 (8 - (sqrtCeil square.toNat - area)))

namespace RoleState

variable (role : RoleState)

def isMonster : Prop :=
  role.roleFlag = roleTypeMonster ∨ role.roleFlag = roleTypeNPC

instance (role : RoleState) : Decidable role.isMonster := inferInstanceAs (Decidable (_ ∨ _))

/-- The role attacks another role. -/
def setTarget (target now : Int) : RoleState :=
  { role.setPreTimeStatus 1 with
    currentOrder := { role.currentOrder with
      type := orderTypeAttackE, targetType := 2, targetRoleID := target, orderTime := now } }

def setPreAttackTime (now : Int) : RoleState :=
  { role with physicalAttrib := { role.physicalAttrib with preAttackTime := now } }

/-- The first buff of `FeiXueZhiMao` adds a hurt, and grows. -/
def sharpen (hurtValue : Int) : Int × RoleState :=
  match role.multimapBuff.findIdx? fun buff => buff.parentSkill = .feiXueZhiMao with
  | none => (hurtValue, role)
  | some index =>
      match role.multimapBuff[index]? with
      | none => (hurtValue, role)
      | some buff =>
          (ushort (hurtValue + buff.parametar1), role.modifyBuff index fun buff =>
            { buff with parametar1 :=
              buff.parametar1 + (buff.parametar2 * short hurtValue).tdiv 100 })

/-- The curses collect the hurts. -/
def collectHurt (hurtValue : Int) : RoleState :=
  { role with multimapBuff := role.multimapBuff.map fun buff =>
    if buff.parentSkill = .zuZhou then { buff with parametar2 := buff.parametar2 + hurtValue }
    else buff }

end RoleState

namespace PKPE

/-- A shield takes the hurt, and the buff of `FanJiLuoXuan` strikes back. The fuel is the number of
buffs. -/
def shieldLoop (id : Int) : Nat → Nat → Int → PKPE → Int × PKPE
  | 0, _, hurtValue, battle => (hurtValue, battle)
  | fuel + 1, index, hurtValue, battle =>
      match (battle.role id).multimapBuff[index]? with
      | none => (hurtValue, battle)
      | some buff =>
          if buff.parentSkill = .wuGuangZhiDun then
            let total := buff.parametar2 + hurtValue
            let store (value : Int) : PKPE :=
              battle.modifyRole id fun role =>
                role.modifyBuff index fun buff => { buff with parametar2 := value }
            if buff.parametar1 ≤ total then
              let battle := skillProcess209Buffer id { buff with parametar2 := buff.parametar1 }
                (store buff.parametar1)
              let battle := (battle.sendBufferStop id buff).modifyRole id fun role =>
                role.eraseBuff index
              shieldLoop id fuel index (ushort (total - buff.parametar1)) battle
            else shieldLoop id fuel (index + 1) 0 (store total)
          else if buff.parentSkill = .fanJiLuoXuan then
            shieldLoop id fuel (index + 1) hurtValue (skillProcess210Buffer id index buff battle)
          else shieldLoop id fuel (index + 1) hurtValue battle

/-- The hurt of a weapon before the buffs, with the effect for the clients. Of its products only the
one with the level can leave the range of `int`. -/
def weaponHurt (attack target : RoleState) (battle : PKPE) : Int × HpEffect × PKPE :=
  let low := attack.physicalAttrib.attackPowerLowBase
  let spread := attack.physicalAttrib.attackPowerHignBase - low
  let (hurtValue, battle) :=
    if spread ≠ 0 then
      let (draw, battle) := battle.rand
      (ushort (ushort low + ((draw : Int).tmod spread + 1)), battle)
    else (ushort low, battle)
  let hurtValue :=
    ushort (hurtValue + short ((attack.physicalAttrib.attackPowerAdd * hurtValue).tdiv 100))
  let defense := 50 + target.level + sqrtInt target.physicalAttrib.defenseArmor
  let hurtValue :=
    if defense ≠ 0 then ushort ((int (hurtValue * (50 + attack.level))).tdiv defense)
    else hurtValue
  let hurtValue := if hurtValue ≤ 0 then 1 else hurtValue
  let crit := attack.physicalAttrib.attackCrit
  if crit = 0 then (hurtValue, .normal, battle)
  else
    let (draw, battle) := battle.rand
    if short ((crit * 100 + 1199).tdiv 1200) < (draw % 100 : Nat) then
      (hurtValue, .normal, battle)
    else (ushort (hurtValue * 2), .twice, battle)

def calculateAttackHurt (attackID targetID : Int) (battle : PKPE) : PKPE :=
  let attack := battle.role attackID
  let target := battle.role targetID
  let (draw, battle) := battle.rand
  if getBHitTarget attack.physicalAttrib.attackHit target.physicalAttrib.defenseMiss <
      (draw % 100 : Nat) then
    battle.send (.hpChange targetID 0 .miss)
  else
    let (hurtValue, effect, battle) := weaponHurt attack target battle
    let hurtValue :=
      ushort (hurtValue + (hurtValue * target.physicalAttrib.hurtAdd).tdiv 100)
    let battle := battle.modifyRole targetID fun role => role.collectHurt hurtValue
    let (sharpened, attack) := (battle.role attackID).sharpen hurtValue
    let battle := battle.modifyRole attackID fun _ => attack
    let (hurtValue, battle) :=
      shieldLoop targetID (battle.role targetID).multimapBuff.length 0 sharpened battle
    if 0 < hurtValue then loseHp targetID hurtValue effect battle else battle

variable (id : Int) (battle : PKPE)

/-- A bullet waits, follows its target, or hits it. It is kept until it hits. -/
def flyBullet (bullet : Bullet) : PKPE :=
  let target := bullet.rolePassive
  let goal := battle.positionOf target
  let pos := bullet.currentPos
  if (battle.role target).live = .dead then battle
  else if 0 < bullet.startTime then
    battle.addBullet { bullet with startTime := bullet.startTime - 1 }
  else if bullet.bulletType = .atkClose then calculateAttackHurt bullet.roleAttack target battle
  else if 3 < (goal.x - pos.x).natAbs ∨ 3 < (goal.y - pos.y).natAbs then
    let toward (goal pos : Int) : Int :=
      if pos < goal then short (pos + bullet.speed)
      else if goal < pos then short (pos - bullet.speed)
      else pos
    battle.addBullet { bullet with currentPos := ⟨toward goal.x pos.x, toward goal.y pos.y⟩ }
  else
    match bullet.bulletType with
    | .atkRemote => calculateAttackHurt bullet.roleAttack target battle
    | .skill .fengBaoZhiChui => skillProcess207Effect goal bullet.roleAttack bullet.level battle
    | .skill .youBu => skillProcess217Effect bullet battle
    | .skill .zuiJiuYunWu =>
        skillProcess223Effect goal (battle.role bullet.roleAttack).opposition bullet.level battle
    | _ => battle

/-- No effect of a bullet reads or adds bullets. -/
def calculateBullets : PKPE :=
  battle.bullets.foldl flyBullet { battle with bullets := [] }

/-- A role that cannot move looks for an enemy within reach. -/
def attackAround : PKPE :=
  let role := battle.role id
  let pos := role.moveAttrb.currentPos
  let near := battle.ids.find? fun target =>
    let passive := battle.role target
    let other := passive.moveAttrb.currentPos
    role.Fights passive ∧ passive.physicalAttrib.exemptCounter = 0 ∧
      short ((other.x - pos.x).natAbs + (other.y - pos.y).natAbs) < role.physicalAttrib.attackArea
  match near with
  | some target =>
      battle.modifyRole id fun role => role.setTarget target battle.fragmentNow
  | none =>
      battle.modifyRole id fun role =>
        { role with currentOrder := { role.currentOrder with
          type := orderTypeNo, targetRoleID := 0 } }

/-- The hate against one role, with the greatest hate so far and its role. -/
def hateOne (state : (Int × Int) × PKPE) (target : Int) : (Int × Int) × PKPE :=
  let battle := state.2
  let role := battle.role id
  let passive := battle.role target
  if ¬ role.Fights passive then state
  else
    let dist := distShort role.moveAttrb.currentPos passive.moveAttrb.currentPos
    let area := role.physicalAttrib.attackArea
    let dis := if dist ≤ area then 8 else max 1 (short (8 - (dist - area)))
    let hp := hatreBound (short (8 - healthTenths passive.hp passive.currHpMax))
    let battle := battle.modifyRole id fun role =>
      (role.modifyHatre target fun info =>
        { info with
          distance := dis, hp := hp
          attack := max 1 (short (info.attack - 1)), hit := max 1 (short (info.hit - 1)) }).addHatre
        target ⟨dis, hp, 0, 0⟩
    let hatre := (((battle.role id).hatreMap.lookup target).getD HaterInfo.clear).max
    (if state.1.1 < hatre then (hatre, target) else state.1, battle)

def calculateAIAttack : PKPE :=
  if 0 < (battle.role id).moveAttrb.limitCounter then attackAround id battle
  else if battle.fragmentNow % 30 ≠ 10 then battle
  else
    let ((_, maxID), battle) := battle.ids.foldl (hateOne id) ((0, 0), battle)
    if maxID = 0 then battle.modifyRole id fun role => role.setOrderType orderTypeNo
    else
      battle.modifyRole id fun role =>
        if role.currentOrder.type = orderTypeNo ∨ role.currentOrder.targetRoleID ≠ maxID then
          role.setTarget maxID battle.fragmentNow
        else role

/-- The hate that starts with an attack. -/
def firstHatre (role other : RoleState) (attack hit : Int) : HaterInfo :=
  ⟨hatreDistance role.physicalAttrib.attackArea
      (distSquare role.moveAttrb.currentPos other.moveAttrb.currentPos),
    hatreBound (short (10 - healthTenths other.hp other.hpMax)), attack, hit⟩

/-- A monster remembers the other role, and looks for a target when the role is new to it. -/
def remember (id other : Int) (first : HaterInfo) (again : HaterInfo → HaterInfo)
    (battle : PKPE) : PKPE :=
  if (battle.role id).isMonster then
    match (battle.role id).hatreMap.lookup other with
    | some _ => battle.modifyRole id fun role => role.modifyHatre other again
    | none => calculateAIAttack id (battle.modifyRole id fun role => role.addHatre other first)
  else battle

def calculateAttack (attackID targetID : Int) (battle : PKPE) : PKPE :=
  let attack := battle.role attackID
  let battle := battle.send (.attack attackID targetID)
  let mod := attack.physicalAttrib.attackBulletMod
  let battle := battle.addBullet
    ⟨attackID, targetID, ushort attack.physicalAttrib.attackIngTime, attack.moveAttrb.currentPos,
      char mod, if mod = 0 then .atkClose else .atkRemote, 0⟩
  let battle := remember targetID attackID
    (firstHatre (battle.role targetID) (battle.role attackID) 2 0)
    (fun info => { info with attack := min 8 (short (info.attack + 2)) }) battle
  remember attackID targetID (firstHatre (battle.role attackID) (battle.role targetID) 0 1)
    (fun info => { info with hit := min 8 (short (info.hit + 1)) }) battle

/-- A buff of health heals up to the current maximum. -/
def runHealth (tmpBuff : Buff) (battle : PKPE) : PKPE :=
  let role := battle.role id
  if role.currHpMax ≤ role.hp then battle
  else
    let value := match tmpBuff.effecttype with
      | .relative => short ((tmpBuff.parametar1 * role.currHpMax).tdiv 100)
      | .abs => short tmpBuff.parametar1
    let addHp :=
      if role.currHpMax < role.hp + value then short (role.currHpMax - role.hp) else value
    (battle.modifyRole id fun role => role.addHp addHp).send
      (.hpChange id addHp (.skill tmpBuff.parentSkill))

def runBuffer (index : Nat) (tmpBuff : Buff) (battle : PKPE) : PKPE :=
  match tmpBuff.type, tmpBuff.parentSkill with
  | .castSkill, .jianRenFengBao => skillProcess204Buffer id tmpBuff.parametar1 battle
  | .castSkill, .liuXingHuoYU => skillProcess219Effect id tmpBuff battle
  | .castSkill, .wuDiZhan => skillProcess224Effect id tmpBuff battle
  | .castSkill, .zhiLiaoShouWei => skillProcess218Buffer id tmpBuff battle
  | .bySkill, .fanJiLuoXuan =>
      battle.modifyRole id fun role =>
        role.modifyBuff index fun buff => { buff with parametar2 := buff.parametar2 + 1 }
  | .hp, _ => runHealth id tmpBuff battle
  | _, _ => battle

/-- A buff with a limit runs when its counter reaches the limit. -/
def countBuff (index : Nat) (tmpBuff : Buff) (battle : PKPE) : PKPE :=
  let setCounter (value : Int) (battle : PKPE) : PKPE :=
    battle.modifyRole id fun role =>
      role.modifyBuff index fun buff => { buff with runCounter := value }
  let counter := ushort (tmpBuff.runCounter + 1)
  if tmpBuff.runTimeLimit ≤ 0 then battle
  else if counter < tmpBuff.runTimeLimit then setCounter counter battle
  else
    setCounter 0 (runBuffer id index { tmpBuff with runCounter := counter }
      (setCounter counter battle))

/-- The fuel is the number of buffs. -/
def buffLoop (id : Int) : Nat → Nat → PKPE → PKPE
  | 0, _, battle => battle
  | fuel + 1, index, battle =>
      match (battle.role id).multimapBuff[index]? with
      | none => battle
      | some buff =>
          let battle := countBuff id index buff battle
          match (battle.role id).multimapBuff[index]? with
          | none => battle
          | some buff =>
              if buff.endTime ≤ battle.fragmentNow then
                let after := updataBufferDel id buff battle
                if (after.role id).live = .dead then after
                else
                  buffLoop id fuel index
                    (eraseIterator id index (battle.role id).multimapBuff after)
              else buffLoop id fuel (index + 1) battle

def calculateBuff : PKPE :=
  buffLoop id (battle.role id).multimapBuff.length 0 battle

end PKPE

end AppSvr.PkServer
