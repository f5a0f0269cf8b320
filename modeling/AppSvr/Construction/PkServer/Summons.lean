/-
This file defines the skills that call a new role.
-/

import AppSvr.Construction.PkServer.Skills

namespace AppSvr.PkServer

/-- The search for a new identifier. When all are taken, the last one is used. -/
def freeId (ids : List Int) : Nat → Int → Int
  | 0, id => id
  | remaining + 1, id => if id ∈ ids then freeId ids remaining (id + 1) else id

namespace RoleState

/-- Every called role gets these values. -/
def summoned (memory master : RoleState) (id : Int) (pos : Pos) (direct : Int) : RoleState :=
  { memory with
    controlID := master.controlID
    roleID := id
    currentOrder := { memory.currentOrder with type := orderTypeNo }
    live := .live
    moveAttrb := { memory.moveAttrb with
      currentPos := pos, currentPosMini := ⟨500, 500⟩, direct := direct }
    magicAttrb := { memory.magicAttrb with magicArmor := 0, magicArmorBase := 0 }
    attackSkillWaitingTime := 0
    mp := 0
    mpMax := 0
    opposition := master.opposition
    physicalAttrib := { memory.physicalAttrib with preAttackTime := 0, preTimeStatus := 0 }
    pkState := 3
    roleFlag := roleTypeCall }

/-- A copy has the health and the weapons of another role. -/
def copied (role source : RoleState) (attackPowerAdd hurtAdd : Int) : RoleState :=
  { role with
    hpMax := source.hpMax
    hp := source.hp
    level := source.level
    roleType := source.roleType
    moveAttrb := { role.moveAttrb with
      speedMod := source.moveAttrb.speedModBase, speedModBase := source.moveAttrb.speedModBase }
    physicalAttrib := { source.physicalAttrib with
      preAttackTime := 0, preTimeStatus := 0, attackPowerAdd := attackPowerAdd,
      hurtAdd := hurtAdd } }

end RoleState

namespace PKPE

def freeID (battle : PKPE) (controlID : Int) : Int :=
  freeId battle.ids 1000000 (controlID + 3000000)

/-- This is `UpdataBuffer` for a role that has no buff of the type and is no role of the battle. -/
def addFirstBuffer (role : RoleState) (tmpBuff : Buff) (battle : PKPE) : RoleState × PKPE :=
  ((role.insertBuff tmpBuff).updataEffect 1 none tmpBuff, battle.note (.addBuffer role tmpBuff))

/-- The time of a called role ends with its buff. -/
def callBuffer (battle : PKPE) (skill : SkillType) (level keepTime : Int) : Buff :=
  Buff.new .call skill level battle.fragmentNow keepTime false false

/-- The new role takes its buff, joins the others, and is announced. -/
def join (role : RoleState) (level keepTime copiedID : Int) (effect : SkillType) (battle : PKPE) :
    PKPE :=
  let (role, battle) := addFirstBuffer role (battle.callBuffer effect level keepTime) battle
  (battle.insertRole role).send (.newRole role keepTime copiedID effect)

variable (id : Int) (order : RoleOrder)

def skillProcess205 (_ : RoleOrder) (level : Int) (battle : PKPE) : PKPE :=
  let role := battle.role id
  let hp := byLevel level 200 [200, 300, 400, 500, 600, 800]
  let attackPower := byLevel level 80 [80, 160, 240, 320, 400, 480]
  let newPos := getEmptyPos battle.pkMapBase role.moveAttrb.currentPos role.moveAttrb.direct
  let (memory, battle) := battle.newObject role
  let wolf := memory.summoned role (battle.freeID role.controlID) newPos 1
  join
    { wolf with
      hp := hp
      hpMax := hp
      level := 1
      moveAttrb := { wolf.moveAttrb with speedMod := 300, speedModBase := 300 }
      physicalAttrib := { wolf.physicalAttrib with
        attackArea := 2, attackBulletMod := role.physicalAttrib.attackBulletMod
        attackCDTime := 15, attackCDTimeBase := 15, attackIngTime := 3
        attackHit := 100, attackHitBase := 100
        attackPowerHignBase := attackPower, attackPowerLowBase := attackPower
        defenseArmor := 10, defenseArmorBase := 10, defenseMiss := 0, defenseMissBase := 0 }
      roleType := 125 }
    level 200 0 .youLingLang battle

def skillProcess206 (level : Int) : PKPE → PKPE :=
  onTarget order fun target battle =>
    let role := battle.role id
    let source := battle.role target
    let attackPowerAdd := byLevel level (-60) [-60, -50, -40, -30, -20, 0]
    let hurtAdd := byLevel level 300 [300, 250, 200, 150, 100, 50]
    let newPos := getEmptyPos battle.pkMapBase source.moveAttrb.currentPos role.moveAttrb.direct
    let (memory, battle) := battle.newObject role
    let image := memory.summoned role (battle.freeID role.controlID) newPos role.moveAttrb.direct
    join (image.copied source attackPowerAdd hurtAdd) level 80 target .jingXiang battle

/-- The position of the order is trusted. -/
def callPos (battle : PKPE) : Pos × PKPE :=
  let role := battle.role id
  let (free, battle) := battle.readMap order.targetPos
  (if free then order.targetPos
    else getEmptyPos battle.pkMapBase role.moveAttrb.currentPos role.moveAttrb.direct, battle)

def skillProcess212 (level : Int) (battle : PKPE) : PKPE :=
  let role := battle.role id
  let hp := byLevel level 100 [100, 200, 300, 400, 500, 600]
  let attackPower := byLevel level 50 [50, 100, 150, 200, 250, 300]
  let cdTime := role.physicalAttrib.attackCDTimeBase
  let (memory, battle) := battle.newObject role
  let (pos, battle) := callPos id order battle
  let snake := memory.summoned role (battle.freeID role.controlID) pos role.moveAttrb.direct
  let snake := { snake with
    hpMax := hp
    hp := hp
    level := role.level
    moveAttrb := { snake.moveAttrb with speedModBase := 0, limitCounter := 1 }
    magicAttrb := { snake.magicAttrb with exemptAllCounter := 1 }
    physicalAttrib := { snake.physicalAttrib with
      attackPowerHignBase := attackPower, attackPowerLowBase := attackPower
      attackBulletMod := 2
      attackCDTimeBase := if short (cdTime - 10) ≤ 0 then cdTime else short (cdTime - 10)
      attackHitBase := role.physicalAttrib.attackHitBase
      attackIngTime := role.physicalAttrib.attackIngTime
      attackArea := 10, defenseArmorBase := 10 }
    roleType := 10001 }
  -- The counters that have just been set are cleared here.
  join snake.init level (byLevel level 50 [50, 50, 70, 70, 90, 120]) 0 .duSheShouWei battle

/-- This role is announced before it joins. -/
def skillProcess218 (level : Int) (battle : PKPE) : PKPE :=
  let role := battle.role id
  let keepTime := byLevel level 50 [50, 50, 50, 70, 70, 70]
  let hp := byLevel level 100 [100, 200, 300, 400, 500, 600]
  let (memory, battle) := battle.newObject role
  let (pos, battle) := callPos id order battle
  let healer := memory.summoned role (battle.freeID role.controlID) pos role.moveAttrb.direct
  let healer := { healer with
    hpMax := hp
    hp := hp
    level := role.level
    moveAttrb := { healer.moveAttrb with speedMod := 0, speedModBase := 0, limitCounter := 1 }
    magicAttrb := { healer.magicAttrb with exemptAllCounter := 1 }
    physicalAttrib := { healer.physicalAttrib with
      attackPowerHignBase := 0, attackPowerLowBase := 0, attackBulletMod := 0, limitCounter := 1
      attackCDTime := 0, attackCDTimeBase := 0, attackHit := 0, attackHitBase := 0
      attackIngTime := 0, attackArea := 13, defenseArmor := 10, defenseArmorBase := 10 }
    roleType := 10002 }
  let (healer, battle) :=
    addFirstBuffer healer (battle.callBuffer .zhiLiaoShouWei level keepTime) battle
  let (healer, battle) := addFirstBuffer healer
    { Buff.new .castSkill .zhiLiaoShouWei level battle.fragmentNow keepTime false false with
      parametar1 := byLevel level 1 [1, 2, 3, 4, 5, 8]
      runTimeLimit := 10
      effecttype := .relative } battle
  (battle.send (.newRole healer keepTime 0 .zhiLiaoShouWei)).insertRole healer

def skillProcess232 (_ : RoleOrder) (level : Int) (battle : PKPE) : PKPE :=
  let role := battle.role id
  let attackPowerAdd := byLevel level (30 - 100)
    [30 - 100, 35 - 100, 40 - 100, 45 - 100, 50 - 100, 60 - 100]
  let hurtAdd := byLevel level (450 - 100)
    [450 - 100, 400 - 100, 350 - 100, 300 - 100, 250 - 100, 200 - 100]
  let newPos := getEmptyPos battle.pkMapBase role.moveAttrb.currentPos role.moveAttrb.direct
  let (memory, battle) := battle.newObject role
  let copy := memory.summoned role (battle.freeID role.controlID) newPos role.moveAttrb.direct
  join (copy.copied role attackPowerAdd hurtAdd) level 100 role.roleID .fenShen battle

end PKPE

end AppSvr.PkServer
