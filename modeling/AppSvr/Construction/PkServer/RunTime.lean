/-
This file defines the orders of the roles and the course of a battle.
-/

import AppSvr.Construction.PkServer.Combat
import AppSvr.Construction.PkServer.Summons

namespace AppSvr.PkServer

/-- Both coordinates differ by more than the bound. -/
def Pos.beyond (a b : Pos) (bound : Int) : Prop :=
  bound < (a.x - b.x).natAbs ∨ bound < (a.y - b.y).natAbs

instance (a b : Pos) (bound : Int) : Decidable (a.beyond b bound) :=
  inferInstanceAs (Decidable (_ ∨ _))

/-- The distance along the axes. -/
def Pos.gap (a b : Pos) : Int := short ((a.x - b.x).natAbs + (a.y - b.y).natAbs)

namespace PKPE

/-- A chase goes on along the line, or along a new one. -/
def chase (id target : Int) (battle : PKPE) : AttackResult × PKPE :=
  let followNew (failed : PKPE → AttackResult × PKPE) (battle : PKPE) : AttackResult × PKPE :=
    let (result, battle) := battle.aStar id (battle.positionOf id) (battle.positionOf target)
    if result = 0 then
      let (moved, battle) := calculateMoveP id battle
      (if moved = .okMove then .moveing else .moveFail, battle)
    else failed battle
  let checked := battle.fragmentNow % 10 = 0
  let preD := (battle.positionOf id).gap (battle.positionOf target)
  let (moved, battle) := calculateMoveP id battle
  if moved = .okMove then
    if checked ∧ 0 ≤ preD ∧ preD < (battle.positionOf id).gap (battle.positionOf target) then
      followNew (fun battle => (.moveing, battle)) battle
    else (.moveing, battle)
  else
    followNew (fun battle =>
      (.astarFail, battle.modifyRole id fun role => role.setPreTimeStatus 1)) battle

variable (id : Int) (battle : PKPE)

def processCSAttack : AttackResult × PKPE :=
  let role := battle.role id
  let target := role.currentOrder.targetRoleID
  if 0 < role.physicalAttrib.limitCounter then (.noAttack, battle)
  else if uint (battle.fragmentNow + 20 - role.physicalAttrib.preAttackTime) <
      role.physicalAttrib.attackCDTime then (.cdLimit, battle)
  else
    match battle.find target with
    | none => (.targetInvalid, battle)
    | some passive =>
        if passive.live = .dead ∨ 0 < passive.physicalAttrib.exemptCounter then
          (.targetInvalid, battle)
        else if ¬ role.moveAttrb.currentPos.beyond passive.moveAttrb.currentPos
            role.physicalAttrib.attackArea then
          let battle :=
            if role.physicalAttrib.preTimeStatus = 0 then
              battle.modifyRole id fun role => (role.setPreTimeStatus 1).setMoveLine []
            else battle
          let battle := battle.modifyRole id fun role =>
            (role.setPreAttackTime battle.fragmentNow).setWaitingTime
              role.physicalAttrib.attackIngTime
          (.okAttack, calculateAttack id target battle)
        else if 0 < role.moveAttrb.limitCounter ∨ role.moveAttrb.speedMod = 0 then
          (.noMove, battle)
        else if role.physicalAttrib.preTimeStatus = 1 then
          let battle := battle.modifyRole id fun role => role.setPreTimeStatus 0
          let (result, battle) :=
            battle.aStar id role.moveAttrb.currentPos passive.moveAttrb.currentPos
          if result = 0 then (.moveing, battle)
          else (.astarFail, battle.modifyRole id fun role => role.setPreTimeStatus 1)
        else chase id target battle

/-- The approach to the place of a skill. The result is zero for a way. -/
def approach (goal : Pos) (battle : PKPE) : Int × PKPE :=
  if 0 < (battle.role id).moveAttrb.limitCounter then (-1, battle)
  else
    let (moved, battle) := calculateMoveP id battle
    if moved = .okMove then (0, battle) else battle.aStar id (battle.positionOf id) goal

def addSkillOrder (skillOrder : SkillOrder) : PKPE :=
  { battle with skillOrderList := battle.skillOrderList ++ [skillOrder] }

/-- The skill is listed, announced, and paid. -/
def startSkill (skill : SkillAttr) (battle : PKPE) : PKPE :=
  let role := battle.role id
  let order := role.currentOrder
  let battle := battle.send (.stop id role.moveAttrb.currentPos role.moveAttrb.currentPosMini)
  let battle := battle.addSkillOrder ⟨id, ushort skill.doingTime, order, skill.skillLevel⟩
  let battle := battle.send (.skill id order.type order.targetType
    (if order.targetType = 1 then .inl order.targetPos else .inr order.targetRoleID))
  let battle := (battle.note (.mana role skill.mp)).modifyRole id fun role => role.addMp (-skill.mp)
  let battle := battle.send (.mpChange id (short (-skill.mp)) 100)
  battle.modifyRole id fun role =>
    ((role.useSkill order.type battle.fragmentNow).setWaitingTime skill.doingTime).setOrderType
      orderTypeNo

/-- The result is negative when the skill is refused. -/
def processCSSkill : Int × PKPE :=
  let role := battle.role id
  let order := role.currentOrder
  let goal : Option Pos :=
    if order.targetType = 1 then
      if order.targetPos.InMap then some order.targetPos else none
    else
      (battle.find order.targetRoleID).bind fun passive =>
        if 0 < passive.magicAttrb.exemptAllCounter then none
        else some passive.moveAttrb.currentPos
  if 0 < role.magicAttrb.limitCounter then (-1, battle)
  else
    match role.skill? order.type, goal with
    | some skill, some goal =>
        if skill.lastUseTime ≠ 0 ∧
            uint (battle.fragmentNow - skill.lastUseTime) < skill.skillCD then (-1, battle)
        else if role.mp < skill.mp then (-1, battle)
        else if 0 < skill.area ∧ role.moveAttrb.currentPos.beyond goal skill.area then
          approach id goal battle
        else (0, startSkill id skill battle)
    | _, _ => (-1, battle)

/-- The order that a skill obeys names the skill. -/
def castSkill (order : RoleOrder) (level : Int) (battle : PKPE) : PKPE :=
  match SkillType.ofCode order.type with
  | none => battle
  | some skill =>
      let process := match skill with
        | .yueShi => skillProcess201
        | .huoXueShu => skillProcess202
        | .yaoShu => skillProcess203
        | .jianRenFengBao => skillProcess204
        | .youLingLang => skillProcess205
        | .jingXiang => skillProcess206
        | .fengBaoZhiChui => skillProcess207
        | .taoTaiZhiRen => skillProcess208
        | .wuGuangZhiDun => skillProcess209
        | .fanJiLuoXuan => skillProcess210
        | .diCi => skillProcess211
        | .duSheShouWei => skillProcess212
        | .paoXiao => skillProcess213
        | .xueXing => skillProcess214
        | .quSan => skillProcess215
        | .lianSuoShanDian => skillProcess216
        | .youBu => skillProcess217
        | .zhiLiaoShouWei => skillProcess218
        | .liuXingHuoYU => skillProcess219
        | .zhanZhengJianTa => skillProcess220
        | .nuHou => skillProcess221
        | .chongFeng => skillProcess222
        | .zuiJiuYunWu => skillProcess223
        | .wuDiZhan => skillProcess224
        | .zuZhou => skillProcess225
        | .nengLiangLiuShi => skillProcess226
        | .qiangLiYiJi => skillProcess227
        | .shuFuZhiJian => skillProcess228
        | .weiKunZhiJian => skillProcess229
        | .sheShouTianFu => skillProcess230
        | .benTeng => skillProcess231
        | .fenShen => skillProcess232
        | .feiXueZhiMao => skillProcess233
        | .xiSheng => skillProcess234
        | .chenMo => skillProcess235
        -- The switch has no case for this skill, whose function is empty.
        | .fuHuo => skillProcess236
      process id order level battle

/-- The order of a dead role is dropped, and the others wait for their time. -/
def runSkillOrder (skillOrder : SkillOrder) : PKPE :=
  if (battle.role skillOrder.role).live = .dead then battle
  else if 0 < skillOrder.startTime then
    battle.addSkillOrder { skillOrder with startTime := skillOrder.startTime - 1 }
  else
    castSkill skillOrder.role skillOrder.order skillOrder.skillLevel
      (battle.note (.cast battle.toRoles skillOrder.role skillOrder.order skillOrder.skillLevel))

/-- No skill reads or adds orders of skills. -/
def calculateSkill : PKPE :=
  battle.skillOrderList.foldl runSkillOrder { battle with skillOrderList := [] }

/-- A role that finds no way dies, also when it could come back. -/
def dieWithoutWay : PKPE :=
  let battle := (battle.note (.noWay (battle.role id))).send (.dead id)
  (battle.modifyRole id RoleState.dead).checkOver (battle.role id).opposition

/-- A role without a line is at its goal, or looks for a way. -/
def searchWay : PKPE :=
  let pos := battle.positionOf id
  let goal := (battle.role id).currentOrder.targetPos
  let (free, battle) := battle.readMap goal
  if free ∧ ¬ pos.beyond goal 3 then stop id battle
  else
    let (result, battle) := battle.aStar id pos goal
    if result = 0 then battle else dieWithoutWay id battle

def runRole (id : Int) (battle : PKPE) : PKPE :=
  let battle := battle.note (.runRole (battle.role id) battle.fragmentNow)
  match (battle.role id).currentOrder.type with
  | orderTypeNo =>
      if (battle.role id).physicalAttrib.limitCounter ≤ 0 then calculateAIAttack id battle
      else battle
  | orderTypeAttackE =>
      let (result, battle) := processCSAttack id battle
      if result = .okAttack ∨ result = .moveing ∨ result = .cdLimit then battle
      else stop id battle
  | orderTypeMoveP =>
      let (result, battle) := calculateMoveP id battle
      match result with
      | .error => searchWay id battle
      | .noMove => stop id battle
      | .okMove => battle
  | orderTypeAttackP | orderTypeMoveE | orderTypeHold | orderTypeStop | orderTypeCastSkill => battle
  | _ =>
      let (result, battle) := processCSSkill id battle
      if result < 0 then
        battle.modifyRole id fun role => (role.setMoveLine []).setOrderType orderTypeNo
      else battle

/-- A player without an order for two minutes is offline. -/
def isLate (role : RoleState) : Prop :=
  battle.fragmentNow % 50 = 0 ∧ role.roleFlag = roleTypePlayer ∧
    1200 < uint (battle.fragmentNow - role.currentOrder.orderTime)

instance (battle : PKPE) (role : RoleState) : Decidable (battle.isLate role) :=
  inferInstanceAs (Decidable (_ ∧ _))

def runOne : PKPE :=
  if (battle.role id).live = .dead then battle
  else if battle.isLate (battle.role id) then
    (battle.modifyRole id fun role => { role with live := .offline }).checkOver
      (battle.role id).opposition
  else
    let battle := calculateBullets (calculateBuff id battle)
    if 0 < (battle.role id).attackSkillWaitingTime then
      battle.modifyRole id fun role => role.setWaitingTime (role.attackSkillWaitingTime - 1)
    else runRole id battle

def runTime : PKPE := calculateSkill (battle.forRoles runOne)

/-- The end of an empty list is other memory, which a draw stands for. -/
def atEnd (goal : Pos) (battle : PKPE) : Bool × PKPE :=
  let line := (battle.role id).moveAttrb.moveLine
  let battle := battle.note (.back line)
  match line.getLast? with
  | some pos => (pos = goal, battle)
  | none =>
      let (draw, battle) := battle.rand
      (draw ≠ 0, battle)

/-- An order interrupts a continued skill. -/
def acceptOrder (battle : PKPE) (userOrder : UserOrder) : PKPE :=
  let id := userOrder.roleID
  let order := userOrder.order
  match battle.find id with
  | none => battle
  | some role =>
      if role.controlID ≠ userOrder.controlID ∨ role.live = .dead then battle
      else
        let battle := breakLastSkill id (battle.note (.acceptOrder role order))
        match order.type with
        | orderTypeAttackE =>
            match battle.find order.targetRoleID with
            | none => battle
            | some passive =>
                if passive.live = .dead then battle
                else battle.modifyRole id fun role => (role.setOrder order).setPreTimeStatus 1
        | orderTypeMoveP =>
            let (reached, battle) := atEnd id order.targetPos battle
            if reached then battle
            else
              let (result, battle) := battle.aStar id (battle.positionOf id) order.targetPos
              if result = 0 then battle.modifyRole id fun role => role.setOrder order else battle
        | _ => battle.modifyRole id fun role => role.setOrder order

def processCSOrder : PKPE :=
  battle.orders.foldl acceptOrder { battle with orders := [] }

/-- This call comes from the main thread. -/
def processCSReady : PKPE :=
  if battle.pkState ≠ .ready ∨ id ∉ battle.ids then battle
  else
    let battle := (battle.modifyRole id fun role => { role with pkState := 2 }).send (.ready id)
    if ∀ role ∈ battle.ids, (battle.role role).roleFlag = roleTypePlayer →
        (battle.role role).pkState = 2 then
      PKPE.send { battle with pkState := .pking, fragmentNow := 0 } .begin
    else battle

end PKPE

end AppSvr.PkServer
