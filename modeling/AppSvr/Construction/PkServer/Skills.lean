/-
This file defines the skills besides the ones that call a new role.
-/

import AppSvr.Construction.PkServer.Buffs
import AppSvr.Construction.PkServer.Paths

namespace AppSvr.PkServer

namespace RoleState

/-- The buffs make a role immune against bad magic. -/
def ExemptFromBad (role : RoleState) : Prop :=
  0 < role.magicAttrb.exemptBadCounter ∨ 0 < role.magicAttrb.exemptAllCounter

instance (role : RoleState) : Decidable role.ExemptFromBad := inferInstanceAs (Decidable (_ ∨ _))

variable (role passive : RoleState)

/-- The other role lives on another side. -/
def Fights : Prop :=
  passive.live ≠ .dead ∧ passive.opposition ≠ role.opposition

instance (role passive : RoleState) : Decidable (role.Fights passive) :=
  inferInstanceAs (Decidable (_ ∧ _))

/-- The other role lives on the same side. -/
def Helps : Prop :=
  passive.live ≠ .dead ∧ passive.opposition = role.opposition

instance (role passive : RoleState) : Decidable (role.Helps passive) :=
  inferInstanceAs (Decidable (_ ∧ _))

/-- The other role can be hit with bad magic. -/
def Curses : Prop := role.Fights passive ∧ ¬ passive.ExemptFromBad

instance (role passive : RoleState) : Decidable (role.Curses passive) :=
  inferInstanceAs (Decidable (_ ∧ _))

/-- The other role can be hit with a weapon. -/
def Strikes : Prop :=
  role.Fights passive ∧ ¬ 0 < passive.physicalAttrib.exemptCounter

instance (role passive : RoleState) : Decidable (role.Strikes passive) :=
  inferInstanceAs (Decidable (_ ∧ _))

end RoleState

/-- A map from roles to hurts keeps the first value of a key. -/
def insertTarget (targets : List (Int × Int)) (id hurt : Int) : List (Int × Int) :=
  if id ∈ targets.map Prod.fst then targets
  else targets.orderedInsert (fun new old => new.1 ≤ old.1) (id, hurt)

/-- The offsets of the cells around a victim. -/
def besideOffset : Nat → Int × Int
  | 1 => (-1, 1)
  | 2 => (0, 1)
  | 3 => (1, 1)
  | 4 => (-1, 0)
  | 5 => (1, 0)
  | 6 => (-1, -1)
  | 7 => (0, -1)
  | _ => (1, -1)

variable (startPos tempPos : Pos)

/-- A charge ends on the map. The server divides by both distances when it has to stop earlier. -/
def chargeEnd (range : Int) : Option Pos :=
  let length := distShort tempPos startPos
  let dist := if length = 0 then 1 else length
  let xDist := short (tempPos.x - startPos.x)
  let yDist := short (tempPos.y - startPos.y)
  let endPos := startPos.shift ((range * xDist).tdiv dist) ((range * yDist).tdiv dist)
  if endPos.InMap then some endPos
  else if xDist = 0 ∨ yDist = 0 then none
  else
    let xTotalDist := short (if 0 < xDist then mapSizeX - 1 - startPos.x else -startPos.x)
    let yTotalDist := short (if 0 < yDist then mapSizeY - 1 - startPos.y else -startPos.y)
    let endPosByX := startPos.shift xTotalDist ((yDist * xTotalDist).tdiv xDist)
    let endPosByY := startPos.shift ((xDist * yTotalDist).tdiv yDist) yTotalDist
    if 0 ≤ endPosByX.y ∧ endPosByX.y < mapSizeY then some endPosByX
    else if 0 ≤ endPosByY.x ∧ endPosByY.x < mapSizeX then some endPosByY
    else some endPos

/-- A cell that can be walked on replaces the end of a charge. -/
def chargeStop (pkMapBase : Pos → Bool) (endPos : Pos) (range : Int) : Option Pos :=
  ((List.range range.toNat).flatMap fun index =>
    (around endPos.x (index + 1)).flatMap fun x =>
      (around endPos.y (index + 1)).map fun y => (⟨x, y⟩ : Pos)).find? fun pos =>
    decide pos.InMap && pkMapBase pos

/-- An arrow flies a fixed length or to the edge of the map, where the row behind the last one
counts as inside. -/
def arrowEnd (len : Int) : Option Pos :=
  let xDist := tempPos.x - startPos.x
  let yDist := tempPos.y - startPos.y
  let length := sqrtInt (xDist * xDist + yDist * yDist)
  let dist := if length = 0 then 1 else length
  let endPos := startPos.shift ((len * xDist).tdiv dist) ((len * yDist).tdiv dist)
  if 0 ≤ endPos.x ∧ endPos.x < mapSizeX ∧ 0 ≤ endPos.y ∧ endPos.y ≤ mapSizeY then some endPos
  else if xDist = 0 then none
  else
    let xTotalDist := if 0 < xDist then mapSizeX - startPos.x - 1 else -startPos.x
    let yTotalDist := if 0 < yDist then mapSizeY - startPos.y - 1 else -startPos.y
    let endPosByX := startPos.shift xTotalDist ((yDist * xTotalDist).tdiv xDist)
    if 0 ≤ endPosByX.y ∧ endPosByX.y < mapSizeY then some endPosByX
    else if yDist = 0 then none
    else some (startPos.shift ((xDist * yTotalDist).tdiv yDist) yTotalDist)

/-- The spikes end on the line to the target. -/
def spikesEnd (len : Int) : Option Pos :=
  let dist := distShort tempPos startPos
  let xDist := short (tempPos.x - startPos.x)
  let yDist := short (tempPos.y - startPos.y)
  if dist = 0 ∧ (xDist ≠ 0 ∨ yDist ≠ 0) then none
  else
    some ⟨if xDist = 0 then startPos.x else short (startPos.x + (len * xDist).tdiv dist),
      if yDist = 0 then startPos.y else short (startPos.y + (len * yDist).tdiv dist)⟩

namespace PKPE

variable (id : Int) (order : RoleOrder) (level : Int) (battle : PKPE)

def positionOf (id : Int) : Pos := (battle.role id).moveAttrb.currentPos

def divideByZero : PKPE := { battle with crashed := true }

/-- A skill without its target does nothing. -/
def onTarget (body : Int → PKPE → PKPE) (battle : PKPE) : PKPE :=
  match battle.find order.targetRoleID with
  | none => battle
  | some _ => body order.targetRoleID battle

/-- A skill with a line aims at a position or a role. -/
def onLine (body : Pos → PKPE → PKPE) (battle : PKPE) : PKPE :=
  if order.targetType = 1 then body order.targetPos battle
  else onTarget order (fun target battle => body (battle.positionOf target) battle) battle

/-- A loop over the roles skips those that the caster does not select. -/
def forSelected (select : RoleState → RoleState → Bool) (body : Int → PKPE → PKPE)
    (battle : PKPE) : PKPE :=
  battle.forRoles fun target battle =>
    if select (battle.role id) (battle.role target) then body target battle else battle

/-- The skills `207`, `217`, and `223` throw a bullet at their target. -/
def throwBullet (skill : SkillType) (id : Int) (order : RoleOrder) (level : Int) : PKPE → PKPE :=
  onTarget order fun target battle =>
    battle.addBullet ⟨id, target, 3, battle.positionOf id, 3, .skill skill, level⟩

def skillProcess201 : PKPE → PKPE :=
  onTarget order fun target battle =>
    let skillHurt := byLevel level 150 [150, 250, 350, 450, 550, 650]
    let param1 := byLevel level 5 [5, 10, 15, 20, 20, 25]
    let battle := calculateSkillHurt target (battle.role id).level skillHurt .yueShi battle
    let passive := battle.role target
    if passive.live ≠ .dead then
      updataBuffer target
        { Buff.new .armor .yueShi level battle.fragmentNow 0 true true with
          parametar1 := -(passive.physicalAttrib.defenseArmorBase * param1).tdiv 100 } battle
    else battle

def skillProcess202 (_ : Int) (order : RoleOrder) (level : Int) : PKPE → PKPE :=
  onTarget order fun target battle =>
    let keepTime := byLevel level 30 [30, 30, 30, 30, 30, 50]
    updataBuffer target
      { Buff.new .hp .huoXueShu level battle.fragmentNow keepTime true true with
        parametar1 := byLevel level 5 [5, 6, 7, 8, 9, 10]
        runTimeLimit := 10
        effecttype := .relative } battle

def skillProcess203 (_ : Int) (order : RoleOrder) (level : Int) : PKPE → PKPE :=
  onTarget order fun target battle =>
    let sheepTime := byLevel level 20 [20, 25, 30, 35, 40, 50]
    let param1 := byLevel level 10 [10, 15, 20, 25, 30, 35]
    updataBuffer target
      { Buff.new .bySkill .yaoShu level battle.fragmentNow sheepTime true true with
        effecttype := .relative
        parametar1 := -((battle.role target).moveAttrb.speedModBase * param1).tdiv 100 } battle

def skillProcess204 (_ : RoleOrder) (level : Int) (battle : PKPE) : PKPE :=
  let keepTime := byLevel level 40 [40, 40, 40, 40, 40, 50]
  updataBuffer id
    { Buff.new .castSkill .jianRenFengBao level battle.fragmentNow keepTime false true with
      effecttype := .abs
      parametar1 := byLevel level 150 [150, 150, 200, 200, 250, 350]
      runTimeLimit := 10 } battle

def skillProcess204Buffer (id hurtValue : Int) : PKPE → PKPE :=
  forSelected id (fun role passive => role.Strikes passive ∧
      Near role.moveAttrb.currentPos passive.moveAttrb.currentPos 9) fun target battle =>
    calculateSkillHurt target (battle.role id).level hurtValue .jianRenFengBao battle

def skillProcess207 : Int → RoleOrder → Int → PKPE → PKPE := throwBullet .fengBaoZhiChui

def skillProcess207Effect (targetPos : Pos) (id level : Int) : PKPE → PKPE :=
  forSelected id (fun role passive => role.Curses passive ∧
      Near targetPos passive.moveAttrb.currentPos 9) fun target battle =>
    let keepTime := byLevel level 20 [20, 25, 30, 35, 40, 50]
    let hurtValue := byLevel level 100 [100, 200, 300, 400, 500, 600]
    let battle := updataBuffer target
      (Buff.new .xuanYun .fengBaoZhiChui level battle.fragmentNow keepTime false true) battle
    calculateSkillHurt target (battle.role id).level hurtValue .fengBaoZhiChui battle

def skillProcess208 : PKPE → PKPE :=
  onTarget order fun target battle =>
    let killHp := byLevel level 6 [6, 8, 10, 12, 14, 16]
    let passive := battle.role target
    let hurtHp :=
      if passive.hp < (passive.currHpMax * killHp).tdiv 100 then passive.hp
      else byLevel level 100 [100, 150, 200, 250, 300, 350]
    calculateSkillHurt target (battle.role id).level hurtHp .taoTaiZhiRen battle

/-- The caster is its own target without a search. -/
def skillProcess209 : PKPE :=
  let shield (target : Int) (battle : PKPE) : PKPE :=
    updataBuffer target
      { Buff.new .bySkill .wuGuangZhiDun level battle.fragmentNow 50 true true with
        parametar1 := byLevel level 250 [250, 350, 450, 550, 650, 800] } battle
  if order.targetRoleID = (battle.role id).roleID then shield id battle
  else onTarget order shield battle

def skillProcess210 (_ : RoleOrder) (level : Int) (battle : PKPE) : PKPE :=
  updataBuffer id
    { Buff.new .bySkill .fanJiLuoXuan level battle.fragmentNow 100 true true with
      runTimeLimit := 1
      parametar1 := byLevel level 200 [200, 300, 400, 500, 600, 700]
      parametar2 := byLevel level 15 [15, 16, 17, 18, 19, 20] } battle

/-- The second parameter is a chance in percent. -/
def skillProcess210Buffer (index : Nat) (p210Buffer : Buff) (battle : PKPE) : PKPE :=
  if 10 ≤ p210Buffer.parametar2 then
    let (draw, battle) := battle.rand
    if ((draw % 100 : Nat) : Int) ≤ p210Buffer.parametar2 then
      let battle := (battle.send (.bufferRun id .fanJiLuoXuan p210Buffer.beginTime)).modifyRole id
        fun role => role.modifyBuff index fun buff => { buff with parametar2 := 0 }
      forSelected id (fun role passive => role.Curses passive ∧
          Near role.moveAttrb.currentPos passive.moveAttrb.currentPos 9) (fun target battle =>
        calculateSkillHurt target (battle.role id).level p210Buffer.parametar1 .fanJiLuoXuan
          battle) battle
    else battle
  else battle

/-- The dead are not skipped here. -/
def skillProcess211 : PKPE → PKPE :=
  onLine order fun tempPos battle =>
    let noallTime := byLevel level 10 [10, 15, 20, 25, 30, 40]
    let hurt := byLevel level 100 [100, 150, 200, 250, 300, 500]
    let startPos := battle.positionOf id
    match spikesEnd startPos tempPos (byLevel level 3 [3, 3, 5, 5, 7, 7]) with
    | none => battle.divideByZero
    | some endPos =>
        forSelected id (fun role passive => passive.opposition ≠ role.opposition ∧
            ¬ passive.ExemptFromBad ∧
            pnt2SegmentDistSquare startPos endPos passive.moveAttrb.currentPos < 4)
          (fun target battle =>
            let battle := updataBuffer target
              (Buff.new .xuanYun .diCi level battle.fragmentNow noallTime false true) battle
            calculateSkillHurt target (battle.role id).level hurt .diCi battle) battle

def skillProcess213 (_ : RoleOrder) (level : Int) : PKPE → PKPE :=
  forSelected id (fun role passive => role.Helps passive) fun target battle =>
    let addValue := byLevel level 5 [5, 10, 15, 20, 25, 30]
    updataBuffer target
      { Buff.new .attackPower .paoXiao level battle.fragmentNow 100 true true with
        effecttype := .relative
        parametar1 := ((battle.role target).physicalAttrib.attackPowerHignBase *
          addValue).tdiv 100 } battle

def skillProcess214 (_ : RoleOrder) (level : Int) : PKPE → PKPE :=
  forSelected id (fun role passive => role.Helps passive) fun target battle =>
    let addHp := byLevel level 5 [5, 7, 10, 12, 15, 20]
    updataBuffer target
      { Buff.new .maxHp .xueXing level battle.fragmentNow 100 true true with
        effecttype := .relative
        parametar1 := ((battle.role target).hpMax * addHp).tdiv 100 } battle

/-- The fuel is the number of buffs. -/
def dispelLoop (id : Int) : Nat → Nat → PKPE → PKPE
  | 0, _, battle => battle
  | fuel + 1, index, battle =>
      match (battle.role id).multimapBuff[index]? with
      | none => battle
      | some buff =>
          if buff.bCanBreak ∧ buff.type ≠ .castSkill then
            dispelLoop id fuel index
              (eraseIterator id index (battle.role id).multimapBuff (updataBufferDel id buff battle))
          else dispelLoop id fuel (index + 1) battle

def skillProcess215 : PKPE → PKPE :=
  onTarget order fun target battle =>
    let hurtCall (battle : PKPE) : PKPE :=
      calculateSkillHurt target (battle.role id).level 0 .quSan battle
    let called := (battle.role target).roleFlag = roleTypeCall
    if called ∧ (battle.role target).hp ≤ 0 then hurtCall battle
    else
      let battle := if called then hurtCall battle else battle
      let battle := dispelLoop target (battle.role target).multimapBuff.length 0 battle
      if (battle.role id).opposition ≠ (battle.role target).opposition then
        updataBuffer target
          { Buff.new .moveSpeed .quSan level battle.fragmentNow 20 false true with
            effecttype := .relative
            parametar1 := -(50 * (battle.role target).moveAttrb.speedModBase).tdiv 100 } battle
      else battle

/-- The lightning jumps to the last role that it has not hit yet. -/
def nextTarget (targets : List (Int × Int)) (battle : PKPE) : Option Int :=
  (battle.ids.filter fun target =>
    (battle.role id).Curses (battle.role target) ∧ target ∉ targets.map Prod.fst).getLast?

def lightning (id : Int) (battle : PKPE) : Nat → Int → List (Int × Int) → List (Int × Int)
  | 0, _, targets => targets
  | jumps + 1, hurtValue, targets =>
      match battle.nextTarget id targets with
      | none => targets
      | some target =>
          lightning id battle jumps (toShort (double (hurtValue * double (85 / 100))))
            (insertTarget targets target hurtValue)

def skillProcess216 : PKPE → PKPE :=
  onTarget order fun target battle =>
    let roleNum := byLevel level 3 [3, 5, 5, 7, 7, 7]
    let hurtValue := byLevel level 100 [100, 100, 160, 160, 220, 300]
    let targets := insertTarget [((battle.role id).roleID, 0)] target hurtValue
    calculateMultiSkillHurt
      (lightning id battle roleNum (toShort (double (hurtValue * double (8 / 10)))) targets)
      (battle.role id).level .lianSuoShanDian battle

def skillProcess217 : Int → RoleOrder → Int → PKPE → PKPE := throwBullet .youBu

def skillProcess217Effect (bullet : Bullet) (battle : PKPE) : PKPE :=
  if (battle.role bullet.roleAttack).opposition ≠ (battle.role bullet.rolePassive).opposition then
    let sheepTime := byLevel bullet.level 20 [20, 25, 30, 35, 40, 60]
    updataBuffer bullet.rolePassive
      (Buff.new .noMove .youBu bullet.level battle.fragmentNow sheepTime false true) battle
  else battle

def skillProcess218Buffer (tmpBuff : Buff) : PKPE → PKPE :=
  forSelected id (fun role passive => role.Helps passive ∧
      ¬ 0 < passive.magicAttrb.exemptAllCounter ∧ passive.hp < passive.currHpMax ∧
      Near role.moveAttrb.currentPos passive.moveAttrb.currentPos (13 * 13)) fun target battle =>
    let passive := battle.role target
    let hp := short (min (passive.currHpMax - passive.hp)
      ((passive.currHpMax * tmpBuff.parametar1).tdiv 100))
    if 0 < hp then
      (battle.modifyRole target fun role => role.addHp hp).send
        (.hpChange target hp (.skill .zhiLiaoShouWei))
    else battle

def skillProcess219 : PKPE :=
  let fall (targetPos : Pos) (battle : PKPE) : PKPE :=
    let lastTime := byLevel level 50 [50, 50, 70, 70, 70, 70]
    let battle := updataBuffer id
      { Buff.new .castSkill .liuXingHuoYU level battle.fragmentNow lastTime true true with
        parametar1 := byLevel level 150 [150, 200, 250, 300, 350, 500]
        runTimeLimit := 10
        parametar2 := targetPos.y * mapSizeX + targetPos.x } battle
    battle.modifyRole id fun role => role.setOrderType orderTypeCastSkill
  if order.targetType = 1 ∨ order.targetType = 2 then onLine order fall battle else battle

/-- Both coordinates and the distance are bounded. -/
def skillProcess219Effect (tmpBuff : Buff) (battle : PKPE) : PKPE :=
  let targetPos : Pos :=
    ⟨short (tmpBuff.parametar2.tmod mapSizeX), short (tmpBuff.parametar2.tdiv mapSizeX)⟩
  let radius : Int := byLevel tmpBuff.level 3 [3, 3, 5, 5, 7, 7]
  let targets := battle.ids.filter fun target =>
    let passive := battle.role target
    let pos := passive.moveAttrb.currentPos
    (battle.role id).Curses passive ∧ ((pos.x - targetPos.x).natAbs : Int) ≤ radius ∧
      (pos.y - targetPos.y).natAbs ≤ 5 ∧ distSquare pos targetPos ≤ radius * radius
  if targets = [] then battle
  else
    calculateMultiSkillHurt (targets.map fun target => (target, short tmpBuff.parametar1))
      (battle.role id).level .liuXingHuoYU battle

def skillProcess220 (_ : RoleOrder) (level : Int) : PKPE → PKPE :=
  let range : Int := byLevel level 3 [3, 5, 5, 7, 7, 7]
  forSelected id (fun role passive => role.Curses passive ∧
      Near role.moveAttrb.currentPos passive.moveAttrb.currentPos (range * range))
    fun target battle =>
      let lastTime := byLevel level 20 [20, 20, 30, 30, 40, 40]
      let hurt := byLevel level 50 [50, 50, 50, 50, 50, 500]
      let battle := updataBuffer target
        (Buff.new .xuanYun .zhanZhengJianTa level battle.fragmentNow lastTime false true) battle
      calculateSkillHurt target (battle.role id).level hurt .zhanZhengJianTa battle

/-- The armor of every helper goes to the caster. -/
def skillProcess221 (_ : RoleOrder) (level : Int) : PKPE → PKPE :=
  forSelected id (fun role passive => role.Helps passive) fun target battle =>
    let param1 := byLevel level 5 [5, 10, 15, 20, 25, 30]
    updataBuffer id
      { Buff.new .armor .nuHou level battle.fragmentNow 100 true true with
        effecttype := .relative
        parametar1 := ((battle.role target).physicalAttrib.defenseArmorBase *
          param1).tdiv 100 } battle

/-- The line and the direction of the caster stay as they are. -/
def relocate (id : Int) (endPos : Pos) (skill : SkillType) (battle : PKPE) : PKPE :=
  let battle := battle.note (.relocate (battle.role id) endPos)
  (battle.modifyRole id fun role => role.setCurrentPos endPos).send
    (.locationOffset id endPos skill)

def skillProcess222 : PKPE → PKPE :=
  onLine order fun tempPos battle =>
    let hurt := byLevel level 100 [100, 200, 300, 400, 500, 600]
    let range : Int := byLevel level 5 [5, 7, 7, 9, 9, 11]
    let startPos := battle.positionOf id
    match chargeEnd startPos tempPos range with
    | none => battle.divideByZero
    | some endPos =>
        let (free, battle) := battle.readMap endPos
        let endPos :=
          if free then endPos else (chargeStop battle.pkMapBase endPos range).getD startPos
        let battle := relocate id endPos .chongFeng
          (battle.modifyRole id fun role => role.setCurrentPosMini ⟨500, 500⟩)
        let battle := updataBuffer id
          (Buff.new .castSkill .chongFeng level battle.fragmentNow 20 false true) battle
        forSelected id (fun role passive => role.Strikes passive ∧
            pnt2SegmentDistSquare startPos endPos passive.moveAttrb.currentPos ≤ 9)
          (fun target battle =>
            calculateSkillHurt target (battle.role id).level hurt .chongFeng battle) battle

def skillProcess223 : Int → RoleOrder → Int → PKPE → PKPE := throwBullet .zuiJiuYunWu

def skillProcess223Effect (targetPos : Pos) (opposition level : Int) (battle : PKPE) : PKPE :=
  battle.forRoles fun target battle =>
    let passive := battle.role target
    if passive.live ≠ .dead ∧ passive.opposition ≠ opposition ∧ ¬ passive.ExemptFromBad ∧
        Near targetPos passive.moveAttrb.currentPos 9 then
      let moveParam : Int := byLevel level (-20) [-20, -25, -30, -35, -40, -45]
      let hitParam : Int := byLevel level (-5) [-5, -10, -15, -20, -25, -30]
      updataBuffer target
        { Buff.new .bySkill .zuiJiuYunWu level battle.fragmentNow 60 true true with
          effecttype := .relative
          parametar1 := (passive.moveAttrb.speedMod * moveParam).tdiv 100
          parametar2 := (passive.physicalAttrib.attackHit * hitParam).tdiv 100 } battle
    else battle

def skillProcess224 (_ : RoleOrder) (level : Int) (battle : PKPE) : PKPE :=
  let keepTime := byLevel level 40 [40, 60, 80, 100, 120, 140]
  updataBuffer id
    { Buff.new .castSkill .wuDiZhan level battle.fragmentNow keepTime false true with
      runTimeLimit := 5
      parametar1 := byLevel level 80 [80, 80, 120, 120, 160, 200] } battle

/-- The victim is drawn, with three tries for each role. -/
def drawVictim (id count : Int) : Nat → PKPE → Option Int × PKPE
  | 0, battle => (none, battle)
  | tries + 1, battle =>
      let (draw, battle) := battle.rand
      match battle.ids[(short ((draw : Int).tmod count)).toNat]? with
      | none => (none, battle)
      | some target =>
          if (battle.role id).Strikes (battle.role target) then (some target, battle)
          else drawVictim id count tries battle

/-- A cell beside the victim is drawn until it lies on the map. -/
def drawCell (pos : Pos) : Nat → PKPE → Pos × PKPE
  | 0, battle => (pos, { battle with starved := true })
  | draws + 1, battle =>
      let (draw, battle) := battle.rand
      let offset := besideOffset (draw % 8)
      let next := pos.shift offset.1 offset.2
      if next.InMap then (next, battle) else drawCell pos draws battle

def skillProcess224Effect (tmpBuff : Buff) (battle : PKPE) : PKPE :=
  let roleCounter := short battle.ids.length
  match drawVictim id roleCounter (short (roleCounter * 3)).toNat battle with
  | (none, battle) => battle
  | (some target, battle) =>
      let (endPos, battle) := drawCell (battle.positionOf target) battle.draws.length battle
      let battle := relocate id endPos .wuDiZhan battle
      calculateSkillHurt target (battle.role id).level tmpBuff.parametar1 .wuDiZhan battle

def skillProcess225 (_ : Int) (order : RoleOrder) (level : Int) : PKPE → PKPE :=
  onTarget order fun target battle =>
    let keepTime := byLevel level 40 [40, 40, 60, 60, 80, 80]
    let firstAdd := byLevel level 5 [5, 6, 6, 7, 8, 10]
    let secondAdd := byLevel level 5 [5, 6, 6, 7, 8, 10]
    updataBuffer target
      { Buff.new .bySkill .zuZhou level battle.fragmentNow keepTime true true with
        parametar1 := firstAdd * 100 + secondAdd } battle

def skillProcess226 (_ : Int) (order : RoleOrder) (level : Int) : PKPE → PKPE :=
  onTarget order fun target battle =>
    updataBuffer target
      { Buff.new .bySkill .nengLiangLiuShi level battle.fragmentNow 50 true true with
        parametar2 := byLevel level 1 [1, 2, 3, 4, 5, 6]
        effecttype := .relative } battle

/-- The hurt and the level have changed their places. -/
def skillProcess227 : PKPE → PKPE :=
  onLine order fun tempPos battle =>
    let hurt := byLevel level 150 [150, 200, 250, 300, 350, 500]
    let startPos := battle.positionOf id
    match arrowEnd startPos tempPos (byLevel level 5 [5, 7, 9, 11, 13, 15]) with
    | none => battle.divideByZero
    | some endPos =>
        forSelected id (fun role passive => role.Curses passive ∧
            pnt2SegmentDistSquare startPos endPos passive.moveAttrb.currentPos < 9)
          (fun target battle =>
            calculateSkillHurt target hurt (battle.role id).level .qiangLiYiJi battle) battle

def skillProcess228 : PKPE → PKPE :=
  onTarget order fun center battle =>
    let radius : Int := byLevel level 3 [3, 3, 5, 5, 7, 7]
    let lastTime := byLevel level 20 [20, 30, 30, 40, 40, 50]
    battle.forRoles fun target battle =>
      if (battle.role id).Curses (battle.role target) ∧
          Near (battle.positionOf center) (battle.positionOf target) (radius * radius) then
        updataBuffer target
          (Buff.new .xuanYun .shuFuZhiJian level battle.fragmentNow lastTime false true) battle
      else battle

/-- The radius is not squared here. -/
def skillProcess229 (_ : RoleOrder) (level : Int) : PKPE → PKPE :=
  let radius : Int := byLevel level 3 [3, 3, 5, 5, 7, 7]
  forSelected id (fun role passive => role.Curses passive ∧
      Near role.moveAttrb.currentPos passive.moveAttrb.currentPos radius) fun target battle =>
    let hurt := byLevel level 100 [100, 200, 250, 350, 400, 600]
    calculateSkillHurt target (battle.role id).level hurt .weiKunZhiJian battle

def skillProcess230 (_ : RoleOrder) (level : Int) (battle : PKPE) : PKPE :=
  let role := battle.role id
  let critParam := byLevel level 2 [2, 4, 6, 8, 10, 15]
  let hitParam := byLevel level 2 [2, 4, 6, 8, 10, 15]
  let keepTime := byLevel level 80 [80, 80, 80, 80, 80, 100]
  updataBuffer id
    { Buff.new .bySkill .sheShouTianFu level battle.fragmentNow keepTime true true with
      parametar1 := (critParam * role.physicalAttrib.attackCritBase).tdiv 100
      parametar2 := (hitParam * role.physicalAttrib.attackHitBase).tdiv 100 } battle

def skillProcess231 (_ : Int) (order : RoleOrder) (level : Int) : PKPE → PKPE :=
  onTarget order fun target battle =>
    let moveParam := byLevel level 5 [5, 10, 15, 20, 25, 30]
    let keepTime := byLevel level 30 [30, 30, 30, 30, 30, 50]
    updataBuffer target
      { Buff.new .moveSpeed .benTeng level battle.fragmentNow keepTime true true with
        parametar1 := (moveParam * (battle.role target).moveAttrb.speedModBase).tdiv 100 } battle

def skillProcess233 (_ : RoleOrder) (level : Int) (battle : PKPE) : PKPE :=
  let keepTime := byLevel level 100 [100, 100, 100, 100, 100, 150]
  updataBuffer id
    { Buff.new .bySkill .feiXueZhiMao level battle.fragmentNow keepTime true true with
      parametar1 := 0
      parametar2 := byLevel level 6 [6, 8, 10, 12, 14, 16] } battle

def loseWithoutCheck (id value : Int) (battle : PKPE) : PKPE :=
  (battle.note (.loss (battle.role id) value)).modifyRole id fun role => role.addHp (-value)

/-- Nobody dies here. -/
def skillProcess234 : PKPE → PKPE :=
  onTarget order fun target battle =>
    let attackHurt := short (((battle.role id).hp * 60).tdiv 100)
    let targetHurt :=
      ((battle.role target).hp * byLevel level 100 [40, 45, 50, 55, 60, 65]).tdiv 100
    let battle := loseWithoutCheck id attackHurt battle
    let battle := loseWithoutCheck target targetHurt battle
    (battle.send (.hpChange id (short (-attackHurt)) (.skill .xiSheng))).send
      (.hpChange target (short (-targetHurt)) (.skill .xiSheng))

def skillProcess235 : PKPE → PKPE :=
  forSelected id (fun role passive => role.Curses passive ∧
      Near order.targetPos passive.moveAttrb.currentPos 16) fun target battle =>
    let keepTime := byLevel level 20 [20, 20, 30, 30, 40, 50]
    updataBuffer target
      (Buff.new .noSkill .chenMo level battle.fragmentNow keepTime false true) battle

/-- The skill works when its role dies. -/
def skillProcess236 (_ : Int) (_ : RoleOrder) (_ : Int) (battle : PKPE) : PKPE := battle

end PKPE

end AppSvr.PkServer
