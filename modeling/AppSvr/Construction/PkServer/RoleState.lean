/-
This file defines the state of one role in a battle.
-/

import AppSvr.Construction.PkServer.Numbers
import Mathlib.Data.List.Sort

namespace AppSvr.PkServer

def mapSizeX : Int := 50
def mapSizeY : Int := 29

/-- A cell of the map, or a place inside a cell. -/
structure Pos where
  x : Int
  y : Int
  deriving DecidableEq, Repr

/-- The cell lies on the map. -/
def Pos.InMap (pos : Pos) : Prop :=
  0 ≤ pos.x ∧ pos.x < mapSizeX ∧ 0 ≤ pos.y ∧ pos.y < mapSizeY

instance (pos : Pos) : Decidable pos.InMap := inferInstanceAs (Decidable (_ ∧ _))

/-- A move of this offset within `short int`. -/
def Pos.shift (pos : Pos) (x y : Int) : Pos := ⟨short (pos.x + x), short (pos.y + y)⟩

@[match_pattern] abbrev directNorth : Int := 1
@[match_pattern] abbrev directNorthEast : Int := 2
@[match_pattern] abbrev directEast : Int := 3
@[match_pattern] abbrev directEastSouth : Int := 4
@[match_pattern] abbrev directSouth : Int := 5
@[match_pattern] abbrev directSouthWest : Int := 6
@[match_pattern] abbrev directWest : Int := 7
@[match_pattern] abbrev directWestNorth : Int := 8

/-- The direction leads from the end to the start. -/
def getDirect (startPos endPos : Pos) : Int :=
  if endPos.x < startPos.x then
    if endPos.y < startPos.y then directEastSouth
    else if startPos.y < endPos.y then directNorthEast
    else directEast
  else if startPos.x < endPos.x then
    if endPos.y < startPos.y then directSouthWest
    else if startPos.y < endPos.y then directWestNorth
    else directWest
  else
    if endPos.y < startPos.y then directSouth
    else if startPos.y < endPos.y then directNorth
    else 0

def getBHitTarget (attackRoleHit targetRoleMiss : Int) : Int :=
  short (attackRoleHit * (1 - targetRoleMiss.tdiv 100))

/-- This is `Dist` without the root. -/
def distSquare (a b : Pos) : Int := (a.x - b.x) ^ 2 + (a.y - b.y) ^ 2

/-- This is `(short int) Dist`. -/
def distShort (a b : Pos) : Int := short (sqrtInt (distSquare a b))

/-- This is the square of `Pnt2SegmentDist`, whose value outside the segment is ten thousand. A
segment of one point gives no number for the ratio, and its foot is that point. -/
def pnt2SegmentDistSquare (a b c : Pos) : Int :=
  let ab : Pos := ⟨short (b.x - a.x), short (b.y - a.y)⟩
  let ac : Pos := ⟨short (c.x - a.x), short (c.y - a.y)⟩
  let length := distSquare a b
  if length = 0 then distSquare c a
  else
    let ratio := double (mkRat (ab.x * ac.x + ab.y * ac.y) length.toNat)
    if ratio < 0 ∨ 1 < ratio then 10000 ^ 2
    else
      let foot := a.shift (toShort (double (ab.x * ratio))) (toShort (double (ab.y * ratio)))
      distSquare c foot

/-- These are the types `BUFFER_TYPE_..`. -/
inductive BufferType where
  | bySkill | call | xuanYun | moveSpeed | noMove | hp | mp | armor | castSkill | attackPower
  | maxHp | maxMp | noSkill
  deriving DecidableEq, Repr

def BufferType.code : BufferType → Int
  | bySkill => 3000
  | call => 3001
  | xuanYun => 3002
  | moveSpeed => 3003
  | noMove => 3004
  | hp => 3006
  | mp => 3007
  | armor => 3008
  | castSkill => 3009
  | attackPower => 3010
  | maxHp => 3011
  | maxMp => 3012
  | noSkill => 3013

/-- These are the skills `SKILL_TYPE_..`. -/
inductive SkillType where
  | yueShi | huoXueShu | yaoShu | jianRenFengBao | youLingLang | jingXiang | fengBaoZhiChui
  | taoTaiZhiRen | wuGuangZhiDun | fanJiLuoXuan | diCi | duSheShouWei | paoXiao | xueXing | quSan
  | lianSuoShanDian | youBu | zhiLiaoShouWei | liuXingHuoYU | zhanZhengJianTa | nuHou | chongFeng
  | zuiJiuYunWu | wuDiZhan | zuZhou | nengLiangLiuShi | qiangLiYiJi | shuFuZhiJian | weiKunZhiJian
  | sheShouTianFu | benTeng | fenShen | feiXueZhiMao | xiSheng | chenMo | fuHuo
  deriving DecidableEq, Repr

/-- The skills in the order of their codes. -/
def SkillType.all : List SkillType :=
  [.yueShi, .huoXueShu, .yaoShu, .jianRenFengBao, .youLingLang, .jingXiang, .fengBaoZhiChui,
    .taoTaiZhiRen, .wuGuangZhiDun, .fanJiLuoXuan, .diCi, .duSheShouWei, .paoXiao, .xueXing, .quSan,
    .lianSuoShanDian, .youBu, .zhiLiaoShouWei, .liuXingHuoYU, .zhanZhengJianTa, .nuHou, .chongFeng,
    .zuiJiuYunWu, .wuDiZhan, .zuZhou, .nengLiangLiuShi, .qiangLiYiJi, .shuFuZhiJian,
    .weiKunZhiJian, .sheShouTianFu, .benTeng, .fenShen, .feiXueZhiMao, .xiSheng, .chenMo, .fuHuo]

def SkillType.code : SkillType → Int
  | yueShi => 201
  | huoXueShu => 202
  | yaoShu => 203
  | jianRenFengBao => 204
  | youLingLang => 205
  | jingXiang => 206
  | fengBaoZhiChui => 207
  | taoTaiZhiRen => 208
  | wuGuangZhiDun => 209
  | fanJiLuoXuan => 210
  | diCi => 211
  | duSheShouWei => 212
  | paoXiao => 213
  | xueXing => 214
  | quSan => 215
  | lianSuoShanDian => 216
  | youBu => 217
  | zhiLiaoShouWei => 218
  | liuXingHuoYU => 219
  | zhanZhengJianTa => 220
  | nuHou => 221
  | chongFeng => 222
  | zuiJiuYunWu => 223
  | wuDiZhan => 224
  | zuZhou => 225
  | nengLiangLiuShi => 226
  | qiangLiYiJi => 227
  | shuFuZhiJian => 228
  | weiKunZhiJian => 229
  | sheShouTianFu => 230
  | benTeng => 231
  | fenShen => 232
  | feiXueZhiMao => 233
  | xiSheng => 234
  | chenMo => 235
  | fuHuo => 236

def SkillType.ofCode (code : Int) : Option SkillType :=
  SkillType.all.find? fun skill => skill.code = code

inductive BufferEffectType where
  | abs | relative
  deriving DecidableEq, Repr

structure Buff where
  type : BufferType
  level : Int
  parentSkill : SkillType
  beginTime : Int
  endTime : Int
  bCanBreak : Bool
  bSendClient : Bool
  effecttype : BufferEffectType
  parametar1 : Int
  parametar2 : Int
  runCounter : Int
  runTimeLimit : Int
  deriving DecidableEq, Repr

/-- This is the constructor of `Buff`. -/
def Buff.new (type : BufferType) (skillID : SkillType) (level beginTime keepTime : Int)
    (bBreak bClient : Bool) : Buff :=
  ⟨type, short level, skillID, beginTime, uint (beginTime + keepTime), bBreak, bClient, .abs, 0, 0,
    0, 0⟩

@[match_pattern] abbrev orderTypeNo : Int := 0
@[match_pattern] abbrev orderTypeAttackE : Int := 1
@[match_pattern] abbrev orderTypeAttackP : Int := 2
@[match_pattern] abbrev orderTypeMoveE : Int := 3
@[match_pattern] abbrev orderTypeMoveP : Int := 4
@[match_pattern] abbrev orderTypeHold : Int := 6
@[match_pattern] abbrev orderTypeStop : Int := 7
@[match_pattern] abbrev orderTypeCastSkill : Int := 8

/-- The target is a position for type one, and a role for type two. -/
structure RoleOrder where
  type : Int
  targetType : Int
  targetPos : Pos
  targetRoleID : Int
  orderTime : Int
  deriving DecidableEq, Repr

structure HaterInfo where
  distance : Int
  hp : Int
  attack : Int
  hit : Int
  deriving DecidableEq, Repr

def HaterInfo.clear : HaterInfo := ⟨0, 0, 0, 0⟩

def HaterInfo.max (info : HaterInfo) : Int :=
  short (info.distance + info.hp + info.attack + info.hit)

structure SkillAttr where
  skillLevel : Int
  doingTime : Int
  area : Int
  mp : Int
  skillCD : Int
  lastUseTime : Int
  deriving DecidableEq, Repr

structure MoveAttr where
  speedMod : Int
  moveLine : List Pos
  currentPos : Pos
  currentPosMini : Pos
  direct : Int
  speedModBase : Int
  limitCounter : Int
  deriving DecidableEq, Repr

structure PhysicalAttr where
  attackArea : Int
  attackCDTime : Int
  attackIngTime : Int
  attackBulletMod : Int
  attackHit : Int
  defenseMiss : Int
  defenseArmor : Int
  attackPowerHignBase : Int
  attackPowerLowBase : Int
  attackPowerAdd : Int
  attackCDTimeBase : Int
  attackHitBase : Int
  defenseMissBase : Int
  attackCritBase : Int
  attackCrit : Int
  defenseArmorBase : Int
  hurtAdd : Int
  exemptCounter : Int
  preAttackTime : Int
  limitCounter : Int
  preTimeStatus : Int
  deriving DecidableEq, Repr

structure MagicAttr where
  magicArmor : Int
  magicArmorBase : Int
  skillMap : List (Int × SkillAttr)
  exemptBadCounter : Int
  exemptAllCounter : Int
  limitCounter : Int
  deriving DecidableEq, Repr

inductive RoleStatus where
  | live | dead | offline
  deriving DecidableEq, Repr

@[match_pattern] abbrev roleTypePlayer : Int := 1
@[match_pattern] abbrev roleTypeMonster : Int := 2
@[match_pattern] abbrev roleTypeNPC : Int := 3
@[match_pattern] abbrev roleTypePet : Int := 4
@[match_pattern] abbrev roleTypeCall : Int := 5

structure RoleState where
  controlID : Int
  pkState : Int
  wisdom : Int
  roleID : Int
  roleFlag : Int
  roleType : Int
  opposition : Int
  live : RoleStatus
  level : Int
  hpMax : Int
  currHpMax : Int
  mpMax : Int
  currMpMax : Int
  hp : Int
  mp : Int
  currentOrder : RoleOrder
  attackSkillWaitingTime : Int
  moveAttrb : MoveAttr
  physicalAttrib : PhysicalAttr
  magicAttrb : MagicAttr
  /-- The buffs are sorted by the code of their type. -/
  multimapBuff : List Buff
  hatreMap : List (Int × HaterInfo)
  deriving DecidableEq, Repr

namespace RoleState

/-- The constructors of the parts clear some fields of a new object. The other ones hold what is in
the memory. -/
def construct (memory : RoleState) : RoleState :=
  { memory with
    currHpMax := short memory.currHpMax
    currMpMax := short memory.currMpMax
    moveAttrb := { memory.moveAttrb with
      speedMod := short memory.moveAttrb.speedMod, moveLine := [], limitCounter := 0 }
    physicalAttrib := { memory.physicalAttrib with
      attackHit := short memory.physicalAttrib.attackHit
      attackCrit := short memory.physicalAttrib.attackCrit
      defenseArmor := short memory.physicalAttrib.defenseArmor
      exemptCounter := 0, preAttackTime := 0, limitCounter := 0, hurtAdd := 0,
      attackPowerAdd := 0 }
    magicAttrb := { memory.magicAttrb with
      skillMap := [], limitCounter := 0, exemptBadCounter := 0, exemptAllCounter := 0 }
    multimapBuff := []
    hatreMap := [] }

variable (role : RoleState)

def init : RoleState :=
  { role with
    currHpMax := role.hpMax
    currMpMax := role.mpMax
    moveAttrb := { role.moveAttrb with
      speedMod := role.moveAttrb.speedModBase, limitCounter := 0, currentPosMini := ⟨500, 500⟩ }
    physicalAttrib := { role.physicalAttrib with
      attackCDTime := ushort role.physicalAttrib.attackCDTimeBase
      attackHit := role.physicalAttrib.attackHitBase
      defenseArmor := role.physicalAttrib.defenseArmorBase
      defenseMiss := role.physicalAttrib.defenseMissBase
      attackCrit := role.physicalAttrib.attackCritBase
      limitCounter := 0, exemptCounter := 0, hurtAdd := 0, preAttackTime := 0
      preTimeStatus := 0 }
    magicAttrb := { role.magicAttrb with
      magicArmor := role.magicAttrb.magicArmorBase
      limitCounter := 0, exemptBadCounter := 0, exemptAllCounter := 0 }
    attackSkillWaitingTime := 0
    currentOrder := { role.currentOrder with type := orderTypeNo, orderTime := 0 }
    live := .live }

def dead (role : RoleState) : RoleState :=
  { role with
    live := .dead
    hp := 0
    currentOrder := { role.currentOrder with type := orderTypeNo }
    multimapBuff := []
    hatreMap := []
    moveAttrb := { role.moveAttrb with moveLine := [] } }

/-- The map of skills finds an entry by its code. -/
def skill? (code : Int) : Option SkillAttr :=
  role.magicAttrb.skillMap.lookup code

def useSkill (code now : Int) : RoleState :=
  { role with magicAttrb := { role.magicAttrb with
    skillMap := role.magicAttrb.skillMap.map fun (key, skill) =>
      (key, if key = code then { skill with lastUseTime := now } else skill) } }

def setHp (hp : Int) : RoleState := { role with hp := short hp }

def setMp (mp : Int) : RoleState := { role with mp := short mp }

def setOrder (order : RoleOrder) : RoleState :=
  { role with currentOrder := order }

def setOrderType (type : Int) : RoleState :=
  { role with currentOrder := { role.currentOrder with type := type } }

def setMoveLine (line : List Pos) : RoleState :=
  { role with moveAttrb := { role.moveAttrb with moveLine := line } }

def setDirect (direct : Int) : RoleState :=
  { role with moveAttrb := { role.moveAttrb with direct := direct } }

def setCurrentPos (pos : Pos) : RoleState :=
  { role with moveAttrb := { role.moveAttrb with currentPos := pos } }

def setCurrentPosMini (pos : Pos) : RoleState :=
  { role with moveAttrb := { role.moveAttrb with currentPosMini := pos } }

def setPreTimeStatus (status : Int) : RoleState :=
  { role with physicalAttrib := { role.physicalAttrib with preTimeStatus := status } }

def setWaitingTime (time : Int) : RoleState :=
  { role with attackSkillWaitingTime := short time }

def addHatre (id : Int) (info : HaterInfo) : RoleState :=
  match role.hatreMap.lookup id with
  | none => { role with hatreMap := role.hatreMap ++ [(id, info)] }
  | some _ => role

def modifyHatre (id : Int) (change : HaterInfo → HaterInfo) : RoleState :=
  { role with hatreMap := role.hatreMap.map fun (key, info) =>
    (key, if key = id then change info else info) }

/-- A new buff goes behind the buffs of its type. -/
def insertBuff (buff : Buff) : RoleState :=
  { role with multimapBuff :=
    role.multimapBuff.orderedInsert (fun new old => new.type.code < old.type.code) buff }

def modifyBuff (index : Nat) (change : Buff → Buff) : RoleState :=
  { role with multimapBuff := role.multimapBuff.modify index change }

def eraseBuff (index : Nat) : RoleState :=
  { role with multimapBuff := role.multimapBuff.eraseIdx index }

end RoleState

deriving instance Inhabited for Pos, RoleOrder, MoveAttr, PhysicalAttr, MagicAttr, RoleStatus,
  RoleState

end AppSvr.PkServer
