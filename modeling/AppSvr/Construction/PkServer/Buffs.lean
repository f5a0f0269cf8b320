/-
This file defines how buffs change a role, and how a role is hurt, dies, and comes back.
-/

import AppSvr.Construction.PkServer.PKPE

namespace AppSvr.PkServer

namespace RoleState

variable (role : RoleState)

variable (value : Int)

def addSpeedMod : RoleState :=
  { role with moveAttrb := { role.moveAttrb with
    speedMod := short (role.moveAttrb.speedMod + value) } }

def addAttackHit : RoleState :=
  { role with physicalAttrib := { role.physicalAttrib with
    attackHit := short (role.physicalAttrib.attackHit + value) } }

def addAttackCrit : RoleState :=
  { role with physicalAttrib := { role.physicalAttrib with
    attackCrit := short (role.physicalAttrib.attackCrit + value) } }

def addDefenseArmor : RoleState :=
  { role with physicalAttrib := { role.physicalAttrib with
    defenseArmor := short (role.physicalAttrib.defenseArmor + value) } }

def addAttackPowerAdd : RoleState :=
  { role with physicalAttrib := { role.physicalAttrib with
    attackPowerAdd := short (role.physicalAttrib.attackPowerAdd + value) } }

def addHurtAdd : RoleState :=
  { role with physicalAttrib := { role.physicalAttrib with
    hurtAdd := short (role.physicalAttrib.hurtAdd + value) } }

def addCurrHpMax : RoleState :=
  { role with currHpMax := short (role.currHpMax + value) }

def addCurrMpMax : RoleState :=
  { role with currMpMax := short (role.currMpMax + value) }

def addHp : RoleState := role.setHp (role.hp + value)

def addMp : RoleState := role.setMp (role.mp + value)

/-- The counters `LimitCounter` of the attributes for movement, attacks, and skills. -/
def addMoveLimit : RoleState :=
  { role with moveAttrb := { role.moveAttrb with
    limitCounter := short (role.moveAttrb.limitCounter + value) } }

def addPhysicalLimit : RoleState :=
  { role with physicalAttrib := { role.physicalAttrib with
    limitCounter := short (role.physicalAttrib.limitCounter + value) } }

def addMagicLimit : RoleState :=
  { role with magicAttrb := { role.magicAttrb with
    limitCounter := short (role.magicAttrb.limitCounter + value) } }

def addExempt : RoleState :=
  { role with physicalAttrib := { role.physicalAttrib with
    exemptCounter := short (role.physicalAttrib.exemptCounter + value) } }

def addExemptBad : RoleState :=
  { role with magicAttrb := { role.magicAttrb with
    exemptBadCounter := short (role.magicAttrb.exemptBadCounter + value) } }

def addExemptAll : RoleState :=
  { role with magicAttrb := { role.magicAttrb with
    exemptAllCounter := short (role.magicAttrb.exemptAllCounter + value) } }

/-- An upgrade takes the values of the old buff back and stores new parameters. -/
def replace (check : Option Nat) (undo : Buff → RoleState → RoleState) (store : Buff → Buff) :
    RoleState :=
  match check with
  | none => role
  | some index =>
      match role.multimapBuff[index]? with
      | none => role
      | some old => (undo old role).modifyBuff index store

/-- This is the `switch` of `UpdataBuffer` as far as it changes the role itself. The type of the
update is one or minus one, and `check` is the buff that is upgraded. -/
def updataEffect (updataType : Int) (check : Option Nat) (tmpBuff : Buff) : RoleState :=
  let storeBoth (old : Buff) : Buff :=
    { old with parametar1 := tmpBuff.parametar1, parametar2 := tmpBuff.parametar2 }
  let storeFirst (old : Buff) : Buff := { old with parametar1 := tmpBuff.parametar1 }
  match tmpBuff.type with
  | .bySkill =>
      match tmpBuff.parentSkill with
      | .zuiJiuYunWu =>
          let role := role.replace check (fun old role =>
            (role.addSpeedMod (-old.parametar1)).addAttackHit (-old.parametar2)) storeBoth
          (role.addSpeedMod (tmpBuff.parametar1 * updataType)).addAttackHit
            (tmpBuff.parametar2 * updataType)
      | .zuZhou =>
          let role := role.replace check (fun old role =>
            role.addHurtAdd (-short (old.parametar1.tdiv 100))) storeFirst
          role.addHurtAdd (short (tmpBuff.parametar1.tdiv 100) * updataType)
      | .wuGuangZhiDun => role.replace check (fun _ role => role) storeFirst
      | .fanJiLuoXuan => role.replace check (fun _ role => role) storeBoth
      | .yaoShu =>
          let role := match check with
            | some _ => role.replace check (fun old role =>
                role.addSpeedMod (-old.parametar1)) storeFirst
            | none => (role.addPhysicalLimit updataType).addMagicLimit updataType
          role.addSpeedMod (tmpBuff.parametar1 * updataType)
      | .sheShouTianFu =>
          let role := role.replace check (fun old role =>
            (role.addAttackCrit (-old.parametar1)).addAttackHit (-old.parametar2)) storeBoth
          (role.addAttackCrit (tmpBuff.parametar1 * updataType)).addAttackHit
            (tmpBuff.parametar2 * updataType)
      | .fuHuo =>
          ((((role.addExemptAll updataType).addMoveLimit updataType).addPhysicalLimit
            updataType).addMagicLimit updataType).addExempt updataType
      | _ => role
  | .castSkill =>
      match tmpBuff.parentSkill with
      | .jianRenFengBao =>
          if check.isSome then role
          else ((role.addPhysicalLimit updataType).addMagicLimit updataType).addExemptBad updataType
      | .wuDiZhan | .chongFeng =>
          if check.isSome then role
          else
            ((((role.addExemptAll updataType).addMagicLimit updataType).addMoveLimit
              updataType).addPhysicalLimit updataType).addExempt updataType
      | .liuXingHuoYU => if updataType = 1 then role else role.setOrderType orderTypeNo
      | _ => role
  | .xuanYun =>
      if check.isSome then role
      else ((role.addPhysicalLimit updataType).addMoveLimit updataType).addMagicLimit updataType
  | .noSkill => if check.isSome then role else role.addMagicLimit updataType
  | .moveSpeed =>
      let role := role.replace check (fun old role => role.addSpeedMod (-old.parametar1)) storeFirst
      role.addSpeedMod (tmpBuff.parametar1 * updataType)
  | .noMove => if check.isSome then role else role.addMoveLimit updataType
  | .armor =>
      let role := role.replace check (fun old role =>
        role.addDefenseArmor (-old.parametar1)) storeFirst
      role.addDefenseArmor (tmpBuff.parametar1 * updataType)
  | .attackPower =>
      let role := role.replace check (fun old role =>
        role.addAttackPowerAdd (-old.parametar1)) storeFirst
      role.addAttackPowerAdd (tmpBuff.parametar1 * updataType)
  | .maxHp =>
      let role := role.replace check (fun old role =>
        (role.addCurrHpMax (-old.parametar1)).addHp (-old.parametar1)) storeFirst
      -- The type of the update is missing here, so a removal adds the value again.
      (role.addCurrHpMax tmpBuff.parametar1).addHp tmpBuff.parametar1
  | .maxMp =>
      let role := role.replace check (fun old role =>
        role.addCurrMpMax (-old.parametar1)) storeFirst
      role.addCurrMpMax tmpBuff.parametar1
  | .call | .hp | .mp => role

/-- The divisor of a magic hurt. -/
def magicDefense : Int := role.level + role.wisdom.tdiv 10 + role.magicAttrb.magicArmor

/-- The level and the defense scale the hurt of a skill. -/
def skillHurt (attackLevel hurtValue : Int) : Int :=
  if role.magicDefense ≠ 0 then short ((hurtValue * attackLevel).tdiv role.magicDefense)
  else hurtValue

end RoleState

/-- The update finds no such buff, a stronger one, one to upgrade, or one to refresh. -/
inductive Existing where
  | missing | stronger | weaker (index : Nat) | same (index : Nat)
  deriving DecidableEq, Repr

def RoleState.existing (role : RoleState) (tmpBuff : Buff) : Existing :=
  if tmpBuff.type = .hp ∨ tmpBuff.type = .mp then .missing
  else
    match role.multimapBuff.findIdx? fun old =>
        old.type = tmpBuff.type ∧ old.parentSkill = tmpBuff.parentSkill with
    | none => .missing
    | some index =>
        match role.multimapBuff[index]? with
        | none => .missing
        | some old =>
            if tmpBuff.level < old.level then .stronger
            else if old.level < tmpBuff.level then .weaker index
            else .same index

/-- The coordinates are compared in `short int`, and the bound is on the square of the distance. -/
def Near (a b : Pos) (bound : Int) : Prop :=
  short (a.x - b.x) ^ 2 + short (a.y - b.y) ^ 2 ≤ bound

instance (a b : Pos) (bound : Int) : Decidable (Near a b bound) :=
  inferInstanceAs (Decidable (_ ≤ _))

namespace PKPE

variable (id : Int) (battle : PKPE) (tmpBuff : Buff)

/-- The client sees only these buffs. -/
def sendSkillBuffer (id : Int) (tmpBuff : Buff) : PKPE :=
  if tmpBuff.bSendClient then
    battle.send (.skillBuffer id tmpBuff.type tmpBuff.parentSkill
      (short (uint (tmpBuff.endTime - tmpBuff.beginTime))) tmpBuff.parametar1 tmpBuff.parametar2)
  else battle

def sendBufferStop (id : Int) (tmpBuff : Buff) : PKPE :=
  battle.send (.bufferStop id tmpBuff.type tmpBuff.parentSkill tmpBuff.beginTime)

/-- This is `UpdataBuffer` with `UPDATABUFFER_ADD`. A stun interrupts a continued skill. -/
def updataBufferAdd (interrupt : Int → PKPE → PKPE) (id : Int) (tmpBuff : Buff) (battle : PKPE) :
    PKPE :=
  let battle := battle.note (.addBuffer (battle.role id) tmpBuff)
  match (battle.role id).existing tmpBuff with
  | .stronger => battle
  | .same index =>
      (battle.modifyRole id fun role =>
        role.modifyBuff index fun old => { old with endTime := tmpBuff.endTime }).sendSkillBuffer
          id tmpBuff
  | .weaker index =>
      ((battle.modifyRole id fun role =>
        role.modifyBuff index fun old => { old with endTime := tmpBuff.endTime }).sendSkillBuffer
          id tmpBuff).modifyRole id fun role => role.updataEffect 1 (some index) tmpBuff
  | .missing =>
      let battle := battle.sendSkillBuffer id tmpBuff
      let battle :=
        if tmpBuff.type = .xuanYun ∨ tmpBuff.type = .noMove ∨ tmpBuff.type = .noSkill then
          interrupt id battle
        else battle
      battle.modifyRole id fun role => (role.insertBuff tmpBuff).updataEffect 1 none tmpBuff

/-- A revived role is weak for two seconds. -/
def reviveBuff (skillLevel : Int) : Buff :=
  let percent := byLevel skillLevel 0 [10, 20, 30, 40, 50, 60]
  { Buff.new .bySkill .fuHuo skillLevel battle.fragmentNow 20 false false with
    parametar1 := percent, parametar2 := percent }

/-- The skill `FuHuo` is ready. -/
def canRevive (skill : SkillAttr) : Prop :=
  skill.lastUseTime = 0 ∨ skill.skillCD ≤ uint (battle.fragmentNow - skill.lastUseTime)

instance (battle : PKPE) (skill : SkillAttr) : Decidable (battle.canRevive skill) :=
  inferInstanceAs (Decidable (_ ∨ _))

/-- A buff of this type interrupts nothing. -/
def revive (id : Int) (skill : SkillAttr) : PKPE :=
  let battle := battle.modifyRole id fun role => { role with multimapBuff := [] }.init
  let battle := updataBufferAdd (fun _ battle => battle) id (battle.reviveBuff skill.skillLevel)
    battle
  let battle := battle.send (.skill id SkillType.fuHuo.code 2 (.inr id))
  battle.modifyRole id fun role =>
    (role.useSkill SkillType.fuHuo.code battle.fragmentNow).setOrderType orderTypeNo

/-- The effects of the listed buffs have been taken back before the call. -/
def onRoleDead (undone : List Buff) (id : Int) (battle : PKPE) : PKPE :=
  let battle := (battle.note (.onRoleDead (battle.role id) undone)).send (.dead id)
  match (battle.role id).skill? SkillType.fuHuo.code with
  | some skill =>
      if battle.canRevive skill then battle.revive id skill
      else (battle.modifyRole id RoleState.dead).checkOver (battle.role id).opposition
  | none => (battle.modifyRole id RoleState.dead).checkOver (battle.role id).opposition

/-- A role loses health and dies at zero. -/
def loseHp (id hurt : Int) (effect : HpEffect) (battle : PKPE) : PKPE :=
  let battle := battle.note (.hurt (battle.role id) hurt)
  let battle := battle.modifyRole id fun role => role.addHp (-hurt)
  let battle := battle.send (.hpChange id (short (-hurt)) effect)
  if (battle.role id).hp ≤ 0 then onRoleDead [] id battle else battle

def calculateSkillHurt (id attackLevel hurtValue : Int) (effect : SkillType) (battle : PKPE) :
    PKPE :=
  loseHp id ((battle.role id).skillHurt (short attackLevel) (short hurtValue)) (.skill effect)
    battle

/-- A role that dies here keeps its buffs and its orders. The last dead role gives the side. -/
def multiHurtOne (target : Int × Int) : Int × PKPE → Int × PKPE
  | (deadOpp, battle) =>
      if target.1 ∉ battle.ids then (deadOpp, battle)
      else
        let battle := battle.modifyRole target.1 fun role => role.addHp (-target.2)
        if (battle.role target.1).hp ≤ 0 then
          let battle := battle.modifyRole target.1 fun role => { role with hp := 0, live := .dead }
          ((battle.role target.1).opposition, battle.send (.dead target.1))
        else (deadOpp, battle)

def calculateMultiSkillHurt (targets : List (Int × Int)) (attackLevel : Int) (effect : SkillType)
    (battle : PKPE) : PKPE :=
  let targets := targets.map fun (id, hurt) =>
    (id, if id ∈ battle.ids then (battle.role id).skillHurt attackLevel hurt else hurt)
  let battle := battle.note (.multiHurt battle.toRoles battle.pkState targets)
  let (deadOpp, battle) := targets.foldl (fun state target => multiHurtOne target state) (-1, battle)
  let battle := if targets = [] then battle else battle.send (.multiHurt targets effect)
  if deadOpp ≠ -1 then battle.checkOver deadOpp else battle

def skillProcess209Buffer (p209Buffer : Buff) (battle : PKPE) : PKPE :=
  let hurtValue := ushort p209Buffer.parametar2
  let radius : Int := byLevel p209Buffer.level 3 [3, 3, 5, 5, 7, 7]
  battle.forRoles fun target battle =>
    let role := battle.role id
    let passive := battle.role target
    if passive.live ≠ .dead ∧ passive.opposition ≠ role.opposition ∧
        Near role.moveAttrb.currentPos passive.moveAttrb.currentPos radius then
      calculateSkillHurt target role.level hurtValue .wuGuangZhiDun battle
    else battle

/-- A curse hurts again at its end. -/
def curseEnds (battle : PKPE) : PKPE :=
  let hurt := short ((tmpBuff.parametar1.tmod 100 * tmpBuff.parametar2).tdiv 100)
  let battle := battle.note (.hurt (battle.role id) hurt)
  let battle := battle.send (.hpChange id (short (-hurt)) (.skill .zuZhou))
  let battle := battle.modifyRole id fun role => role.addHp (-hurt)
  if (battle.role id).hp ≤ 0 then
    onRoleDead [tmpBuff] id (battle.modifyRole id fun role => role.setHp 0)
  else battle

/-- The end of the weakness sets the health and the mana. -/
def weaknessEnds (battle : PKPE) : PKPE :=
  let battle := battle.modifyRole id fun role =>
    (role.setHp ((role.currHpMax * tmpBuff.parametar1).tdiv 100)).setMp
      ((role.currMpMax * tmpBuff.parametar2).tdiv 100)
  battle.send (.hpChange id (battle.role id).hp (.skill tmpBuff.parentSkill))

/-- This is `UpdataBuffer` with `UPDATABUFFER_DEL`. -/
def updataBufferDel (battle : PKPE) : PKPE :=
  let battle := battle.note (.delBuffer (battle.role id) tmpBuff)
  let battle := if tmpBuff.bSendClient then battle.sendBufferStop id tmpBuff else battle
  let battle := battle.modifyRole id fun role => role.updataEffect (-1) none tmpBuff
  match tmpBuff.type, tmpBuff.parentSkill with
  | .bySkill, .zuZhou => curseEnds id tmpBuff battle
  | .bySkill, .wuGuangZhiDun => skillProcess209Buffer id tmpBuff battle
  | .bySkill, .fuHuo => weaknessEnds id tmpBuff battle
  | .call, _ => onRoleDead [] id battle
  | _, _ => battle

/-- The iterator is still valid when the list has not been cleared meanwhile. -/
def eraseIterator (index : Nat) (before : List Buff) (battle : PKPE) : PKPE :=
  if (battle.role id).multimapBuff = before then
    battle.modifyRole id fun role => role.eraseBuff index
  else battle.note .dangling

/-- The fuel is the number of buffs. -/
def breakLoop (id : Int) : Nat → Nat → PKPE → PKPE
  | 0, _, battle => battle
  | fuel + 1, index, battle =>
      match (battle.role id).multimapBuff[index]? with
      | none => battle
      | some buff =>
          if buff.type = .castSkill ∧ buff.bCanBreak then
            let after := (updataBufferDel id buff battle).sendBufferStop id buff
            breakLoop id fuel index
              (eraseIterator id index (battle.role id).multimapBuff after)
          else breakLoop id fuel (index + 1) battle

def breakLastSkill : PKPE :=
  breakLoop id (battle.role id).multimapBuff.length 0 battle

/-- This is `UpdataBuffer` with `UPDATABUFFER_ADD` for a role of the battle. -/
def updataBuffer (battle : PKPE) : PKPE :=
  updataBufferAdd breakLastSkill id tmpBuff battle

end PKPE

end AppSvr.PkServer
