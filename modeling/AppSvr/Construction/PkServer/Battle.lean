/-
This file defines the creation of a battle and its events.
-/

import AppSvr.Construction.PkServer.RunTime

namespace AppSvr.PkServer

/-- The description of a skill has the costs and the pauses of its six levels. -/
structure SkillDesc where
  doingTime : Int
  area : Int
  mp : List Int
  skillCD : List Int

/-- The tables that the server has read at its start. -/
structure Options where
  mapKnown : Int → Bool
  skillMap : Int → Option SkillDesc

/-- The input has one entry for a role. The health and the mana follow their maxima. -/
structure RoleInput where
  controlID : Int
  roleID : Int
  level : Int
  opposition : Int
  roleFlag : Int
  roleType : Int
  hpMax : Int
  mpMax : Int
  hp : Int
  mp : Int
  speedModBase : Int
  currentPos : Pos
  direct : Int
  attackPowerHignBase : Int
  attackPowerLowBase : Int
  attackArea : Int
  attackCDTimeBase : Int
  attackIngTime : Int
  attackBulletMod : Int
  attackHitBase : Int
  defenseMissBase : Int
  attackCritBase : Int
  defenseArmorBase : Int
  magicArmorBase : Int
  wisdom : Int
  /-- These are the numbers and the levels of the skills. -/
  skills : List (Int × Int)

/-- This is `40 / (1 + sqrt(base) / 20)`, where the root of a negative number gives zero. -/
def attackCDTime (base : Int) : Int :=
  if base < 0 then 0
  else Nat.findGreatest (fun time => time * time * base.toNat ≤ (800 - 20 * time) ^ 2) 40

/-- Only the rows below the fifth one can be walked on. -/
def pkMap (outside : Pos → Bool) (pos : Pos) : Bool :=
  if pos.InMap then decide (5 ≤ pos.y) else outside pos

/-- A role starts with the skills that the tables describe. The first entry of a skill counts. -/
def initSkills (option : Options) : List (Int × Int) → Option (List (Int × SkillAttr))
  | [] => some []
  | (skillID, level) :: skills =>
      if level < 1 ∨ 6 < level then none
      else
        (option.skillMap skillID).bind fun skill =>
          (initSkills option skills).map fun others =>
            (skillID, ⟨level, char skill.doingTime, char skill.area,
              short (skill.mp.getD (level - 1).toNat 0),
              ushort (skill.skillCD.getD (level - 1).toNat 0), 0⟩) :: others

/-- A role starts on the map, and on a cell that can be walked on. -/
def initRole (option : Options) (pkMapBase : Pos → Bool) (input : RoleInput)
    (memory : RoleState) : Option RoleState :=
  let pos : Pos := ⟨short input.currentPos.x, short input.currentPos.y⟩
  let direct := char input.direct
  if ¬ pos.InMap then none
  else
    (initSkills option input.skills).map fun skills =>
      let role := memory.construct
      { role with
        controlID := input.controlID
        roleID := input.roleID
        level := short input.level
        opposition := char input.opposition
        roleFlag := char input.roleFlag
        roleType := input.roleType
        hpMax := short input.hpMax
        mpMax := short input.mpMax
        hp := short input.hp
        mp := short input.mp
        wisdom := short input.wisdom
        moveAttrb := { role.moveAttrb with
          speedModBase := short input.speedModBase
          currentPos := if pkMapBase pos then pos else getEmptyPos pkMapBase pos direct
          direct := direct }
        physicalAttrib := { role.physicalAttrib with
          attackPowerHignBase := short input.attackPowerHignBase
          attackPowerLowBase := short input.attackPowerLowBase
          attackArea := short input.attackArea
          attackCDTimeBase := attackCDTime (short input.attackCDTimeBase)
          attackIngTime := short input.attackIngTime
          attackBulletMod := short input.attackBulletMod
          attackHitBase := short input.attackHitBase
          defenseMissBase := short input.defenseMissBase
          attackCritBase := short input.attackCritBase
          defenseArmorBase := short input.defenseArmorBase }
        magicAttrb := { role.magicAttrb with
          magicArmorBase := short input.magicArmorBase
          skillMap := skills } : RoleState }.init

namespace PKPE

/-- A battle before its roles are known. -/
def empty (pkID mapID : Int) (outside : Pos → Bool) (role : Int → RoleState) : PKPE :=
  { ids := []
    role := role
    pkID := pkID
    mapID := mapID
    pkState := .init
    fragmentNow := 0
    bullets := []
    skillOrderList := []
    pkMapBase := pkMap outside
    orders := []
    sent := []
    calls := []
    draws := []
    objects := []
    starved := false
    crashed := false }

/-- The roles of the input come with the memory of their objects. -/
def initRoles (option : Options) : List (RoleInput × RoleState) → PKPE → Option PKPE
  | [], battle => some battle
  | (input, memory) :: inputs, battle =>
      (initRole option battle.pkMapBase input memory).bind fun role =>
        initRoles option inputs (battle.insertRole role)

def init (option : Options) (pkID mapID : Int) (inputs : List (RoleInput × RoleState))
    (outside : Pos → Bool) (role : Int → RoleState) : Option PKPE :=
  if option.mapKnown mapID then
    (initRoles option inputs (empty pkID mapID outside role)).map fun battle =>
      { battle with pkState := .ready }
  else none

end PKPE

/-- These are the events of a battle. The draws and the objects of an event supply its calls. -/
inductive Event where
  | ready (id : Int)
  | addOrder (order : UserOrder)
  | processOrders (draws : List Nat)
  | runTime (draws : List Nat) (objects : List RoleState)

namespace PKPE

variable (battle : PKPE)

/-- A client names a position or a role, and the other target stays as the memory has it. -/
def addOrder (userOrder : UserOrder) : PKPE :=
  let order := userOrder.order
  { battle with orders := battle.orders ++ [{ userOrder with
    order := { order with
      type := short order.type
      targetPos := ⟨short order.targetPos.x, short order.targetPos.y⟩
      orderTime := battle.fragmentNow } }] }

/-- The supply has to suffice, and a division by zero stops the server. -/
def finish : Option PKPE :=
  if battle.starved ∨ battle.crashed then none else some battle

/-- A tick before the start of a battle counts the waiting time. -/
def wait : PKPE :=
  let battle := { battle with fragmentNow := uint (battle.fragmentNow + 1) }
  if 600 < battle.fragmentNow then
    PKPE.send { battle with pkState := .pking, fragmentNow := 0 } .begin
  else battle

def step : Event → Option PKPE
  | .ready id => some (processCSReady id battle)
  | .addOrder order =>
      if order.order.targetType = 1 ∨ order.order.targetType = 2 then some (battle.addOrder order)
      else none
  | .processOrders draws =>
      match battle.pkState with
      | .pking => finish (processCSOrder { battle with draws := draws, objects := [] })
      | .ready => some battle
      | _ => none
  | .runTime draws objects =>
      match battle.pkState with
      | .pking =>
          finish (runTime { battle with
            draws := draws, objects := objects
            fragmentNow := uint (battle.fragmentNow + 1) })
      | .ready => some battle.wait
      | _ => none

end PKPE

end AppSvr.PkServer
