/-
This file defines the health and the magic of a creature and the regeneration of a role.
-/

import AppSvr.Construction.MainServer.PetSvc
import AppSvr.Construction.MainServer.RoleExp

namespace AppSvr.MainServer

structure AttrCombat where
  hp : UInt32
  mp : UInt32
  maxHp : UInt32
  maxMp : UInt32
  hpRegen : UInt32
  dodgeRate : UInt32
  deriving DecidableEq, Repr

structure Creature where
  attrCombat : AttrCombat
  attrCombatBonus : AttrCombatBonus

/-- The sum is compared with the maximum before the sign of the input is tested. -/
def addBelow (value maximum : UInt32) (input : Int32) : UInt32 :=
  if value + input.toUInt32 < maximum then addAttr value input else maximum

namespace Creature

def hpRegen (creature : Creature) : UInt32 := creature.attrCombat.hpRegen

/-- The getter returns another attribute. -/
def mpRegen (creature : Creature) : UInt32 := creature.attrCombat.dodgeRate

def addHp (creature : Creature) (input : Int32) : Creature :=
  let maximum := creature.attrCombat.maxHp + creature.attrCombatBonus .maxHp
  { creature with attrCombat.hp := addBelow creature.attrCombat.hp maximum input }

def addMp (creature : Creature) (input : Int32) : Creature :=
  let maximum := creature.attrCombat.maxMp + creature.attrCombatBonus .maxMp
  { creature with attrCombat.mp := addBelow creature.attrCombat.mp maximum input }

end Creature

/-- A role regenerates between its fights. -/
structure FightingRole extends Creature where
  hpMpfullflag : UInt32
  lastHpMpTime : UInt32

namespace FightingRole

/-- Both maxima are those of the health. -/
def setHpMpfullStatue (role : FightingRole) : FightingRole :=
  let mxh := role.attrCombat.maxHp + role.attrCombatBonus .maxHp
  let mxm := role.attrCombat.maxHp + role.attrCombatBonus .maxHp
  { role with hpMpfullflag :=
      if role.attrCombat.hp = mxh then
        if role.attrCombat.mp = mxm then 3 else 1
      else
        if role.attrCombat.mp = mxm then 2 else 0 }

/-- This is the addition of `HpMpadd`, which a full value does not get. -/
def regenerate (role : FightingRole) (hpInput mpInput : Int32) : Creature :=
  match role.hpMpfullflag with
  | 0 => (role.toCreature.addHp hpInput).addMp mpInput
  | 1 => role.toCreature.addMp mpInput
  | 2 => role.toCreature.addHp hpInput
  | _ => role.toCreature

/-- The products have thirty-two bits. -/
def hpMpadd (role : FightingRole) (now : UInt32) (time1 : Int32) : FightingRole :=
  let hg := (role.hpRegen + role.attrCombatBonus .hpRegen) / 10
  let mg := (role.mpRegen + role.attrCombatBonus .mpRegen) / 10
  let grown := role.regenerate (hg * time1.toUInt32).toInt32 (mg * time1.toUInt32).toInt32
  { { role with toCreature := grown }.setHpMpfullStatue with lastHpMpTime := now }

end FightingRole

end AppSvr.MainServer
