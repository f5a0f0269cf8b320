/-
This file defines how a role spends its points on skills and talents.
-/

import AppSvr.Construction.MainServer.RoleExp

namespace AppSvr.MainServer

/-- A request lists such elements, and the rows of both tables are read into them. -/
structure ArchvSkill where
  skillID : UInt16
  skillLevel : UInt8
  deriving DecidableEq, Repr

/-- A row of table `RoleSkill` for one role. -/
structure RoleSkill where
  skillID : Int
  skillLev : Int
  deriving DecidableEq, Repr

structure SkillRequie where
  proID : Int
  skillID : Int
  skillLev : Int
  requiedSkillID : Int
  requiedSkillLev : Int
  deriving DecidableEq, Repr

def RoleSkill.read (row : RoleSkill) : ArchvSkill :=
  ⟨UInt16.ofInt row.skillID, UInt8.ofInt row.skillLev⟩

def SkillRequie.read (row : SkillRequie) : ArchvSkill :=
  ⟨UInt16.ofInt row.requiedSkillID, UInt8.ofInt row.requiedSkillLev⟩

/-- These are the attributes that talents add to. The last one belongs to `AttrCombatBonus`. -/
inductive RoleAttr where
  | strength
  | intelligence
  | agility
  | moveSpeed
  | maxHp
  | maxMp
  | hpRegen
  | mpRegen
  | attackPowerHigh
  | attackPowerLow
  | attackSpeed
  | defence
  | mDefence
  | critRate
  | hitRate
  | dodgeRate
  | hitRateBonus
  deriving DecidableEq, Repr

abbrev RoleAttrs := RoleAttr → UInt32

abbrev Additions := List (RoleAttr × Int32)

/-- The functions `Creature::Add..` run one after the other. -/
def RoleAttrs.addAll (attrs : RoleAttrs) (additions : Additions) : RoleAttrs :=
  additions.foldl (fun attrs entry =>
    Function.update attrs entry.1 (addAttr (attrs entry.1) entry.2)) attrs

section Talents

/-- The macros `ADD_Skill..` have a value for each of the levels up to five and one for the others. -/
def byLevel (first second third fourth fifth other : Int32) (p : Int) : Int32 :=
  if p = 1 then first else if p = 2 then second else if p = 3 then third
  else if p = 4 then fourth else if p = 5 then fifth else other

def addSkill1 : Int → Int32 := byLevel 5 5 5 5 5 5
def addSkill2 : Int → Int32 := byLevel 10 10 10 10 10 10
def addSkill3 : Int → Int32 := byLevel 15 15 15 15 15 15
def addSkill4 : Int → Int32 := byLevel 10 10 10 10 10 10
def addSkill5 : Int → Int32 := byLevel 5 5 5 5 5 5
def addSkill6 : Int → Int32 := byLevel 50 50 50 50 50 50
def addSkill7 : Int → Int32 := byLevel 10 10 10 10 10 10
def addSkill8 : Int → Int32 := byLevel 10 10 10 10 10 10
def addSkill9 : Int → Int32 := byLevel 5 5 5 5 5 5
def addSkill10 : Int → Int32 := byLevel 2 1 1 1 1 1
def addSkill11 : Int → Int32 := byLevel 15 15 15 15 15 15
def addSkill12 : Int → Int32 := byLevel 20 20 20 20 20 20

variable (proID : UInt32) (input : Int32)

def attackPower : Additions :=
  [(.attackPowerHigh, 2 * input), (.attackPowerLow, 2 * input)]

def roleAddAgility : Additions :=
  [(.agility, input), (.hitRateBonus, input)] ++
    if proID = 3 ∨ proID = 6 then attackPower input else []

def roleAddIntelligence : Additions :=
  [(.intelligence, input), (.maxMp, input * 12), (.mpRegen, input)] ++
    if proID = 4 ∨ proID = 5 then attackPower input else []

def roleAddStrength : Additions :=
  [(.strength, input), (.maxHp, input * 10), (.critRate, input * 1), (.defence, input)] ++
    if proID = 1 ∨ proID = 2 then attackPower input else []

/-- This is the switch of `Role::RoleAddtalentpoint`. The eleventh talent takes the macro of the
first one. -/
def talentAdditions (talentID skilllev : Int) : Additions :=
  match talentID with
  | 5 => roleAddStrength proID (addSkill5 skilllev)
  | 1 => roleAddAgility proID (addSkill1 skilllev)
  | 9 => roleAddIntelligence proID (addSkill9 skilllev)
  | 3 => [(.attackPowerHigh, addSkill3 skilllev), (.attackPowerLow, addSkill4 skilllev)]
  | 7 => [(.moveSpeed, addSkill7 skilllev)]
  | 2 => [(.critRate, addSkill2 skilllev)]
  | 6 => [(.defence, addSkill6 skilllev)]
  | 12 => [(.hitRate, addSkill12 skilllev)]
  | 11 => [(.dodgeRate, addSkill1 skilllev)]
  | 8 => [(.mDefence, addSkill8 skilllev)]
  | 4 => [(.attackSpeed, addSkill4 skilllev)]
  | 10 =>
      if skilllev = 1 then [(.hpRegen, 2), (.mpRegen, 4)]
      else [(.hpRegen, addSkill10 skilllev), (.mpRegen, addSkill10 skilllev)]
  | _ => []

end Talents

/-- The values that a call reads without having written them. -/
structure Unwritten where
  /-- The level behind the end of the list, when these rows are left. -/
  endLevel : List SkillRequie → UInt8
  skilllev : Int

/-- The members of `Role` that a request for skills uses, with the rows of the role. -/
structure SkilledRole where
  proID : UInt32
  addPoint : UInt32
  attrs : RoleAttrs
  roleSkill : List RoleSkill

/-- The last element with the number counts. -/
def skillLev (lis : List ArchvSkill) (skillID : Int) : Int :=
  lis.foldl (fun lev sk => if (sk.skillID.toNat : Int) = skillID then sk.skillLevel.toNat else lev) 0

/-- The loop over the selected rows refuses at the first level that is too low. -/
def meetsRequied (lis : List ArchvSkill) (memory : Unwritten) : List SkillRequie → Bool
  | [] => true
  | row :: rows =>
      let sk := row.read
      let itor := lis.find? fun held => held.skillID = sk.skillID
      let level := (itor.map ArchvSkill.skillLevel).getD (memory.endLevel (row :: rows))
      if level < sk.skillLevel then false else meetsRequied lis memory rows

namespace SkilledRole

variable (role : SkilledRole)

def lis : List ArchvSkill := role.roleSkill.map RoleSkill.read

def lev (skillID : Int) : Int := skillLev role.lis skillID

/-- These rows are selected from table `SkillRequie`. -/
def requied (skillRequie : List SkillRequie) (skillID : Int) : List SkillRequie :=
  skillRequie.filter fun row =>
    row.proID = printed role.proID ∧ row.skillLev = role.lev skillID + 1 ∧ row.skillID = skillID

def topLev (skillID : Int) : Prop :=
  (300 < skillID ∧ role.lev skillID = 10) ∨ (skillID < 300 ∧ role.lev skillID = 6)

instance (role : SkilledRole) (skillID : Int) : Decidable (role.topLev skillID) :=
  inferInstanceAs (Decidable (_ ∨ _))

/-- The statement selects the number of the skill, not its level. -/
def roleAddtalentpoint (memory : Unwritten) (talentID : Int) : SkilledRole :=
  let rows := role.roleSkill.filter fun row => row.skillID = talentID + 300
  let skilllev := rows.foldl (fun _ row => row.skillID + 1) memory.skilllev
  { role with attrs := role.attrs.addAll (talentAdditions role.proID talentID skilllev) }

/-- This is `update RoleSkill set SkillLev=SkillLev+1`. -/
def updateSkillLev (skillID : Int) : SkilledRole :=
  { role with roleSkill := role.roleSkill.map fun row =>
      if row.skillID = skillID then { row with skillLev := row.skillLev + 1 } else row }

/-- A select without rows ends the call. -/
def roleAddSKill (skillRequie : List SkillRequie) (memory : Unwritten)
    (skillID : Int) : SkilledRole :=
  if role.addPoint ≤ 0 then role
  else if role.roleSkill = [] then role
  else if role.topLev skillID then role
  else if meetsRequied role.lis memory (role.requied skillRequie skillID) then
    let role := { role with addPoint := addAttr role.addPoint (-1) }
    let role :=
      if 301 ≤ skillID ∧ skillID ≤ 312 then role.roleAddtalentpoint memory (skillID - 300)
      else role
    role.updateSkillLev skillID
  else role

end SkilledRole

/-- A request may be unreadable. Every call finds its own values in the memory. -/
structure SkillRequest where
  sk : Option (List ArchvSkill)
  memory : Nat → Unwritten

/-- The numbers of the calls: the talents are before the other skills. -/
def skillCalls (sk : List ArchvSkill) : List UInt16 :=
  let calls := fun skill : ArchvSkill => List.replicate skill.skillLevel.toNat skill.skillID
  (sk.filter fun skill => 300 < skill.skillID).flatMap calls ++
    (sk.filter fun skill => ¬ 300 < skill.skillID).flatMap calls

def SkillRequest.calls (request : SkillRequest) : List (Int × Unwritten) :=
  (skillCalls (request.sk.getD [])).zipIdx.map fun entry =>
    (entry.1.toNat, request.memory entry.2)

namespace SkilledRole

def performCalls (role : SkilledRole) (skillRequie : List SkillRequie)
    (calls : List (Int × Unwritten)) : SkilledRole :=
  calls.foldl (fun role call => role.roleAddSKill skillRequie call.2 call.1) role

/-- The result is the code of the reply and the role after the request. -/
def processRoleSkillAdd (role : SkilledRole) (skillRequie : List SkillRequie)
    (request : SkillRequest) : UInt32 × SkilledRole :=
  match request.sk with
  | none => (errSystemSerError, role)
  | some _ => (0, role.performCalls skillRequie request.calls)

def run (role : SkilledRole) (skillRequie : List SkillRequie) (requests : List SkillRequest) :
    SkilledRole :=
  requests.foldl (fun role request => (role.processRoleSkillAdd skillRequie request).2) role

end SkilledRole

end AppSvr.MainServer
