/-
This file defines the battle requests of the players, the reports of finished battles and the events
of the registry. The package for the battle server is left out.
-/

import AppSvr.Construction.MainServer.PKRewards
import AppSvr.Construction.MainServer.Team

namespace AppSvr.MainServer

/-- These are the columns of an online role that a battle request reads. -/
structure PKRole where
  id : UInt32
  mapID : UInt32
  teamID : UInt32
  teamFlag : UInt8
  /-- Status one tells that the role is in no battle, and status two that it is in one. -/
  status : UInt8
  deriving DecidableEq, Repr

def PKRole.new : PKRole := ⟨0, 0, 0, 0, 1⟩

/-- The monsters of the maps are loaded when the server starts. -/
structure Scenes where
  /-- The leader of a group is found with the monsters behind it. -/
  mapsenceMonster : UInt32 → UInt32 → Option (List SenceMonster)
  /-- A missing template has the identifier zero. -/
  monsterID : UInt32 → UInt32 → UInt32

/-- `mapRole` holds the online roles, and `mapTeam` the teams. -/
structure PKCore where
  briefs : PKBriefs
  mapRole : UInt32 → Option PKRole
  mapTeam : UInt32 → Option Team

namespace Scenes

/-- The list stays as it is when the leader is unknown. -/
def getSenceMonster (scenes : Scenes) (mapID monsterID : UInt32) (monsters : List SenceMonster) :
    List SenceMonster :=
  match scenes.mapsenceMonster mapID monsterID with
  | none => monsters
  | some monsterp => ⟨monsterID % 100000000 / 10000, 1⟩ :: monsterp

/-- The result is the identifier of the template. -/
def processGetMonster (scenes : Scenes) (mapID mID : UInt32) : UInt32 :=
  scenes.monsterID mapID (if 10000000 < mID then mID % 10000000 / 10000 else mID)

end Scenes

namespace PKCore

variable (core : PKCore)

def processGetRolePtr (roleID : UInt32) : PKRole :=
  (core.mapRole roleID).getD .new

def getTeams (teamID : UInt32) : Team := (core.mapTeam teamID).getD .new

/-- A change of an offline role is lost with the fresh role. -/
def setStatus (roleID : UInt32) (status : UInt8) : PKCore :=
  { core with
    mapRole := Function.update core.mapRole roleID
      ((core.mapRole roleID).map fun role => { role with status := status }) }

/-- The members with status one follow their leader. -/
def followers (srcRole : PKRole) : List UInt32 :=
  let members := (core.getTeams srcRole.teamID).listMember
  if srcRole.teamFlag ≠ 0 ∧ 1 < members.length then
    (members.filter fun member => member.status = 1).map TeamRole.roleId
  else []

/-- Any other present member defends an attacked leader. -/
def defenders (desRole : PKRole) (creatureID : UInt32) : List UInt32 :=
  let members := (core.getTeams desRole.teamID).listMember
  if desRole.teamFlag ≠ 0 ∧ desRole.teamFlag ≠ 1 ∧ 1 < members.length then
    (members.filter fun member =>
      (member.status = 1 ∨ member.status = 2) ∧ member.roleId ≠ creatureID).map TeamRole.roleId
  else []

/-- The target is checked if it is a role or a monster, and the other flags pass unchecked. -/
def findTarget (scenes : Scenes) (core : PKCore) (srcRole : PKRole) (creatureFlag : UInt8)
    (creatureID : UInt32) : Except UInt32 (List UInt32) :=
  if creatureFlag = 1 then
    let desRole := core.processGetRolePtr creatureID
    if desRole.id = 0 then .error errAppRoleNotExists
    else if srcRole.mapID ≠ desRole.mapID then .error errAppData
    else .ok (core.defenders desRole creatureID)
  else if creatureFlag = 2 then
    if scenes.getSenceMonster srcRole.mapID creatureID [] = [] then .error errAppRoleNotExists
    else if scenes.processGetMonster srcRole.mapID creatureID = 0 then .error errAppRoleNotExists
    else .ok []
  else .ok []

/-- The loop over the members looks each of them up. An error keeps the role that was looked up
last, and a success the last member. -/
def lookUp (core : PKCore) (srcRole : UInt32) : List UInt32 → Except UInt32 UInt32
  | [] => .ok srcRole
  | member :: members =>
      if (core.processGetRolePtr member).id = 0 then .error member else core.lookUp member members

/-- These are the checks in front of the registration. A refusal names its code and the role that
the variable `srcRole` holds, and an acceptance the same role and the players. -/
def draft (scenes : Scenes) (core : PKCore) (roleID : UInt32) (body : Option (UInt8 × UInt32)) :
    Except (UInt32 × UInt32) (UInt32 × PKBriefList) :=
  match body with
  | none => .error (errSystemSerError, roleID)
  | some (creatureFlag, creatureID) =>
      let srcRole := core.processGetRolePtr roleID
      if creatureFlag = 0 ∨ 4 < creatureFlag then .error (errAppData, roleID)
      else if core.briefs.ifRoleInPK roleID ≠ 0 then .error (2011, roleID)
      else if srcRole.id = 0 then .error (errAppRoleNotExists, roleID)
      else if srcRole.teamFlag ≠ 0 ∧ srcRole.teamFlag ≠ 2 then .error (errAppRoleNotExists, roleID)
      else
        let roleID1 := core.followers srcRole
        match core.findTarget scenes srcRole creatureFlag creatureID with
        | .error retCode => .error (retCode, roleID)
        | .ok roleID2 =>
            match core.lookUp roleID roleID1 with
            | .error missing => .error (errAppRoleNotExists, missing)
            | .ok srcRole =>
                match core.lookUp creatureID roleID2 with
                | .error _ => .error (errAppRoleNotExists, srcRole)
                | .ok _ => .ok (srcRole, ⟨roleID, roleID1 ++ [roleID], roleID2 ++ [creatureID]⟩)

/-- A refusal resets the role that was looked up last, and the entry of the requester. -/
def cleanUp (srcRole roleID : UInt32) : PKCore :=
  let core := core.setStatus srcRole 1
  { core with briefs := core.briefs.eraseRolePKID roleID }

/-- Message 401 asks for a battle. The battle server answers with `iRet`. -/
def processPKReq (scenes : Scenes) (core : PKCore) (roleID : UInt32)
    (body : Option (UInt8 × UInt32)) (iRet : UInt32) : UInt32 × PKCore :=
  match core.draft scenes roleID body with
  | .error (retCode, srcRole) => (retCode, core.cleanUp srcRole roleID)
  | .ok (srcRole, pkList) =>
      let core : PKCore := { core with briefs := core.briefs.addPKBrif roleID pkList }
      if (core.processGetRolePtr roleID).status ≠ 1 then
        (errAppRoleNotExists, core.cleanUp srcRole roleID)
      else
        let core := core.setStatus srcRole 2
        if iRet ≠ 0 then (iRet, core.cleanUp srcRole roleID) else (0, core)

end PKCore

def ArchvPKEndInfo.isFailer (record : ArchvPKEndInfo) : Bool :=
  record.opposition ≠ 1 && record.creatureFlag = 1

def ArchvPKEndInfo.isWinPet (record : ArchvPKEndInfo) : Bool :=
  record.opposition = 1 && record.creatureFlag = 4

/-- A report pays these credits to roles, and this experience to their pets. -/
structure PKPayment where
  credits : List Credit
  petExp : List (UInt32 × UInt32)
  deriving DecidableEq, Repr

/-- A report finds these outcomes outside of the registry. -/
structure PKEndWorld where
  rewards : RewardWorld
  /-- The owner of a pet is zero after a failed query. -/
  petRole : UInt32 → Option UInt32
  /-- These are the results of `OnEquipDurabilityLoss` for the records. -/
  losses : Nat → Int
  /-- `RoleGetItem` stores nothing of an empty list. -/
  noItems : ∀ call, rewards.stored call [] = []

namespace PKEndWorld

/-- A pet gets the experience of the first report of its owner. -/
def winPetAddExp (world : PKEndWorld) (winPets : List UInt32) (lpkei : List PKEndInfo) :
    List (UInt32 × UInt32) :=
  winPets.filterMap fun petID => (world.petRole petID).bind fun roleId =>
    (lpkei.find? fun info => info.roleID = roleId).map fun info => (petID, info.pkr.exp)

/-- A failed loss ends the loop with an error. -/
def equipDurabilityLoss (world : PKEndWorld) : Nat → List ArchvPKEndInfo → UInt32
  | _, [] => 0
  | place, record :: records =>
      if record.creatureFlag = 1 ∧ record.live = 1 ∧ world.losses place ≠ 0 then errSystemSerError
      else if record.creatureFlag = 1 ∧ record.live = 2 ∧ world.losses place ≠ 0 then errAppOp
      else world.equipDurabilityLoss (place + 1) records

end PKEndWorld

namespace PKCore

variable (scenes : Scenes)

/-- The groups are those of the leaders that the brief lists, and a leader replaces them all. -/
def beatenMonsters (core : PKCore) (report : PKEnd) : List SenceMonster :=
  (core.briefs.getPkInfo report.pkID).player2.foldl
    (fun monsters leader => scenes.getSenceMonster report.mapID.toUInt32 leader monsters) []

/-- Only a battle without a role on the other side is paid. -/
def getInfoFromPkEnd1 (world : PKEndWorld) (core : PKCore) (report : PKEnd) : Option PKPayment :=
  let winers := (report.lei.filter ArchvPKEndInfo.isWinner).map ArchvPKEndInfo.roleID
  let winPets := (report.lei.filter ArchvPKEndInfo.isWinPet).map ArchvPKEndInfo.roleID
  if report.lei.filter ArchvPKEndInfo.isFailer = [] then
    (getItemFromPkEnd world.rewards winers report.lei
      (core.beatenMonsters scenes report)).map fun rewards =>
        ⟨rewards.credits, world.winPetAddExp winPets rewards.lpkei⟩
  else some ⟨[], []⟩

/-- A battle that the first side lost pays nothing. -/
def payment (world : PKEndWorld) (core : PKCore) (report : PKEnd) : Option PKPayment :=
  if report.winOpposition ≠ 1 then some ⟨[], []⟩ else core.getInfoFromPkEnd1 scenes world report

/-- The roles of the battle that are still on its map are set free. -/
def changeCreatureStatus (core : PKCore) (report : PKEnd) : PKCore :=
  report.lei.foldl (fun core record =>
    if record.creatureFlag = 1 ∧
        (core.processGetRolePtr record.roleID).mapID = report.mapID.toUInt32 then
      core.setStatus record.roleID 1
    else core) core

/-- Message 201 of the battle server reports the end of a battle. A fault ends the process. -/
def processPKEnd (world : PKEndWorld) (core : PKCore) (body : Option PKEnd) :
    Option (UInt32 × PKPayment × PKCore) :=
  match body with
  | none => some (errSystemSerError, ⟨[], []⟩, core)
  | some report =>
      (core.payment scenes world report).map fun payment =>
        let retCode := world.equipDurabilityLoss 0 report.lei
        if retCode ≠ 0 then (retCode, payment, core)
        else
          let core : PKCore := { core with briefs := (core.briefs.deletePkBrif report.pkID).2 }
          (0, payment, core.changeCreatureStatus report)

end PKCore

/-- Other messages may change the roles and the teams in any way. -/
inductive PKEvent where
  | processPKReq (roleID : UInt32) (body : Option (UInt8 × UInt32)) (iRet : UInt32)
  | processPKEnd (world : PKEndWorld) (body : Option PKEnd)
  | others (mapRole : UInt32 → Option PKRole) (mapTeam : UInt32 → Option Team)

/-- Every message is completed before the next one. -/
def PKCore.step (scenes : Scenes) (core : PKCore) : PKEvent → Option PKCore
  | .processPKReq roleID body iRet => some (core.processPKReq scenes roleID body iRet).2
  | .processPKEnd world body =>
      (core.processPKEnd scenes world body).map fun result => result.2.2
  | .others mapRole mapTeam => some ⟨core.briefs, mapRole, mapTeam⟩

end AppSvr.MainServer
