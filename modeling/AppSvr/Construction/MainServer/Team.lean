/-
This file defines the teams, the functions of `CoreData` that change them, and the team messages. A
body is absent when the serializer reports an error, and every handler returns its answer code; the
notices to other roles are left out.
-/

import AppSvr.Construction.OurDef
import Mathlib.Logic.Function.Basic

namespace AppSvr.MainServer

/-- Status two marks the leader, and status one marks any other member. -/
structure TeamRole where
  roleId : UInt32
  status : UInt8
  deriving DecidableEq, Repr

structure Team where
  teamID : UInt32
  leaderRoleID : UInt32
  listMember : List TeamRole
  deriving DecidableEq, Repr

def Team.new : Team := ⟨0, 0, []⟩

namespace Team

variable (team : Team) (roleID : UInt32)

def addToTeam : Team :=
  { team with listMember := team.listMember ++ [⟨roleID, 1⟩] }

/-- The loop stops at the first member with the identifier. -/
def setStatus (roleID : UInt32) (type : UInt8) : List TeamRole → List TeamRole
  | [] => []
  | member :: rest =>
      if member.roleId = roleID then { member with status := type } :: rest
      else member :: setStatus roleID type rest

def changeRoleStues (type : UInt8) : Team :=
  { team with listMember := setStatus roleID type team.listMember }

/-- This is the setter `Team::LeaderRoleID`. -/
def setLeaderRoleID (input : UInt32) : Team :=
  { team with leaderRoleID := input }.changeRoleStues input 2

/-- The identifier zero changes nothing. -/
def changToBeLeader : Team :=
  if roleID ≠ 0 then (team.changeRoleStues team.leaderRoleID 1).setLeaderRoleID roleID else team

def outTheTeam : Team :=
  { team with listMember := team.listMember.eraseP fun member => member.roleId = roleID }

end Team

/-- An online role stores its own view of its team. -/
structure TeamMember where
  id : UInt32
  teamID : UInt32
  teamFlag : UInt8
  leaderRoleID : UInt32
  deriving DecidableEq, Repr

def TeamMember.new : TeamMember := ⟨0, 0, 0, 0⟩

/-- `mapRole` holds the online roles. -/
structure TeamCore where
  mapRole : UInt32 → Option TeamMember
  mapTeam : UInt32 → Option Team
  mapRoleTeam : UInt32 → Option UInt32
  lastTeamID : UInt32

namespace TeamCore

variable (core : TeamCore) (teamID roleID : UInt32)

/-- A change of an offline role is lost with the fresh role. -/
def modifyRole (roleID : UInt32) (change : TeamMember → TeamMember) : TeamCore :=
  { core with
    mapRole := Function.update core.mapRole roleID ((core.mapRole roleID).map change) }

def setTeam (teamID : UInt32) (team : Option Team) : TeamCore :=
  { core with mapTeam := Function.update core.mapTeam teamID team }

/-- The insertion into a map keeps an entry that exists. -/
def insertRoleTeam (roleID teamID : UInt32) : TeamCore :=
  match core.mapRoleTeam roleID with
  | none => { core with mapRoleTeam := Function.update core.mapRoleTeam roleID (some teamID) }
  | some _ => core

def getTeamsFromRoleID (roleID : UInt32) : Team :=
  match core.mapRoleTeam roleID with
  | none => .new
  | some teamID => (core.mapTeam teamID).getD .new

def roleTeamset (roleID teamID leaderID : UInt32) (flag : UInt8) : TeamCore :=
  core.modifyRole roleID fun role =>
    { role with teamID := teamID, teamFlag := flag, leaderRoleID := leaderID }

def eraseRoleIDTeamID (roleID : UInt32) : TeamCore :=
  { core with mapRoleTeam := Function.update core.mapRoleTeam roleID none }

def addTeamRole : Int × TeamCore :=
  match core.mapTeam teamID with
  | none => (-1, core)
  | some team =>
      let core := core.setTeam teamID (some (team.addToTeam roleID))
      let core := core.insertRoleTeam roleID teamID
      (0, core.roleTeamset roleID teamID team.leaderRoleID 1)

def createTeam (leaderRoleID roleID : UInt32) : TeamCore :=
  let team := ((Team.new.addToTeam leaderRoleID).setLeaderRoleID leaderRoleID).addToTeam roleID
  let team := { team with teamID := core.lastTeamID }
  let lastTeamID := core.lastTeamID
  let core :=
    match core.mapTeam lastTeamID with
    | none => core.setTeam lastTeamID (some team)
    | some _ => core
  let core := (core.insertRoleTeam leaderRoleID lastTeamID).insertRoleTeam roleID lastTeamID
  let core := core.roleTeamset leaderRoleID lastTeamID leaderRoleID 2
  let core := core.roleTeamset roleID lastTeamID leaderRoleID 1
  { core with lastTeamID := lastTeamID + 1 }

def deleteTeam (teamID : UInt32) : Int × TeamCore :=
  match core.mapTeam teamID with
  | none => (-1, core)
  | some team =>
      let core := team.listMember.foldl (fun core member =>
        (core.roleTeamset member.roleId 0 0 0).eraseRoleIDTeamID member.roleId) core
      (0, core.setTeam teamID none)

/-- Nothing compares the team of the role with the given one. -/
def deleteTeamRole : Int × TeamCore :=
  match core.mapTeam teamID with
  | none => (-1, core)
  | some team =>
      let team := team.outTheTeam roleID
      let core := (core.setTeam teamID (some team)).eraseRoleIDTeamID roleID
      let core := core.roleTeamset roleID 0 0 0
      (0, if team.listMember.length = 0 then (core.deleteTeam teamID).2 else core)

def changtoFlag (type : UInt8) : Int × TeamCore :=
  match core.mapTeam teamID with
  | none => (-1, core)
  | some team =>
      let core := core.modifyRole roleID fun role => { role with teamFlag := type }
      (0, core.setTeam teamID (some (team.changeRoleStues roleID type)))

/-- The loop stores the leader in every member's role. -/
def tellLeader (members : List TeamRole) (leaderID : UInt32) : TeamCore :=
  members.foldl (fun core member =>
    core.modifyRole member.roleId fun role => { role with leaderRoleID := leaderID }) core

/-- The result is one for the leader. The flag of the former leader stays. -/
def changtoBeLeader : Int × TeamCore :=
  match core.mapTeam teamID with
  | none => (-1, core)
  | some team =>
      if team.leaderRoleID = roleID then (1, core)
      else
        let team := team.changToBeLeader roleID
        let core := (core.setTeam teamID (some team)).tellLeader team.listMember roleID
        (0, core.modifyRole roleID fun role => { role with teamFlag := 2 })

/-- The first member that remains follows a leader. -/
def logoutToTeam : Int × TeamCore :=
  match core.mapTeam teamID with
  | none => (-1, core)
  | some team =>
      let team := team.outTheTeam roleID
      let core := (core.setTeam teamID (some team)).eraseRoleIDTeamID roleID
      match team.listMember with
      | [] => (0, (core.deleteTeam teamID).2)
      | member :: _ =>
          if roleID = team.leaderRoleID then
            let id := member.roleId
            let core := core.modifyRole id fun role => { role with teamFlag := 2 }
            let core := core.setTeam teamID (some (team.changToBeLeader id))
            (0, core.tellLeader team.listMember id)
          else (0, core)

/-- The role leaves its map before its team is told. -/
def processRoleLogout (roleID : UInt32) : Int × TeamCore :=
  match core.mapRole roleID with
  | none => (-1, core)
  | some role =>
      let core := { core with mapRole := Function.update core.mapRole roleID none }
      if role.teamID ≠ 0 then
        (0, (core.logoutToTeam role.teamID roleID).2.eraseRoleIDTeamID roleID)
      else (0, core)

end TeamCore

end AppSvr.MainServer

namespace AppSvr.MainServer.TeamCore

variable (core : TeamCore) (roleID : UInt32)

/-- Type one accepts. Nothing compares the two roles. -/
def acceptRequest (roleID id : UInt32) : UInt32 × TeamCore :=
  let team1 := core.getTeamsFromRoleID roleID
  let team := core.getTeamsFromRoleID id
  if team1.leaderRoleID = roleID then
    if team.teamID = 0 then
      let (iRet, core) := core.addTeamRole team1.teamID id
      if iRet = -1 then (202, core) else (0, core)
    else (203, core)
  else if team1.teamID = 0 then
    if team.teamID = 0 then (0, core.createTeam id roleID)
    else if team.leaderRoleID ≠ id then (204, core)
    else
      let (iRet, core) := core.addTeamRole team.teamID roleID
      if iRet = -1 then (errSystemSerError, core) else (0, core)
  else (0, core)

/-- Message 1402 answers an invitation or a request. -/
def processAnswerRequest (body : Option (UInt32 × UInt8)) : UInt32 × TeamCore :=
  match body with
  | none => (errSystemSerError, core)
  | some (id, type) => if type = 1 then core.acceptRequest roleID id else (0, core)

/-- Message 1403 makes another role the leader. -/
def processChangeCaptain (body : Option UInt32) : UInt32 × TeamCore :=
  match body with
  | none => (errSystemSerError, core)
  | some id =>
      if id = 0 ∨ id = roleID then (errSystemSerError, core)
      else
        let team := core.getTeamsFromRoleID roleID
        if team.leaderRoleID ≠ roleID then (errSystemSerError, core)
        else
          let (iRet, core) := core.changtoBeLeader team.teamID id
          if iRet ≠ 0 then (errSystemSerError, core) else (0, core)

/-- Message 1405 removes another role. -/
def processCaptMember (body : Option UInt32) : UInt32 × TeamCore :=
  match body with
  | none => (errSystemSerError, core)
  | some id =>
      if id = 0 ∨ id = roleID then (errSystemSerError, core)
      else
        let team := core.getTeamsFromRoleID roleID
        if team.leaderRoleID ≠ roleID then (errSystemSerError, core)
        else
          let (iRet, core) := core.deleteTeamRole team.teamID id
          if iRet = -1 then (errSystemSerError, core) else (0, core)

/-- The first other member follows a leader that leaves; zero tells that there is none. -/
def successor (team : Team) (roleID : UInt32) : UInt32 :=
  if team.leaderRoleID = roleID ∧ 1 < team.listMember.length then
    ((team.listMember.find? fun member => member.roleId ≠ roleID).map TeamRole.roleId).getD 0
  else 0

/-- Message 1406 leaves the team. -/
def processMemberOut : UInt32 × TeamCore :=
  let team := core.getTeamsFromRoleID roleID
  if team.teamID = 0 then (errSystemSerError, core)
  else
    let id := successor team roleID
    let core := if id ≠ 0 then (core.changtoBeLeader team.teamID id).2 else core
    (0, (core.deleteTeamRole team.teamID roleID).2)

/-- Message 1407 returns to the team or leaves it for a while. -/
def processBackOrleave (body : Option UInt8) : UInt32 × TeamCore :=
  match body with
  | none => (errSystemSerError, core)
  | some flag =>
      let teamID := (core.getTeamsFromRoleID roleID).teamID
      if flag = 1 then (0, (core.changtoFlag teamID roleID 1).2)
      else if flag = 2 then (0, (core.changtoFlag teamID roleID 2).2)
      else (0, core)

end TeamCore

/-- The team messages with their sender and their body, and the logout of a role. -/
inductive TeamEvent where
  | requestjoin (roleID : UInt32) (body : Option UInt32)
  | answerRequest (roleID : UInt32) (body : Option (UInt32 × UInt8))
  | changeCaptain (roleID : UInt32) (body : Option UInt32)
  | callMember (roleID : UInt32) (body : Option UInt32)
  | captMember (roleID : UInt32) (body : Option UInt32)
  | memberOut (roleID : UInt32)
  | backOrleave (roleID : UInt32) (body : Option UInt8)
  | logout (roleID : UInt32)
  deriving DecidableEq, Repr

namespace TeamCore

/-- Every event is processed to its end before the next one. -/
def process (core : TeamCore) : TeamEvent → TeamCore
  | .requestjoin _ _ | .callMember _ _ => core
  | .answerRequest roleID body => (core.processAnswerRequest roleID body).2
  | .changeCaptain roleID body => (core.processChangeCaptain roleID body).2
  | .captMember roleID body => (core.processCaptMember roleID body).2
  | .memberOut roleID => (core.processMemberOut roleID).2
  | .backOrleave roleID body => (core.processBackOrleave roleID body).2
  | .logout roleID => (core.processRoleLogout roleID).2

def step (core : TeamCore) (event : TeamEvent) : Option TeamCore := some (core.process event)

end TeamCore

end AppSvr.MainServer
