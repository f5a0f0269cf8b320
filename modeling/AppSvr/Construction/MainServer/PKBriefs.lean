/-
This file defines the registry of the running battles and the archive types of the battle messages.
-/

import AppSvr.Construction.BaseServer.Serializer
import AppSvr.Construction.OurDef

namespace AppSvr.MainServer

/-- The players of a battle; a group of monsters is listed by its leader. -/
structure PKBriefList where
  pkID : UInt32
  player1 : List UInt32
  player2 : List UInt32
  deriving DecidableEq, Repr

def PKBriefList.new : PKBriefList := ⟨0, [], []⟩

/-- These are the two maps of `CoreData` that describe the battles. -/
structure PKBriefs where
  mapPkInfo : UInt32 → Option PKBriefList
  mapRolePKID : UInt32 → Option UInt32

/-- No battle runs when the server starts. -/
def PKBriefs.empty : PKBriefs := ⟨fun _ => none, fun _ => none⟩

namespace PKBriefs

/-- Each loop over players erases their entries and may insert new ones. -/
def setPKID (entry : Option UInt32) (core : PKBriefs) (players : List UInt32) : PKBriefs :=
  players.foldl (fun core roleID =>
    { core with mapRolePKID := Function.update core.mapRolePKID roleID entry }) core

variable (core : PKBriefs) (pkID : UInt32) (pkinfo : PKBriefList)

def addRolePKID : PKBriefs :=
  setPKID (some pkID) (setPKID (some pkID) core pkinfo.player1) pkinfo.player2

def deleterolePKID : PKBriefs :=
  setPKID none (setPKID none core pkinfo.player1) pkinfo.player2

/-- A brief under the same identifier is replaced. -/
def addPKBrif : PKBriefs :=
  let core := { core with mapPkInfo := Function.update core.mapPkInfo pkID (some pkinfo) }
  core.addRolePKID pkID pkinfo

def deletePkBrif : Int × PKBriefs :=
  match core.mapPkInfo pkID with
  | none => (-1, core)
  | some pkinfo =>
      let core := core.deleterolePKID pkinfo
      (0, { core with mapPkInfo := Function.update core.mapPkInfo pkID none })

def getPkInfo : PKBriefList :=
  (core.mapPkInfo pkID).getD .new

/-- Zero tells that the role is in no battle. -/
def ifRoleInPK (roleID : UInt32) : UInt32 :=
  (core.mapRolePKID roleID).getD 0

def eraseRolePKID (roleID : UInt32) : PKBriefs :=
  { core with mapRolePKID := Function.update core.mapRolePKID roleID none }

end PKBriefs

/-- The calls that change the registry. -/
inductive BriefCall where
  | addPKBrif (pkID : UInt32) (pkinfo : PKBriefList)
  | deletePkBrif (pkID : UInt32)
  | eraseRolePKID (roleID : UInt32)
  deriving DecidableEq, Repr

/-- Every call is completed before the next one. -/
def PKBriefs.step (core : PKBriefs) : BriefCall → Option PKBriefs
  | .addPKBrif pkID pkinfo => some (core.addPKBrif pkID pkinfo)
  | .deletePkBrif pkID => some (core.deletePkBrif pkID).2
  | .eraseRolePKID roleID => some (core.eraseRolePKID roleID)

/-- A cell of a map. -/
structure ArchvPosition where
  x : UInt16
  y : UInt16
  deriving DecidableEq, Repr

open BaseServer

/-- A role at the end of a battle. -/
structure ArchvPKEndInfo where
  creatureFlag : UInt8
  creatureType : UInt32
  roleID : UInt32
  opposition : UInt8
  live : UInt8
  hp : UInt16
  mp : UInt16
  deriving DecidableEq, Repr

/-- The columns stand in the order of the serial map. -/
abbrev ArchvPKEndInfo.columns : List Archive :=
  [.fixed .byte, .fixed .uInt32, .fixed .uInt32, .fixed .byte, .fixed .byte, .fixed .uInt16,
    .fixed .uInt16]

def ArchvPKEndInfo.ofValues : Archive.Values columns → ArchvPKEndInfo
  | (creatureFlag, creatureType, roleID, opposition, live, hp, mp, ()) =>
      ⟨creatureFlag, creatureType, roleID, opposition, live, hp, mp⟩

def ArchvPKEndInfo.toValues (info : ArchvPKEndInfo) : Archive.Values columns :=
  (info.creatureFlag, info.creatureType, info.roleID, info.opposition, info.live, info.hp, info.mp,
    ())

/-- These are the locals that `ProcessPKEnd` reads. -/
structure PKEnd where
  pkID : UInt32
  mapID : UInt16
  winOpposition : UInt8
  lei : List ArchvPKEndInfo
  deriving DecidableEq, Repr

abbrev PKEnd.chain : List Archive :=
  [.fixed .uInt32, .fixed .uInt16, .fixed .byte, .list (.record ArchvPKEndInfo.columns)]

def PKEnd.ofValues : Archive.Values chain → PKEnd
  | (pkID, mapID, winOpposition, lei, ()) =>
      ⟨pkID, mapID, winOpposition, List.map ArchvPKEndInfo.ofValues lei⟩

def PKEnd.toValues (report : PKEnd) : Archive.Values chain :=
  (report.pkID, report.mapID, report.winOpposition, List.map ArchvPKEndInfo.toValues report.lei, ())

/-- The handler chains its reads. -/
def PKEnd.decode (buffer : DataBuffer) : PKEnd × Serializer :=
  let loaded := Archive.loadChain chain (Archive.freshEntries chain) (.new buffer)
  (ofValues loaded.1, loaded.2)

end AppSvr.MainServer
