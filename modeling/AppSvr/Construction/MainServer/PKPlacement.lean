/-
This file defines the start cells in the package for the battle server.
-/

import AppSvr.Construction.MainServer.PKSvc

namespace AppSvr.MainServer

def pkScreenXLength : Int := 50
def pkScreenYLength : Int := 29

/-- These are the fields of `ArchvRolePKInfo` that tell a creature, its side and its cell. -/
structure PKPlace where
  creatureFlag : UInt8
  opposition : UInt8
  roleID : UInt32
  currPos : ArchvPosition
  deriving DecidableEq, Repr

/-- The placement depends on these positions on the maps and on the pets in use. -/
structure PKGround where
  pos : UInt32 → ArchvPosition
  senceMonsterPos : UInt32 → UInt32 → ArchvPosition
  /-- A pet has a row in table `PetBonus`. -/
  petInUse : UInt32 → Option UInt32

/-- The middle of the two sides. -/
def getMidpoint (pos1 pos2 : ArchvPosition) : ArchvPosition :=
  ⟨UInt16.ofNat ((pos1.x.toNat + pos2.x.toNat) / 2),
    UInt16.ofNat ((pos1.y.toNat + pos2.y.toNat) / 2)⟩

/-- A side starts at a fixed distance from the middle of the screen. The difference of two positions
is a signed number. -/
def startCell (pos posMid : ArchvPosition) (distance : Int) : ArchvPosition :=
  ⟨UInt16.ofInt (if 0 < (pos.x.toNat : Int) - posMid.x.toNat then pkScreenXLength / 2 - distance
    else pkScreenXLength / 2 + distance), UInt16.ofInt (pkScreenYLength / 2)⟩

/-- Every step turns round and is longer than the one before by two cells. -/
def swing (y : UInt16) (pp j : Int) : Nat → List UInt16
  | 0 => []
  | count + 1 =>
      let y := UInt16.ofInt (y.toNat + 2 * j * -pp)
      y :: swing y (-pp) (j + 1) count

/-- The first monster of a group stands in the middle, and an even group one row below. -/
def makeSSPkgForMonster (origin : ArchvPosition) (id : UInt32) (num : UInt8) : List PKPlace :=
  let y := if num % 2 = 0 then origin.y + 1 else origin.y
  ⟨2, 4, id, ⟨origin.x, y⟩⟩ ::
    (swing y (-1) 1 (num.toNat - 1)).mapIdx fun index y =>
      ⟨2, 4, id + UInt32.ofNat (index + 1), ⟨origin.x, y⟩⟩

/-- The groups behind the first one stand two columns apart. The number of a group is cut to eight
bits, but it is counted in full. -/
def makeSSPkgForGroups (origin : ArchvPosition) (creatureID i : UInt32) :
    List SenceMonster → List PKPlace
  | [] => []
  | group :: groups =>
      let origin : ArchvPosition := ⟨origin.x + 2, origin.y⟩
      makeSSPkgForMonster origin (creatureID + i) group.num.toUInt8 ++
        makeSSPkgForGroups origin creatureID (group.num.toUInt32 + i) groups

namespace PKGround

/-- A pet stands behind its owner. -/
def makeSSPkgForPet (ground : PKGround) (origin : ArchvPosition) (roleID : UInt32) (type : UInt8) :
    List PKPlace :=
  match ground.petInUse roleID with
  | none => []
  | some petID =>
      [⟨4, type, petID,
        ⟨if 0 < (origin.x.toNat : Int) - pkScreenXLength / 2 then origin.x + 2 else origin.x - 2,
          origin.y⟩⟩]

def makeSSPkgForRole (ground : PKGround) (origin : ArchvPosition) (role : PKRole) (type : UInt8) :
    List PKPlace :=
  ⟨1, type, role.id, origin⟩ :: ground.makeSSPkgForPet origin role.id type

end PKGround

/-- The leader and the members of the first side swing around the middle row. -/
def swingCells (origin : ArchvPosition) (members : Nat) : List ArchvPosition :=
  (origin.y :: swing origin.y (-1) 1 members).map fun y => ⟨origin.x, y⟩

namespace PKCore

variable (scenes : Scenes) (core : PKCore) (ground : PKGround)

variable (roleID : UInt32) (creatureFlag : UInt8)

/-- An even number of members starts one row above. -/
def firstCells (posMid : ArchvPosition) : List ArchvPosition :=
  let members := (core.followers (core.processGetRolePtr roleID)).length
  let pos1 := startCell (ground.pos roleID) posMid 10
  swingCells ⟨pos1.x, if members % 2 = 0 then pos1.y - 1 else pos1.y⟩ members

def firstSide (posMid : ArchvPosition) : List PKPlace :=
  let roles := roleID :: core.followers (core.processGetRolePtr roleID)
  (roles.zip (core.firstCells ground roleID posMid)).flatMap fun (member, pos1) =>
    ground.makeSSPkgForRole pos1 (core.processGetRolePtr member) 1

/-- The other members of an attacked team are passed the last cell of the first side. -/
def secondSide (creatureID : UInt32) (pos1 pos2 posMid : ArchvPosition) : List PKPlace :=
  if creatureFlag = 1 then
    let desRole := core.processGetRolePtr creatureID
    ground.makeSSPkgForRole (startCell pos2 posMid 10) desRole 2 ++
      (core.defenders desRole creatureID).flatMap fun member =>
        ground.makeSSPkgForRole pos1 (core.processGetRolePtr member) 2
  else if creatureFlag = 2 then
    let monsterrs := scenes.getSenceMonster (core.processGetRolePtr roleID).mapID creatureID []
    let origin := startCell pos2 posMid 5
    makeSSPkgForMonster origin creatureID 1 ++
      makeSSPkgForGroups origin creatureID 1 monsterrs.tail
  else []

/-- A target that is neither a role nor a monster leaves its position at zero. -/
def targetPos (creatureID : UInt32) : ArchvPosition :=
  if creatureFlag = 1 then ground.pos creatureID
  else if creatureFlag = 2 then
    ground.senceMonsterPos (core.processGetRolePtr roleID).mapID creatureID
  else ⟨0, 0⟩

def startPlaces (creatureID : UInt32) : List PKPlace :=
  let pos2 := core.targetPos ground roleID creatureFlag creatureID
  let posMid := getMidpoint (ground.pos roleID) pos2
  let cells := core.firstCells ground roleID posMid
  core.firstSide ground roleID posMid ++
    core.secondSide scenes ground roleID creatureFlag creatureID (cells.getLastD ⟨0, 0⟩) pos2 posMid

/-- A request that passes the checks sends its places to the battle server. -/
def beginPacket (body : Option (UInt8 × UInt32)) : Option (List PKPlace) :=
  match core.draft scenes roleID body, body with
  | .ok _, some (creatureFlag, creatureID) =>
      if (core.processGetRolePtr roleID).status ≠ 1 then none
      else some (core.startPlaces scenes ground roleID creatureFlag creatureID)
  | _, _ => none

end PKCore

end AppSvr.MainServer
