/-
This file defines the state of a battle, the messages to the clients, and the recorded calls. A
pointer to a role is its identifier.
-/

import AppSvr.Construction.PkServer.RoleState

namespace AppSvr.PkServer

/-- The bullet types besides the skills that throw one. -/
inductive BulletType where
  | atkClose | atkRemote | skill (skill : SkillType)
  deriving DecidableEq, Repr

/-- The level of a physical bullet is not set and not read. -/
structure Bullet where
  roleAttack : Int
  rolePassive : Int
  startTime : Int
  currentPos : Pos
  speed : Int
  bulletType : BulletType
  level : Int
  deriving DecidableEq, Repr

structure SkillOrder where
  role : Int
  startTime : Int
  order : RoleOrder
  skillLevel : Int
  deriving DecidableEq, Repr

structure UserOrder where
  controlID : Int
  roleID : Int
  order : RoleOrder
  deriving DecidableEq, Repr

/-- A battle ends with one record for a player or a pet. -/
structure EndInfo where
  roleFlag : Int
  roleType : Int
  roleID : Int
  opposition : Int
  live : RoleStatus
  hp : Int
  mp : Int
  deriving DecidableEq, Repr

/-- The source of a change of health, with the number that goes into the message. -/
inductive HpEffect where
  | miss | normal | twice | skill (skill : SkillType)
  deriving DecidableEq, Repr

/-- These are the messages that go to every player, and the result for the main server. -/
inductive Broadcast where
  | begin
  | attack (role passive : Int)
  | move (role : Int) (mini : Pos) (turnPoints : List Pos)
  | multiHurt (targets : List (Int × Int)) (effect : SkillType)
  | hpChange (role hp : Int) (effect : HpEffect)
  | mpChange (role mp effect : Int)
  | dead (role : Int)
  | stop (role : Int) (pos mini : Pos)
  | skill (role type targetType : Int) (target : Pos ⊕ Int)
  | skillBuffer (role : Int) (type : BufferType) (skill : SkillType) (keepTime param1 param2 : Int)
  | newRole (role : RoleState) (keepTime copiedID : Int) (effect : SkillType)
  | bufferRun (role : Int) (skill : SkillType) (beginTime : Int)
  | bufferStop (role : Int) (type : BufferType) (skill : SkillType) (beginTime : Int)
  | locationOffset (role : Int) (target : Pos) (skill : SkillType)
  | ready (role : Int)
  | fightEnd
  | endGame (pkID mapID winOpposition : Int) (records : List EndInfo)
  deriving Repr

/-- The roles of a battle. No role is ever removed. -/
structure Roles where
  /-- The keys of `P_Roles` in their order. -/
  ids : List Int
  role : Int → RoleState

inductive PKState where
  | init | ready | pking | over
  deriving DecidableEq, Repr

/-- A recorded call keeps what the function finds. -/
inductive Call where
  | addBuffer (role : RoleState) (buff : Buff)
  | delBuffer (role : RoleState) (buff : Buff)
  | hurt (role : RoleState) (value : Int)
  /-- A loss of health after which nobody looks for the dead. -/
  | loss (role : RoleState) (value : Int)
  | multiHurt (roles : Roles) (pkState : PKState) (targets : List (Int × Int))
  /-- The effects of the listed buffs have been taken back before the role dies. -/
  | onRoleDead (role : RoleState) (undone : List Buff)
  /-- A role without a way dies, too. -/
  | noWay (role : RoleState)
  | mana (role : RoleState) (cost : Int)
  | cross (roles : Roles) (role : Int) (next : Pos)
  | relocate (role : RoleState) (target : Pos)
  | back (line : List Pos)
  | readMap (pos : Pos)
  | aStar (startPos : Pos)
  | newRole (role : RoleState)
  | cast (roles : Roles) (role : Int) (order : RoleOrder) (level : Int)
  | runRole (role : RoleState) (now : Int)
  | acceptOrder (role : RoleState) (order : RoleOrder)
  | endGame (roles : Roles) (winOpposition : Int)
  /-- An iterator is erased after its list has been cleared. -/
  | dangling

/-- The draws answer `rand` and other outer calls, and the objects are the memory of new roles. -/
structure PKPE extends Roles where
  pkID : Int
  mapID : Int
  pkState : PKState
  fragmentNow : Int
  bullets : List Bullet
  skillOrderList : List SkillOrder
  /-- The values behind the edge stand for other memory. -/
  pkMapBase : Pos → Bool
  orders : List UserOrder
  sent : List (Int × Broadcast)
  calls : List Call
  draws : List Nat
  objects : List RoleState
  /-- The draws or the objects did not suffice. -/
  starved : Bool
  /-- The server divided by zero. -/
  crashed : Bool

namespace PKPE

variable (battle : PKPE)

/-- This is `P_Roles.find`. -/
def find (id : Int) : Option RoleState :=
  if id ∈ battle.ids then some (battle.role id) else none

def modifyRole (id : Int) (change : RoleState → RoleState) : PKPE :=
  { battle with role := Function.update battle.role id (change (battle.role id)) }

def send (message : Broadcast) : PKPE :=
  { battle with sent := battle.sent ++ [(battle.fragmentNow, message)] }

def note (call : Call) : PKPE := { battle with calls := battle.calls ++ [call] }

def rand : Nat × PKPE :=
  match battle.draws with
  | [] => (0, { battle with starved := true })
  | draw :: draws => (draw, { battle with draws := draws })

/-- A new object has arbitrary values in the fields that no constructor sets. -/
def newObject (default : RoleState) : RoleState × PKPE :=
  match battle.objects with
  | [] => (default.construct, { battle with starved := true })
  | memory :: objects => (memory.construct, { battle with objects := objects })

/-- A loop visits the roles in the order of their keys. -/
def forRoles (body : Int → PKPE → PKPE) : PKPE :=
  battle.ids.foldl (fun battle id => body id battle) battle

/-- An access of the map is recorded. -/
def readMap (pos : Pos) : Bool × PKPE := (battle.pkMapBase pos, battle.note (.readMap pos))

def addBullet (bullet : Bullet) : PKPE := { battle with bullets := battle.bullets ++ [bullet] }

/-- An existing key keeps its role. -/
def insertRole (role : RoleState) : PKPE :=
  if role.roleID ∈ battle.ids then battle
  else
    { battle.note (.newRole role) with
      ids := battle.ids.orderedInsert (· ≤ ·) role.roleID
      role := Function.update battle.role role.roleID role }

def endInfo (id : Int) : EndInfo :=
  let role := battle.role id
  ⟨role.roleFlag, role.roleType, role.roleID, role.opposition, role.live, role.hp, role.mp⟩

/-- A draw tells whether the exchange server accepts the connection. -/
def endGame (winOpposition : Int) : PKPE :=
  let battle := battle.note (.endGame battle.toRoles winOpposition)
  let (refused, battle) := battle.rand
  if refused ≠ 0 then battle
  else
    let reported := battle.ids.filter fun id =>
      (battle.role id).roleFlag = roleTypePlayer ∨ (battle.role id).roleFlag = roleTypePet
    (battle.send .fightEnd).send
      (.endGame battle.pkID battle.mapID winOpposition (reported.map battle.endInfo))

/-- The last role of another side names the winner. -/
def winOpposition (opposition : Int) : Int :=
  battle.ids.foldl (fun win id =>
    if (battle.role id).opposition = opposition then win else (battle.role id).opposition) 0

def checkOver (opposition : Int) : PKPE :=
  if battle.pkState = .over then battle
  else if ∃ id ∈ battle.ids,
      (battle.role id).opposition = opposition ∧ (battle.role id).live = .live then battle
  else { battle.endGame (battle.winOpposition opposition) with pkState := .over }

end PKPE

end AppSvr.PkServer
