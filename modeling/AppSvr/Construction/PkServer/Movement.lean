/-
This file defines how a role follows its line.
-/

import AppSvr.Construction.PkServer.Buffs
import AppSvr.Construction.PkServer.Paths

namespace AppSvr.PkServer

def lengthStraight : Int := 1000

/-- This is `MOVERESULT_..`. -/
inductive MoveResult where
  | okMove | noMove | error
  deriving DecidableEq, Repr

/-- A diagonal step is shorter. -/
def diagonalSpeed (speed : Int) : Int := toShort (double (speed * double (7 / 10)))

/-- The four diagonals differ in their signs. A role first goes along one axis to the diagonal of its
cell. -/
def moveDiagonal (signX signY speed : Int) (mini : Pos) : Pos :=
  let diffXY :=
    short (if signX = signY then mini.x - mini.y else mini.x - (lengthStraight - mini.y))
  let along (length : Int) : Pos :=
    if (0 < diffXY) = (signX = 1) then mini.shift 0 (signY * length)
    else mini.shift (signX * length) 0
  let both (pos : Pos) (length : Int) : Pos := pos.shift (signX * length) (signY * length)
  if diffXY = 0 then both mini (diagonalSpeed speed)
  else if (diffXY.natAbs : Int) < speed then
    both (along diffXY.natAbs) (diagonalSpeed (speed - diffXY.natAbs))
  else along speed

/-- The place inside of the cell after a move. -/
def moveMini (direct speed : Int) (mini : Pos) : Pos :=
  match direct with
  | directNorth => mini.shift 0 (-speed)
  | directNorthEast => moveDiagonal 1 (-1) speed mini
  | directEast => mini.shift speed 0
  | directEastSouth => moveDiagonal 1 1 speed mini
  | directSouth => mini.shift 0 speed
  | directSouthWest => moveDiagonal (-1) 1 speed mini
  | directWest => mini.shift (-speed) 0
  | directWestNorth => moveDiagonal (-1) (-1) speed mini
  | _ => mini

/-- The place inside of the next cell, when the move has left the cell. -/
def crossMini (direct : Int) (mini : Pos) : Option Pos :=
  let crossed (outside : Prop) [Decidable outside] (x y : Int) : Option Pos :=
    if outside then some (mini.shift x y) else none
  match direct with
  | directNorth => crossed (mini.y < 0) 0 lengthStraight
  | directNorthEast => crossed (lengthStraight ≤ mini.x) (-lengthStraight) lengthStraight
  | directEast => crossed (lengthStraight ≤ mini.x) (-lengthStraight) 0
  | directEastSouth => crossed (lengthStraight ≤ mini.x) (-lengthStraight) (-lengthStraight)
  | directSouth => crossed (lengthStraight ≤ mini.y) 0 (-lengthStraight)
  | directSouthWest => crossed (lengthStraight ≤ mini.y) lengthStraight (-lengthStraight)
  | directWest => crossed (mini.x < 0) lengthStraight 0
  | directWestNorth => crossed (mini.y < 0) lengthStraight lengthStraight
  | _ => none

/-- The cell moves away from the roles on it. After a move the search starts again, without the first
role. -/
def displace (again : List Pos) : Nat → List Pos → Pos → Pos
  | 0, _, pos => pos
  | fuel + 1, others, pos =>
      if pos ∈ others then displace again fuel again (pos.shift 5 5) else pos

namespace Roles

/-- The positions of the other roles. -/
def others (roles : Roles) (ids : List Int) (id : Int) : List Pos :=
  (ids.filter (· ≠ id)).map fun other => (roles.role other).moveAttrb.currentPos

/-- Every move leaves another role behind. -/
def displaced (roles : Roles) (id : Int) (next : Pos) : Pos :=
  displace (roles.others roles.ids.tail id) roles.ids.length (roles.others roles.ids id) next

/-- This is the loop over `P_Roles` itself. It returns nothing when the fuel ends. A restart at the
first role is followed by the increment of the iterator. -/
def overlapLoop (roles : Roles) (id : Int) : Nat → List Int → Pos → Option Pos
  | 0, _, _ => none
  | _ + 1, [], pos => some pos
  | fuel + 1, other :: ids, pos =>
      if other = id then overlapLoop roles id fuel ids pos
      else if pos = (roles.role other).moveAttrb.currentPos then
        overlapLoop roles id fuel roles.ids.tail (pos.shift 5 5)
      else overlapLoop roles id fuel ids pos

end Roles

/-- The share of the mana is at least one. -/
def Buff.drainShare (buff : Buff) (mp : Int) : Int :=
  let share := short ((mp * buff.parametar2).tdiv 100)
  if share = 0 ∧ 0 < mp then 1 else share

namespace PKPE

/-- A role with the buff of `NengLiangLiuShi` loses mana at every tenth move. -/
def drainOne (id : Int) (battle : PKPE) (index : Nat) : PKPE :=
  match (battle.role id).multimapBuff[index]? with
  | none => battle
  | some buff =>
      if buff.parentSkill ≠ .nengLiangLiuShi then battle
      else if ushort (buff.runCounter + 1) < 10 then
        battle.modifyRole id fun role =>
          role.modifyBuff index fun buff => { buff with runCounter := ushort (buff.runCounter + 1) }
      else
        let mpHurt := buff.drainShare (battle.role id).mp
        (battle.modifyRole id fun role =>
          (role.modifyBuff index fun buff => { buff with runCounter := 0 }).addMp (-mpHurt)).send
            (.mpChange id (short (-mpHurt)) SkillType.nengLiangLiuShi.code)

def drain (id : Int) (battle : PKPE) : PKPE :=
  (List.range (battle.role id).multimapBuff.length).foldl (drainOne id) battle

/-- The role enters the next cell of its line. -/
def crossPos (id : Int) (battle : PKPE) : MoveResult × PKPE :=
  match (battle.role id).moveAttrb.moveLine with
  | _ :: next :: line =>
      let pos := battle.toRoles.displaced id next
      let battle := (battle.note (.cross battle.toRoles id next)).modifyRole id fun role =>
        (role.setMoveLine (pos :: line)).setCurrentPos pos
      match line with
      | [] => (.okMove, battle)
      | posNext :: _ =>
          let direct := getDirect posNext pos
          (if direct = 0 then .error else .okMove,
            battle.modifyRole id fun role => role.setDirect direct)
  | _ => (.error, battle)

def calculateMoveP (id : Int) (battle : PKPE) : MoveResult × PKPE :=
  let role := battle.role id
  if 0 < role.moveAttrb.limitCounter then (.noMove, battle)
  else if role.moveAttrb.moveLine.length < 2 then (.error, battle)
  else
    let battle := drain id battle
    let speed := role.moveAttrb.speedMod
    if speed < 0 then (.okMove, battle)
    else
      let direct := role.moveAttrb.direct
      let mini := moveMini direct (if 1000 ≤ speed then 999 else speed)
        role.moveAttrb.currentPosMini
      match crossMini direct mini with
      | none => (.okMove, battle.modifyRole id fun role => role.setCurrentPosMini mini)
      | some mini => crossPos id (battle.modifyRole id fun role => role.setCurrentPosMini mini)

/-- The line of a role is given up. -/
def stop (id : Int) (battle : PKPE) : PKPE :=
  let role := battle.role id
  let battle := battle.modifyRole id fun role => role.setOrderType orderTypeNo
  if role.moveAttrb.moveLine = [] then battle
  else
    (battle.modifyRole id fun role => role.setMoveLine []).send
      (.stop id role.moveAttrb.currentPos role.moveAttrb.currentPosMini)

end PKPE

end AppSvr.PkServer
