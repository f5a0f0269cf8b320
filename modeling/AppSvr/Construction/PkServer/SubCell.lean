/-
This file defines the step of a role inside of its cell for any length of a diagonal step.
-/

import AppSvr.Construction.PkServer.Movement

namespace AppSvr.PkServer

/-- This is `(short) (v * 0.7)` when the product is cut off exactly. -/
def cutSpeed (speed : Int) : Int := short ((7 * speed).tdiv 10)

section Step

variable (diagonal : Int → Int)

/-- The four diagonals with this length of the step. -/
def moveDiagonalBy (signX signY speed : Int) (mini : Pos) : Pos :=
  let diffXY :=
    short (if signX = signY then mini.x - mini.y else mini.x - (lengthStraight - mini.y))
  let along (length : Int) : Pos :=
    if (0 < diffXY) = (signX = 1) then mini.shift 0 (signY * length)
    else mini.shift (signX * length) 0
  let both (pos : Pos) (length : Int) : Pos := pos.shift (signX * length) (signY * length)
  if diffXY = 0 then both mini (diagonal speed)
  else if (diffXY.natAbs : Int) < speed then
    both (along diffXY.natAbs) (diagonal (speed - diffXY.natAbs))
  else along speed

def moveMiniBy (direct speed : Int) (mini : Pos) : Pos :=
  match direct with
  | directNorth => mini.shift 0 (-speed)
  | directNorthEast => moveDiagonalBy diagonal 1 (-1) speed mini
  | directEast => mini.shift speed 0
  | directEastSouth => moveDiagonalBy diagonal 1 1 speed mini
  | directSouth => mini.shift 0 speed
  | directSouthWest => moveDiagonalBy diagonal (-1) 1 speed mini
  | directWest => mini.shift (-speed) 0
  | directWestNorth => moveDiagonalBy diagonal (-1) (-1) speed mini
  | _ => mini

/-- This is the stepping part of `CalculateMoveP` for a cell and the place inside of it. -/
def stepCell (direct speed : Int) (place : Pos × Pos) : Pos × Pos :=
  let (cell, mini) := place
  if speed < 0 then (cell, mini)
  else
    let mini := moveMiniBy diagonal direct (if 1000 ≤ speed then 999 else speed) mini
    match crossMini direct mini with
    | none => (cell, mini)
    | some mini => (cell.shift (directOffset direct).1 (directOffset direct).2, mini)

end Step

end AppSvr.PkServer
