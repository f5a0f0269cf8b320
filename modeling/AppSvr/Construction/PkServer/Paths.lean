/-
This file defines the search for a free cell and for a path.
-/

import AppSvr.Construction.PkServer.PKPE

namespace AppSvr.PkServer

/-- The offset of a direction in `GetEmptyPos`. -/
def directOffset : Int → Int × Int
  | directEast => (1, 0)
  | directEastSouth => (1, 1)
  | directNorth => (0, -1)
  | directNorthEast => (1, -1)
  | directSouth => (0, 1)
  | directSouthWest => (-1, 1)
  | directWest => (-1, 0)
  | directWestNorth => (-1, -1)
  | _ => (0, 0)

section EmptyPos

variable (pkMapBase : Pos → Bool)

/-- The cells ahead are tried until one is free or lies outside of the map. -/
def searchAhead (offset : Int × Int) : Nat → Pos → Option Pos
  | 0, _ => none
  | remaining + 1, pos =>
      let next := pos.shift offset.1 offset.2
      if ¬ next.InMap then none
      else if pkMapBase next then some next
      else searchAhead offset remaining next

/-- The numbers from `center - circle` to `center + circle`. -/
def around (center circle : Int) : List Int :=
  (List.range (2 * circle + 1).toNat).map fun index => center - circle + (index : Int)

/-- The square around a cell, column by column, without the cell. -/
def ring (pos : Pos) (circle : Int) : List Pos :=
  (around pos.x circle).flatMap fun x => (around pos.y circle).filterMap fun y =>
    if x = pos.x ∧ y = pos.y then none else some ⟨x, y⟩

def getEmptyPos (curr : Pos) (direct : Int) : Pos :=
  match searchAhead pkMapBase (directOffset direct) 3 curr with
  | some pos => pos
  | none =>
      (([1, 2, 3, 4].flatMap (ring curr)).find? fun pos =>
        decide pos.InMap && pkMapBase pos).getD curr

end EmptyPos

/-- A node of the search with its parent; `f` is the cost so far, and `g` adds the estimate. -/
structure PosA where
  node : Pos
  nodeParent : Pos
  f : Int
  g : Int
  deriving DecidableEq, Repr

/-- The neighbours `P1` to `P8` with their offsets and their costs. -/
def neighbours : List (Int × Int × Int) :=
  [(0, -1, 10), (1, -1, 14), (1, 0, 10), (1, 1, 14), (0, 1, 10), (-1, 1, 14), (-1, 0, 10),
    (-1, -1, 14)]

section AStar

variable (pkMapBase : Pos → Bool) (endPos : Pos)

/-- Only the edge that the offset points at is checked. -/
def stepInside (pos : Pos) (dx dy : Int) : Prop :=
  (dx = 1 → pos.x + 1 < mapSizeX) ∧ (dx = -1 → 0 ≤ pos.x - 1) ∧
    (dy = 1 → pos.y + 1 < mapSizeY) ∧ (dy = -1 → 0 ≤ pos.y - 1)

instance (pos : Pos) (dx dy : Int) : Decidable (stepInside pos dx dy) :=
  inferInstanceAs (Decidable (_ ∧ _))

/-- The neighbour becomes a new node unless one of the lists has it. -/
def expand (waiting done : List PosA) (current : PosA) : Int × Int × Int → Option PosA
  | (dx, dy, cost) =>
      let node : Pos := ⟨current.node.x + dx, current.node.y + dy⟩
      if (waiting ++ done).all (fun other => other.node ≠ node) ∧ stepInside current.node dx dy ∧
          pkMapBase node then
        let f := cost + current.f
        some ⟨node, current.node, f, f + (endPos.x - node.x).natAbs * 10 +
          (endPos.y - node.y).natAbs * 10⟩
      else none

/-- The last node of the list with the least estimate. -/
def cheapest (current : PosA) (waiting : List PosA) : PosA :=
  waiting.foldl (fun best node => if node.g ≤ best.g then node else best)
    (waiting.headD current)

/-- The done nodes are listed from the last one. A path has at most `MAP_MAX_LINE` as its cost. -/
def searchPath : Nat → List PosA → List PosA → PosA → Option (List PosA)
  | 0, _, _, _ => none
  | fuel + 1, waiting, done, current =>
      if current.node = endPos then some (current :: done)
      else
        let all := waiting ++ neighbours.filterMap (expand pkMapBase endPos waiting done current)
        let rest := all.eraseP fun node => node.node = current.node
        let done := ((all.find? fun node => node.node = current.node).toList) ++ done
        if rest = [] then none
        else
          let next := cheapest current rest
          if 1000 ≤ next.g then none else searchPath fuel rest done next

/-- The path is followed from a node back to the first one. The result has the line and the first
direction, which is missing for a single node. -/
def followBack (pos : PosA) : List PosA → List Pos → List Pos × Option Int
  | [], line => (line, none)
  | [first], line =>
      let direct := getDirect pos.node first.node
      if direct = 0 then (line, some 0) else (first.node :: line, some direct)
  | pre :: next :: older, line =>
      if pos.nodeParent = pre.node then followBack pre (next :: older) (pre.node :: line)
      else followBack pos (next :: older) line

/-- The turns of a line. Two equal cells in a row give no result. -/
def turnPoints : Int → List Pos → Option (List Pos)
  | _, [] => some []
  | _, [last] => some [last]
  | direct, pos :: next :: line =>
      let current := getDirect next pos
      if current = 0 then none
      else if current = direct then turnPoints direct (next :: line)
      else (turnPoints current (next :: line)).map (pos :: ·)

end AStar

/-- Every node lies within a hundred steps of the start. -/
def searchFuel : Nat := 201 * 201 + 1

namespace PKPE

/-- The result of `AStar` is zero for a path. -/
def aStar (battle : PKPE) (id : Int) (startPos endPos : Pos) : Int × PKPE :=
  let battle := battle.note (.aStar startPos)
  if ¬ endPos.InMap then (-1, battle)
  else
    let role := battle.role id
    let endPos :=
      if battle.pkMapBase endPos then endPos
      else getEmptyPos battle.pkMapBase endPos role.moveAttrb.direct
    let first : PosA := ⟨startPos, startPos, 0, 0⟩
    match searchPath battle.pkMapBase endPos searchFuel [first] [] first with
    | none | some [] => (-1, battle)
    | some (last :: done) =>
        let (line, direct) := followBack last done [last.node]
        let battle := battle.modifyRole id fun role =>
          (role.setMoveLine line).setDirect (direct.getD role.moveAttrb.direct)
        if direct = some 0 then (-1, battle)
        else
          match turnPoints (direct.getD role.moveAttrb.direct) line with
          | none => (-1, battle)
          | some turns =>
              (0, battle.send (.move id role.moveAttrb.currentPosMini (line.take 1 ++ turns)))

end PKPE

end AppSvr.PkServer
