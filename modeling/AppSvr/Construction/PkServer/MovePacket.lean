/-
This file defines the packets that report the end of a battle and the turns of a line.
-/

import AppSvr.Construction.PkServer.PKPE
import AppSvr.ToMathlib.LittleEndian

namespace AppSvr.PkServer

/-- This is the memory of an integer of that width. -/
def memory (width : Nat) (value : Int) : List UInt8 :=
  LittleEndian.encode width (value % 256 ^ width).toNat

def RoleStatus.code : RoleStatus → Int
  | live => 1
  | dead => 2
  | offline => 3

/-- A record of the packet has fifteen bytes. -/
def EndInfo.bytes (info : EndInfo) : List UInt8 :=
  memory 1 info.roleFlag ++ memory 4 info.roleType ++ memory 4 info.roleID ++
    memory 1 info.opposition ++ memory 1 info.live.code ++ memory 2 info.hp ++ memory 2 info.mp

namespace PKPE

/-- The players and the pets are reported in the order of their keys. -/
def reported (battle : PKPE) : List Int :=
  battle.ids.filter fun id =>
    (battle.role id).roleFlag = roleTypePlayer ∨ (battle.role id).roleFlag = roleTypePet

/-- This is the body of the packet. The buffer has twelve bytes for each of thirty roles, and records
behind its end overwrite other memory. -/
def endGamePacket (battle : PKPE) (winOpposition : Int) : Option (List UInt8) :=
  let records := battle.reported.map battle.endInfo
  if 30 * 12 < 15 * records.length then none
  else
    some (memory 4 battle.pkID ++ memory 2 battle.mapID ++ memory 1 winOpposition ++
      memory 2 records.length ++ records.flatMap EndInfo.bytes)

end PKPE

def lenPkgHead : Int := 15

/-- This is `PkgHead::packet` for a request from the server to a client. Nothing sets `uiUniqID`. -/
def pkgHead (usPkgLen srvReq usMsgType uiUniqID uiRoleID : Int) : List UInt8 :=
  memory 2 usPkgLen ++ memory 1 3 ++ memory 1 2 ++ memory 1 srvReq ++ memory 2 usMsgType ++
    memory 4 uiUniqID ++ memory 4 uiRoleID

/-- These are the points in `sRespBuff`, with `pos_len` and `turn_point`. -/
structure MoveBuff where
  points : List UInt8
  posLen : Int
  turnPoint : Int
  deriving DecidableEq, Repr

namespace MoveBuff

def start : MoveBuff := ⟨[], lenPkgHead + 4 + 4 + 4 + 2, 0⟩

/-- The buffer has 256 bytes, and bytes behind its end overwrite other memory. -/
def put (buff : MoveBuff) (pos : Pos) : Option MoveBuff :=
  if 256 < buff.posLen + 4 then none
  else
    some ⟨buff.points ++ (memory 2 pos.x ++ memory 2 pos.y), short (buff.posLen + 4),
      short (buff.turnPoint + 1)⟩

/-- The cells at which the direction changes are written, and then the last cell. Two equal cells in
a row give no packet. -/
def compress : Int → List Pos → MoveBuff → Option MoveBuff
  | _, [], buff => some buff
  | _, [last], buff => buff.put last
  | direct, pos :: next :: line, buff =>
      let current := getDirect next pos
      if current = 0 then none
      else if current = direct then compress direct (next :: line) buff
      else (buff.put pos).bind (compress current (next :: line))

end MoveBuff

/-- The number of points stands in front of them. -/
def moveBytes (id now : Int) (mini : Pos) (buff : MoveBuff) : List UInt8 :=
  memory 4 id ++ memory 4 now ++ memory 2 mini.x ++ memory 2 mini.y ++ memory 2 buff.turnPoint ++
    buff.points

/-- The packet that `AStar` sends to the player with this `ControlID`. -/
def movePacket (srvReq uiUniqID controlID id now : Int) (mini : Pos) (direct : Int)
    (line : List Pos) : Option (List UInt8) :=
  match line with
  | [] => none
  | first :: _ =>
      ((MoveBuff.start.put first).bind (MoveBuff.compress direct line)).map fun buff =>
        pkgHead buff.posLen srvReq 103 uiUniqID controlID ++ moveBytes id now mini buff

end AppSvr.PkServer
