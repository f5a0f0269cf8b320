/-
This file defines the packets of a battle with the local buffers in which they are built, and the
bytes of the message that starts a battle.
-/

import AppSvr.Construction.PkServer.Battle
import AppSvr.Construction.PkServer.MovePacket
import AppSvr.ToMathlib.LocalBuffers

namespace AppSvr.PkServer
open LocalBuffers

/-- The fields of a head that no message decides. Nothing sets `uiUniqID`. -/
structure Sender where
  srvReq : Int
  uiUniqID : Int
  /-- This is the player that gets the packet. -/
  controlID : Int

/-- A message can have a buffer of its own, from which it is copied. -/
structure Packet where
  message : Buffer
  buffer : Buffer
  usPkgLen : Int

def maxRoleCount : Nat := 30

/-- This is `PkgHead::packet` for any direction. The heads to the clients are `pkgHead`. -/
def packetHead (usPkgLen ucDirection ucSrvType ucSrvSeq usMsgType uiUniqID uiRoleID : Int) :
    List UInt8 :=
  memory 2 usPkgLen ++ memory 1 ucDirection ++ memory 1 ucSrvType ++ memory 1 ucSrvSeq ++
    memory 2 usMsgType ++ memory 4 uiUniqID ++ memory 4 uiRoleID

/-- Most packets have a buffer for the head and a body of that size. -/
def broadcast (sender : Sender) (size : Nat) (usMsgType : Int) (body : List UInt8) : Packet :=
  let usPkgLen := ushort (lenPkgHead + size)
  ⟨⟨0, []⟩, ⟨15 + size, pkgHead usPkgLen sender.srvReq usMsgType sender.uiUniqID sender.controlID ++
    body⟩, usPkgLen⟩

/-- The number that a change of health has for its source. -/
def HpEffect.source : HpEffect → Int
  | miss | normal | twice => 1
  | skill _ => 2

def HpEffect.code : HpEffect → Int
  | normal => 1
  | miss => 2
  | twice => 3
  | skill type => type.code

section Messages

variable (sender : Sender) (now : Int)

def broadcastBegin : Packet := broadcast sender 0 102 []

def brodacastAttack (role passive : Int) : Packet :=
  broadcast sender 12 104 (memory 4 role ++ memory 4 now ++ memory 4 passive)

def brodacastHpChange (role hp : Int) (effect : HpEffect) : Packet :=
  broadcast sender 13 130
    (memory 4 role ++ memory 4 now ++ memory 2 hp ++ memory 1 effect.source ++
      memory 2 effect.code)

def brodacastMpChange (role mp effect : Int) : Packet :=
  broadcast sender 12 129 (memory 4 role ++ memory 4 now ++ memory 2 mp ++ memory 2 effect)

variable (role : Int)

def brodacastDead : Packet := broadcast sender 4 107 (memory 4 role)

def brodacastStop (pos mini : Pos) : Packet :=
  broadcast sender 16 108
    (memory 4 role ++ memory 4 now ++ memory 2 pos.x ++ memory 2 pos.y ++ memory 2 mini.x ++
      memory 2 mini.y)

/-- A position takes as many bytes as a role. -/
def brodacastSkill (role type targetType : Int) (target : Pos ⊕ Int) : Packet :=
  let targetBytes := match target with
    | .inl pos => memory 2 pos.x ++ memory 2 pos.y
    | .inr id => memory 4 id
  broadcast sender 15 118
    (memory 4 role ++ memory 4 now ++ memory 2 type ++ memory 1 targetType ++ targetBytes)

def brodacastSkillBuffer (type : BufferType) (skill : SkillType)
    (keepTime param1 param2 : Int) : Packet :=
  broadcast sender 22 119
    (memory 4 role ++ memory 2 type.code ++ memory 2 skill.code ++ memory 4 now ++
      memory 2 keepTime ++ memory 4 param1 ++ memory 4 param2)

def brodacastBufferRun (skill : SkillType) (beginTime : Int) : Packet :=
  broadcast sender 14 121
    (memory 4 role ++ memory 2 skill.code ++ memory 4 now ++ memory 4 beginTime)

def brodacastBufferStop (type : BufferType) (skill : SkillType) (beginTime : Int) : Packet :=
  broadcast sender 16 122
    (memory 4 role ++ memory 2 type.code ++ memory 2 skill.code ++ memory 4 beginTime ++
      memory 4 now)

def brodacastRoleLocationOffset (target : Pos) (skill : SkillType) : Packet :=
  broadcast sender 14 128
    (memory 4 role ++ memory 4 now ++ memory 2 target.x ++ memory 2 target.y ++
      memory 2 skill.code)

def broadcastFightEnd : Packet := broadcast sender 4 127 (memory 4 now)

/-- The five builders of the message write the same fields. -/
def newRoleMsg (role : RoleState) (keepTime copiedID : Int) (effect : SkillType) : List UInt8 :=
  memory 4 role.roleID ++ memory 4 now ++ memory 2 keepTime ++ memory 4 role.controlID ++
    memory 1 role.roleFlag ++ memory 4 role.roleType ++ memory 4 copiedID ++
    memory 2 role.physicalAttrib.attackBulletMod ++ memory 2 role.hpMax ++ memory 2 role.mpMax ++
    memory 2 role.hp ++ memory 2 role.mp ++ memory 2 role.moveAttrb.speedModBase ++
    memory 2 role.moveAttrb.currentPos.x ++ memory 2 role.moveAttrb.currentPos.y ++
    memory 2 effect.code

/-- The message is copied from `new_role_msg`, which has one byte for the end of a string. -/
def brodacastSkillNewrole (role : RoleState) (keepTime copiedID : Int) (effect : SkillType) :
    Packet :=
  let message := newRoleMsg now role keepTime copiedID effect
  { broadcast sender 41 126 message with message := ⟨39 + 1, message⟩ }

/-- The targets come with their losses of health. -/
def brodacastMultiHurt (targets : List (Int × Int)) (effect : SkillType) : Packet :=
  let roleNum := short targets.length
  let usPkgLen := ushort (lenPkgHead + 2 + roleNum * 6 + 2 + 4)
  ⟨⟨0, []⟩, ⟨15 + 2 + maxRoleCount * 6 + 2 + 4,
    (pkgHead usPkgLen sender.srvReq 109 sender.uiUniqID sender.controlID ++ memory 2 roleNum) ++
      (targets.flatMap (fun target => memory 4 target.1 ++ memory 2 target.2) ++
        (memory 4 now ++ memory 2 effect.code))⟩, usPkgLen⟩

/-- This is `sRespBuff` of `AStar`. -/
def moveResp (mini : Pos) (points : List Pos) : Packet :=
  let posLen := short (lenPkgHead + 4 + 4 + 4 + 2 + 4 * points.length)
  ⟨⟨0, []⟩, ⟨256,
    (pkgHead posLen sender.srvReq 103 sender.uiUniqID sender.controlID ++
      (memory 4 role ++ memory 4 now ++ memory 2 mini.x ++ memory 2 mini.y ++
        memory 2 (short points.length))) ++
      (points.flatMap (fun pos => memory 2 pos.x ++ memory 2 pos.y) ++ [])⟩, ushort posLen⟩

/-- The answer to a player goes by the identifier of its role. Nothing sets `ucSrvSeq`. -/
def readyResp : Packet :=
  let usPkgLen := lenPkgHead + 4
  ⟨⟨0, []⟩, ⟨15 + 4 + 1, packetHead usPkgLen 2 2 sender.srvReq 101 sender.uiUniqID role ++
    memory 4 0⟩, usPkgLen⟩

/-- This is the report of `EndGame` for the exchange server. Nothing sets `uiRoleID`. -/
def endGameReport (pkID mapID winOpposition : Int) (records : List EndInfo) : Packet :=
  let bufferPos := lenPkgHead + 2 + 1 + 2 + 4 + 15 * records.length
  ⟨⟨0, []⟩, ⟨15 + 4 + 2 + 1 + 2 + maxRoleCount * 12,
    (packetHead (ushort bufferPos) 5 1 1 201 sender.uiUniqID sender.controlID ++
      (memory 4 pkID ++ memory 2 mapID ++ memory 1 winOpposition ++ memory 2 records.length)) ++
      (records.flatMap EndInfo.bytes ++ [])⟩, ushort bufferPos⟩

end Messages

/-- The packet of a message. -/
def Broadcast.packet (sender : Sender) (now : Int) : Broadcast → Packet
  | begin => broadcastBegin sender
  | attack role passive => brodacastAttack sender now role passive
  | move role mini turnPoints => moveResp sender now role mini turnPoints
  | multiHurt targets effect => brodacastMultiHurt sender now targets effect
  | hpChange role hp effect => brodacastHpChange sender now role hp effect
  | mpChange role mp effect => brodacastMpChange sender now role mp effect
  | dead role => brodacastDead sender role
  | stop role pos mini => brodacastStop sender now role pos mini
  | skill role type targetType target => brodacastSkill sender now role type targetType target
  | skillBuffer role type parentSkill keepTime param1 param2 =>
      brodacastSkillBuffer sender now role type parentSkill keepTime param1 param2
  | newRole role keepTime copiedID effect =>
      brodacastSkillNewrole sender now role keepTime copiedID effect
  | bufferRun role parentSkill beginTime =>
      brodacastBufferRun sender now role parentSkill beginTime
  | bufferStop role type parentSkill beginTime =>
      brodacastBufferStop sender now role type parentSkill beginTime
  | locationOffset role target parentSkill =>
      brodacastRoleLocationOffset sender now role target parentSkill
  | ready role => readyResp sender role
  | fightEnd => broadcastFightEnd sender now
  | endGame pkID mapID winOpposition records =>
      endGameReport sender pkID mapID winOpposition records

section Begin

/-- The number in a field of the message. -/
def field (input : List UInt8) (place width : Nat) : Int :=
  LittleEndian.decode ((input.drop place).take width)

/-- A skill takes three bytes. -/
def readSkills : Nat → List UInt8 → Option (List (Int × Int) × List UInt8)
  | 0, input => some ([], input)
  | count + 1, input =>
      if input.length < 3 then none
      else
        (readSkills count (input.drop 3)).map fun others =>
          ((short (field input 0 2), char (field input 2 1)) :: others.1, others.2)

/-- A role takes sixty-one bytes in front of its skills. The strength and the agility are skipped. -/
def readRole (input : List UInt8) : Option (RoleInput × List UInt8) :=
  if input.length < 61 then none
  else
    (readSkills (field input 59 2).toNat (input.drop 61)).map fun skills =>
      ({ controlID := int (field input 0 4)
         roleID := int (field input 4 4)
         level := field input 8 2
         opposition := field input 10 1
         roleFlag := field input 11 1
         roleType := int (field input 12 4)
         hpMax := field input 16 2
         mpMax := field input 18 2
         hp := field input 20 2
         mp := field input 22 2
         speedModBase := field input 24 2
         currentPos := ⟨field input 26 2, field input 28 2⟩
         direct := field input 30 1
         attackPowerHignBase := field input 31 2
         attackPowerLowBase := field input 33 2
         attackArea := field input 35 2
         attackCDTimeBase := field input 37 2
         attackIngTime := field input 39 2
         attackBulletMod := field input 41 2
         attackHitBase := field input 43 2
         defenseMissBase := field input 45 2
         attackCritBase := field input 47 2
         defenseArmorBase := field input 49 2
         magicArmorBase := field input 51 2
         wisdom := field input 57 2
         skills := skills.1 }, skills.2)

def readRoles : Nat → List UInt8 → Option (List RoleInput × List UInt8)
  | 0, input => some ([], input)
  | count + 1, input =>
      (readRole input).bind fun role =>
        (readRoles count role.2).map fun others => (role.1 :: others.1, others.2)

/-- These are the roles of the message for `Init`, and the bytes behind them. The position in the
message is a `short int`, and other positions are no part of the message. -/
def readBegin (input : List UInt8) : Option (List RoleInput × List UInt8) :=
  if input.length < 12 then none
  else
    (readRoles (short (field input 10 2)).toNat (input.drop 12)).filter fun read =>
      input.length - read.2.length ≤ 32767

/-- This is `broadcast_begin`. `Init` has moved roles in its input by then, which keeps the length. -/
def broadcastReady (sender : Sender) (pkID mapX mapY : Int) (input : List UInt8) : Packet :=
  let usPkgLen := ushort (lenPkgHead + 4 + 2 + 2 + 1 + input.length - 6)
  ⟨⟨0, []⟩, ⟨15 + 4 + 2 + 2 + 1 + 2 + maxRoleCount * 61 + 1,
    pkgHead usPkgLen sender.srvReq 101 sender.uiUniqID sender.controlID ++
      (memory 4 pkID ++ memory 2 mapX ++ memory 2 mapY ++ memory 1 sender.srvReq ++
        input.drop 10)⟩, usPkgLen⟩

end Begin

end AppSvr.PkServer
