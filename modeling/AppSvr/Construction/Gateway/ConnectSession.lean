/-
This file defines the packed packet header, the message buffer, the outgoing package buffer, and the
session of one gateway connection.
-/

import AppSvr.Construction.OurDef
import AppSvr.ToMathlib.LittleEndian

namespace AppSvr.Gateway
open LittleEndian

/-- The header has fifteen packed bytes. -/
structure PkgHead where
  usPkgLen : UInt16
  ucDirection : UInt8
  ucSrvType : UInt8
  ucSrvSeq : UInt8
  usMsgType : UInt16
  uiUniqID : UInt32
  uiRoleID : UInt32
  deriving DecidableEq, Repr

/-- This is `sizeof(PkgHead)`. -/
def PkgHead.size : Nat := 15

/-- The host stores every integer field in little-endian order. -/
def PkgHead.packet (head : PkgHead) : List UInt8 :=
  encode 2 head.usPkgLen.toNat ++ [head.ucDirection, head.ucSrvType, head.ucSrvSeq] ++
    encode 2 head.usMsgType.toNat ++ encode 4 head.uiUniqID.toNat ++ encode 4 head.uiRoleID.toNat

/-- This function reads `width` bytes at an offset. -/
def field (input : List UInt8) (offset width : Nat) : Nat :=
  decode ((input.drop offset).take width)

def PkgHead.unpacket (input : List UInt8) : PkgHead where
  usPkgLen := UInt16.ofNat (field input 0 2)
  ucDirection := UInt8.ofNat (field input 2 1)
  ucSrvType := UInt8.ofNat (field input 3 1)
  ucSrvSeq := UInt8.ofNat (field input 4 1)
  usMsgType := UInt16.ofNat (field input 5 2)
  uiUniqID := UInt32.ofNat (field input 7 4)
  uiRoleID := UInt32.ofNat (field input 11 4)

/-- A worker's message buffer maps each offset to its byte. -/
abbrev MsgBuffer := Nat → UInt8

/-- The copy replaces the front of the buffer and keeps the bytes behind it. -/
def MsgBuffer.copyIn (buffer : MsgBuffer) (packet : List UInt8) : MsgBuffer :=
  fun offset => packet.getD offset (buffer offset)

def MsgBuffer.read (buffer : MsgBuffer) (offset length : Nat) : List UInt8 :=
  (List.range length).map fun index => buffer (offset + index)

/-- The cast of the buffer to a header pointer reads its first fifteen bytes. -/
def MsgBuffer.head (buffer : MsgBuffer) : PkgHead :=
  PkgHead.unpacket (buffer.read 0 PkgHead.size)

/-- The outgoing package is the byte list that `_buff` holds. -/
abbrev PkgBuff := List UInt8

def PkgBuff.append (buff : PkgBuff) (input : List UInt8) : PkgBuff := buff ++ input

/-- The length field keeps the low sixteen bits of the size. -/
def PkgBuff.encodeLength (buff : PkgBuff) : PkgBuff :=
  encode 2 (UInt16.ofNat buff.length).toNat ++ buff.drop 2

/-- An answer to a client has a header and a return code. -/
def makeClientAckPkg (pkgHead : PkgHead) (uiRetCode : UInt32) : PkgBuff :=
  ((PkgBuff.append [] pkgHead.packet).append (encode 4 uiRetCode.toNat)).encodeLength

/-- The connection identifier packs the address, the port, and the descriptor. -/
def connectionId (ip : UInt32) (port : UInt16) (fd : Nat) : UInt64 :=
  let pf := (port.toUInt64 <<< 16) ||| UInt64.ofNat fd
  (ip.toUInt64 <<< 32) ||| pf

/-- The low sixteen bits of the identifier are the descriptor. -/
def connectionFd (connId : UInt64) : Int := (connId &&& 0xFFFF).toNat

/-- The high thirty-two bits of the identifier are the address. -/
def connectionIp (connId : UInt64) : UInt32 := (connId >>> 32).toUInt32

/-- The session fields follow the source; `recvBuff` holds the first `_recvLen` bytes. -/
structure ConnectSession where
  connType : TcpStream
  connID : UInt64
  recvBuff : List UInt8
  stamp : Nat
  loginStatus : UInt8
  roleID : UInt32
  isSameUser : UInt8
  srvType : UInt8
  srvSeq : UInt8
  closeFlag : UInt8
  closedNum : UInt8
  fd : Int
  deriving DecidableEq, Repr

/-- The constructor records the current time and takes the descriptor from the identifier. -/
def ConnectSession.new (connID : UInt64) (connType : TcpStream) (now : Nat) : ConnectSession where
  connType := connType
  connID := connID
  recvBuff := []
  stamp := now
  loginStatus := 0
  roleID := 0
  isSameUser := 0
  srvType := 0
  srvSeq := 0
  closeFlag := 0
  closedNum := 0
  fd := connectionFd connID

namespace ConnectSession

variable (s : ConnectSession)

def recvLen : Nat := s.recvBuff.length

/-- The first close releases the descriptor; every close raises the flag. -/
def closeConnNoLock : ConnectSession :=
  { s with
    fd := if s.closeFlag = 0 ∧ 0 < s.fd then -1 else s.fd
    closeFlag := 1
    closedNum := if s.closedNum = 0 ∨ s.closedNum = 1 then s.closedNum + 1 else s.closedNum }

/-- The kernel answers `recv` with data, no data, an error, or an orderly close. -/
inductive RecvOutcome where
  | data (bytes : List UInt8)
  | wouldBlock
  | error
  | peerClosed
  deriving DecidableEq, Repr

/-- The kernel delivers at least one byte and at most the room in the buffer. -/
def RecvOutcome.fits : RecvOutcome → Prop
  | .data bytes => 0 < bytes.length ∧ bytes.length ≤ maxSockBuff - s.recvLen
  | _ => True

instance (s : ConnectSession) (outcome : RecvOutcome) : Decidable (outcome.fits s) :=
  match outcome with
  | .data _ => inferInstanceAs (Decidable (_ ∧ _))
  | .wouldBlock | .error | .peerClosed => isTrue trivial

/-- Received bytes follow the carried ones; a failure closes the connection. -/
def recvMsg (outcome : RecvOutcome) (now : Nat) : Int × ConnectSession :=
  if s.closeFlag ≠ 0 then (-1, s)
  else match outcome with
    | .wouldBlock => (0, s)
    | .error => (-1, s.closeConnNoLock)
    | .peerClosed => (-1, s.closeConnNoLock)
    | .data bytes => (bytes.length, { s with recvBuff := s.recvBuff ++ bytes, stamp := now })

/-- The retry loop over `send` writes everything, or fails after some bytes. -/
inductive SendOutcome where
  | sent
  | failed (written : Nat)
  deriving DecidableEq, Repr

/-- A closed session refuses the buffer; the result lists the bytes the kernel took. -/
def sendMsg (buffer : List UInt8) (outcome : SendOutcome) : Int × ConnectSession × List UInt8 :=
  if s.closeFlag ≠ 0 then
    (if s.closedNum < 2 then -1 else -2, s, [])
  else match outcome with
    | .sent => (buffer.length, s, buffer)
    | .failed written => (-1, s.closeConnNoLock, buffer.take written)

/-- The largest length that the framing layer accepts. -/
def maxPkgLen : Nat := if maxSockBuff < 0xffff - 1 then maxSockBuff else 0xffff - 1

/-- A packet is copied out only when all of its declared bytes are present. -/
def checkDataPack (ptrData : MsgBuffer) : Int × ConnectSession × MsgBuffer × List UInt8 :=
  if s.recvLen < PkgHead.size then (0, s, ptrData, [])
  else
    let pkgHead := PkgHead.unpacket s.recvBuff
    let usPkgLen := pkgHead.usPkgLen.toNat
    if usPkgLen < PkgHead.size ∨ maxPkgLen < usPkgLen then (-1, s, ptrData, [])
    else if s.recvLen < usPkgLen then (0, s, ptrData, [])
    else
      let packet := s.recvBuff.take usPkgLen
      (1, { s with recvBuff := s.recvBuff.drop usPkgLen }, ptrData.copyIn packet, packet)

/-- Both connection types use the same packet check. -/
def getDataPack (ptrData : MsgBuffer) : Int × ConnectSession × MsgBuffer × List UInt8 :=
  s.checkDataPack ptrData

end ConnectSession

end AppSvr.Gateway
