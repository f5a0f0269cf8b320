/-
This file defines the session of a server connection and its packet reader.
-/

import AppSvr.Construction.BaseServer.DataBuffer
import AppSvr.ToMathlib.LittleEndian

namespace AppSvr.BaseServer

open LittleEndian

/-- A session pointer names one session object; the server recycles these objects. -/
abbrev SessionPtr := Nat

/-- Every accepted connection has its own number. -/
abbrev Client := Nat

/-- `poll` reports only these flags for a slot that asks for `POLLIN`. -/
structure Revents where
  pollIn : Bool
  pollErr : Bool
  pollHup : Bool
  pollNval : Bool
  deriving DecidableEq, Repr

namespace Revents

def none : Revents := ⟨false, false, false, false⟩

/-- The error flags are tested together. -/
def failed (revents : Revents) : Bool := revents.pollErr || revents.pollHup || revents.pollNval

/-- The flags are not all zero. -/
def any (revents : Revents) : Bool := revents.pollIn || revents.failed

end Revents

structure PollFd where
  fd : Int
  revents : Revents
  deriving DecidableEq, Repr

/-- A packet header has this many bytes. -/
def packetHeaderLength : Nat := 15

/-- The kernel answers `recv` with bytes, an orderly shutdown, `EAGAIN`, or another error. -/
inductive Recv where
  | data (bytes : List UInt8)
  | peerClosed
  | wouldBlock
  | error
  deriving DecidableEq, Repr

/-- The kernel delivers at least one byte and at most `left` bytes. -/
def Recv.fits (left : Nat) : Recv → Bool
  | .data bytes => decide (0 < bytes.length) && decide (bytes.length ≤ left)
  | .peerClosed | .wouldBlock | .error => true

/-- The session fields follow the source; `packetLength` is zero until a header is complete. -/
structure Session where
  handle : Int
  eventIndex : Nat
  connected : Bool
  packetLength : UInt16
  inBuffer : DataBuffer
  deriving DecidableEq, Repr

namespace Session

/-- The constructor opens no socket and allocates no buffer. -/
def new : Session where
  handle := -1
  eventIndex := 0
  connected := false
  packetLength := 0
  inBuffer := .new 0

/-- `Shutdown` closes the socket and empties the buffer. The packet length stays. -/
def shutdown (session : Session) : Session :=
  { session with connected := false, inBuffer := session.inBuffer.reset }

/-- The first `recv` asks for the rest of the header or of the packet. -/
def left (session : Session) : Nat :=
  if session.packetLength = 0 then packetHeaderLength - session.inBuffer.getDataSize
  else session.packetLength.toNat - session.inBuffer.getDataSize

def moveWritePtr (session : Session) (bytes : List UInt8) : Session :=
  { session with inBuffer := (session.inBuffer.moveWritePtr bytes).2 }

/-- The header starts with the packet length. -/
def headerLength (memory : List UInt8) : UInt16 := UInt16.ofNat (decode (memory.take 2))

/-- One call leaves a session, may ask to close it, and may push a packet. `bytes` lists what its
calls of `recv` returned. -/
structure Received where
  session : Session
  closes : Bool
  packet : Option (List UInt8)
  bytes : List UInt8
  deriving DecidableEq, Repr

/-- A whole packet is copied out, and the next header starts in an empty buffer. -/
def pushWhole (session : Session) (datasize : Nat) (length : UInt16) (bytes : List UInt8) :
    Received :=
  if datasize = length.toNat then
    { session := { session with packetLength := 0, inBuffer := session.inBuffer.reset }
      closes := false
      packet := some (session.inBuffer.unread.take length.toNat)
      bytes }
  else { session, closes := false, packet := none, bytes }

/-- A complete header is checked, and its packet is asked for at once. -/
def onRecv (maxMsgSize : UInt32) (session : Session) (first second : Recv) : Received :=
  match first with
  | .data bytes =>
      let received := session.moveWritePtr bytes
      let datasize := session.inBuffer.getDataSize + bytes.length
      if session.packetLength = 0 ∧ packetHeaderLength ≤ datasize then
        let length := headerLength (session.inBuffer.unread ++ bytes)
        if length.toNat < packetHeaderLength ∨ maxMsgSize.toNat < length.toNat then
          { session := received, closes := true, packet := none, bytes }
        else
          let headed := { received with packetLength := length }
          if datasize < length.toNat then
            match second with
            | .data more =>
                (headed.moveWritePtr more).pushWhole (datasize + more.length) length (bytes ++ more)
            | .wouldBlock => { session := headed, closes := false, packet := none, bytes }
            | .peerClosed | .error =>
                { session := headed, closes := true, packet := none, bytes }
          else headed.pushWhole datasize length bytes
      else received.pushWhole datasize session.packetLength bytes
  | .wouldBlock => { session, closes := false, packet := none, bytes := [] }
  | .peerClosed | .error => { session, closes := true, packet := none, bytes := [] }

/-- The answers fit the two calls of `recv`; the second one asks for the rest of the packet. -/
def fits (session : Session) (first second : Recv) : Bool :=
  first.fits session.left && match first with
    | .data bytes =>
        second.fits ((headerLength (session.inBuffer.unread ++ bytes)).toNat -
          (session.inBuffer.getDataSize + bytes.length))
    | .peerClosed | .wouldBlock | .error => true

end Session

end AppSvr.BaseServer
