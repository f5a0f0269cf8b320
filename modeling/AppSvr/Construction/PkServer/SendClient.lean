/-
This file defines how the battles send their messages to the gateway through one socket.
-/

import Mathlib.Logic.Function.Basic

namespace AppSvr.PkServer

/-- The kernel takes some bytes, or `send` returns minus one with one of these errors. -/
inductive SendResult where
  | sent (count : Nat)
  | again
  | interrupted
  | failed
  deriving DecidableEq, Repr

/-- This is a call of `send_client` with the number of bytes that were sent. `returned` is the result
of `send_buff`. -/
structure SentMessage where
  message : List UInt8
  sent : Nat
  returned : Option Int
  deriving DecidableEq, Repr

/-- This is the call that holds the lock. It remembers the descriptor, while `connection` is the
connection that it had when the call began. -/
structure Sending where
  fd : Int
  connection : Option Nat
  message : List UInt8
  sent : Nat
  deriving DecidableEq, Repr

/-- Every descriptor leads to a connection or is closed. The connections are numbered in the order
of their creation, and `calls` are the ended calls that began on a connection. -/
structure GatewayLink where
  fdGw : Int
  sockets : Int → Option Nat
  created : Nat
  written : Nat → List UInt8
  calls : Nat → List SentMessage
  sending : Option Sending

namespace GatewayLink

def initial : GatewayLink := ⟨-1, fun _ => none, 0, fun _ => [], fun _ => [], none⟩

/-- The battle threads call `send_client`; the kernel answers the calls of `send`. The main thread
accepts and closes connections and connects to the gateway. -/
inductive Event where
  | sendClient (message : List UInt8)
  | send (result : SendResult)
  | handleAccept (fd : Int)
  | handleTcpClose (fd : Int)
  | connectGw (fd : Int)
  deriving DecidableEq, Repr

variable (link : GatewayLink)

/-- The current connection to the gateway. -/
def current : Option Nat := link.sockets link.fdGw

/-- A call that gets the lock reads the descriptor of the gateway. -/
def sendClient (message : List UInt8) : GatewayLink :=
  { link with sending := some ⟨link.fdGw, link.current, message, 0⟩ }

/-- The call returns and gives the lock back. -/
def sendReturns (call : Sending) (returned : Int) : GatewayLink :=
  { link with
    sending := none
    calls := match call.connection with
      | none => link.calls
      | some connection => Function.update link.calls connection
          (link.calls connection ++ [⟨call.message, call.sent, some returned⟩]) }

/-- The bytes go to the connection that the descriptor has now. -/
def sendBytes (call : Sending) (connection count : Nat) : GatewayLink :=
  { link with
    sending := some { call with sent := call.sent + count }
    written := Function.update link.written connection
      (link.written connection ++ (call.message.drop call.sent).take count) }

/-- This is one pass through the loop of `send_buff`. -/
def sendBuff (call : Sending) : SendResult → Option GatewayLink
  | .sent count =>
      match link.sockets call.fd with
      | none => none
      | some connection =>
          let total := call.message.length - call.sent
          if count ≤ total ∧ (0 < count ∨ total = 0) then
            if count = total then
              some ((link.sendBytes call connection count).sendReturns
                { call with sent := call.sent + count } call.message.length)
            else some (link.sendBytes call connection count)
          else none
  | .again => (link.sockets call.fd).map fun _ => link
  | .interrupted | .failed => some (link.sendReturns call (-1))

/-- A new connection takes a descriptor that is closed. -/
def opened (fd : Int) : GatewayLink :=
  { link with
    sockets := Function.update link.sockets fd (some link.created)
    created := link.created + 1 }

/-- `remove_session` forgets the descriptor of the gateway when it is the closed one. -/
def handleTcpClose (fd : Int) : GatewayLink :=
  { link with
    sockets := Function.update link.sockets fd none
    fdGw := if link.fdGw = fd then -1 else link.fdGw }

/-- The main thread connects only while it has no gateway. -/
def connectGw (fd : Int) : GatewayLink := { link.opened fd with fdGw := fd }

def step : Event → Option GatewayLink
  | .sendClient message =>
      match link.sending with
      | none => some (link.sendClient message)
      | some _ => none
  | .send result => link.sending.bind fun call => link.sendBuff call result
  | .handleAccept fd =>
      if 0 ≤ fd ∧ link.sockets fd = none then some (link.opened fd) else none
  | .handleTcpClose fd =>
      if link.sockets fd = none then none else some (link.handleTcpClose fd)
  | .connectGw fd =>
      if link.fdGw ≤ 0 ∧ 0 ≤ fd ∧ link.sockets fd = none then some (link.connectGw fd) else none

end GatewayLink

end AppSvr.PkServer
