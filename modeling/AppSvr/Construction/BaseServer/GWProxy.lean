/-
This file defines the proxy that keeps one connection to every gateway, how a session sends a
buffer, and how the proxy sends one packet to many roles.
-/

import AppSvr.Construction.BaseServer.Session

namespace AppSvr.BaseServer

/-- The configuration names the buffer sizes, and `Init` opens one socket for every gateway. -/
structure ProxyConf where
  bufferSize : UInt32
  maxMsgSize : UInt32
  handles : List Int
  distinct : handles.Nodup
  natural : ∀ handle ∈ handles, 0 ≤ handle

/-- `Open` asks for a socket and binds it. -/
structure Opened where
  socket : Int
  bound : Bool
  deriving DecidableEq, Repr

/-- The tables follow the source. The proxy names a gateway by its place in `_gateways`, which has
`count` of them; `pfds` lists the descriptors of the poll table. `sockets` is the descriptor table
of the process: an open socket has a connection behind it or none. -/
structure GWProxy where
  stoped : Bool
  gateways : Nat → Session
  count : Nat
  pfds : Nat → Int
  pollsize : Nat
  needconns : Int
  packets : List (Nat × List UInt8)
  sockets : Int → Option (Option Client)
  connections : Client

namespace GWProxy

/-- `GetConf` and `Init` leave every gateway with an open socket and an empty buffer. -/
def initial (conf : ProxyConf) : GWProxy where
  stoped := false
  gateways gateway :=
    { Session.new with
      handle := conf.handles.getD gateway (-1)
      inBuffer := .new conf.bufferSize }
  count := conf.handles.length
  pfds _ := -1
  pollsize := 0
  needconns := conf.handles.length
  packets := []
  sockets fd := if fd ∈ conf.handles then some none else none
  connections := 0

variable (proxy : GWProxy) (gateway : Nat)

def findSession (fd : Int) : Option Nat :=
  (List.range proxy.count).find? fun gateway => (proxy.gateways gateway).handle = fd

/-- `Connect` tries every gateway that is not connected; this is one successful try. -/
def connect : GWProxy :=
  let session := proxy.gateways gateway
  { proxy with
    gateways := Function.update proxy.gateways gateway
      { session with eventIndex := proxy.pollsize, connected := true }
    pfds := Function.update proxy.pfds proxy.pollsize session.handle
    pollsize := proxy.pollsize + 1
    needconns := proxy.needconns - 1
    sockets := Function.update proxy.sockets session.handle (some (some proxy.connections))
    connections := proxy.connections + 1 }

/-- `Open` gives the session a new socket. -/
def reopen (opened : Opened) : GWProxy :=
  { proxy with
    gateways := Function.update proxy.gateways gateway
      { proxy.gateways gateway with handle := opened.socket }
    sockets :=
      if opened.socket < 0 then proxy.sockets
      else Function.update proxy.sockets opened.socket (some none)
    needconns :=
      if opened.socket < 0 ∨ opened.bound = false then proxy.needconns
      else proxy.needconns + 1 }

/-- The last slot moves into the slot of the closed gateway, which opens a new socket. -/
def closeSession (opened : Opened) : GWProxy :=
  let session := proxy.gateways gateway
  let proxy := { proxy with
    gateways := Function.update proxy.gateways gateway session.shutdown
    sockets := Function.update proxy.sockets session.handle none
    pollsize := proxy.pollsize - 1 }
  let moved :=
    if session.eventIndex < proxy.pollsize then
      let fd := proxy.pfds proxy.pollsize
      let proxy := { proxy with pfds := Function.update proxy.pfds session.eventIndex fd }
      match proxy.findSession fd with
      | none => { proxy with stoped := true }
      | some s =>
          { proxy with
            gateways := Function.update proxy.gateways s
              { proxy.gateways s with eventIndex := session.eventIndex } }
    else proxy
  if moved.stoped then moved else moved.reopen gateway opened

/-- The result is minus one when the gateway was closed. -/
def onRecv (maxMsgSize : UInt32) (proxy : GWProxy) (gateway : Nat) (first second : Recv)
    (opened : Opened) : Int × GWProxy :=
  let received := (proxy.gateways gateway).onRecv maxMsgSize first second
  let proxy := { proxy with
    gateways := Function.update proxy.gateways gateway received.session
    packets := proxy.packets ++ received.packet.toList.map fun packet => (gateway, packet) }
  if received.closes then (-1, proxy.closeSession gateway opened) else (0, proxy)

/-- The main thread connects, and reads or closes the gateway in a slot of the poll table; a worker
thread takes a packet; another thread stops the proxy. -/
inductive Event where
  | connect (gateway : Nat)
  | onRecv (slot : Nat) (first second : Recv) (opened : Opened)
  | closeSession (slot : Nat) (opened : Opened)
  | popPacket
  | stop
  deriving DecidableEq, Repr

/-- A poll slot inside the table names its gateway. -/
def polled (slot : Nat) : Option Nat :=
  if slot < proxy.pollsize then proxy.findSession (proxy.pfds slot) else none

/-- This is the connection behind the socket of a gateway. -/
def peer : Option Client :=
  (proxy.sockets (proxy.gateways gateway).handle).join

/-- A new socket is not open, except under the descriptor that the gateway gives up. -/
def opens (opened : Opened) : Bool :=
  decide (opened.socket < 0) || decide (opened.socket = (proxy.gateways gateway).handle) ||
    (proxy.sockets opened.socket).isNone

/-- Only a connected socket delivers bytes. -/
def delivers : Recv → Bool
  | .data _ => (proxy.peer gateway).isSome
  | .peerClosed | .wouldBlock | .error => true

def step (maxMsgSize : UInt32) (proxy : GWProxy) : Event → Option GWProxy
  | .connect gateway =>
      if gateway < proxy.count ∧ (proxy.gateways gateway).connected = false ∧
          proxy.sockets (proxy.gateways gateway).handle = some none then
        some (proxy.connect gateway)
      else none
  | .onRecv slot first second opened =>
      (proxy.polled slot).bind fun gateway =>
        if (proxy.gateways gateway).fits first second && proxy.delivers gateway first &&
            proxy.opens gateway opened then
          some (proxy.onRecv maxMsgSize gateway first second opened).2
        else none
  | .closeSession slot opened =>
      (proxy.polled slot).bind fun gateway =>
        if proxy.opens gateway opened then some (proxy.closeSession gateway opened) else none
  | .popPacket =>
      match proxy.packets with
      | _ :: rest => some { proxy with packets := rest }
      | [] => none
  | .stop => some { proxy with stoped := true }

end GWProxy

/-- The source tells three error numbers apart from all others. -/
inductive Errno where
  | ewouldblock
  | eagain
  | eintr
  | other
  deriving DecidableEq, Repr

/-- The kernel takes one byte and at most so many more, or the call of `send` fails. -/
inductive SendAnswer where
  | took (more : Nat)
  | failed (errno : Errno)
  deriving DecidableEq, Repr

/-- The socket is ready, or the call of `poll` fails. The call has no time limit. -/
inductive PollAnswer where
  | ready
  | failed (errno : Errno)
  deriving DecidableEq, Repr

/-- The kernel gives these answers. After them it takes everything and is always ready. A call that
succeeds does not touch the error number. -/
structure Kernel where
  sends : List SendAnswer
  polls : List PollAnswer
  errno : Errno
  deriving DecidableEq, Repr

/-- The result is the number of bytes or minus one. -/
def Kernel.send (kernel : Kernel) (size : Nat) : Int × Kernel :=
  match kernel.sends with
  | [] => (size, kernel)
  | .took more :: sends => (min (more + 1) size, { kernel with sends })
  | .failed errno :: sends => (-1, { kernel with sends, errno })

/-- The result is the number of ready sockets or minus one. -/
def Kernel.poll (kernel : Kernel) : Int × Kernel :=
  match kernel.polls with
  | [] => (1, kernel)
  | .ready :: polls => (1, { kernel with polls })
  | .failed errno :: polls => (-1, { kernel with polls, errno })

namespace Session

/-- The loop may run forever, so it has a bound on its rounds. -/
def waitSend : (fuel : Nat) → Kernel → Option (Int × Kernel)
  | 0, _ => none
  | fuel + 1, kernel =>
      let (result, kernel) := kernel.poll
      if result = 0 then some (0, kernel)
      else if kernel.errno ≠ .eintr then some (-1, kernel)
      else waitSend fuel kernel

/-- One call ends with a code. `handed` lists the bytes that the kernel has taken. -/
structure Sent where
  code : Int
  kernel : Kernel
  buffer : DataBuffer
  handed : List UInt8
  deriving DecidableEq, Repr

/-- The last part is sent without a move of the read pointer. -/
def sendProc : (fuel : Nat) → (size : Nat) → Kernel → DataBuffer → (handed : List UInt8) →
    Option Sent
  | 0, _, _, _, _ => none
  | fuel + 1, size, kernel, buffer, handed =>
      let (bytes, kernel) := kernel.send size
      if bytes = size then some ⟨0, kernel, buffer, handed ++ buffer.unread.take size⟩
      else if 0 ≤ bytes then
        sendProc fuel (size - bytes.toNat) kernel (buffer.moveReadPtr bytes.toNat).2
          (handed ++ buffer.unread.take bytes.toNat)
      else if kernel.errno ∈ [.ewouldblock, .eagain, .eintr] then
        match waitSend fuel kernel with
        | none => none
        | some (result, kernel) =>
            if result < 0 then some ⟨-1, kernel, buffer, handed⟩
            else sendProc fuel size kernel buffer handed
      else some ⟨-1, kernel, buffer, handed⟩

/-- The lock keeps other threads out and changes nothing else. -/
def send (fuel : Nat) (kernel : Kernel) (buffer : DataBuffer) : Option Sent :=
  sendProc fuel buffer.getDataSize kernel buffer []

end Session

namespace GWProxy

open LittleEndian

/-- Every gateway has the number one, so the first of them is found. -/
def findSessionByID (proxy : GWProxy) : Option Session :=
  if 0 < proxy.count then some (proxy.gateways 0) else none

/-- One call for a list of roles ends with a code. `handed` lists what each call of `Send` has given
to the kernel. -/
structure Broadcasted where
  code : Int
  kernel : Kernel
  buffer : DataBuffer
  handed : List (List UInt8)
  deriving DecidableEq, Repr

/-- The loop over the roles goes on without a gateway, and it does not look at the result of the
last move. -/
def broadcastLoop (fuel : Nat) (proxy : GWProxy) (dataSize : Nat) :
    List UInt32 → Kernel → DataBuffer → (handed : List (List UInt8)) → Option Broadcasted
  | [], kernel, buffer, handed => some ⟨0, kernel, buffer, handed⟩
  | roleID :: lrid, kernel, buffer, handed =>
      match proxy.findSessionByID with
      | none => broadcastLoop fuel proxy dataSize lrid kernel buffer handed
      | some _ =>
          match Session.send fuel kernel (buffer.patch 11 (encode 4 roleID.toNat)) with
          | none => none
          | some sent =>
              if sent.code ≠ 0 then some ⟨-1, sent.kernel, sent.buffer, handed ++ [sent.handed]⟩
              else broadcastLoop fuel proxy dataSize lrid sent.kernel
                (sent.buffer.moveReadPtrBack dataSize).2 (handed ++ [sent.handed])

/-- The two overloads differ in the type of the list only. -/
def broadcast (fuel : Nat) (proxy : GWProxy) (lrid : List UInt32) (kernel : Kernel)
    (buffer : DataBuffer) : Option Broadcasted :=
  broadcastLoop fuel proxy buffer.getDataSize lrid kernel buffer []

end GWProxy

end AppSvr.BaseServer
