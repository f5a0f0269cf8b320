/-
This file defines the server that accepts connections and queues their packets.
-/

import AppSvr.Construction.BaseServer.Session
import Std.Data.TreeMap.Lemmas

namespace AppSvr.BaseServer

/-- The poll table has this many slots. -/
def maxSession : Nat := 300

/-- The queue holds a session pointer and a packet. `client` is the connection behind the descriptor
that delivered the packet; the code does not store it. -/
structure Request where
  session : SessionPtr
  packet : List UInt8
  client : Option Client
  deriving DecidableEq, Repr

/-- The tables follow the source. `sessions` is the heap of session objects and `nextSession` is the
next one that `new` allocates. Slot zero of `pfds` watches the listening socket. `held` is the
request that each worker thread processes, and `owner` is the connection behind each open
descriptor of the process. -/
structure SSServer where
  stoped : Bool
  sessions : SessionPtr → Session
  nextSession : SessionPtr
  newSession : SessionPtr
  busySessions : Std.TreeMap Int SessionPtr
  idleSessions : List SessionPtr
  pfds : Nat → PollFd
  packets : List Request
  held : Nat → Option Request
  owner : Int → Option Client
  accepted : Client

namespace SSServer

/-- The constructor allocates the first session object. -/
def initial : SSServer where
  stoped := false
  sessions _ := .new
  nextSession := 1
  newSession := 0
  busySessions := ∅
  idleSessions := []
  pfds _ := ⟨-1, .none⟩
  packets := []
  held _ := none
  owner _ := none
  accepted := 0

variable (maxMsgSize : UInt32) (server : SSServer) (session : SessionPtr)

def findSession (fd : Int) : Option SessionPtr := server.busySessions[fd]?

/-- The new session takes the slot behind the last one, and another object becomes the new
session. -/
def insertSession : SSServer :=
  let index := server.busySessions.size + 1
  let handle := (server.sessions session).handle
  let inserted : Session :=
    { server.sessions session with
      connected := true, eventIndex := index, inBuffer := .new maxMsgSize }
  let server := { server with
    pfds := Function.update server.pfds index ⟨handle, .none⟩
    sessions := Function.update server.sessions session inserted
    busySessions := server.busySessions.insert handle session }
  match server.idleSessions with
  | idle :: rest => { server with newSession := idle, idleSessions := rest }
  | [] =>
      { server with newSession := server.nextSession, nextSession := server.nextSession + 1 }

/-- `accept` writes the new descriptor, or minus one, into the new session. -/
def accept (fd : Option Int) : SSServer :=
  if maxSession < server.busySessions.size then server
  else
    let handed (handle : Int) : Session :=
      { server.sessions server.newSession with handle }
    match fd with
    | none =>
        { server with sessions := Function.update server.sessions server.newSession (handed (-1)) }
    | some fd =>
        let server := { server with
          sessions := Function.update server.sessions server.newSession (handed fd)
          owner := Function.update server.owner fd (some server.accepted)
          accepted := server.accepted + 1 }
        server.insertSession maxMsgSize server.newSession

/-- The last slot moves into the slot of the removed session. -/
def removeSession : SSServer :=
  let removed := server.sessions session
  let size := server.busySessions.size
  let moved :=
    if removed.eventIndex < size then
      let last := server.pfds size
      let server :=
        { server with pfds := Function.update server.pfds removed.eventIndex last }
      match server.findSession last.fd with
      -- The source then dereferences the null pointer.
      | none => { server with stoped := true }
      | some s =>
          { server with
            sessions := Function.update server.sessions s
              { server.sessions s with eventIndex := removed.eventIndex } }
    else server
  { moved with
    busySessions := moved.busySessions.erase removed.handle
    idleSessions := moved.idleSessions ++ [session] }

/-- `close` releases the descriptor. -/
def closeSession : SSServer :=
  let closed := server.sessions session
  { server with
    sessions := Function.update server.sessions session closed.shutdown
    owner := Function.update server.owner closed.handle none }.removeSession session

/-- The result is minus one when the session was closed. -/
def onRecv (maxMsgSize : UInt32) (server : SSServer) (session : SessionPtr)
    (first second : Recv) : Int × SSServer :=
  let received := (server.sessions session).onRecv maxMsgSize first second
  let client := server.owner (server.sessions session).handle
  let server := { server with
    sessions := Function.update server.sessions session received.session
    packets := server.packets ++
      received.packet.toList.map fun packet => ⟨session, packet, client⟩ }
  if received.closes then (-1, server.closeSession session) else (0, server)

/-- The main thread accepts, reads and closes; a worker thread takes a request, writes to its
session any number of times, and finishes it. -/
inductive Event where
  | accept (fd : Option Int)
  | onRecv (fd : Int) (first second : Recv)
  | closeSession (fd : Int)
  | popPacket (worker : Nat)
  | send (worker : Nat)
  | finish (worker : Nat)
  deriving DecidableEq, Repr

/-- The kernel accepts on a descriptor that is not open. -/
def step : Event → Option SSServer
  | .accept fd =>
      if fd.all (fun fd => decide (0 ≤ fd) && (server.owner fd).isNone) then
        some (server.accept maxMsgSize fd)
      else none
  | .onRecv fd first second =>
      (server.findSession fd).bind fun session =>
        if (server.sessions session).fits first second then
          some (server.onRecv maxMsgSize session first second).2
        else none
  | .closeSession fd => (server.findSession fd).map server.closeSession
  | .popPacket worker =>
      match server.held worker, server.packets with
      | none, request :: rest =>
          some { server with
            packets := rest, held := Function.update server.held worker (some request) }
      | _, _ => none
  | .send worker => (server.held worker).map fun _ => server
  | .finish worker =>
      (server.held worker).map fun _ =>
        { server with held := Function.update server.held worker none }

/-- One `send` of a worker writes to the connection behind its session's descriptor, or fails. -/
def destination (request : Request) : Option Client :=
  server.owner (server.sessions request.session).handle

/-- The kernel answers `poll` with the flags of every slot, with `EINTR`, or with another error. -/
inductive PollAnswer where
  | ready (revents : Nat → Revents)
  | interrupted
  | error

/-- These are the answers of the kernel in one pass: of `poll`, of `accept`, and of the calls of
`recv` for the session that the pass handles after `handled` others. -/
structure PollPass where
  answer : PollAnswer
  accept : Option Int
  recv : (handled : Nat) → Recv × Recv

/-- The slot is read again when the session in it was closed. `handled` lists the sessions that the
pass closed or read from. -/
def pollLoop (maxMsgSize : UInt32) (recv : Nat → Recv × Recv) (server : SSServer)
    (events index : Nat) (handled : List SessionPtr) : SSServer × List SessionPtr :=
  if running : index ≤ server.busySessions.size ∧ 0 < events then
    let slot := server.pfds index
    if slot.revents.any = false then
      pollLoop maxMsgSize recv server events (index + 1) handled
    else
      match server.findSession slot.fd with
      | none => ({ server with stoped := true }, handled)
      | some session =>
          if slot.revents.failed then
            pollLoop maxMsgSize recv (server.closeSession session) (events - 1) index
              (handled ++ [session])
          else if slot.revents.pollIn then
            let server := { server with
              pfds := Function.update server.pfds index { slot with revents := .none } }
            let answers := recv handled.length
            let result := server.onRecv maxMsgSize session answers.1 answers.2
            pollLoop maxMsgSize recv result.2 (events - 1)
              (if result.1 = (0 : Int) then index + 1 else index) (handled ++ [session])
          else pollLoop maxMsgSize recv server (events - 1) (index + 1) handled
  else (server, handled)
termination_by (events, server.busySessions.size + 1 - index)

/-- The pass counts the reported slots down, the listening socket first. -/
def poll (pass : PollPass) : SSServer × List SessionPtr :=
  match pass.answer with
  | .error => ({ server with stoped := true }, [])
  | .interrupted => (server, [])
  | .ready revents =>
      let size := server.busySessions.size
      let events := (List.range (size + 1)).countP fun index => (revents index).any
      let server := { server with
        pfds := fun index =>
          if index ≤ size then { server.pfds index with revents := revents index }
          else server.pfds index }
      if (revents 0).any then
        if (revents 0).failed then ({ server with stoped := true }, [])
        else
          let server := if (revents 0).pollIn then server.accept maxMsgSize pass.accept else server
          pollLoop maxMsgSize pass.recv server (events - 1) 1 []
      else pollLoop maxMsgSize pass.recv server events 1 []

end SSServer

end AppSvr.BaseServer
