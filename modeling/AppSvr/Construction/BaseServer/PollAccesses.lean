/-
This file lists the entries of the poll table that the functions of the server read and write.
-/

import AppSvr.Construction.BaseServer.SSServer

namespace AppSvr.BaseServer.SSServer

variable (server : SSServer)

/-- `InsertSession` writes the entry behind the last session. -/
def insertSessionAccesses : List Nat := [server.busySessions.size + 1]

def acceptAccesses (fd : Option Int) : List Nat :=
  if maxSession < server.busySessions.size then []
  else
    match fd with
    | none => []
    | some _ => server.insertSessionAccesses

/-- `RemoveSession` copies the last entry. -/
def removeSessionAccesses (session : SessionPtr) : List Nat :=
  if (server.sessions session).eventIndex < server.busySessions.size then
    [(server.sessions session).eventIndex, server.busySessions.size]
  else []

def closeSessionAccesses (session : SessionPtr) : List Nat :=
  let closed := server.sessions session
  { server with
    sessions := Function.update server.sessions session closed.shutdown
    owner := Function.update server.owner closed.handle none }.removeSessionAccesses session

def onRecvAccesses (maxMsgSize : UInt32) (server : SSServer) (session : SessionPtr)
    (first second : Recv) : List Nat :=
  let received := (server.sessions session).onRecv maxMsgSize first second
  if received.closes then
    { server with
      sessions := Function.update server.sessions session received.session
      }.closeSessionAccesses session
  else []

/-- The loop looks at the entry of every index that it reaches. -/
def pollLoopAccesses (maxMsgSize : UInt32) (recv : Nat → Recv × Recv) (server : SSServer)
    (events index : Nat) (handled : List SessionPtr) : List Nat :=
  if running : index ≤ server.busySessions.size ∧ 0 < events then
    let slot := server.pfds index
    if slot.revents.any = false then
      index :: pollLoopAccesses maxMsgSize recv server events (index + 1) handled
    else
      match server.findSession slot.fd with
      | none => [index]
      | some session =>
          if slot.revents.failed then
            index :: server.closeSessionAccesses session ++
              pollLoopAccesses maxMsgSize recv (server.closeSession session) (events - 1) index
                (handled ++ [session])
          else if slot.revents.pollIn then
            let server := { server with
              pfds := Function.update server.pfds index { slot with revents := .none } }
            let answers := recv handled.length
            let result := server.onRecv maxMsgSize session answers.1 answers.2
            index :: server.onRecvAccesses maxMsgSize session answers.1 answers.2 ++
              pollLoopAccesses maxMsgSize recv result.2 (events - 1)
                (if result.1 = (0 : Int) then index + 1 else index) (handled ++ [session])
          else
            index :: pollLoopAccesses maxMsgSize recv server (events - 1) (index + 1)
              (handled ++ [session])
  else []
termination_by (events, server.busySessions.size + 1 - index)

/-- The kernel gets one entry more than there are sessions. -/
def polledAccesses : List Nat := List.range (server.busySessions.size + 1)

/-- `poll` has written the reported events. -/
def withRevents (revents : Nat → Revents) : SSServer :=
  { server with
    pfds := fun index =>
      if index ≤ server.busySessions.size then { server.pfds index with revents := revents index }
      else server.pfds index }

def pollAccesses (maxMsgSize : UInt32) (server : SSServer) (pass : PollPass) : List Nat :=
  server.polledAccesses ++
    match pass.answer with
    | .error | .interrupted => []
    | .ready revents =>
        let events := (List.range (server.busySessions.size + 1)).countP fun index =>
          (revents index).any
        let server := server.withRevents revents
        if (revents 0).any then
          if (revents 0).failed then []
          else if (revents 0).pollIn then
            server.acceptAccesses pass.accept ++
              (server.accept maxMsgSize pass.accept).pollLoopAccesses maxMsgSize pass.recv
                (events - 1) 1 []
          else server.pollLoopAccesses maxMsgSize pass.recv (events - 1) 1 []
        else server.pollLoopAccesses maxMsgSize pass.recv events 1 []

def stepAccesses (maxMsgSize : UInt32) (server : SSServer) : Event → List Nat
  | .accept fd => server.acceptAccesses fd
  | .onRecv fd first second =>
      match server.findSession fd with
      | none => []
      | some session => server.onRecvAccesses maxMsgSize session first second
  | .closeSession fd =>
      match server.findSession fd with
      | none => []
      | some session => server.closeSessionAccesses session
  | .popPacket _ | .send _ | .finish _ => []

/-- A pass accepts when the listening socket is readable and has no error. -/
def PollPass.accepts (pass : PollPass) : Bool :=
  match pass.answer with
  | .ready revents => (revents 0).any && !(revents 0).failed && (revents 0).pollIn
  | .interrupted | .error => false

end AppSvr.BaseServer.SSServer
