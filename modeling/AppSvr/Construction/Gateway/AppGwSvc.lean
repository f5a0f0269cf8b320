/-
This file defines the gateway tables and the functions that maintain them.
-/

import AppSvr.Construction.Gateway.ConnectSession

namespace AppSvr.Gateway

/-- A session pointer names one allocated session object and is never reused. -/
abbrev SessionPtr := Nat

/-- The service reads this option of its configuration file. -/
structure IniOption where
  ipConnectLimit : Int
  deriving DecidableEq, Repr

/-- The kernel answers the successive clock readings and `SendMsg` calls of one step. -/
structure Kernel where
  clock : Nat → Nat
  send : Nat → ConnectSession.SendOutcome

/-- The tables follow the source. `sessions` is the heap of session objects, `openFd` is the
descriptor table of the process, `wire` lists the bytes written to each session, and `closeMarked`
lists the sessions that `CloseMarkConnSession` received. -/
structure AppGwSvc where
  sessions : SessionPtr → Option ConnectSession
  nextSession : SessionPtr
  fdConnSs : Int → Option SessionPtr
  roleIDFd : UInt32 → Option Int
  ipCount : UInt32 → Option Int
  iSrvFd : Int → Int → Int
  queCloseConn : List UInt64
  msgBuffer : Nat → MsgBuffer
  openFd : Int → Bool
  wire : List (SessionPtr × List UInt8)
  closeMarked : List SessionPtr

namespace AppGwSvc

/-- The constructor leaves every table empty. -/
def initial : AppGwSvc where
  sessions _ := none
  nextSession := 0
  fdConnSs _ := none
  roleIDFd _ := none
  ipCount _ := none
  iSrvFd _ _ := -1
  queCloseConn := []
  msgBuffer _ _ := 0
  openFd _ := false
  wire := []
  closeMarked := []

variable (svc : AppGwSvc) (roleid : UInt32) (ucSrvType ucSrvSeq : UInt8)

/-- The heap takes the new session; a descriptor that the session gave up is closed. -/
def store (ptr : SessionPtr) (old new : ConnectSession) : AppGwSvc :=
  { svc with
    sessions := Function.update svc.sessions ptr (some new)
    openFd := if new.fd = old.fd then svc.openFd else Function.update svc.openFd old.fd false }

/-- A setter of the source changes one session in place. -/
def modifySession (ptr : SessionPtr) (change : ConnectSession → ConnectSession) : AppGwSvc :=
  match svc.sessions ptr with
  | none => svc
  | some s => { svc with sessions := Function.update svc.sessions ptr (some (change s)) }

def findFdConnSession (fd : Int) : Option SessionPtr := svc.fdConnSs fd

/-- An absent role is reported as descriptor zero. -/
def findUserFd : Int := (svc.roleIDFd roleid).getD 0

def findRoleConnSession : Option SessionPtr :=
  let fd := svc.findUserFd roleid
  if fd = 0 then none else svc.findFdConnSession fd

/-- The update changes only an entry that exists. -/
def updateUserFdMap (fd : Int) : AppGwSvc :=
  match svc.roleIDFd roleid with
  | none => svc
  | some _ => { svc with roleIDFd := Function.update svc.roleIDFd roleid (some fd) }

/-- The insertion keeps an entry that exists. -/
def insertUserFdMap (fd : Int) : AppGwSvc :=
  match svc.roleIDFd roleid with
  | none => { svc with roleIDFd := Function.update svc.roleIDFd roleid (some fd) }
  | some _ => svc

def removeRoleFdMap : AppGwSvc :=
  if roleid = 0 then svc
  else { svc with roleIDFd := Function.update svc.roleIDFd roleid none }

/-- Neither the server type nor the server sequence may be zero. -/
def checkSrvScope : Int :=
  if ucSrvType = 0 ∨ ucSrvSeq = 0 then -1 else 0

/-- This is the array entry of a server type and sequence. -/
def srvFd : Int :=
  svc.iSrvFd ((ucSrvType.toNat : Int) - 1) ((ucSrvSeq.toNat : Int) - 1)

def setSrvFd (fd : Int) : AppGwSvc :=
  { svc with
    iSrvFd := fun row column =>
      if row = (ucSrvType.toNat : Int) - 1 ∧ column = (ucSrvSeq.toNat : Int) - 1 then fd
      else svc.iSrvFd row column }

/-- The session writes to its connection and reports the source's return value. -/
def sendMsg (svc : AppGwSvc) (ptr : SessionPtr) (buffer : List UInt8)
    (outcome : ConnectSession.SendOutcome) : Int × AppGwSvc :=
  match svc.sessions ptr with
  | none => (-1, svc)
  | some s =>
      let (iRet, new, written) := s.sendMsg buffer outcome
      (iRet, { svc.store ptr s new with
        wire := if written.isEmpty then svc.wire else svc.wire ++ [(ptr, written)] })

/-- The mark stamps and closes the session and queues its identifier for the close thread. -/
def closeMarkConnSession (now : Nat) (ptr : SessionPtr) : AppGwSvc :=
  match svc.sessions ptr with
  | none => svc
  | some s =>
      { svc.store ptr s { s with stamp := now }.closeConnNoLock with
        queCloseConn := svc.queCloseConn ++ [s.connID]
        closeMarked := svc.closeMarked ++ [ptr] }

/-- A connection is refused when the earlier count is already over the limit. -/
def checkIpCount (ini : IniOption) (ip : UInt32) : Int × AppGwSvc :=
  let connectCount := (svc.ipCount ip).getD 0
  if (svc.ipCount ip).isSome ∧ ini.ipConnectLimit < connectCount then (-1, svc)
  else (0, { svc with ipCount := Function.update svc.ipCount ip (some (connectCount + 1)) })

/-- The map insertion keeps an entry that exists. -/
def insertConnSession (ptr : SessionPtr) (s : ConnectSession) : AppGwSvc :=
  let key := connectionFd s.connID
  match svc.fdConnSs key with
  | none => { svc with fdConnSs := Function.update svc.fdConnSs key (some ptr) }
  | some _ => svc

/-- The listener allocates a session and inserts it in the connection table. -/
def acceptSession (lsfd : TcpStream) (ip : UInt32) (port : UInt16) (connFd now : Nat) : AppGwSvc :=
  let s := ConnectSession.new (connectionId ip port connFd) lsfd now
  let svc := { svc with
    sessions := Function.update svc.sessions svc.nextSession (some s)
    nextSession := svc.nextSession + 1
    openFd := Function.update svc.openFd connFd true }
  svc.insertConnSession (svc.nextSession - 1) s

/-- Only outside connections are counted; a refused descriptor is closed at once. -/
def handleAccept (ini : IniOption) (lsfd : TcpStream) (ip : UInt32)
    (port : UInt16) (connFd now : Nat) : AppGwSvc :=
  match lsfd with
  | .inside => svc.acceptSession lsfd ip port connFd now
  | .outside =>
      let (refused, svc) := svc.checkIpCount ini ip
      if refused ≠ 0 then svc else svc.acceptSession lsfd ip port connFd now

def closeEpollFd (fd : Int) : AppGwSvc :=
  { svc with openFd := Function.update svc.openFd fd false }

/-- The main server learns the role of a closed client that was not kicked. -/
def notifyClientClosed (s : ConnectSession) (outcome : ConnectSession.SendOutcome) : AppGwSvc :=
  let srvfd := svc.srvFd svrTypeMain svrSeqMain
  if srvfd = -1 then svc
  else match svc.fdConnSs srvfd with
    | none => svc
    | some connSsOl =>
        if s.isSameUser ≠ 0 then svc
        else if s.roleID = 0 then svc
        else
          let reqPkgHead : PkgHead :=
            ⟨0, directCSReq, svrTypeMain, 1, msgTypeCsRoleLogout, 111, s.roleID⟩
          (svc.sendMsg connSsOl (PkgBuff.append [] reqPkgHead.packet).encodeLength outcome).2

/-- The count drops by one and its entry disappears at zero. -/
def decreaseIpCount (ip : UInt32) : AppGwSvc :=
  match svc.ipCount ip with
  | none => svc
  | some count =>
      let connectCount := count - 1
      { svc with
        ipCount := Function.update svc.ipCount ip
          (if connectCount ≤ 0 then none else some connectCount) }

/-- The tables forget a session before its object is deleted. -/
def forgetSession (s : ConnectSession) (outcome : ConnectSession.SendOutcome) : AppGwSvc :=
  match s.connType with
  | .inside => if s.loginStatus ≠ 0 then svc.setSrvFd s.srvType s.srvSeq (-1) else svc
  | .outside =>
      let svc :=
        if s.isSameUser = 0 then (svc.notifyClientClosed s outcome).removeRoleFdMap s.roleID
        else svc
      svc.decreaseIpCount (connectionIp s.connID)

/-- One queued identifier removes whatever session its descriptor finds. -/
def removeQueued (llConId : UInt64) (now : Nat) (outcome : ConnectSession.SendOutcome) : AppGwSvc :=
  let fd := connectionFd llConId
  match svc.fdConnSs fd with
  | none => svc
  | some ptr =>
      match svc.sessions ptr with
      | none => svc
      | some s =>
          if (now : Int) - s.stamp < gwConnCloseInternal then
            { svc with queCloseConn := svc.queCloseConn ++ [llConId] }
          else
            let svc := svc.forgetSession s outcome
            { svc with
              sessions := Function.update svc.sessions ptr none
              fdConnSs := Function.update svc.fdConnSs fd none }

/-- The loop pops as many entries as the queue had at its start. -/
def removeLoop (kernel : Kernel) : Nat → Nat → AppGwSvc → AppGwSvc
  | 0, _, svc => svc
  | remaining + 1, index, svc =>
      match svc.queCloseConn with
      | [] => svc
      | llConId :: rest =>
          removeLoop kernel remaining (index + 1)
            (({ svc with queCloseConn := rest } : AppGwSvc).removeQueued llConId
              (kernel.clock index) (kernel.send index))

def removeConnSession (kernel : Kernel) : AppGwSvc :=
  removeLoop kernel svc.queCloseConn.length 0 svc

end AppGwSvc

end AppSvr.Gateway
