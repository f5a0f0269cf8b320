/-
This file defines the packet processing of the gateway and the steps of its threads.
-/

import AppSvr.Construction.Gateway.AppGwSvc

namespace AppSvr.Gateway
open LittleEndian

/-- The role login body of a client has a role and a password. -/
structure RoleLoginReqR where
  uiRoleID : UInt32
  ucPasswd : List UInt8

/-- This is `sizeof(PKGBODY_CS_ROLELOGIN_REQ_R)`. -/
def RoleLoginReqR.size : Nat := 44

variable (pkg : MsgBuffer)

/-- The cast behind the header reads the whole body from the buffer. -/
def RoleLoginReqR.ofBuffer : RoleLoginReqR where
  uiRoleID := UInt32.ofNat (decode (pkg.read PkgHead.size 4))
  ucPasswd := pkg.read (PkgHead.size + 4) 40

/-- The body for the main server adds the client identifier. -/
def RoleLoginReqR.packetL (body : RoleLoginReqR) (llClientId : UInt64) : List UInt8 :=
  encode 4 body.uiRoleID.toNat ++ body.ucPasswd ++ encode 8 llClientId.toNat

/-- The role login answer of the main server names the client connection. -/
structure RoleLoginRespL where
  uiRetCode : UInt32
  uiRoleID : UInt32
  llClientId : UInt64

def RoleLoginRespL.ofBuffer : RoleLoginRespL where
  uiRetCode := UInt32.ofNat (decode (pkg.read PkgHead.size 4))
  uiRoleID := UInt32.ofNat (decode (pkg.read (PkgHead.size + 4) 4))
  llClientId := UInt64.ofNat (decode (pkg.read (PkgHead.size + 8) 8))

/-- The translated packet has a new header and the received body. -/
def tranPkg (tranPkgHead : PkgHead) (pkg : MsgBuffer) (usPkgLen : UInt16) : PkgBuff :=
  ((PkgBuff.append [] tranPkgHead.packet).append
    (pkg.read PkgHead.size (usPkgLen.toNat - PkgHead.size))).encodeLength

/-- The login packet takes its header role from the body. -/
def tranLoginPkg (connId : UInt64) : PkgBuff :=
  let body := RoleLoginReqR.ofBuffer pkg
  let tranPkgHead := { pkg.head with uiRoleID := body.uiRoleID }
  ((PkgBuff.append [] tranPkgHead.packet).append (body.packetL connId)).encodeLength

/-- The login answer for the client has the return code and the role. -/
def tranLoginRespPkg : PkgBuff :=
  let body := RoleLoginRespL.ofBuffer pkg
  let tranPkgHead := { pkg.head with uiRoleID := 0 }
  (((PkgBuff.append [] tranPkgHead.packet).append (encode 4 body.uiRetCode.toNat)).append
    (encode 4 body.uiRoleID.toNat)).encodeLength

/-- A client packet is dropped, answered by the gateway, or forwarded to a server session. -/
inductive C2SAction where
  | drop
  | ack (pkgHead : PkgHead) (uiRetCode : UInt32)
  | forward (srv : SessionPtr) (pkgbuff : PkgBuff)
  deriving DecidableEq

/-- The header asks the main server to log a role in. -/
def isLoginC2S (head : PkgHead) : Prop :=
  head.ucSrvType = svrTypeMain ∧ head.usMsgType = msgTypeCsRoleLogin

instance (head : PkgHead) : Decidable (isLoginC2S head) :=
  inferInstanceAs (Decidable (_ ∧ _))

/-- The header answers a role login. -/
def isLoginS2C (head : PkgHead) : Prop :=
  head.ucDirection = directCSResp ∧ head.ucSrvType = svrTypeMain ∧
    head.usMsgType = msgTypeCsRoleLogin

instance (head : PkgHead) : Decidable (isLoginS2C head) :=
  inferInstanceAs (Decidable (_ ∧ _))

namespace AppGwSvc

variable (svc : AppGwSvc) (kernel : Kernel)

/-- This is the part of `ProcessC2S` before its first transmission. -/
def routeC2S (req : ConnectSession) (pkg : MsgBuffer) : C2SAction :=
  let head := pkg.head
  if checkSrvScope head.ucSrvType head.ucSrvSeq ≠ 0 then .drop
  else
    let srvfd := svc.srvFd head.ucSrvType head.ucSrvSeq
    if srvfd ≤ 0 then .ack { head with ucDirection := directCSResp } errSystemSvrNotStart
    else match svc.findFdConnSession srvfd with
      | none => .drop
      | some srv =>
          if head.ucDirection ≠ directCSReq then .drop
          else if isLoginC2S head then .forward srv (tranLoginPkg pkg req.connID)
          else if req.loginStatus = 0 then
            .ack { head with ucDirection := directCSResp, uiRoleID := 0 } errSystemRoleNotLogin
          else .forward srv (tranPkg { head with uiRoleID := req.roleID } pkg head.usPkgLen)

/-- A client that cannot be answered is marked for closing. -/
def answerClient (call : Nat) (req : SessionPtr) (pkgbuff : PkgBuff) : AppGwSvc :=
  let (iSend, svc) := svc.sendMsg req pkgbuff (kernel.send call)
  if iSend < 0 then svc.closeMarkConnSession (kernel.clock call) req else svc

/-- A server that cannot be reached is marked for closing and the client is told. -/
def sendToServer (req srv : SessionPtr) (head : PkgHead) (pkgbuff : PkgBuff) : AppGwSvc :=
  let (iSend, svc) := svc.sendMsg srv pkgbuff (kernel.send 0)
  if iSend < 0 then
    (svc.closeMarkConnSession (kernel.clock 0) srv).answerClient kernel 1 req
      (makeClientAckPkg { head with ucDirection := directCSResp } errSystemSvrAccess)
  else svc

def processC2S (req : SessionPtr) (pkg : MsgBuffer) : AppGwSvc :=
  match svc.sessions req with
  | none => svc
  | some s =>
      match svc.routeC2S s pkg with
      | .drop => svc
      | .ack pkgHead uiRetCode => svc.answerClient kernel 0 req (makeClientAckPkg pkgHead uiRetCode)
      | .forward srv pkgbuff => svc.sendToServer kernel req srv pkg.head pkgbuff

/-- The slot and the session record the registered server. -/
def registerServer (req : SessionPtr) (ucSrvType ucSrvSeq : UInt8) : AppGwSvc :=
  match svc.sessions req with
  | none => svc
  | some s =>
      (svc.setSrvFd ucSrvType ucSrvSeq (connectionFd s.connID)).modifySession req fun s =>
        { s with srvType := ucSrvType, srvSeq := ucSrvSeq, loginStatus := 1 }

/-- The header carries a message from a server to the gateway itself. -/
def isS2G (head : PkgHead) (usMsgType : UInt16) : Prop :=
  usMsgType = head.usMsgType ∧ directSSReq = head.ucDirection

instance (head : PkgHead) (usMsgType : UInt16) : Decidable (isS2G head usMsgType) :=
  inferInstanceAs (Decidable (_ ∧ _))

def processS2G (req : SessionPtr) (pkg : MsgBuffer) : AppGwSvc :=
  let head := pkg.head
  if isS2G head msgTypeGwSvrConnect then
    let ucSrvType := pkg PkgHead.size
    let ucSrvSeq := pkg (PkgHead.size + 1)
    if checkSrvScope ucSrvType ucSrvSeq ≠ 0 then svc
    else
      let srvfd := svc.srvFd ucSrvType ucSrvSeq
      let uiRetCode := if 0 < srvfd then errSystemSvrLogined else 0
      let pkgbuff := makeClientAckPkg { head with ucDirection := directSSResp } uiRetCode
      let (iSend, svc) := svc.sendMsg req pkgbuff (kernel.send 0)
      if iSend < 0 then svc.closeMarkConnSession (kernel.clock 0) req
      else if (pkgbuff.length : Int) = iSend then
        if 0 < srvfd then svc else svc.registerServer req ucSrvType ucSrvSeq
      else svc
  else if isS2G head msgTypeGwCloseClient then
    match svc.findRoleConnSession head.uiRoleID with
    | some client => svc.closeMarkConnSession (kernel.clock 0) client
    | none => svc
  else svc

/-- The earlier connection of the role is kicked before the role moves. -/
def moveRole (now : Nat) (client : SessionPtr) (roleid : UInt32) (fd : Int) : AppGwSvc :=
  match svc.findRoleConnSession roleid with
  | none => svc.insertUserFdMap roleid fd
  | some logined =>
      if (svc.sessions logined).any (fun s => s.loginStatus ≠ 0) ∧ logined ≠ client then
        ((svc.updateUserFdMap roleid fd).modifySession logined
          (fun s => { s with isSameUser := 1 })).closeMarkConnSession now logined
      else svc.insertUserFdMap roleid fd

/-- A successful login answer moves the role and marks the client session. -/
def loginRole (now : Nat) (client : SessionPtr) (roleid : UInt32) (fd : Int) : AppGwSvc :=
  (svc.moveRole now client roleid fd).modifySession client fun s =>
    { s with srvType := 0, loginStatus := 1, roleID := roleid }

/-- Only the first report of a broken client marks it for closing. -/
def sendToClient (client : SessionPtr) (pkgbuff : PkgBuff) : AppGwSvc :=
  let (iSend, svc) := svc.sendMsg client pkgbuff (kernel.send 0)
  if iSend = -1 then svc.closeMarkConnSession (kernel.clock 1) client else svc

def processS2C (pkg : MsgBuffer) : AppGwSvc :=
  let head := pkg.head
  if checkSrvScope head.ucSrvType head.ucSrvSeq ≠ 0 then svc
  else if isLoginS2C head then
    let body := RoleLoginRespL.ofBuffer pkg
    let fd := connectionFd body.llClientId
    match svc.findFdConnSession fd with
    | none => svc
    | some client =>
        let svc :=
          if body.uiRetCode = 0 then svc.loginRole (kernel.clock 0) client body.uiRoleID fd
          else svc
        svc.sendToClient kernel client (tranLoginRespPkg pkg)
  else
    match svc.findRoleConnSession head.uiRoleID with
    | none => svc
    | some client =>
        svc.sendToClient kernel client (tranPkg { head with uiRoleID := 0 } pkg head.usPkgLen)

/-- The packet direction selects the handler for each side. -/
def processPkg (ss : SessionPtr) (pkg : MsgBuffer) : AppGwSvc :=
  match svc.sessions ss with
  | none => svc
  | some s =>
      let direction := pkg.head.ucDirection
      match s.connType with
      | .inside =>
          if direction = directCSResp ∨ direction = directSCReq then svc.processS2C kernel pkg
          else if direction = directSSReq then svc.processS2G kernel ss pkg
          else svc
      | .outside =>
          if direction = directCSReq ∨ direction = directSCResp then svc.processC2S kernel ss pkg
          else svc

/-- This is one pass of the packet loop with the packet that it obtained. -/
def packetPass (thread : Nat) (ss : SessionPtr) : Int × AppGwSvc × List UInt8 :=
  match svc.sessions ss with
  | none => (0, svc, [])
  | some s =>
      let (iRet, new, buffer, packet) := s.getDataPack (svc.msgBuffer thread)
      if iRet = 0 then (0, svc, [])
      else if iRet < 0 then (iRet, svc.closeMarkConnSession (kernel.clock 0) ss, [])
      else
        let svc := { svc.modifySession ss (fun _ => new) with
          msgBuffer := Function.update svc.msgBuffer thread buffer }
        (iRet, svc.processPkg kernel ss buffer, packet)

/-- The loop ends when no packet is left or the header is refused. -/
def packetLoop (kernels : Nat → Kernel) (thread : Nat) (ss : SessionPtr) :
    Nat → AppGwSvc → AppGwSvc × List (List UInt8)
  | 0, svc => (svc, [])
  | fuel + 1, svc =>
      let (iRet, next, packet) := svc.packetPass (kernels fuel) thread ss
      if iRet ≤ 0 then (next, [])
      else
        let (final, packets) := packetLoop kernels thread ss fuel next
        (final, packet :: packets)

/-- This is the part of `HandleProcessPkg` before its packet loop. The result names the session
and the received bytes when the loop follows. -/
def receivePass (now : Nat) (fd : Int) (outcome : ConnectSession.RecvOutcome) :
    AppGwSvc × Option (SessionPtr × List UInt8) :=
  match svc.findFdConnSession fd with
  | none => (svc.closeEpollFd fd, none)
  | some ss =>
      match svc.sessions ss with
      | none => (svc, none)
      | some s =>
          if s.closeFlag ≠ 0 then (svc, none)
          else
            let (iRet, new) := s.recvMsg outcome now
            let next := svc.store ss s new
            if iRet = 0 then (next, none)
            else if iRet < 0 then (next.closeMarkConnSession now ss, none)
            else (next, some (ss, new.recvBuff.drop s.recvLen))

/-- Each pass consumes a whole header, so the received length bounds the passes. -/
def handleProcessPkg (kernels : Nat → Kernel) (now thread : Nat) (fd : Int)
    (outcome : ConnectSession.RecvOutcome) : AppGwSvc × List (List UInt8) :=
  match svc.receivePass now fd outcome with
  | (next, none) => (next, [])
  | (next, some (ss, _)) =>
      packetLoop kernels thread ss (((next.sessions ss).map ConnectSession.recvLen).getD 0 + 1) next

/-- The steps of the gateway threads; a worker may be interrupted between two packets. -/
inductive Event where
  | handleAccept (lsfd : TcpStream) (ip : UInt32) (port : UInt16) (connFd now : Nat)
  | receive (fd : Int) (outcome : ConnectSession.RecvOutcome) (now : Nat)
  | packet (thread : Nat) (fd : Int) (kernel : Kernel)
  | closeMark (fd : Int) (now : Nat)
  | removeConnSession (kernel : Kernel)

/-- The kernel hands out a free descriptor of type `int` and fills at most the room of the
session. -/
def step (ini : IniOption) (svc : AppGwSvc) : Event → Option AppGwSvc
  | .handleAccept lsfd ip port connFd now =>
      if svc.openFd connFd ∨ 2 ^ 31 ≤ connFd then none
      else some (svc.handleAccept ini lsfd ip port connFd now)
  | .receive fd outcome now =>
      match (svc.findFdConnSession fd).bind svc.sessions with
      | none => some (svc.receivePass now fd outcome).1
      | some s => if outcome.fits s then some (svc.receivePass now fd outcome).1 else none
  | .packet thread fd kernel =>
      (svc.findFdConnSession fd).map fun ss => (svc.packetPass kernel thread ss).2.1
  | .closeMark fd now => (svc.findFdConnSession fd).map (svc.closeMarkConnSession now)
  | .removeConnSession kernel => some (svc.removeConnSession kernel)

/-- The same threads seen call by call: a worker finishes `HandleProcessPkg` before the next call
starts. -/
inductive Call where
  | handleAccept (lsfd : TcpStream) (ip : UInt32) (port : UInt16) (connFd now : Nat)
  | handleProcessPkg (thread : Nat) (fd : Int) (outcome : ConnectSession.RecvOutcome) (now : Nat)
      (kernels : Nat → Kernel)
  | closeMark (fd : Int) (now : Nat)
  | removeConnSession (kernel : Kernel)

def callStep (ini : IniOption) (svc : AppGwSvc) : Call → Option AppGwSvc
  | .handleAccept lsfd ip port connFd now =>
      step ini svc (.handleAccept lsfd ip port connFd now)
  | .handleProcessPkg thread fd outcome now kernels =>
      match (svc.findFdConnSession fd).bind svc.sessions with
      | none => some (svc.handleProcessPkg kernels now thread fd outcome).1
      | some s =>
          if outcome.fits s then some (svc.handleProcessPkg kernels now thread fd outcome).1
          else none
  | .closeMark fd now => step ini svc (.closeMark fd now)
  | .removeConnSession kernel => step ini svc (.removeConnSession kernel)

/-- A call receives these bytes for a session. -/
def received (ptr : SessionPtr) : Call → List UInt8
  | .handleProcessPkg _ fd outcome now _ =>
      match (svc.receivePass now fd outcome).2 with
      | some (ss, bytes) => if ss = ptr then bytes else []
      | none => []
  | _ => []

/-- A call obtains these packets for a session. -/
def obtained (ptr : SessionPtr) : Call → List (List UInt8)
  | .handleProcessPkg thread fd outcome now kernels =>
      match (svc.receivePass now fd outcome).2 with
      | some (ss, _) =>
          if ss = ptr then (svc.handleProcessPkg kernels now thread fd outcome).2 else []
      | none => []
  | _ => []

end AppGwSvc

end AppSvr.Gateway
