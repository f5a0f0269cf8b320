/-
This file states what each gateway step can change and derives the invariant rule of its runs.
-/

import AppSvr.Proof.Gateway.Keeps
import AppSvr.ToMathlib.TransitionSystem

namespace AppSvr.Gateway.AppGwSvc
open PartialMap TransitionSystem

/-- This is the buffer after the packet loop took the next packet of a session. -/
def packetBuffer (svc : AppGwSvc) (thread : Nat) (ss : SessionPtr) : Option MsgBuffer :=
  match svc.sessions ss with
  | none => none
  | some s =>
      let (iRet, _, buffer, _) := s.getDataPack (svc.msgBuffer thread)
      if 0 < iRet then some buffer else none

/-- The packet registers its sender for a free server slot. -/
structure Registers (svc : AppGwSvc) (s : ConnectSession) (pkg : MsgBuffer)
    (ucSrvType ucSrvSeq : UInt8) : Prop where
  inside : s.connType = .inside
  request : isS2G pkg.head msgTypeGwSvrConnect
  body : ucSrvType = pkg PkgHead.size ∧ ucSrvSeq = pkg (PkgHead.size + 1)
  scope : ucSrvType ≠ 0 ∧ ucSrvSeq ≠ 0
  free : svc.srvFd ucSrvType ucSrvSeq ≤ 0

/-- The packet acknowledges the login of a role on a connection that the table finds. -/
structure LogsIn (svc : AppGwSvc) (s : ConnectSession) (pkg : MsgBuffer) (fd : Int)
    (client : SessionPtr) (roleid : UInt32) : Prop where
  inside : s.connType = .inside
  answer : isLoginS2C pkg.head
  success : (RoleLoginRespL.ofBuffer pkg).uiRetCode = 0
  named : fd = connectionFd (RoleLoginRespL.ofBuffer pkg).llClientId
  role : roleid = (RoleLoginRespL.ofBuffer pkg).uiRoleID
  found : svc.fdConnSs fd = some client

/-- This is the client session and the role of the login answer in the next packet. -/
def loginAck (svc : AppGwSvc) (thread : Nat) (fd : Int) : Option (ConnectSession × UInt32) :=
  (svc.fdConnSs fd).bind fun ss =>
    (svc.sessions ss).bind fun s =>
      (svc.packetBuffer thread ss).bind fun pkg =>
        let body := RoleLoginRespL.ofBuffer pkg
        if s.connType = .inside ∧ isLoginS2C pkg.head ∧ body.uiRetCode = 0 then
          ((svc.fdConnSs (connectionFd body.llClientId)).bind svc.sessions).map fun client =>
            (client, body.uiRoleID)
        else none

/-- The acknowledged login is the one that the condition reads. -/
theorem loginAck_eq {svc : AppGwSvc} {thread : Nat} {fd key : Int} {ss client : SessionPtr}
    {s c : ConnectSession} {pkg : MsgBuffer} {roleid : UInt32} (found : svc.fdConnSs fd = some ss)
    (live : svc.sessions ss = some s) (taken : svc.packetBuffer thread ss = some pkg)
    (logged : svc.LogsIn s pkg key client roleid) (liveClient : svc.sessions client = some c) :
    svc.loginAck thread fd = some (c, roleid) := by
  have foundClient := logged.found
  rw [logged.named] at foundClient
  simp [loginAck, found, live, taken, logged.inside, logged.answer, logged.success, foundClient,
    liveClient, logged.role]

/-- This is the sender of the next packet when the packet registers it for a free slot. -/
def registration (svc : AppGwSvc) (thread : Nat) (fd : Int) : Option ConnectSession :=
  (svc.fdConnSs fd).bind fun ss =>
    (svc.sessions ss).bind fun s =>
      (svc.packetBuffer thread ss).bind fun pkg =>
        let ucSrvType := pkg PkgHead.size
        let ucSrvSeq := pkg (PkgHead.size + 1)
        if s.connType = .inside ∧ isS2G pkg.head msgTypeGwSvrConnect ∧ ucSrvType ≠ 0 ∧
            ucSrvSeq ≠ 0 ∧ svc.srvFd ucSrvType ucSrvSeq ≤ 0 then some s
        else none

theorem registration_eq {svc : AppGwSvc} {thread : Nat} {fd : Int} {ss : SessionPtr}
    {s : ConnectSession} {pkg : MsgBuffer} {ucSrvType ucSrvSeq : UInt8}
    (found : svc.fdConnSs fd = some ss) (live : svc.sessions ss = some s)
    (taken : svc.packetBuffer thread ss = some pkg)
    (registered : svc.Registers s pkg ucSrvType ucSrvSeq) :
    svc.registration thread fd = some s := by
  obtain ⟨inside, request, ⟨rfl, rfl⟩, scope, free⟩ := registered
  simp [registration, found, live, taken, inside, request, scope, free]

/-- A packet changes no table, registers a server, or logs a role in. -/
inductive PacketEffect (svc : AppGwSvc) (thread : Nat) (ss : SessionPtr) (next : AppGwSvc) : Prop
  | keeps (kept : Keeps ConnectSession.login svc next)
  | registers (s : ConnectSession) (pkg : MsgBuffer) (ucSrvType ucSrvSeq : UInt8)
      (middle : AppGwSvc) (live : svc.sessions ss = some s)
      (taken : svc.packetBuffer thread ss = some pkg)
      (registered : svc.Registers s pkg ucSrvType ucSrvSeq)
      (before : Keeps ConnectSession.login svc middle)
      (changed : next = middle.registerServer ss ucSrvType ucSrvSeq)
  | logsIn (s : ConnectSession) (pkg : MsgBuffer) (fd : Int) (client : SessionPtr)
      (roleid : UInt32) (now : Nat) (middle : AppGwSvc) (live : svc.sessions ss = some s)
      (taken : svc.packetBuffer thread ss = some pkg)
      (acknowledged : svc.LogsIn s pkg fd client roleid)
      (before : Keeps ConnectSession.login svc middle)
      (after : Keeps ConnectSession.login (middle.loginRole now client roleid fd) next)

/-- The scope check passes exactly for nonzero types and sequences. -/
theorem checkSrvScope_eq_zero {ucSrvType ucSrvSeq : UInt8} :
    checkSrvScope ucSrvType ucSrvSeq = 0 ↔ ucSrvType ≠ 0 ∧ ucSrvSeq ≠ 0 := by
  unfold checkSrvScope
  split
  · rename_i zero
    constructor
    · intro bad
      cases bad
    · rintro ⟨typeNonzero, seqNonzero⟩
      exact absurd zero (not_or.mpr ⟨typeNonzero, seqNonzero⟩)
  · rename_i nonzero
    exact ⟨fun _ => not_or.mp nonzero, fun _ => rfl⟩

variable (svc : AppGwSvc)

theorem modifySession_sessions (ptr : SessionPtr)
    (change : ConnectSession → ConnectSession) :
    (svc.modifySession ptr change).sessions =
      Function.update svc.sessions ptr ((svc.sessions ptr).map change) := by
  unfold modifySession
  cases live : svc.sessions ptr with
  | none =>
      have unchanged : Function.update svc.sessions ptr none = svc.sessions := by
        rw [← live, Function.update_eq_self]
      rw [Option.map_none, unchanged]
  | some s => rfl

theorem modifySession_iSrvFd (ptr : SessionPtr)
    (change : ConnectSession → ConnectSession) :
    (svc.modifySession ptr change).iSrvFd = svc.iSrvFd := by
  unfold modifySession
  split <;> rfl

/-- A setter keeps the view when its change does. -/
theorem modifySession_keeps {View : Type} {view : ConnectSession → View} (svc : AppGwSvc)
    (ptr : SessionPtr) (change : ConnectSession → ConnectSession)
    (follows : ∀ s, Follows view s (change s)) :
    Keeps view svc (svc.modifySession ptr change) := by
  unfold modifySession
  cases live : svc.sessions ptr with
  | none => exact .refl svc
  | some s =>
      exact ⟨⟨rfl, rfl, rfl, Related.update Follows.refl live (follows s), fun _ => .inl,
        List.Subset.refl _⟩, rfl, rfl⟩

/-- A registration keeps every connection and every received byte. -/
theorem registerServer_stream (req : SessionPtr) (ucSrvType ucSrvSeq : UInt8) :
    KeepsConnections ConnectSession.stream svc (svc.registerServer req ucSrvType ucSrvSeq) := by
  unfold registerServer
  cases live : svc.sessions req with
  | none => exact .refl svc
  | some s =>
      have slot : KeepsConnections ConnectSession.stream svc
          (svc.setSrvFd ucSrvType ucSrvSeq (connectionFd s.connID)) :=
        .ofEq rfl rfl rfl rfl rfl rfl
      apply slot.trans
      apply Keeps.toKeepsConnections
      apply modifySession_keeps
      exact fun _ => ⟨rfl, rfl, rfl, id⟩

theorem registerServer_keepsConnections (req : SessionPtr)
    (ucSrvType ucSrvSeq : UInt8) :
    KeepsConnections ConnectSession.connection svc (svc.registerServer req ucSrvType ucSrvSeq) :=
  (registerServer_stream svc req ucSrvType ucSrvSeq).weaken fun _ _ => Follows.toConnection

/-- A registration writes its slot and the three fields of its sender. -/
theorem registerServer_eq {svc : AppGwSvc} {req : SessionPtr} {s : ConnectSession}
    (live : svc.sessions req = some s) (ucSrvType ucSrvSeq : UInt8) :
    svc.registerServer req ucSrvType ucSrvSeq =
      { svc with
        iSrvFd := (svc.setSrvFd ucSrvType ucSrvSeq (connectionFd s.connID)).iSrvFd
        sessions := Function.update svc.sessions req
          (some { s with srvType := ucSrvType, srvSeq := ucSrvSeq, loginStatus := 1 }) } := by
  unfold registerServer
  rw [live]
  simp [modifySession, setSrvFd, live]

/-- The role table update and insertion keep every connection. -/
theorem updateUserFdMap_keepsConnections (roleid : UInt32) (fd : Int) :
    KeepsConnections ConnectSession.content svc (svc.updateUserFdMap roleid fd) := by
  unfold updateUserFdMap
  split
  · exact .refl svc
  · exact .ofEq rfl rfl rfl rfl rfl rfl

theorem insertUserFdMap_keepsConnections (roleid : UInt32) (fd : Int) :
    KeepsConnections ConnectSession.content svc (svc.insertUserFdMap roleid fd) := by
  unfold insertUserFdMap
  split
  · exact .ofEq rfl rfl rfl rfl rfl rfl
  · exact .refl svc

/-- Moving a role changes no session but the kicked one. -/
theorem moveRole_keepsConnections {svc : AppGwSvc} (well : svc.WellFormed) (now : Nat)
    (client : SessionPtr) (roleid : UInt32) (fd : Int) :
    KeepsConnections ConnectSession.unkicked svc (svc.moveRole now client roleid fd) := by
  have inserted : KeepsConnections ConnectSession.unkicked svc (svc.insertUserFdMap roleid fd) :=
    (insertUserFdMap_keepsConnections svc roleid fd).weaken fun _ _ => Follows.toUnkicked
  unfold moveRole
  split
  · exact inserted
  · rename_i logined found
    split
    · have updated : KeepsConnections ConnectSession.unkicked svc (svc.updateUserFdMap roleid fd) :=
        (updateUserFdMap_keepsConnections svc roleid fd).weaken fun _ _ => Follows.toUnkicked
      have kicked := updated.trans (modifySession_keeps (svc.updateUserFdMap roleid fd) logined
        (fun s => { s with isSameUser := 1 }) fun _ => ⟨rfl, rfl, rfl, id⟩).toKeepsConnections
      have marked := closeMark_keeps (kicked.wellFormed well)
        (kicked.inTable (findRoleConnSession_inTable found)) now
      exact kicked.trans (marked.toKeepsConnections.weaken fun _ _ => Follows.toUnkicked)
    · exact inserted

/-- Moving a role writes no server slot. -/
theorem moveRole_iSrvFd (now : Nat) (client : SessionPtr) (roleid : UInt32)
    (fd : Int) : (svc.moveRole now client roleid fd).iSrvFd = svc.iSrvFd := by
  have inserted : (svc.insertUserFdMap roleid fd).iSrvFd = svc.iSrvFd := by
    unfold insertUserFdMap
    split <;> rfl
  have updated : (svc.updateUserFdMap roleid fd).iSrvFd = svc.iSrvFd := by
    unfold updateUserFdMap
    split <;> rfl
  unfold moveRole
  split
  · exact inserted
  · split
    · rw [closeMarkConnSession_iSrvFd, modifySession_iSrvFd, updated]
    · exact inserted

/-- A login keeps every connection. -/
theorem loginRole_keepsConnections {svc : AppGwSvc} (well : svc.WellFormed) (now : Nat)
    (client : SessionPtr) (roleid : UInt32) (fd : Int) :
    KeepsConnections ConnectSession.connection svc (svc.loginRole now client roleid fd) := by
  have moved := moveRole_keepsConnections well now client roleid fd
  apply (moved.weaken fun _ _ => Follows.toConnection).trans
  apply Keeps.toKeepsConnections
  apply modifySession_keeps
  exact fun _ => ⟨rfl, rfl, rfl, id⟩

/-- A server packet to the gateway changes no table or registers its sender. -/
theorem processS2G_cases {svc : AppGwSvc} (well : svc.WellFormed) {req : SessionPtr}
    (present : svc.InTable req) (kernel : Kernel) (pkg : MsgBuffer) :
    Keeps ConnectSession.content svc (svc.processS2G kernel req pkg) ∨
      ∃ middle, Keeps ConnectSession.content svc middle ∧
        isS2G pkg.head msgTypeGwSvrConnect ∧
        checkSrvScope (pkg PkgHead.size) (pkg (PkgHead.size + 1)) = 0 ∧
        svc.srvFd (pkg PkgHead.size) (pkg (PkgHead.size + 1)) ≤ 0 ∧
        svc.processS2G kernel req pkg =
          middle.registerServer req (pkg PkgHead.size) (pkg (PkgHead.size + 1)) := by
  unfold AppGwSvc.processS2G
  dsimp only
  split
  · rename_i request
    split
    · exact .inl (.refl svc)
    · rename_i scope
      generalize makeClientAckPkg _ _ = pkgbuff
      have sent := svc.sendMsg_keeps req pkgbuff (kernel.send 0)
      split
      · exact .inl (sent.trans
          (closeMark_keeps (sent.wellFormed well) (sent.inTable present) _))
      · split
        · split
          · exact .inl sent
          · rename_i free
            exact .inr ⟨_, sent, request, not_not.mp scope, not_lt.mp free, rfl⟩
        · exact .inl sent
  · split
    · split
      · rename_i client found
        exact .inl (closeMark_keeps well (findRoleConnSession_inTable found) _)
      · exact .inl (.refl svc)
    · exact .inl (.refl svc)

/-- A server packet to a client changes no table or logs a role in. -/
theorem processS2C_cases {svc : AppGwSvc} (well : svc.WellFormed) (kernel : Kernel)
    (pkg : MsgBuffer) :
    Keeps ConnectSession.content svc (svc.processS2C kernel pkg) ∨
      ∃ fd client roleid, isLoginS2C pkg.head ∧
        (RoleLoginRespL.ofBuffer pkg).uiRetCode = 0 ∧
        fd = connectionFd (RoleLoginRespL.ofBuffer pkg).llClientId ∧
        roleid = (RoleLoginRespL.ofBuffer pkg).uiRoleID ∧ svc.fdConnSs fd = some client ∧
        Keeps ConnectSession.content (svc.loginRole (kernel.clock 0) client roleid fd)
          (svc.processS2C kernel pkg) := by
  unfold AppGwSvc.processS2C
  dsimp only
  split
  · exact .inl (.refl svc)
  · split
    · rename_i answer
      split
      · exact .inl (.refl svc)
      · rename_i client found
        have present : svc.InTable client := ⟨_, found⟩
        split
        · rename_i success
          have logged := loginRole_keepsConnections well (kernel.clock 0) client
            (RoleLoginRespL.ofBuffer pkg).uiRoleID
            (connectionFd (RoleLoginRespL.ofBuffer pkg).llClientId)
          exact .inr ⟨_, client, _, answer, success, rfl, rfl, found,
            sendToClient_keeps (logged.wellFormed well) (logged.inTable present) kernel _⟩
        · exact .inl (sendToClient_keeps well present kernel _)
    · split
      · exact .inl (.refl svc)
      · rename_i client found
        exact .inl (sendToClient_keeps well (findRoleConnSession_inTable found) kernel _)

/-- The packet loop stores the shortened session and the new buffer. -/
theorem takePacket_keeps {svc : AppGwSvc} {ss : SessionPtr} {s new : ConnectSession}
    (live : svc.sessions ss = some s) (follows : Follows ConnectSession.login s new)
    (buffers : Nat → MsgBuffer) :
    Keeps ConnectSession.login svc
      { svc.modifySession ss (fun _ => new) with msgBuffer := buffers } := by
  unfold modifySession
  rw [live]
  exact ⟨⟨rfl, rfl, rfl, Related.update Follows.refl live follows, fun _ => .inl,
    List.Subset.refl _⟩, rfl, rfl⟩

/-- One pass of the packet loop has one of the three effects. -/
theorem packetPass_effect {svc : AppGwSvc} (well : svc.WellFormed) {ss : SessionPtr}
    (present : svc.InTable ss) (kernel : Kernel) (thread : Nat) :
    PacketEffect svc thread ss (svc.packetPass kernel thread ss).2.1 := by
  cases live : svc.sessions ss with
  | none =>
      apply PacketEffect.keeps
      rw [AppGwSvc.packetPass, live]
      exact .refl svc
  | some s =>
      have follows := getDataPack_follows s (svc.msgBuffer thread)
      rcases pack : s.getDataPack (svc.msgBuffer thread) with ⟨iRet, new, buffer, packet⟩
      rw [pack] at follows
      simp only [AppGwSvc.packetPass, live, pack]
      by_cases none : iRet = 0
      · rw [if_pos none]
        exact .keeps (.refl svc)
      rw [if_neg none]
      by_cases refused : iRet < 0
      · rw [if_pos refused]
        exact .keeps (closeMark_keeps well present _).toLogin
      rw [if_neg refused]
      have taken : svc.packetBuffer thread ss = some buffer := by
        simp only [packetBuffer, live, pack]
        rw [if_pos (by omega)]
      have before := takePacket_keeps live follows (Function.update svc.msgBuffer thread buffer)
      have stored : ({ svc.modifySession ss (fun _ => new) with
          msgBuffer := Function.update svc.msgBuffer thread buffer } : AppGwSvc).sessions ss =
          some new := by
        simp [modifySession, live]
      generalize ({ svc.modifySession ss (fun _ => new) with
        msgBuffer := Function.update svc.msgBuffer thread buffer } : AppGwSvc) = middle at *
      have wellMiddle := before.wellFormed well
      have presentMiddle := before.inTable present
      have unchanged : ∀ {next}, Keeps ConnectSession.content middle next →
          PacketEffect svc thread ss next := fun kept => .keeps (before.trans kept.toLogin)
      simp only [AppGwSvc.processPkg, stored]
      cases kind : new.connType with
      | outside =>
          dsimp only
          split
          · exact unchanged (processC2S_keeps wellMiddle presentMiddle kernel buffer)
          · exact unchanged (.refl middle)
      | inside =>
          have inside : s.connType = .inside := by rw [← follows.connType, kind]
          dsimp only
          split
          · rcases processS2C_cases wellMiddle kernel buffer with kept | logged
            · exact unchanged kept
            · obtain ⟨fd, client, roleid, answer, success, named, role, found, after⟩ := logged
              rw [before.fdConnSs] at found
              exact .logsIn s buffer fd client roleid _ middle live taken
                ⟨inside, answer, success, named, role, found⟩ before after.toLogin
          · split
            · rcases processS2G_cases wellMiddle presentMiddle kernel buffer with kept | registered
              · exact unchanged kept
              · obtain ⟨last, kept, request, scope, free, changed⟩ := registered
                rw [before.srvFd] at free
                exact .registers s buffer _ _ last live taken
                  ⟨inside, request, ⟨rfl, rfl⟩, checkSrvScope_eq_zero.mp scope, free⟩
                  (before.trans kept.toLogin) changed
            · exact unchanged (.refl middle)

/-- A reception keeps every table. -/
theorem receivePass_keeps {svc : AppGwSvc} (well : svc.WellFormed) (now : Nat) (fd : Int)
    (outcome : ConnectSession.RecvOutcome) :
    Keeps ConnectSession.login svc (svc.receivePass now fd outcome).1 := by
  unfold receivePass
  split
  · exact ⟨.ofEq rfl rfl rfl rfl rfl rfl, rfl, rfl⟩
  · rename_i ss found
    cases live : svc.sessions ss with
    | none => exact .refl svc
    | some s =>
        have stored := store_keeps live (recvMsg_follows s outcome now)
        dsimp only
        split
        · exact .refl svc
        · split
          · exact stored
          · split
            · exact stored.trans (closeMark_keeps (stored.wellFormed well)
                (stored.inTable ⟨fd, found⟩) now).toLogin
            · exact stored

/-- An accepted connection takes the next session object and a vacant table entry. -/
structure Accepts (svc : AppGwSvc) (lsfd : TcpStream) (ip : UInt32) (s : ConnectSession)
    (next : AppGwSvc) : Prop where
  sessions : next.sessions = Function.update svc.sessions svc.nextSession (some s)
  nextSession : next.nextSession = svc.nextSession + 1
  vacant : svc.fdConnSs (connectionFd s.connID) = none →
    next.fdConnSs = Function.update svc.fdConnSs (connectionFd s.connID) (some svc.nextSession)
  occupied : svc.fdConnSs (connectionFd s.connID) ≠ none → next.fdConnSs = svc.fdConnSs
  ipCount : next.ipCount = match lsfd with
    | .inside => svc.ipCount
    | .outside => Function.update svc.ipCount ip (some ((svc.ipCount ip).getD 0 + 1))
  roleIDFd : next.roleIDFd = svc.roleIDFd
  iSrvFd : next.iSrvFd = svc.iSrvFd
  queCloseConn : next.queCloseConn = svc.queCloseConn
  closeMarked : next.closeMarked = svc.closeMarked

theorem acceptSession_accepts (lsfd : TcpStream) (ip : UInt32) (port : UInt16)
    (connFd now : Nat) (counted : UInt32 → Option Int)
    (count : counted = match lsfd with
      | .inside => svc.ipCount
      | .outside => Function.update svc.ipCount ip (some ((svc.ipCount ip).getD 0 + 1))) :
    Accepts svc lsfd ip (ConnectSession.new (connectionId ip port connFd) lsfd now)
      (({ svc with ipCount := counted } : AppGwSvc).acceptSession lsfd ip port connFd now) := by
  unfold AppGwSvc.acceptSession AppGwSvc.insertConnSession
  dsimp only
  rw [Nat.add_sub_cancel]
  split
  · rename_i vacant
    exact ⟨rfl, rfl, fun _ => rfl, fun occupied => absurd vacant occupied, count, rfl, rfl, rfl,
      rfl⟩
  · rename_i ptr occupied
    refine ⟨rfl, rfl, fun vacant => ?_, fun _ => rfl, count, rfl, rfl, rfl, rfl⟩
    have absent : svc.fdConnSs (connectionFd (ConnectSession.new (connectionId ip port connFd) lsfd
      now).connID) = none := vacant
    rw [absent] at occupied
    cases occupied

/-- No accepted descriptor still has an entry in the connection table. -/
def FreshDescriptor (svc : AppGwSvc) : Event → Prop
  | .handleAccept _ ip port connFd _ =>
      svc.findFdConnSession (connectionFd (connectionId ip port connFd)) = none
  | _ => True

instance (svc : AppGwSvc) (event : Event) : Decidable (svc.FreshDescriptor event) :=
  match event with
  | .handleAccept _ _ _ _ _ => inferInstanceAs (Decidable (_ = none))
  | .receive _ _ _ | .packet _ _ _ | .closeMark _ _ | .removeConnSession _ => isTrue trivial

/-- The listener admits a connection when the address check passes. -/
def Admits (svc : AppGwSvc) (ini : IniOption) (lsfd : TcpStream) (ip : UInt32) : Prop :=
  lsfd = .outside → (svc.checkIpCount ini ip).1 = 0

instance (svc : AppGwSvc) (ini : IniOption) (lsfd : TcpStream) (ip : UInt32) :
    Decidable (svc.Admits ini lsfd ip) := inferInstanceAs (Decidable (_ → _))

/-- An accept changes nothing or admits the connection. -/
theorem handleAccept_cases (ini : IniOption) (lsfd : TcpStream) (ip : UInt32)
    (port : UInt16) (connFd now : Nat) :
    (¬ svc.Admits ini lsfd ip ∧ svc.handleAccept ini lsfd ip port connFd now = svc) ∨
      (svc.Admits ini lsfd ip ∧
        Accepts svc lsfd ip (ConnectSession.new (connectionId ip port connFd) lsfd now)
          (svc.handleAccept ini lsfd ip port connFd now)) := by
  cases lsfd with
  | inside =>
      refine .inr ⟨fun outside => ?_, ?_⟩
      · cases outside
      · exact acceptSession_accepts svc .inside ip port connFd now svc.ipCount rfl
  | outside =>
      unfold Admits
      simp only [AppGwSvc.handleAccept, AppGwSvc.checkIpCount]
      split
      · exact .inl ⟨by simp, by simp⟩
      · refine .inr ⟨by simp, ?_⟩
        exact acceptSession_accepts svc .outside ip port connFd now _ rfl

/-- The tables forget a session that is about to be deleted. -/
structure Forgets (svc : AppGwSvc) (s : ConnectSession) (next : AppGwSvc) : Prop where
  fdConnSs : next.fdConnSs = svc.fdConnSs
  sessions : Related (Follows ConnectSession.content) svc.sessions next.sessions
  nextSession : next.nextSession = svc.nextSession
  roleIDFd : next.roleIDFd =
    if s.connType = .outside ∧ s.isSameUser = 0 then (svc.removeRoleFdMap s.roleID).roleIDFd
    else svc.roleIDFd
  iSrvFd : next.iSrvFd =
    if s.connType = .inside ∧ s.loginStatus ≠ 0 then (svc.setSrvFd s.srvType s.srvSeq (-1)).iSrvFd
    else svc.iSrvFd
  ipCount : next.ipCount =
    if s.connType = .outside then (svc.decreaseIpCount (connectionIp s.connID)).ipCount
    else svc.ipCount
  queued : ∀ connId ∈ next.queCloseConn, connId ∈ svc.queCloseConn ∨
    ∃ ptr ∈ next.closeMarked, svc.fdConnSs (connectionFd connId) = some ptr
  marked : svc.closeMarked ⊆ next.closeMarked

/-- The close thread deletes the session that a queued descriptor finds. -/
structure Reaps (svc : AppGwSvc) (fd : Int) (ptr : SessionPtr) (s : ConnectSession)
    (next : AppGwSvc) : Prop where
  middle : ∃ middle, Forgets svc s middle ∧ next = { middle with
    sessions := Function.update middle.sessions ptr none
    fdConnSs := Function.update middle.fdConnSs fd none }
  found : svc.fdConnSs fd = some ptr
  live : svc.sessions ptr = some s
  named : ∃ connId ∈ svc.queCloseConn, connectionFd connId = fd

/-- The logout notice at most closes the main server's session. -/
theorem notifyClientClosed_keeps (s : ConnectSession)
    (outcome : ConnectSession.SendOutcome) :
    Keeps ConnectSession.content svc (svc.notifyClientClosed s outcome) := by
  unfold notifyClientClosed
  dsimp only
  split
  · exact .refl svc
  · split
    · exact .refl svc
    · split
      · exact .refl svc
      · split
        · exact .refl svc
        · exact svc.sendMsg_keeps _ _ _

/-- Clearing the tables of an outside session keeps every other table. -/
theorem removeRoleFdMap_keepsConnections (roleid : UInt32) :
    KeepsConnections ConnectSession.content svc (svc.removeRoleFdMap roleid) ∧
      (svc.removeRoleFdMap roleid).iSrvFd = svc.iSrvFd := by
  unfold removeRoleFdMap
  split
  · exact ⟨.refl svc, rfl⟩
  · exact ⟨.ofEq rfl rfl rfl rfl rfl rfl, rfl⟩

theorem removeRoleFdMap_roleIDFd_congr {svc other : AppGwSvc}
    (same : other.roleIDFd = svc.roleIDFd) (roleid : UInt32) :
    (other.removeRoleFdMap roleid).roleIDFd = (svc.removeRoleFdMap roleid).roleIDFd := by
  unfold removeRoleFdMap
  split
  · exact same
  · dsimp only
    rw [same]

theorem decreaseIpCount_congr {svc other : AppGwSvc} (same : other.ipCount = svc.ipCount)
    (ip : UInt32) : (other.decreaseIpCount ip).ipCount = (svc.decreaseIpCount ip).ipCount := by
  unfold decreaseIpCount
  rw [same]
  split
  · exact same
  · rfl

/-- The address count is the only table that its decrease changes. -/
theorem decreaseIpCount_frame (ip : UInt32) :
    svc.decreaseIpCount ip =
      { svc with ipCount := (svc.decreaseIpCount ip).ipCount } := by
  unfold decreaseIpCount
  split <;> rfl

theorem forgetSession_forgets (s : ConnectSession)
    (outcome : ConnectSession.SendOutcome) : Forgets svc s (svc.forgetSession s outcome) := by
  have same : Related (Follows ConnectSession.content) svc.sessions svc.sessions :=
    Related.refl Follows.refl _
  unfold forgetSession
  cases kind : s.connType with
  | inside =>
      dsimp only
      split
      · rename_i logged
        exact ⟨rfl, same, rfl, by simp [kind, setSrvFd], by simp [kind, logged],
          by simp [kind, setSrvFd], fun _ => .inl, List.Subset.refl _⟩
      · rename_i fresh
        exact ⟨rfl, same, rfl, by simp [kind], by simp [kind, fresh], by simp [kind],
          fun _ => .inl, List.Subset.refl _⟩
  | outside =>
      dsimp only
      split
      · rename_i own
        have notified := svc.notifyClientClosed_keeps s outcome
        obtain ⟨removed, slots⟩ :=
          (svc.notifyClientClosed s outcome).removeRoleFdMap_keepsConnections s.roleID
        have kept := notified.toKeepsConnections.trans removed
        have role := removeRoleFdMap_roleIDFd_congr notified.roleIDFd s.roleID
        have count := decreaseIpCount_congr kept.ipCount (connectionIp s.connID)
        rw [decreaseIpCount_frame]
        exact ⟨kept.fdConnSs, kept.sessions, kept.nextSession, by simp [kind, own, role],
          by simp [kind, slots, notified.iSrvFd], by simp [kind, count], kept.queued, kept.marked⟩
      · rename_i kicked
        rw [decreaseIpCount_frame]
        exact ⟨rfl, same, rfl, by simp [kind, kicked], by simp [kind], by simp [kind],
          fun _ => .inl, List.Subset.refl _⟩

/-- A shorter queue does not change what the tables forget. -/
theorem Forgets.popped {svc : AppGwSvc} {rest : List UInt64} (shorter : rest ⊆ svc.queCloseConn)
    {s : ConnectSession} {next : AppGwSvc}
    (forgets : Forgets { svc with queCloseConn := rest } s next) : Forgets svc s next where
  fdConnSs := forgets.fdConnSs
  sessions := forgets.sessions
  nextSession := forgets.nextSession
  roleIDFd := by
    have role : (({ svc with queCloseConn := rest } : AppGwSvc).removeRoleFdMap s.roleID).roleIDFd =
        (svc.removeRoleFdMap s.roleID).roleIDFd := by
      apply removeRoleFdMap_roleIDFd_congr
      rfl
    rw [forgets.roleIDFd, role]
  iSrvFd := forgets.iSrvFd
  ipCount := by
    have count : (({ svc with queCloseConn := rest } : AppGwSvc).decreaseIpCount
        (connectionIp s.connID)).ipCount =
        (svc.decreaseIpCount (connectionIp s.connID)).ipCount := by
      apply decreaseIpCount_congr
      rfl
    rw [forgets.ipCount, count]
  queued connId member := (forgets.queued connId member).imp (fun old => shorter old) id
  marked := forgets.marked

/-- One queue entry changes no table or deletes one session. -/
theorem removeQueued_cases {svc : AppGwSvc} {connId : UInt64} {rest : List UInt64}
    (queue : svc.queCloseConn = connId :: rest) (now : Nat)
    (outcome : ConnectSession.SendOutcome) :
    Keeps ConnectSession.content svc
        (({ svc with queCloseConn := rest } : AppGwSvc).removeQueued connId now outcome) ∨
      ∃ ptr s, Reaps svc (connectionFd connId) ptr s
        (({ svc with queCloseConn := rest } : AppGwSvc).removeQueued connId now outcome) := by
  have shorter : rest ⊆ svc.queCloseConn := by
    rw [queue]
    exact List.subset_cons_self connId rest
  have present : connId ∈ svc.queCloseConn := by
    rw [queue]
    exact List.mem_cons_self
  have popped : Keeps ConnectSession.content svc { svc with queCloseConn := rest } :=
    ⟨⟨rfl, rfl, rfl, Related.refl Follows.refl _, fun _ member => .inl (shorter member),
      List.Subset.refl _⟩, rfl, rfl⟩
  unfold removeQueued
  dsimp only
  split
  · exact .inl popped
  · rename_i ptr found
    split
    · exact .inl popped
    · rename_i s live
      split
      · refine .inl ⟨⟨rfl, rfl, rfl, Related.refl Follows.refl _, ?_, List.Subset.refl _⟩, rfl, rfl⟩
        intro other member
        rcases List.mem_append.mp member with old | again
        · exact .inl (shorter old)
        · obtain rfl := List.mem_singleton.mp again
          exact .inl present
      · have forgets := forgetSession_forgets { svc with queCloseConn := rest } s outcome
        exact .inr ⟨ptr, s, ⟨_, forgets.popped shorter, rfl⟩, found, live, connId, present, rfl⟩

namespace Reaps

variable {svc next : AppGwSvc} {fd : Int} {ptr : SessionPtr} {s : ConnectSession}

theorem fdConnSs (reaps : Reaps svc fd ptr s next) :
    next.fdConnSs = Function.update svc.fdConnSs fd none := by
  obtain ⟨middle, forgets, rfl⟩ := reaps.middle
  simp only [forgets.fdConnSs]

theorem nextSession (reaps : Reaps svc fd ptr s next) : next.nextSession = svc.nextSession := by
  obtain ⟨middle, forgets, rfl⟩ := reaps.middle
  exact forgets.nextSession

theorem sessions (reaps : Reaps svc fd ptr s next) :
    Related (Follows ConnectSession.content) (Function.update svc.sessions ptr none)
      next.sessions := by
  obtain ⟨middle, forgets, rfl⟩ := reaps.middle
  exact forgets.sessions.erase ptr

theorem roleIDFd (reaps : Reaps svc fd ptr s next) : next.roleIDFd =
    if s.connType = .outside ∧ s.isSameUser = 0 then (svc.removeRoleFdMap s.roleID).roleIDFd
    else svc.roleIDFd := by
  obtain ⟨middle, forgets, rfl⟩ := reaps.middle
  exact forgets.roleIDFd

theorem iSrvFd (reaps : Reaps svc fd ptr s next) : next.iSrvFd =
    if s.connType = .inside ∧ s.loginStatus ≠ 0 then (svc.setSrvFd s.srvType s.srvSeq (-1)).iSrvFd
    else svc.iSrvFd := by
  obtain ⟨middle, forgets, rfl⟩ := reaps.middle
  exact forgets.iSrvFd

theorem ipCount (reaps : Reaps svc fd ptr s next) : next.ipCount =
    if s.connType = .outside then (svc.decreaseIpCount (connectionIp s.connID)).ipCount
    else svc.ipCount := by
  obtain ⟨middle, forgets, rfl⟩ := reaps.middle
  exact forgets.ipCount

theorem queued (reaps : Reaps svc fd ptr s next) {connId : UInt64}
    (member : connId ∈ next.queCloseConn) : connId ∈ svc.queCloseConn ∨
      ∃ ptr ∈ next.closeMarked, svc.fdConnSs (connectionFd connId) = some ptr := by
  obtain ⟨middle, forgets, rfl⟩ := reaps.middle
  exact forgets.queued connId member

theorem closeMarked (reaps : Reaps svc fd ptr s next) : svc.closeMarked ⊆ next.closeMarked := by
  obtain ⟨middle, forgets, rfl⟩ := reaps.middle
  exact forgets.marked

/-- The other sessions stay. -/
theorem forward (reaps : Reaps svc fd ptr s next) {other : SessionPtr} {session : ConnectSession}
    (different : other ≠ ptr) (live : svc.sessions other = some session) :
    ∃ later, next.sessions other = some later ∧ Follows ConnectSession.content session later :=
  reaps.sessions.forward (by rwa [Function.update_of_ne different])

/-- Every later session was another session before. -/
theorem backward (reaps : Reaps svc fd ptr s next) {other : SessionPtr} {later : ConnectSession}
    (live : next.sessions other = some later) : other ≠ ptr ∧
      ∃ session, svc.sessions other = some session ∧
        Follows ConnectSession.content session later := by
  obtain ⟨session, before, follows⟩ := reaps.sessions.backward live
  have different : other ≠ ptr := by
    rintro rfl
    rw [Function.update_self] at before
    cases before
  rw [Function.update_of_ne different] at before
  exact ⟨different, session, before, follows⟩

/-- A remaining entry is an old entry under another descriptor. -/
theorem found_old (reaps : Reaps svc fd ptr s next) {key : Int} {other : SessionPtr}
    (found : next.fdConnSs key = some other) : key ≠ fd ∧ svc.fdConnSs key = some other := by
  rw [reaps.fdConnSs] at found
  have different : key ≠ fd := by
    rintro rfl
    rw [Function.update_self] at found
    cases found
  exact ⟨different, by rwa [Function.update_of_ne different] at found⟩

/-- The entries under other descriptors stay and find other sessions. -/
theorem found_kept (reaps : Reaps svc fd ptr s next) (well : svc.WellFormed) {key : Int}
    {other : SessionPtr} (different : key ≠ fd) (found : svc.fdConnSs key = some other) :
    next.fdConnSs key = some other ∧ other ≠ ptr := by
  refine ⟨by rw [reaps.fdConnSs, Function.update_of_ne different, found], ?_⟩
  rintro rfl
  obtain ⟨first, live, own⟩ := well.found key other found
  obtain ⟨second, live', own'⟩ := well.found fd other reaps.found
  obtain rfl := Option.some.inj (live.symm.trans live')
  exact different (own.symm.trans own')

/-- A deletion keeps the tables well formed. -/
theorem wellFormed (reaps : Reaps svc fd ptr s next) (well : svc.WellFormed) :
    next.WellFormed := by
  constructor
  · intro key other found
    obtain ⟨different, old⟩ := reaps.found_old found
    obtain ⟨session, live, own⟩ := well.found key other old
    obtain ⟨later, live', follows⟩ := reaps.forward (reaps.found_kept well different old).2 live
    exact ⟨later, live', by rw [follows.connID, own]⟩
  · intro other beyond
    rw [reaps.nextSession] at beyond
    by_contra present
    obtain ⟨later, live⟩ := Option.ne_none_iff_exists'.mp present
    obtain ⟨-, session, before, -⟩ := reaps.backward live
    rw [well.fresh other beyond] at before
    cases before

end Reaps

/-- An accepted connection is found under its own descriptor or not at all. -/
theorem Accepts.wellFormed {svc next : AppGwSvc} {lsfd : TcpStream} {ip : UInt32}
    {s : ConnectSession} (accepts : Accepts svc lsfd ip s next) (well : svc.WellFormed) :
    next.WellFormed := by
  have old : ∀ fd ptr, svc.fdConnSs fd = some ptr →
      ∃ later, next.sessions ptr = some later ∧ connectionFd later.connID = fd := by
    intro fd ptr found
    obtain ⟨session, live, own⟩ := well.found fd ptr found
    have different : ptr ≠ svc.nextSession := by
      rintro rfl
      rw [well.fresh _ (le_refl _)] at live
      cases live
    exact ⟨session, by rw [accepts.sessions, Function.update_of_ne different, live], own⟩
  constructor
  · intro fd ptr found
    by_cases vacant : svc.fdConnSs (connectionFd s.connID) = none
    · rw [accepts.vacant vacant] at found
      by_cases same : fd = connectionFd s.connID
      · rw [same, Function.update_self] at found
        obtain rfl := Option.some.inj found
        exact ⟨s, by rw [accepts.sessions, Function.update_self], same.symm⟩
      · rw [Function.update_of_ne same] at found
        exact old fd ptr found
    · rw [accepts.occupied vacant] at found
      exact old fd ptr found
  · intro ptr beyond
    rw [accepts.nextSession] at beyond
    have different : ptr ≠ svc.nextSession := (Nat.lt_of_succ_le beyond).ne'
    rw [accepts.sessions, Function.update_of_ne different]
    exact well.fresh ptr (Nat.le_of_succ_le beyond)

theorem Accepts.found {svc next : AppGwSvc} {lsfd : TcpStream} {ip : UInt32} {s : ConnectSession}
    (accepts : Accepts svc lsfd ip s next) (vacant : svc.fdConnSs (connectionFd s.connID) = none) :
    next.fdConnSs (connectionFd s.connID) = some svc.nextSession := by
  rw [accepts.vacant vacant, Function.update_self]

/-- An accepted connection replaces no table entry. -/
theorem Accepts.keepsFound {svc next : AppGwSvc} {lsfd : TcpStream} {ip : UInt32}
    {s : ConnectSession} (accepts : Accepts svc lsfd ip s next) {fd : Int} {ptr : SessionPtr}
    (found : svc.fdConnSs fd = some ptr) : next.fdConnSs fd = some ptr := by
  by_cases vacant : svc.fdConnSs (connectionFd s.connID) = none
  · have different : fd ≠ connectionFd s.connID := by
      rintro rfl
      rw [vacant] at found
      cases found
    rw [accepts.vacant vacant, Function.update_of_ne different, found]
  · rw [accepts.occupied vacant, found]

/-- An accepted connection replaces no session. -/
theorem Accepts.keepsLive {svc next : AppGwSvc} {lsfd : TcpStream} {ip : UInt32}
    {s : ConnectSession} (accepts : Accepts svc lsfd ip s next) (well : svc.WellFormed)
    {ptr : SessionPtr} {session : ConnectSession} (live : svc.sessions ptr = some session) :
    next.sessions ptr = some session := by
  have old : ptr ≠ svc.nextSession := by
    rintro rfl
    rw [well.fresh _ (le_refl _)] at live
    cases live
  rw [accepts.sessions, Function.update_of_ne old, live]

/-- A property that queue entries preserve holds after the whole pass. -/
theorem removeLoop_preserves (holds : AppGwSvc → Prop)
    (keeps : ∀ svc next, holds svc → Keeps ConnectSession.content svc next → holds next)
    (reaps : ∀ svc next fd ptr s, holds svc → Reaps svc fd ptr s next → holds next)
    (kernel : Kernel) (remaining index : Nat) (svc : AppGwSvc) (before : holds svc) :
    holds (removeLoop kernel remaining index svc) := by
  induction remaining generalizing index svc with
  | zero => exact before
  | succ remaining ih =>
      unfold removeLoop
      split
      · exact before
      · rename_i connId rest queue
        apply ih
        rcases removeQueued_cases queue (kernel.clock index) (kernel.send index) with kept | reaped
        · exact keeps _ _ before kept
        · obtain ⟨ptr, s, reaped⟩ := reaped
          exact reaps _ _ _ ptr s before reaped

/-- An invariant of the gateway is preserved by each of the five effects of its steps. -/
structure StepRule (ini : IniOption) (allowed : AppGwSvc → Event → Prop)
    (holds : AppGwSvc → Prop) : Prop where
  keeps : ∀ {svc next}, WellFormed svc → holds svc → Keeps ConnectSession.login svc next →
    holds next
  accepts : ∀ {svc next lsfd ip port connFd now}, WellFormed svc → holds svc →
    allowed svc (.handleAccept lsfd ip port connFd now) → connFd < 2 ^ 31 →
    svc.Admits ini lsfd ip →
    Accepts svc lsfd ip (ConnectSession.new (connectionId ip port connFd) lsfd now) next →
    holds next
  registers : ∀ {svc middle thread fd kernel ss s pkg ucSrvType ucSrvSeq}, WellFormed svc →
    holds svc → allowed svc (.packet thread fd kernel) → svc.fdConnSs fd = some ss →
    svc.sessions ss = some s → svc.packetBuffer thread ss = some pkg →
    svc.Registers s pkg ucSrvType ucSrvSeq → Keeps ConnectSession.login svc middle →
    WellFormed middle → holds middle → holds (middle.registerServer ss ucSrvType ucSrvSeq)
  logsIn : ∀ {svc middle thread fd kernel ss s pkg key client roleid now}, WellFormed svc →
    holds svc → allowed svc (.packet thread fd kernel) → svc.fdConnSs fd = some ss →
    svc.sessions ss = some s → svc.packetBuffer thread ss = some pkg →
    svc.LogsIn s pkg key client roleid → Keeps ConnectSession.login svc middle →
    WellFormed middle → holds middle → holds (middle.loginRole now client roleid key)
  reaps : ∀ {svc next fd ptr s}, WellFormed svc → holds svc → Reaps svc fd ptr s next → holds next

namespace StepRule

variable {ini : IniOption} {allowed : AppGwSvc → Event → Prop} {holds : AppGwSvc → Prop}

/-- A property of the connections alone depends only on the accepts and the deletions. -/
theorem ofConnections
    (moved : ∀ {svc next}, WellFormed svc → holds svc →
      KeepsConnections ConnectSession.connection svc next → holds next)
    (accepts : ∀ {svc next lsfd ip port connFd now}, WellFormed svc → holds svc →
      allowed svc (.handleAccept lsfd ip port connFd now) → connFd < 2 ^ 31 →
      svc.Admits ini lsfd ip →
      Accepts svc lsfd ip (ConnectSession.new (connectionId ip port connFd) lsfd now) next →
      holds next)
    (reaps : ∀ {svc next fd ptr s}, WellFormed svc → holds svc → Reaps svc fd ptr s next →
      holds next) : StepRule ini allowed holds where
  keeps well before kept :=
    moved well before (kept.toKeepsConnections.weaken fun _ _ => Follows.toConnection)
  accepts := accepts
  registers _ _ _ _ _ _ _ _ well before :=
    moved well before (registerServer_keepsConnections _ _ _ _)
  logsIn _ _ _ _ _ _ _ _ well before :=
    moved well before (loginRole_keepsConnections well _ _ _ _)
  reaps := reaps

/-- One step preserves the invariant and the well-formed tables. -/
theorem step (rule : StepRule ini allowed holds) {svc next : AppGwSvc} {event : Event}
    (well : svc.WellFormed) (before : holds svc) (permitted : allowed svc event)
    (enabled : AppGwSvc.step ini svc event = some next) : next.WellFormed ∧ holds next := by
  have quiet : ∀ {next}, Keeps ConnectSession.login svc next → next.WellFormed ∧ holds next :=
    fun kept => ⟨kept.wellFormed well, rule.keeps well before kept⟩
  cases event with
  | handleAccept lsfd ip port connFd now =>
      simp only [AppGwSvc.step] at enabled
      split at enabled
      · cases enabled
      · rename_i allowedFd
        obtain rfl := Option.some.inj enabled
        rcases svc.handleAccept_cases ini lsfd ip port connFd now with
          ⟨-, same⟩ | ⟨admitted, accepts⟩
        · rw [same]
          exact ⟨well, before⟩
        · exact ⟨accepts.wellFormed well, rule.accepts well before permitted
            (not_le.mp (not_or.mp allowedFd).2) admitted accepts⟩
  | receive fd outcome now =>
      have kept := receivePass_keeps well now fd outcome
      simp only [AppGwSvc.step] at enabled
      split at enabled
      · obtain rfl := Option.some.inj enabled
        exact quiet kept
      · split at enabled
        · obtain rfl := Option.some.inj enabled
          exact quiet kept
        · cases enabled
  | packet thread fd kernel =>
      obtain ⟨ss, found, rfl⟩ := Option.map_eq_some_iff.mp enabled
      cases packetPass_effect well ⟨fd, found⟩ kernel thread with
      | keeps kept => exact quiet kept
      | registers s pkg ucSrvType ucSrvSeq middle live taken registered kept changed =>
          have wellMiddle := kept.wellFormed well
          have registration := registerServer_keepsConnections middle ss ucSrvType ucSrvSeq
          rw [changed]
          exact ⟨registration.wellFormed wellMiddle,
            rule.registers well before permitted found live taken registered kept wellMiddle
              (rule.keeps well before kept)⟩
      | logsIn s pkg key client roleid now middle live taken acknowledged kept after =>
          have wellMiddle := kept.wellFormed well
          have login := loginRole_keepsConnections wellMiddle now client roleid key
          have wellLogged := login.wellFormed wellMiddle
          have logged : holds (middle.loginRole now client roleid key) :=
            rule.logsIn well before permitted found live taken acknowledged kept wellMiddle
              (rule.keeps well before kept)
          exact ⟨after.wellFormed wellLogged, rule.keeps wellLogged logged after⟩
  | closeMark fd now =>
      obtain ⟨ss, found, rfl⟩ := Option.map_eq_some_iff.mp enabled
      exact quiet (closeMark_keeps well ⟨fd, found⟩ now).toLogin
  | removeConnSession kernel =>
      obtain rfl := Option.some.inj enabled
      apply removeLoop_preserves fun svc => svc.WellFormed ∧ holds svc
      · rintro svc next ⟨well, before⟩ kept
        exact ⟨kept.wellFormed well, rule.keeps well before kept.toLogin⟩
      · rintro svc next fd ptr s ⟨well, before⟩ reaped
        exact ⟨reaped.wellFormed well, rule.reaps well before reaped⟩
      · exact ⟨well, before⟩

/-- The tables of a new gateway are well formed. -/
theorem initial_wellFormed : AppGwSvc.initial.WellFormed where
  found _ _ present := nomatch present
  fresh _ _ := rfl

/-- A run keeps the invariant that its steps keep. -/
theorem run (rule : StepRule ini allowed holds) (start : holds AppGwSvc.initial)
    {history : History AppGwSvc Event} {svc : AppGwSvc}
    (reached : Run (AppGwSvc.step ini) allowed AppGwSvc.initial history svc) :
    svc.WellFormed ∧ holds svc :=
  reached.invariant (fun svc => svc.WellFormed ∧ holds svc) ⟨initial_wellFormed, start⟩
    fun _ _ _ before permitted enabled => rule.step before.1 before.2 permitted enabled

end StepRule

end AppSvr.Gateway.AppGwSvc
