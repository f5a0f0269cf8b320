/-
This file states what the gateway operations leave unchanged.
-/

import AppSvr.Construction.Gateway.Process
import AppSvr.ToMathlib.Related

namespace AppSvr.Gateway
open PartialMap

variable (s : ConnectSession)

/-- Closing a connection changes only these four fields. -/
def ConnectSession.content : ConnectSession :=
  { s with stamp := 0, closeFlag := 0, closedNum := 0, fd := 0 }

/-- The login view also ignores the received bytes. -/
def ConnectSession.login : ConnectSession :=
  { s.content with recvBuff := [] }

/-- The server view has the fields of a registration. -/
def ConnectSession.server : UInt8 × UInt8 × UInt8 :=
  (s.loginStatus, s.srvType, s.srvSeq)

/-- A role that logs in elsewhere changes only the kick mark and the closing fields. -/
def ConnectSession.unkicked : ConnectSession :=
  { s.content with isSameUser := 0 }

/-- The stream view has the received bytes. -/
def ConnectSession.stream : List UInt8 := s.recvBuff

/-- The connection view has no further fields. -/
def ConnectSession.connection (_ : ConnectSession) : Unit := ()

variable {View : Type} {view : ConnectSession → View}

/-- A session keeps its connection and its view, and it is never reopened. -/
structure Follows (view : ConnectSession → View) (s later : ConnectSession) : Prop where
  connType : later.connType = s.connType
  connID : later.connID = s.connID
  same : view later = view s
  closed : s.closeFlag ≠ 0 → later.closeFlag ≠ 0

namespace Follows

theorem refl (s : ConnectSession) : Follows view s s := ⟨rfl, rfl, rfl, id⟩

theorem trans {first second third : ConnectSession} (before : Follows view first second)
    (after : Follows view second third) : Follows view first third where
  connType := after.connType.trans before.connType
  connID := after.connID.trans before.connID
  same := after.same.trans before.same
  closed := after.closed ∘ before.closed

theorem weaken {Coarse : Type} {coarse : ConnectSession → Coarse} {s later : ConnectSession}
    (follows : Follows view s later) (project : View → Coarse)
    (factor : ∀ s, coarse s = project (view s)) : Follows coarse s later where
  connType := follows.connType
  connID := follows.connID
  same := by rw [factor, factor, follows.same]
  closed := follows.closed

variable {s later : ConnectSession}

theorem toLogin (follows : Follows ConnectSession.content s later) :
    Follows ConnectSession.login s later :=
  follows.weaken (fun s => { s with recvBuff := [] }) fun _ => rfl

theorem loginToServer (follows : Follows ConnectSession.login s later) :
    Follows ConnectSession.server s later :=
  follows.weaken (fun s => (s.loginStatus, s.srvType, s.srvSeq)) fun _ => rfl

theorem toUnkicked (follows : Follows ConnectSession.content s later) :
    Follows ConnectSession.unkicked s later :=
  follows.weaken (fun s => { s with isSameUser := 0 }) fun _ => rfl

theorem unkickedToServer
    (follows : Follows ConnectSession.unkicked s later) : Follows ConnectSession.server s later :=
  follows.weaken ConnectSession.server fun _ => rfl

theorem unkickedToStream
    (follows : Follows ConnectSession.unkicked s later) : Follows ConnectSession.stream s later :=
  follows.weaken ConnectSession.recvBuff fun _ => rfl

theorem toStream (follows : Follows ConnectSession.content s later) :
    Follows ConnectSession.stream s later := follows.toUnkicked.unkickedToStream

theorem toConnection (follows : Follows view s later) :
    Follows ConnectSession.connection s later :=
  follows.weaken (fun _ => ()) fun _ => rfl

section Login

variable {s later : ConnectSession} (follows : Follows ConnectSession.login s later)
include follows

theorem loginStatus : later.loginStatus = s.loginStatus := by
  have same := congrArg ConnectSession.loginStatus follows.same
  exact same

theorem roleID : later.roleID = s.roleID := by
  have same := congrArg ConnectSession.roleID follows.same
  exact same

theorem isSameUser : later.isSameUser = s.isSameUser := by
  have same := congrArg ConnectSession.isSameUser follows.same
  exact same

theorem srvType : later.srvType = s.srvType := by
  have same := congrArg ConnectSession.srvType follows.same
  exact same

theorem srvSeq : later.srvSeq = s.srvSeq := by
  have same := congrArg ConnectSession.srvSeq follows.same
  exact same

end Login

end Follows

@[simp] theorem ConnectSession.new_connID (connID : UInt64) (connType : TcpStream) (now : Nat) :
    (ConnectSession.new connID connType now).connID = connID := rfl

variable (s : ConnectSession)

theorem closeConnNoLock_closed : s.closeConnNoLock.closeFlag = 1 := rfl

theorem closeConnNoLock_follows :
    Follows ConnectSession.content s s.closeConnNoLock :=
  ⟨rfl, rfl, rfl, fun _ => by rw [closeConnNoLock_closed]; decide⟩

/-- A transmission at most closes the session. -/
theorem session_sendMsg_follows (buffer : List UInt8)
    (outcome : ConnectSession.SendOutcome) :
    Follows ConnectSession.content s (s.sendMsg buffer outcome).2.1 := by
  unfold ConnectSession.sendMsg
  split
  · exact .refl s
  · cases outcome with
    | sent => exact .refl s
    | failed written => exact closeConnNoLock_follows s

/-- A reception keeps the login of the session. -/
theorem recvMsg_follows (outcome : ConnectSession.RecvOutcome) (now : Nat) :
    Follows ConnectSession.login s (s.recvMsg outcome now).2 := by
  unfold ConnectSession.recvMsg
  split
  · exact .refl s
  · cases outcome with
    | data bytes => exact ⟨rfl, rfl, rfl, id⟩
    | wouldBlock => exact .refl s
    | error => exact (closeConnNoLock_follows s).toLogin
    | peerClosed => exact (closeConnNoLock_follows s).toLogin

/-- Taking a packet out keeps the login of the session. -/
theorem getDataPack_follows (ptrData : MsgBuffer) :
    Follows ConnectSession.login s (s.getDataPack ptrData).2.1 := by
  unfold ConnectSession.getDataPack ConnectSession.checkDataPack
  split
  · exact .refl s
  · dsimp only
    split
    · exact .refl s
    · split
      · exact .refl s
      · exact ⟨rfl, rfl, rfl, id⟩

namespace AppGwSvc

/-- The connection table finds live sessions under their own descriptors. -/
structure WellFormed (svc : AppGwSvc) : Prop where
  found : ∀ fd ptr, svc.fdConnSs fd = some ptr →
    ∃ s, svc.sessions ptr = some s ∧ connectionFd s.connID = fd
  fresh : ∀ ptr, svc.nextSession ≤ ptr → svc.sessions ptr = none

/-- The connections keep their tables; a queued identifier is old or names a marked session. -/
structure KeepsConnections (view : ConnectSession → View) (svc next : AppGwSvc) : Prop where
  fdConnSs : next.fdConnSs = svc.fdConnSs
  ipCount : next.ipCount = svc.ipCount
  nextSession : next.nextSession = svc.nextSession
  sessions : Related (Follows view) svc.sessions next.sessions
  queued : ∀ connId ∈ next.queCloseConn, connId ∈ svc.queCloseConn ∨
    ∃ ptr ∈ next.closeMarked, svc.fdConnSs (connectionFd connId) = some ptr
  marked : svc.closeMarked ⊆ next.closeMarked

/-- The role table and the server slots are kept as well. -/
structure Keeps (view : ConnectSession → View) (svc next : AppGwSvc) : Prop
    extends KeepsConnections view svc next where
  roleIDFd : next.roleIDFd = svc.roleIDFd
  iSrvFd : next.iSrvFd = svc.iSrvFd

namespace KeepsConnections

/-- The connections ignore the other tables. -/
theorem ofEq {svc next : AppGwSvc} (fdConnSs : next.fdConnSs = svc.fdConnSs)
    (ipCount : next.ipCount = svc.ipCount) (nextSession : next.nextSession = svc.nextSession)
    (sessions : next.sessions = svc.sessions) (queue : next.queCloseConn = svc.queCloseConn)
    (marked : next.closeMarked = svc.closeMarked) : KeepsConnections view svc next where
  fdConnSs := fdConnSs
  ipCount := ipCount
  nextSession := nextSession
  sessions := by
    rw [sessions]
    exact Related.refl Follows.refl _
  queued connId member := .inl (queue ▸ member)
  marked := by
    rw [marked]
    exact List.Subset.refl _

theorem refl (svc : AppGwSvc) : KeepsConnections view svc svc :=
  ofEq rfl rfl rfl rfl rfl rfl

theorem trans {first second third : AppGwSvc} (before : KeepsConnections view first second)
    (after : KeepsConnections view second third) : KeepsConnections view first third where
  fdConnSs := after.fdConnSs.trans before.fdConnSs
  ipCount := after.ipCount.trans before.ipCount
  nextSession := after.nextSession.trans before.nextSession
  sessions := before.sessions.trans (fun _ _ _ => Follows.trans) after.sessions
  queued connId member := by
    rcases after.queued connId member with old | ⟨ptr, marked, found⟩
    · rcases before.queued connId old with older | ⟨ptr, marked, found⟩
      · exact .inl older
      · exact .inr ⟨ptr, after.marked marked, found⟩
    · rw [before.fdConnSs] at found
      exact .inr ⟨ptr, marked, found⟩
  marked := List.Subset.trans before.marked after.marked

theorem weaken {Coarse : Type} {coarse : ConnectSession → Coarse} {svc next : AppGwSvc}
    (keeps : KeepsConnections view svc next)
    (implies : ∀ s later, Follows view s later → Follows coarse s later) :
    KeepsConnections coarse svc next where
  fdConnSs := keeps.fdConnSs
  ipCount := keeps.ipCount
  nextSession := keeps.nextSession
  sessions := keeps.sessions.mono implies
  queued := keeps.queued
  marked := keeps.marked

theorem wellFormed {svc next : AppGwSvc} (keeps : KeepsConnections view svc next)
    (before : svc.WellFormed) : next.WellFormed where
  found fd ptr present := by
    rw [keeps.fdConnSs] at present
    obtain ⟨s, live, own⟩ := before.found fd ptr present
    obtain ⟨later, live', follows⟩ := keeps.sessions.forward live
    exact ⟨later, live', by rw [follows.connID, own]⟩
  fresh ptr beyond := by
    rw [keeps.nextSession] at beyond
    exact keeps.sessions.absent.mpr (before.fresh ptr beyond)

end KeepsConnections

namespace Keeps

theorem refl (svc : AppGwSvc) : Keeps view svc svc :=
  ⟨KeepsConnections.refl svc, rfl, rfl⟩

theorem trans {first second third : AppGwSvc} (before : Keeps view first second)
    (after : Keeps view second third) : Keeps view first third :=
  ⟨before.toKeepsConnections.trans after.toKeepsConnections,
    after.roleIDFd.trans before.roleIDFd, after.iSrvFd.trans before.iSrvFd⟩

theorem toLogin {svc next : AppGwSvc} (keeps : Keeps ConnectSession.content svc next) :
    Keeps ConnectSession.login svc next :=
  ⟨keeps.toKeepsConnections.weaken fun _ _ => Follows.toLogin, keeps.roleIDFd, keeps.iSrvFd⟩

theorem srvFd {svc next : AppGwSvc} (keeps : Keeps view svc next) (ucSrvType ucSrvSeq : UInt8) :
    next.srvFd ucSrvType ucSrvSeq = svc.srvFd ucSrvType ucSrvSeq := by
  unfold AppGwSvc.srvFd
  rw [keeps.iSrvFd]

end Keeps

/-- The connection table finds the session under some descriptor. -/
def InTable (svc : AppGwSvc) (ptr : SessionPtr) : Prop := ∃ fd, svc.fdConnSs fd = some ptr

theorem KeepsConnections.inTable {svc next : AppGwSvc} (keeps : KeepsConnections view svc next)
    {ptr : SessionPtr} (present : svc.InTable ptr) : next.InTable ptr := by
  obtain ⟨fd, found⟩ := present
  exact ⟨fd, by rw [keeps.fdConnSs, found]⟩

variable {svc : AppGwSvc}

theorem findRoleConnSession_inTable {roleid : UInt32} {ptr : SessionPtr}
    (found : svc.findRoleConnSession roleid = some ptr) : svc.InTable ptr := by
  unfold findRoleConnSession at found
  dsimp only at found
  split at found
  · cases found
  · exact ⟨_, found⟩

/-- The heap update of one live session keeps every table. -/
theorem store_keeps {ptr : SessionPtr} {s later : ConnectSession}
    (live : svc.sessions ptr = some s) (follows : Follows view s later) :
    Keeps view svc (svc.store ptr s later) where
  fdConnSs := rfl
  ipCount := rfl
  nextSession := rfl
  sessions := Related.update Follows.refl live follows
  queued _ member := .inl member
  marked := List.Subset.refl _
  roleIDFd := rfl
  iSrvFd := rfl

theorem sendMsg_keeps (svc : AppGwSvc) (ptr : SessionPtr) (buffer : List UInt8)
    (outcome : ConnectSession.SendOutcome) :
    Keeps ConnectSession.content svc (svc.sendMsg ptr buffer outcome).2 := by
  unfold AppGwSvc.sendMsg
  cases live : svc.sessions ptr with
  | none => exact .refl svc
  | some s =>
      have stored := store_keeps live (session_sendMsg_follows s buffer outcome)
      exact ⟨⟨rfl, rfl, rfl, stored.sessions, stored.queued, stored.marked⟩, rfl, rfl⟩

/-- A transmission writes to its receiver alone. -/
theorem sendMsg_wire (svc : AppGwSvc) (ptr : SessionPtr) (buffer : List UInt8)
    (outcome : ConnectSession.SendOutcome) :
    (svc.sendMsg ptr buffer outcome).2.wire = svc.wire ∨
      ∃ written, (svc.sendMsg ptr buffer outcome).2.wire = svc.wire ++ [(ptr, written)] := by
  unfold AppGwSvc.sendMsg
  cases svc.sessions ptr with
  | none => exact .inl rfl
  | some s =>
      dsimp only
      split
      · exact .inl rfl
      · exact .inr ⟨_, rfl⟩

@[simp] theorem closeMarkConnSession_wire (svc : AppGwSvc) (now : Nat) (ptr : SessionPtr) :
    (svc.closeMarkConnSession now ptr).wire = svc.wire := by
  unfold AppGwSvc.closeMarkConnSession
  split <;> rfl

theorem sendToClient_wire (svc : AppGwSvc) (kernel : Kernel) (client : SessionPtr)
    (pkgbuff : PkgBuff) :
    (svc.sendToClient kernel client pkgbuff).wire = svc.wire ∨
      ∃ written,
        (svc.sendToClient kernel client pkgbuff).wire = svc.wire ++ [(client, written)] := by
  have sent := svc.sendMsg_wire client pkgbuff (kernel.send 0)
  unfold AppGwSvc.sendToClient
  dsimp only
  split
  · rwa [closeMarkConnSession_wire]
  · exact sent

@[simp] theorem closeMarkConnSession_roleIDFd (svc : AppGwSvc) (now : Nat) (ptr : SessionPtr) :
    (svc.closeMarkConnSession now ptr).roleIDFd = svc.roleIDFd := by
  unfold AppGwSvc.closeMarkConnSession
  split <;> rfl

@[simp] theorem closeMarkConnSession_fdConnSs (svc : AppGwSvc) (now : Nat) (ptr : SessionPtr) :
    (svc.closeMarkConnSession now ptr).fdConnSs = svc.fdConnSs := by
  unfold AppGwSvc.closeMarkConnSession
  split <;> rfl

@[simp] theorem closeMarkConnSession_iSrvFd (svc : AppGwSvc) (now : Nat) (ptr : SessionPtr) :
    (svc.closeMarkConnSession now ptr).iSrvFd = svc.iSrvFd := by
  unfold AppGwSvc.closeMarkConnSession
  split <;> rfl

/-- The mark queues the identifier of a session that the table finds. -/
theorem closeMark_keeps (well : svc.WellFormed) {ptr : SessionPtr}
    (present : svc.InTable ptr) (now : Nat) :
    Keeps ConnectSession.content svc (svc.closeMarkConnSession now ptr) := by
  obtain ⟨fd, found⟩ := present
  obtain ⟨s, live, own⟩ := well.found fd ptr found
  have follows : Follows ConnectSession.content s { s with stamp := now }.closeConnNoLock :=
    ⟨rfl, rfl, rfl, fun _ => by rw [closeConnNoLock_closed]; decide⟩
  have stored := store_keeps live follows
  unfold AppGwSvc.closeMarkConnSession
  rw [live]
  refine ⟨⟨rfl, rfl, rfl, stored.sessions, ?_, ?_⟩, rfl, rfl⟩
  · intro connId member
    rcases List.mem_append.mp member with old | new
    · exact .inl old
    · obtain rfl := List.mem_singleton.mp new
      exact .inr ⟨ptr, by simp, by rw [own, found]⟩
  · exact List.subset_append_left _ _

/-- A transmission that marks its receiver on failure keeps every table. -/
theorem answerClient_keeps (well : svc.WellFormed) {req : SessionPtr}
    (present : svc.InTable req) (kernel : Kernel) (call : Nat) (pkgbuff : PkgBuff) :
    Keeps ConnectSession.content svc (svc.answerClient kernel call req pkgbuff) := by
  have sent := svc.sendMsg_keeps req pkgbuff (kernel.send call)
  unfold AppGwSvc.answerClient
  dsimp only
  split
  · exact sent.trans (closeMark_keeps (sent.wellFormed well) (sent.inTable present) _)
  · exact sent

theorem sendToClient_keeps (well : svc.WellFormed) {client : SessionPtr}
    (present : svc.InTable client) (kernel : Kernel) (pkgbuff : PkgBuff) :
    Keeps ConnectSession.content svc (svc.sendToClient kernel client pkgbuff) := by
  have sent := svc.sendMsg_keeps client pkgbuff (kernel.send 0)
  unfold AppGwSvc.sendToClient
  dsimp only
  split
  · exact sent.trans (closeMark_keeps (sent.wellFormed well) (sent.inTable present) _)
  · exact sent

/-- A forwarded packet is a login or comes from a session that is logged in. -/
theorem routeC2S_forward {s : ConnectSession} {pkg : MsgBuffer}
    {srv : SessionPtr} {pkgbuff : PkgBuff} (forwards : svc.routeC2S s pkg = .forward srv pkgbuff) :
    svc.InTable srv ∧ (isLoginC2S pkg.head ∧ pkgbuff = tranLoginPkg pkg s.connID ∨
      ¬ isLoginC2S pkg.head ∧ s.loginStatus ≠ 0 ∧
        pkgbuff = tranPkg { pkg.head with uiRoleID := s.roleID } pkg pkg.head.usPkgLen) := by
  unfold routeC2S at forwards
  dsimp only at forwards
  split at forwards
  · cases forwards
  · split at forwards
    · cases forwards
    · split at forwards
      · cases forwards
      · rename_i ptr found
        split at forwards
        · cases forwards
        · split at forwards
          · rename_i login
            obtain ⟨rfl, rfl⟩ := C2SAction.forward.inj forwards
            exact ⟨⟨_, found⟩, .inl ⟨login, rfl⟩⟩
          · rename_i other
            split at forwards
            · cases forwards
            · rename_i logged
              obtain ⟨rfl, rfl⟩ := C2SAction.forward.inj forwards
              exact ⟨⟨_, found⟩, .inr ⟨other, logged, rfl⟩⟩

/-- Client packets change no table. -/
theorem processC2S_keeps (well : svc.WellFormed) {req : SessionPtr}
    (present : svc.InTable req) (kernel : Kernel) (pkg : MsgBuffer) :
    Keeps ConnectSession.content svc (svc.processC2S kernel req pkg) := by
  unfold AppGwSvc.processC2S
  cases live : svc.sessions req with
  | none => exact .refl svc
  | some s =>
      dsimp only
      cases route : svc.routeC2S s pkg with
      | drop => exact .refl svc
      | ack pkgHead uiRetCode => exact answerClient_keeps well present kernel 0 _
      | forward srv pkgbuff =>
          have sent := svc.sendMsg_keeps srv pkgbuff (kernel.send 0)
          have srvPresent := sent.inTable (routeC2S_forward route).1
          have wellSent := sent.wellFormed well
          dsimp only [AppGwSvc.sendToServer]
          split
          · have marked := closeMark_keeps wellSent srvPresent (kernel.clock 0)
            refine (sent.trans marked).trans ?_
            exact answerClient_keeps (marked.wellFormed wellSent)
              ((sent.trans marked).inTable present) kernel 1 _
          · exact sent

end AppGwSvc

end AppSvr.Gateway
