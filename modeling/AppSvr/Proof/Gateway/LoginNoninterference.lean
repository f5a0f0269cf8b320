/-
This file proves when a forwarded login depends only on its packet.
-/

import AppSvr.Proof.Gateway.ServerSlots
import AppSvr.Proof.Gateway.Translation

namespace AppSvr.Gateway
open LittleEndian TransitionSystem

/-- The packet logs a role in at the main server. -/
def IsLoginPacket (packet : List UInt8) : Prop :=
  pkgFormat.IsFrame packet ∧ (PkgHead.unpacket packet).ucDirection = directCSReq ∧
    isLoginC2S (PkgHead.unpacket packet)

instance (packet : List UInt8) : Decidable (IsLoginPacket packet) :=
  inferInstanceAs (Decidable (_ ∧ _ ∧ _))

/-- A packet with the whole login body determines the translated login. -/
theorem tranLoginPkg_copyIn {packet : List UInt8}
    (whole : PkgHead.size + RoleLoginReqR.size ≤ packet.length) (first second : MsgBuffer)
    (connId : UInt64) :
    tranLoginPkg (first.copyIn packet) connId = tranLoginPkg (second.copyIn packet) connId := by
  have size : PkgHead.size + RoleLoginReqR.size = 59 := rfl
  have header : PkgHead.size = 15 := rfl
  have body : RoleLoginReqR.ofBuffer (first.copyIn packet) =
      RoleLoginReqR.ofBuffer (second.copyIn packet) := by
    unfold RoleLoginReqR.ofBuffer
    rw [read_copyIn (by omega), read_copyIn (by omega), read_copyIn (by omega),
      read_copyIn (by omega)]
  unfold tranLoginPkg
  rw [head_copyIn (by omega), head_copyIn (by omega), body]

/-- The length field does not reach the body. -/
theorem encodeLength_drop (buff : PkgBuff) {offset : Nat} (behind : 2 ≤ offset) :
    (PkgBuff.encodeLength buff).drop offset = buff.drop offset := by
  unfold PkgBuff.encodeLength
  rw [List.drop_append, List.drop_of_length_le (by rw [encode_length]; exact behind),
    List.nil_append, encode_length, List.drop_drop, Nat.add_sub_cancel' behind]

/-- The forwarded login carries the forty password bytes of the buffer. -/
theorem tranLoginPkg_password (pkg : MsgBuffer) (connId : UInt64) :
    ((tranLoginPkg pkg connId).drop 19).take 40 = pkg.read 19 40 := by
  have role : ∀ value, (encode 4 value).drop 4 = [] := fun value =>
    List.drop_of_length_le (by rw [encode_length])
  have length : (pkg.read 19 40).length = 40 := by simp [MsgBuffer.read]
  unfold tranLoginPkg
  rw [encodeLength_drop _ (by decide), PkgBuff.append, PkgBuff.append, List.nil_append,
    List.drop_append, List.drop_of_length_le (by rw [PkgHead.packet_length]; decide),
    List.nil_append, PkgHead.packet_length, RoleLoginReqR.packetL, List.append_assoc,
    show 19 - PkgHead.size = 4 from rfl, List.drop_append, role, List.nil_append, encode_length,
    Nat.sub_self, List.drop_zero]
  exact List.take_left' length

/-- A closed or missing session takes no bytes from any buffer. -/
theorem AppGwSvc.sendMsg_refused {svc : AppGwSvc} {ptr : SessionPtr}
    (refused : ∀ s, svc.sessions ptr = some s → s.closeFlag ≠ 0) (first second : List UInt8)
    (outcome : ConnectSession.SendOutcome) :
    svc.sendMsg ptr first outcome = svc.sendMsg ptr second outcome := by
  unfold AppGwSvc.sendMsg
  cases live : svc.sessions ptr with
  | none => rfl
  | some s =>
      have closed := refused s live
      simp [ConnectSession.sendMsg, closed]

/-- An open session takes the whole buffer from a working connection. -/
theorem AppGwSvc.sendMsg_open {svc : AppGwSvc} {ptr : SessionPtr} {s : ConnectSession}
    (live : svc.sessions ptr = some s) (opened : s.closeFlag = 0) {buffer : List UInt8}
    (present : buffer ≠ []) :
    (svc.sendMsg ptr buffer .sent).1 = buffer.length ∧
      (svc.sendMsg ptr buffer .sent).2.wire = svc.wire ++ [(ptr, buffer)] := by
  simp [AppGwSvc.sendMsg, live, ConnectSession.sendMsg, opened, present]

namespace AppGwSvc

/-- The packet reaches an open session of the server that it names. -/
def ReachesServer (svc : AppGwSvc) (packet : List UInt8) : Prop :=
  let head := PkgHead.unpacket packet
  checkSrvScope head.ucSrvType head.ucSrvSeq = 0 ∧ 0 < svc.srvFd head.ucSrvType head.ucSrvSeq ∧
    ∃ srv s, svc.findFdConnSession (svc.srvFd head.ucSrvType head.ucSrvSeq) = some srv ∧
      svc.sessions srv = some s ∧ s.closeFlag = 0

/-- The bytes that a login makes the gateway write do not depend on the earlier buffer. -/
def Noninterfering (svc : AppGwSvc) (req : SessionPtr) (packet : List UInt8) : Prop :=
  ∀ kernel first second,
    (svc.processC2S kernel req (MsgBuffer.copyIn first packet)).wire =
      (svc.processC2S kernel req (MsgBuffer.copyIn second packet)).wire

/-- A login packet is routed by its own header. -/
theorem routeC2S_login {svc : AppGwSvc} {s : ConnectSession} {packet : List UInt8}
    (login : IsLoginPacket packet) (buffer : MsgBuffer) :
    svc.routeC2S s (buffer.copyIn packet) =
      (let head := PkgHead.unpacket packet
      if checkSrvScope head.ucSrvType head.ucSrvSeq ≠ 0 then .drop
      else if svc.srvFd head.ucSrvType head.ucSrvSeq ≤ 0 then
        .ack { head with ucDirection := directCSResp } errSystemSvrNotStart
      else match svc.findFdConnSession (svc.srvFd head.ucSrvType head.ucSrvSeq) with
        | none => .drop
        | some srv => .forward srv (tranLoginPkg (buffer.copyIn packet) s.connID)) := by
  obtain ⟨frame, direction, named⟩ := login
  unfold routeC2S
  rw [head_copyIn (frame_bounds frame).1]
  dsimp only
  cases svc.findFdConnSession (svc.srvFd (PkgHead.unpacket packet).ucSrvType
      (PkgHead.unpacket packet).ucSrvSeq) with
  | none => rfl
  | some srv =>
      dsimp only
      rw [if_neg (not_not.mpr direction), if_pos named]

/-- A login that is whole or reaches no server depends only on its packet. -/
theorem noninterfering_of {svc : AppGwSvc} {req : SessionPtr} {s : ConnectSession}
    (live : svc.sessions req = some s) {packet : List UInt8} (login : IsLoginPacket packet)
    (safe : PkgHead.size + RoleLoginReqR.size ≤ packet.length ∨ ¬ svc.ReachesServer packet) :
    svc.Noninterfering req packet := by
  intro kernel first second
  have head (buffer : MsgBuffer) := head_copyIn (frame_bounds login.1).1 buffer
  unfold processC2S
  rw [live]
  dsimp only
  rw [routeC2S_login login, routeC2S_login login]
  dsimp only
  by_cases scope : checkSrvScope (PkgHead.unpacket packet).ucSrvType
      (PkgHead.unpacket packet).ucSrvSeq ≠ 0
  · simp only [if_pos scope]
  rw [if_neg scope, if_neg scope]
  by_cases stopped : svc.srvFd (PkgHead.unpacket packet).ucSrvType
      (PkgHead.unpacket packet).ucSrvSeq ≤ 0
  · simp only [if_pos stopped]
  rw [if_neg stopped, if_neg stopped]
  cases found : svc.findFdConnSession (svc.srvFd (PkgHead.unpacket packet).ucSrvType
      (PkgHead.unpacket packet).ucSrvSeq) with
  | none => rfl
  | some srv =>
      dsimp only [sendToServer]
      rw [head, head]
      have sent : svc.sendMsg srv (tranLoginPkg (first.copyIn packet) s.connID) (kernel.send 0) =
          svc.sendMsg srv (tranLoginPkg (second.copyIn packet) s.connID) (kernel.send 0) := by
        rcases safe with whole | unreached
        · rw [tranLoginPkg_copyIn whole first second]
        · apply sendMsg_refused
          intro session liveSrv opened
          exact unreached
            ⟨not_not.mp scope, not_le.mp stopped, srv, session, found, liveSrv, opened⟩
      rw [sent]

/-- A short login that reaches a server leaks the earlier buffer. -/
theorem not_noninterfering_of {svc : AppGwSvc} {req : SessionPtr} {s : ConnectSession}
    (live : svc.sessions req = some s) {packet : List UInt8} (login : IsLoginPacket packet)
    (short : packet.length < PkgHead.size + RoleLoginReqR.size)
    (reaches : svc.ReachesServer packet) : ¬ svc.Noninterfering req packet := by
  obtain ⟨scope, started, srv, session, found, liveSrv, opened⟩ := reaches
  have forwarded (buffer : MsgBuffer) :
      (svc.processC2S ⟨fun _ => 0, fun _ => .sent⟩ req (buffer.copyIn packet)).wire =
        svc.wire ++ [(srv, tranLoginPkg (buffer.copyIn packet) s.connID)] := by
    have present : tranLoginPkg (buffer.copyIn packet) s.connID ≠ [] := by
      intro empty
      have password := tranLoginPkg_password (buffer.copyIn packet) s.connID
      rw [empty] at password
      simpa [MsgBuffer.read] using congrArg List.length password
    obtain ⟨returned, written⟩ := sendMsg_open liveSrv opened present
    unfold processC2S
    rw [live]
    dsimp only
    rw [routeC2S_login login]
    dsimp only
    rw [if_neg (not_not.mpr scope), if_neg (not_le.mpr started), found]
    dsimp only [sendToServer]
    rw [returned, if_neg (by omega), written]
  intro same
  have equal := same ⟨fun _ => 0, fun _ => .sent⟩ (fun _ => 0) fun _ => 1
  rw [forwarded, forwarded] at equal
  have packets : tranLoginPkg (MsgBuffer.copyIn (fun _ => 0) packet) s.connID =
      tranLoginPkg (MsgBuffer.copyIn (fun _ => 1) packet) s.connID := by
    simpa using equal
  have passwords : MsgBuffer.read (MsgBuffer.copyIn (fun _ => 0) packet) 19 40 =
      MsgBuffer.read (MsgBuffer.copyIn (fun _ => 1) packet) 19 40 := by
    rw [← tranLoginPkg_password _ s.connID, packets, tranLoginPkg_password]
  -- the last password byte lies behind the packet, so it still shows the earlier buffer
  have last : MsgBuffer.copyIn (fun _ => 0) packet 58 =
      MsgBuffer.copyIn (fun _ => 1) packet 58 := by
    have bytes := congrArg (fun bytes => bytes[39]?) passwords
    have inside : 39 < 40 := by decide
    simp only [MsgBuffer.read, List.getElem?_map, List.getElem?_range inside] at bytes
    exact Option.some.inj bytes
  have behind : packet.length ≤ 58 := Nat.le_of_lt_succ short
  rw [copyIn_behind behind, copyIn_behind behind] at last
  exact absurd last (by decide)

/-- The forwarded login depends only on its packet exactly when the packet holds the whole login
body or reaches no open server session. -/
theorem login_noninterfering_iff (svc : AppGwSvc) {req : SessionPtr} {s : ConnectSession}
    (live : svc.sessions req = some s) {packet : List UInt8} (login : IsLoginPacket packet) :
    svc.Noninterfering req packet ↔
      PkgHead.size + RoleLoginReqR.size ≤ packet.length ∨ ¬ svc.ReachesServer packet := by
  constructor
  · intro same
    by_contra unsafe'
    obtain ⟨short, reaches⟩ := not_or.mp unsafe'
    exact not_noninterfering_of live login (not_le.mp short) (not_not.mp reaches) same
  · exact noninterfering_of live login

/-- The main server registers and a client connects. -/
def connectEvents : List Event :=
  registerEvents [(svrTypeMain, 1)] ++ [.handleAccept .outside 8 701 5 0]

/-- A client sends this login with the given body. -/
def loginPacket (body : List UInt8) : PkgBuff :=
  PkgBuff.encodeLength ((⟨0, directCSReq, svrTypeMain, 1, msgTypeCsRoleLogin, 0, 0⟩ :
    PkgHead).packet ++ body)

/-- The first client of a fresh gateway sends a whole login. -/
theorem login_noninterfering_whole :
    (initial.handleAccept ⟨1⟩ .outside 8 701 5 0).Noninterfering 0
      (loginPacket (List.replicate RoleLoginReqR.size 1)) := by
  have live : (initial.handleAccept ⟨1⟩ .outside 8 701 5 0).sessions 0 =
      some (.new (connectionId 8 701 5) .outside 0) := by rfl
  have login : IsLoginPacket (loginPacket (List.replicate RoleLoginReqR.size 1)) := by
    decide +kernel
  exact (login_noninterfering_iff _ live login).mpr (.inl (by decide +kernel))

/-- A login without a body sends bytes of an earlier packet to the main server. -/
theorem login_interferes :
    ¬ ∀ (ini : IniOption) (history : History AppGwSvc Event) (svc : AppGwSvc),
      Run (step ini) anyEvent initial history svc →
        ∀ req s packet, svc.sessions req = some s → IsLoginPacket packet →
          svc.Noninterfering req packet := by
  intro claim
  obtain ⟨history, svc, reached, ready⟩ := exists_run_of_replay (step ⟨1⟩) anyEvent initial
    connectEvents (fun _ svc => svc.srvFd svrTypeMain 1 = 3 ∧ svc.findFdConnSession 3 = some 0 ∧
      (svc.sessions 0).any (fun s => s.closeFlag = 0) ∧ (svc.sessions 1).isSome)
    (by decide +kernel)
  obtain ⟨slot, found, opened, client⟩ := of_decide_eq_true ready
  obtain ⟨server, liveServer, opened⟩ := (Option.any_eq_true _ _).mp opened
  obtain ⟨s, live⟩ := Option.isSome_iff_exists.mp client
  have login : IsLoginPacket (loginPacket []) := by decide +kernel
  have reaches : svc.ReachesServer (loginPacket []) := by
    refine ⟨by decide +kernel, ?_, 0, server, ?_, liveServer, of_decide_eq_true opened⟩
    · show 0 < svc.srvFd svrTypeMain 1
      rw [slot]
      decide
    · show svc.findFdConnSession (svc.srvFd svrTypeMain 1) = some 0
      rw [slot, found]
  have safe := claim ⟨1⟩ history svc reached 1 s (loginPacket []) live login
  exact not_noninterfering_of live login (by decide +kernel) reaches safe

end AppGwSvc

end AppSvr.Gateway
