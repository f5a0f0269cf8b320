/-
This file proves that every connection's packets are the parse of its received bytes.
-/

import AppSvr.Proof.Gateway.PkgHead
import AppSvr.Proof.Gateway.Steps

namespace AppSvr.Gateway
open PartialMap TransitionSystem Framing

/-- The packet check reads the head of the stream. -/
theorem getDataPack_eq (s : ConnectSession) (ptrData : MsgBuffer) :
    s.getDataPack ptrData =
      match pkgFormat.head s.recvBuff with
      | .incomplete => (0, s, ptrData, [])
      | .malformed => (-1, s, ptrData, [])
      | .frame packet rest =>
          (1, { s with recvBuff := rest }, ptrData.copyIn packet, packet) := by
  unfold ConnectSession.getDataPack ConnectSession.checkDataPack Format.head
  simp only [pkgFormat, ConnectSession.recvLen]
  by_cases short : s.recvBuff.length < PkgHead.size
  · simp only [short, if_true]
  · simp only [short, if_false]
    by_cases refused : (PkgHead.unpacket s.recvBuff).usPkgLen.toNat < PkgHead.size ∨
        ConnectSession.maxPkgLen < (PkgHead.unpacket s.recvBuff).usPkgLen.toNat
    · have outside : ¬ (PkgHead.size ≤ (PkgHead.unpacket s.recvBuff).usPkgLen.toNat ∧
          (PkgHead.unpacket s.recvBuff).usPkgLen.toNat ≤ ConnectSession.maxPkgLen) := by omega
      simp only [refused, outside, if_true, decide_false]
    · have within : PkgHead.size ≤ (PkgHead.unpacket s.recvBuff).usPkgLen.toNat ∧
          (PkgHead.unpacket s.recvBuff).usPkgLen.toNat ≤ ConnectSession.maxPkgLen := by omega
      simp only [refused, within, and_self, decide_true, if_false, Bool.true_eq_false]
      by_cases partial' : s.recvBuff.length < (PkgHead.unpacket s.recvBuff).usPkgLen.toNat
      · simp only [partial', if_true]
      · simp only [partial', if_false]

namespace AppGwSvc

variable {svc : AppGwSvc}

/-- Processing a packet keeps every received byte. -/
theorem processPkg_stream (well : svc.WellFormed) {ss : SessionPtr}
    (present : svc.InTable ss) (kernel : Kernel) (pkg : MsgBuffer) :
    KeepsConnections ConnectSession.stream svc (svc.processPkg kernel ss pkg) := by
  have quiet : ∀ {next}, Keeps ConnectSession.content svc next →
      KeepsConnections ConnectSession.stream svc next :=
    fun kept => kept.toKeepsConnections.weaken fun _ _ => Follows.toStream
  unfold processPkg
  split
  · exact .refl svc
  · dsimp only
    split
    · split
      · rcases processS2C_cases well kernel pkg with kept | logged
        · exact quiet kept
        · obtain ⟨fd, client, roleid, -, -, -, -, -, after⟩ := logged
          have moved := (moveRole_keepsConnections well (kernel.clock 0) client roleid fd).weaken
            fun _ _ => Follows.unkickedToStream
          have changed : Keeps ConnectSession.stream _
              (svc.loginRole (kernel.clock 0) client roleid fd) :=
            modifySession_keeps _ client _ fun _ => ⟨rfl, rfl, rfl, id⟩
          exact (moved.trans changed.toKeepsConnections).trans
            (after.toKeepsConnections.weaken fun _ _ => Follows.toStream)
      · split
        · rcases processS2G_cases well present kernel pkg with kept | registered
          · exact quiet kept
          · obtain ⟨middle, kept, -, -, -, changed⟩ := registered
            rw [changed]
            exact (quiet kept).trans (registerServer_stream middle ss _ _)
        · exact .refl svc
    · split
      · exact quiet (processC2S_keeps well present kernel pkg)
      · exact .refl svc

variable {ss : SessionPtr}

/-- One pass over an incomplete stream changes nothing. -/
theorem packetPass_incomplete {s : ConnectSession}
    (live : svc.sessions ss = some s) (incomplete : pkgFormat.Incomplete s.recvBuff)
    (kernel : Kernel) (thread : Nat) : svc.packetPass kernel thread ss = (0, svc, []) := by
  have pack := getDataPack_eq s (svc.msgBuffer thread)
  rw [(head_incomplete_iff s.recvBuff).mpr incomplete] at pack
  simp [AppGwSvc.packetPass, live, pack]

/-- One pass over a refused header marks the connection for closing. -/
theorem packetPass_malformed {s : ConnectSession}
    (live : svc.sessions ss = some s) (malformed : pkgFormat.Malformed s.recvBuff)
    (kernel : Kernel) (thread : Nat) :
    svc.packetPass kernel thread ss =
      (-1, svc.closeMarkConnSession (kernel.clock 0) ss, []) := by
  have pack := getDataPack_eq s (svc.msgBuffer thread)
  rw [(head_malformed_iff s.recvBuff).mpr malformed] at pack
  simp [AppGwSvc.packetPass, live, pack]

/-- The sessions other than one keep their received bytes. -/
def KeepsOthers (ss : SessionPtr) (svc next : AppGwSvc) : Prop :=
  Related (Follows ConnectSession.stream) (Function.update svc.sessions ss none)
    (Function.update next.sessions ss none)

theorem KeepsOthers.trans {first second third : AppGwSvc}
    (before : KeepsOthers ss first second) (after : KeepsOthers ss second third) :
    KeepsOthers ss first third :=
  Related.trans (fun _ _ _ => Follows.trans) before after

theorem KeepsOthers.backward {svc next : AppGwSvc}
    (kept : KeepsOthers ss svc next) {ptr : SessionPtr} {later : ConnectSession}
    (different : ptr ≠ ss) (live : next.sessions ptr = some later) :
    ∃ s, svc.sessions ptr = some s ∧ Follows ConnectSession.stream s later := by
  rw [← Function.update_of_ne different none next.sessions] at live
  obtain ⟨s, before, follows⟩ := Related.backward kept live
  rw [Function.update_of_ne different] at before
  exact ⟨s, before, follows⟩

/-- One pass over a whole packet takes it from the front of the stream. -/
theorem packetPass_frame (well : svc.WellFormed) {ss : SessionPtr}
    (present : svc.InTable ss) {s : ConnectSession} (live : svc.sessions ss = some s)
    {packet rest : List UInt8} (split : s.recvBuff = packet ++ rest)
    (frame : pkgFormat.IsFrame packet) (kernel : Kernel) (thread : Nat) :
    ∃ next, svc.packetPass kernel thread ss = (1, next, packet) ∧
      KeepsConnections ConnectSession.connection svc next ∧ KeepsOthers ss svc next ∧
      ∃ later, next.sessions ss = some later ∧ later.recvBuff = rest ∧
        (s.closeFlag ≠ 0 → later.closeFlag ≠ 0) := by
  have pack := getDataPack_eq s (svc.msgBuffer thread)
  rw [(head_frame_iff s.recvBuff packet rest).mpr ⟨split, frame⟩] at pack
  have follows : Follows ConnectSession.login s { s with recvBuff := rest } := ⟨rfl, rfl, rfl, id⟩
  have before := takePacket_keeps live follows
    (Function.update svc.msgBuffer thread ((svc.msgBuffer thread).copyIn packet))
  have stored : ({ svc.modifySession ss (fun _ => { s with recvBuff := rest }) with
      msgBuffer := Function.update svc.msgBuffer thread
        ((svc.msgBuffer thread).copyIn packet) } : AppGwSvc).sessions =
      Function.update svc.sessions ss (some { s with recvBuff := rest }) := by
    simp [modifySession, live]
  have pass : svc.packetPass kernel thread ss =
      (1, ({ svc.modifySession ss (fun _ => { s with recvBuff := rest }) with
        msgBuffer := Function.update svc.msgBuffer thread
          ((svc.msgBuffer thread).copyIn packet) } : AppGwSvc).processPkg kernel ss
            ((svc.msgBuffer thread).copyIn packet), packet) := by
    simp [AppGwSvc.packetPass, live, pack]
  generalize ({ svc.modifySession ss (fun _ => { s with recvBuff := rest }) with
    msgBuffer := Function.update svc.msgBuffer thread
      ((svc.msgBuffer thread).copyIn packet) } : AppGwSvc) = middle at *
  have processed := processPkg_stream (before.wellFormed well) (before.inTable present) kernel
    ((svc.msgBuffer thread).copyIn packet)
  have front : middle.sessions ss = some { s with recvBuff := rest } := by
    rw [stored, Function.update_self]
  obtain ⟨later, after, same⟩ := processed.sessions.forward front
  refine ⟨_, pass, ?_, ?_, later, after, same.same, same.closed⟩
  · exact (before.toKeepsConnections.weaken fun _ _ => Follows.toConnection).trans
      (processed.weaken fun _ _ => Follows.toConnection)
  · have kept := processed.sessions.erase ss
    rwa [stored, Function.update_idem] at kept

/-- What one run of the packet loop leaves behind: the packets are the parse of the stream. -/
structure Drains (svc : AppGwSvc) (ss : SessionPtr) (s : ConnectSession) (final : AppGwSvc)
    (packets : List (List UInt8)) : Prop where
  connections : KeepsConnections ConnectSession.connection svc final
  others : KeepsOthers ss svc final
  drained : ∃ later, final.sessions ss = some later ∧
    pkgFormat.Parses s.recvBuff packets later.recvBuff ∧
      (pkgFormat.Malformed later.recvBuff → later.closeFlag ≠ 0) ∧
        (s.closeFlag ≠ 0 → later.closeFlag ≠ 0)

/-- The loop drains the stream when its passes may exceed the received length. -/
theorem packetLoop_drains (kernels : Nat → Kernel) (thread : Nat) (ss : SessionPtr) (fuel : Nat)
    {svc : AppGwSvc} (well : svc.WellFormed) (present : svc.InTable ss) {s : ConnectSession}
    (live : svc.sessions ss = some s) (enough : s.recvLen < fuel) :
    Drains svc ss s (packetLoop kernels thread ss fuel svc).1
      (packetLoop kernels thread ss fuel svc).2 := by
  induction fuel generalizing svc s with
  | zero => omega
  | succ fuel ih =>
      unfold packetLoop
      cases head : pkgFormat.head s.recvBuff with
      | incomplete =>
          have incomplete := (head_incomplete_iff s.recvBuff).mp head
          rw [packetPass_incomplete live incomplete]
          refine ⟨.refl svc, Related.refl Follows.refl _, s, live,
            ⟨rfl, by simp, .inr incomplete⟩, ?_, id⟩
          exact fun malformed => absurd malformed (incomplete_not_malformed incomplete)
      | malformed =>
          have malformed := (head_malformed_iff s.recvBuff).mp head
          have marked := closeMark_keeps well present ((kernels fuel).clock 0)
          rw [packetPass_malformed live malformed]
          obtain ⟨later, closed, follows⟩ := marked.sessions.forward live
          have flag : later.closeFlag = 1 := by
            simp only [AppGwSvc.closeMarkConnSession, live, store, Function.update_self,
              Option.some.injEq] at closed
            rw [← closed, closeConnNoLock_closed]
          have bytes : later.recvBuff = s.recvBuff := follows.toStream.same
          refine ⟨marked.toKeepsConnections.weaken fun _ _ => Follows.toConnection,
            (marked.sessions.mono fun _ _ => Follows.toStream).erase ss, later, closed,
            ⟨bytes.symm, by simp, .inl (by rwa [bytes])⟩, ?_, ?_⟩
          · exact fun _ => by rw [flag]; decide
          · exact fun _ => by rw [flag]; decide
      | frame packet rest =>
          obtain ⟨split, frame⟩ := (head_frame_iff s.recvBuff packet rest).mp head
          obtain ⟨next, pass, connections, others, later, liveNext, bytes, closed⟩ :=
            packetPass_frame well present live split frame (kernels fuel) thread
          have shorter : later.recvLen < fuel := by
            have positive := List.length_pos_iff.mpr (isFrame_ne_nil frame)
            have length := congrArg List.length split
            rw [List.length_append] at length
            unfold ConnectSession.recvLen at enough ⊢
            rw [bytes]
            omega
          have tail := ih (connections.wellFormed well) (connections.inTable present) liveNext
            shorter
          rw [pass]
          dsimp only
          rw [if_neg (by decide)]
          obtain ⟨final, liveFinal, parses, refused, closed'⟩ := tail.drained
          refine ⟨connections.trans tail.connections, others.trans tail.others, final, liveFinal,
            ?_, refused, fun flag => closed' (closed flag)⟩
          rw [split]
          exact parses_cons frame (by rwa [bytes] at parses)

/-- A reception keeps every stream or appends the received bytes to one open session. -/
theorem receivePass_cases (well : svc.WellFormed) (now : Nat) (fd : Int)
    (outcome : ConnectSession.RecvOutcome) :
    ((svc.receivePass now fd outcome).2 = none ∧
        KeepsConnections ConnectSession.stream svc (svc.receivePass now fd outcome).1) ∨
      ∃ ss s bytes, svc.fdConnSs fd = some ss ∧ svc.sessions ss = some s ∧
        (svc.receivePass now fd outcome).2 = some (ss, bytes) ∧
        KeepsOthers ss svc (svc.receivePass now fd outcome).1 ∧
        (svc.receivePass now fd outcome).1.sessions ss =
          some { s with recvBuff := s.recvBuff ++ bytes, stamp := now } := by
  unfold receivePass
  cases found : svc.findFdConnSession fd with
  | none =>
      exact .inl ⟨rfl, .ofEq rfl rfl rfl rfl rfl rfl⟩
  | some ss =>
      dsimp only
      cases live : svc.sessions ss with
      | none => exact .inl ⟨rfl, .refl svc⟩
      | some s =>
          dsimp only
          by_cases flag : s.closeFlag ≠ 0
          · rw [if_pos flag]
            exact .inl ⟨rfl, .refl svc⟩
          rw [if_neg flag]
          have closes : KeepsConnections ConnectSession.stream svc
              ((svc.store ss s s.closeConnNoLock).closeMarkConnSession now ss) := by
            have stored := store_keeps live (closeConnNoLock_follows s)
            have marked := closeMark_keeps (stored.wellFormed well) (stored.inTable ⟨fd, found⟩) now
            exact (stored.trans marked).toKeepsConnections.weaken fun _ _ => Follows.toStream
          have same : KeepsConnections ConnectSession.stream svc (svc.store ss s s) :=
            (store_keeps live (Follows.refl s)).toKeepsConnections
          unfold ConnectSession.recvMsg
          rw [if_neg flag]
          cases outcome with
          | wouldBlock => exact .inl ⟨rfl, same⟩
          | error => exact .inl ⟨rfl, closes⟩
          | peerClosed => exact .inl ⟨rfl, closes⟩
          | data bytes =>
              dsimp only
              by_cases empty : (bytes.length : Int) = 0
              · have nothing : bytes = [] := List.length_eq_zero_iff.mp (by exact_mod_cast empty)
                rw [if_pos empty]
                refine .inl ⟨rfl, (store_keeps live ?_).toKeepsConnections⟩
                exact ⟨rfl, rfl, by simp [ConnectSession.stream, nothing], id⟩
              · rw [if_neg empty, if_neg (by omega)]
                refine .inr ⟨ss, s, bytes, found, live, ?_, ?_, ?_⟩
                · simp [ConnectSession.recvLen]
                · simp only [KeepsOthers, store, Function.update_idem]
                  exact Related.refl Follows.refl _
                · simp [store]

/-- A call without new bytes ends after its reception. -/
theorem handleProcessPkg_none {now : Nat} {fd : Int}
    {outcome : ConnectSession.RecvOutcome} (nothing : (svc.receivePass now fd outcome).2 = none)
    (kernels : Nat → Kernel) (thread : Nat) :
    svc.handleProcessPkg kernels now thread fd outcome =
      ((svc.receivePass now fd outcome).1, []) := by
  rw [AppGwSvc.handleProcessPkg]
  split <;> simp_all

/-- A call with new bytes runs the packet loop on its session. -/
theorem handleProcessPkg_some {now : Nat} {fd : Int}
    {outcome : ConnectSession.RecvOutcome} {ss : SessionPtr} {bytes : List UInt8}
    {s : ConnectSession} (data : (svc.receivePass now fd outcome).2 = some (ss, bytes))
    (stored : (svc.receivePass now fd outcome).1.sessions ss = some s)
    (kernels : Nat → Kernel) (thread : Nat) :
    svc.handleProcessPkg kernels now thread fd outcome =
      packetLoop kernels thread ss (s.recvLen + 1) (svc.receivePass now fd outcome).1 := by
  rw [AppGwSvc.handleProcessPkg]
  split <;> simp_all

/-- A call changes nothing, or it drains one session after appending its bytes. -/
theorem handleProcessPkg_cases (well : svc.WellFormed) (kernels : Nat → Kernel)
    (now thread : Nat) (fd : Int) (outcome : ConnectSession.RecvOutcome) :
    ((svc.receivePass now fd outcome).2 = none ∧
        (svc.handleProcessPkg kernels now thread fd outcome).2 = [] ∧
        KeepsConnections ConnectSession.stream svc
          (svc.handleProcessPkg kernels now thread fd outcome).1) ∨
      ∃ ss s bytes middle, svc.sessions ss = some s ∧
        (svc.receivePass now fd outcome).2 = some (ss, bytes) ∧
        KeepsConnections ConnectSession.connection svc middle ∧ KeepsOthers ss svc middle ∧
        Drains middle ss { s with recvBuff := s.recvBuff ++ bytes, stamp := now }
          (svc.handleProcessPkg kernels now thread fd outcome).1
          (svc.handleProcessPkg kernels now thread fd outcome).2 := by
  have kept := receivePass_keeps well now fd outcome
  rcases receivePass_cases well now fd outcome with
    ⟨nothing, same⟩ | ⟨ss, s, bytes, found, live, data, others, stored⟩
  · rw [handleProcessPkg_none nothing]
    exact .inl ⟨nothing, rfl, same⟩
  · have drains := packetLoop_drains kernels thread ss _ (kept.wellFormed well)
      (kept.inTable ⟨fd, found⟩) stored (Nat.lt_succ_self _)
    rw [handleProcessPkg_some data stored]
    exact .inr ⟨ss, s, bytes, _, live, data,
      kept.toKeepsConnections.weaken fun _ _ => Follows.toConnection, others, drains⟩

/-- A call keeps the tables well formed. -/
theorem handleProcessPkg_wellFormed (well : svc.WellFormed)
    (kernels : Nat → Kernel) (now thread : Nat) (fd : Int)
    (outcome : ConnectSession.RecvOutcome) :
    (svc.handleProcessPkg kernels now thread fd outcome).1.WellFormed := by
  rcases handleProcessPkg_cases well kernels now thread fd outcome with
    ⟨-, -, kept⟩ | ⟨ss, s, bytes, middle, -, -, kept, -, drains⟩
  · exact kept.wellFormed well
  · exact drains.connections.wellFormed (kept.wellFormed well)

/-- The packets of a session are the parse of its stream, and its buffer is the remainder. -/
structure Framed (ptr : SessionPtr) (stream : List UInt8) (packets : List (List UInt8))
    (svc : AppGwSvc) : Prop where
  parsed : ∃ rest, pkgFormat.Parses stream packets rest
  live : ∀ s, svc.sessions ptr = some s → pkgFormat.Parses stream packets s.recvBuff ∧
    (pkgFormat.Malformed s.recvBuff → s.closeFlag ≠ 0)
  fresh : svc.nextSession ≤ ptr → stream = [] ∧ packets = []

section Framed

variable {ptr : SessionPtr} {stream : List UInt8} {packets : List (List UInt8)}
  {svc next : AppGwSvc}

/-- A session whose bytes are kept stays framed. -/
theorem Framed.kept (framed : Framed ptr stream packets svc)
    (nextSession : next.nextSession = svc.nextSession)
    (backward : ∀ later, next.sessions ptr = some later →
      ∃ s, svc.sessions ptr = some s ∧ Follows ConnectSession.stream s later) :
    Framed ptr stream packets next where
  parsed := framed.parsed
  live later present := by
    obtain ⟨s, before, follows⟩ := backward later present
    obtain ⟨parses, refused⟩ := framed.live s before
    have bytes : later.recvBuff = s.recvBuff := follows.same
    rw [bytes]
    exact ⟨parses, fun malformed => follows.closed (refused malformed)⟩
  fresh beyond := framed.fresh (nextSession ▸ beyond)

theorem Framed.keeps (framed : Framed ptr stream packets svc)
    (kept : KeepsConnections ConnectSession.stream svc next) : Framed ptr stream packets next :=
  framed.kept kept.nextSession fun _ live => kept.sessions.backward live

/-- A new session starts with the empty stream. -/
theorem Framed.accepts (framed : Framed ptr stream packets svc) {lsfd : TcpStream} {ip : UInt32}
    {connID : UInt64} {now : Nat}
    (accepts : Accepts svc lsfd ip (ConnectSession.new connID lsfd now) next) :
    Framed ptr stream packets next where
  parsed := framed.parsed
  live s present := by
    rw [accepts.sessions] at present
    by_cases new : ptr = svc.nextSession
    · obtain ⟨rfl, rfl⟩ := framed.fresh (le_of_eq new.symm)
      rw [new, Function.update_self] at present
      obtain rfl := Option.some.inj present
      exact ⟨parses_nil, fun malformed => absurd malformed
        (incomplete_not_malformed (.inl (show ([] : List UInt8).length < 15 by decide)))⟩
    · rw [Function.update_of_ne new] at present
      exact framed.live s present
  fresh beyond := by
    rw [accepts.nextSession] at beyond
    exact framed.fresh (Nat.le_of_succ_le beyond)

/-- The reception and the packet loop of one call extend the stream and its packets. -/
theorem Framed.handleProcessPkg (framed : Framed ptr stream packets svc) (well : svc.WellFormed)
    (kernels : Nat → Kernel) (now thread : Nat) (fd : Int)
    (outcome : ConnectSession.RecvOutcome) :
    Framed ptr
      (stream ++ svc.received ptr (.handleProcessPkg thread fd outcome now kernels))
      (packets ++ svc.obtained ptr (.handleProcessPkg thread fd outcome now kernels))
      (svc.handleProcessPkg kernels now thread fd outcome).1 := by
  unfold AppGwSvc.received AppGwSvc.obtained
  rcases handleProcessPkg_cases well kernels now thread fd outcome with
    ⟨nothing, none, kept⟩ | ⟨ss, s, bytes, middle, live, data, connections, others, drains⟩
  · simp only [nothing, List.append_nil]
    exact framed.keeps kept
  · have nextSession : (svc.handleProcessPkg kernels now thread fd outcome).1.nextSession =
        svc.nextSession := drains.connections.nextSession.trans connections.nextSession
    simp only [data]
    by_cases same : ss = ptr
    · subst same
      rw [if_pos rfl, if_pos rfl]
      obtain ⟨later, final, parses, refused, -⟩ := drains.drained
      have whole := parses_append (framed.live s live).1 parses
      refine ⟨⟨_, whole⟩, ?_, ?_⟩
      · intro session present
        obtain rfl := Option.some.inj (final.symm.trans present)
        exact ⟨whole, refused⟩
      · intro beyond
        rw [nextSession] at beyond
        rw [well.fresh ss beyond] at live
        cases live
    · rw [if_neg same, if_neg same, List.append_nil, List.append_nil]
      refine framed.kept nextSession fun later present => ?_
      exact (others.trans drains.others).backward (Ne.symm same) present

end Framed

/-- These are the bytes that a history received for a session. -/
def receivedBytes (ptr : SessionPtr) (history : History AppGwSvc Call) : List UInt8 :=
  history.flatMap fun entry => entry.1.received ptr entry.2

/-- These are the packets that a history obtained for a session. -/
def obtainedPackets (ptr : SessionPtr) (history : History AppGwSvc Call) : List (List UInt8) :=
  history.flatMap fun entry => entry.1.obtained ptr entry.2

/-- One call keeps the tables well formed and every session framed. -/
theorem framed_step {ini : IniOption} {svc next : AppGwSvc} {call : Call} (well : svc.WellFormed)
    {ptr : SessionPtr} {stream : List UInt8} {packets : List (List UInt8)}
    (framed : Framed ptr stream packets svc) (enabled : callStep ini svc call = some next) :
    next.WellFormed ∧
      Framed ptr (stream ++ svc.received ptr call) (packets ++ svc.obtained ptr call) next := by
  cases call with
  | handleAccept lsfd ip port connFd now =>
      have accepted : step ini svc (.handleAccept lsfd ip port connFd now) = some next := enabled
      simp only [step] at accepted
      split at accepted
      · cases accepted
      · obtain rfl := Option.some.inj accepted
        simp only [AppGwSvc.received, AppGwSvc.obtained, List.append_nil]
        rcases svc.handleAccept_cases ini lsfd ip port connFd now with
          ⟨-, same⟩ | ⟨-, accepts⟩
        · rw [same]
          exact ⟨well, framed⟩
        · exact ⟨accepts.wellFormed well, framed.accepts accepts⟩
  | handleProcessPkg thread fd outcome now kernels =>
      have processed : next = (svc.handleProcessPkg kernels now thread fd outcome).1 := by
        simp only [callStep] at enabled
        split at enabled
        · exact (Option.some.inj enabled).symm
        · split at enabled
          · exact (Option.some.inj enabled).symm
          · cases enabled
      rw [processed]
      exact ⟨handleProcessPkg_wellFormed well kernels now thread fd outcome,
        framed.handleProcessPkg well kernels now thread fd outcome⟩
  | closeMark fd now =>
      have closed : step ini svc (.closeMark fd now) = some next := enabled
      obtain ⟨ss, found, rfl⟩ := Option.map_eq_some_iff.mp closed
      have marked := closeMark_keeps well ⟨fd, found⟩ now
      simp only [AppGwSvc.received, AppGwSvc.obtained, List.append_nil]
      exact ⟨marked.wellFormed well,
        framed.keeps (marked.toKeepsConnections.weaken fun _ _ => Follows.toStream)⟩
  | removeConnSession kernel =>
      obtain rfl := Option.some.inj enabled
      simp only [AppGwSvc.received, AppGwSvc.obtained, List.append_nil]
      apply removeLoop_preserves fun svc => svc.WellFormed ∧ Framed ptr stream packets svc
      · rintro svc next ⟨well, framed⟩ kept
        exact ⟨kept.wellFormed well,
          framed.keeps (kept.toKeepsConnections.weaken fun _ _ => Follows.toStream)⟩
      · rintro svc next fd other s ⟨well, framed⟩ reaps
        refine ⟨reaps.wellFormed well, framed.kept reaps.nextSession fun later live => ?_⟩
        obtain ⟨-, session, before, follows⟩ := reaps.backward live
        exact ⟨session, before, follows.toStream⟩
      · exact ⟨well, framed⟩

/-- In every run of calls the packets of every session are the parse of its received bytes. -/
theorem framed_run {ini : IniOption} {history : History AppGwSvc Call} {svc : AppGwSvc}
    (reached : Run (callStep ini) anyEvent initial history svc) (ptr : SessionPtr) :
    svc.WellFormed ∧
      Framed ptr (receivedBytes ptr history) (obtainedPackets ptr history) svc := by
  refine reached.historyInvariant (fun history svc => svc.WellFormed ∧
    Framed ptr (receivedBytes ptr history) (obtainedPackets ptr history) svc) ?_ ?_
  · refine ⟨StepRule.initial_wellFormed, ⟨[], parses_nil⟩, ?_, fun _ => ⟨rfl, rfl⟩⟩
    intro s live
    cases live
  · rintro history svc call next ⟨well, framed⟩ - enabled
    have stepped := framed_step well framed enabled
    unfold receivedBytes obtainedPackets at stepped ⊢
    rwa [List.flatMap_append, List.flatMap_append, List.flatMap_singleton,
      List.flatMap_singleton]

end AppGwSvc

end AppSvr.Gateway
