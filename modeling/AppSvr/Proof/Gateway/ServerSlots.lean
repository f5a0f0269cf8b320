/-
This file proves when every server slot names its own registered connection.
-/

import AppSvr.Proof.Gateway.Steps

namespace AppSvr.Gateway.AppGwSvc
open PartialMap TransitionSystem LittleEndian

/-- The descriptor finds the inside session that registered as this server. -/
def Serves (svc : AppGwSvc) (ucSrvType ucSrvSeq : UInt8) (fd : Int) : Prop :=
  ∃ ptr s, svc.fdConnSs fd = some ptr ∧ svc.sessions ptr = some s ∧ s.connType = .inside ∧
    s.loginStatus = 1 ∧ s.srvType = ucSrvType ∧ s.srvSeq = ucSrvSeq

/-- Every positive slot is served. -/
def SlotsServed (svc : AppGwSvc) : Prop :=
  ∀ ucSrvType ucSrvSeq, ucSrvType ≠ 0 → ucSrvSeq ≠ 0 → 0 < svc.srvFd ucSrvType ucSrvSeq →
    svc.Serves ucSrvType ucSrvSeq (svc.srvFd ucSrvType ucSrvSeq)

/-- A registration comes from a connection that is not registered yet, and a login answer names an
outside connection. -/
def SingleRegistration (svc : AppGwSvc) : Event → Prop
  | .packet thread fd _ =>
      (svc.registration thread fd).all (fun s => s.loginStatus = 0) = true ∧
        (svc.loginAck thread fd).all (fun ack => ack.1.connType = .outside) = true
  | _ => True

instance (svc : AppGwSvc) (event : Event) : Decidable (svc.SingleRegistration event) :=
  match event with
  | .packet _ _ _ => inferInstanceAs (Decidable (_ ∧ _))
  | .handleAccept _ _ _ _ _ | .receive _ _ _ | .closeMark _ _ | .removeConnSession _ =>
      isTrue trivial

/-- A slot write changes only its own slot. -/
theorem setSrvFd_srvFd (svc : AppGwSvc) (ucSrvType ucSrvSeq : UInt8) (fd : Int)
    (otherType otherSeq : UInt8) :
    (svc.setSrvFd ucSrvType ucSrvSeq fd).srvFd otherType otherSeq =
      if otherType = ucSrvType ∧ otherSeq = ucSrvSeq then fd else svc.srvFd otherType otherSeq := by
  have index (first second : UInt8) :
      ((first.toNat : Int) - 1 = (second.toNat : Int) - 1) ↔ first = second := by
    rw [← UInt8.toNat_inj]
    omega
  unfold setSrvFd srvFd
  simp only [index]

variable {svc next : AppGwSvc}

theorem srvFd_congr (same : next.iSrvFd = svc.iSrvFd) (ucSrvType ucSrvSeq : UInt8) :
    next.srvFd ucSrvType ucSrvSeq = svc.srvFd ucSrvType ucSrvSeq := by
  unfold srvFd
  rw [same]

/-- A registered session stays the server of its slot. -/
theorem serves_keeps
    (kept : KeepsConnections ConnectSession.server svc next) {ucSrvType ucSrvSeq : UInt8} {fd : Int}
    (serves : svc.Serves ucSrvType ucSrvSeq fd) : next.Serves ucSrvType ucSrvSeq fd := by
  obtain ⟨ptr, s, found, live, inside, status, type, seq⟩ := serves
  obtain ⟨later, live', follows⟩ := kept.sessions.forward live
  have same : (later.loginStatus, later.srvType, later.srvSeq) =
      (s.loginStatus, s.srvType, s.srvSeq) := follows.same
  simp only [Prod.mk.injEq] at same
  obtain ⟨sameStatus, sameType, sameSeq⟩ := same
  exact ⟨ptr, later, by rw [kept.fdConnSs, found], live', by rw [follows.connType, inside],
    by rw [sameStatus, status], by rw [sameType, type], by rw [sameSeq, seq]⟩

theorem slotsServed_keeps
    (kept : KeepsConnections ConnectSession.server svc next) (slots : next.iSrvFd = svc.iSrvFd)
    (served : svc.SlotsServed) : next.SlotsServed := by
  intro ucSrvType ucSrvSeq typeNonzero seqNonzero positive
  rw [srvFd_congr slots] at positive ⊢
  exact serves_keeps kept (served ucSrvType ucSrvSeq typeNonzero seqNonzero positive)

/-- A first registration serves its own slot and no other slot. -/
theorem registerServer_served {svc : AppGwSvc} (well : svc.WellFormed) (served : svc.SlotsServed)
    {fd : Int} {req : SessionPtr} {s : ConnectSession} (found : svc.fdConnSs fd = some req)
    (live : svc.sessions req = some s) (inside : s.connType = .inside) (first : s.loginStatus = 0)
    (ucSrvType ucSrvSeq : UInt8) : (svc.registerServer req ucSrvType ucSrvSeq).SlotsServed := by
  have own : connectionFd s.connID = fd := by
    obtain ⟨session, live', own⟩ := well.found fd req found
    obtain rfl := Option.some.inj (live.symm.trans live')
    exact own
  have sessions : (svc.registerServer req ucSrvType ucSrvSeq).sessions =
      Function.update svc.sessions req
        (some { s with srvType := ucSrvType, srvSeq := ucSrvSeq, loginStatus := 1 }) := by
    rw [registerServer_eq live]
  have table := (registerServer_keepsConnections svc req ucSrvType ucSrvSeq).fdConnSs
  intro otherType otherSeq typeNonzero seqNonzero positive
  have slot : (svc.registerServer req ucSrvType ucSrvSeq).srvFd otherType otherSeq =
      if otherType = ucSrvType ∧ otherSeq = ucSrvSeq then fd else svc.srvFd otherType otherSeq := by
    rw [← setSrvFd_srvFd, ← own]
    apply srvFd_congr
    rw [registerServer_eq live]
  rw [slot] at positive ⊢
  by_cases same : otherType = ucSrvType ∧ otherSeq = ucSrvSeq
  · rw [if_pos same]
    refine ⟨req, { s with srvType := ucSrvType, srvSeq := ucSrvSeq, loginStatus := 1 }, ?_, ?_,
      inside, rfl, same.1.symm, same.2.symm⟩
    · rw [table, found]
    · rw [sessions, Function.update_self]
  · rw [if_neg same] at positive ⊢
    obtain ⟨ptr, session, foundPtr, livePtr, kind, status, type, seq⟩ :=
      served otherType otherSeq typeNonzero seqNonzero positive
    have different : ptr ≠ req := by
      rintro rfl
      obtain rfl := Option.some.inj (live.symm.trans livePtr)
      rw [first] at status
      exact absurd status (by decide)
    refine ⟨ptr, session, ?_, ?_, kind, status, type, seq⟩
    · rw [table, foundPtr]
    · rw [sessions, Function.update_of_ne different, livePtr]

/-- A login of an outside connection keeps every server. -/
theorem loginRole_served {svc : AppGwSvc} (well : svc.WellFormed) (served : svc.SlotsServed)
    (now : Nat) {client : SessionPtr} {c : ConnectSession} (live : svc.sessions client = some c)
    (outside : c.connType = .outside) (roleid : UInt32) (fd : Int) :
    (svc.loginRole now client roleid fd).SlotsServed := by
  have moved := (moveRole_keepsConnections well now client roleid fd).weaken
    fun _ _ => Follows.unkickedToServer
  have servedMoved := slotsServed_keeps moved (moveRole_iSrvFd svc now client roleid fd) served
  have kept : Keeps ConnectSession.connection _ (svc.loginRole now client roleid fd) :=
    modifySession_keeps _ client _ fun _ => ⟨rfl, rfl, rfl, id⟩
  intro ucSrvType ucSrvSeq typeNonzero seqNonzero positive
  rw [kept.srvFd] at positive ⊢
  obtain ⟨ptr, s, found, livePtr, inside, rest⟩ :=
    servedMoved ucSrvType ucSrvSeq typeNonzero seqNonzero positive
  have different : ptr ≠ client := by
    rintro rfl
    obtain ⟨later, live', follows⟩ := moved.sessions.forward live
    obtain rfl := Option.some.inj (livePtr.symm.trans live')
    rw [follows.connType, outside] at inside
    cases inside
  refine ⟨ptr, s, by rw [kept.fdConnSs, found], ?_, inside, rest⟩
  rw [loginRole, modifySession_sessions, Function.update_of_ne different, livePtr]

/-- A deletion frees the slot of the deleted server. -/
theorem Reaps.served {fd : Int} {ptr : SessionPtr} {s : ConnectSession}
    (reaps : Reaps svc fd ptr s next) (well : svc.WellFormed) (served : svc.SlotsServed) :
    next.SlotsServed := by
  intro ucSrvType ucSrvSeq typeNonzero seqNonzero positive
  have kept : next.srvFd ucSrvType ucSrvSeq = svc.srvFd ucSrvType ucSrvSeq ∧
      ¬ (s.connType = .inside ∧ s.loginStatus ≠ 0 ∧ ucSrvType = s.srvType ∧
        ucSrvSeq = s.srvSeq) := by
    by_cases registered : s.connType = .inside ∧ s.loginStatus ≠ 0
    · have cleared : next.srvFd ucSrvType ucSrvSeq =
          if ucSrvType = s.srvType ∧ ucSrvSeq = s.srvSeq then -1
          else svc.srvFd ucSrvType ucSrvSeq := by
        rw [← setSrvFd_srvFd]
        apply srvFd_congr
        rw [reaps.iSrvFd, if_pos registered]
      by_cases own : ucSrvType = s.srvType ∧ ucSrvSeq = s.srvSeq
      · rw [cleared, if_pos own] at positive
        exact absurd positive (by decide)
      · rw [cleared, if_neg own]
        exact ⟨rfl, fun all => own all.2.2⟩
    · refine ⟨srvFd_congr ?_ _ _, fun all => registered ⟨all.1, all.2.1⟩⟩
      rw [reaps.iSrvFd, if_neg registered]
  obtain ⟨same, notOwn⟩ := kept
  rw [same] at positive ⊢
  obtain ⟨other, session, found, live, inside, status, type, seq⟩ :=
    served ucSrvType ucSrvSeq typeNonzero seqNonzero positive
  have different : svc.srvFd ucSrvType ucSrvSeq ≠ fd := by
    intro atDescriptor
    rw [atDescriptor] at found
    obtain rfl := Option.some.inj (reaps.found.symm.trans found)
    obtain rfl := Option.some.inj (reaps.live.symm.trans live)
    exact notOwn ⟨inside, by rw [status]; decide, type.symm, seq.symm⟩
  obtain ⟨foundNext, otherPtr⟩ := reaps.found_kept well different found
  obtain ⟨later, live', follows⟩ := reaps.forward otherPtr live
  have login := follows.toLogin
  exact ⟨other, later, foundNext, live', by rw [login.connType, inside],
    by rw [login.loginStatus, status], by rw [login.srvType, type], by rw [login.srvSeq, seq]⟩

/-- Every step whose registrations are first ones keeps the slots served. -/
theorem slotsServed_rule (ini : IniOption) : StepRule ini SingleRegistration SlotsServed := by
  refine ⟨?_, ?_, ?_, ?_, ?_⟩
  · intro svc next _ served kept
    exact slotsServed_keeps (kept.toKeepsConnections.weaken fun _ _ => Follows.loginToServer)
      kept.iSrvFd served
  · intro svc next lsfd ip port connFd now well served _ _ _ accepts ucSrvType ucSrvSeq typeNonzero
      seqNonzero positive
    rw [srvFd_congr accepts.iSrvFd] at positive ⊢
    obtain ⟨ptr, s, found, live, rest⟩ := served ucSrvType ucSrvSeq typeNonzero seqNonzero positive
    exact ⟨ptr, s, accepts.keepsFound found, accepts.keepsLive well live, rest⟩
  · intro svc middle thread fd kernel ss s pkg ucSrvType ucSrvSeq _ _ single found live taken
      registered kept well served
    have first : (svc.registration thread fd).all _ = true := single.1
    rw [registration_eq found live taken registered] at first
    obtain ⟨later, live', follows⟩ := kept.sessions.forward live
    refine registerServer_served well served (by rw [kept.fdConnSs, found]) live' ?_ ?_ _ _
    · rw [follows.connType, registered.inside]
    · rw [follows.loginStatus]
      exact of_decide_eq_true first
  · intro svc middle thread fd kernel ss s pkg key client roleid now well _ single found live taken
      logged kept wellMiddle served
    obtain ⟨c, liveClient, -⟩ := well.found key client logged.found
    have outside : (svc.loginAck thread fd).all _ = true := single.2
    rw [loginAck_eq found live taken logged liveClient] at outside
    obtain ⟨later, liveLater, follows⟩ := kept.sessions.forward liveClient
    refine loginRole_served wellMiddle served now liveLater ?_ roleid key
    rw [follows.connType]
    exact of_decide_eq_true outside
  · intro svc next fd ptr s well served reaps
    exact reaps.served well served

/-- The server slots and the connection table agree. -/
structure SlotsMatch (svc : AppGwSvc) : Prop where
  served : ∀ ucSrvType ucSrvSeq, ucSrvType ≠ 0 → ucSrvSeq ≠ 0 →
    0 < svc.srvFd ucSrvType ucSrvSeq →
      svc.Serves ucSrvType ucSrvSeq (svc.srvFd ucSrvType ucSrvSeq)
  distinct : ∀ ucSrvType ucSrvSeq otherType otherSeq, ucSrvType ≠ 0 → ucSrvSeq ≠ 0 →
    otherType ≠ 0 → otherSeq ≠ 0 → 0 < svc.srvFd ucSrvType ucSrvSeq →
      svc.srvFd ucSrvType ucSrvSeq = svc.srvFd otherType otherSeq →
        ucSrvType = otherType ∧ ucSrvSeq = otherSeq
  released : ∀ fd, 0 < fd → svc.findFdConnSession fd = none → ∀ ucSrvType ucSrvSeq,
    ucSrvType ≠ 0 → ucSrvSeq ≠ 0 → svc.srvFd ucSrvType ucSrvSeq ≠ fd

theorem SlotsServed.slotsMatch {svc : AppGwSvc} (served : svc.SlotsServed) : svc.SlotsMatch where
  served := served
  distinct ucSrvType ucSrvSeq otherType otherSeq typeNonzero seqNonzero otherTypeNonzero
      otherSeqNonzero positive same := by
    obtain ⟨ptr, s, found, live, -, -, type, seq⟩ :=
      served ucSrvType ucSrvSeq typeNonzero seqNonzero positive
    rw [same] at positive found
    obtain ⟨ptr', s', found', live', -, -, type', seq'⟩ :=
      served otherType otherSeq otherTypeNonzero otherSeqNonzero positive
    obtain rfl := Option.some.inj (found.symm.trans found')
    obtain rfl := Option.some.inj (live.symm.trans live')
    exact ⟨type.symm.trans type', seq.symm.trans seq'⟩
  released fd positive absent ucSrvType ucSrvSeq typeNonzero seqNonzero same := by
    rw [← same] at positive absent
    obtain ⟨ptr, s, found, -⟩ := served ucSrvType ucSrvSeq typeNonzero seqNonzero positive
    unfold findFdConnSession at absent
    rw [found] at absent
    cases absent

/-- The slots match the table while every connection registers at most once. -/
theorem slots_match (ini : IniOption) {history : History AppGwSvc Event} {svc : AppGwSvc}
    (reached : Run (step ini) SingleRegistration initial history svc) : svc.SlotsMatch := by
  have start : initial.SlotsServed := by
    intro ucSrvType ucSrvSeq _ _ positive
    exact absurd positive (by decide : ¬ (0 : Int) < -1)
  exact ((slotsServed_rule ini).run start reached).2.slotsMatch

/-- A server sends this packet to register itself. -/
def registerPacket (ucSrvType ucSrvSeq : UInt8) : PkgBuff :=
  PkgBuff.encodeLength ((⟨0, directSSReq, ucSrvType, ucSrvSeq, msgTypeGwSvrConnect, 0, 0⟩ :
    PkgHead).packet ++ [ucSrvType, ucSrvSeq])

/-- One inside connection sends the given registrations. -/
def registerEvents (servers : List (UInt8 × UInt8)) : List Event :=
  .handleAccept .inside 9 700 3 0 :: servers.flatMap fun server =>
    [.receive 3 (.data (registerPacket server.1 server.2)) 0,
      .packet 0 3 ⟨fun _ => 0, fun _ => .sent⟩]

/-- One registration is such a run. -/
theorem slots_match_single :
    ∃ history svc, Run (step ⟨1⟩) SingleRegistration initial history svc ∧
      svc.srvFd 2 1 = 3 ∧ svc.SlotsMatch := by
  obtain ⟨history, svc, reached, registered⟩ := exists_run_of_replay (step ⟨1⟩)
    SingleRegistration initial (registerEvents [(2, 1)]) (fun _ svc => svc.srvFd 2 1 = 3)
    (by decide +kernel)
  exact ⟨history, svc, reached, of_decide_eq_true registered, slots_match ⟨1⟩ reached⟩

/-- A second registration gives one connection two slots. -/
theorem slots_not_match :
    ¬ ∀ (ini : IniOption) (history : History AppGwSvc Event) (svc : AppGwSvc),
      Run (step ini) anyEvent initial history svc → svc.SlotsMatch := by
  intro claim
  obtain ⟨history, svc, reached, twice⟩ := exists_run_of_replay (step ⟨1⟩) anyEvent initial
    (registerEvents [(2, 1), (2, 2)]) (fun _ svc => svc.srvFd 2 1 = 3 ∧ svc.srvFd 2 2 = 3)
    (by decide +kernel)
  obtain ⟨first, second⟩ := of_decide_eq_true twice
  have same := ((claim ⟨1⟩ history svc reached).distinct 2 1 2 2 (by decide) (by decide)
    (by decide) (by decide) (by rw [first]; decide) (first.trans second.symm)).2
  exact absurd same (by decide)

end AppSvr.Gateway.AppGwSvc
