/-
This file proves when the role table routes every role to the session that is logged in as it.
-/

import AppSvr.Proof.Gateway.Steps

namespace AppSvr.Gateway.AppGwSvc
open PartialMap TransitionSystem LittleEndian

/-- The descriptor finds a session that is logged in as the role and was not replaced. -/
def Routed (svc : AppGwSvc) (roleid : UInt32) (fd : Int) : Prop :=
  ∃ ptr s, svc.fdConnSs fd = some ptr ∧ svc.sessions ptr = some s ∧ s.connType = .outside ∧
    s.loginStatus = 1 ∧ s.roleID = roleid ∧ s.isSameUser = 0

/-- Every entry of the role table is routed, and no entry belongs to the empty role. -/
def RoutesRoles (svc : AppGwSvc) : Prop :=
  ∀ roleid fd, svc.roleIDFd roleid = some fd → roleid ≠ 0 ∧ svc.Routed roleid fd

/-- A login answer names an outside session that no other role uses and that was not replaced. -/
def SingleLogin (svc : AppGwSvc) : Event → Prop
  | .packet thread fd _ => (svc.loginAck thread fd).all (fun ack =>
      ack.2 ≠ 0 ∧ ack.1.connType = .outside ∧ ack.1.isSameUser = 0 ∧
        (ack.1.loginStatus = 0 ∨ ack.1.roleID = ack.2)) = true
  | _ => True

instance (svc : AppGwSvc) (event : Event) : Decidable (svc.SingleLogin event) :=
  match event with
  | .packet _ _ _ => inferInstanceAs (Decidable (_ = true))
  | .handleAccept _ _ _ _ _ | .receive _ _ _ | .closeMark _ _ | .removeConnSession _ =>
      isTrue trivial

theorem routed_keeps {svc next : AppGwSvc} (kept : Keeps ConnectSession.login svc next)
    {roleid : UInt32} {fd : Int} (routed : svc.Routed roleid fd) : next.Routed roleid fd := by
  obtain ⟨ptr, s, found, live, outside, status, role, own⟩ := routed
  obtain ⟨later, live', follows⟩ := kept.sessions.forward live
  exact ⟨ptr, later, by rw [kept.fdConnSs, found], live', by rw [follows.connType, outside],
    by rw [follows.loginStatus, status], by rw [follows.roleID, role],
    by rw [follows.isSameUser, own]⟩

variable {svc : AppGwSvc}

/-- Two roles never share a session. -/
theorem RoutesRoles.role_eq (routes : svc.RoutesRoles) {first second : UInt32}
    {key other : Int} {ptr : SessionPtr} (firstEntry : svc.roleIDFd first = some key)
    (secondEntry : svc.roleIDFd second = some other) (firstFound : svc.fdConnSs key = some ptr)
    (secondFound : svc.fdConnSs other = some ptr) : first = second := by
  obtain ⟨-, ptr₁, s₁, found₁, live₁, -, -, role₁, -⟩ := routes first key firstEntry
  obtain ⟨-, ptr₂, s₂, found₂, live₂, -, -, role₂, -⟩ := routes second other secondEntry
  obtain rfl := Option.some.inj (firstFound.symm.trans found₁)
  obtain rfl := Option.some.inj (secondFound.symm.trans found₂)
  obtain rfl := Option.some.inj (live₁.symm.trans live₂)
  rw [← role₁, role₂]

/-- Moving a role adds at most its new entry and touches no other routed session. -/
structure MovesRole (svc : AppGwSvc) (client : SessionPtr) (roleid : UInt32) (fd : Int)
    (next : AppGwSvc) : Prop where
  fdConnSs : next.fdConnSs = svc.fdConnSs
  entries : ∀ role key, next.roleIDFd role = some key →
    role = roleid ∧ key = fd ∨ svc.roleIDFd role = some key ∧
      ∀ ptr, svc.fdConnSs key = some ptr → next.sessions ptr = svc.sessions ptr
  client : next.sessions client = svc.sessions client

theorem insertUserFdMap_moves (svc : AppGwSvc) (client : SessionPtr) (roleid : UInt32) (fd : Int) :
    MovesRole svc client roleid fd (svc.insertUserFdMap roleid fd) := by
  unfold insertUserFdMap
  split
  · refine ⟨rfl, ?_, rfl⟩
    intro role key entry
    dsimp only at entry
    by_cases same : role = roleid
    · subst same
      rw [Function.update_self] at entry
      exact .inl ⟨rfl, (Option.some.inj entry).symm⟩
    · rw [Function.update_of_ne same] at entry
      exact .inr ⟨entry, fun _ _ => rfl⟩
  · exact ⟨rfl, fun _ _ entry => .inr ⟨entry, fun _ _ => rfl⟩, rfl⟩

/-- The mark changes only the session that it closes. -/
theorem closeMarkConnSession_other (svc : AppGwSvc) (now : Nat) {ptr other : SessionPtr}
    (different : other ≠ ptr) :
    (svc.closeMarkConnSession now ptr).sessions other = svc.sessions other := by
  unfold AppGwSvc.closeMarkConnSession
  split
  · rfl
  · exact Function.update_of_ne different _ _

/-- A found role has an entry in the role table. -/
theorem findRoleConnSession_entry {roleid : UInt32} {ptr : SessionPtr}
    (found : svc.findRoleConnSession roleid = some ptr) :
    ∃ fd, svc.roleIDFd roleid = some fd ∧ svc.fdConnSs fd = some ptr := by
  unfold findRoleConnSession findUserFd findFdConnSession at found
  cases entry : svc.roleIDFd roleid with
  | none => simp [entry] at found
  | some fd =>
      rw [entry] at found
      dsimp only [Option.getD_some] at found
      split at found
      · cases found
      · exact ⟨fd, rfl, found⟩

theorem moveRole_moves (routes : svc.RoutesRoles) (now : Nat)
    (client : SessionPtr) (roleid : UInt32) (fd : Int) :
    MovesRole svc client roleid fd (svc.moveRole now client roleid fd) := by
  unfold moveRole
  split
  · exact insertUserFdMap_moves svc client roleid fd
  · rename_i logined found
    split
    · rename_i replaced
      obtain ⟨earlier, entry, foundEarlier⟩ := findRoleConnSession_entry found
      have updated : svc.updateUserFdMap roleid fd =
          { svc with roleIDFd := Function.update svc.roleIDFd roleid (some fd) } := by
        simp [updateUserFdMap, entry]
      rw [updated]
      have kicked : Keeps ConnectSession.connection _ _ := modifySession_keeps
        { svc with roleIDFd := Function.update svc.roleIDFd roleid (some fd) } logined
        (fun s => { s with isSameUser := 1 }) fun _ => ⟨rfl, rfl, rfl, id⟩
      have untouched : ∀ other ≠ logined,
          ((({ svc with roleIDFd := Function.update svc.roleIDFd roleid (some fd) } :
            AppGwSvc).modifySession logined fun s =>
              { s with isSameUser := 1 }).closeMarkConnSession now logined).sessions other =
            svc.sessions other := by
        intro other different
        rw [closeMarkConnSession_other _ _ different, modifySession_sessions,
          Function.update_of_ne different]
      refine ⟨?_, ?_, untouched client (Ne.symm replaced.2)⟩
      · rw [closeMarkConnSession_fdConnSs, kicked.fdConnSs]
      · intro role key moved
        rw [closeMarkConnSession_roleIDFd, kicked.roleIDFd] at moved
        dsimp only at moved
        by_cases same : role = roleid
        · subst same
          rw [Function.update_self] at moved
          exact .inl ⟨rfl, (Option.some.inj moved).symm⟩
        · rw [Function.update_of_ne same] at moved
          refine .inr ⟨moved, fun ptr foundPtr => untouched ptr ?_⟩
          rintro rfl
          exact same (routes.role_eq moved entry foundPtr foundEarlier)
    · exact insertUserFdMap_moves svc client roleid fd

/-- A login of a free or equal role keeps every role routed. -/
theorem loginRole_routes (routes : svc.RoutesRoles) (now : Nat)
    {client : SessionPtr} {roleid : UInt32} {fd : Int} {c : ConnectSession}
    (found : svc.fdConnSs fd = some client) (live : svc.sessions client = some c)
    (nonzero : roleid ≠ 0) (outside : c.connType = .outside) (own : c.isSameUser = 0)
    (free : c.loginStatus = 0 ∨ c.roleID = roleid) :
    (svc.loginRole now client roleid fd).RoutesRoles := by
  have moves := moveRole_moves routes now client roleid fd
  have changed := modifySession_sessions (svc.moveRole now client roleid fd) client
    fun s => { s with srvType := 0, loginStatus := 1, roleID := roleid }
  have kept : Keeps ConnectSession.connection _ _ := modifySession_keeps
    (svc.moveRole now client roleid fd) client
    (fun s => { s with srvType := 0, loginStatus := 1, roleID := roleid })
    fun _ => ⟨rfl, rfl, rfl, id⟩
  have clientRouted : ∀ key, svc.fdConnSs key = some client →
      (svc.loginRole now client roleid fd).Routed roleid key := by
    intro key foundClient
    refine ⟨client, { c with srvType := 0, loginStatus := 1, roleID := roleid }, ?_, ?_, outside,
      rfl, rfl, own⟩
    · rw [loginRole, kept.fdConnSs, moves.fdConnSs, foundClient]
    · rw [loginRole, changed, Function.update_self, moves.client, live]
      rfl
  intro role key entry
  rw [loginRole, kept.roleIDFd] at entry
  rcases moves.entries role key entry with ⟨rfl, rfl⟩ | ⟨old, untouched⟩
  · exact ⟨nonzero, clientRouted key found⟩
  · obtain ⟨roleNonzero, ptr, s, foundPtr, livePtr, kind, status, own', same⟩ := routes role key old
    refine ⟨roleNonzero, ?_⟩
    by_cases isClient : ptr = client
    · subst isClient
      obtain rfl := Option.some.inj (livePtr.symm.trans live)
      rcases free with loggedOut | sameRole
      · rw [status] at loggedOut
        exact absurd loggedOut (by decide)
      · rw [← own', sameRole]
        exact clientRouted key foundPtr
    · refine ⟨ptr, s, ?_, ?_, kind, status, own', same⟩
      · rw [loginRole, kept.fdConnSs, moves.fdConnSs, foundPtr]
      · rw [loginRole, changed, Function.update_of_ne isClient, untouched ptr foundPtr, livePtr]

/-- A registration changes no outside session. -/
theorem registerServer_routes (routes : svc.RoutesRoles) {req : SessionPtr}
    {s : ConnectSession} (live : svc.sessions req = some s) (inside : s.connType = .inside)
    (ucSrvType ucSrvSeq : UInt8) : (svc.registerServer req ucSrvType ucSrvSeq).RoutesRoles := by
  rw [registerServer_eq live]
  intro role key entry
  dsimp only at entry
  obtain ⟨nonzero, ptr, c, found, livePtr, outside, status⟩ := routes role key entry
  have different : ptr ≠ req := by
    rintro rfl
    obtain rfl := Option.some.inj (live.symm.trans livePtr)
    rw [inside] at outside
    cases outside
  refine ⟨nonzero, ptr, c, found, ?_, outside, status⟩
  dsimp only
  rw [Function.update_of_ne different, livePtr]

/-- A deletion removes the role entry of the deleted session. -/
theorem Reaps.entry_kept {svc next : AppGwSvc} {fd : Int} {ptr : SessionPtr} {s : ConnectSession}
    (reaps : Reaps svc fd ptr s next) (routes : svc.RoutesRoles) {role : UInt32} {key : Int}
    (entry : next.roleIDFd role = some key) : key ≠ fd ∧ svc.roleIDFd role = some key := by
  have atDescriptor : svc.roleIDFd role = some fd →
      s.connType = .outside ∧ s.isSameUser = 0 ∧ s.roleID = role ∧ role ≠ 0 := by
    intro old
    obtain ⟨nonzero, other, c, found, live, outside, -, own, same⟩ := routes role fd old
    obtain rfl := Option.some.inj (reaps.found.symm.trans found)
    obtain rfl := Option.some.inj (reaps.live.symm.trans live)
    exact ⟨outside, same, own, nonzero⟩
  have old : svc.roleIDFd role = some key ∧
      (s.connType = .outside → s.isSameUser = 0 → s.roleID = role → role = 0) := by
    rw [reaps.roleIDFd] at entry
    split at entry
    · unfold removeRoleFdMap at entry
      split at entry
      · rename_i zero
        exact ⟨entry, fun _ _ same => same.symm.trans zero⟩
      · by_cases removed : role = s.roleID
        · simp [removed] at entry
        · dsimp only at entry
          rw [Function.update_of_ne removed] at entry
          exact ⟨entry, fun _ _ same => absurd same.symm removed⟩
    · rename_i foreign
      exact ⟨entry, fun outside same _ => absurd ⟨outside, same⟩ foreign⟩
  refine ⟨?_, old.1⟩
  rintro rfl
  obtain ⟨outside, same, own, nonzero⟩ := atDescriptor old.1
  exact nonzero (old.2 outside same own)

theorem Reaps.routes {svc next : AppGwSvc} {fd : Int} {ptr : SessionPtr} {s : ConnectSession}
    (reaps : Reaps svc fd ptr s next) (well : svc.WellFormed) (routes : svc.RoutesRoles) :
    next.RoutesRoles := by
  intro role key entry
  obtain ⟨different, old⟩ := reaps.entry_kept routes entry
  obtain ⟨nonzero, other, c, found, live, outside, status, own, same⟩ := routes role key old
  obtain ⟨kept, otherPtr⟩ := reaps.found_kept well different found
  obtain ⟨later, live', follows⟩ := reaps.forward otherPtr live
  have login := follows.toLogin
  exact ⟨nonzero, other, later, kept, live', by rw [login.connType, outside],
    by rw [login.loginStatus, status], by rw [login.roleID, own], by rw [login.isSameUser, same]⟩

/-- Every step whose login answers take a free connection keeps every role routed. -/
theorem routesRoles_rule (ini : IniOption) : StepRule ini SingleLogin RoutesRoles := by
  refine ⟨?_, ?_, ?_, ?_, ?_⟩
  · intro svc next _ routes kept role key entry
    rw [kept.roleIDFd] at entry
    exact ⟨(routes role key entry).1, routed_keeps kept (routes role key entry).2⟩
  · intro svc next lsfd ip port connFd now well routes _ _ _ accepts role key entry
    rw [accepts.roleIDFd] at entry
    obtain ⟨nonzero, ptr, s, found, live, rest⟩ := routes role key entry
    exact ⟨nonzero, ptr, s, accepts.keepsFound found, accepts.keepsLive well live, rest⟩
  · intro svc middle thread fd kernel ss s pkg ucSrvType ucSrvSeq _ _ _ _ live _ registered kept _
      routes
    obtain ⟨later, live', follows⟩ := kept.sessions.forward live
    exact registerServer_routes routes live' (by rw [follows.connType, registered.inside]) _ _
  · intro svc middle thread fd kernel ss s pkg key client roleid now well _ single found live taken
      logged kept _ routes
    obtain ⟨c, liveClient, -⟩ := well.found key client logged.found
    have ack := loginAck_eq found live taken logged liveClient
    have condition : roleid ≠ 0 ∧ c.connType = .outside ∧ c.isSameUser = 0 ∧
        (c.loginStatus = 0 ∨ c.roleID = roleid) := by
      have checked : (svc.loginAck thread fd).all _ = true := single
      rw [ack] at checked
      exact of_decide_eq_true checked
    obtain ⟨nonzero, outside, own, free⟩ := condition
    obtain ⟨later, liveLater, follows⟩ := kept.sessions.forward liveClient
    refine loginRole_routes routes now ?_ liveLater nonzero ?_ ?_ ?_
    · rw [kept.fdConnSs, logged.found]
    · rw [follows.connType, outside]
    · rw [follows.isSameUser, own]
    · rwa [follows.loginStatus, follows.roleID]
  · intro svc next fd ptr s well routes reaps
    exact reaps.routes well routes

/-- An open session under a role's descriptor is the outside session logged in as the role. -/
def EntriesMatch (svc : AppGwSvc) : Prop :=
  ∀ roleid fd ptr s, svc.roleIDFd roleid = some fd → svc.fdConnSs fd = some ptr →
    svc.sessions ptr = some s → ptr ∉ svc.closeMarked →
      s.connType = .outside ∧ s.loginStatus = 1 ∧ s.roleID = roleid

/-- A server packet for a role is written only to a session logged in as that role. -/
def DeliversToRole (svc : AppGwSvc) : Prop :=
  ∀ kernel pkg, ¬ isLoginS2C pkg.head →
    (svc.processS2C kernel pkg).wire = svc.wire ∨
      ∃ ptr s written, svc.sessions ptr = some s ∧ s.loginStatus = 1 ∧
        s.roleID = pkg.head.uiRoleID ∧
          (svc.processS2C kernel pkg).wire = svc.wire ++ [(ptr, written)]

theorem RoutesRoles.entriesMatch (routes : svc.RoutesRoles) :
    svc.EntriesMatch := by
  intro roleid fd ptr s entry found live _
  obtain ⟨-, other, c, found', live', outside, status, own, -⟩ := routes roleid fd entry
  obtain rfl := Option.some.inj (found.symm.trans found')
  obtain rfl := Option.some.inj (live.symm.trans live')
  exact ⟨outside, status, own⟩

theorem RoutesRoles.delivers (routes : svc.RoutesRoles) :
    svc.DeliversToRole := by
  intro kernel pkg other
  unfold processS2C
  dsimp only
  split
  · exact .inl rfl
  · split
    · exact .inl rfl
    · rename_i client found
      obtain ⟨fd, entry, foundClient⟩ := findRoleConnSession_entry found
      obtain ⟨-, ptr, s, foundPtr, live, -, status, own, -⟩ := routes _ fd entry
      obtain rfl := Option.some.inj (foundClient.symm.trans foundPtr)
      rcases svc.sendToClient_wire kernel client
        (tranPkg { pkg.head with uiRoleID := 0 } pkg pkg.head.usPkgLen) with same | ⟨written, sent⟩
      · exact .inl same
      · exact .inr ⟨client, s, written, live, status, own, sent⟩

/-- The role table routes every role while login answers take only free connections. -/
theorem roles_routed (ini : IniOption) {history : History AppGwSvc Event} {svc : AppGwSvc}
    (reached : Run (step ini) SingleLogin initial history svc) :
    svc.EntriesMatch ∧ svc.DeliversToRole := by
  have routes := ((routesRoles_rule ini).run (fun _ _ entry => nomatch entry) reached).2
  exact ⟨routes.entriesMatch, routes.delivers⟩

/-- The main server answers a role login of a client with this packet. -/
def loginAnswer (llClientId : UInt64) (uiRoleID : UInt32) : PkgBuff :=
  PkgBuff.encodeLength ((⟨0, directCSResp, svrTypeMain, 1, msgTypeCsRoleLogin, 0, 0⟩ :
    PkgHead).packet ++ encode 4 0 ++ encode 4 uiRoleID.toNat ++ encode 8 llClientId.toNat)

/-- One main server and one client accept the given login answers. -/
def loginEvents (roles : List UInt32) : List Event :=
  [.handleAccept .inside 9 700 3 0, .handleAccept .outside 7 80 5 0] ++
    roles.flatMap fun uiRoleID =>
      [.receive 3 (.data (loginAnswer (connectionId 7 80 5) uiRoleID)) 0,
        .packet 0 3 ⟨fun _ => 0, fun _ => .sent⟩]

/-- One login answer is such a run. -/
theorem roles_routed_single :
    ∃ history svc, Run (step ⟨1⟩) SingleLogin initial history svc ∧
      svc.roleIDFd 1001 = some 5 ∧ svc.EntriesMatch ∧ svc.DeliversToRole := by
  obtain ⟨history, svc, reached, logged⟩ := exists_run_of_replay (step ⟨1⟩) SingleLogin initial
    (loginEvents [1001]) (fun _ svc => svc.roleIDFd 1001 = some 5) (by decide +kernel)
  exact ⟨history, svc, reached, of_decide_eq_true logged, roles_routed ⟨1⟩ reached⟩

/-- A second role on one connection leaves the entry of the first role behind. -/
theorem roles_not_routed :
    ¬ ∀ (ini : IniOption) (history : History AppGwSvc Event) (svc : AppGwSvc),
      Run (step ini) FreshDescriptor initial history svc →
        svc.EntriesMatch ∧ svc.DeliversToRole := by
  intro claim
  obtain ⟨history, svc, reached, stale⟩ := exists_run_of_replay (step ⟨1⟩) FreshDescriptor initial
    (loginEvents [1001, 1002])
    (fun _ svc => svc.roleIDFd 1001 = some 5 ∧ svc.fdConnSs 5 = some 1 ∧
      (svc.sessions 1).any (fun s => s.roleID = 1002) ∧ 1 ∉ svc.closeMarked) (by decide +kernel)
  obtain ⟨entry, found, other, unmarked⟩ := of_decide_eq_true stale
  obtain ⟨s, live, role⟩ := (Option.any_eq_true _ _).mp other
  have own := ((claim ⟨1⟩ history svc reached).1 1001 5 1 s entry found live unmarked).2.2
  rw [of_decide_eq_true role] at own
  exact absurd own (by decide)

end AppSvr.Gateway.AppGwSvc
