/-
This file states once what accepting, reading and closing do to the sessions of the server.
-/

import AppSvr.Construction.BaseServer.SSServer
import AppSvr.Proof.BaseServer.PacketReader
import AppSvr.ToMathlib.TransitionSystem

namespace AppSvr.BaseServer.SSServer

variable {server next : SSServer} {maxMsgSize : UInt32} {session : SessionPtr}

section SessionMap

variable (sessions : Std.TreeMap Int SessionPtr) (fd key : Int)

theorem getElem?_insert_session :
    (sessions.insert fd session)[key]? = if fd = key then some session else sessions[key]? := by
  simp [Std.TreeMap.getElem?_insert]

theorem getElem?_erase_session :
    (sessions.erase fd)[key]? = if fd = key then none else sessions[key]? := by
  simp [Std.TreeMap.getElem?_erase]

end SessionMap

/-- The session object took a new connection. -/
def connect (maxMsgSize : UInt32) (index : Nat) (fd : Int) (session : Session) : Session :=
  { session with
    handle := fd
    connected := true
    eventIndex := index
    inBuffer := .new maxMsgSize }

/-- An accepted connection takes the new session object and the slot behind the last one. -/
structure Accepts (maxMsgSize : UInt32) (server : SSServer) (fd : Int) (next : SSServer) :
    Prop where
  sessions : next.sessions = Function.update server.sessions server.newSession
    (connect maxMsgSize (server.busySessions.size + 1) fd (server.sessions server.newSession))
  busySessions : next.busySessions = server.busySessions.insert fd server.newSession
  pfds : next.pfds = Function.update server.pfds (server.busySessions.size + 1) ⟨fd, .none⟩
  owner : next.owner = Function.update server.owner fd (some server.accepted)
  accepted : next.accepted = server.accepted + 1
  packets : next.packets = server.packets
  held : next.held = server.held
  recycled : server.idleSessions = next.newSession :: next.idleSessions ∧
      next.nextSession = server.nextSession ∨
    server.idleSessions = [] ∧ next.idleSessions = [] ∧
      next.newSession = server.nextSession ∧ next.nextSession = server.nextSession + 1

theorem accept_accepts (room : server.busySessions.size ≤ maxSession) (fd : Int) :
    Accepts maxMsgSize server fd (server.accept maxMsgSize (some fd)) := by
  rw [accept, if_neg (by omega)]
  unfold insertSession
  cases idle : server.idleSessions with
  | nil => constructor <;> simp [connect, idle]
  | cons first rest => constructor <;> simp [connect, idle]

theorem Accepts.size {fd : Int} (accepts : Accepts maxMsgSize server fd next)
    (unused : server.findSession fd = none) :
    next.busySessions.size = server.busySessions.size + 1 := by
  have absent : fd ∉ server.busySessions := by
    rw [Std.TreeMap.mem_iff_isSome_getElem?]
    unfold findSession at unused
    simp [unused]
  rw [accepts.busySessions, Std.TreeMap.size_insert]
  simp [absent]

theorem Accepts.findSession {fd : Int} (accepts : Accepts maxMsgSize server fd next) (key : Int) :
    next.findSession key =
      if fd = key then some server.newSession else server.findSession key := by
  rw [SSServer.findSession, accepts.busySessions, getElem?_insert_session]
  rfl

/-- A session found after an accept is the new one or was found before. -/
theorem Accepts.found_cases {fd key : Int} (accepts : Accepts maxMsgSize server fd next)
    (found : next.findSession key = some session) :
    fd = key ∧ session = server.newSession ∨
      fd ≠ key ∧ server.findSession key = some session := by
  rw [accepts.findSession] at found
  by_cases same : fd = key
  · rw [if_pos same] at found
    exact .inl ⟨same, (Option.some.inj found).symm⟩
  · rw [if_neg same] at found
    exact .inr ⟨same, found⟩

/-- A connection after an accept is the new one or was there before. -/
theorem Accepts.owner_cases {fd key : Int} {client : Client}
    (accepts : Accepts maxMsgSize server fd next) (owned : next.owner key = some client) :
    key = fd ∧ client = server.accepted ∨ key ≠ fd ∧ server.owner key = some client := by
  rw [accepts.owner, Function.update_apply] at owned
  by_cases same : key = fd
  · rw [if_pos same] at owned
    exact .inl ⟨same, (Option.some.inj owned).symm⟩
  · rw [if_neg same] at owned
    exact .inr ⟨same, owned⟩

/-- A refused or failed accept keeps every table. -/
structure Refuses (server next : SSServer) : Prop where
  handle : ∀ session, (next.sessions session).handle = (server.sessions session).handle ∨
    session = server.newSession ∧ (next.sessions session).handle = -1
  rest : next = { server with sessions := next.sessions }
  others : ∀ session, next.sessions session =
    { server.sessions session with handle := (next.sessions session).handle }

theorem accept_cases (server : SSServer) (maxMsgSize : UInt32) (fd : Option Int) :
    Refuses server (server.accept maxMsgSize fd) ∨
      ∃ new, fd = some new ∧ server.busySessions.size ≤ maxSession ∧
        Accepts maxMsgSize server new (server.accept maxMsgSize fd) := by
  by_cases full : maxSession < server.busySessions.size
  · rw [accept, if_pos full]
    exact .inl ⟨fun _ => .inl rfl, rfl, fun _ => rfl⟩
  · cases fd with
    | some new => exact .inr ⟨new, rfl, by omega, accept_accepts (by omega) new⟩
    | none =>
        rw [accept, if_neg full]
        refine .inl ⟨?_, rfl, ?_⟩
        · intro session
          by_cases new : session = server.newSession
          · subst new
            simp
          · simp [Function.update_of_ne new]
        · intro session
          by_cases new : session = server.newSession
          · subst new
            simp
          · simp [Function.update_of_ne new]

/-- The last session keeps its slot when it is removed. -/
theorem removeSession_last
    (last : ¬ (server.sessions session).eventIndex < server.busySessions.size) :
    server.removeSession session =
      { server with
        busySessions := server.busySessions.erase (server.sessions session).handle
        idleSessions := server.idleSessions ++ [session] } := by
  simp only [removeSession, if_neg last]

/-- Another session's slot is taken by the last session. -/
theorem removeSession_moved {moved : SessionPtr}
    (before : (server.sessions session).eventIndex < server.busySessions.size)
    (found : server.findSession (server.pfds server.busySessions.size).fd = some moved) :
    server.removeSession session =
      { server with
        pfds := Function.update server.pfds (server.sessions session).eventIndex
          (server.pfds server.busySessions.size)
        sessions := Function.update server.sessions moved
          { server.sessions moved with eventIndex := (server.sessions session).eventIndex }
        busySessions := server.busySessions.erase (server.sessions session).handle
        idleSessions := server.idleSessions ++ [session] } := by
  unfold findSession at found
  simp only [removeSession, if_pos before, findSession, found]

theorem removeSession_null
    (before : (server.sessions session).eventIndex < server.busySessions.size)
    (missing : server.findSession (server.pfds server.busySessions.size).fd = none) :
    server.removeSession session =
      { server with
        stoped := true
        pfds := Function.update server.pfds (server.sessions session).eventIndex
          (server.pfds server.busySessions.size)
        busySessions := server.busySessions.erase (server.sessions session).handle
        idleSessions := server.idleSessions ++ [session] } := by
  unfold findSession at missing
  simp only [removeSession, if_pos before, findSession, missing]

/-- A removed session becomes idle; `eventIndex` is the only field of a session that changes. -/
structure Removes (server : SSServer) (session : SessionPtr) (next : SSServer) : Prop where
  sessions : ∀ other, next.sessions other =
    { server.sessions other with eventIndex := (next.sessions other).eventIndex }
  busySessions : next.busySessions =
    server.busySessions.erase (server.sessions session).handle
  idleSessions : next.idleSessions = server.idleSessions ++ [session]
  owner : next.owner = server.owner
  newSession : next.newSession = server.newSession
  nextSession : next.nextSession = server.nextSession
  packets : next.packets = server.packets
  held : next.held = server.held
  accepted : next.accepted = server.accepted

theorem removeSession_removes (server : SSServer) (session : SessionPtr) :
    Removes server session (server.removeSession session) := by
  by_cases before : (server.sessions session).eventIndex < server.busySessions.size
  · cases found : server.findSession (server.pfds server.busySessions.size).fd with
    | none =>
        rw [removeSession_null before found]
        exact ⟨fun _ => rfl, rfl, rfl, rfl, rfl, rfl, rfl, rfl, rfl⟩
    | some moved =>
        rw [removeSession_moved before found]
        refine ⟨?_, rfl, rfl, rfl, rfl, rfl, rfl, rfl, rfl⟩
        intro other
        by_cases same : other = moved
        · subst same
          simp
        · simp [Function.update_of_ne same]
  · rw [removeSession_last before]
    exact ⟨fun _ => rfl, rfl, rfl, rfl, rfl, rfl, rfl, rfl, rfl⟩

/-- A closed session also gives up its descriptor and its bytes. -/
structure Closes (server : SSServer) (session : SessionPtr) (next : SSServer) : Prop where
  closed : next.sessions session =
    { (server.sessions session).shutdown with
      eventIndex := (next.sessions session).eventIndex }
  others : ∀ other, other ≠ session → next.sessions other =
    { server.sessions other with eventIndex := (next.sessions other).eventIndex }
  busySessions : next.busySessions =
    server.busySessions.erase (server.sessions session).handle
  idleSessions : next.idleSessions = server.idleSessions ++ [session]
  owner : next.owner = Function.update server.owner (server.sessions session).handle none
  newSession : next.newSession = server.newSession
  nextSession : next.nextSession = server.nextSession
  packets : next.packets = server.packets
  held : next.held = server.held
  accepted : next.accepted = server.accepted

theorem Closes.findSession {fd : Int} (closes : Closes server session next)
    (handle : (server.sessions session).handle = fd) (key : Int) :
    next.findSession key = if fd = key then none else server.findSession key := by
  rw [SSServer.findSession, closes.busySessions, getElem?_erase_session, handle]
  rfl

/-- A session found after a close was found before under another descriptor. -/
theorem Closes.found_before {fd key : Int} {other : SessionPtr}
    (closes : Closes server session next) (handle : (server.sessions session).handle = fd)
    (found : next.findSession key = some other) :
    fd ≠ key ∧ server.findSession key = some other := by
  rw [closes.findSession handle] at found
  by_cases same : fd = key
  · rw [if_pos same] at found
    cases found
  · rw [if_neg same] at found
    exact ⟨same, found⟩

/-- A connection after a close was there before on another descriptor. -/
theorem Closes.owner_before {fd key : Int} {client : Client}
    (closes : Closes server session next) (handle : (server.sessions session).handle = fd)
    (owned : next.owner key = some client) : key ≠ fd ∧ server.owner key = some client := by
  rw [closes.owner, handle, Function.update_apply] at owned
  by_cases same : key = fd
  · rw [if_pos same] at owned
    cases owned
  · rw [if_neg same] at owned
    exact ⟨same, owned⟩

theorem Closes.handle (closes : Closes server session next) (other : SessionPtr) :
    (next.sessions other).handle = (server.sessions other).handle := by
  by_cases same : other = session
  · subst same
    rw [closes.closed]
    rfl
  · rw [closes.others other same]

/-- The descriptor is closed before the session is removed. -/
def released (server : SSServer) (session : SessionPtr) : SSServer :=
  { server with
    sessions := Function.update server.sessions session (server.sessions session).shutdown
    owner := Function.update server.owner (server.sessions session).handle none }

theorem closeSession_eq (server : SSServer) (session : SessionPtr) :
    server.closeSession session = (server.released session).removeSession session := rfl

theorem closeSession_closes (server : SSServer) (session : SessionPtr) :
    Closes server session (server.closeSession session) := by
  have removes := removeSession_removes (server.released session) session
  have self : (server.released session).sessions session =
      (server.sessions session).shutdown := Function.update_self ..
  rw [closeSession_eq]
  constructor
  · rw [removes.sessions, self]
  · intro other different
    have kept : (server.released session).sessions other = server.sessions other :=
      Function.update_of_ne different ..
    rw [removes.sessions, kept]
  · rw [removes.busySessions, self]
    rfl
  · exact removes.idleSessions
  · exact removes.owner
  · exact removes.newSession
  · exact removes.nextSession
  · exact removes.packets
  · exact removes.held
  · exact removes.accepted

/-- The server after one call of `OnRecv`, before a close. -/
def afterRecv (server : SSServer) (session : SessionPtr) (received : Session.Received) : SSServer :=
  { server with
    sessions := Function.update server.sessions session received.session
    packets := server.packets ++ received.packet.toList.map fun packet =>
      ⟨session, packet, server.owner (server.sessions session).handle⟩ }

theorem onRecv_eq (server : SSServer) (session : SessionPtr) (first second : Recv) :
    server.onRecv maxMsgSize session first second =
      let received := (server.sessions session).onRecv maxMsgSize first second
      if received.closes then (-1, (server.afterRecv session received).closeSession session)
      else (0, server.afterRecv session received) := rfl

/-- One call of `OnRecv` reads, and closes the session when the reader asks for it. -/
theorem onRecv_cases (maxMsgSize : UInt32) (server : SSServer) (session : SessionPtr)
    (first second : Recv) :
    let received := (server.sessions session).onRecv maxMsgSize first second
    received.closes = true ∧ (server.onRecv maxMsgSize session first second).2 =
        (server.afterRecv session received).closeSession session ∨
      received.closes = false ∧ (server.onRecv maxMsgSize session first second).2 =
        server.afterRecv session received := by
  rw [onRecv_eq]
  dsimp only
  split
  · next closes => exact .inl ⟨closes, rfl⟩
  · next opened => exact .inr ⟨by simpa using opened, rfl⟩

/-- Reading changes no handle. -/
theorem afterRecv_handle (maxMsgSize : UInt32) (server : SSServer)
    (session other : SessionPtr) (first second : Recv) :
    ((server.afterRecv session
      ((server.sessions session).onRecv maxMsgSize first second)).sessions other).handle =
        (server.sessions other).handle := by
  simp only [afterRecv, Function.update_apply]
  split
  · next same => rw [Session.onRecv_session, same]
  · rfl

/-- Reading accepts no connection. -/
theorem onRecv_accepted (maxMsgSize : UInt32) (server : SSServer) (session : SessionPtr)
    (first second : Recv) :
    (server.onRecv maxMsgSize session first second).2.accepted = server.accepted := by
  rcases server.onRecv_cases maxMsgSize session first second with ⟨-, same⟩ | ⟨-, same⟩
  · rw [same]
    exact (closeSession_closes _ _).accepted
  · rw [same]
    rfl

variable {fd : Int}

/-- Every session object is busy under its own descriptor, idle, or the new one; exactly the busy
descriptors are open, each for its own connection. -/
structure WellFormed (server : SSServer) : Prop where
  handle : ∀ {fd session}, server.findSession fd = some session →
    (server.sessions session).handle = fd
  busy : ∀ {fd session}, server.findSession fd = some session →
    session ≠ server.newSession ∧ session ∉ server.idleSessions ∧ session < server.nextSession
  idle : ∀ {session}, session ∈ server.idleSessions →
    session ≠ server.newSession ∧ session < server.nextSession
  nodup : server.idleSessions.Nodup
  newSession : server.newSession < server.nextSession
  owned : ∀ fd, (server.owner fd).isSome = (server.findSession fd).isSome
  before : ∀ {fd client}, server.owner fd = some client → client < server.accepted
  unique : ∀ {fd other client}, server.owner fd = some client →
    server.owner other = some client → fd = other

namespace WellFormed

theorem initial : WellFormed SSServer.initial where
  handle found := by cases found
  busy found := by cases found
  idle member := by cases member
  nodup := List.nodup_nil
  newSession := Nat.zero_lt_one
  owned _ := rfl
  before owned := by cases owned
  unique owned := by cases owned

/-- The handles, the map, the idle list and the descriptors decide. -/
theorem congr (well : server.WellFormed)
    (handles : ∀ session, (next.sessions session).handle = (server.sessions session).handle)
    (rest : next = { server with
      stoped := next.stoped
      sessions := next.sessions
      pfds := next.pfds
      packets := next.packets
      held := next.held }) : next.WellFormed := by
  rw [rest]
  refine ⟨?_, well.busy, well.idle, well.nodup, well.newSession, well.owned, well.before,
    well.unique⟩
  intro fd session found
  exact (handles session).trans (well.handle found)

/-- A busy session has one descriptor. -/
theorem fd_unique (well : server.WellFormed) {other : Int}
    (first : server.findSession fd = some session)
    (second : server.findSession other = some session) : fd = other :=
  (well.handle first).symm.trans (well.handle second)

/-- A descriptor that is not open has no session. -/
theorem unused (well : server.WellFormed) (closed : server.owner fd = none) :
    server.findSession fd = none := by
  have owned := well.owned fd
  rw [closed] at owned
  simpa using owned.symm

theorem refuses (well : server.WellFormed) (refuses : Refuses server next) :
    next.WellFormed := by
  rw [refuses.rest]
  refine ⟨?_, well.busy, well.idle, well.nodup, well.newSession, well.owned, well.before,
    well.unique⟩
  intro fd session found
  rcases refuses.handle session with same | new
  · exact same.trans (well.handle found)
  · exact absurd new.1 (well.busy found).1

theorem accepts (well : server.WellFormed) (accepts : Accepts maxMsgSize server fd next) :
    next.WellFormed := by
  have handles : ∀ {key s}, next.findSession key = some s → (next.sessions s).handle = key := by
    intro key s found
    rw [accepts.sessions]
    rcases accepts.found_cases found with ⟨rfl, rfl⟩ | ⟨-, old⟩
    · simp [connect]
    · rw [Function.update_of_ne (well.busy old).1]
      exact well.handle old
  have owned : ∀ key, (next.owner key).isSome = (next.findSession key).isSome := by
    intro key
    rw [accepts.findSession, accepts.owner]
    by_cases same : fd = key
    · subst same
      simp
    · rw [if_neg same, Function.update_of_ne (Ne.symm same)]
      exact well.owned key
  have before : ∀ {key client}, next.owner key = some client → client < next.accepted := by
    intro key client present
    rw [accepts.accepted]
    rcases accepts.owner_cases present with ⟨-, rfl⟩ | ⟨-, old⟩
    · exact Nat.lt_succ_self _
    · exact Nat.lt_succ_of_lt (well.before old)
  have unique : ∀ {key other client}, next.owner key = some client →
      next.owner other = some client → key = other := by
    intro key other client first second
    rcases accepts.owner_cases first with ⟨rfl, rfl⟩ | ⟨-, old⟩ <;>
      rcases accepts.owner_cases second with ⟨same, fresh⟩ | ⟨-, again⟩
    · exact same.symm
    · exact absurd (well.before again) (lt_irrefl _)
    · exact absurd (well.before (fresh ▸ old)) (lt_irrefl _)
    · exact well.unique old again
  have newSession := well.newSession
  rcases accepts.recycled with ⟨idle, limit⟩ | ⟨empty, none, fresh, limit⟩
  · have nodup := well.nodup
    rw [idle, List.nodup_cons] at nodup
    have first := well.idle (show next.newSession ∈ server.idleSessions by simp [idle])
    refine ⟨handles, ?_, ?_, nodup.2, by rw [limit]; exact first.2, owned, before, unique⟩
    · intro key s found
      rw [limit]
      rcases accepts.found_cases found with ⟨-, rfl⟩ | ⟨-, old⟩
      · refine ⟨first.1.symm, ?_, newSession⟩
        intro member
        exact (well.idle (by rw [idle]; exact List.mem_cons_of_mem _ member)).1 rfl
      · obtain ⟨-, notIdle, below⟩ := well.busy old
        rw [idle, List.mem_cons, not_or] at notIdle
        exact ⟨notIdle.1, notIdle.2, below⟩
    · intro s member
      rw [limit]
      refine ⟨?_, (well.idle (by rw [idle]; exact List.mem_cons_of_mem _ member)).2⟩
      rintro rfl
      exact nodup.1 member
  · refine ⟨handles, ?_, ?_, by rw [none]; exact List.nodup_nil, ?_, owned, before, unique⟩
    · intro key s found
      have below : s < server.nextSession := by
        rcases accepts.found_cases found with ⟨-, rfl⟩ | ⟨-, old⟩
        · exact newSession
        · exact (well.busy old).2.2
      rw [none, fresh, limit]
      exact ⟨below.ne, List.not_mem_nil, Nat.lt_succ_of_lt below⟩
    · intro s member
      rw [none] at member
      cases member
    · rw [fresh, limit]
      exact Nat.lt_succ_self _

theorem closes (well : server.WellFormed) (found : server.findSession fd = some session)
    (closes : Closes server session next) : next.WellFormed := by
  have handle := well.handle found
  have remains : ∀ {key other}, next.findSession key = some other →
      other ≠ session ∧ server.findSession key = some other := by
    intro key other present
    obtain ⟨different, old⟩ := closes.found_before handle present
    refine ⟨?_, old⟩
    rintro rfl
    exact different (well.fd_unique found old)
  obtain ⟨notNew, notIdle, below⟩ := well.busy found
  refine ⟨?_, ?_, ?_, ?_, ?_, ?_, ?_, ?_⟩
  · intro key s present
    rw [closes.handle]
    exact well.handle (remains present).2
  · intro key s present
    obtain ⟨other, old⟩ := remains present
    rw [closes.newSession, closes.nextSession, closes.idleSessions, List.mem_append,
      List.mem_singleton, not_or]
    obtain ⟨first, second, third⟩ := well.busy old
    exact ⟨first, ⟨second, other⟩, third⟩
  · intro s member
    rw [closes.newSession, closes.nextSession]
    rw [closes.idleSessions, List.mem_append, List.mem_singleton] at member
    rcases member with old | rfl
    · exact well.idle old
    · exact ⟨notNew, below⟩
  · rw [closes.idleSessions]
    refine List.nodup_append.mpr ⟨well.nodup, List.nodup_cons.mpr ⟨by simp, List.nodup_nil⟩, ?_⟩
    intro first member second single same
    rw [List.mem_singleton] at single
    exact notIdle (single ▸ same ▸ member)
  · rw [closes.newSession, closes.nextSession]
    exact well.newSession
  · intro key
    rw [closes.findSession handle, closes.owner, handle]
    by_cases same : fd = key
    · subst same
      simp
    · rw [if_neg same, Function.update_of_ne (Ne.symm same)]
      exact well.owned key
  · intro key client present
    rw [closes.accepted]
    exact well.before (closes.owner_before handle present).2
  · intro key other client first second
    exact well.unique (closes.owner_before handle first).2 (closes.owner_before handle second).2

theorem afterRecv (maxMsgSize : UInt32) (well : server.WellFormed) (session : SessionPtr)
    (first second : Recv) :
    (server.afterRecv session
      ((server.sessions session).onRecv maxMsgSize first second)).WellFormed :=
  well.congr (fun other => server.afterRecv_handle maxMsgSize session other first second) rfl

theorem accept (well : server.WellFormed) (maxMsgSize : UInt32) (fd : Option Int) :
    (server.accept maxMsgSize fd).WellFormed := by
  rcases server.accept_cases maxMsgSize fd with refuses | ⟨new, rfl, -, accepts⟩
  · exact well.refuses refuses
  · exact well.accepts accepts

theorem onRecv (maxMsgSize : UInt32) (well : server.WellFormed)
    (found : server.findSession fd = some session) (first second : Recv) :
    (server.onRecv maxMsgSize session first second).2.WellFormed := by
  have after := well.afterRecv maxMsgSize session first second
  rcases server.onRecv_cases maxMsgSize session first second with ⟨-, same⟩ | ⟨-, same⟩
  · rw [same]
    exact after.closes found (closeSession_closes _ _)
  · rw [same]
    exact after

end WellFormed

end AppSvr.BaseServer.SSServer
