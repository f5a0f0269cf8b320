/-
This file proves that the poll table, the session map and the sessions stay in step, and that one
pass handles every ready session once.
-/

import AppSvr.Proof.BaseServer.SessionSteps
import AppSvr.ToMathlib.SlotTable

namespace AppSvr.BaseServer.SSServer

open SlotTable TransitionSystem

variable {server next : SSServer} {maxMsgSize : UInt32} {session : SessionPtr} {fd : Int}

/-- This is the slot that the session under a descriptor names. -/
def indexOf (server : SSServer) (fd : Int) : Nat :=
  ((server.findSession fd).map fun session => (server.sessions session).eventIndex).getD 0

theorem indexOf_found (found : server.findSession fd = some session) :
    server.indexOf fd = (server.sessions session).eventIndex := by
  simp [indexOf, found]

/-- The slots and the busy descriptors name each other. -/
def Table (server : SSServer) : Prop :=
  Indexed (fun index => (server.pfds index).fd) server.indexOf
    (fun fd => (server.findSession fd).isSome = true) server.busySessions.size

namespace Table

theorem initial : Table SSServer.initial where
  slots i positive within := absurd (positive.trans within) (by decide)
  keys key live := by cases live

/-- The slot of a busy session. -/
theorem position (table : server.Table) (found : server.findSession fd = some session) :
    1 ≤ (server.sessions session).eventIndex ∧
      (server.sessions session).eventIndex ≤ server.busySessions.size ∧
        (server.pfds (server.sessions session).eventIndex).fd = fd := by
  have keys := table.keys fd (by simp [found])
  rwa [indexOf_found found] at keys

/-- The session of an occupied slot. -/
theorem occupant (table : server.Table) {index : Nat} (positive : 1 ≤ index)
    (within : index ≤ server.busySessions.size) :
    ∃ session, server.findSession (server.pfds index).fd = some session ∧
      (server.sessions session).eventIndex = index := by
  obtain ⟨live, place⟩ := table.slots index positive within
  obtain ⟨session, found⟩ := Option.isSome_iff_exists.mp live
  exact ⟨session, found, (indexOf_found found).symm.trans place⟩

theorem congr (table : server.Table) (fds : ∀ index, (next.pfds index).fd = (server.pfds index).fd)
    (busySessions : next.busySessions = server.busySessions)
    (indices : ∀ session,
      (next.sessions session).eventIndex = (server.sessions session).eventIndex) :
    next.Table := by
  have found : next.findSession = server.findSession := by
    funext fd
    rw [findSession, busySessions]
    rfl
  have index : next.indexOf = server.indexOf := by
    funext fd
    simp [indexOf, found, indices]
  have slots : (fun index => (next.pfds index).fd) = fun index => (server.pfds index).fd := by
    funext index
    exact fds index
  rw [Table, slots, index, found, busySessions]
  exact table

theorem accepts (well : server.WellFormed) (table : server.Table)
    (accepts : Accepts maxMsgSize server fd next) (unused : server.findSession fd = none) :
    next.Table := by
  have size := accepts.size unused
  have found := accepts.findSession
  have extended := Indexed.insert table
    (show ¬ (server.findSession fd).isSome = true by simp [unused])
  rw [Table, size]
  apply extended.congr
  · intro index _ _
    rw [accepts.pfds]
    by_cases last : index = server.busySessions.size + 1
    · subst last
      simp
    · simp [Function.update_of_ne last]
  · intro key live
    rw [indexOf, found, accepts.sessions]
    by_cases same : fd = key
    · subst same
      simp [connect]
    · rw [if_neg same, Function.update_of_ne (Ne.symm same)]
      cases old : server.findSession key with
      | none => simp [indexOf, old]
      | some session =>
          simp [indexOf, old, Function.update_of_ne (well.busy old).1]
  · intro key
    rw [found]
    by_cases same : fd = key
    · subst same
      simp
    · simp [if_neg same, Ne.symm same]

/-- A close moves the last slot into the slot of the closed session. -/
structure Vacates (server : SSServer) (fd : Int) (session : SessionPtr) (next : SSServer) :
    Prop where
  pfds : next.pfds = Function.update server.pfds (server.sessions session).eventIndex
    (server.pfds server.busySessions.size)
  indices : ∀ {key other}, key ≠ fd → server.findSession key = some other →
    (next.sessions other).eventIndex =
      if key = (server.pfds server.busySessions.size).fd then (server.sessions session).eventIndex
      else (server.sessions other).eventIndex
  found : ∀ key, next.findSession key = if fd = key then none else server.findSession key
  size : next.busySessions.size = server.busySessions.size - 1
  stoped : next.stoped = server.stoped

theorem vacates (well : server.WellFormed) (table : server.Table)
    (found : server.findSession fd = some session) :
    Vacates server fd session (server.closeSession session) := by
  have closes := closeSession_closes server session
  have handle := well.handle found
  have foundNext := closes.findSession handle
  have size : (server.closeSession session).busySessions.size = server.busySessions.size - 1 := by
    have present : fd ∈ server.busySessions := by
      rw [Std.TreeMap.mem_iff_isSome_getElem?]
      unfold findSession at found
      simp [found]
    rw [closes.busySessions, handle, Std.TreeMap.size_erase]
    simp [present]
  obtain ⟨positive, within, place⟩ := table.position found
  have self : (server.released session).sessions session = (server.sessions session).shutdown :=
    Function.update_self ..
  by_cases before : (server.sessions session).eventIndex < server.busySessions.size
  · obtain ⟨moved, live, last⟩ := table.occupant (by omega) (le_refl server.busySessions.size)
    have different : moved ≠ session := by
      rintro rfl
      omega
    have kept : ∀ other, other ≠ session →
        (server.released session).sessions other = server.sessions other :=
      fun other apart => Function.update_of_ne apart ..
    have equation : (server.released session).removeSession session = _ :=
      removeSession_moved (by rw [self]; exact before) live
    refine ⟨?_, ?_, foundNext, size, by rw [closeSession_eq, equation]; rfl⟩
    · rw [closeSession_eq, equation, self]
      rfl
    · intro key other apart present
      rw [closeSession_eq, equation]
      have notClosed : other ≠ session := by
        rintro rfl
        exact apart (well.fd_unique present found)
      by_cases same : other = moved
      · subst same
        rw [if_pos (well.fd_unique present live)]
        simp [self, Session.shutdown]
      · have notLast : key ≠ (server.pfds server.busySessions.size).fd := by
          rintro rfl
          exact same (Option.some.inj (present.symm.trans live))
        rw [if_neg notLast]
        simp [Function.update_of_ne same, kept other notClosed]
  · have equation : (server.released session).removeSession session = _ :=
      removeSession_last (by rw [self]; exact before)
    have last : (server.sessions session).eventIndex = server.busySessions.size := by omega
    refine ⟨?_, ?_, foundNext, size, by rw [closeSession_eq, equation]; rfl⟩
    · rw [last, Function.update_eq_self, closeSession_eq, equation]
      rfl
    · intro key other apart present
      rw [closeSession_eq, equation]
      have notClosed : other ≠ session := by
        rintro rfl
        exact apart (well.fd_unique present found)
      have notLast : key ≠ (server.pfds server.busySessions.size).fd := by
        rw [← last, place]
        exact apart
      rw [if_neg notLast]
      simp [released, Function.update_of_ne notClosed]

theorem closes (well : server.WellFormed) (table : server.Table)
    (found : server.findSession fd = some session) : (server.closeSession session).Table := by
  have vacates := vacates well table found
  have place := indexOf_found found
  have removed := Indexed.remove table
    (show (server.findSession fd).isSome = true by simp [found])
  rw [Table, vacates.size]
  apply removed.congr
  · intro index _ _
    rw [vacates.pfds, place]
    by_cases moved : index = (server.sessions session).eventIndex
    · subst moved
      simp
    · simp [Function.update_of_ne moved]
  · intro key live
    obtain ⟨other, present⟩ := Option.isSome_iff_exists.mp live.2
    have kept : (server.closeSession session).findSession key = some other := by
      rw [vacates.found, if_neg (Ne.symm live.1)]
      exact present
    rw [indexOf_found kept, vacates.indices live.1 present, place]
    by_cases moved : key = (server.pfds server.busySessions.size).fd
    · subst moved
      simp
    · rw [if_neg moved, Function.update_of_ne moved, indexOf_found present]
  · intro key
    rw [vacates.found]
    by_cases same : fd = key
    · subst same
      simp
    · simp [if_neg same, Ne.symm same]

end Table

/-- These are the slots with a reported event from one slot on. -/
def reported (server : SSServer) (index : Nat) : List PollFd :=
  (entriesFrom server.pfds server.busySessions.size index).filter fun slot => slot.revents.any

/-- These are the sessions of the reported slots. -/
def pending (server : SSServer) (index : Nat) : List SessionPtr :=
  (server.reported index).filterMap fun slot => server.findSession slot.fd

section Scan

variable {index : Nat}

theorem reported_end (beyond : server.busySessions.size < index) : server.reported index = [] := by
  rw [reported, entriesFrom_end beyond]
  rfl

theorem reported_quiet (within : index ≤ server.busySessions.size)
    (quiet : (server.pfds index).revents.any = false) :
    server.reported index = server.reported (index + 1) := by
  rw [reported, entriesFrom_cons within, List.filter_cons_of_neg (by simp [quiet])]
  rfl

theorem reported_ready (within : index ≤ server.busySessions.size)
    (ready : (server.pfds index).revents.any = true) :
    server.reported index = server.pfds index :: server.reported (index + 1) := by
  simp [reported, entriesFrom_cons within, ready]

theorem pending_ready (within : index ≤ server.busySessions.size)
    (ready : (server.pfds index).revents.any = true)
    (found : server.findSession (server.pfds index).fd = some session) :
    server.pending index = session :: server.pending (index + 1) := by
  simp [pending, reported_ready within ready, found]

/-- The scan only sees the slots in front of it. -/
theorem reported_congr (pfds : ∀ i, index ≤ i → next.pfds i = server.pfds i)
    (busySessions : next.busySessions = server.busySessions) :
    next.reported index = server.reported index := by
  rw [reported, busySessions, entriesFrom_congr fun i after _ => pfds i after]
  rfl

theorem pending_congr (pfds : ∀ i, index ≤ i → next.pfds i = server.pfds i)
    (busySessions : next.busySessions = server.busySessions) :
    next.pending index = server.pending index := by
  have found : next.findSession = server.findSession := by
    funext fd
    rw [findSession, busySessions]
    rfl
  rw [pending, reported_congr pfds busySessions, found]
  rfl

/-- After a close the scan from the same slot sees the reported slots behind it. -/
theorem reported_closed (table : server.Table) (found : server.findSession fd = some session)
    (vacates : Table.Vacates server fd session next) :
    (next.reported (server.sessions session).eventIndex).Perm
      (server.reported ((server.sessions session).eventIndex + 1)) := by
  obtain ⟨positive, within, -⟩ := table.position found
  rw [reported, vacates.pfds, vacates.size]
  exact (entriesFrom_moved positive within).filter _

theorem pending_closed (table : server.Table) (found : server.findSession fd = some session)
    (vacates : Table.Vacates server fd session next) :
    (next.pending (server.sessions session).eventIndex).Perm
      (server.pending ((server.sessions session).eventIndex + 1)) := by
  obtain ⟨positive, within, place⟩ := table.position found
  have moved := (reported_closed table found vacates).filterMap fun slot =>
    next.findSession slot.fd
  refine moved.trans (List.Perm.of_eq ?_)
  apply List.filterMap_congr
  intro slot member
  obtain ⟨i, range, rfl⟩ := List.mem_map.mp (List.mem_filter.mp member).1
  rw [List.mem_range'_1] at range
  have other : fd ≠ (server.pfds i).fd := by
    intro same
    have first := (table.slots i (by omega) (by omega)).2
    rw [← same, indexOf_found found] at first
    omega
  rw [vacates.found, if_neg other]

end Scan

/-- The session objects and the poll table are in order. -/
structure Consistent (server : SSServer) : Prop where
  well : server.WellFormed
  table : server.Table

/-- Reading leaves the poll table alone. -/
theorem Consistent.afterRecv (maxMsgSize : UInt32) (consistent : server.Consistent)
    (session : SessionPtr) (first second : Recv) :
    (server.afterRecv session
      ((server.sessions session).onRecv maxMsgSize first second)).Consistent := by
  refine ⟨consistent.well.afterRecv maxMsgSize session first second,
    consistent.table.congr (fun _ => rfl) rfl ?_⟩
  intro other
  show (Function.update server.sessions session _ other).eventIndex = _
  by_cases same : other = session
  · subst same
    rw [Function.update_self, Session.onRecv_session]
  · rw [Function.update_of_ne same]

theorem Consistent.closes (consistent : server.Consistent)
    (found : server.findSession fd = some session) :
    (server.closeSession session).Consistent :=
  ⟨consistent.well.closes found (closeSession_closes server session),
    consistent.table.closes consistent.well found⟩

theorem Consistent.accepts (consistent : server.Consistent)
    (accepts : Accepts maxMsgSize server fd next) (closed : server.owner fd = none) :
    next.Consistent :=
  ⟨consistent.well.accepts accepts,
    consistent.table.accepts consistent.well accepts (consistent.well.unused closed)⟩

/-- Handling one slot leaves the scan of the slots behind it. -/
structure Handles (server : SSServer) (index : Nat) (next : SSServer) (index' : Nat) : Prop where
  consistent : next.Consistent
  stoped : next.stoped = server.stoped
  positive : 1 ≤ index → 1 ≤ index'
  reported : (next.reported index').length = (server.reported (index + 1)).length
  pending : (next.pending index').Perm (server.pending (index + 1))

/-- A closed session leaves its slot to the last one, which is read next. -/
theorem closeSession_handles (consistent : server.Consistent)
    (found : server.findSession fd = some session) :
    Handles server (server.sessions session).eventIndex (server.closeSession session)
      (server.sessions session).eventIndex := by
  have vacates := Table.vacates consistent.well consistent.table found
  refine ⟨consistent.closes found, vacates.stoped, id, ?_, ?_⟩
  · exact (reported_closed consistent.table found vacates).length_eq
  · exact pending_closed consistent.table found vacates

/-- The flags of a slot are cleared before its session is read. -/
def cleared (server : SSServer) (index : Nat) : SSServer :=
  { server with
    pfds := Function.update server.pfds index { server.pfds index with revents := .none } }

theorem Consistent.cleared (consistent : server.Consistent) (index : Nat) :
    (server.cleared index).Consistent := by
  have well := consistent.well
  refine ⟨well.congr (fun _ => rfl) rfl,
    consistent.table.congr ?_ rfl fun _ => rfl⟩
  intro i
  show (Function.update server.pfds index _ i).fd = _
  by_cases same : i = index
  · subst same
    rw [Function.update_self]
  · rw [Function.update_of_ne same]

/-- A read session that was closed leaves its slot to the last one. -/
theorem onRecv_handles (maxMsgSize : UInt32) (consistent : server.Consistent) {index : Nat}
    (positive : 1 ≤ index) (within : index ≤ server.busySessions.size)
    (found : server.findSession (server.pfds index).fd = some session) (first second : Recv) :
    Handles server index
      ((server.cleared index).onRecv maxMsgSize session first second).2
      (if ((server.cleared index).onRecv maxMsgSize session first second).1 = 0
        then index + 1 else index) := by
  have place : (server.sessions session).eventIndex = index := by
    have slots := (consistent.table.slots index positive within).2
    rwa [indexOf_found found] at slots
  rw [onRecv_eq]
  generalize shape : ((server.cleared index).sessions session).onRecv maxMsgSize first second =
    received
  have after : ((server.cleared index).afterRecv session received).Consistent := by
    rw [← shape]
    exact (consistent.cleared index).afterRecv maxMsgSize session first second
  have eventIndex : (((server.cleared index).afterRecv session received).sessions
      session).eventIndex = index := by
    show (Function.update server.sessions session received.session session).eventIndex = index
    rw [Function.update_self, ← shape, Session.onRecv_session]
    exact place
  have behind : ∀ i, index + 1 ≤ i →
      ((server.cleared index).afterRecv session received).pfds i = server.pfds i :=
    fun i later => Function.update_of_ne (by omega) ..
  have sameReported := reported_congr behind rfl
  have samePending := pending_congr behind rfl
  dsimp only
  by_cases closes : received.closes = true
  · rw [if_pos closes]
    have handles := closeSession_handles after (show _ = some session from found)
    rw [eventIndex] at handles
    refine ⟨handles.consistent, handles.stoped, fun _ => positive, ?_, ?_⟩
    · exact handles.reported.trans (congrArg List.length sameReported)
    · exact handles.pending.trans (List.Perm.of_eq samePending)
  · rw [if_neg closes]
    refine ⟨after, rfl, fun _ => by simp, ?_, ?_⟩
    · simpa using congrArg List.length sameReported
    · simpa using List.Perm.of_eq samePending

/-- The loop handles exactly the sessions of the reported slots. -/
structure Visits (server : SSServer) (index : Nat) (handled : List SessionPtr)
    (result : SSServer × List SessionPtr) : Prop where
  consistent : result.1.Consistent
  stoped : result.1.stoped = server.stoped
  visited : result.2.Perm (handled ++ server.pending index)

/-- The loop handles the first session and then the others. -/
theorem Handles.visits {index index' : Nat} {handled : List SessionPtr}
    {result : SSServer × List SessionPtr} (handles : Handles server index next index')
    (pending : server.pending index = session :: server.pending (index + 1))
    (visits : Visits next index' (handled ++ [session]) result) :
    Visits server index handled result where
  consistent := visits.consistent
  stoped := visits.stoped.trans handles.stoped
  visited := by
    rw [pending]
    refine visits.visited.trans ?_
    rw [List.append_assoc, List.singleton_append]
    exact (handles.pending.cons session).append_left handled

/-- The induction follows the loop; its count is the number of reported slots in front of it. -/
theorem pollLoop_visits (maxMsgSize : UInt32) (recv : Nat → Recv × Recv) (events index : Nat)
    (handled : List SessionPtr) (consistent : server.Consistent) (positive : 1 ≤ index)
    (counted : events = (server.reported index).length) :
    Visits server index handled
      (pollLoop maxMsgSize recv server events index handled) := by
  have ready_found : ∀ {server : SSServer} {index : Nat}, server.Consistent → 1 ≤ index →
      index ≤ server.busySessions.size → ∀ {session},
        server.findSession (server.pfds index).fd = some session →
          (server.sessions session).eventIndex = index := by
    intro server index consistent positive within session found
    have slots := (consistent.table.slots index positive within).2
    rwa [indexOf_found found] at slots
  fun_induction pollLoop maxMsgSize recv server events index handled with
  | case1 server events index handled running slot quiet ih =>
      have same := reported_quiet running.1 quiet
      have visits := ih consistent (by omega) (by rw [counted, same])
      refine ⟨visits.consistent, visits.stoped, ?_⟩
      have pending : server.pending index = server.pending (index + 1) := by
        rw [SSServer.pending, same]
        rfl
      rw [pending]
      exact visits.visited
  | case2 server events index handled running slot ready missing =>
      obtain ⟨session, found, -⟩ := consistent.table.occupant positive running.1
      rw [found] at missing
      cases missing
  | case3 server events index handled running slot ready session found failed ih =>
      have ready : slot.revents.any = true := by simpa using ready
      have place := ready_found consistent positive running.1 found
      have handles := closeSession_handles consistent found
      rw [place] at handles
      refine handles.visits (pending_ready running.1 ready found) ?_
      apply ih handles.consistent positive
      rw [handles.reported, counted, reported_ready running.1 ready, List.length_cons]
      rfl
  | case4 server events index handled running slot ready session found failed reads cleared
      answers result ih =>
      have ready : slot.revents.any = true := by simpa using ready
      have handles := onRecv_handles maxMsgSize consistent positive running.1 found answers.1
        answers.2
      simp only [dite_eq_ite] at ih
      refine handles.visits (pending_ready running.1 ready found) ?_
      apply ih handles.consistent (handles.positive positive)
      refine Eq.trans ?_ handles.reported.symm
      rw [counted, reported_ready running.1 ready, List.length_cons]
      rfl
  | case5 server events index handled running slot ready session found failed reads ih =>
      have ready : slot.revents.any = true := by simpa using ready
      simp [Revents.any, failed, reads] at ready
  | case6 server events index handled ended =>
      have empty : server.reported index = [] := by
        by_cases within : index ≤ server.busySessions.size
        · have none : events = 0 := by
            by_contra more
            exact ended ⟨within, by omega⟩
          exact List.length_eq_zero_iff.mp (counted.symm.trans none)
        · exact reported_end (by omega)
      refine ⟨consistent, rfl, ?_⟩
      simp [SSServer.pending, empty]

/-- The session objects and the poll table are in step: the slots from one to the number of busy
sessions and the busy descriptors correspond one to one, and every busy session names its slot. -/
structure TableAgrees (server : SSServer) : Prop where
  bijOn : Set.BijOn (fun index => (server.pfds index).fd) (Set.Icc 1 server.busySessions.size)
    {fd | fd ∈ server.busySessions}
  indexed : ∀ {fd session}, server.findSession fd = some session →
    (server.sessions session).handle = fd ∧
      (server.pfds (server.sessions session).eventIndex).fd = (server.sessions session).handle

theorem Consistent.agrees (consistent : server.Consistent) : server.TableAgrees := by
  constructor
  · have bijection := consistent.table.bijOn
    simpa only [findSession, Std.TreeMap.mem_iff_isSome_getElem?] using bijection
  · intro fd session found
    have handle := consistent.well.handle found
    exact ⟨handle, ((consistent.table.position found).2.2).trans handle.symm⟩

/-- The main thread calls the functions of the table, alone or in a pass. -/
inductive TableCall where
  | event (event : Event)
  | poll (pass : PollPass)

/-- The kernel accepts on a descriptor that is not open. -/
def tableStep (maxMsgSize : UInt32) (server : SSServer) : TableCall → Option SSServer
  | .event event => server.step maxMsgSize event
  | .poll pass =>
      if pass.accept.all (fun fd => decide (0 ≤ fd) && (server.owner fd).isNone) then
        some (server.poll maxMsgSize pass).1
      else none

/-- Fewer than `MAX_SESSION` sessions are live after every accept. -/
def BelowMaxSession (server : SSServer) : TableCall → Prop
  | .event (.accept (some _)) => server.busySessions.size + 1 < maxSession
  | .poll pass => pass.accept.isSome → server.busySessions.size + 1 < maxSession
  | _ => True

/-- The slot of the session has a ready event. -/
def Ready (server : SSServer) (revents : Nat → Revents) (session : SessionPtr) : Prop :=
  (∃ fd, server.findSession fd = some session) ∧
    (revents (server.sessions session).eventIndex).any = true

/-- The pass handles every session with a ready event once, unless it closes the session. -/
def HandlesReady (maxMsgSize : UInt32) (server : SSServer) (pass : PollPass) : Prop :=
  ∀ revents, pass.answer = .ready revents → ∀ session, server.Ready revents session →
    (∃ fd, (server.poll maxMsgSize pass).1.findSession fd = some session) →
      (server.poll maxMsgSize pass).2.count session = 1

/-- A refused accept leaves the poll table alone. -/
theorem Consistent.refuses (consistent : server.Consistent) (refuses : Refuses server next) :
    next.Consistent := by
  refine ⟨consistent.well.refuses refuses, consistent.table.congr ?_ ?_ ?_⟩
  · intro index
    rw [refuses.rest]
  · rw [refuses.rest]
  · intro session
    rw [refuses.others]

theorem Consistent.accept (maxMsgSize : UInt32) (consistent : server.Consistent)
    {fd : Option Int} (closed : ∀ new, fd = some new → server.owner new = none) :
    (server.accept maxMsgSize fd).Consistent := by
  rcases server.accept_cases maxMsgSize fd with
    refuses | ⟨new, rfl, -, accepts⟩
  · exact consistent.refuses refuses
  · exact consistent.accepts accepts (closed new rfl)

theorem Consistent.onRecv (consistent : server.Consistent)
    (found : server.findSession fd = some session) (first second : Recv) :
    (server.onRecv maxMsgSize session first second).2.Consistent := by
  rw [onRecv_eq]
  have after := consistent.afterRecv maxMsgSize session first second
  dsimp only
  split
  · exact after.closes found
  · exact after

/-- The accepted descriptor was not open. -/
theorem accept_closed {fd : Option Int}
    (admitted : fd.all (fun fd => decide (0 ≤ fd) && (server.owner fd).isNone) = true) :
    ∀ new, fd = some new → server.owner new = none := by
  rintro new rfl
  simpa using (Bool.and_eq_true_iff.mp admitted).2

/-- Every event keeps the session objects and the poll table in order. -/
theorem step_consistent {event : Event} (consistent : server.Consistent)
    (enabled : server.step maxMsgSize event = some next) : next.Consistent := by
  cases event with
  | accept fd =>
      rw [step] at enabled
      split at enabled
      · next admitted =>
          cases enabled
          exact consistent.accept maxMsgSize (accept_closed admitted)
      · cases enabled
  | onRecv fd first second =>
      obtain ⟨session, found, reads⟩ := Option.bind_eq_some_iff.mp enabled
      split at reads
      · cases reads
        exact consistent.onRecv found first second
      · cases reads
  | closeSession fd =>
      obtain ⟨session, found, rfl⟩ := Option.map_eq_some_iff.mp enabled
      exact consistent.closes found
  | popPacket worker =>
      have well := consistent.well
      rw [step] at enabled
      split at enabled
      · cases enabled
        exact ⟨well.congr (fun _ => rfl) rfl,
          consistent.table.congr (fun _ => rfl) rfl fun _ => rfl⟩
      · cases enabled
  | send worker =>
      obtain ⟨request, -, rfl⟩ := Option.map_eq_some_iff.mp enabled
      exact consistent
  | finish worker =>
      have well := consistent.well
      obtain ⟨request, -, rfl⟩ := Option.map_eq_some_iff.mp enabled
      exact ⟨well.congr (fun _ => rfl) rfl,
        consistent.table.congr (fun _ => rfl) rfl fun _ => rfl⟩

/-- `poll` has written the flags of every slot. -/
def polled (server : SSServer) (revents : Nat → Revents) : SSServer :=
  { server with
    pfds := fun index =>
      if index ≤ server.busySessions.size then
        { server.pfds index with revents := revents index }
      else server.pfds index }

theorem Consistent.polled (consistent : server.Consistent) (revents : Nat → Revents) :
    (server.polled revents).Consistent := by
  have well := consistent.well
  refine ⟨well.congr (fun _ => rfl) rfl,
    consistent.table.congr (fun index => ?_) rfl fun _ => rfl⟩
  simp only [SSServer.polled]
  split <;> rfl

theorem polled_fd (server : SSServer) (revents : Nat → Revents) (index : Nat) :
    ((server.polled revents).pfds index).fd = (server.pfds index).fd := by
  simp only [polled]
  split <;> rfl

/-- `poll` counts the reported slots. -/
theorem polled_count (server : SSServer) (revents : Nat → Revents) :
    ((List.range (server.busySessions.size + 1)).countP fun index => (revents index).any) =
      (if (revents 0).any then 1 else 0) + ((server.polled revents).reported 1).length := by
  have slots : ((server.polled revents).reported 1).length =
      (List.range' 1 server.busySessions.size).countP fun index => (revents index).any := by
    rw [reported, ← List.countP_eq_length_filter, entriesFrom, List.countP_map]
    apply List.countP_congr
    intro index member
    rw [List.mem_range'_1] at member
    have within : index ≤ server.busySessions.size := by
      have last : index < 1 + (server.busySessions.size + 1 - 1) := member.2
      omega
    simp [polled, within]
  rw [slots, List.range_eq_range', List.range'_succ, List.countP_cons, Nat.add_comm]

/-- An accepted session reports nothing in the pass that accepts it. -/
theorem accept_reported (maxMsgSize : UInt32) (well : server.WellFormed) (table : server.Table)
    {fd : Option Int} (closed : ∀ new, fd = some new → server.owner new = none) :
    (server.accept maxMsgSize fd).reported 1 = server.reported 1 ∧
      (server.accept maxMsgSize fd).pending 1 = server.pending 1 := by
  rcases server.accept_cases maxMsgSize fd with
    refuses | ⟨new, rfl, -, accepts⟩
  · have pfds : (server.accept maxMsgSize fd).pfds = server.pfds := by
      rw [refuses.rest]
    have busySessions : (server.accept maxMsgSize fd).busySessions = server.busySessions := by
      rw [refuses.rest]
    exact ⟨reported_congr (fun i _ => congrFun pfds i) busySessions,
      pending_congr (fun i _ => congrFun pfds i) busySessions⟩
  · have unused := well.unused (closed new rfl)
    have size := accepts.size unused
    have reported : (server.accept maxMsgSize (some new)).reported 1 = server.reported 1 := by
      have before : entriesFrom (server.accept maxMsgSize (some new)).pfds
          server.busySessions.size 1 = entriesFrom server.pfds server.busySessions.size 1 := by
        apply entriesFrom_congr
        intro i _ within
        rw [accepts.pfds, Function.update_of_ne (by omega)]
      rw [SSServer.reported, size, entriesFrom_succ (by omega), List.filter_append, before,
        accepts.pfds, Function.update_self]
      simp [SSServer.reported, Revents.any, Revents.none, Revents.failed]
    refine ⟨reported, ?_⟩
    rw [pending, reported, pending]
    apply List.filterMap_congr
    intro slot member
    obtain ⟨i, range, rfl⟩ := List.mem_map.mp (List.mem_filter.mp member).1
    rw [List.mem_range'_1] at range
    have live := (table.slots i range.1 (by omega)).1
    have other : new ≠ (server.pfds i).fd := by
      intro same
      rw [← same, unused] at live
      cases live
    rw [accepts.findSession, if_neg other]

theorem accept_stoped (server : SSServer) (maxMsgSize : UInt32) (fd : Option Int) :
    (server.accept maxMsgSize fd).stoped = server.stoped := by
  unfold accept insertSession
  split
  · rfl
  · cases fd with
    | none => rfl
    | some new =>
        dsimp only
        split <;> rfl

/-- A pass whose listening socket reports no error visits the reported slots. -/
theorem poll_visits (maxMsgSize : UInt32) (consistent : server.Consistent) {pass : PollPass}
    {revents : Nat → Revents} (answer : pass.answer = .ready revents)
    (listening : (revents 0).failed = false)
    (closed : ∀ new, pass.accept = some new → server.owner new = none) :
    Visits (server.polled revents) 1 [] (server.poll maxMsgSize pass) := by
  have before := consistent.polled revents
  have count := polled_count server revents
  simp only [poll, answer]
  by_cases accepts : (revents 0).any = true
  · have pollIn : (revents 0).pollIn = true := by
      simpa [Revents.any, listening] using accepts
    rw [if_pos accepts] at count
    rw [if_pos accepts, listening, if_neg (by simp), if_pos pollIn]
    obtain ⟨reported, pending⟩ := accept_reported maxMsgSize before.well before.table closed
    have events : ((List.range (server.busySessions.size + 1)).countP
        fun index => (revents index).any) - 1 =
        ((accept maxMsgSize (server.polled revents) pass.accept).reported 1).length := by
      rw [count, reported, Nat.add_sub_cancel_left]
    have visits := pollLoop_visits maxMsgSize pass.recv _ 1 [] (before.accept maxMsgSize closed)
      (le_refl 1) events
    refine ⟨visits.consistent, visits.stoped.trans (accept_stoped ..), ?_⟩
    rw [← pending]
    exact visits.visited
  · rw [if_neg accepts, Nat.zero_add] at count
    rw [if_neg accepts]
    exact pollLoop_visits maxMsgSize pass.recv _ 1 [] before (le_refl 1) count

/-- Every pass keeps the session objects and the poll table in order. -/
theorem poll_consistent (consistent : server.Consistent) {pass : PollPass}
    (closed : ∀ new, pass.accept = some new → server.owner new = none) :
    (server.poll maxMsgSize pass).1.Consistent := by
  cases answer : pass.answer with
  | error =>
      have well := consistent.well
      simp only [poll, answer]
      exact ⟨well.congr (fun _ => rfl) rfl,
        consistent.table.congr (fun _ => rfl) rfl fun _ => rfl⟩
  | interrupted =>
      simp only [poll, answer]
      exact consistent
  | ready revents =>
      by_cases listening : (revents 0).failed = true
      · have before := consistent.polled revents
        have well := before.well
        have any : (revents 0).any = true := by
          simp [Revents.any, listening]
        simp only [poll, answer, any, listening, if_true]
        exact ⟨well.congr (fun _ => rfl) rfl,
          before.table.congr (fun _ => rfl) rfl fun _ => rfl⟩
      · have visits := poll_visits maxMsgSize consistent answer (by simpa using listening) closed
        exact visits.consistent

theorem run_consistent {allowed : SSServer → TableCall → Prop}
    {history : History SSServer TableCall}
    (run : Run (tableStep maxMsgSize) allowed initial history server) : server.Consistent := by
  apply run.invariant Consistent ⟨.initial, .initial⟩
  intro state call next before _ enabled
  cases call with
  | event event => exact step_consistent before enabled
  | poll pass =>
      rw [tableStep] at enabled
      split at enabled
      · next admitted =>
          cases enabled
          exact poll_consistent before (accept_closed admitted)
      · cases enabled

/-- A session is pending at the start of the pass exactly when its slot has a ready event. -/
theorem mem_pending (consistent : server.Consistent) {revents : Nat → Revents} :
    session ∈ (server.polled revents).pending 1 ↔ server.Ready revents session := by
  have found_of_mem : ∀ slot, slot ∈ (server.polled revents).reported 1 →
      ∃ i, 1 ≤ i ∧ i ≤ server.busySessions.size ∧ slot = (server.polled revents).pfds i ∧
        (revents i).any = true := by
    intro slot member
    obtain ⟨inside, any⟩ := List.mem_filter.mp member
    obtain ⟨i, range, rfl⟩ := List.mem_map.mp inside
    rw [List.mem_range'_1] at range
    have within : i ≤ server.busySessions.size := by
      have last : i < 1 + (server.busySessions.size + 1 - 1) := range.2
      omega
    refine ⟨i, range.1, within, rfl, ?_⟩
    simpa [polled, within] using any
  constructor
  · intro member
    obtain ⟨slot, inside, found⟩ := List.mem_filterMap.mp member
    obtain ⟨i, positive, within, rfl, any⟩ := found_of_mem slot inside
    have place := (consistent.table.slots i positive within).2
    rw [polled_fd] at found
    have found : server.findSession (server.pfds i).fd = some session := found
    rw [indexOf_found found] at place
    exact ⟨⟨_, found⟩, place.symm ▸ any⟩
  · rintro ⟨⟨fd, found⟩, any⟩
    obtain ⟨positive, within, place⟩ := consistent.table.position found
    refine List.mem_filterMap.mpr ⟨(server.polled revents).pfds _, List.mem_filter.mpr
      ⟨List.mem_map_of_mem (List.mem_range'_1.mpr ⟨positive, ?_⟩), ?_⟩, ?_⟩
    · show _ < 1 + (server.busySessions.size + 1 - 1)
      omega
    · simpa [polled, within] using any
    · rw [polled_fd, place]
      exact found

/-- No session is pending twice. -/
theorem pending_nodup (consistent : server.Consistent) : (server.pending 1).Nodup := by
  rw [pending, reported, List.Nodup, List.pairwise_filterMap, entriesFrom, List.filter_map,
    List.pairwise_map]
  have range : ((List.range' 1 (server.busySessions.size + 1 - 1)).filter
      ((fun slot => slot.revents.any) ∘ server.pfds)).Nodup := (List.nodup_range' ..).filter _
  refine range.imp_of_mem ?_
  intro i j first second different s found other again same
  rw [List.mem_filter, List.mem_range'_1] at first second
  have place := (consistent.table.slots i first.1.1 (by omega)).2
  have position := (consistent.table.slots j second.1.1 (by omega)).2
  subst same
  rw [indexOf_found found] at place
  rw [indexOf_found again] at position
  exact different (place.symm.trans position)

/-- In every run the poll table, the map and the sessions stay in step; a pass whose listening
socket reports no error handles every session with a ready event once, and no other session. -/
theorem run_tableAgrees {history : History SSServer TableCall}
    (run : Run (tableStep maxMsgSize) BelowMaxSession initial history server) :
    server.TableAgrees ∧ ∀ pass revents, pass.answer = .ready revents →
      (server.tableStep maxMsgSize (.poll pass)).isSome = true →
        server.BelowMaxSession (.poll pass) → (revents 0).failed = false →
          ∀ session,
            (server.Ready revents session →
              (server.poll maxMsgSize pass).2.count session = 1) ∧
            (¬ server.Ready revents session →
              (server.poll maxMsgSize pass).2.count session = 0) := by
  have consistent := run_consistent run
  refine ⟨consistent.agrees, ?_⟩
  intro pass revents answer enabled _ listening session
  have closed : ∀ new, pass.accept = some new → server.owner new = none := by
    rw [tableStep] at enabled
    split at enabled
    · next admitted => exact accept_closed admitted
    · cases enabled
  have visits := poll_visits maxMsgSize consistent answer listening closed
  have before := consistent.polled revents
  have count : (server.poll maxMsgSize pass).2.count session =
      ((server.polled revents).pending 1).count session := visits.visited.count_eq session
  rw [count]
  constructor
  · intro ready
    exact List.count_eq_one_of_mem (pending_nodup before) ((mem_pending consistent).mpr ready)
  · intro idle
    exact List.count_eq_zero_of_not_mem fun member => idle ((mem_pending consistent).mp member)

/-- The first client connects. -/
theorem oneSession_run :
    Run (tableStep 100) BelowMaxSession initial [(initial, .event (.accept (some 5)))]
      (initial.accept 100 (some 5)) := by
  have first : BelowMaxSession initial (.event (.accept (some 5))) := by
    show (0 : Nat) + 1 < 300
    decide
  exact Run.head first rfl .nil

/-- One client is connected and its session is ready. -/
theorem oneSession_tableAgrees :
    (initial.accept 100 (some 5)).TableAgrees ∧
      ((initial.accept 100 (some 5)).poll 100
        ⟨.ready fun index => ⟨index = 1, false, false, false⟩, none,
          fun _ => (.wouldBlock, .wouldBlock)⟩).2.count 0 = 1 := by
  obtain ⟨agrees, handles⟩ := run_tableAgrees oneSession_run
  refine ⟨agrees, (handles _ _ rfl rfl (fun accepts => by cases accepts) rfl 0).1 ⟨⟨5, rfl⟩, ?_⟩⟩
  decide

/-- The listening socket is shut down while a session has data: the pass stops and the session is
neither read nor closed. -/
theorem listenerError_not_handlesReady :
    ∃ history server pass, Run (tableStep 100) BelowMaxSession initial history server ∧
      (server.tableStep 100 (.poll pass)).isSome = true ∧
        server.BelowMaxSession (.poll pass) ∧ ¬ HandlesReady 100 server pass := by
  refine ⟨_, _, ⟨.ready fun index => ⟨index = 1, false, index = 0, false⟩, none,
    fun _ => (.wouldBlock, .wouldBlock)⟩, oneSession_run, rfl, ?_, ?_⟩
  · intro accepts
    cases accepts
  · intro handles
    have once := handles _ rfl 0 ⟨⟨5, rfl⟩, by decide⟩ ⟨5, rfl⟩
    exact absurd once (by decide)

end AppSvr.BaseServer.SSServer
