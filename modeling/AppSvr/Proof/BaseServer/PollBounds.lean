/-
This file shows when the server keeps to the entries of its poll table.
-/

import AppSvr.Construction.BaseServer.PollAccesses
import AppSvr.Proof.BaseServer.PollTable

namespace AppSvr.BaseServer.SSServer

open TransitionSystem

variable {maxMsgSize : UInt32} {server next : SSServer}

section Sizes

theorem closeSession_size_le (server : SSServer) (session : SessionPtr) :
    (server.closeSession session).busySessions.size ≤ server.busySessions.size := by
  rw [(closeSession_closes server session).busySessions]
  exact Std.TreeMap.size_erase_le

theorem onRecv_size_le (server : SSServer) (session : SessionPtr) (first second : Recv) :
    (server.onRecv maxMsgSize session first second).2.busySessions.size ≤
      server.busySessions.size := by
  rcases onRecv_cases maxMsgSize server session first second with ⟨-, same⟩ | ⟨-, same⟩
  · rw [same]
    exact closeSession_size_le _ session
  · rw [same]
    exact Nat.le_refl server.busySessions.size

theorem accept_size_le (server : SSServer) (fd : Option Int) :
    (server.accept maxMsgSize fd).busySessions.size ≤ server.busySessions.size + 1 := by
  rcases server.accept_cases maxMsgSize fd with refuses | ⟨new, -, -, accepts⟩
  · rw [refuses.rest]
    exact Nat.le_succ server.busySessions.size
  · rw [accepts.busySessions]
    exact Std.TreeMap.size_insert_le

/-- The loop of a pass only closes sessions. -/
theorem pollLoop_size_le (recv : Nat → Recv × Recv) (server : SSServer) (events index : Nat)
    (handled : List SessionPtr) :
    (pollLoop maxMsgSize recv server events index handled).1.busySessions.size ≤
      server.busySessions.size := by
  fun_induction pollLoop maxMsgSize recv server events index handled with
  | case1 server events index handled running slot quiet ih => exact ih
  | case2 server events index handled running slot ready missing => exact Nat.le_refl _
  | case3 server events index handled running slot ready session found failed ih =>
      exact ih.trans (closeSession_size_le server session)
  | case4 server events index handled running slot ready session found failed reads cleared
      answers result ih =>
      exact ih.trans (onRecv_size_le cleared session answers.1 answers.2)
  | case5 server events index handled running slot ready session found failed reads ih => exact ih
  | case6 server events index handled ended => exact Nat.le_refl _

end Sizes

section Accesses

theorem removeSessionAccesses_le (server : SSServer) (session : SessionPtr) :
    ∀ index ∈ server.removeSessionAccesses session, index ≤ server.busySessions.size := by
  intro index member
  unfold removeSessionAccesses at member
  split_ifs at member with before
  · rcases List.mem_pair.mp member with rfl | rfl
    · exact before.le
    · exact Nat.le_refl _
  · cases member

theorem closeSessionAccesses_le (server : SSServer) (session : SessionPtr) :
    ∀ index ∈ server.closeSessionAccesses session, index ≤ server.busySessions.size :=
  removeSessionAccesses_le _ session

theorem onRecvAccesses_le (server : SSServer) (session : SessionPtr) (first second : Recv) :
    ∀ index ∈ server.onRecvAccesses maxMsgSize session first second,
      index ≤ server.busySessions.size := by
  intro index member
  unfold onRecvAccesses at member
  dsimp only at member
  split_ifs at member
  · have inside := closeSessionAccesses_le _ session index member
    exact inside
  · cases member

/-- The loop of a pass stays at the entries that are in use when it starts. -/
theorem pollLoopAccesses_le (recv : Nat → Recv × Recv) (server : SSServer) (events index : Nat)
    (handled : List SessionPtr) :
    ∀ entry ∈ pollLoopAccesses maxMsgSize recv server events index handled,
      entry ≤ server.busySessions.size := by
  fun_induction pollLoopAccesses maxMsgSize recv server events index handled with
  | case1 server events index handled running slot quiet ih =>
      exact List.forall_mem_cons.mpr ⟨running.1, ih⟩
  | case2 server events index handled running slot ready missing =>
      exact List.forall_mem_singleton.mpr running.1
  | case3 server events index handled running slot ready session found failed ih =>
      rw [List.forall_mem_append, List.forall_mem_cons]
      refine ⟨⟨running.1, closeSessionAccesses_le server session⟩, ?_⟩
      exact fun entry member => (ih entry member).trans (closeSession_size_le server session)
  | case4 server events index handled running slot ready session found failed reads cleared
      answers result ih =>
      rw [List.forall_mem_append, List.forall_mem_cons]
      refine ⟨⟨running.1, onRecvAccesses_le cleared session answers.1 answers.2⟩, ?_⟩
      exact fun entry member =>
        (ih entry member).trans (onRecv_size_le cleared session answers.1 answers.2)
  | case5 server events index handled running slot ready session found failed reads ih =>
      exact List.forall_mem_cons.mpr ⟨running.1, ih⟩
  | case6 server events index handled ended =>
      intro entry member
      cases member

theorem acceptAccesses_le (server : SSServer) (fd : Option Int) :
    ∀ index ∈ server.acceptAccesses fd, index ≤ server.busySessions.size + 1 := by
  intro index member
  unfold acceptAccesses at member
  split_ifs at member
  · cases member
  · cases fd with
    | none => cases member
    | some fd =>
        obtain rfl := List.mem_singleton.mp member
        exact Nat.le_refl _

theorem polledAccesses_le (server : SSServer) :
    ∀ index ∈ server.polledAccesses, index ≤ server.busySessions.size := by
  intro index member
  exact Nat.lt_succ_iff.mp (List.mem_range.mp member)

end Accesses

/-- These are the entries that a call of the table uses. -/
def callAccesses (maxMsgSize : UInt32) (server : SSServer) : TableCall → List Nat
  | .event event => server.stepAccesses maxMsgSize event
  | .poll pass => server.pollAccesses maxMsgSize pass

/-- The call comes to `Accept`. -/
def Accepting : TableCall → Prop
  | .event event => ∃ fd, event = .accept fd
  | .poll pass => pass.accepts

/-- The call uses entries of the table only, and `Accept` refuses, whatever the kernel answers,
exactly if no entry is free behind the sessions. -/
structure WithinTable (maxMsgSize : UInt32) (server : SSServer) (call : TableCall) : Prop where
  accesses : ∀ index ∈ server.callAccesses maxMsgSize call, index < maxSession
  refuses : Accepting call →
    ((∀ fd, server.accept maxMsgSize fd = server) ↔ ¬ server.busySessions.size + 1 < maxSession)

/-- A call that comes to `Accept` finds a free entry. -/
def FindsEntry (server : SSServer) (call : TableCall) : Prop :=
  Accepting call → server.busySessions.size + 1 < maxSession

section Steps

/-- A server that does not refuse counts the connection. -/
theorem accept_refuses_iff :
    (∀ fd, server.accept maxMsgSize fd = server) ↔ maxSession < server.busySessions.size := by
  constructor
  · intro refuses
    by_contra room
    have accepts : Accepts maxMsgSize server 0 (server.accept maxMsgSize (some 0)) :=
      accept_accepts (Nat.not_lt.mp room) 0
    have accepted := accepts.accepted
    rw [refuses] at accepted
    exact absurd accepted (Nat.ne_of_lt (Nat.lt_succ_self server.accepted))
  · intro full fd
    rw [accept, if_pos full]

/-- A pass uses one entry more than there are sessions if it comes to `Accept`. -/
theorem poll_within {limit : Nat} (pass : PollPass) (room : server.busySessions.size ≤ limit)
    (accepts : pass.accepts → server.busySessions.size + 1 ≤ limit) :
    (∀ index ∈ server.pollAccesses maxMsgSize pass, index ≤ limit) ∧
      (server.poll maxMsgSize pass).1.busySessions.size ≤ limit := by
  have polled : ∀ index ∈ server.polledAccesses, index ≤ limit := fun index member =>
    (polledAccesses_le server index member).trans room
  have loop (state : SSServer) (events : Nat) (state_room : state.busySessions.size ≤ limit) :
      (∀ index ∈ pollLoopAccesses maxMsgSize pass.recv state events 1 [], index ≤ limit) ∧
        (pollLoop maxMsgSize pass.recv state events 1 []).1.busySessions.size ≤ limit :=
    ⟨fun index member => (pollLoopAccesses_le _ _ _ _ _ index member).trans state_room,
      (pollLoop_size_le _ _ _ _ _).trans state_room⟩
  unfold pollAccesses poll
  rw [List.forall_mem_append]
  cases answer : pass.answer with
  | error => exact ⟨⟨polled, fun _ member => absurd member List.not_mem_nil⟩, room⟩
  | interrupted => exact ⟨⟨polled, fun _ member => absurd member List.not_mem_nil⟩, room⟩
  | ready revents =>
      dsimp only
      by_cases listening : (revents 0).any
      · rw [if_pos listening, if_pos listening]
        by_cases failed : (revents 0).failed
        · rw [if_pos failed, if_pos failed]
          exact ⟨⟨polled, fun _ member => absurd member List.not_mem_nil⟩, room⟩
        · rw [if_neg failed, if_neg failed]
          by_cases readable : (revents 0).pollIn
          · rw [if_pos readable, if_pos readable]
            have one := accepts (by simp [PollPass.accepts, answer, listening, failed, readable])
            have accepted : ((server.withRevents revents).accept maxMsgSize
                pass.accept).busySessions.size ≤ limit :=
              (accept_size_le (server.withRevents revents) pass.accept).trans one
            obtain ⟨inside, size⟩ := loop _ (((List.range (server.busySessions.size + 1)).countP
              fun index => (revents index).any) - 1) accepted
            refine ⟨⟨polled, List.forall_mem_append.mpr ⟨?_, inside⟩⟩, size⟩
            exact fun index member => (acceptAccesses_le _ _ index member).trans one
          · rw [if_neg readable, if_neg readable]
            obtain ⟨inside, size⟩ := loop (server.withRevents revents)
              (((List.range (server.busySessions.size + 1)).countP
                fun index => (revents index).any) - 1) room
            exact ⟨⟨polled, inside⟩, size⟩
      · rw [if_neg listening, if_neg listening]
        obtain ⟨inside, size⟩ := loop (server.withRevents revents)
          ((List.range (server.busySessions.size + 1)).countP
            fun index => (revents index).any) room
        exact ⟨⟨polled, inside⟩, size⟩

theorem step_within {limit : Nat} (event : Event) (room : server.busySessions.size ≤ limit)
    (accepts : (∃ fd, event = .accept fd) → server.busySessions.size + 1 ≤ limit)
    (enabled : server.step maxMsgSize event = some next) :
    (∀ index ∈ server.stepAccesses maxMsgSize event, index ≤ limit) ∧
      next.busySessions.size ≤ limit := by
  cases event with
  | accept fd =>
      have one := accepts ⟨fd, rfl⟩
      rw [step] at enabled
      split_ifs at enabled
      · cases enabled
        exact ⟨fun index member => (acceptAccesses_le server fd index member).trans one,
          (accept_size_le server fd).trans one⟩
  | onRecv fd first second =>
      rw [step] at enabled
      rw [stepAccesses]
      cases found : server.findSession fd with
      | none =>
          rw [found] at enabled
          cases enabled
      | some session =>
          rw [found, Option.bind_some] at enabled
          split_ifs at enabled
          · cases enabled
            exact ⟨fun index member => (onRecvAccesses_le server session _ _ index member).trans room,
              (onRecv_size_le server session first second).trans room⟩
  | closeSession fd =>
      obtain ⟨session, found, rfl⟩ := Option.map_eq_some_iff.mp enabled
      rw [stepAccesses, found]
      exact ⟨fun index member => (closeSessionAccesses_le server session index member).trans room,
        (closeSession_size_le server session).trans room⟩
  | popPacket worker =>
      rw [step] at enabled
      split at enabled
      · cases enabled
        exact ⟨fun _ member => absurd member List.not_mem_nil, room⟩
      · cases enabled
  | send worker =>
      obtain ⟨request, -, rfl⟩ := Option.map_eq_some_iff.mp enabled
      exact ⟨fun _ member => absurd member List.not_mem_nil, room⟩
  | finish worker =>
      obtain ⟨request, -, rfl⟩ := Option.map_eq_some_iff.mp enabled
      exact ⟨fun _ member => absurd member List.not_mem_nil, room⟩

theorem call_within {limit : Nat} (call : TableCall) (room : server.busySessions.size ≤ limit)
    (accepts : Accepting call → server.busySessions.size + 1 ≤ limit)
    (enabled : server.tableStep maxMsgSize call = some next) :
    (∀ index ∈ server.callAccesses maxMsgSize call, index ≤ limit) ∧
      next.busySessions.size ≤ limit := by
  cases call with
  | event event => exact step_within event room accepts enabled
  | poll pass =>
      rw [tableStep] at enabled
      split_ifs at enabled
      · cases enabled
        exact poll_within pass room accepts

/-- While the sessions fit into the table, the calls that find an entry are the ones that stay
inside. -/
theorem withinTable_iff (call : TableCall) (room : server.busySessions.size < maxSession)
    (enabled : server.tableStep maxMsgSize call = some next) :
    WithinTable maxMsgSize server call ↔ FindsEntry server call := by
  constructor
  · intro within accepting
    by_contra full
    have refuses := (within.refuses accepting).mpr full
    have more := accept_refuses_iff.mp refuses
    omega
  · intro finds
    constructor
    · intro index member
      have limit : server.busySessions.size ≤ maxSession - 1 := by omega
      have inside := (call_within call limit (fun accepting => by
        have found := finds accepting
        omega) enabled).1 index member
      have positive : 0 < maxSession := by decide
      omega
    · intro accepting
      have found := finds accepting
      rw [accept_refuses_iff]
      omega

end Steps

/-- The calls of a run stay inside the table exactly if every accept finds an entry. -/
theorem run_withinTable_iff {history : History SSServer TableCall}
    (run : Run (tableStep maxMsgSize) anyEvent initial history server) :
    (∀ entry ∈ history, WithinTable maxMsgSize entry.1 entry.2) ↔
      ∀ entry ∈ history, FindsEntry entry.1 entry.2 := by
  have bounded : ((∀ entry ∈ history, WithinTable maxMsgSize entry.1 entry.2) ↔
      ∀ entry ∈ history, FindsEntry entry.1 entry.2) ∧
      ((∀ entry ∈ history, FindsEntry entry.1 entry.2) →
        server.busySessions.size < maxSession) := by
    induction run with
    | nil => exact ⟨by simp, fun _ => by decide⟩
    | @snoc history state next call before _ enabled ih =>
        obtain ⟨same, room⟩ := ih
        simp only [List.forall_mem_append, List.forall_mem_singleton]
        constructor
        · rw [same]
          exact and_congr_right fun finds => withinTable_iff call (room finds) enabled
        · rintro ⟨finds, last⟩
          have below := room finds
          have limit : state.busySessions.size ≤ maxSession - 1 := by omega
          have after := (call_within call limit (fun accepting => by
            have found := last accepting
            omega) enabled).2
          have positive : 0 < maxSession := by decide
          omega
  exact bounded.1

/-- A client connects and leaves. -/
theorem run_withinTable_iff_one :
    ∃ history server, Run (tableStep 100) anyEvent initial history server ∧
      (∀ entry ∈ history, FindsEntry entry.1 entry.2) ∧
      ∀ entry ∈ history, WithinTable 100 entry.1 entry.2 := by
  have run := run_of_replay (show replay (tableStep 100) initial
    [.event (.accept (some 5)), .event (.closeSession 5)] = some _ from rfl)
  have finds : ∀ entry ∈ [(initial, TableCall.event (.accept (some 5))),
      (initial.accept 100 (some 5), .event (.closeSession 5))], FindsEntry entry.1 entry.2 := by
    simp only [List.forall_mem_cons, FindsEntry, Accepting]
    refine ⟨fun _ => by decide, ?_, ?_⟩
    · rintro ⟨fd, same⟩
      cases same
    · intro entry member
      cases member
  exact ⟨_, _, run, finds, (run_withinTable_iff run).mpr finds⟩

/-- The clients connect one after the other, on the descriptors from zero on. -/
theorem exists_accepts {count : Nat} (few : count ≤ maxSession) :
    ∃ history server, Run (tableStep 100) anyEvent initial history server ∧
      server.busySessions.size = count ∧ ∀ fd : Int, count ≤ fd → server.owner fd = none := by
  induction count with
  | zero => exact ⟨[], initial, .nil, rfl, fun _ _ => rfl⟩
  | succ count ih =>
      obtain ⟨history, server, run, size, free⟩ := ih (by omega)
      have closed := free count (Int.le_refl _)
      have enabled : server.tableStep 100 (.event (.accept (some (count : Int)))) =
          some (server.accept 100 (some (count : Int))) := by
        simp [tableStep, step, closed]
      have accepts : Accepts 100 server count (server.accept 100 (some (count : Int))) :=
        accept_accepts (by omega) count
      have unused := (run_consistent run).well.unused closed
      refine ⟨_, _, run.snoc trivial enabled, ?_, ?_⟩
      · rw [accepts.size unused, size]
      · intro fd later
        have other : fd ≠ count := by omega
        rw [accepts.owner, Function.update_of_ne other]
        exact free fd (by omega)

/-- The three hundredth client is accepted into an entry behind the table. -/
theorem run_not_withinTable :
    ¬ ∀ (maxMsgSize : UInt32) (history : History SSServer TableCall) (server : SSServer),
      Run (tableStep maxMsgSize) anyEvent initial history server →
        ∀ entry ∈ history, WithinTable maxMsgSize entry.1 entry.2 := by
  intro claim
  obtain ⟨history, server, run, size, free⟩ := exists_accepts (show 299 ≤ maxSession by decide)
  have enabled : server.tableStep 100 (.event (.accept (some 299))) =
      some (server.accept 100 (some 299)) := by
    simp [tableStep, step, free 299 (by decide)]
  have within := claim 100 _ _ (run.snoc trivial enabled) _
    (List.mem_append_right _ (List.mem_singleton_self _))
  have accepted : server.acceptAccesses (some 299) = [300] := by
    rw [acceptAccesses, size]
    simp [maxSession, insertSessionAccesses, size]
  have inside := within.accesses 300 (by
    change 300 ∈ server.acceptAccesses (some 299)
    rw [accepted]
    exact List.mem_singleton_self 300)
  exact absurd inside (by decide)

end AppSvr.BaseServer.SSServer
