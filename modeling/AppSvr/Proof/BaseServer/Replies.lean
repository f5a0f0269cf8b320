/-
This file proves when the replies of the worker threads reach the clients that sent the requests.
-/

import AppSvr.Proof.BaseServer.SessionSteps

namespace AppSvr.BaseServer.SSServer

open TransitionSystem

variable {server next : SSServer} {maxMsgSize : UInt32} {session : SessionPtr} {fd : Int}
  {request : Request}

/-- The request waits in the queue or a worker thread processes it. -/
def Pending (server : SSServer) (request : Request) : Prop :=
  request ∈ server.packets ∨ ∃ worker, server.held worker = some request

/-- The connection that delivered the request is open. -/
def Connected (server : SSServer) (request : Request) : Prop :=
  ∃ fd client, server.owner fd = some client ∧ request.client = some client

/-- A write to the session of the request goes to the requester or fails. -/
def Reaches (server : SSServer) (request : Request) : Prop :=
  ∀ client, server.destination request = some client → request.client = some client

/-- No pending request of a closed connection names the session object or the descriptor that the
new connection takes, and the poll table has a slot for it. -/
def TakesUnnamed (server : SSServer) : Event → Prop
  | .accept (some fd) =>
      server.busySessions.size + 1 < maxSession ∧
        ∀ request, server.Pending request → ¬ server.Connected request →
          request.session ≠ server.newSession ∧
            (server.sessions request.session).handle ≠ fd
  | _ => True

/-- The client is the only one that the session of the request can reach. -/
structure Answers (server : SSServer) (request : Request) (client : Client) : Prop where
  sender : request.client = some client
  before : client < server.accepted
  session : ∀ {fd}, server.owner fd = some client → server.findSession fd = some request.session
  reaches : ∀ other, server.destination request = some other → other = client

/-- Every pending request answers its client. -/
structure Delivers (server : SSServer) : Prop where
  well : server.WellFormed
  natural : ∀ {fd client}, server.owner fd = some client → 0 ≤ fd
  pending : ∀ {request}, server.Pending request → ∃ client, server.Answers request client

namespace Delivers

theorem initial : Delivers SSServer.initial where
  well := .initial
  natural owned := by cases owned
  pending waits := by
    rcases waits with queued | ⟨worker, held⟩
    · cases queued
    · cases held

theorem refuses (delivers : server.Delivers) (refuses : Refuses server next) :
    next.Delivers := by
  have owner : next.owner = server.owner := by rw [refuses.rest]
  have accepted : next.accepted = server.accepted := by rw [refuses.rest]
  have found : next.findSession = server.findSession := by rw [refuses.rest]; rfl
  have pending : next.Pending = server.Pending := by rw [refuses.rest]; rfl
  refine ⟨delivers.well.refuses refuses, ?_, ?_⟩
  · rw [owner]
    exact delivers.natural
  · rw [pending]
    intro request waits
    obtain ⟨client, answers⟩ := delivers.pending waits
    refine ⟨client, answers.sender, accepted ▸ answers.before, ?_, ?_⟩
    · rw [owner, found]
      exact answers.session
    · intro other reached
      rw [destination, owner] at reached
      rcases refuses.handle request.session with same | ⟨-, invalid⟩
      · rw [same] at reached
        exact answers.reaches other reached
      · rw [invalid] at reached
        exact absurd (delivers.natural reached) (by decide)

/-- The session and the descriptor of a pending request keep their meaning when a connection is
accepted: an open connection keeps both, and a closed one does not name what is taken. -/
theorem accepts (delivers : server.Delivers) (accepts : Accepts maxMsgSize server fd next)
    (natural : 0 ≤ fd) (closed : server.owner fd = none)
    (unnamed : ∀ request, server.Pending request → ¬ server.Connected request →
      request.session ≠ server.newSession ∧ (server.sessions request.session).handle ≠ fd) :
    next.Delivers := by
  have well := delivers.well
  have pending : next.Pending = server.Pending := by
    funext request
    rw [Pending, accepts.packets, accepts.held]
    rfl
  refine ⟨well.accepts accepts, ?_, ?_⟩
  · intro key client owned
    rcases accepts.owner_cases owned with ⟨rfl, -⟩ | ⟨-, old⟩
    · exact natural
    · exact delivers.natural old
  · rw [pending]
    intro request waits
    obtain ⟨client, answers⟩ := delivers.pending waits
    have apart : request.session ≠ server.newSession ∧
        (server.sessions request.session).handle ≠ fd := by
      by_cases connected : server.Connected request
      · obtain ⟨key, same, owned, named⟩ := connected
        obtain rfl := Option.some.inj (answers.sender.symm.trans named)
        have found := answers.session owned
        refine ⟨(well.busy found).1, ?_⟩
        rw [well.handle found]
        rintro rfl
        rw [closed] at owned
        cases owned
      · exact unnamed request waits connected
    refine ⟨client, answers.sender, ?_, ?_, ?_⟩
    · rw [accepts.accepted]
      exact Nat.lt_succ_of_lt answers.before
    · intro key owned
      rcases accepts.owner_cases owned with ⟨-, rfl⟩ | ⟨different, old⟩
      · exact absurd answers.before (lt_irrefl _)
      · rw [accepts.findSession, if_neg (Ne.symm different)]
        exact answers.session old
    · intro other reached
      rw [destination, accepts.sessions, Function.update_of_ne apart.1, accepts.owner,
        Function.update_of_ne apart.2] at reached
      exact answers.reaches other reached

/-- A close takes a descriptor away and changes no handle. -/
theorem closes (delivers : server.Delivers) (found : server.findSession fd = some session)
    (closes : Closes server session next) : next.Delivers := by
  have handle := delivers.well.handle found
  have pending : next.Pending = server.Pending := by
    funext request
    rw [Pending, closes.packets, closes.held]
    rfl
  refine ⟨delivers.well.closes found closes, ?_, ?_⟩
  · intro key client owned
    exact delivers.natural (closes.owner_before handle owned).2
  · rw [pending]
    intro request waits
    obtain ⟨client, answers⟩ := delivers.pending waits
    refine ⟨client, answers.sender, closes.accepted ▸ answers.before, ?_, ?_⟩
    · intro key owned
      obtain ⟨different, old⟩ := closes.owner_before handle owned
      rw [closes.findSession handle, if_neg (Ne.symm different)]
      exact answers.session old
    · intro other reached
      rw [destination, closes.handle] at reached
      exact answers.reaches other (closes.owner_before handle reached).2

/-- A pushed packet is answered through the session that read it. -/
theorem afterRecv (maxMsgSize : UInt32) (delivers : server.Delivers)
    (found : server.findSession fd = some session) (first second : Recv) :
    (server.afterRecv session
      ((server.sessions session).onRecv maxMsgSize first second)).Delivers := by
  have handles := fun other => server.afterRecv_handle maxMsgSize session other first second
  have handle := delivers.well.handle found
  refine ⟨delivers.well.afterRecv maxMsgSize session first second, delivers.natural, ?_⟩
  intro request waits
  have cases_ : server.Pending request ∨
      request.session = session ∧ request.client = server.owner fd := by
    rcases waits with queued | held
    · rcases List.mem_append.mp queued with old | new
      · exact .inl (.inl old)
      · obtain ⟨packet, -, rfl⟩ := List.mem_map.mp new
        exact .inr ⟨rfl, congrArg server.owner handle⟩
    · exact .inl (.inr held)
  rcases cases_ with old | ⟨named, client⟩
  · obtain ⟨client, answers⟩ := delivers.pending old
    refine ⟨client, answers.sender, answers.before, answers.session, ?_⟩
    intro other reached
    rw [destination, handles] at reached
    exact answers.reaches other reached
  · have owned := delivers.well.owned fd
    rw [found] at owned
    obtain ⟨sender, owned⟩ := Option.isSome_iff_exists.mp owned
    refine ⟨sender, client.trans owned, delivers.well.before owned, ?_, ?_⟩
    · intro key again
      rw [delivers.well.unique again owned, named]
      exact found
    · intro other reached
      rw [destination, handles, named, handle] at reached
      exact Option.some.inj (reached.symm.trans owned)

/-- The workers only move requests. -/
theorem workers (delivers : server.Delivers)
    (pending : ∀ request, next.Pending request → server.Pending request)
    (same : next = { server with packets := next.packets, held := next.held }) :
    next.Delivers := by
  have well := delivers.well
  rw [same] at pending ⊢
  refine ⟨well.congr (fun _ => rfl) rfl, delivers.natural, ?_⟩
  intro request waits
  obtain ⟨client, answers⟩ := delivers.pending (pending request waits)
  exact ⟨client, answers.sender, answers.before, answers.session, answers.reaches⟩

end Delivers

theorem step_delivers {event : Event} (delivers : server.Delivers)
    (unnamed : server.TakesUnnamed event)
    (enabled : server.step maxMsgSize event = some next) : next.Delivers := by
  cases event with
  | accept fd =>
      rw [step] at enabled
      split at enabled
      · next admitted =>
          cases enabled
          rcases server.accept_cases maxMsgSize fd with refuses | ⟨new, rfl, -, accepts⟩
          · exact delivers.refuses refuses
          · obtain ⟨natural, closed⟩ := Bool.and_eq_true_iff.mp admitted
            exact delivers.accepts accepts (by simpa using natural) (by simpa using closed)
              unnamed.2
      · cases enabled
  | onRecv fd first second =>
      obtain ⟨session, found, reads⟩ := Option.bind_eq_some_iff.mp enabled
      split at reads
      · cases reads
        have after := delivers.afterRecv maxMsgSize found first second
        rcases server.onRecv_cases maxMsgSize session first second with ⟨-, same⟩ | ⟨-, same⟩
        · rw [same]
          exact after.closes found (closeSession_closes _ _)
        · rw [same]
          exact after
      · cases reads
  | closeSession fd =>
      obtain ⟨session, found, rfl⟩ := Option.map_eq_some_iff.mp enabled
      exact delivers.closes found (closeSession_closes _ _)
  | popPacket worker =>
      rw [step] at enabled
      split at enabled
      · next request rest idle queue =>
          cases enabled
          refine delivers.workers ?_ rfl
          intro other waits
          rcases waits with queued | ⟨thread, held⟩
          · exact .inl (queue ▸ List.mem_cons_of_mem _ queued)
          · by_cases same : thread = worker
            · subst same
              have taken : request = other := by simpa using held
              exact .inl (queue ▸ taken ▸ List.mem_cons_self)
            · exact .inr ⟨thread, by simpa [Function.update_of_ne same] using held⟩
      · cases enabled
  | send worker =>
      obtain ⟨request, -, rfl⟩ := Option.map_eq_some_iff.mp enabled
      exact delivers
  | finish worker =>
      obtain ⟨request, -, rfl⟩ := Option.map_eq_some_iff.mp enabled
      refine delivers.workers ?_ rfl
      intro other waits
      rcases waits with queued | ⟨thread, held⟩
      · exact .inl queued
      · by_cases same : thread = worker
        · subst same
          simp at held
        · exact .inr ⟨thread, by simpa [Function.update_of_ne same] using held⟩

/-- Every write of a worker goes to the client that sent its request, or fails. -/
def RepliesReach (history : History SSServer Event) : Prop :=
  ∀ state worker, (state, Event.send worker) ∈ history →
    ∀ request, state.held worker = some request → state.Reaches request

/-- No reply goes to another client as long as no accept takes a session object or a descriptor that
a pending request of a closed connection still names. -/
theorem run_repliesReach {history : History SSServer Event}
    (run : Run (step maxMsgSize) TakesUnnamed initial history server) :
    RepliesReach history := by
  have invariant : server.Delivers ∧ RepliesReach history := by
    apply run.historyInvariant fun history state => state.Delivers ∧ RepliesReach history
    · exact ⟨.initial, fun _ _ member => by cases member⟩
    · intro history state event next before unnamed enabled
      refine ⟨step_delivers before.1 unnamed enabled, ?_⟩
      intro sender worker member request held
      rcases List.mem_append.mp member with old | new
      · exact before.2 sender worker old request held
      · rw [List.mem_singleton] at new
        cases new
        intro client reached
        obtain ⟨requester, answers⟩ := before.1.pending (.inr ⟨worker, held⟩)
        rw [answers.reaches client reached]
        exact answers.sender
  exact invariant.2

/-- A worker answers the only client. -/
theorem oneClient_repliesReach :
    ∃ history server, Run (step 100) TakesUnnamed initial history server ∧
      history.map Prod.snd = [.accept (some 5), .onRecv 5 (.data (shortHeader 15)) .wouldBlock,
        .popPacket 0, .send 0] ∧ RepliesReach history := by
  have replayed := run_of_replay (show replay (step 100) initial
    [.accept (some 5), .onRecv 5 (.data (shortHeader 15)) .wouldBlock, .popPacket 0, .send 0] =
      some _ from rfl)
  have run : Run (step 100) TakesUnnamed _ _ _ := replayed.restrict (by
    simp only [List.forall_mem_cons, List.not_mem_nil, false_imp_iff, implies_true, and_true]
    refine ⟨⟨by decide, ?_⟩, trivial, trivial, trivial⟩
    intro request waits
    rcases waits with queued | ⟨worker, held⟩
    · cases queued
    · cases held)
  exact ⟨_, _, run, rfl, run_repliesReach run⟩

/-- The first client sends a request and disconnects, and the second client is accepted on the same
descriptor before a worker takes the request: the reply goes to the second client. -/
theorem reusedDescriptor_not_repliesReach :
    ∃ history server, Run (step 100) anyEvent initial history server ∧
      history.map Prod.snd = [.accept (some 5), .onRecv 5 (.data (shortHeader 15)) .wouldBlock,
        .onRecv 5 .peerClosed .wouldBlock, .accept (some 5), .popPacket 0, .send 0] ∧
      ¬ RepliesReach history := by
  have run := run_of_replay (show replay (step 100) initial
    [.accept (some 5), .onRecv 5 (.data (shortHeader 15)) .wouldBlock,
      .onRecv 5 .peerClosed .wouldBlock, .accept (some 5), .popPacket 0, .send 0] =
      some _ from rfl)
  refine ⟨_, _, run, rfl, ?_⟩
  intro reach
  have sent := reach _ 0 (by
    refine List.mem_cons_of_mem _ (List.mem_cons_of_mem _ (List.mem_cons_of_mem _
      (List.mem_cons_of_mem _ (List.mem_cons_of_mem _ List.mem_cons_self))))) _ rfl 1 rfl
  exact absurd sent (by decide)

end AppSvr.BaseServer.SSServer
