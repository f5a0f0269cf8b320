/-
This file proves when the connection table finds every open connection under its descriptor.
-/

import AppSvr.Proof.Gateway.PkgHead
import AppSvr.Proof.Gateway.Steps

namespace AppSvr.Gateway.AppGwSvc
open PartialMap TransitionSystem

variable (ini : IniOption) (history : History AppGwSvc Event) (svc : AppGwSvc)

/-- Every session that a queued identifier finds was marked for closing. -/
def QueueMarked : Prop :=
  ∀ connId ∈ svc.queCloseConn, ∀ ptr, svc.fdConnSs (connectionFd connId) = some ptr →
    ptr ∈ svc.closeMarked

/-- A session of an accepted connection is found under its descriptor until it is marked. -/
structure Registered (ptr : SessionPtr) (connId : UInt64) (fd : Int) (svc : AppGwSvc) : Prop where
  allocated : ptr < svc.nextSession
  own : ∀ s, svc.sessions ptr = some s → s.connID = connId
  found : ptr ∉ svc.closeMarked → svc.findFdConnSession fd = some ptr

/-- The kernel returns a descriptor below 65536 that neither the connection table nor the close
queue still names. -/
def ReleasedDescriptor : Event → Prop
  | .handleAccept _ _ _ connFd _ => connFd < 65536 ∧ svc.findFdConnSession connFd = none ∧
      ∀ connId ∈ svc.queCloseConn, connectionFd connId ≠ connFd
  | _ => True

instance (svc : AppGwSvc) (event : Event) : Decidable (svc.ReleasedDescriptor event) :=
  match event with
  | .handleAccept _ _ _ _ _ =>
      @instDecidableAnd _ _ inferInstance
        (@instDecidableAnd _ _ inferInstance (List.decidableBAll _ _))
  | .receive _ _ _ | .packet _ _ _ | .closeMark _ _ | .removeConnSession _ => isTrue trivial

/-- A small descriptor is the key of its connection. -/
theorem connectionFd_small (ip : UInt32) (port : UInt16) (connFd : Nat) (small : connFd < 65536) :
    connectionFd (connectionId ip port connFd) = connFd := by
  rw [connectionFd_connectionId ip port connFd (by omega),
    Nat.mod_eq_of_lt (show connFd < 2 ^ 16 from small)]

theorem KeepsConnections.queueMarked {View : Type} {view : ConnectSession → View}
    {svc next : AppGwSvc} (kept : KeepsConnections view svc next) (marked : svc.QueueMarked) :
    next.QueueMarked := by
  intro connId member ptr found
  rw [kept.fdConnSs] at found
  rcases kept.queued connId member with old | ⟨other, otherMarked, same⟩
  · exact kept.marked (marked connId old ptr found)
  · obtain rfl := Option.some.inj (found.symm.trans same)
    exact otherMarked

theorem KeepsConnections.registered {View : Type} {view : ConnectSession → View}
    {svc next : AppGwSvc} (kept : KeepsConnections view svc next) {ptr : SessionPtr}
    {connId : UInt64} {fd : Int} (registered : Registered ptr connId fd svc) :
    Registered ptr connId fd next where
  allocated := by
    rw [kept.nextSession]
    exact registered.allocated
  own later live := by
    obtain ⟨s, before, follows⟩ := kept.sessions.backward live
    rw [follows.connID, registered.own s before]
  found unmarked := by
    have old := registered.found fun marked => unmarked (kept.marked marked)
    unfold findFdConnSession at old ⊢
    rw [kept.fdConnSs, old]

/-- The close thread deletes only marked sessions. -/
theorem Reaps.marked {svc next : AppGwSvc} {fd : Int} {ptr : SessionPtr} {s : ConnectSession}
    (reaps : Reaps svc fd ptr s next) (marked : svc.QueueMarked) : ptr ∈ svc.closeMarked := by
  obtain ⟨connId, queued, rfl⟩ := reaps.named
  exact marked connId queued ptr reaps.found

theorem Reaps.queueMarked {svc next : AppGwSvc} {fd : Int} {ptr : SessionPtr} {s : ConnectSession}
    (reaps : Reaps svc fd ptr s next) (marked : svc.QueueMarked) : next.QueueMarked := by
  intro connId member other found
  obtain ⟨-, old⟩ := reaps.found_old found
  rcases reaps.queued member with queued | ⟨found', otherMarked, same⟩
  · exact reaps.closeMarked (marked connId queued other old)
  · obtain rfl := Option.some.inj (old.symm.trans same)
    exact otherMarked

theorem Reaps.registered {svc next : AppGwSvc} {fd : Int} {ptr : SessionPtr} {s : ConnectSession}
    (reaps : Reaps svc fd ptr s next) (marked : svc.QueueMarked) {other : SessionPtr}
    {connId : UInt64} {key : Int} (registered : Registered other connId key svc) :
    Registered other connId key next where
  allocated := by
    rw [reaps.nextSession]
    exact registered.allocated
  own later live := by
    obtain ⟨-, before, present, follows⟩ := reaps.backward live
    rw [follows.connID, registered.own before present]
  found unmarked := by
    have old := registered.found fun marked => unmarked (reaps.closeMarked marked)
    have different : key ≠ fd := by
      rintro rfl
      obtain rfl := Option.some.inj (reaps.found.symm.trans old)
      exact unmarked (reaps.closeMarked (reaps.marked marked))
    unfold findFdConnSession at old ⊢
    rw [reaps.fdConnSs, Function.update_of_ne different, old]

/-- Every step under the condition keeps the queue marked. -/
theorem queueMarked_rule : StepRule ini ReleasedDescriptor QueueMarked := by
  apply StepRule.ofConnections
  · intro svc next _ marked kept
    exact kept.queueMarked marked
  · intro svc next lsfd ip port connFd now _ marked released _ _ accepts connId member ptr found
    obtain ⟨small, vacant, unqueued⟩ := released
    have key := connectionFd_small ip port connFd small
    have empty : svc.fdConnSs (connectionFd (connectionId ip port connFd)) = none := by
      rw [key]
      exact vacant
    rw [accepts.queCloseConn] at member
    have different : connectionFd connId ≠ connectionFd (connectionId ip port connFd) := by
      rw [key]
      exact unqueued connId member
    have old : svc.fdConnSs (connectionFd connId) = some ptr := by
      rw [accepts.vacant empty, ConnectSession.new_connID] at found
      rwa [Function.update_of_ne different] at found
    rw [accepts.closeMarked]
    exact marked connId member ptr old
  · intro svc next fd ptr s _ marked reaps
    exact reaps.queueMarked marked

/-- Every step under the condition keeps a registered connection. -/
theorem registered_rule (ptr : SessionPtr) (connId : UInt64) (fd : Int) :
    StepRule ini ReleasedDescriptor fun svc => QueueMarked svc ∧ Registered ptr connId fd svc := by
  have queue := queueMarked_rule ini
  apply StepRule.ofConnections
  · rintro svc next _ ⟨marked, registered⟩ kept
    exact ⟨kept.queueMarked marked, kept.registered registered⟩
  · rintro svc next lsfd ip port connFd now well ⟨marked, registered⟩ released small admitted
      accepts
    refine ⟨queue.accepts well marked released small admitted accepts, ?_, ?_, ?_⟩
    · rw [accepts.nextSession]
      exact Nat.lt_succ_of_lt registered.allocated
    · intro s live
      rw [accepts.sessions, Function.update_of_ne registered.allocated.ne] at live
      exact registered.own s live
    · intro unmarked
      rw [accepts.closeMarked] at unmarked
      exact accepts.keepsFound (registered.found unmarked)
  · rintro svc next key other s _ ⟨marked, registered⟩ reaps
    exact ⟨reaps.queueMarked marked, reaps.registered marked registered⟩

/-- Every connection that a run accepted is registered. -/
def AcceptedRegistered : Prop :=
  ∀ entry ∈ history, ∀ lsfd ip port connFd now,
    entry.2 = .handleAccept lsfd ip port connFd now → entry.1.Admits ini lsfd ip →
      Registered entry.1.nextSession (connectionId ip port connFd) connFd svc

/-- The table finds every accepted connection that was not marked, when every descriptor that the
kernel returns was released by the table and by the close queue. -/
theorem acceptedRegistered_run {ini : IniOption} {history : History AppGwSvc Event}
    {svc : AppGwSvc} (reached : Run (step ini) ReleasedDescriptor initial history svc) :
    AcceptedRegistered ini history svc := by
  have whole : (svc.WellFormed ∧ svc.QueueMarked) ∧ AcceptedRegistered ini history svc := by
    refine reached.historyInvariant
      (fun history svc => (svc.WellFormed ∧ svc.QueueMarked) ∧ AcceptedRegistered ini history svc)
      ⟨⟨StepRule.initial_wellFormed, fun _ member => nomatch member⟩,
        fun _ member => nomatch member⟩
      ?_
    rintro history svc event next ⟨⟨well, marked⟩, registered⟩ released enabled
    refine ⟨(queueMarked_rule ini).step well marked released enabled, ?_⟩
    intro entry member lsfd ip port connFd now accepted admitted
    rcases List.mem_append.mp member with old | new
    · have before := registered entry old lsfd ip port connFd now accepted admitted
      exact ((registered_rule ini _ _ _).step well ⟨marked, before⟩ released enabled).2.2
    · obtain rfl := List.mem_singleton.mp new
      obtain rfl : event = .handleAccept lsfd ip port connFd now := accepted
      obtain ⟨small, vacant, -⟩ := released
      have key := connectionFd_small ip port connFd small
      simp only [step] at enabled
      split at enabled
      · cases enabled
      · obtain rfl := Option.some.inj enabled
        rcases svc.handleAccept_cases ini lsfd ip port connFd now with
          ⟨refused, -⟩ | ⟨-, accepts⟩
        · exact absurd admitted refused
        · refine ⟨?_, ?_, ?_⟩
          · rw [accepts.nextSession]
            exact Nat.lt_succ_self _
          · intro s live
            rw [accepts.sessions, Function.update_self] at live
            rw [← Option.some.inj live]
            rfl
          · intro _
            have empty : svc.fdConnSs (connectionFd (connectionId ip port connFd)) = none := by
              rw [key]
              exact vacant
            have found := accepts.found empty
            rwa [ConnectSession.new_connID, key] at found
  exact whole.2

/-- Every accepted connection that was not marked for closing is found under its descriptor. -/
def AcceptedFound : Prop :=
  ∀ entry ∈ history, ∀ lsfd ip port connFd now,
    entry.2 = .handleAccept lsfd ip port connFd now → entry.1.Admits ini lsfd ip →
      entry.1.nextSession ∉ svc.closeMarked →
        svc.findFdConnSession connFd = some entry.1.nextSession ∧
          ∃ s, svc.sessions entry.1.nextSession = some s ∧ s.connID = connectionId ip port connFd

/-- The table keeps every open connection while the kernel returns only released descriptors. -/
theorem accepted_found {history : History AppGwSvc Event} {svc : AppGwSvc}
    (reached : Run (step ini) ReleasedDescriptor initial history svc) :
    AcceptedFound ini history svc := by
  have well := ((queueMarked_rule ini).run (fun _ member => nomatch member) reached).1
  intro entry member lsfd ip port connFd now accepted admitted unmarked
  have registered := acceptedRegistered_run reached entry member lsfd ip port connFd now accepted
    admitted
  have found := registered.found unmarked
  obtain ⟨s, live, -⟩ := well.found connFd entry.1.nextSession found
  exact ⟨found, s, live, registered.own s live⟩

/-- A first connection is found. -/
theorem accepted_found_first :
    AcceptedFound ⟨1⟩ [(initial, .handleAccept .outside 7 80 5 0)]
      (initial.handleAccept ⟨1⟩ .outside 7 80 5 0) := by
  have released : initial.ReleasedDescriptor (.handleAccept .outside 7 80 5 0) := by decide
  have enabled : step ⟨1⟩ initial (.handleAccept .outside 7 80 5 0) =
      some (initial.handleAccept ⟨1⟩ .outside 7 80 5 0) := rfl
  exact accepted_found ⟨1⟩ (.snoc .nil released enabled)

/-- This check finds an open connection that the table misses. -/
def missesAccepted : Bool :=
  history.any fun entry =>
    match entry.2 with
    | .handleAccept lsfd ip _ connFd _ => entry.1.Admits ini lsfd ip ∧
        entry.1.nextSession ∉ svc.closeMarked ∧
          svc.findFdConnSession connFd ≠ some entry.1.nextSession
    | _ => false

theorem missesAccepted_not_found {ini : IniOption} {history : History AppGwSvc Event}
    {svc : AppGwSvc} (misses : missesAccepted ini history svc = true) :
    ¬ AcceptedFound ini history svc := by
  intro found
  obtain ⟨⟨before, event⟩, member, missed⟩ := List.any_eq_true.mp misses
  cases event with
  | handleAccept lsfd ip port connFd now =>
      obtain ⟨admitted, unmarked, absent⟩ := of_decide_eq_true missed
      exact absent (found _ member lsfd ip port connFd now rfl admitted unmarked).1
  | receive fd outcome now => cases missed
  | packet thread fd kernel => cases missed
  | closeMark fd now => cases missed
  | removeConnSession kernel => cases missed

/-- The table loses a connection whose descriptor was closed but not yet reaped. -/
theorem accepted_not_found :
    ¬ ∀ (ini : IniOption) (history : History AppGwSvc Event) (svc : AppGwSvc),
      Run (step ini) anyEvent initial history svc → AcceptedFound ini history svc := by
  intro claim
  obtain ⟨history, svc, reached, misses⟩ := exists_run_of_replay (step ⟨1⟩) anyEvent initial
    [.handleAccept .outside 7 80 5 0, .receive 5 .peerClosed 1, .handleAccept .outside 8 80 5 1]
    (missesAccepted ⟨1⟩) (by decide)
  exact missesAccepted_not_found misses (claim ⟨1⟩ history svc reached)

end AppSvr.Gateway.AppGwSvc
