/-
This file shows when the messages of the battles reach the gateway whole.
-/

import AppSvr.Construction.PkServer.SendClient
import AppSvr.ToMathlib.TransitionSystem

namespace AppSvr.PkServer

open TransitionSystem

namespace SentMessage

/-- `send_buff` returned the length of the message. -/
def Succeeded (call : SentMessage) : Prop := call.returned = some (call.message.length : Int)

/-- A part of the message was sent. -/
def CutOff (call : SentMessage) : Prop := 0 < call.sent ∧ call.sent < call.message.length

/-- These are the bytes that were sent. -/
def chunk (call : SentMessage) : List UInt8 := call.message.take call.sent

/-- A call sends no more than its message, and all of it when it succeeds. -/
structure Counted (call : SentMessage) : Prop where
  within : call.sent ≤ call.message.length
  complete : call.Succeeded → call.sent = call.message.length

end SentMessage

/-- The bytes are complete messages in the order of the calls, each successful one among them; the
last message may be cut off. -/
def Whole : List SentMessage → List UInt8 → Prop
  | [], bytes => bytes = []
  | call :: calls, bytes =>
      (∃ rest, bytes = call.message ++ rest ∧ Whole calls rest) ∨
      (¬ call.Succeeded ∧ Whole calls bytes) ∨
      (¬ call.Succeeded ∧ bytes <+: call.message ∧ Whole calls [])

/-- Nothing is sent behind a message that was cut off. -/
def Tidy (calls : List SentMessage) : Prop :=
  calls.Pairwise fun earlier later => earlier.CutOff → later.sent = 0

/-- The sent bytes are whole if nothing follows a message that was cut off. -/
theorem whole_of_tidy {calls : List SentMessage} (counted : ∀ call ∈ calls, call.Counted)
    (tidy : Tidy calls) : Whole calls (calls.flatMap SentMessage.chunk) := by
  induction calls with
  | nil => rfl
  | cons call calls ih =>
      obtain ⟨own, rest⟩ := List.forall_mem_cons.mp counted
      obtain ⟨behind, tidy⟩ := List.pairwise_cons.mp tidy
      have whole := ih rest tidy
      rw [List.flatMap_cons]
      by_cases complete : call.sent = call.message.length
      · left
        refine ⟨_, ?_, whole⟩
        rw [SentMessage.chunk, complete, List.take_length]
      · have failed : ¬ call.Succeeded := fun succeeded => complete (own.complete succeeded)
        have less : call.sent < call.message.length := Nat.lt_of_le_of_ne own.within complete
        by_cases started : call.sent = 0
        · right
          left
          refine ⟨failed, ?_⟩
          rw [SentMessage.chunk, started, List.take_zero, List.nil_append]
          exact whole
        · right
          right
          have silent : calls.flatMap SentMessage.chunk = [] := by
            rw [List.flatMap_eq_nil_iff]
            intro later member
            rw [SentMessage.chunk, behind later member ⟨Nat.pos_of_ne_zero started, less⟩,
              List.take_zero]
          rw [silent, List.append_nil]
          rw [silent] at whole
          exact ⟨failed, List.take_prefix _ _, whole⟩

namespace GatewayLink

/-- These are the calls that began on a connection, the current one last. -/
def callsOn (link : GatewayLink) (connection : Nat) : List SentMessage :=
  link.calls connection ++
    (link.sending.toList.filter fun call => call.connection = some connection).map
      fun call => ⟨call.message, call.sent, none⟩

/-- The bytes on the current connection to the gateway are whole messages. -/
def DeliversWhole (link : GatewayLink) : Prop :=
  ∀ connection, link.current = some connection →
    Whole (link.callsOn connection) (link.written connection)

/-- What is sent to the gateway comes from a call that began on this connection, and no earlier call
on it was cut off. -/
def SendsBehindWhole (link : GatewayLink) : Event → Prop
  | .send (.sent _) => ∀ call connection, link.sending = some call →
      link.sockets call.fd = some connection → link.current = some connection →
        call.connection = some connection ∧
          ∀ earlier ∈ link.calls connection, ¬ earlier.CutOff
  | _ => True

/-- Every connection has one descriptor at most, and the sent bytes are those of the calls. -/
structure Sound (link : GatewayLink) : Prop where
  descriptor : ∀ fd connection, link.sockets fd = some connection →
    0 ≤ fd ∧ connection < link.created
  apart : ∀ fd other connection, link.sockets fd = some connection →
    link.sockets other = some connection → fd = other
  sending : ∀ call connection, link.sending = some call → call.connection = some connection →
    connection < link.created ∧ ∀ fd, link.sockets fd = some connection → fd = call.fd
  fresh : ∀ connection, link.created ≤ connection →
    link.calls connection = [] ∧ link.written connection = []
  counted : ∀ connection, ∀ call ∈ link.callsOn connection, call.Counted
  accounted : ∀ connection, link.current = some connection →
    link.written connection = (link.callsOn connection).flatMap SentMessage.chunk ∧
      Tidy (link.callsOn connection)

variable {link next : GatewayLink}

theorem Sound.deliversWhole (sound : link.Sound) : link.DeliversWhole := by
  intro connection current
  obtain ⟨bytes, tidy⟩ := sound.accounted connection current
  rw [bytes]
  exact whole_of_tidy (sound.counted connection) tidy

theorem callsOn_idle (idle : link.sending = none) (connection : Nat) :
    link.callsOn connection = link.calls connection := by
  rw [callsOn, idle]
  exact List.append_nil _

theorem callsOn_other {call : Sending} {connection : Nat} (sending : link.sending = some call)
    (other : call.connection ≠ some connection) :
    link.callsOn connection = link.calls connection := by
  simp [callsOn, sending, other]

theorem callsOn_own {call : Sending} {connection : Nat} (sending : link.sending = some call)
    (own : call.connection = some connection) :
    link.callsOn connection =
      link.calls connection ++ [⟨call.message, call.sent, none⟩] := by
  simp [callsOn, sending, own]

theorem initial_sound : initial.Sound := by
  constructor
  · intro fd connection open_
    cases open_
  · intro fd other connection open_
    cases open_
  · intro call connection sending
    cases sending
  · exact fun _ _ => ⟨rfl, rfl⟩
  · intro connection call member
    cases member
  · intro connection current
    cases current

theorem Sound.sendClient (sound : link.Sound) (idle : link.sending = none)
    (message : List UInt8) : (link.sendClient message).Sound := by
  have calls (connection : Nat) : (link.sendClient message).callsOn connection =
      link.calls connection ++
        if link.current = some connection then [⟨message, 0, none⟩] else [] := by
    have started : (link.sendClient message).sending =
      some ⟨link.fdGw, link.current, message, 0⟩ := rfl
    split_ifs with own
    · exact callsOn_own started own
    · rw [callsOn_other started own, List.append_nil]
      rfl
  constructor
  · exact sound.descriptor
  · exact sound.apart
  · rintro call connection sending own
    cases sending
    exact ⟨(sound.descriptor _ _ own).2, fun fd stored => sound.apart fd _ _ stored own⟩
  · exact sound.fresh
  · intro connection call member
    rw [calls, List.mem_append] at member
    rcases member with ended | started
    · apply sound.counted connection call
      rw [callsOn_idle idle]
      exact ended
    · split_ifs at started
      · rw [List.mem_singleton.mp started]
        refine ⟨Nat.zero_le _, ?_⟩
        intro succeeded
        cases succeeded
      · cases started
  · intro connection current
    have own : link.current = some connection := current
    obtain ⟨bytes, tidy⟩ := sound.accounted connection own
    rw [callsOn_idle idle] at bytes tidy
    rw [calls, if_pos own]
    constructor
    · rw [List.flatMap_append, ← bytes]
      exact (List.append_nil _).symm
    · refine List.pairwise_append.mpr ⟨tidy, List.pairwise_singleton _ _, ?_⟩
      intro earlier _ later member _
      rw [List.mem_singleton.mp member]

/-- A call that returns is the last one of its connection. -/
theorem callsOn_sendReturns (link : GatewayLink) (call : Sending) (returned : Int)
    (connection : Nat) : (link.sendReturns call returned).callsOn connection =
      link.calls connection ++ if call.connection = some connection then
        [⟨call.message, call.sent, some returned⟩] else [] := by
  have idle : (link.sendReturns call returned).sending = none := rfl
  rw [callsOn_idle idle, sendReturns]
  cases begun : call.connection with
  | none => simp
  | some own =>
      by_cases same : connection = own
      · subst same
        simp
      · have other : own ≠ connection := fun equal => same equal.symm
        simp [Function.update_of_ne same, other]

/-- A call that returns keeps its bytes. It may only report success when all of them are sent. -/
theorem Sound.sendReturns (sound : link.Sound) {call : Sending}
    (sending : link.sending = some call) {returned : Int}
    (complete : ∀ connection, call.connection = some connection →
      returned = call.message.length → call.sent = call.message.length) :
    (link.sendReturns call returned).Sound := by
  have calls := link.callsOn_sendReturns call returned
  constructor
  · exact sound.descriptor
  · exact sound.apart
  · rintro other connection started
    cases started
  · intro connection new
    obtain ⟨none_, written⟩ := sound.fresh connection new
    refine ⟨?_, written⟩
    have other : call.connection ≠ some connection := fun own =>
      Nat.not_lt.mpr new (sound.sending call connection sending own).1
    have same := calls connection
    rw [if_neg other, List.append_nil, none_] at same
    rw [callsOn_idle rfl] at same
    exact same
  · intro connection ended member
    rw [calls] at member
    have counted := sound.counted connection
    split_ifs at member with own
    · rw [callsOn_own sending own] at counted
      rcases List.mem_append.mp member with earlier | last
      · exact counted ended (List.mem_append_left _ earlier)
      · rw [List.mem_singleton.mp last]
        have within := (counted _ (List.mem_append_right _ (List.mem_singleton_self _))).within
        refine ⟨within, ?_⟩
        intro succeeded
        exact complete connection own (Option.some.inj succeeded)
    · rw [callsOn_other sending own] at counted
      rw [List.append_nil] at member
      exact counted ended member
  · intro connection current
    obtain ⟨bytes, tidy⟩ := sound.accounted connection current
    rw [calls]
    split_ifs with own
    · rw [callsOn_own sending own] at bytes tidy
      constructor
      · rw [List.flatMap_append] at bytes ⊢
        exact bytes
      · obtain ⟨ended, -, behind⟩ := List.pairwise_append.mp tidy
        refine List.pairwise_append.mpr ⟨ended, List.pairwise_singleton _ _, ?_⟩
        intro earlier member later last cut
        rw [List.mem_singleton.mp last]
        exact behind earlier member ⟨call.message, call.sent, none⟩
          (List.mem_singleton_self _) cut
    · rw [callsOn_other sending own] at bytes tidy
      rw [List.append_nil]
      exact ⟨bytes, tidy⟩

/-- The bytes that are sent behind whole messages come from the own message of the connection. -/
theorem Sound.sendBytes (sound : link.Sound) {call : Sending} {connection count : Nat}
    (sending : link.sending = some call) (stored : link.sockets call.fd = some connection)
    (fits : count ≤ call.message.length - call.sent)
    (behind : link.current = some connection → call.connection = some connection ∧
      ∀ earlier ∈ link.calls connection, ¬ earlier.CutOff) :
    (link.sendBytes call connection count).Sound := by
  have started : (link.sendBytes call connection count).sending =
      some { call with sent := call.sent + count } := rfl
  have own_calls {key : Nat} (own : call.connection = some key) :
      (link.sendBytes call connection count).callsOn key =
        link.calls key ++ [⟨call.message, call.sent + count, none⟩] := callsOn_own started own
  have other_calls {key : Nat} (other : call.connection ≠ some key) :
      (link.sendBytes call connection count).callsOn key = link.callsOn key :=
    (callsOn_other started other).trans (callsOn_other sending other).symm
  have below {key : Nat} (own : call.connection = some key) :
      call.sent + count ≤ call.message.length := by
    have counted := sound.counted key
    rw [callsOn_own sending own] at counted
    have within := (counted _ (List.mem_append_right _ (List.mem_singleton_self _))).within
    dsimp only at within
    omega
  constructor
  · exact sound.descriptor
  · exact sound.apart
  · rintro other key same own
    cases same
    exact sound.sending call key sending own
  · intro key new
    obtain ⟨none_, written⟩ := sound.fresh key new
    refine ⟨none_, ?_⟩
    have differs : key ≠ connection := by
      rintro rfl
      exact Nat.not_lt.mpr new (sound.descriptor _ _ stored).2
    change Function.update link.written connection _ key = []
    rw [Function.update_of_ne differs, written]
  · intro key entry member
    by_cases own : call.connection = some key
    · have counted := sound.counted key
      rw [callsOn_own sending own] at counted
      rw [own_calls own] at member
      rcases List.mem_append.mp member with earlier | last
      · exact counted entry (List.mem_append_left _ earlier)
      · rw [List.mem_singleton.mp last]
        refine ⟨below own, ?_⟩
        intro succeeded
        cases succeeded
    · rw [other_calls own] at member
      exact sound.counted key entry member
  · intro key current
    obtain ⟨bytes, tidy⟩ := sound.accounted key current
    change Function.update link.written connection _ key = _ ∧ _
    by_cases same : key = connection
    · subst same
      obtain ⟨own, clean⟩ := behind current
      rw [callsOn_own sending own] at bytes tidy
      rw [own_calls own, Function.update_self, bytes]
      constructor
      · rw [List.flatMap_append, List.flatMap_append, List.append_assoc]
        congr 1
        simp only [List.flatMap_singleton, SentMessage.chunk]
        exact List.take_add.symm
      · refine List.pairwise_append.mpr
          ⟨(List.pairwise_append.mp tidy).1, List.pairwise_singleton _ _, ?_⟩
        intro earlier member later _ cut
        exact absurd cut (clean earlier member)
    · rw [Function.update_of_ne same]
      have other : call.connection ≠ some key := by
        intro own
        change link.sockets link.fdGw = some key at current
        have place := (sound.sending call key sending own).2 _ current
        rw [place, stored] at current
        exact same (Option.some.inj current).symm
      rw [other_calls other]
      exact ⟨bytes, tidy⟩

/-- A new connection has no bytes and no calls yet. -/
theorem Sound.opened (sound : link.Sound) {fd : Int} (positive : 0 ≤ fd) (gateway : Int)
    (kept : gateway = fd ∨ gateway = link.fdGw) :
    ({ link.opened fd with fdGw := gateway } : GatewayLink).Sound := by
  have sockets (key : Int) : (link.opened fd).sockets key =
      if key = fd then some link.created else link.sockets key := Function.update_apply _ _ _ _
  constructor
  · intro key connection stored
    change (link.opened fd).sockets key = _ at stored
    rw [sockets] at stored
    split_ifs at stored with same
    · cases stored
      exact ⟨same ▸ positive, Nat.lt_succ_self _⟩
    · obtain ⟨place, number⟩ := sound.descriptor key connection stored
      exact ⟨place, Nat.lt_succ_of_lt number⟩
  · intro key other connection first second
    change (link.opened fd).sockets key = _ at first
    change (link.opened fd).sockets other = _ at second
    rw [sockets] at first second
    split_ifs at first second with one two two
    · rw [one, two]
    · cases first
      exact absurd (sound.descriptor _ _ second).2 (Nat.lt_irrefl _)
    · cases second
      exact absurd (sound.descriptor _ _ first).2 (Nat.lt_irrefl _)
    · exact sound.apart key other connection first second
  · intro call connection sending own
    obtain ⟨number, place⟩ := sound.sending call connection sending own
    refine ⟨Nat.lt_succ_of_lt number, ?_⟩
    intro key stored
    change (link.opened fd).sockets key = _ at stored
    rw [sockets] at stored
    split_ifs at stored
    · cases stored
      exact absurd number (Nat.lt_irrefl _)
    · exact place key stored
  · intro connection new
    exact sound.fresh connection (Nat.le_of_succ_le new)
  · exact sound.counted
  · intro connection current
    change (link.opened fd).sockets gateway = _ at current
    rw [sockets] at current
    split_ifs at current with same
    · cases current
      obtain ⟨none_, written⟩ := sound.fresh link.created (Nat.le_refl _)
      have calls : link.callsOn link.created = [] := by
        cases sending : link.sending with
        | none => rw [callsOn_idle sending, none_]
        | some call =>
            rw [callsOn_other sending, none_]
            intro own
            exact Nat.lt_irrefl _ (sound.sending call _ sending own).1
      change link.written link.created = (link.callsOn link.created).flatMap _ ∧
        Tidy (link.callsOn link.created)
      rw [written, calls]
      exact ⟨rfl, List.Pairwise.nil⟩
    · rcases kept with rfl | rfl
      · exact absurd rfl same
      · exact sound.accounted connection current

theorem Sound.handleTcpClose (sound : link.Sound) (fd : Int) :
    (link.handleTcpClose fd).Sound := by
  have sockets (key : Int) : (link.handleTcpClose fd).sockets key =
      if key = fd then none else link.sockets key := Function.update_apply _ _ _ _
  have before {key : Int} {connection : Nat}
      (stored : (link.handleTcpClose fd).sockets key = some connection) :
      key ≠ fd ∧ link.sockets key = some connection := by
    rw [sockets] at stored
    split_ifs at stored with same
    · exact ⟨same, stored⟩
  constructor
  · intro key connection stored
    exact sound.descriptor key connection (before stored).2
  · intro key other connection first second
    exact sound.apart key other connection (before first).2 (before second).2
  · intro call connection sending own
    obtain ⟨number, place⟩ := sound.sending call connection sending own
    exact ⟨number, fun key stored => place key (before stored).2⟩
  · exact sound.fresh
  · exact sound.counted
  · intro connection current
    obtain ⟨-, stored⟩ := before current
    apply sound.accounted connection
    change link.sockets (if link.fdGw = fd then -1 else link.fdGw) = _ at stored
    split_ifs at stored with same
    · exact absurd (sound.descriptor _ _ stored).1 (by decide)
    · exact stored

theorem step_sound (event : Event) (sound : link.Sound) (behind : link.SendsBehindWhole event)
    (enabled : link.step event = some next) : next.Sound := by
  cases event with
  | sendClient message =>
      rw [step] at enabled
      cases sending : link.sending with
      | none =>
          rw [sending] at enabled
          cases enabled
          exact sound.sendClient sending message
      | some call =>
          rw [sending] at enabled
          cases enabled
  | send result =>
      obtain ⟨call, sending, sent⟩ := Option.bind_eq_some_iff.mp enabled
      cases result with
      | sent count =>
          rw [sendBuff] at sent
          cases stored : link.sockets call.fd with
          | none =>
              rw [stored] at sent
              cases sent
          | some connection =>
              rw [stored] at sent
              dsimp only at sent
              split_ifs at sent with fits all
              · cases sent
                have bytes := sound.sendBytes sending stored fits.1 (behind call connection sending
                  stored)
                apply bytes.sendReturns rfl
                intro key own _
                have within := (bytes.counted key ⟨call.message, call.sent + count, none⟩ (by
                  rw [callsOn_own rfl own]
                  exact List.mem_append_right _ (List.mem_singleton_self _))).within
                dsimp only at within ⊢
                omega
              · cases sent
                exact sound.sendBytes sending stored fits.1 (behind call connection sending stored)
      | again =>
          obtain ⟨connection, -, rfl⟩ := Option.map_eq_some_iff.mp sent
          exact sound
      | interrupted =>
          cases sent
          apply sound.sendReturns sending
          intro _ _ negative
          omega
      | failed =>
          cases sent
          apply sound.sendReturns sending
          intro _ _ negative
          omega
  | handleAccept fd =>
      rw [step] at enabled
      split_ifs at enabled with closed
      · cases enabled
        exact sound.opened closed.1 link.fdGw (Or.inr rfl)
  | handleTcpClose fd =>
      rw [step] at enabled
      split_ifs at enabled
      · cases enabled
        exact sound.handleTcpClose fd
  | connectGw fd =>
      rw [step] at enabled
      split_ifs at enabled with closed
      · cases enabled
        exact sound.opened closed.2.1 fd (Or.inl rfl)

/-- In a run that sends behind whole messages, the gateway gets whole messages. -/
theorem run_deliversWhole {history : History GatewayLink Event}
    (run : Run step SendsBehindWhole initial history link) : link.DeliversWhole := by
  have sound : link.Sound := run.invariant Sound initial_sound
    fun state event next before behind enabled => step_sound event before behind enabled
  exact sound.deliversWhole

/-- Two messages are sent in three pieces. -/
theorem run_deliversWhole_two :
    ∃ history link, Run step SendsBehindWhole initial history link ∧
      link.written 0 = [1, 2, 3] ∧ link.DeliversWhole := by
  have replayed := run_of_replay (show replay step initial
    [.connectGw 5, .sendClient [1, 2], .send (.sent 1), .send .again, .send (.sent 1),
      .sendClient [3], .send (.sent 1)] = some _ from rfl)
  have run : Run step SendsBehindWhole _ _ _ := replayed.restrict (by
    simp only [List.forall_mem_cons, SendsBehindWhole]
    refine ⟨trivial, trivial, ?_, trivial, ?_, trivial, ?_, by simp⟩
    all_goals
      intro call connection sending stored _
      cases sending
      cases stored
      refine ⟨rfl, ?_⟩
      intro earlier member
    · cases member
    · cases member
    · rw [List.mem_singleton.mp member]
      exact fun cut => absurd cut.2 (by decide))
  exact ⟨_, _, run, rfl, run_deliversWhole run⟩

/-- A signal interrupts a message behind its first byte, and the next message follows. -/
theorem run_not_deliversWhole :
    ¬ ∀ (history : History GatewayLink Event) (link : GatewayLink),
      Run step anyEvent initial history link → link.DeliversWhole := by
  intro claim
  have run := run_of_replay (show replay step initial
    [.connectGw 5, .sendClient [1, 2], .send (.sent 1), .send .interrupted, .sendClient [3, 4],
      .send (.sent 2)] = some _ from rfl)
  have whole : Whole [⟨[1, 2], 1, some (-1)⟩, ⟨[3, 4], 2, some 2⟩] [1, 3, 4] :=
    claim _ _ run 0 rfl
  simp [Whole, SentMessage.Succeeded] at whole

end GatewayLink

end AppSvr.PkServer
