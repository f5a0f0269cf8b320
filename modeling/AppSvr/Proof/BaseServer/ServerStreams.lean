/-
This file proves when the servers push exactly the packets of every connection's own bytes.
-/

import AppSvr.Proof.BaseServer.GatewaySteps
import AppSvr.Proof.BaseServer.SessionSteps

namespace AppSvr.BaseServer

open Framing TransitionSystem

/-- The pushed packets are the parse of the stream, and a refused header closed the connection. -/
def FollowsParse (maxMsgSize : UInt32) (stream : List UInt8) (packets : List (List UInt8))
    (closed : Prop) : Prop :=
  ∃ rest, (serverFormat maxMsgSize).Parses stream packets rest ∧
    ((serverFormat maxMsgSize).Malformed rest → closed)

/-- The session that carries the connection keeps the rest of its parse; a connection that does not
exist yet has no bytes. -/
structure Framed (maxMsgSize : UInt32) (stream : List UInt8) (packets : List (List UInt8))
    (carries : Session → Prop) (unborn : Prop) : Prop where
  parsed : FollowsParse maxMsgSize stream packets (∀ session, ¬ carries session)
  live : ∀ {session}, carries session →
    (serverFormat maxMsgSize).Parses stream packets session.inBuffer.unread ∧
      session.Resumes maxMsgSize
  fresh : unborn → stream = [] ∧ packets = []

namespace Framed

variable {maxMsgSize : UInt32} {stream : List UInt8} {packets : List (List UInt8)}
  {carries carries' : Session → Prop} {unborn unborn' : Prop}

/-- A step that reads nothing keeps the reader of the connection or opens the connection. -/
theorem step (framed : Framed maxMsgSize stream packets carries unborn)
    (readers : ∀ {later}, carries' later →
      (∃ session, carries session ∧ SameReader session later) ∨
        unborn ∧ later.Resumes maxMsgSize ∧ later.inBuffer.unread = [])
    (born : unborn' → unborn) : Framed maxMsgSize stream packets carries' unborn' where
  parsed := by
    obtain ⟨rest, parses, closed⟩ := framed.parsed
    refine ⟨rest, parses, ?_⟩
    intro malformed later carried
    rcases readers carried with ⟨session, before, -⟩ | ⟨new, resumes, empty⟩
    · exact closed malformed session before
    · obtain ⟨rfl, rfl⟩ := framed.fresh new
      obtain ⟨-, rfl⟩ := parses_unique parses parses_nil
      have incomplete := resumes.incomplete
      rw [empty] at incomplete
      exact incomplete_not_malformed incomplete malformed
  live := by
    intro later carried
    rcases readers carried with ⟨session, before, same⟩ | ⟨new, resumes, empty⟩
    · obtain ⟨parses, resumes⟩ := framed.live before
      rw [same.inBuffer]
      exact ⟨parses, same.resumes resumes⟩
    · obtain ⟨rfl, rfl⟩ := framed.fresh new
      rw [empty]
      exact ⟨parses_nil, resumes⟩
  fresh new := framed.fresh (born new)

/-- A call of the reader extends the stream and its packets. -/
theorem reads (framed : Framed maxMsgSize stream packets carries unborn) {session : Session}
    (carried : carries session) {first second : Recv}
    (fits : session.fits first second = true)
    (readers : ∀ {later}, carries' later →
      (session.onRecv maxMsgSize first second).closes = false ∧
        SameReader (session.onRecv maxMsgSize first second).session later)
    (exists_ : ¬ unborn') :
    Framed maxMsgSize (stream ++ (session.onRecv maxMsgSize first second).bytes)
      (packets ++ (session.onRecv maxMsgSize first second).packet.toList) carries' unborn' := by
  obtain ⟨before, resumes⟩ := framed.live carried
  have reads := Session.onRecv_reads resumes fits
  obtain ⟨rest, parses, unread, refused⟩ := reads.parses
  have whole := parses_append before parses
  refine ⟨⟨rest, whole, ?_⟩, ?_, fun new => absurd new exists_⟩
  · intro malformed later still
    have opened := (readers still).1
    rw [refused malformed] at opened
    cases opened
  · intro later still
    obtain ⟨opened, same⟩ := readers still
    rw [same.inBuffer, unread opened]
    exact ⟨whole, same.resumes (reads.resumes opened)⟩

end Framed

/-- The bytes of a call, if there was one. -/
def bytesOf (received : Option Session.Received) : List UInt8 :=
  received.elim [] Session.Received.bytes

/-- The packet of a call, if there was one. -/
def packetsOf (received : Option Session.Received) : List (List UInt8) :=
  received.elim [] fun received => received.packet.toList

namespace SSServer

variable {server next : SSServer} {maxMsgSize : UInt32} {client : Client}

/-- This is the call of the reader that the event makes for the connection. -/
def reading (maxMsgSize : UInt32) (client : Client) (server : SSServer) :
    Event → Option Session.Received
  | .onRecv fd first second =>
      if server.owner fd = some client then
        (server.findSession fd).map fun session =>
          (server.sessions session).onRecv maxMsgSize first second
      else none
  | _ => none

/-- The session is busy with the connection. -/
def Carries (server : SSServer) (client : Client) (session : Session) : Prop :=
  ∃ fd ptr, server.owner fd = some client ∧ server.findSession fd = some ptr ∧
    server.sessions ptr = session

/-- A connection is accepted into a session whose packet length is zero, and the poll table has a
slot for it. -/
def StartsClean (server : SSServer) : Event → Prop
  | .accept (some _) =>
      server.busySessions.size + 1 < maxSession ∧
        (server.sessions server.newSession).packetLength = 0
  | _ => True

/-- These are the bytes that a history received on the connection. -/
def receivedBytes (maxMsgSize : UInt32) (client : Client) (history : History SSServer Event) :
    List UInt8 :=
  history.flatMap fun entry => bytesOf (entry.1.reading maxMsgSize client entry.2)

/-- These are the packets that a history pushed for the connection. -/
def pushedPackets (maxMsgSize : UInt32) (client : Client) (history : History SSServer Event) :
    List (List UInt8) :=
  history.flatMap fun entry => packetsOf (entry.1.reading maxMsgSize client entry.2)

/-- The server's side of the connection. -/
abbrev FramedAt (maxMsgSize : UInt32) (client : Client) (stream : List UInt8)
    (packets : List (List UInt8)) (server : SSServer) : Prop :=
  Framed maxMsgSize stream packets (server.Carries client) (server.accepted ≤ client)

variable {stream : List UInt8} {packets : List (List UInt8)}

theorem FramedAt.accept (framed : FramedAt maxMsgSize client stream packets server)
    (well : server.WellFormed) (header : packetHeaderLength ≤ maxMsgSize.toNat)
    {fd : Option Int}
    (clean : fd.isSome = true → (server.sessions server.newSession).packetLength = 0) :
    FramedAt maxMsgSize client stream packets (server.accept maxMsgSize fd) := by
  rcases server.accept_cases maxMsgSize fd with refuses | ⟨new, rfl, -, accepts⟩
  · have owner : (server.accept maxMsgSize fd).owner = server.owner := by rw [refuses.rest]
    have accepted : (server.accept maxMsgSize fd).accepted = server.accepted := by
      rw [refuses.rest]
    have found : (server.accept maxMsgSize fd).findSession = server.findSession := by
      rw [refuses.rest]
      rfl
    apply framed.step
    · rintro later ⟨key, ptr, owned, present, rfl⟩
      rw [owner] at owned
      rw [found] at present
      refine .inl ⟨_, ⟨key, ptr, owned, present, rfl⟩, ?_⟩
      rw [refuses.others]
      exact ⟨rfl, rfl⟩
    · rw [accepted]
      exact id
  · apply framed.step
    · rintro later ⟨key, ptr, owned, present, rfl⟩
      rcases accepts.owner_cases owned with ⟨same, rfl⟩ | ⟨different, owned⟩
      · rw [accepts.findSession, if_pos same.symm] at present
        obtain rfl := Option.some.inj present
        refine .inr ⟨le_refl _, ?_, ?_⟩
        · rw [accepts.sessions, Function.update_self]
          exact .fresh rfl rfl (clean rfl) header (le_refl _)
        · rw [accepts.sessions, Function.update_self]
          rfl
      · rw [accepts.findSession, if_neg different.symm] at present
        refine .inl ⟨_, ⟨key, ptr, owned, present, rfl⟩, ?_⟩
        rw [accepts.sessions, Function.update_of_ne (well.busy present).1]
        exact .refl _
    · rw [accepts.accepted]
      exact Nat.le_of_succ_le

theorem FramedAt.closes (framed : FramedAt maxMsgSize client stream packets server)
    (well : server.WellFormed) {fd : Int} {session : SessionPtr}
    (found : server.findSession fd = some session) (closes : Closes server session next) :
    FramedAt maxMsgSize client stream packets next := by
  have handle := well.handle found
  apply framed.step
  · rintro later ⟨key, ptr, owned, present, rfl⟩
    obtain ⟨different, owned⟩ := closes.owner_before handle owned
    obtain ⟨-, present⟩ := closes.found_before handle present
    have other : ptr ≠ session := by
      rintro rfl
      exact different (well.fd_unique present found)
    refine .inl ⟨_, ⟨key, ptr, owned, present, rfl⟩, ?_⟩
    rw [closes.others ptr other]
    exact ⟨rfl, rfl⟩
  · rw [closes.accepted]
    exact id

/-- Reading on one connection leaves the sessions of the others alone. -/
theorem FramedAt.onRecv_other (framed : FramedAt maxMsgSize client stream packets server)
    (well : server.WellFormed) {fd : Int} {session : SessionPtr}
    (found : server.findSession fd = some session) (foreign : server.owner fd ≠ some client)
    (first second : Recv) :
    FramedAt maxMsgSize client stream packets
      (server.onRecv maxMsgSize session first second).2 := by
  have after : FramedAt maxMsgSize client stream packets
      (server.afterRecv session
        ((server.sessions session).onRecv maxMsgSize first second)) := by
    apply framed.step _ id
    rintro later ⟨key, ptr, owned, present, rfl⟩
    have other : ptr ≠ session := by
      rintro rfl
      have same := well.fd_unique present found
      exact foreign (same ▸ owned)
    refine .inl ⟨_, ⟨key, ptr, owned, present, rfl⟩, ?_⟩
    show SameReader _ (Function.update server.sessions session _ ptr)
    rw [Function.update_of_ne other]
    exact .refl _
  rcases server.onRecv_cases maxMsgSize session first second with ⟨-, same⟩ | ⟨-, same⟩
  · rw [same]
    exact after.closes (well.afterRecv maxMsgSize session first second) found
      (closeSession_closes _ _)
  · rw [same]
    exact after

/-- Reading on the connection extends its stream. -/
theorem FramedAt.onRecv_own (framed : FramedAt maxMsgSize client stream packets server)
    (well : server.WellFormed) {fd : Int} {session : SessionPtr}
    (found : server.findSession fd = some session) (own : server.owner fd = some client)
    {first second : Recv} (fits : (server.sessions session).fits first second = true) :
    FramedAt maxMsgSize client
      (stream ++ ((server.sessions session).onRecv maxMsgSize first second).bytes)
      (packets ++ ((server.sessions session).onRecv maxMsgSize first second).packet.toList)
      (server.onRecv maxMsgSize session first second).2 := by
  apply framed.reads ⟨fd, session, own, found, rfl⟩ fits
  · rintro later ⟨key, ptr, owned, present, rfl⟩
    rcases server.onRecv_cases maxMsgSize session first second with
      ⟨-, same⟩ | ⟨opened, same⟩
    · -- The connection of a closed session is on no descriptor.
      rw [same] at owned
      have kept := (well.afterRecv maxMsgSize session first second).handle found
      obtain ⟨different, owned⟩ := (closeSession_closes _ _).owner_before kept owned
      exact absurd (well.unique owned own) different
    · rw [same] at owned present ⊢
      obtain rfl := well.unique owned own
      obtain rfl := Option.some.inj (found.symm.trans present)
      refine ⟨opened, ?_⟩
      show SameReader _ (Function.update server.sessions session _ session)
      rw [Function.update_self]
      exact .refl _
  · rw [onRecv_accepted]
    exact Nat.not_le_of_lt (well.before own)

/-- One event keeps every connection framed. -/
theorem step_framed {event : Event} (framed : FramedAt maxMsgSize client stream packets server)
    (well : server.WellFormed) (header : packetHeaderLength ≤ maxMsgSize.toNat)
    (clean : server.StartsClean event) (enabled : server.step maxMsgSize event = some next) :
    next.WellFormed ∧
      FramedAt maxMsgSize client (stream ++ bytesOf (server.reading maxMsgSize client event))
        (packets ++ packetsOf (server.reading maxMsgSize client event)) next := by
  cases event with
  | accept fd =>
      rw [step] at enabled
      split at enabled
      · cases enabled
        simp only [reading, bytesOf, packetsOf, Option.elim_none, List.append_nil]
        refine ⟨well.accept maxMsgSize fd, framed.accept well header ?_⟩
        intro accepts
        cases fd with
        | none => cases accepts
        | some fd => exact clean.2
      · cases enabled
  | onRecv fd first second =>
      obtain ⟨session, found, reads⟩ := Option.bind_eq_some_iff.mp enabled
      split at reads
      · next fits =>
          cases reads
          refine ⟨well.onRecv maxMsgSize found first second, ?_⟩
          by_cases own : server.owner fd = some client
          · simp only [reading, if_pos own, found, Option.map_some, bytesOf, packetsOf,
              Option.elim_some]
            exact framed.onRecv_own well found own fits
          · simp only [reading, if_neg own, bytesOf, packetsOf, Option.elim_none,
              List.append_nil]
            exact framed.onRecv_other well found own first second
      · cases reads
  | closeSession fd =>
      obtain ⟨session, found, rfl⟩ := Option.map_eq_some_iff.mp enabled
      simp only [reading, bytesOf, packetsOf, Option.elim_none, List.append_nil]
      have closes := closeSession_closes server session
      exact ⟨well.closes found closes, framed.closes well found closes⟩
  | popPacket worker =>
      rw [step] at enabled
      split at enabled
      · cases enabled
        simp only [reading, bytesOf, packetsOf, Option.elim_none, List.append_nil]
        exact ⟨well.congr (fun _ => rfl) rfl, framed⟩
      · cases enabled
  | send worker =>
      obtain ⟨request, -, rfl⟩ := Option.map_eq_some_iff.mp enabled
      simp only [reading, bytesOf, packetsOf, Option.elim_none, List.append_nil]
      exact ⟨well, framed⟩
  | finish worker =>
      obtain ⟨request, -, rfl⟩ := Option.map_eq_some_iff.mp enabled
      simp only [reading, bytesOf, packetsOf, Option.elim_none, List.append_nil]
      exact ⟨well.congr (fun _ => rfl) rfl, framed⟩

/-- In every run of clean starts every connection is framed. -/
theorem run_framed {history : History SSServer Event}
    (header : packetHeaderLength ≤ maxMsgSize.toNat)
    (run : Run (step maxMsgSize) StartsClean initial history server) (client : Client) :
    FramedAt maxMsgSize client (receivedBytes maxMsgSize client history)
      (pushedPackets maxMsgSize client history) server := by
  have invariant : server.WellFormed ∧
      FramedAt maxMsgSize client (receivedBytes maxMsgSize client history)
        (pushedPackets maxMsgSize client history) server := by
    apply run.historyInvariant fun history state => state.WellFormed ∧
      FramedAt maxMsgSize client (receivedBytes maxMsgSize client history)
        (pushedPackets maxMsgSize client history) state
    · refine ⟨.initial, ⟨[], parses_nil, ?_⟩, ?_, fun _ => ⟨rfl, rfl⟩⟩
      · rintro - session ⟨fd, ptr, owned, -, -⟩
        cases owned
      · rintro session ⟨fd, ptr, owned, -, -⟩
        cases owned
    · intro history state event next before clean enabled
      have stepped := step_framed before.2 before.1 header clean enabled
      unfold receivedBytes pushedPackets at stepped ⊢
      rwa [List.flatMap_append, List.flatMap_append, List.flatMap_singleton,
        List.flatMap_singleton]
  exact invariant.2

end SSServer

namespace GWProxy

variable {proxy next : GWProxy} {maxMsgSize bufferSize : UInt32} {client : Client}
  {gateway : Nat} {opened : Opened}

/-- This is the call of the reader that the event makes for the connection. -/
def reading (maxMsgSize : UInt32) (client : Client) (proxy : GWProxy) :
    Event → Option Session.Received
  | .onRecv slot first second _ =>
      (proxy.polled slot).bind fun gateway =>
        if proxy.peer gateway = some client then
          some ((proxy.gateways gateway).onRecv maxMsgSize first second)
        else none
  | _ => none

/-- A gateway holds the connection. -/
def Carries (proxy : GWProxy) (client : Client) (session : Session) : Prop :=
  ∃ gateway, gateway < proxy.count ∧ proxy.peer gateway = some client ∧
    proxy.gateways gateway = session

/-- A gateway connects with a packet length of zero. -/
def StartsClean (proxy : GWProxy) : Event → Prop
  | .connect gateway => (proxy.gateways gateway).packetLength = 0
  | _ => True

/-- These are the bytes that a history received on the connection. -/
def receivedBytes (maxMsgSize : UInt32) (client : Client) (history : History GWProxy Event) :
    List UInt8 :=
  history.flatMap fun entry => bytesOf (entry.1.reading maxMsgSize client entry.2)

/-- These are the packets that a history pushed for the connection. -/
def pushedPackets (maxMsgSize : UInt32) (client : Client) (history : History GWProxy Event) :
    List (List UInt8) :=
  history.flatMap fun entry => packetsOf (entry.1.reading maxMsgSize client entry.2)

/-- The proxy's side of the connection. -/
abbrev FramedAt (maxMsgSize : UInt32) (client : Client) (stream : List UInt8)
    (packets : List (List UInt8)) (proxy : GWProxy) : Prop :=
  Framed maxMsgSize stream packets (proxy.Carries client) (proxy.connections ≤ client)

variable {stream : List UInt8} {packets : List (List UInt8)}

theorem FramedAt.connect (framed : FramedAt maxMsgSize client stream packets proxy)
    (sound : proxy.Sound bufferSize) (header : packetHeaderLength ≤ bufferSize.toNat)
    (room : maxMsgSize.toNat ≤ bufferSize.toNat) (inside : gateway < proxy.count)
    (unconnected : proxy.sockets (proxy.gateways gateway).handle = some none)
    (clean : (proxy.gateways gateway).packetLength = 0) :
    FramedAt maxMsgSize client stream packets (proxy.connect gateway) := by
  apply framed.step
  · rintro later ⟨other, within, carried, rfl⟩
    obtain ⟨handle, reader⟩ := proxy.connect_gateways gateway other
    rw [peer, handle, connect_sockets] at carried
    by_cases new : other = gateway
    · subst new
      rw [if_pos rfl] at carried
      obtain rfl := Option.some.inj carried
      have lonely : proxy.peer other = none := by
        rw [peer, unconnected]
        rfl
      obtain ⟨empty, start⟩ := sound.idle inside lonely
      have size := sound.size inside
      refine .inr ⟨le_refl _, reader.resumes (.fresh start empty clean ?_ ?_), ?_⟩
      · rw [size]
        exact header
      · rw [size]
        exact room
      · rw [reader.inBuffer]
        exact empty
    · have apart : (proxy.gateways other).handle ≠ (proxy.gateways gateway).handle := by
        intro same
        apply new
        apply sound.distinct within inside same
        rw [same, unconnected]
        simp
      rw [if_neg apart] at carried
      exact .inl ⟨_, ⟨other, within, carried, rfl⟩, reader⟩
  · exact Nat.le_of_succ_le

theorem FramedAt.closes (framed : FramedAt maxMsgSize client stream packets proxy)
    (sound : proxy.Sound bufferSize) (inside : gateway < proxy.count)
    (fresh : proxy.opens gateway opened = true) (closes : Closes proxy gateway opened next) :
    FramedAt maxMsgSize client stream packets next := by
  apply framed.step
  · rintro later ⟨other, within, carried, rfl⟩
    rw [closes.count] at within
    by_cases closed : other = gateway
    · subst closed
      rw [(sound.closes_self closes).1] at carried
      cases carried
    · have kept := sound.closes_others inside fresh closes within closed
      rw [peer, kept.2.2] at carried
      obtain ⟨eventIndex, same⟩ := closes.others other closed
      refine .inl ⟨_, ⟨other, within, carried, rfl⟩, ?_⟩
      rw [same]
      exact ⟨rfl, rfl⟩
  · rw [closes.connections]
    exact id

/-- The peers are those of the descriptors, which reading keeps. -/
theorem afterRecv_peer (maxMsgSize : UInt32) (proxy : GWProxy) (gateway other : Nat)
    (first second : Recv) :
    (proxy.afterRecv gateway
      ((proxy.gateways gateway).onRecv maxMsgSize first second)).peer other =
        proxy.peer other := by
  rw [peer, afterRecv_handle]
  rfl

/-- Reading on one connection leaves the other gateways alone. -/
theorem FramedAt.onRecv_other (framed : FramedAt maxMsgSize client stream packets proxy)
    (sound : proxy.Sound bufferSize) (inside : gateway < proxy.count)
    (foreign : proxy.peer gateway ≠ some client) {first second : Recv}
    (delivers : proxy.delivers gateway first = true)
    (fresh : proxy.opens gateway opened = true) :
    FramedAt maxMsgSize client stream packets
      (proxy.onRecv maxMsgSize gateway first second opened).2 := by
  have after : FramedAt maxMsgSize client stream packets
      (proxy.afterRecv gateway
        ((proxy.gateways gateway).onRecv maxMsgSize first second)) := by
    apply framed.step _ id
    rintro later ⟨other, within, carried, rfl⟩
    rw [afterRecv_peer] at carried
    have apart : other ≠ gateway := by
      rintro rfl
      exact foreign carried
    refine .inl ⟨_, ⟨other, within, carried, rfl⟩, ?_⟩
    show SameReader _ (Function.update proxy.gateways gateway _ other)
    rw [Function.update_of_ne apart]
    exact .refl _
  rcases proxy.onRecv_cases maxMsgSize gateway first second opened with ⟨-, same⟩ | ⟨-, same⟩
  · rw [same]
    exact after.closes (sound.afterRecv maxMsgSize gateway second delivers) inside
      ((afterRecv_opens ..).trans fresh) (closeSession_closes _ _ _)
  · rw [same]
    exact after

/-- Reading on the connection extends its stream. -/
theorem FramedAt.onRecv_own (framed : FramedAt maxMsgSize client stream packets proxy)
    (sound : proxy.Sound bufferSize) (inside : gateway < proxy.count)
    (own : proxy.peer gateway = some client) {first second : Recv}
    (fits : (proxy.gateways gateway).fits first second = true)
    (delivers : proxy.delivers gateway first = true)
    (fresh : proxy.opens gateway opened = true) :
    FramedAt maxMsgSize client
      (stream ++ ((proxy.gateways gateway).onRecv maxMsgSize first second).bytes)
      (packets ++ ((proxy.gateways gateway).onRecv maxMsgSize first second).packet.toList)
      (proxy.onRecv maxMsgSize gateway first second opened).2 := by
  have after := sound.afterRecv maxMsgSize gateway second delivers
  have unique : ∀ {other}, other < proxy.count → proxy.peer other = some client →
      other = gateway := by
    intro other within carried
    rw [peer_some] at own carried
    apply sound.distinct within inside (sound.unique carried own)
    rw [carried]
    simp
  apply framed.reads ⟨gateway, inside, own, rfl⟩ fits
  · rintro later ⟨other, within, again, rfl⟩
    rcases proxy.onRecv_cases maxMsgSize gateway first second opened with
      ⟨-, same⟩ | ⟨kept, same⟩
    · -- The closed gateway has no connection, and the others keep theirs.
      rw [same] at within again
      have closed := closeSession_closes (proxy.afterRecv gateway
        ((proxy.gateways gateway).onRecv maxMsgSize first second)) gateway opened
      rw [closed.count] at within
      by_cases own : other = gateway
      · rw [own, (after.closes_self closed).1] at again
        cases again
      · have others := after.closes_others inside ((afterRecv_opens ..).trans fresh) closed
          within own
        rw [peer, others.2.2] at again
        have before : proxy.peer other = some client := by
          rw [← afterRecv_peer maxMsgSize proxy gateway other first second]
          exact again
        exact absurd (unique within before) own
    · rw [same] at within again ⊢
      rw [afterRecv_peer] at again
      obtain rfl := unique within again
      refine ⟨kept, ?_⟩
      show SameReader _ (Function.update proxy.gateways other _ other)
      rw [Function.update_self]
      exact .refl _
  · rw [onRecv_connections]
    exact Nat.not_le_of_lt (sound.before (peer_some.mp own))

/-- One event keeps every connection framed. -/
theorem step_framed {event : Event} (framed : FramedAt maxMsgSize client stream packets proxy)
    (sound : proxy.Sound bufferSize) (header : packetHeaderLength ≤ bufferSize.toNat)
    (room : maxMsgSize.toNat ≤ bufferSize.toNat) (clean : proxy.StartsClean event)
    (enabled : proxy.step maxMsgSize event = some next) :
    next.Sound bufferSize ∧
      FramedAt maxMsgSize client (stream ++ bytesOf (proxy.reading maxMsgSize client event))
        (packets ++ packetsOf (proxy.reading maxMsgSize client event)) next := by
  have inside : ∀ {slot gateway}, proxy.polled slot = some gateway → gateway < proxy.count := by
    intro slot gateway found
    unfold polled at found
    split at found
    · exact (findSession_some found).1
    · cases found
  cases event with
  | connect gateway =>
      rw [step] at enabled
      split at enabled
      · next admitted =>
          cases enabled
          simp only [reading, bytesOf, packetsOf, Option.elim_none, List.append_nil]
          exact ⟨sound.connect admitted.2.2,
            framed.connect sound header room admitted.1 admitted.2.2 clean⟩
      · cases enabled
  | onRecv slot first second opened =>
      obtain ⟨gateway, found, reads⟩ := Option.bind_eq_some_iff.mp enabled
      split at reads
      · next admitted =>
          cases reads
          obtain ⟨both, fresh⟩ := Bool.and_eq_true_iff.mp admitted
          obtain ⟨fits, delivers⟩ := Bool.and_eq_true_iff.mp both
          refine ⟨sound.onRecv maxMsgSize (inside found) second delivers fresh, ?_⟩
          by_cases own : proxy.peer gateway = some client
          · simp only [reading, found, Option.bind_some, if_pos own, bytesOf, packetsOf,
              Option.elim_some]
            exact framed.onRecv_own sound (inside found) own fits delivers fresh
          · simp only [reading, found, Option.bind_some, if_neg own, bytesOf, packetsOf,
              Option.elim_none, List.append_nil]
            exact framed.onRecv_other sound (inside found) own delivers fresh
      · cases reads
  | closeSession slot opened =>
      obtain ⟨gateway, found, closed⟩ := Option.bind_eq_some_iff.mp enabled
      split at closed
      · next fresh =>
          cases closed
          simp only [reading, bytesOf, packetsOf, Option.elim_none, List.append_nil]
          have closes := closeSession_closes proxy gateway opened
          exact ⟨sound.closes (inside found) fresh closes,
            framed.closes sound (inside found) fresh closes⟩
      · cases closed
  | popPacket =>
      rw [step] at enabled
      split at enabled
      · cases enabled
        simp only [reading, bytesOf, packetsOf, Option.elim_none, List.append_nil]
        exact ⟨sound.congr rfl id, framed⟩
      · cases enabled
  | stop =>
      cases enabled
      simp only [reading, bytesOf, packetsOf, Option.elim_none, List.append_nil]
      exact ⟨sound.congr rfl (fun running => by cases running), framed⟩

/-- In every run of clean starts every connection is framed. -/
theorem run_framed (conf : ProxyConf) {history : History GWProxy Event}
    (header : packetHeaderLength ≤ conf.bufferSize.toNat)
    (room : conf.maxMsgSize.toNat ≤ conf.bufferSize.toNat)
    (run : Run (step conf.maxMsgSize) StartsClean (initial conf) history proxy)
    (client : Client) :
    FramedAt conf.maxMsgSize client (receivedBytes conf.maxMsgSize client history)
      (pushedPackets conf.maxMsgSize client history) proxy := by
  have invariant : proxy.Sound conf.bufferSize ∧
      FramedAt conf.maxMsgSize client (receivedBytes conf.maxMsgSize client history)
        (pushedPackets conf.maxMsgSize client history) proxy := by
    have alone : ∀ gateway, (initial conf).peer gateway = none := by
      intro gateway
      simp only [peer, initial]
      split <;> rfl
    apply run.historyInvariant fun history state => state.Sound conf.bufferSize ∧
      FramedAt conf.maxMsgSize client (receivedBytes conf.maxMsgSize client history)
        (pushedPackets conf.maxMsgSize client history) state
    · refine ⟨.initial conf, ⟨[], parses_nil, ?_⟩, ?_, fun _ => ⟨rfl, rfl⟩⟩
      · rintro - session ⟨gateway, -, carried, -⟩
        rw [alone] at carried
        cases carried
      · rintro session ⟨gateway, -, carried, -⟩
        rw [alone] at carried
        cases carried
    · intro history state event next before clean enabled
      have stepped := step_framed before.2 before.1 header room clean enabled
      unfold receivedBytes pushedPackets at stepped ⊢
      rwa [List.flatMap_append, List.flatMap_append, List.flatMap_singleton,
        List.flatMap_singleton]
  exact invariant.2

end GWProxy

/-- The proxy of one gateway. -/
def oneGateway : ProxyConf where
  bufferSize := 100
  maxMsgSize := 100
  handles := [5]
  distinct := by decide
  natural := by decide

end AppSvr.BaseServer
