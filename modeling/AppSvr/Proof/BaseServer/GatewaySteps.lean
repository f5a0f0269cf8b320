/-
This file states once what connecting, reading and closing do to the gateways of the proxy.
-/

import AppSvr.Construction.BaseServer.GWProxy
import AppSvr.Proof.BaseServer.PacketReader
import Mathlib.Data.List.GetD
import Mathlib.Data.List.Nodup

namespace AppSvr.BaseServer

namespace GWProxy

variable {proxy next : GWProxy} {gateway : Nat} {opened : Opened}

/-- The place found under a descriptor has that descriptor. -/
theorem findSession_some {fd : Int} (found : proxy.findSession fd = some gateway) :
    gateway < proxy.count ∧ (proxy.gateways gateway).handle = fd := by
  have holds := List.find?_some found
  have member := List.mem_of_find?_eq_some found
  exact ⟨List.mem_range.mp member, by simpa using holds⟩

/-- The last slot has moved into the slot of the closed gateway. -/
structure Closes (proxy : GWProxy) (gateway : Nat) (opened : Opened) (next : GWProxy) : Prop where
  count : next.count = proxy.count
  connections : next.connections = proxy.connections
  closed : ∃ handle eventIndex, next.gateways gateway =
    { (proxy.gateways gateway).shutdown with handle, eventIndex }
  others : ∀ other, other ≠ gateway → ∃ eventIndex,
    next.gateways other = { proxy.gateways other with eventIndex }
  sockets : next.stoped = true ∧
        (next.gateways gateway).handle = (proxy.gateways gateway).handle ∧
        next.sockets =
          Function.update proxy.sockets (proxy.gateways gateway).handle none ∨
    proxy.stoped = false ∧ (next.gateways gateway).handle = opened.socket ∧
      next.sockets =
        if opened.socket < 0 then
          Function.update proxy.sockets (proxy.gateways gateway).handle none
        else
          Function.update (Function.update proxy.sockets (proxy.gateways gateway).handle none)
            opened.socket (some none)

/-- The slot of the closed gateway is vacated. -/
structure Vacates (proxy : GWProxy) (next : GWProxy) : Prop where
  count : next.count = proxy.count
  connections : next.connections = proxy.connections
  sockets : next.sockets = proxy.sockets
  stoped : proxy.stoped = true → next.stoped = true
  gateways : ∀ other, ∃ eventIndex,
    next.gateways other = { proxy.gateways other with eventIndex }

/-- The gateway has given up its socket and its bytes. -/
def released (proxy : GWProxy) (gateway : Nat) : GWProxy :=
  { proxy with
    gateways := Function.update proxy.gateways gateway (proxy.gateways gateway).shutdown
    sockets := Function.update proxy.sockets (proxy.gateways gateway).handle none
    pollsize := proxy.pollsize - 1 }

/-- The last gateway of the poll table takes a slot. -/
def vacate (proxy : GWProxy) (slot : Nat) : GWProxy :=
  if slot < proxy.pollsize then
    let fd := proxy.pfds proxy.pollsize
    let proxy := { proxy with pfds := Function.update proxy.pfds slot fd }
    match proxy.findSession fd with
    | none => { proxy with stoped := true }
    | some s =>
        { proxy with
          gateways := Function.update proxy.gateways s
            { proxy.gateways s with eventIndex := slot } }
  else proxy

theorem closeSession_eq (proxy : GWProxy) (gateway : Nat) (opened : Opened) :
    proxy.closeSession gateway opened =
      let moved := (proxy.released gateway).vacate (proxy.gateways gateway).eventIndex
      if moved.stoped then moved else moved.reopen gateway opened := rfl

theorem vacate_vacates (proxy : GWProxy) (slot : Nat) : Vacates proxy (proxy.vacate slot) := by
  unfold vacate
  split
  · dsimp only
    split
    · exact ⟨rfl, rfl, rfl, fun _ => rfl, fun other => ⟨_, rfl⟩⟩
    · next s found =>
        refine ⟨rfl, rfl, rfl, id, fun other => ?_⟩
        by_cases same : other = s
        · subst same
          exact ⟨slot, Function.update_self ..⟩
        · exact ⟨_, Function.update_of_ne same ..⟩
  · exact ⟨rfl, rfl, rfl, id, fun other => ⟨_, rfl⟩⟩

theorem closeSession_closes (proxy : GWProxy) (gateway : Nat) (opened : Opened) :
    Closes proxy gateway opened (proxy.closeSession gateway opened) := by
  have vacates := vacate_vacates (proxy.released gateway) (proxy.gateways gateway).eventIndex
  rw [closeSession_eq]
  generalize (proxy.released gateway).vacate (proxy.gateways gateway).eventIndex = moved at *
  obtain ⟨slot, self⟩ := vacates.gateways gateway
  have shut : (proxy.released gateway).gateways gateway = (proxy.gateways gateway).shutdown :=
    Function.update_self ..
  rw [shut] at self
  have others : ∀ other, other ≠ gateway → ∃ eventIndex,
      moved.gateways other = { proxy.gateways other with eventIndex } := by
    intro other different
    obtain ⟨eventIndex, same⟩ := vacates.gateways other
    have kept : (proxy.released gateway).gateways other = proxy.gateways other :=
      Function.update_of_ne different ..
    rw [kept] at same
    exact ⟨eventIndex, same⟩
  dsimp only
  by_cases stopped : moved.stoped = true
  · rw [if_pos stopped]
    refine ⟨vacates.count, vacates.connections, ⟨_, slot, self⟩, others, .inl ⟨stopped, ?_, ?_⟩⟩
    · rw [self]
      rfl
    · exact vacates.sockets
  · rw [if_neg stopped]
    have running : proxy.stoped = false := by
      cases before : proxy.stoped with
      | false => rfl
      | true => exact absurd (vacates.stoped before) stopped
    have reopened : (moved.reopen gateway opened).gateways gateway =
        { moved.gateways gateway with handle := opened.socket } := Function.update_self ..
    refine ⟨vacates.count, vacates.connections, ⟨opened.socket, slot, ?_⟩, ?_,
      .inr ⟨running, ?_, ?_⟩⟩
    · rw [reopened, self]
    · intro other different
      obtain ⟨eventIndex, same⟩ := others other different
      exact ⟨eventIndex, (Function.update_of_ne different ..).trans same⟩
    · rw [reopened]
    · show (if opened.socket < 0 then moved.sockets
        else Function.update moved.sockets opened.socket (some none)) = _
      rw [vacates.sockets]
      rfl

/-- The gateway has read before a close. -/
def afterRecv (proxy : GWProxy) (gateway : Nat) (received : Session.Received) : GWProxy :=
  { proxy with
    gateways := Function.update proxy.gateways gateway received.session
    packets := proxy.packets ++ received.packet.toList.map fun packet => (gateway, packet) }

variable (maxMsgSize : UInt32)

theorem onRecv_eq (proxy : GWProxy) (gateway : Nat) (first second : Recv)
    (opened : Opened) :
    proxy.onRecv maxMsgSize gateway first second opened =
      let received := (proxy.gateways gateway).onRecv maxMsgSize first second
      if received.closes then (-1, (proxy.afterRecv gateway received).closeSession gateway opened)
      else (0, proxy.afterRecv gateway received) := rfl

/-- One call of `OnRecv` reads, and closes the gateway when the reader asks for it. -/
theorem onRecv_cases (proxy : GWProxy) (gateway : Nat)
    (first second : Recv) (opened : Opened) :
    let received := (proxy.gateways gateway).onRecv maxMsgSize first second
    received.closes = true ∧ (proxy.onRecv maxMsgSize gateway first second opened).2 =
        (proxy.afterRecv gateway received).closeSession gateway opened ∨
      received.closes = false ∧ (proxy.onRecv maxMsgSize gateway first second opened).2 =
        proxy.afterRecv gateway received := by
  rw [onRecv_eq]
  dsimp only
  split
  · next closes => exact .inl ⟨closes, rfl⟩
  · next kept => exact .inr ⟨by simpa using kept, rfl⟩

/-- Reading makes no connection. -/
theorem onRecv_connections (proxy : GWProxy) (gateway : Nat)
    (first second : Recv) (opened : Opened) :
    (proxy.onRecv maxMsgSize gateway first second opened).2.connections = proxy.connections := by
  rcases proxy.onRecv_cases maxMsgSize gateway first second opened with ⟨-, same⟩ | ⟨-, same⟩
  · rw [same]
    exact (closeSession_closes _ _ _).connections
  · rw [same]
    rfl

/-- Reading keeps the descriptors. -/
theorem afterRecv_handle (proxy : GWProxy) (gateway other : Nat)
    (first second : Recv) :
    ((proxy.afterRecv gateway
      ((proxy.gateways gateway).onRecv maxMsgSize first second)).gateways other).handle =
        (proxy.gateways other).handle := by
  simp only [afterRecv, Function.update_apply]
  split
  · next same => rw [Session.onRecv_session, same]
  · rfl

theorem afterRecv_opens (proxy : GWProxy) (gateway : Nat)
    (first second : Recv) (opened : Opened) :
    (proxy.afterRecv gateway
      ((proxy.gateways gateway).onRecv maxMsgSize first second)).opens gateway opened =
        proxy.opens gateway opened := by
  rw [opens, afterRecv_handle]
  rfl

theorem connect_sockets (proxy : GWProxy) (gateway : Nat) (fd : Int) :
    (proxy.connect gateway).sockets fd =
      if fd = (proxy.gateways gateway).handle then some (some proxy.connections)
      else proxy.sockets fd := by
  simp only [connect, Function.update_apply]

/-- Connecting keeps the descriptors and the readers. -/
theorem connect_gateways (proxy : GWProxy) (gateway other : Nat) :
    ((proxy.connect gateway).gateways other).handle = (proxy.gateways other).handle ∧
      SameReader (proxy.gateways other) ((proxy.connect gateway).gateways other) := by
  simp only [connect, Function.update_apply]
  split
  · next same =>
      subst same
      exact ⟨rfl, rfl, rfl⟩
  · exact ⟨rfl, .refl _⟩

/-- Every open socket belongs to one gateway and every connection to one socket; a gateway without a
connection has an empty buffer. -/
structure Sound (bufferSize : UInt32) (proxy : GWProxy) : Prop where
  distinct : ∀ {first second}, first < proxy.count → second < proxy.count →
    (proxy.gateways first).handle = (proxy.gateways second).handle →
      proxy.sockets (proxy.gateways first).handle ≠ none → first = second
  opened : proxy.stoped = false → ∀ {gateway}, gateway < proxy.count →
    (proxy.gateways gateway).handle < 0 ∨ proxy.sockets (proxy.gateways gateway).handle ≠ none
  natural : ∀ {fd}, proxy.sockets fd ≠ none → 0 ≤ fd
  before : ∀ {fd client}, proxy.sockets fd = some (some client) → client < proxy.connections
  unique : ∀ {fd other client}, proxy.sockets fd = some (some client) →
    proxy.sockets other = some (some client) → fd = other
  idle : ∀ {gateway}, gateway < proxy.count → proxy.peer gateway = none →
    (proxy.gateways gateway).inBuffer.unread = [] ∧
      (proxy.gateways gateway).inBuffer.consumed = []
  size : ∀ {gateway}, gateway < proxy.count →
    (proxy.gateways gateway).inBuffer.size = bufferSize

variable {bufferSize : UInt32}

theorem peer_some {client : Client} :
    proxy.peer gateway = some client ↔
      proxy.sockets (proxy.gateways gateway).handle = some (some client) := by
  rw [peer]
  exact Option.join_eq_some_iff

namespace Sound

theorem initial_handle (conf : ProxyConf) (inside : gateway < conf.handles.length) :
    ((GWProxy.initial conf).gateways gateway).handle = conf.handles[gateway] :=
  List.getD_eq_getElem _ _ inside

theorem initial (conf : ProxyConf) : (GWProxy.initial conf).Sound conf.bufferSize where
  distinct := by
    intro first second inside within same _
    rw [initial_handle conf inside, initial_handle conf within] at same
    exact (conf.distinct.getElem_inj_iff).mp same
  opened := by
    intro _ gateway inside
    right
    rw [initial_handle conf inside]
    show (if conf.handles[gateway] ∈ conf.handles then some none else none) ≠ none
    rw [if_pos (List.getElem_mem inside)]
    simp
  natural := by
    intro fd present
    by_cases member : fd ∈ conf.handles
    · exact conf.natural fd member
    · exact absurd (if_neg member) present
  before := by
    intro fd client present
    simp [GWProxy.initial] at present
  unique := by
    intro fd other client present
    simp [GWProxy.initial] at present
  idle := fun _ _ => ⟨rfl, rfl⟩
  size := fun _ => rfl

theorem connect (sound : proxy.Sound bufferSize)
    (unconnected : proxy.sockets (proxy.gateways gateway).handle = some none) :
    (proxy.connect gateway).Sound bufferSize := by
  have gateways := proxy.connect_gateways gateway
  have sockets := proxy.connect_sockets gateway
  have openBefore : ∀ {fd}, (proxy.connect gateway).sockets fd ≠ none →
      proxy.sockets fd ≠ none := by
    intro fd present
    rw [sockets] at present
    split at present
    · next same =>
        rw [same, unconnected]
        simp
    · exact present
  have split : ∀ {fd client}, (proxy.connect gateway).sockets fd = some (some client) →
      fd = (proxy.gateways gateway).handle ∧ client = proxy.connections ∨
        proxy.sockets fd = some (some client) := by
    intro fd client present
    rw [sockets] at present
    split at present
    · next same => exact .inl ⟨same, (Option.some.inj (Option.some.inj present)).symm⟩
    · exact .inr present
  constructor
  · intro first second inside within same present
    rw [(gateways first).1, (gateways second).1] at same
    rw [(gateways first).1] at present
    exact sound.distinct inside within same (openBefore present)
  · intro running other inside
    rw [(gateways other).1]
    rcases sound.opened running inside with negative | present
    · exact .inl negative
    · right
      rw [sockets]
      split
      · simp
      · exact present
  · intro fd present
    exact sound.natural (openBefore present)
  · intro fd client present
    show client < proxy.connections + 1
    rcases split present with ⟨-, rfl⟩ | old
    · exact Nat.lt_succ_self _
    · exact Nat.lt_succ_of_lt (sound.before old)
  · intro fd other client first second
    rcases split first with ⟨rfl, rfl⟩ | old <;> rcases split second with ⟨same, fresh⟩ | again
    · exact same.symm
    · exact absurd (sound.before again) (lt_irrefl _)
    · exact absurd (sound.before (fresh ▸ old)) (lt_irrefl _)
    · exact sound.unique old again
  · intro other inside alone
    rw [(gateways other).2.inBuffer]
    apply sound.idle inside
    rw [peer, (gateways other).1, sockets] at alone
    split at alone
    · simp at alone
    · exact alone
  · intro other inside
    rw [(gateways other).2.inBuffer]
    exact sound.size inside

/-- No other gateway has the descriptor of an open socket. -/
theorem others_closed (sound : proxy.Sound bufferSize) (inside : gateway < proxy.count)
    {other : Nat} (within : other < proxy.count) (different : other ≠ gateway)
    (same : (proxy.gateways other).handle = (proxy.gateways gateway).handle) :
    proxy.sockets (proxy.gateways other).handle = none := by
  by_contra present
  exact different (sound.distinct within inside same present)

/-- A new descriptor is not open when `Open` asks for it, so no other gateway has it. -/
theorem others_apart (sound : proxy.Sound bufferSize) (inside : gateway < proxy.count)
    {other : Nat} (running : proxy.stoped = false)
    (fresh : proxy.opens gateway opened = true) (natural : ¬ opened.socket < 0)
    (within : other < proxy.count) (different : other ≠ gateway) :
    (proxy.gateways other).handle ≠ opened.socket := by
  intro same
  have present : proxy.sockets (proxy.gateways other).handle ≠ none := by
    rcases sound.opened running within with negative | present
    · exact absurd (same ▸ negative) natural
    · exact present
  simp only [opens, Bool.or_eq_true, decide_eq_true_eq, Option.isNone_iff_eq_none] at fresh
  rcases fresh with (negative | own) | unused
  · exact natural negative
  · exact present (others_closed sound inside within different (same.trans own))
  · exact present (same ▸ unused)

/-- Closing keeps the handles of the other gateways and the sockets behind them. -/
theorem closes_others (sound : proxy.Sound bufferSize) (inside : gateway < proxy.count)
    (fresh : proxy.opens gateway opened = true) (closes : Closes proxy gateway opened next)
    {other : Nat} (within : other < proxy.count) (different : other ≠ gateway) :
    (next.gateways other).handle = (proxy.gateways other).handle ∧
      (next.gateways other).inBuffer = (proxy.gateways other).inBuffer ∧
        next.sockets (next.gateways other).handle =
          proxy.sockets (proxy.gateways other).handle := by
  obtain ⟨eventIndex, kept⟩ := closes.others other different
  have shut : Function.update proxy.sockets (proxy.gateways gateway).handle none
      (proxy.gateways other).handle = proxy.sockets (proxy.gateways other).handle := by
    rw [Function.update_apply]
    split
    · next same => exact (others_closed sound inside within different same).symm
    · rfl
  rw [kept]
  refine ⟨rfl, rfl, ?_⟩
  rcases closes.sockets with ⟨-, -, sockets⟩ | ⟨running, -, sockets⟩
  · rw [sockets]
    exact shut
  · rw [sockets]
    by_cases negative : opened.socket < 0
    · rw [if_pos negative]
      exact shut
    · rw [if_neg negative, Function.update_of_ne
        (others_apart sound inside running fresh negative within different)]
      exact shut

/-- The closed gateway is left without a connection. -/
theorem closes_self (sound : proxy.Sound bufferSize) (closes : Closes proxy gateway opened next) :
    next.peer gateway = none ∧ (next.gateways gateway).inBuffer =
      (proxy.gateways gateway).inBuffer.reset := by
  obtain ⟨handle, eventIndex, kept⟩ := closes.closed
  refine ⟨?_, by rw [kept]; rfl⟩
  rw [peer]
  rcases closes.sockets with ⟨-, same, sockets⟩ | ⟨-, same, sockets⟩
  · rw [same, sockets, Function.update_self]
    rfl
  · rw [same, sockets]
    by_cases negative : opened.socket < 0
    · rw [if_pos negative, Function.update_apply]
      split
      · rfl
      · have absent : proxy.sockets opened.socket = none := by
          by_contra present
          have natural := sound.natural present
          omega
        rw [absent]
        rfl
    · rw [if_neg negative, Function.update_self]
      rfl

/-- Every connection after a close was there before. -/
theorem closes_sockets (closes : Closes proxy gateway opened next) {fd : Int} {client : Client}
    (present : next.sockets fd = some (some client)) :
    proxy.sockets fd = some (some client) := by
  have shut : ∀ {fd}, Function.update proxy.sockets (proxy.gateways gateway).handle none fd =
      some (some client) → proxy.sockets fd = some (some client) := by
    intro fd live
    rw [Function.update_apply] at live
    split at live
    · cases live
    · exact live
  rcases closes.sockets with ⟨-, -, sockets⟩ | ⟨-, -, sockets⟩
  · rw [sockets] at present
    exact shut present
  · rw [sockets] at present
    split at present
    · exact shut present
    · rw [Function.update_apply] at present
      split at present
      · cases present
      · exact shut present

/-- The closed gateway shares no open socket. -/
theorem closes_apart (sound : proxy.Sound bufferSize) (inside : gateway < proxy.count)
    (fresh : proxy.opens gateway opened = true) (closes : Closes proxy gateway opened next)
    {other : Nat} (within : other < proxy.count) (different : other ≠ gateway)
    (same : (next.gateways other).handle = (next.gateways gateway).handle) :
    next.sockets (next.gateways gateway).handle = none := by
  rw [(closes_others sound inside fresh closes within different).1] at same
  rcases closes.sockets with ⟨-, own, sockets⟩ | ⟨running, own, sockets⟩
  · rw [own, sockets, Function.update_self]
  · rw [own] at same ⊢
    rw [sockets]
    by_cases negative : opened.socket < 0
    · rw [if_pos negative, Function.update_apply]
      split
      · rfl
      · by_contra present
        have natural := sound.natural present
        omega
    · exact absurd same (others_apart sound inside running fresh negative within different)

theorem closes (sound : proxy.Sound bufferSize) (inside : gateway < proxy.count)
    (fresh : proxy.opens gateway opened = true) (closes : Closes proxy gateway opened next) :
    next.Sound bufferSize := by
  have keeps : ∀ {other}, other < proxy.count → other ≠ gateway → _ := fun within different =>
    closes_others sound inside fresh closes within different
  have apart : ∀ {other}, other < proxy.count → other ≠ gateway → _ := fun within different =>
    closes_apart sound inside fresh closes within different
  obtain ⟨alone, emptied⟩ := closes_self sound closes
  constructor
  · intro first second firstIn secondIn same present
    rw [closes.count] at firstIn secondIn
    by_cases isFirst : first = gateway
    · by_cases isSecond : second = gateway
      · exact isFirst.trans isSecond.symm
      · subst isFirst
        exact absurd (apart secondIn isSecond same.symm) present
    · by_cases isSecond : second = gateway
      · subst isSecond
        exact absurd (same ▸ apart firstIn isFirst same) present
      · rw [(keeps firstIn isFirst).2.2] at present
        rw [(keeps firstIn isFirst).1, (keeps secondIn isSecond).1] at same
        exact sound.distinct firstIn secondIn same present
  · intro running other within
    rw [closes.count] at within
    rcases closes.sockets with ⟨stopped, -, -⟩ | ⟨before, own, sockets⟩
    · rw [stopped] at running
      cases running
    · by_cases isClosed : other = gateway
      · subst isClosed
        rw [own, sockets]
        by_cases negative : opened.socket < 0
        · exact .inl negative
        · rw [if_neg negative, Function.update_self]
          exact .inr (by simp)
      · rw [(keeps within isClosed).2.2, (keeps within isClosed).1]
        exact sound.opened before within
  · intro fd present
    have shut : ∀ {fd},
        Function.update proxy.sockets (proxy.gateways gateway).handle none fd ≠ none →
          0 ≤ fd := by
      intro fd live
      rw [Function.update_apply] at live
      split at live
      · exact absurd rfl live
      · exact sound.natural live
    rcases closes.sockets with ⟨-, -, sockets⟩ | ⟨-, -, sockets⟩
    · rw [sockets] at present
      exact shut present
    · rw [sockets] at present
      by_cases negative : opened.socket < 0
      · rw [if_pos negative] at present
        exact shut present
      · rw [if_neg negative, Function.update_apply] at present
        split at present
        · omega
        · exact shut present
  · intro fd client present
    rw [closes.connections]
    exact sound.before (closes_sockets closes present)
  · intro fd other client first second
    exact sound.unique (closes_sockets closes first) (closes_sockets closes second)
  · intro other within lonely
    rw [closes.count] at within
    by_cases isClosed : other = gateway
    · subst isClosed
      rw [emptied]
      exact ⟨rfl, rfl⟩
    · rw [(keeps within isClosed).2.1]
      apply sound.idle within
      rwa [peer, (keeps within isClosed).2.2] at lonely
  · intro other within
    rw [closes.count] at within
    by_cases isClosed : other = gateway
    · subst isClosed
      rw [emptied]
      exact sound.size within
    · rw [(keeps within isClosed).2.1]
      exact sound.size within

/-- A gateway without a connection reads nothing. -/
theorem afterRecv (maxMsgSize : UInt32) (sound : proxy.Sound bufferSize) (gateway : Nat)
    {first : Recv} (second : Recv) (delivers : proxy.delivers gateway first = true) :
    (proxy.afterRecv gateway
      ((proxy.gateways gateway).onRecv maxMsgSize first second)).Sound bufferSize := by
  have handles := fun other => proxy.afterRecv_handle maxMsgSize gateway other first second
  generalize shape : (proxy.gateways gateway).onRecv maxMsgSize first second = received at handles ⊢
  have sizes : ∀ other, ((proxy.afterRecv gateway received).gateways other).inBuffer.size =
      (proxy.gateways other).inBuffer.size := by
    intro other
    simp only [GWProxy.afterRecv, Function.update_apply]
    split
    · next same => rw [← shape, same, Session.onRecv_size]
    · rfl
  have silent : ∀ other, proxy.peer other = none →
      ((proxy.afterRecv gateway received).gateways other).inBuffer =
        (proxy.gateways other).inBuffer := by
    intro other alone
    simp only [GWProxy.afterRecv, Function.update_apply]
    split
    · next same =>
        subst same
        rw [← shape]
        cases first with
        | data bytes =>
            rw [GWProxy.delivers, alone] at delivers
            cases delivers
        | wouldBlock | peerClosed | error => rfl
    · rfl
  constructor
  · intro one other firstIn secondIn same present
    rw [handles, handles] at same
    rw [handles] at present
    exact sound.distinct firstIn secondIn same present
  · intro running other within
    rw [handles]
    exact sound.opened running within
  · exact sound.natural
  · exact sound.before
  · exact sound.unique
  · intro other within lonely
    rw [peer, handles] at lonely
    rw [silent other lonely]
    exact sound.idle within lonely
  · intro other within
    rw [sizes]
    exact sound.size within

theorem onRecv (maxMsgSize : UInt32) (sound : proxy.Sound bufferSize)
    (inside : gateway < proxy.count) {first : Recv} (second : Recv)
    (delivers : proxy.delivers gateway first = true)
    (fresh : proxy.opens gateway opened = true) :
    (proxy.onRecv maxMsgSize gateway first second opened).2.Sound bufferSize := by
  have after := sound.afterRecv maxMsgSize gateway second delivers
  rcases proxy.onRecv_cases maxMsgSize gateway first second opened with ⟨-, same⟩ | ⟨-, same⟩
  · rw [same]
    exact after.closes inside ((afterRecv_opens ..).trans fresh) (closeSession_closes _ _ _)
  · rw [same]
    exact after

/-- The descriptors and the readers decide. -/
theorem congr (sound : proxy.Sound bufferSize)
    (rest : next = { proxy with stoped := next.stoped, packets := next.packets })
    (stopped : next.stoped = false → proxy.stoped = false) : next.Sound bufferSize := by
  rw [rest]
  exact ⟨sound.distinct, fun running => sound.opened (stopped running), sound.natural,
    sound.before, sound.unique, sound.idle, sound.size⟩

end Sound

end GWProxy

end AppSvr.BaseServer
