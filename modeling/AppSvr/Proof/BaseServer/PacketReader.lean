/-
This file proves that one call of the packet reader continues the parse of its connection.
-/

import AppSvr.Construction.BaseServer.Session
import AppSvr.ToMathlib.Framing

namespace AppSvr.BaseServer

open Framing

/-- The servers accept the packet lengths from the header length to the configured maximum. -/
def serverFormat (maxMsgSize : UInt32) : Format UInt8 where
  headerSize := packetHeaderLength
  declared stream := (Session.headerLength stream).toNat
  accepted length := packetHeaderLength ≤ length ∧ length ≤ maxMsgSize.toNat
  header_local front back present := by
    have long : 2 ≤ front.length := by
      have header : 15 ≤ front.length := present
      omega
    simp [Session.headerLength, List.take_append_of_le_length long]
  accepted_header length accepts := (of_decide_eq_true accepts).1
  header_positive := by decide

/-- This header declares a packet of less than 256 bytes. -/
def shortHeader (length : UInt8) : List UInt8 := length :: List.replicate 14 0

namespace Session

variable {maxMsgSize : UInt32} {session : Session}

/-- The saved length and the saved bytes are those of an incomplete packet, and the buffer has room
for the rest of it. -/
structure Resumes (maxMsgSize : UInt32) (session : Session) : Prop where
  clean : session.inBuffer.consumed = []
  header : packetHeaderLength ≤ session.inBuffer.size.toNat
  room : maxMsgSize.toNat ≤ session.inBuffer.size.toNat
  stage : session.packetLength = 0 ∧ session.inBuffer.unread.length < packetHeaderLength ∨
    packetHeaderLength ≤ session.inBuffer.unread.length ∧
      headerLength session.inBuffer.unread = session.packetLength ∧
        session.packetLength.toNat ≤ maxMsgSize.toNat ∧
          session.inBuffer.unread.length < session.packetLength.toNat

theorem Resumes.incomplete (resumes : session.Resumes maxMsgSize) :
    (serverFormat maxMsgSize).Incomplete session.inBuffer.unread := by
  rcases resumes.stage with ⟨-, short⟩ | ⟨present, declared, bounded, short⟩
  · exact .inl short
  · refine .inr ⟨?_, ?_⟩
    · simp only [serverFormat, declared, decide_eq_true_eq]
      omega
    · simp only [serverFormat, declared]
      exact short

/-- Bytes behind the saved ones keep the buffer of an incomplete packet in order. -/
theorem Resumes.extend {later : Session} {bytes : List UInt8} (resumes : session.Resumes maxMsgSize)
    (buffer : later.inBuffer =
      { session.inBuffer with unread := session.inBuffer.unread ++ bytes })
    (stage : later.packetLength = 0 ∧
        (session.inBuffer.unread ++ bytes).length < packetHeaderLength ∨
      packetHeaderLength ≤ (session.inBuffer.unread ++ bytes).length ∧
        headerLength (session.inBuffer.unread ++ bytes) = later.packetLength ∧
          later.packetLength.toNat ≤ maxMsgSize.toNat ∧
            (session.inBuffer.unread ++ bytes).length < later.packetLength.toNat) :
    later.Resumes maxMsgSize where
  clean := by
    rw [buffer]
    exact resumes.clean
  header := by
    rw [buffer]
    exact resumes.header
  room := by
    rw [buffer]
    exact resumes.room
  stage := by
    rw [buffer]
    exact stage

/-- A new connection starts with an empty buffer and no saved length. -/
theorem Resumes.fresh (clean : session.inBuffer.consumed = [])
    (empty : session.inBuffer.unread = []) (start : session.packetLength = 0)
    (header : packetHeaderLength ≤ session.inBuffer.size.toNat)
    (room : maxMsgSize.toNat ≤ session.inBuffer.size.toNat) : session.Resumes maxMsgSize where
  clean := clean
  header := header
  room := room
  stage := .inl ⟨start, by simp [empty, packetHeaderLength]⟩

/-- The bytes of one call continue the parse: the packet that the call pushes is the next frame, the
buffer keeps the rest, and a refused header closes the session. -/
structure Reads (maxMsgSize : UInt32) (session : Session) (received : Received) : Prop where
  parses : ∃ rest,
    (serverFormat maxMsgSize).Parses (session.inBuffer.unread ++ received.bytes)
      received.packet.toList rest ∧
    (received.closes = false → received.session.inBuffer.unread = rest) ∧
    ((serverFormat maxMsgSize).Malformed rest → received.closes = true)
  resumes : received.closes = false → received.session.Resumes maxMsgSize

/-- An incomplete packet pushes nothing. -/
theorem parses_incomplete {stream : List UInt8}
    (incomplete : (serverFormat maxMsgSize).Incomplete stream) :
    (serverFormat maxMsgSize).Parses stream [] stream where
  splits := rfl
  frames := by simp
  stopped := .inr incomplete

/-- A call that keeps an incomplete packet resumes later. -/
theorem Reads.kept {received : Received} (resumes : received.session.Resumes maxMsgSize)
    (unread : received.session.inBuffer.unread = session.inBuffer.unread ++ received.bytes)
    (packet : received.packet = none) : session.Reads maxMsgSize received where
  parses := by
    have incomplete := resumes.incomplete
    refine ⟨_, ?_, fun _ => rfl, fun malformed =>
      absurd malformed (incomplete_not_malformed incomplete)⟩
    rw [packet, ← unread]
    exact parses_incomplete incomplete
  resumes _ := resumes

/-- A call that closes the session inside a packet pushes nothing. -/
theorem Reads.closed {received : Received} (closes : received.closes = true)
    (stopped : (serverFormat maxMsgSize).Malformed (session.inBuffer.unread ++ received.bytes) ∨
      (serverFormat maxMsgSize).Incomplete (session.inBuffer.unread ++ received.bytes))
    (packet : received.packet = none) : session.Reads maxMsgSize received where
  parses := by
    rw [packet, closes]
    refine ⟨_, ⟨rfl, by simp, stopped⟩, ?_, fun _ => rfl⟩
    intro opened
    cases opened
  resumes opened := by
    rw [closes] at opened
    cases opened

/-- The buffer takes bytes that fit behind the saved ones. -/
theorem moveWritePtr_unread (bytes : List UInt8) (clean : session.inBuffer.consumed = [])
    (fits : session.inBuffer.unread.length + bytes.length ≤ session.inBuffer.size.toNat) :
    (session.moveWritePtr bytes).inBuffer =
      { session.inBuffer with unread := session.inBuffer.unread ++ bytes } := by
  have room : ¬ session.inBuffer.size.toNat < session.inBuffer.written + bytes.length := by
    simp only [DataBuffer.written, clean, List.length_nil]
    omega
  simp only [moveWritePtr, DataBuffer.moveWritePtr, if_neg room]

/-- The bytes behind a complete header do not change the length that it declares. -/
theorem headerLength_append {front : List UInt8} (back : List UInt8)
    (present : packetHeaderLength ≤ front.length) :
    headerLength (front ++ back) = headerLength front :=
  UInt16.toNat_inj.mp ((serverFormat 0).header_local front back present)

/-- With the header in the buffer, the packet is pushed when its last byte arrives. -/
theorem pushWhole_reads {later : Session} {bytes : List UInt8} {datasize : Nat} {length : UInt16}
    (resumes : session.Resumes maxMsgSize)
    (buffer : later.inBuffer =
      { session.inBuffer with unread := session.inBuffer.unread ++ bytes })
    (present : packetHeaderLength ≤ (session.inBuffer.unread ++ bytes).length)
    (declared : headerLength (session.inBuffer.unread ++ bytes) = length)
    (saved : later.packetLength = length)
    (size : datasize = (session.inBuffer.unread ++ bytes).length)
    (bounded : length.toNat ≤ maxMsgSize.toNat) (within : datasize ≤ length.toNat) :
    session.Reads maxMsgSize (later.pushWhole datasize length bytes) := by
  unfold pushWhole
  by_cases whole : datasize = length.toNat
  · rw [if_pos whole]
    have all : (session.inBuffer.unread ++ bytes).take length.toNat =
        session.inBuffer.unread ++ bytes := List.take_of_length_le (by omega)
    have frame : (serverFormat maxMsgSize).IsFrame (session.inBuffer.unread ++ bytes) := by
      refine ⟨present, ?_, ?_⟩
      · simp only [serverFormat, declared]
        omega
      · simp only [serverFormat, decide_eq_true_eq]
        omega
    have emptied : (serverFormat maxMsgSize).Incomplete ([] : List UInt8) :=
      .inl (show 0 < packetHeaderLength by decide)
    constructor
    · refine ⟨[], ?_, fun _ => rfl, fun malformed =>
        absurd malformed (incomplete_not_malformed emptied)⟩
      rw [buffer, all]
      have nothing : (serverFormat maxMsgSize).Parses [] [] [] := parses_nil
      have parsed := parses_cons frame nothing
      rwa [List.append_nil] at parsed
    · intro _
      have size : later.inBuffer.size = session.inBuffer.size := by rw [buffer]
      apply Resumes.fresh rfl rfl rfl
      · show packetHeaderLength ≤ later.inBuffer.size.toNat
        rw [size]
        exact resumes.header
      · show maxMsgSize.toNat ≤ later.inBuffer.size.toNat
        rw [size]
        exact resumes.room
  · rw [if_neg whole]
    refine .kept (resumes.extend buffer (.inr ⟨present, ?_, ?_, ?_⟩)) ?_ rfl
    · exact declared.trans saved.symm
    · rw [saved]
      exact bounded
    · rw [saved]
      omega
    · rw [buffer]

/-- The first bytes do not complete the header. -/
theorem onRecv_header {bytes : List UInt8} (resumes : session.Resumes maxMsgSize)
    (start : session.packetLength = 0) (nonempty : 0 < bytes.length)
    (short : session.inBuffer.unread.length + bytes.length < packetHeaderLength) :
    session.Reads maxMsgSize
      ((session.moveWritePtr bytes).pushWhole
        (session.inBuffer.getDataSize + bytes.length) session.packetLength bytes) := by
  have header := resumes.header
  have buffer := moveWritePtr_unread bytes resumes.clean (by omega)
  have unfinished : ¬ session.inBuffer.getDataSize + bytes.length =
      session.packetLength.toNat := by
    rw [start]
    show ¬ _ = 0
    omega
  rw [pushWhole, if_neg unfinished]
  refine .kept (resumes.extend buffer (.inl ⟨start, ?_⟩)) ?_ rfl
  · rwa [List.length_append]
  · rw [buffer]

/-- The bytes behind a saved length belong to its packet. -/
theorem onRecv_body {bytes : List UInt8} (resumes : session.Resumes maxMsgSize)
    (present : packetHeaderLength ≤ session.inBuffer.unread.length)
    (declared : headerLength session.inBuffer.unread = session.packetLength)
    (bounded : session.packetLength.toNat ≤ maxMsgSize.toNat)
    (within : session.inBuffer.unread.length + bytes.length ≤ session.packetLength.toNat) :
    session.Reads maxMsgSize
      ((session.moveWritePtr bytes).pushWhole
        (session.inBuffer.getDataSize + bytes.length) session.packetLength bytes) := by
  have room := resumes.room
  have buffer := moveWritePtr_unread bytes resumes.clean (by omega)
  have longer : (session.inBuffer.unread ++ bytes).length =
      session.inBuffer.unread.length + bytes.length := List.length_append
  refine pushWhole_reads resumes buffer ?_ ?_ rfl longer.symm bounded within
  · omega
  · rw [headerLength_append bytes present]
    exact declared

/-- The header is complete: its length is checked and the rest of the packet is asked for. -/
theorem onRecv_headed {bytes : List UInt8} {second : Recv} (resumes : session.Resumes maxMsgSize)
    (start : session.packetLength = 0)
    (complete : session.inBuffer.unread.length + bytes.length = packetHeaderLength)
    (fits : second.fits ((headerLength (session.inBuffer.unread ++ bytes)).toNat -
      (session.inBuffer.getDataSize + bytes.length)) = true) :
    session.Reads maxMsgSize (session.onRecv maxMsgSize (.data bytes) second) := by
  have header := resumes.header
  have room := resumes.room
  have buffer := moveWritePtr_unread bytes resumes.clean (by omega)
  have longer : (session.inBuffer.unread ++ bytes).length = packetHeaderLength := by
    rw [List.length_append, complete]
  have datasize : session.inBuffer.getDataSize + bytes.length = packetHeaderLength := complete
  rw [datasize] at fits
  simp only [onRecv, datasize, start, le_refl, and_self, if_true]
  generalize shape : headerLength (session.inBuffer.unread ++ bytes) = length at fits ⊢
  by_cases refused : length.toNat < packetHeaderLength ∨ maxMsgSize.toNat < length.toNat
  · rw [if_pos refused]
    refine .closed rfl (.inl ⟨longer.ge, ?_⟩) rfl
    simp only [serverFormat, shape, decide_eq_false_iff_not]
    omega
  · rw [if_neg refused]
    have bounded : length.toNat ≤ maxMsgSize.toNat := by omega
    by_cases more : packetHeaderLength < length.toNat
    · rw [if_pos more]
      -- The whole header is saved with its length, whatever the second call returns.
      have saved : ({ session.moveWritePtr bytes with packetLength := length } :
          Session).Resumes maxMsgSize :=
        resumes.extend buffer (.inr ⟨longer.ge, shape, bounded, longer.trans_lt more⟩)
      cases second with
      | wouldBlock =>
          refine .kept saved ?_ rfl
          rw [buffer]
      | peerClosed | error =>
          have incomplete := saved.incomplete
          rw [buffer] at incomplete
          exact .closed rfl (.inr incomplete) rfl
      | data rest =>
          have limit : rest.length ≤ length.toNat - packetHeaderLength := by
            simpa using (Bool.and_eq_true_iff.mp fits).2
          have total : (session.inBuffer.unread ++ bytes ++ rest).length =
              packetHeaderLength + rest.length := by
            rw [List.length_append, longer]
          have behind := moveWritePtr_unread rest saved.clean (by
            rw [buffer]
            show (session.inBuffer.unread ++ bytes).length + _ ≤ session.inBuffer.size.toNat
            omega)
          rw [buffer] at behind
          dsimp only at behind
          rw [List.append_assoc] at behind total
          refine pushWhole_reads resumes behind ?_ ?_ rfl total.symm bounded ?_
          · omega
          · rw [← List.append_assoc, headerLength_append rest longer.ge, shape]
          · omega
    · rw [if_neg more]
      exact pushWhole_reads resumes buffer longer.ge shape rfl longer.symm bounded (by omega)

/-- Whatever the kernel returns, one call of the reader continues the parse. -/
theorem onRecv_reads {first second : Recv} (resumes : session.Resumes maxMsgSize)
    (fits : session.fits first second = true) :
    session.Reads maxMsgSize (session.onRecv maxMsgSize first second) := by
  obtain ⟨fits, again⟩ := Bool.and_eq_true_iff.mp fits
  cases first with
  | wouldBlock => exact .kept resumes (List.append_nil _).symm rfl
  | peerClosed | error =>
      refine .closed rfl (.inr ?_) rfl
      show (serverFormat maxMsgSize).Incomplete (session.inBuffer.unread ++ [])
      rw [List.append_nil]
      exact resumes.incomplete
  | data bytes =>
      obtain ⟨nonempty, limit⟩ := Bool.and_eq_true_iff.mp fits
      have nonempty : 0 < bytes.length := of_decide_eq_true nonempty
      have limit : bytes.length ≤ session.left := of_decide_eq_true limit
      unfold left DataBuffer.getDataSize at limit
      rcases resumes.stage with ⟨start, short⟩ | ⟨present, declared, bounded, short⟩
      · rw [if_pos start] at limit
        by_cases complete : packetHeaderLength ≤
            session.inBuffer.unread.length + bytes.length
        · exact onRecv_headed resumes start (by omega) again
        · have unread : ¬ (session.packetLength = 0 ∧
              packetHeaderLength ≤ session.inBuffer.getDataSize + bytes.length) :=
            fun both => complete both.2
          simp only [onRecv, if_neg unread]
          exact onRecv_header resumes start nonempty (by omega)
      · have saved : session.packetLength ≠ 0 := by
          intro zero
          rw [zero] at short
          exact absurd short (Nat.not_lt_zero _)
        rw [if_neg saved] at limit
        have headed : ¬ (session.packetLength = 0 ∧
            packetHeaderLength ≤ session.inBuffer.getDataSize + bytes.length) :=
          fun both => saved both.1
        simp only [onRecv, if_neg headed]
        exact onRecv_body resumes present declared bounded (by omega)

/-- Reading changes only the packet length and the buffer of a session. -/
theorem onRecv_session (maxMsgSize : UInt32) (session : Session) (first second : Recv) :
    (session.onRecv maxMsgSize first second).session =
      { session with
        packetLength := (session.onRecv maxMsgSize first second).session.packetLength
        inBuffer := (session.onRecv maxMsgSize first second).session.inBuffer } := by
  cases first with
  | wouldBlock | peerClosed | error => rfl
  | data bytes =>
      unfold onRecv
      dsimp only
      split
      · split
        · rfl
        · split
          · cases second with
            | wouldBlock | peerClosed | error => rfl
            | data more =>
                unfold pushWhole
                dsimp only
                split <;> rfl
          · unfold pushWhole
            split <;> rfl
      · unfold pushWhole
        split <;> rfl

/-- Reading keeps the size of the buffer. -/
theorem onRecv_size (maxMsgSize : UInt32) (session : Session) (first second : Recv) :
    (session.onRecv maxMsgSize first second).session.inBuffer.size = session.inBuffer.size := by
  have moved : ∀ (session : Session) (bytes : List UInt8),
      (session.moveWritePtr bytes).inBuffer.size = session.inBuffer.size := by
    intro session bytes
    unfold moveWritePtr DataBuffer.moveWritePtr
    dsimp only
    split <;> rfl
  have pushed : ∀ (session : Session) (datasize : Nat) (length : UInt16) (bytes : List UInt8),
      (session.pushWhole datasize length bytes).session.inBuffer.size =
        session.inBuffer.size := by
    intro session datasize length bytes
    unfold pushWhole
    split <;> rfl
  cases first with
  | wouldBlock | peerClosed | error => rfl
  | data bytes =>
      unfold onRecv
      dsimp only
      split
      · split
        · exact moved session bytes
        · split
          · cases second with
            | wouldBlock | peerClosed | error => exact moved session bytes
            | data more => rw [pushed, moved, ← moved session bytes]
          · rw [pushed, ← moved session bytes]
      · rw [pushed, moved]

end Session

/-- The two sessions are at the same place in a packet. -/
structure SameReader (session later : Session) : Prop where
  packetLength : later.packetLength = session.packetLength
  inBuffer : later.inBuffer = session.inBuffer

namespace SameReader

variable {session later : Session} {maxMsgSize : UInt32}

theorem refl (session : Session) : SameReader session session := ⟨rfl, rfl⟩

theorem resumes (same : SameReader session later) (resumes : session.Resumes maxMsgSize) :
    later.Resumes maxMsgSize where
  clean := by
    rw [same.inBuffer]
    exact resumes.clean
  header := by
    rw [same.inBuffer]
    exact resumes.header
  room := by
    rw [same.inBuffer]
    exact resumes.room
  stage := by
    rw [same.inBuffer, same.packetLength]
    exact resumes.stage

end SameReader

end AppSvr.BaseServer
