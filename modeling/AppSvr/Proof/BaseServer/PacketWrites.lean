/-
This file shows which sequences of writes report a packet that does not fit its buffer.
-/

import AppSvr.Proof.BaseServer.RoundTrip

namespace AppSvr.BaseServer

/-- The number of bytes that are left in a buffer, and whether the last write failed. -/
structure Room where
  left : Nat
  failed : Bool
  deriving DecidableEq, Repr

namespace Room

/-- A write that is longer than the whole buffer is not refused: it runs over the end of the memory,
and there is no room any more. -/
def writeBytes (size length : Nat) (room : Option Room) : Option Room :=
  room.bind fun room =>
    if length ≤ room.left then some ⟨room.left - length, false⟩
    else if length ≤ size then some ⟨room.left, true⟩
    else none

def writeString (size : Nat) (value : List UInt8) (room : Option Room) : Option Room :=
  let len := UInt16.ofNat value.length
  let room := writeBytes size 2 room
  if 0 < len then writeBytes size len.toNat room else room

def saveList {Item : Type} (size : Nat) (save : Item → Option Room → Option Room)
    (items : List Item) (room : Option Room) : Option Room :=
  let room := writeBytes size 2 room
  if 0 < UInt16.ofNat items.length then items.foldl (fun room item => save item room) room
  else room

/-- A column is skipped behind a failed write. -/
def column (save : Option Room → Option Room) (room : Option Room) : Option Room :=
  room.bind fun room => if room.failed then some room else save (some room)

mutual

/-- Only the lengths of the values decide about the room. -/
def save (size : Nat) : (archive : Archive) → archive.Value → Option Room → Option Room
  | .fixed type, _, room => writeBytes size type.fixed.width room
  | .string, value, room => writeString size value room
  | .list element, items, room => saveList size (save size element) items room
  | .record entries, value, room => saveEntries size entries value room

def saveEntries (size : Nat) : (entries : List Archive) → Archive.Values entries →
    Option Room → Option Room
  | [], _, room => room
  | entry :: entries, value, room =>
      saveEntries size entries value.2 (column (save size entry value.1) room)

end

def saveChain (size : Nat) : (chain : List Archive) → Archive.Values chain →
    Option Room → Option Room
  | [], _, room => room
  | archive :: chain, value, room => saveChain size chain value.2 (save size archive value.1 room)

/-- The serializer has written up to this room. -/
def Tracks (size : UInt32) (serializer : Serializer) (room : Option Room) : Prop :=
  serializer.buffer.size = size ∧
    match room with
    | some room => serializer.buffer.written + room.left = size.toNat ∧
        (serializer.iError = 0 ↔ room.failed = false)
    | none => size.toNat < serializer.buffer.written

section Tracking

variable {size : UInt32} {serializer : Serializer} {room : Option Room}

theorem writeBytes_tracks (tracks : Tracks size serializer room) {src : List UInt8}
    (short : src.length < 65536) :
    Tracks size (serializer.writeBytes src) (writeBytes size.toNat src.length room) := by
  obtain ⟨same, tracks⟩ := tracks
  have bound := size.toNat_lt
  have length : (UInt32.ofNat src.length).toNat = src.length := by
    rw [UInt32.toNat_ofNat', Nat.mod_eq_of_lt (by omega)]
  have room_eq : (serializer.buffer.size - UInt32.ofNat src.length).toNat =
      (2 ^ 32 - src.length + size.toNat) % 2 ^ 32 := by
    rw [UInt32.toNat_sub, length, same]
  unfold Serializer.writeBytes DataBuffer.write
  rw [room_eq]
  cases room with
  | none =>
      dsimp only at tracks
      by_cases refused : (2 ^ 32 - src.length + size.toNat) % 2 ^ 32 < serializer.buffer.written
      · rw [if_pos refused]
        exact ⟨same, tracks⟩
      · rw [if_neg refused]
        refine ⟨same, ?_⟩
        dsimp only [writeBytes, Option.bind_none, DataBuffer.written] at tracks ⊢
        rw [List.length_append]
        omega
  | some room =>
      obtain ⟨written, clear⟩ := tracks
      rw [writeBytes, Option.bind_some]
      by_cases fits : src.length ≤ room.left
      · rw [if_pos fits, if_neg (by omega)]
        refine ⟨same, ?_, by simp⟩
        dsimp only [DataBuffer.written] at written ⊢
        rw [List.length_append]
        omega
      · rw [if_neg fits]
        by_cases inside : src.length ≤ size.toNat
        · rw [if_pos inside, if_pos (by omega)]
          exact ⟨same, written, by simp⟩
        · rw [if_neg inside, if_neg (by omega)]
          refine ⟨same, ?_⟩
          dsimp only [DataBuffer.written] at written ⊢
          rw [List.length_append]
          omega

theorem toNat_ofNat_length_lt {Item : Type} (items : List Item) :
    (UInt16.ofNat items.length).toNat < 65536 := (UInt16.ofNat items.length).toNat_lt

theorem writeFixed_tracks (tracks : Tracks size serializer room) {Value : Type}
    (type : Fixed Value) (narrow : type.width < 65536) (value : Value) :
    Tracks size (serializer.writeFixed type value) (writeBytes size.toNat type.width room) := by
  have length := type.toBytes_length value
  rw [← length]
  exact writeBytes_tracks tracks (by omega)

theorem writeString_tracks (tracks : Tracks size serializer room) (value : List UInt8) :
    Tracks size (serializer.writeString value) (writeString size.toNat value room) := by
  have head := writeFixed_tracks tracks Fixed.uInt16 (by decide) (UInt16.ofNat value.length)
  have bound := toNat_ofNat_length_lt value
  have taken : (value.take (UInt16.ofNat value.length).toNat).length =
      (UInt16.ofNat value.length).toNat := by
    rw [List.length_take, UInt16.toNat_ofNat']
    exact Nat.min_eq_left (Nat.mod_le _ _)
  unfold Serializer.writeString writeString
  dsimp only
  split_ifs
  · have short : (value.take (UInt16.ofNat value.length).toNat).length < 65536 := by omega
    have body := writeBytes_tracks head short
    rwa [taken] at body
  · exact head

/-- Every item of a list is written, whatever became of the items before. -/
theorem saveItems_tracks {Item : Type} {save : Item → Serializer → Serializer}
    {fill : Item → Option Room → Option Room}
    (saves : ∀ item serializer room, Tracks size serializer room →
      Tracks size (save item serializer) (fill item room))
    (tracks : Tracks size serializer room) (items : List Item) :
    Tracks size (items.foldl (fun serializer item => save item serializer) serializer)
      (items.foldl (fun room item => fill item room) room) := by
  induction items generalizing serializer room with
  | nil => exact tracks
  | cons item items ih => exact ih (saves item serializer room tracks)

theorem saveList_tracks {Item : Type} {save : Item → Serializer → Serializer}
    {fill : Item → Option Room → Option Room}
    (saves : ∀ item serializer room, Tracks size serializer room →
      Tracks size (save item serializer) (fill item room))
    (tracks : Tracks size serializer room) (items : List Item) :
    Tracks size (Archive.saveList save items serializer)
      (saveList size.toNat fill items room) := by
  have head := writeFixed_tracks tracks Fixed.uInt16 (by decide) (UInt16.ofNat items.length)
  unfold Archive.saveList saveList
  dsimp only
  split_ifs
  · exact saveItems_tracks saves head items
  · exact head

theorem column_tracks {save : Serializer → Serializer} {fill : Option Room → Option Room}
    (saves : ∀ serializer room, Tracks size serializer room →
      Tracks size (save serializer) (fill room))
    (absent : ∀ serializer, Tracks size serializer none → Tracks size (save serializer) none)
    (tracks : Tracks size serializer room) :
    Tracks size (if serializer.getErrorCode = 0 then save serializer else serializer)
      (column fill room) := by
  cases room with
  | none =>
      split_ifs
      · exact absent serializer tracks
      · exact tracks
  | some room =>
      have clear := tracks.2.2
      rw [column, Option.bind_some, Serializer.getErrorCode]
      cases failed : room.failed with
      | false =>
          rw [if_pos (clear.mpr failed), if_neg Bool.false_ne_true]
          exact saves _ _ tracks
      | true =>
          have error : ¬ serializer.iError = 0 := by
            intro ok
            rw [clear.mp ok] at failed
            cases failed
          rw [if_neg error, if_pos rfl]
          exact tracks

theorem fixed_narrow (type : FixedType) : type.fixed.width < 65536 := by
  cases type <;> decide

mutual

/-- The room is lost for good. -/
theorem save_none (size : Nat) (archive : Archive) (value : archive.Value) :
    save size archive value none = none := by
  match archive with
  | .fixed type => rfl
  | .string =>
      unfold save writeString
      dsimp only [writeBytes, Option.bind_none]
      split_ifs <;> rfl
  | .list element =>
      have kept (items : List element.Value) :
          items.foldl (fun room item => save size element item room) none = none := by
        induction items with
        | nil => rfl
        | cons item items ih => rw [List.foldl_cons, save_none size element item, ih]
      unfold save saveList
      dsimp only [writeBytes, Option.bind_none]
      split_ifs
      · exact kept value
      · rfl
  | .record entries => exact saveEntries_none size entries value

theorem saveEntries_none (size : Nat) (entries : List Archive) (value : Archive.Values entries) :
    saveEntries size entries value none = none := by
  match entries with
  | [] => rfl
  | entry :: entries => exact saveEntries_none size entries value.2

end

mutual

theorem save_tracks (archive : Archive) (value : archive.Value) (serializer : Serializer)
    (room : Option Room) (tracks : Tracks size serializer room) :
    Tracks size (Archive.save archive value serializer) (save size.toNat archive value room) := by
  match archive with
  | .fixed type => exact writeFixed_tracks tracks type.fixed (fixed_narrow type) value
  | .string => exact writeString_tracks tracks value
  | .list element =>
      exact saveList_tracks (fun item => save_tracks element item) tracks value
  | .record entries => exact saveEntries_tracks entries value serializer room tracks

theorem saveEntries_tracks (entries : List Archive) (value : Archive.Values entries)
    (serializer : Serializer) (room : Option Room) (tracks : Tracks size serializer room) :
    Tracks size (Archive.saveEntries entries value serializer)
      (saveEntries size.toNat entries value room) := by
  match entries with
  | [] => exact tracks
  | entry :: entries =>
      refine saveEntries_tracks entries value.2 _ _ (column_tracks (save_tracks entry value.1)
        (fun serializer tracks => ?_) tracks)
      have kept := save_tracks entry value.1 serializer none tracks
      rwa [save_none] at kept

end

/-- The serializer follows the room through every sequence of values. -/
theorem saveChain_tracks (chain : List Archive) (value : Archive.Values chain)
    (tracks : Tracks size serializer room) :
    Tracks size (Archive.saveChain chain value serializer)
      (saveChain size.toNat chain value room) := by
  induction chain generalizing serializer room with
  | nil => exact tracks
  | cons archive chain ih => exact ih value.2 (save_tracks archive value.1 _ _ tracks)

end Tracking

end Room

namespace Packet

/-- A complete packet has the header and this many bytes behind it. -/
def total (message : Message) : Nat := 15 + (Archive.entriesBytes message.1 message.2).length

/-- Every write fits: the sixteen-bit sizes are exact, and the buffer has room for all bytes. -/
def Fits (size : UInt32) (message : Message) : Prop :=
  Archive.SmallEntries message.1 message.2 ∧ total message ≤ size.toNat

/-- The buffer holds the header with the right length and the complete encodings in their order. -/
def Whole (packet : Packet) (message : Message) (buffer : DataBuffer) : Prop :=
  buffer.consumed = [] ∧ ∃ length : UInt16, length.toNat = buffer.unread.length ∧
    buffer.unread = { packet with length }.header ++ Archive.entriesBytes message.1 message.2

/-- A packet that does not fit is reported, and nothing is written behind the memory. One that fits
is whole. -/
def NeverTruncated (packet : Packet) (size : UInt32) (message : Message) : Prop :=
  let serializer := packet.write size message
  (¬ Fits size message →
      serializer.getErrorCode ≠ 0 ∧ serializer.buffer.written ≤ size.toNat) ∧
    (Fits size message →
      Whole packet message (packet.updatePacketLength serializer.buffer).2)

section Header

variable {packet : Packet} {size : UInt32} {message : Message}

theorem header_length (packet : Packet) : packet.header.length = 15 := by
  rw [header, headerWrites]
  simp [Fixed.toBytes_length]
  rfl

theorem writes_fit {buffer : DataBuffer} {writes : List (List UInt8)}
    (fits : buffer.written + writes.flatten.length ≤ buffer.size.toNat) :
    writes.foldl (fun buffer src => (buffer.write src).2) buffer =
      buffer.append writes.flatten := by
  induction writes generalizing buffer with
  | nil => simp
  | cons src writes ih =>
      rw [List.flatten_cons, List.length_append] at fits
      rw [List.foldl_cons, DataBuffer.write_fits (by omega), ih]
      · simp
      · rw [DataBuffer.append_written, DataBuffer.append_size]
        omega

theorem packHeader_new (room : 15 ≤ size.toNat) :
    packet.packHeader (DataBuffer.new size) = ⟨size, [], packet.header⟩ := by
  have length := packet.header_length
  rw [packHeader, writes_fit]
  · rfl
  · rw [← header, length]
    simpa [DataBuffer.reset, DataBuffer.new, DataBuffer.written] using room

theorem saveChain_fits (chain : List Archive) (value : Archive.Values chain)
    (small : Archive.SmallEntries chain value) {serializer : Serializer}
    (ok : serializer.iError = 0)
    (fits : serializer.buffer.written + (Archive.entriesBytes chain value).length ≤
      serializer.buffer.size.toNat) :
    Archive.saveChain chain value serializer =
      ⟨serializer.buffer.append (Archive.entriesBytes chain value), 0⟩ := by
  induction chain generalizing serializer with
  | nil =>
      obtain ⟨buffer, iError⟩ := serializer
      simp_all [Archive.saveChain, Archive.entriesBytes]
  | cons archive chain ih =>
      rw [Archive.entriesBytes, List.length_append] at fits
      rw [Archive.saveChain,
        Archive.save_fits archive value.1 small.1 serializer ok (by omega), ih value.2 small.2 rfl]
      · simp [Archive.entriesBytes]
      · rw [DataBuffer.append_written, DataBuffer.append_size]
        omega

/-- The values stand behind the header. -/
theorem write_fits (fits : Fits size message) :
    packet.write size message =
      ⟨⟨size, [], packet.header ++ Archive.entriesBytes message.1 message.2⟩, 0⟩ := by
  have room := fits.2
  rw [total] at room
  rw [write, packHeader_new (by omega), saveChain_fits message.1 message.2 fits.1 rfl]
  · rfl
  · change ([] : List UInt8).length + packet.header.length + _ ≤ size.toNat
    rw [header_length, List.length_nil]
    omega

/-- The length is the front of the header. -/
theorem header_eq (packet : Packet) : packet.header =
    Fixed.uInt16.toBytes packet.length ++ packet.headerWrites.tail.flatten := rfl

theorem updatePacketLength_whole (fits : Fits size message) (short : total message < 65536) :
    Whole packet message (packet.updatePacketLength
      ⟨size, [], packet.header ++ Archive.entriesBytes message.1 message.2⟩).2 := by
  have room := fits.2
  have written : DataBuffer.written
      ⟨size, [], packet.header ++ Archive.entriesBytes message.1 message.2⟩ = total message := by
    rw [DataBuffer.written, List.length_append, header_length, List.length_nil, total]
    omega
  have length : (UInt16.ofNat (total message)).toNat = total message := by
    rw [UInt16.toNat_ofNat', Nat.mod_eq_of_lt short]
  have width : (Fixed.uInt16.toBytes packet.length).length = 2 := Fixed.uInt16.toBytes_length _
  unfold updatePacketLength
  dsimp only
  rw [written, length, Nat.sub_self, if_neg (Nat.not_lt_zero _), if_neg (Nat.not_lt_zero _),
    if_neg (by omega)]
  have patched : List.take 0 ([] ++ (packet.header ++ Archive.entriesBytes message.1 message.2)) ++
      Fixed.uInt16.toBytes (UInt16.ofNat (total message)) ++
      List.drop (0 + 2) ([] ++ (packet.header ++ Archive.entriesBytes message.1 message.2)) =
      { packet with length := UInt16.ofNat (total message) }.header ++
        Archive.entriesBytes message.1 message.2 := by
    rw [List.take_zero, List.nil_append, List.nil_append, Nat.zero_add, packet.header_eq,
      List.append_assoc, ← width, List.drop_left, ← List.append_assoc]
    rfl
  have whole : ({ packet with length := UInt16.ofNat (total message) }.header ++
      Archive.entriesBytes message.1 message.2).length = total message := by
    rw [List.length_append, header_length, total]
  rw [patched, List.take_of_length_le (Nat.le_of_eq whole)]
  refine ⟨rfl, UInt16.ofNat (total message), ?_, ?_⟩
  · rw [length, List.length_nil, List.drop_zero, whole]
  · rw [List.length_nil, List.drop_zero]

theorem not_whole (long : 65536 ≤ total message) (buffer : DataBuffer) :
    ¬ Whole packet message buffer := by
  rintro ⟨-, length, exact, same⟩
  have bound := length.toNat_lt
  rw [same, List.length_append, header_length] at exact
  rw [total] at long
  omega

/-- The room behind the header of an empty buffer. -/
def roomLeft (size : UInt32) (message : Message) : Option Room :=
  Room.saveChain size.toNat message.1 message.2 (some ⟨size.toNat - 15, false⟩)

theorem write_tracks (packet : Packet) (message : Message) (room : 15 ≤ size.toNat) :
    Room.Tracks size (packet.write size message) (roomLeft size message) := by
  apply Room.saveChain_tracks
  rw [packHeader_new room]
  refine ⟨rfl, ?_, iff_of_true rfl rfl⟩
  change ([] : List UInt8).length + packet.header.length + (size.toNat - 15) = size.toNat
  rw [header_length, List.length_nil]
  omega

/-- A packet is whole or reported when it fits and has fewer than 65536 bytes, or when it does not
fit and its last write fails as well. -/
theorem neverTruncated_iff (room : 15 ≤ size.toNat) :
    NeverTruncated packet size message ↔
      (Fits size message ∧ total message < 65536) ∨
        (¬ Fits size message ∧ ∃ left, roomLeft size message = some ⟨left, true⟩) := by
  unfold NeverTruncated
  dsimp only
  by_cases fits : Fits size message
  · rw [write_fits fits]
    constructor
    · intro law
      refine .inl ⟨fits, Nat.lt_of_not_le fun long => ?_⟩
      exact not_whole long _ (law.2 fits)
    · rintro (⟨_, short⟩ | ⟨misses, _⟩)
      · exact ⟨fun misses => absurd fits misses, fun _ => updatePacketLength_whole fits short⟩
      · exact absurd fits misses
  · have reported : ((packet.write size message).getErrorCode ≠ 0 ∧
        (packet.write size message).buffer.written ≤ size.toNat) ↔
        ∃ left, roomLeft size message = some ⟨left, true⟩ := by
      obtain ⟨-, tracks⟩ := write_tracks packet message room
      cases left : roomLeft size message with
      | none =>
          rw [left] at tracks
          dsimp only at tracks
          exact iff_of_false (by omega) (by simp)
      | some after =>
          rw [left] at tracks
          obtain ⟨written, clear⟩ := tracks
          rw [Serializer.getErrorCode, ne_eq, clear, Bool.not_eq_false]
          constructor
          · rintro ⟨failed, -⟩
            exact ⟨after.left, by rw [← failed]⟩
          · rintro ⟨rest, same⟩
            rw [Option.some.injEq] at same
            rw [same]
            exact ⟨rfl, by omega⟩
    constructor
    · intro law
      exact .inr ⟨fits, reported.mp (law.1 fits)⟩
    · rintro (⟨fit, _⟩ | ⟨_, failed⟩)
      · exact absurd fit fits
      · exact ⟨fun _ => reported.mpr failed, fun fit => absurd fit fits⟩

end Header

/-- A reply is sent only when it fits, and then it is whole. -/
def SendsWhole {element : Archive} (packet : Packet) (size retCode : UInt32)
    (items : List element.Value) (sent : Option DataBuffer) : Prop :=
  ∀ buffer ∈ sent, Fits size (replyMessage retCode items) ∧
    Whole packet (replyMessage retCode items) buffer

/-- The handlers always send. -/
theorem sendsWhole_reply_iff {element : Archive} (packet : Packet) {size : UInt32}
    (small : size.toNat < 65536) (retCode : UInt32) (items : List element.Value) :
    SendsWhole packet size retCode items (reply packet size retCode items) ↔
      Fits size (replyMessage retCode items) := by
  constructor
  · intro sends
    exact (sends _ rfl).1
  · rintro fits buffer ⟨⟩
    rw [write_fits fits]
    exact ⟨fits, updatePacketLength_whole fits (Nat.lt_of_le_of_lt fits.2 small)⟩

/-- Everything is reported or whole exactly when it fits or the last write fails, and the two
handlers send whole replies exactly when these fit their buffers. -/
theorem packets_reported_iff (packet : Packet) {size : UInt32} (room : 15 ≤ size.toNat)
    (message : Message) (retCode : UInt32) (lti : List archvTaskInfo.Value)
    (lf : List archvFriendAddPro.Value) :
    (NeverTruncated packet size message ↔
      (Fits size message ∧ total message < 65536) ∨
        (¬ Fits size message ∧ ∃ left, roomLeft size message = some ⟨left, true⟩)) ∧
    (SendsWhole packet 1024 retCode lti (replyGetRoleTask packet retCode lti) ↔
      Fits 1024 (replyMessage retCode lti)) ∧
    (SendsWhole packet 12288 retCode lf (replyGetFriend packet retCode lf) ↔
      Fits 12288 (replyMessage retCode lf)) :=
  ⟨neverTruncated_iff room, sendsWhole_reply_iff packet (by decide) retCode lti,
    sendsWhole_reply_iff packet (by decide) retCode lf⟩

section Examples

def emptyPacket : Packet := ⟨0, 2, 1, 1, 701, 0, 7⟩

/-- A byte behind a number. -/
def numberAndByte : Message := ⟨[.fixed .uInt32, .fixed .byte], ((5 : UInt32), (6 : UInt8), ())⟩

theorem packets_reported_short :
    NeverTruncated emptyPacket 20 numberAndByte ∧
      SendsWhole emptyPacket 1024 0 ([] : List archvTaskInfo.Value)
        (replyGetRoleTask emptyPacket 0 []) ∧
      SendsWhole emptyPacket 12288 0 ([] : List archvFriendAddPro.Value)
        (replyGetFriend emptyPacket 0 []) := by
  have room : 15 ≤ (20 : UInt32).toNat := by decide
  have law := packets_reported_iff emptyPacket room numberAndByte 0 [] []
  have none {element : Archive} : Archive.SmallList (Archive.Small element) [] :=
    ⟨Nat.zero_lt_succ 65535, List.forall_mem_nil _⟩
  refine ⟨law.1.mpr (.inl ⟨⟨⟨trivial, trivial, trivial⟩, by decide⟩, by decide⟩), law.2.1.mpr ?_,
    law.2.2.mpr ?_⟩
  · exact ⟨⟨trivial, none, trivial⟩, by decide⟩
  · exact ⟨⟨trivial, none, trivial⟩, by decide⟩

/-- A task whose name is longer than the buffer of the reply. -/
def longTask : archvTaskInfo.Value :=
  ((1 : UInt32), List.replicate 1024 65, (1 : UInt8), (1 : UInt8), [], ())

/-- The byte still fits and hides the number that is missing. -/
theorem packets_not_reported :
    ¬ (∀ (packet : Packet) (size : UInt32), 15 ≤ size.toNat → ∀ message,
        NeverTruncated packet size message) ∧
      ¬ (∀ (packet : Packet) (retCode : UInt32) (lti : List archvTaskInfo.Value),
        SendsWhole packet 1024 retCode lti (replyGetRoleTask packet retCode lti)) := by
  constructor
  · intro law
    have misses : ¬ Fits 16 numberAndByte := fun fits => absurd fits.2 (by decide)
    exact ((law emptyPacket 16 (by decide) numberAndByte).1 misses).1 (by decide)
  · intro law
    exact absurd (law emptyPacket 0 [longTask] _ rfl).1.2 (by decide +kernel)

end Examples

end Packet

end AppSvr.BaseServer
