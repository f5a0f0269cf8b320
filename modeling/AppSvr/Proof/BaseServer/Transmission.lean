/-
This file proves that packets arrive whole and in their order, and what is read from them.
-/

import AppSvr.Proof.BaseServer.PacketWrites
import AppSvr.Proof.BaseServer.ServerStreams
import AppSvr.Proof.BaseServer.Truncation
import AppSvr.Proof.Gateway.Stream

namespace AppSvr.BaseServer

open Framing TransitionSystem

namespace Packet

/-- A read of an encoded field restores it. -/
theorem readField_encoded {Value : Type} {type : Fixed Value} {value : Value} (field : Value)
    {buffer : DataBuffer} {rest : List UInt8} (unread : buffer.unread = type.toBytes value ++ rest) :
    readField type field buffer = (value, buffer.advance (type.toBytes value) rest) := by
  rw [readField, DataBuffer.read_front (type.toBytes_length value) unread]
  dsimp only
  rw [type.ofBytes_toBytes]

/-- Every field of the header is read where it was written. -/
theorem unpackHeader_encoded (packet old : Packet) {buffer : DataBuffer} {rest : List UInt8}
    (unread : buffer.unread = packet.header ++ rest) :
    old.unpackHeader buffer = (packet, buffer.advance packet.header rest) := by
  simp only [header, headerWrites, List.flatten_cons, List.flatten_nil, List.append_nil,
    List.append_assoc] at unread ⊢
  rw [unpackHeader, readField_encoded _ unread]
  iterate 6
    dsimp only
    rw [readField_encoded _ rfl]
  simp

/-- A handler chains `>>` over its locals behind the header. -/
def receive {chain : List Archive} (packet : Packet) (objects : Archive.Values chain)
    (buffer : DataBuffer) : Packet × Archive.Values chain × Serializer :=
  let (packet, buffer) := packet.unpackHeader buffer
  (packet, Archive.loadChain chain objects (.new buffer))

end Packet

section Gateway

open Gateway (PkgHead pkgFormat)

/-- The gateway's header has the same fields. -/
def Packet.pkgHead (packet : Packet) : PkgHead :=
  ⟨packet.length, packet.direction, packet.svrType, packet.svrSeq, packet.msgType, packet.uniqID,
    packet.roleID⟩

theorem Packet.pkgHead_packet (packet : Packet) : packet.pkgHead.packet = packet.header := by
  have byte (value : UInt8) : Fixed.byte.toBytes value = [value] := by
    change [UInt8.ofNat value.toNat] = [value]
    rw [UInt8.ofNat_toNat]
  simp only [header, headerWrites, byte, List.flatten_cons, List.flatten_nil, List.append_nil]
  rfl

/-- Where both accept the length they cut the same packets out of a stream. -/
theorem isFrame_iff (maxMsgSize : UInt32) (bytes : List UInt8) :
    (serverFormat maxMsgSize).IsFrame bytes ∧ bytes.length ≤ Gateway.ConnectSession.maxPkgLen ↔
      pkgFormat.IsFrame bytes ∧ bytes.length ≤ maxMsgSize.toNat := by
  have declared : pkgFormat.declared bytes = (serverFormat maxMsgSize).declared bytes := rfl
  have headers : PkgHead.size = packetHeaderLength := rfl
  simp only [Format.IsFrame, declared]
  simp only [serverFormat, pkgFormat, decide_eq_true_eq]
  omega

/-- The gateway and the servers read the headers of each other, and where both accept the length they
cut the same packets out of a stream. -/
theorem headers_agree (packet old : Packet) (size maxMsgSize : UInt32) (bytes rest : List UInt8) :
    PkgHead.unpacket (packet.header ++ rest) = packet.pkgHead ∧
    old.unpackHeader ⟨size, [], packet.pkgHead.packet ++ rest⟩ =
      (packet, ⟨size, packet.header, rest⟩) ∧
    ((serverFormat maxMsgSize).IsFrame bytes ∧ bytes.length ≤ Gateway.ConnectSession.maxPkgLen ↔
      pkgFormat.IsFrame bytes ∧ bytes.length ≤ maxMsgSize.toNat) := by
  refine ⟨?_, ?_, ?_⟩
  · rw [← packet.pkgHead_packet, Gateway.unpacket_append (PkgHead.packet_length _).ge,
      Gateway.unpacket_packet]
  · rw [packet.pkgHead_packet]
    exact Packet.unpackHeader_encoded packet old rfl
  · exact isFrame_iff maxMsgSize bytes

end Gateway

/-- The values fit their buffer, and the receiver accepts the packet. -/
structure Sending (maxMsgSize : UInt32) where
  packet : Packet
  size : UInt32
  message : Message
  fits : Packet.Fits size message
  short : Packet.total message < 65536
  accepted : Packet.total message ≤ maxMsgSize.toNat

namespace Sending

variable {maxMsgSize : UInt32} (sending : Sending maxMsgSize)

/-- These bytes are sent. -/
def bytes : List UInt8 :=
  (sending.packet.updatePacketLength
    (sending.packet.write sending.size sending.message).buffer).2.unread

/-- The header that is sent declares the number of the bytes. -/
def header : Packet := { sending.packet with length := UInt16.ofNat sending.bytes.length }

theorem bytes_eq : sending.bytes = sending.header.header ++
    Archive.entriesBytes sending.message.1 sending.message.2 := by
  have whole : sending.packet.Whole sending.message (sending.packet.updatePacketLength
      (sending.packet.write sending.size sending.message).buffer).2 := by
    rw [Packet.write_fits sending.fits]
    exact Packet.updatePacketLength_whole sending.fits sending.short
  obtain ⟨-, length, exact, same⟩ := whole
  have declared : UInt16.ofNat sending.bytes.length = length := by
    rw [bytes, ← exact, UInt16.ofNat_toNat]
  rw [header, declared]
  exact same

theorem bytes_length : sending.bytes.length = Packet.total sending.message := by
  rw [bytes_eq, List.length_append, Packet.header_length, Packet.total]

theorem isFrame : (serverFormat maxMsgSize).IsFrame sending.bytes := by
  have present : packetHeaderLength ≤ sending.bytes.length := by
    rw [bytes_length, Packet.total]
    exact Nat.le_add_right 15 _
  have declared : Session.headerLength sending.bytes = sending.header.length := by
    have front : sending.bytes.take 2 = Fixed.uInt16.toBytes sending.header.length := by
      rw [bytes_eq, Packet.header_eq, List.append_assoc]
      exact List.take_left' (Fixed.uInt16.toBytes_length _)
    change Fixed.uInt16.ofBytes (sending.bytes.take 2) = _
    rw [front, Fixed.uInt16.ofBytes_toBytes]
  have short := sending.short
  rw [← bytes_length] at short
  refine ⟨present, ?_, decide_eq_true ⟨present, ?_⟩⟩
  · change (Session.headerLength sending.bytes).toNat = _
    rw [declared, header, UInt16.toNat_ofNat', Nat.mod_eq_of_lt short]
  · rw [bytes_length]
    exact sending.accepted

/-- A receiver reads the header that was sent and consumes all values without an error. It restores
the values in bare objects when they are separate, and else not. -/
theorem receive_iff (old : Packet) (size : UInt32) (objects : Archive.Values sending.message.1) :
    ∃ values, old.receive objects ⟨size, [], sending.bytes⟩ =
        (sending.header, values, ⟨⟨size, sending.bytes, []⟩, 0⟩) ∧
      (values = sending.message.2 ↔ Archive.BareEntries _ objects ∧
        Archive.SeparateEntries _ sending.message.2) := by
  refine ⟨_, ?_, Archive.overlayEntries_eq_iff _ objects sending.message.2⟩
  have unread : (DataBuffer.mk size [] sending.bytes).unread = _ := sending.bytes_eq
  rw [Packet.receive, sending.header.unpackHeader_encoded old unread]
  dsimp only
  rw [Archive.loadChain_encoded _ _ sending.fits.1 objects _ [] rfl (List.append_nil _).symm,
    Serializer.new, DataBuffer.advance_advance, ← bytes_eq]
  rfl

end Sending

/-- Packets that were sent one after the other are pushed in this order, and each of them as soon as
its last byte has arrived. -/
def Transmits (maxMsgSize : UInt32) (stream : List UInt8) (pushed : List (List UInt8)) : Prop :=
  ∀ sendings : List (Sending maxMsgSize), stream <+: (sendings.map Sending.bytes).flatten →
    pushed <+: sendings.map Sending.bytes ∧ ∀ front, front <+: sendings.map Sending.bytes →
      front.flatten <+: stream → front <+: pushed

/-- A parse transmits when its format has the frames of a server. -/
theorem transmits_of_parses {maxMsgSize : UInt32} {format : Format UInt8} {stream rest : List UInt8}
    {pushed : List (List UInt8)} (parses : format.Parses stream pushed rest)
    (frames : ∀ sending : Sending maxMsgSize, format.IsFrame sending.bytes) :
    Transmits maxMsgSize stream pushed := by
  intro sendings sent
  refine frames_arrive parses (fun packet member => ?_) sent
  obtain ⟨sending, -, rfl⟩ := List.mem_map.mp member
  exact frames sending

/-- This packet has five bytes behind its header. -/
def greeting : Sending 100 where
  packet := Packet.emptyPacket
  size := 20
  message := Packet.numberAndByte
  fits := ⟨⟨trivial, trivial, trivial⟩, by decide⟩
  short := by decide
  accepted := by decide

end AppSvr.BaseServer
