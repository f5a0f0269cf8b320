/-
This file proves the round trips of the packet header, the message buffer, and the connection
identifier.
-/

import AppSvr.Construction.Gateway.AppGwSvc
import AppSvr.ToMathlib.Framing
import Mathlib.Data.List.GetD
import Mathlib.Tactic.NormNum

namespace AppSvr.Gateway
open LittleEndian Framing

variable (input : List UInt8)

/-- A field fits its width. -/
theorem field_lt (offset width : Nat) :
    field input offset width < 256 ^ width := by
  have bound := decode_lt ((input.drop offset).take width)
  have short : ((input.drop offset).take width).length ≤ width := List.length_take_le _ _
  exact lt_of_lt_of_le bound (Nat.pow_le_pow_right (by decide) short)

/-- A field inside the kept front does not change. -/
theorem field_take {input : List UInt8} {offset width kept : Nat}
    (inside : offset + width ≤ kept) :
    field (input.take kept) offset width = field input offset width := by
  unfold field
  rw [List.drop_take, List.take_take, Nat.min_eq_left (by omega)]

/-- The encoding of a present field restores its bytes. -/
theorem encode_field (offset width : Nat)
    (present : offset + width ≤ input.length) :
    encode width (field input offset width) = (input.drop offset).take width := by
  have length : ((input.drop offset).take width).length = width := by
    rw [List.length_take, List.length_drop]
    omega
  have restored := encode_decode ((input.drop offset).take width)
  rwa [length] at restored

/-- The header is read from the first fifteen bytes. -/
theorem unpacket_take :
    PkgHead.unpacket (input.take PkgHead.size) = PkgHead.unpacket input := by
  unfold PkgHead.unpacket PkgHead.size
  simp (disch := decide) only [field_take]

theorem unpacket_append {front : List UInt8} (present : PkgHead.size ≤ front.length)
    (back : List UInt8) : PkgHead.unpacket (front ++ back) = PkgHead.unpacket front := by
  rw [← unpacket_take (front ++ back), ← unpacket_take front,
    List.take_append_of_le_length present]

/-- The length field declares the packet; the check accepts the lengths from 15 to 65534. -/
def pkgFormat : Format UInt8 where
  headerSize := PkgHead.size
  declared stream := (PkgHead.unpacket stream).usPkgLen.toNat
  accepted length := PkgHead.size ≤ length ∧ length ≤ ConnectSession.maxPkgLen
  header_local front back present := by rw [unpacket_append present]
  accepted_header length accepts := (of_decide_eq_true accepts).1
  header_positive := by decide

/-- The declared length is the two-byte field at the front. -/
theorem pkgFormat_declared (stream : List UInt8) :
    pkgFormat.declared stream = field stream 0 2 := by
  have bound : field stream 0 2 < 2 ^ 16 := field_lt stream 0 2
  show (UInt16.ofNat (field stream 0 2)).toNat = field stream 0 2
  rw [UInt16.toNat_ofNat', Nat.mod_eq_of_lt bound]

@[simp] theorem PkgHead.packet_length (head : PkgHead) : head.packet.length = PkgHead.size := by
  simp [PkgHead.packet, PkgHead.size]

/-- The one-byte field is the byte at its offset. -/
theorem field_byte (offset : Nat) (present : offset < input.length) :
    [UInt8.ofNat (field input offset 1)] = (input.drop offset).take 1 := by
  have bytes := encode_field input offset 1 (by omega)
  simpa [encode] using bytes

/-- Two adjacent slices join. -/
theorem slice_join (offset first second : Nat) :
    (input.drop offset).take first ++ (input.drop (offset + first)).take second =
      (input.drop offset).take (first + second) := by
  rw [List.take_add, List.drop_drop]

/-- Packing the header that was read returns its bytes. -/
theorem packet_unpacket {input : List UInt8} (present : PkgHead.size ≤ input.length) :
    (PkgHead.unpacket input).packet = input.take PkgHead.size := by
  have enough : 15 ≤ input.length := present
  have direction := field_byte input 2 (by omega)
  have srvType := field_byte input 3 (by omega)
  have srvSeq := field_byte input 4 (by omega)
  have bytes :
      (PkgHead.unpacket input).packet =
        (input.drop 0).take 2 ++ ((input.drop 2).take 1 ++ ((input.drop 3).take 1 ++
          ((input.drop 4).take 1 ++ ((input.drop 5).take 2 ++ ((input.drop 7).take 4 ++
            (input.drop 11).take 4))))) := by
    rw [← encode_field input 0 2 (by omega),
      ← encode_field input 5 2 (by omega),
      ← encode_field input 7 4 (by omega),
      ← encode_field input 11 4 (by omega),
      ← direction, ← srvType, ← srvSeq]
    simp only [PkgHead.packet, PkgHead.unpacket, UInt16.toNat_ofNat', UInt32.toNat_ofNat',
      Nat.mod_eq_of_lt (show field input 0 2 < 2 ^ 16 from field_lt input 0 2),
      Nat.mod_eq_of_lt (show field input 5 2 < 2 ^ 16 from field_lt input 5 2),
      Nat.mod_eq_of_lt (show field input 7 4 < 2 ^ 32 from field_lt input 7 4),
      Nat.mod_eq_of_lt (show field input 11 4 < 2 ^ 32 from field_lt input 11 4),
      List.append_assoc, List.cons_append, List.nil_append]
  rw [bytes, slice_join input 7 4 4, slice_join input 5 2 8, slice_join input 4 1 10,
    slice_join input 3 1 11, slice_join input 2 1 12, slice_join input 0 2 13, List.drop_zero]
  rfl

/-- Reading the packed header returns it. -/
theorem unpacket_packet (head : PkgHead) : PkgHead.unpacket head.packet = head := by
  have short (value : UInt16) : UInt16.ofNat (decode (encode 2 value.toNat)) = value := by
    rw [decode_encode_of_lt value.toNat_lt, UInt16.ofNat_toNat]
  have word (value : UInt32) : UInt32.ofNat (decode (encode 4 value.toNat)) = value := by
    rw [decode_encode_of_lt value.toNat_lt, UInt32.ofNat_toNat]
  have byte (value : UInt8) : UInt8.ofNat (decode [value]) = value := by simp
  cases head with
  | mk usPkgLen ucDirection ucSrvType ucSrvSeq usMsgType uiUniqID uiRoleID =>
      calc PkgHead.unpacket _
        _ = ⟨UInt16.ofNat (decode (encode 2 usPkgLen.toNat)), UInt8.ofNat (decode [ucDirection]),
              UInt8.ofNat (decode [ucSrvType]), UInt8.ofNat (decode [ucSrvSeq]),
              UInt16.ofNat (decode (encode 2 usMsgType.toNat)),
              UInt32.ofNat (decode (encode 4 uiUniqID.toNat)),
              UInt32.ofNat (decode (encode 4 uiRoleID.toNat))⟩ := rfl
        _ = _ := by simp only [short, word, byte]

/-- A changed role replaces the last four bytes of the header. -/
theorem packet_unpacket_role {input : List UInt8} (present : PkgHead.size ≤ input.length)
    (uiRoleID : UInt32) :
    ({ PkgHead.unpacket input with uiRoleID := uiRoleID } : PkgHead).packet =
      input.take 11 ++ encode 4 uiRoleID.toNat := by
  have enough : 15 ≤ input.length := present
  have same := packet_unpacket present
  have front : (PkgHead.unpacket input).packet.take 11 = input.take 11 := by
    rw [same, List.take_take]
    rfl
  rw [← front]
  simp [PkgHead.packet, encode]

/-- A buffer read inside the copied packet sees only the packet. -/
theorem read_copyIn {packet : List UInt8} {offset length : Nat}
    (inside : offset + length ≤ packet.length) (buffer : MsgBuffer) :
    (buffer.copyIn packet).read offset length = (packet.drop offset).take length := by
  apply List.ext_getElem
  · simp only [MsgBuffer.read, List.length_map, List.length_range, List.length_take,
      List.length_drop]
    omega
  · intro index below _
    have small : index < length := by simpa [MsgBuffer.read] using below
    simp only [MsgBuffer.read, MsgBuffer.copyIn, List.getElem_map, List.getElem_range,
      List.getElem_take, List.getElem_drop]
    rw [List.getD_eq_getElem _ _ (by omega)]

theorem head_copyIn {packet : List UInt8} (present : PkgHead.size ≤ packet.length)
    (buffer : MsgBuffer) : (buffer.copyIn packet).head = PkgHead.unpacket packet := by
  unfold MsgBuffer.head
  rw [read_copyIn (by omega), List.drop_zero, unpacket_take]

/-- A buffer read behind the copied packet sees only the earlier content. -/
theorem copyIn_behind {packet : List UInt8} {offset : Nat} (behind : packet.length ≤ offset)
    (buffer : MsgBuffer) : buffer.copyIn packet offset = buffer offset := by
  unfold MsgBuffer.copyIn
  exact List.getD_eq_default _ _ behind

/-- A package of a representable size starts with its own size. -/
theorem encodeLength_eq {buff : PkgBuff} (small : buff.length < 2 ^ 16) :
    PkgBuff.encodeLength buff = encode 2 buff.length ++ buff.drop 2 := by
  unfold PkgBuff.encodeLength
  rw [UInt16.toNat_ofNat', Nat.mod_eq_of_lt small]

section ConnectionIdentifier

/-- The descriptor of an identifier is its remainder modulo sixteen bits. -/
theorem connectionFd_eq (connId : UInt64) :
    connectionFd connId = (connId.toNat % 2 ^ 16 : Nat) := by
  have mask : (0xFFFF : UInt64).toNat = 2 ^ 16 - 1 := rfl
  unfold connectionFd
  rw [UInt64.toNat_and, mask, Nat.and_two_pow_sub_one_eq_mod]

/-- The address of an identifier is its quotient by thirty-two bits. -/
theorem connectionIp_toNat (connId : UInt64) :
    (connectionIp connId).toNat = connId.toNat / 2 ^ 32 := by
  have bound := connId.toNat_lt
  unfold connectionIp
  simp [Nat.shiftRight_eq_div_pow]
  omega

/-- The identifier joins its three parts bit by bit. -/
theorem connectionId_toNat (ip : UInt32) (port : UInt16) (fd : Nat) (small : fd < 2 ^ 32) :
    (connectionId ip port fd).toNat =
      ip.toNat <<< 32 ||| (port.toNat <<< 16 ||| fd) := by
  have ipBound := ip.toNat_lt
  have portBound := port.toNat_lt
  have ipShift : ip.toNat <<< 32 < 2 ^ 64 := by
    rw [Nat.shiftLeft_eq]
    omega
  have portShift : port.toNat <<< 16 < 2 ^ 64 := by
    rw [Nat.shiftLeft_eq]
    omega
  unfold connectionId
  simp only [UInt64.toNat_or, UInt64.toNat_shiftLeft, UInt32.toNat_toUInt64,
    UInt16.toNat_toUInt64, UInt64.toNat_ofNat']
  rw [Nat.mod_eq_of_lt (by omega : fd < 2 ^ 64)]
  exact congrArg₂ _ (Nat.mod_eq_of_lt ipShift) (congrArg (· ||| fd) (Nat.mod_eq_of_lt portShift))

/-- The identifier keeps the low sixteen bits of the descriptor. -/
theorem connectionFd_connectionId (ip : UInt32) (port : UInt16) (fd : Nat) (small : fd < 2 ^ 32) :
    connectionFd (connectionId ip port fd) = (fd % 2 ^ 16 : Nat) := by
  have ipLow : ip.toNat <<< 32 % 2 ^ 16 = 0 := by
    rw [Nat.shiftLeft_eq]
    omega
  have portLow : port.toNat <<< 16 % 2 ^ 16 = 0 := by
    rw [Nat.shiftLeft_eq]
    omega
  rw [connectionFd_eq, connectionId_toNat ip port fd small, Nat.or_mod_two_pow, ipLow,
    Nat.or_mod_two_pow, portLow, Nat.zero_or, Nat.zero_or]

/-- The identifier keeps the address. -/
theorem connectionIp_connectionId (ip : UInt32) (port : UInt16) (fd : Nat)
    (small : fd < 2 ^ 32) : connectionIp (connectionId ip port fd) = ip := by
  have portBound := port.toNat_lt
  have low : port.toNat <<< 16 ||| fd < 2 ^ 32 := by
    apply Nat.or_lt_two_pow
    · rw [Nat.shiftLeft_eq]
      omega
    · exact small
  apply UInt32.toNat_inj.mp
  rw [connectionIp_toNat, connectionId_toNat ip port fd small,
    ← Nat.shiftLeft_add_eq_or_of_lt low, Nat.shiftLeft_eq]
  omega

end ConnectionIdentifier

end AppSvr.Gateway
