/-
This file proves what the gateway forwards for a received packet.
-/

import AppSvr.Proof.Gateway.Keeps
import AppSvr.Proof.Gateway.PkgHead

namespace AppSvr.Gateway
open LittleEndian Framing

/-- A received packet keeps its bytes but takes another header role. -/
def withRole (packet : List UInt8) (uiRoleID : UInt32) : List UInt8 :=
  packet.take 11 ++ encode 4 uiRoleID.toNat ++ packet.drop PkgHead.size

section WithRole

variable {packet : List UInt8} (frame : pkgFormat.IsFrame packet)
include frame

/-- A frame has a whole header and at most the accepted length. -/
theorem frame_bounds : PkgHead.size ≤ packet.length ∧ packet.length < 2 ^ 16 := by
  have accepts := of_decide_eq_true frame.2.2
  have longest : ConnectSession.maxPkgLen = 65534 := by decide
  exact ⟨accepts.1, by omega⟩

theorem withRole_length (uiRoleID : UInt32) :
    (withRole packet uiRoleID).length = packet.length := by
  have bounds := (frame_bounds frame).1
  have header : PkgHead.size = 15 := rfl
  simp only [withRole, List.length_append, List.length_take, encode_length, List.length_drop]
  omega

/-- The header of the changed packet differs only in its role. -/
theorem unpacket_withRole (uiRoleID : UInt32) :
    PkgHead.unpacket (withRole packet uiRoleID) =
      { PkgHead.unpacket packet with uiRoleID := uiRoleID } := by
  have bounds := (frame_bounds frame).1
  have header := packet_unpacket_role bounds uiRoleID
  rw [withRole, ← header, unpacket_append (by rw [PkgHead.packet_length]), unpacket_packet]

/-- The changed packet is a frame again. -/
theorem withRole_frame (uiRoleID : UInt32) : pkgFormat.IsFrame (withRole packet uiRoleID) := by
  have length := withRole_length frame uiRoleID
  have head := unpacket_withRole frame uiRoleID
  obtain ⟨present, declared, accepts⟩ := frame
  have same : pkgFormat.declared (withRole packet uiRoleID) = pkgFormat.declared packet := by
    show (PkgHead.unpacket (withRole packet uiRoleID)).usPkgLen.toNat = _
    rw [head]
    rfl
  exact ⟨by rw [length]; exact present, by rw [same, declared, length],
    by rw [length]; exact accepts⟩

/-- The translation of a whole packet changes only its header role. -/
theorem tranPkg_copyIn (buffer : MsgBuffer) (uiRoleID : UInt32) :
    tranPkg { (buffer.copyIn packet).head with uiRoleID := uiRoleID } (buffer.copyIn packet)
      (buffer.copyIn packet).head.usPkgLen = withRole packet uiRoleID := by
  obtain ⟨present, small⟩ := frame_bounds frame
  have declared : (PkgHead.unpacket packet).usPkgLen.toNat = packet.length := frame.2.1
  have length := withRole_length frame uiRoleID
  have framed := withRole_frame frame uiRoleID
  have body : (buffer.copyIn packet).read PkgHead.size (packet.length - PkgHead.size) =
      packet.drop PkgHead.size := by
    rw [read_copyIn (by omega)]
    exact List.take_of_length_le (by rw [List.length_drop])
  have joined : (PkgBuff.append [] ({ PkgHead.unpacket packet with uiRoleID := uiRoleID } :
      PkgHead).packet).append (packet.drop PkgHead.size) = withRole packet uiRoleID := by
    simp [PkgBuff.append, withRole, packet_unpacket_role present]
  -- the length field already holds the size, so writing it again changes nothing
  have front : (withRole packet uiRoleID).take 2 = encode 2 packet.length := by
    have field := encode_field (withRole packet uiRoleID) 0 2 (by
      have header : PkgHead.size = 15 := rfl
      omega)
    rw [List.drop_zero, ← pkgFormat_declared, framed.2.1, length] at field
    exact field.symm
  rw [tranPkg, head_copyIn present, declared, body, joined,
    encodeLength_eq (by rw [length]; exact small), length, ← front, List.take_append_drop]

end WithRole

namespace AppGwSvc

/-- A client packet that is not a login is dropped, answered, or forwarded with the role of its
session. -/
theorem processC2S_translated (svc : AppGwSvc) (kernel : Kernel) {req : SessionPtr}
    {s : ConnectSession} (live : svc.sessions req = some s) {packet : List UInt8}
    (frame : pkgFormat.IsFrame packet) (buffer : MsgBuffer)
    (other : ¬ isLoginC2S (buffer.copyIn packet).head) :
    svc.processC2S kernel req (buffer.copyIn packet) = svc ∨
      (∃ pkgHead uiRetCode, svc.processC2S kernel req (buffer.copyIn packet) =
        svc.answerClient kernel 0 req (makeClientAckPkg pkgHead uiRetCode)) ∨
      ∃ srv, s.loginStatus ≠ 0 ∧ svc.processC2S kernel req (buffer.copyIn packet) =
        svc.sendToServer kernel req srv (buffer.copyIn packet).head (withRole packet s.roleID) := by
  unfold processC2S
  rw [live]
  dsimp only
  cases route : svc.routeC2S s (buffer.copyIn packet) with
  | drop => exact .inl rfl
  | ack pkgHead uiRetCode => exact .inr (.inl ⟨pkgHead, uiRetCode, rfl⟩)
  | forward srv pkgbuff =>
      obtain ⟨-, ⟨login, -⟩ | ⟨-, logged, rfl⟩⟩ := routeC2S_forward route
      · exact absurd login other
      rw [tranPkg_copyIn frame]
      exact .inr (.inr ⟨srv, logged, rfl⟩)

/-- A server packet that is not a login answer is dropped or forwarded without its role. -/
theorem processS2C_translated (svc : AppGwSvc) (kernel : Kernel) {packet : List UInt8}
    (frame : pkgFormat.IsFrame packet) (buffer : MsgBuffer)
    (other : ¬ isLoginS2C (buffer.copyIn packet).head) :
    svc.processS2C kernel (buffer.copyIn packet) = svc ∨
      ∃ client, svc.findRoleConnSession (buffer.copyIn packet).head.uiRoleID = some client ∧
        svc.processS2C kernel (buffer.copyIn packet) =
          svc.sendToClient kernel client (withRole packet 0) := by
  unfold processS2C
  dsimp only
  split
  · exact .inl rfl
  · split
    · exact .inl rfl
    · rename_i client found
      rw [tranPkg_copyIn frame]
      exact .inr ⟨client, found, rfl⟩

end AppGwSvc

end AppSvr.Gateway
