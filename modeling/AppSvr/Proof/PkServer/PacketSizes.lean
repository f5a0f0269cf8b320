/-
This file proves which packets of a battle fit their buffers and have their true length in the head.
-/

import AppSvr.Construction.PkServer.Packets
import AppSvr.Proof.PkServer.MovePackets

namespace AppSvr.PkServer
open LocalBuffers

section Reading

theorem readSkills_length {count : Nat} {input rest : List UInt8} {skills : List (Int × Int)}
    (read : readSkills count input = some (skills, rest)) :
    skills.length = count ∧ input.length = 3 * count + rest.length := by
  induction count generalizing input skills with
  | zero =>
      cases Option.some.inj read
      exact ⟨rfl, (Nat.zero_add _).symm⟩
  | succ count ih =>
      unfold readSkills at read
      split at read
      · cases read
      · next long =>
          obtain ⟨⟨others, left⟩, found, same⟩ := Option.map_eq_some_iff.mp read
          cases same
          obtain ⟨number, length⟩ := ih found
          rw [List.length_drop] at length
          rw [List.length_cons, number]
          omega

theorem readRole_length {input rest : List UInt8} {role : RoleInput}
    (read : readRole input = some (role, rest)) :
    input.length = 61 + 3 * role.skills.length + rest.length := by
  unfold readRole at read
  split at read
  · cases read
  · next long =>
      obtain ⟨⟨skills, left⟩, found, same⟩ := Option.map_eq_some_iff.mp read
      obtain ⟨number, length⟩ := readSkills_length found
      obtain ⟨fields, left⟩ := Prod.mk.inj same
      have kept : role.skills = skills := (congrArg RoleInput.skills fields).symm
      rw [List.length_drop] at length
      rw [kept, number, ← left]
      dsimp only
      omega

/-- The skills of all roles. -/
def skillCount (roles : List RoleInput) : Nat := (roles.map fun role => role.skills.length).sum

theorem readRoles_length {count : Nat} {input rest : List UInt8} {roles : List RoleInput}
    (read : readRoles count input = some (roles, rest)) :
    input.length = 61 * roles.length + 3 * skillCount roles + rest.length := by
  induction count generalizing input roles rest with
  | zero =>
      cases Option.some.inj read
      simp [skillCount]
  | succ count ih =>
      unfold readRoles at read
      obtain ⟨⟨role, left⟩, first, later⟩ := Option.bind_eq_some_iff.mp read
      obtain ⟨⟨others, behind⟩, found, same⟩ := Option.map_eq_some_iff.mp later
      obtain ⟨list, last⟩ := Prod.mk.inj same
      have here := readRole_length first
      have there := ih found
      rw [← list, ← last, skillCount, List.map_cons, List.sum_cons, List.length_cons,
        ← skillCount]
      dsimp only at there ⊢
      omega

/-- The message has twelve bytes in front of its roles. -/
theorem readBegin_length {input rest : List UInt8} {roles : List RoleInput}
    (read : readBegin input = some (roles, rest)) :
    input.length = 12 + 61 * roles.length + 3 * skillCount roles + rest.length := by
  unfold readBegin at read
  split at read
  · cases read
  · next long =>
      have length := readRoles_length (Option.filter_eq_some_iff.mp read).1
      rw [List.length_drop] at length
      omega

end Reading

/-- The bytes stay within the buffers, and the head has their number. -/
structure Packet.Exact (packet : Packet) : Prop where
  message : packet.message.Holds
  buffer : packet.buffer.Holds
  usPkgLen : packet.usPkgLen = packet.buffer.bytes.length

/-- The buffer of the packet suffices for such a message. -/
def Broadcast.Small : Broadcast → Prop
  | move _ _ points => points.length ≤ 56
  | multiHurt targets _ => targets.length ≤ maxRoleCount
  | newRole .. => False
  | endGame _ _ _ records => records.length ≤ 24
  | _ => True

section Sizes

variable (sender : Sender) (now : Int)

theorem pkgHead_length (usPkgLen srvReq usMsgType uiUniqID uiRoleID : Int) :
    (pkgHead usPkgLen srvReq usMsgType uiUniqID uiRoleID).length = 15 := by
  simp [pkgHead, memory_length]

theorem packetHead_length (usPkgLen ucDirection ucSrvType ucSrvSeq usMsgType uiUniqID
    uiRoleID : Int) : (packetHead usPkgLen ucDirection ucSrvType ucSrvSeq usMsgType uiUniqID
      uiRoleID).length = 15 := by
  simp [packetHead, memory_length]

/-- A body of the announced size makes an exact packet. -/
theorem broadcast_exact (size : Nat) (usMsgType : Int) {body : List UInt8}
    (length : body.length = size) (short : size < 65521) :
    (broadcast sender size usMsgType body).Exact := by
  refine ⟨Nat.le_refl _, ?_, ?_⟩
  · rw [Buffer.Holds, broadcast, List.length_append, pkgHead_length, length]
  · rw [broadcast]
    dsimp only
    rw [List.length_append, pkgHead_length, length]
    unfold ushort lenPkgHead
    omega

/-- A message of forty-one bytes leaves its buffer of forty. -/
theorem brodacastSkillNewrole_not_holds (role : RoleState) (keepTime copiedID : Int)
    (effect : SkillType) :
    ¬ (brodacastSkillNewrole sender now role keepTime copiedID effect).message.Holds := by
  simp [brodacastSkillNewrole, newRoleMsg, Buffer.Holds, memory_length]

theorem brodacastMultiHurt_exact_iff (targets : List (Int × Int)) (effect : SkillType) :
    (brodacastMultiHurt sender now targets effect).Exact ↔ targets.length ≤ maxRoleCount := by
  have width (target : Int × Int) : (memory 4 target.1 ++ memory 2 target.2).length = 6 := by
    rw [List.length_append, memory_length, memory_length]
  have holds : (brodacastMultiHurt sender now targets effect).buffer.Holds ↔
      targets.length ≤ maxRoleCount := by
    unfold brodacastMultiHurt
    rw [holds_records_iff width, List.length_append, List.length_append, pkgHead_length,
      memory_length, memory_length, memory_length]
    omega
  refine ⟨fun exact => holds.mp exact.buffer, fun few => ⟨Nat.le_refl _, holds.mpr few, ?_⟩⟩
  unfold brodacastMultiHurt
  dsimp only
  rw [List.length_append, List.length_append, List.length_append, List.length_append,
    length_records width, pkgHead_length, memory_length, memory_length, memory_length]
  unfold maxRoleCount at few
  unfold ushort short lenPkgHead
  omega

theorem pos_bytes_length (pos : Pos) : (memory 2 pos.x ++ memory 2 pos.y).length = 4 := by
  rw [List.length_append, memory_length, memory_length]

theorem moveResp_holds_iff (role : Int) (mini : Pos) (points : List Pos) :
    (moveResp sender now role mini points).buffer.Holds ↔ points.length ≤ 56 := by
  unfold moveResp
  rw [holds_records_iff pos_bytes_length]
  simp only [List.length_append, pkgHead_length, memory_length, List.length_nil]
  omega

theorem moveResp_exact_iff (role : Int) (mini : Pos) (points : List Pos) :
    (moveResp sender now role mini points).Exact ↔ points.length ≤ 56 := by
  have holds := moveResp_holds_iff sender now role mini points
  refine ⟨fun exact => holds.mp exact.buffer, fun few => ⟨Nat.le_refl _, holds.mpr few, ?_⟩⟩
  unfold moveResp
  dsimp only
  rw [List.append_nil, List.length_append, length_records pos_bytes_length]
  simp only [List.length_append, pkgHead_length, memory_length]
  unfold ushort short lenPkgHead
  omega

/-- This is the packet that `AStar` sends, unless it leaves its buffer. -/
theorem movePacket_eq_moveResp {direct id : Int} {mini first : Pos} {line turns : List Pos}
    (known : turnPoints direct (first :: line) = some turns) :
    let packet := moveResp sender now id mini (first :: turns)
    movePacket sender.srvReq sender.uiUniqID sender.controlID id now mini direct (first :: line) =
      if packet.buffer.Holds then some packet.buffer.bytes else none := by
  intro packet
  have holds : packet.buffer.Holds ↔ (first :: turns).length ≤ 56 :=
    moveResp_holds_iff sender now id mini (first :: turns)
  rw [movePacket_eq known]
  by_cases few : (first :: turns).length ≤ 56
  · have posLen : short (lenPkgHead + 4 + 4 + 4 + 2 + 4 * ((first :: turns).length : Nat)) =
        29 + 4 * ((first :: turns).length : Nat) := by
      unfold short lenPkgHead
      omega
    have count : short ((first :: turns).length : Nat) = ((first :: turns).length : Nat) := by
      unfold short
      omega
    rw [if_pos few, if_pos (holds.mpr few)]
    simp only [packet, moveResp, posLen, count, moveBytes, MoveBuff.holding, List.append_assoc,
      List.append_nil]
    rfl
  · rw [if_neg few, if_neg fun fits => few (holds.mp fits)]

theorem endInfo_bytes_length (info : EndInfo) : info.bytes.length = 15 := by
  simp [EndInfo.bytes, memory_length]

theorem endGameReport_holds_iff (pkID mapID winOpposition : Int) (records : List EndInfo) :
    (endGameReport sender pkID mapID winOpposition records).buffer.Holds ↔
      records.length ≤ 24 := by
  unfold endGameReport
  rw [holds_records_iff endInfo_bytes_length]
  simp only [List.length_append, packetHead_length, memory_length, List.length_nil, maxRoleCount]
  omega

/-- This is the body that `EndGame` sends, unless it leaves its buffer. -/
theorem endGamePacket_eq_endGameReport (battle : PKPE) (winOpposition : Int) :
    let packet := endGameReport sender battle.pkID battle.mapID winOpposition
      (battle.reported.map battle.endInfo)
    battle.endGamePacket winOpposition =
      if packet.buffer.Holds then some (packet.buffer.bytes.drop 15) else none := by
  intro packet
  have holds : packet.buffer.Holds ↔ (battle.reported.map battle.endInfo).length ≤ 24 :=
    endGameReport_holds_iff sender battle.pkID battle.mapID winOpposition _
  unfold PKPE.endGamePacket
  dsimp only
  by_cases few : (battle.reported.map battle.endInfo).length ≤ 24
  · rw [if_neg (by omega), if_pos (holds.mpr few)]
    simp only [packet, endGameReport, List.append_assoc, List.append_nil]
    rw [List.drop_left' (packetHead_length ..)]
  · rw [if_pos (by omega), if_neg fun fits => few (holds.mp fits)]

theorem endGameReport_exact_iff (pkID mapID winOpposition : Int) (records : List EndInfo) :
    (endGameReport sender pkID mapID winOpposition records).Exact ↔ records.length ≤ 24 := by
  have holds := endGameReport_holds_iff sender pkID mapID winOpposition records
  refine ⟨fun exact => holds.mp exact.buffer, fun few => ⟨Nat.le_refl _, holds.mpr few, ?_⟩⟩
  unfold endGameReport
  dsimp only
  rw [List.append_nil, List.length_append, length_records endInfo_bytes_length]
  simp only [List.length_append, packetHead_length, memory_length]
  unfold ushort lenPkgHead
  omega

theorem Broadcast.packet_exact_iff (message : Broadcast) :
    (message.packet sender now).Exact ↔ message.Small := by
  cases message with
  | move role mini points => exact moveResp_exact_iff sender now role mini points
  | multiHurt targets effect => exact brodacastMultiHurt_exact_iff sender now targets effect
  | newRole role keepTime copiedID effect =>
      exact iff_of_false (fun exact =>
        brodacastSkillNewrole_not_holds sender now role keepTime copiedID effect exact.message) id
  | endGame pkID mapID winOpposition records =>
      exact endGameReport_exact_iff sender pkID mapID winOpposition records
  | ready role =>
      refine iff_of_true ⟨Nat.le_refl _, ?_, ?_⟩ trivial
      · simp [Broadcast.packet, readyResp, Buffer.Holds, packetHead_length, memory_length]
      · simp [Broadcast.packet, readyResp, packetHead_length, memory_length, lenPkgHead]
  | skill role type targetType target =>
      refine iff_of_true (broadcast_exact sender 15 118 ?_ (by decide)) trivial
      cases target <;> simp [memory_length]
  | _ =>
      refine iff_of_true (broadcast_exact sender _ _ ?_ (by decide)) trivial
      simp [memory_length]

/-- The head of this packet always has four bytes too many. -/
theorem broadcastReady_usPkgLen (pkID mapX mapY : Int) {input : List UInt8}
    (long : 10 ≤ input.length) :
    let packet := broadcastReady sender pkID mapX mapY input
    (packet.buffer.Holds ↔ input.length ≤ 1843) ∧
      packet.usPkgLen ≠ packet.buffer.bytes.length := by
  have length : (broadcastReady sender pkID mapX mapY input).buffer.bytes.length =
      input.length + 14 := by
    unfold broadcastReady
    simp only [List.length_append, pkgHead_length, memory_length, List.length_drop]
    omega
  dsimp only
  constructor
  · rw [Buffer.Holds, length]
    unfold broadcastReady maxRoleCount
    dsimp only
    omega
  · rw [length]
    unfold broadcastReady ushort lenPkgHead
    dsimp only
    omega

end Sizes

/-- The first packet of a battle has a wrong length, and thirty roles leave no place for their
skills. Each other message of a battle makes an exact packet when it is small. -/
theorem packets_exact_iff (sender : Sender) :
    (∀ (input moved rest : List UInt8) (roles : List RoleInput) (pkID mapX mapY : Int),
      readBegin input = some (roles, rest) → moved.length = input.length →
        let packet := broadcastReady sender pkID mapX mapY moved
        (packet.buffer.Holds ↔
          61 * roles.length + 3 * skillCount roles + rest.length ≤ 1831) ∧
        packet.usPkgLen ≠ packet.buffer.bytes.length) ∧
    (∀ (input : List UInt8) (pkID mapX mapY : Int), 10 ≤ input.length →
      let packet := broadcastReady sender pkID mapX mapY input
      (packet.buffer.Holds ↔ input.length ≤ 1843) ∧
        packet.usPkgLen ≠ packet.buffer.bytes.length) ∧
    ∀ (now : Int) (message : Broadcast), (message.packet sender now).Exact ↔ message.Small := by
  refine ⟨fun input moved rest roles pkID mapX mapY read kept => ?_,
    fun input pkID mapX mapY => broadcastReady_usPkgLen sender pkID mapX mapY,
    Broadcast.packet_exact_iff sender⟩
  have length := readBegin_length read
  have long : 10 ≤ moved.length := by omega
  obtain ⟨holds, differs⟩ := broadcastReady_usPkgLen sender pkID mapX mapY long
  refine ⟨?_, differs⟩
  rw [holds]
  omega

/-- The message has one role without skills. -/
def oneRole : List UInt8 := [7, 0, 0, 0, 1, 0, 30, 0, 20, 0, 1, 0] ++ List.replicate 61 0

theorem packets_not_exact :
    ¬ (∀ (sender : Sender) (input rest : List UInt8) (roles : List RoleInput)
      (pkID mapX mapY : Int), readBegin input = some (roles, rest) →
        (broadcastReady sender pkID mapX mapY input).Exact) ∧
    ¬ ∀ (sender : Sender) (now : Int) (message : Broadcast), (message.packet sender now).Exact := by
  constructor
  · intro claim
    have read : (readBegin oneRole).isSome := by decide +kernel
    obtain ⟨⟨roles, rest⟩, found⟩ := Option.isSome_iff_exists.mp read
    have exact := claim ⟨1, 0, 1⟩ oneRole rest roles 7 30 20 found
    have long : 10 ≤ oneRole.length := by decide
    exact (broadcastReady_usPkgLen ⟨1, 0, 1⟩ 7 30 20 long).2 exact.usPkgLen
  · intro claim
    exact (Broadcast.packet_exact_iff ⟨1, 0, 1⟩ 0 _).mp
      (claim ⟨1, 0, 1⟩ 0 (.newRole default 200 0 .youLingLang))

end AppSvr.PkServer
