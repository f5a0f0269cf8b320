/-
This file proves when the main server decodes the reported end of a battle.
-/

import AppSvr.Construction.MainServer.PKBriefs
import AppSvr.Construction.PkServer.Battle
import AppSvr.Construction.PkServer.MovePacket
import AppSvr.Proof.BaseServer.Truncation
import AppSvr.Proof.PkServer.Values
import AppSvr.ToMathlib.TransitionSystem

namespace AppSvr.PkServer
open BaseServer BaseServer.Archive MainServer TransitionSystem

/-- The unsigned types of the main server hold the memory of the signed ones. -/
def toUInt8 (value : Int) : UInt8 := UInt8.ofNat (value % 256).toNat

def toUInt16 (value : Int) : UInt16 := UInt16.ofNat (value % 65536).toNat

def toUInt32 (value : Int) : UInt32 := UInt32.ofNat (value % 4294967296).toNat

section Memory

variable (value : Int)

theorem memory_one : memory 1 value = Fixed.byte.toBytes (toUInt8 value) := by
  have small : (value % 256).toNat < 256 := by omega
  simp [memory, Fixed.byte, Fixed.integer, toUInt8, Nat.mod_eq_of_lt small]

theorem memory_two : memory 2 value = Fixed.uInt16.toBytes (toUInt16 value) := by
  have small : (value % 65536).toNat < 65536 := by omega
  simp [memory, Fixed.uInt16, Fixed.integer, toUInt16, Nat.mod_eq_of_lt small]

theorem memory_four : memory 4 value = Fixed.uInt32.toBytes (toUInt32 value) := by
  have small : (value % 4294967296).toNat < 4294967296 := by omega
  simp [memory, Fixed.uInt32, Fixed.integer, toUInt32, Nat.mod_eq_of_lt small]

end Memory

/-- A value lies between zero and its maximum. -/
def clamp (value bound : Int) : Int := max 0 (min value bound)

/-- The clamped value has the same memory only if it is the value itself. -/
theorem toUInt16_clamp_iff (value bound : Int) :
    toUInt16 value = toUInt16 (clamp (short value) (short bound)) ↔
      0 ≤ short value ∧ short value ≤ max 0 (short bound) := by
  have valueBounds := short_bounds value
  have boundBounds := short_bounds bound
  have same : short value % 65536 = value % 65536 := short_modEq value
  have size : UInt16.size = 65536 := rfl
  unfold toUInt16 clamp
  rw [← UInt16.toNat_inj, UInt16.toNat_ofNat', UInt16.toNat_ofNat', ← same]
  omega

/-- The main server holds the memory of a record. -/
def EndInfo.archived (info : EndInfo) : ArchvPKEndInfo :=
  ⟨toUInt8 info.roleFlag, toUInt32 info.roleType, toUInt32 info.roleID, toUInt8 info.opposition,
    toUInt8 info.live.code, toUInt16 info.hp, toUInt16 info.mp⟩

theorem EndInfo.bytes_eq (info : EndInfo) :
    info.bytes = entriesBytes ArchvPKEndInfo.columns info.archived.toValues := by
  simp only [EndInfo.bytes, memory_one, memory_two, memory_four]
  simp [entriesBytes, Archive.bytes, EndInfo.archived, ArchvPKEndInfo.toValues, FixedType.fixed]

/-- The main server consumes exactly the body of the packet and gets these values. -/
def DecodesTo (body : List UInt8) (values : PKEnd) : Prop :=
  ∀ size consumed, (PKEnd.decode ⟨size, consumed, body⟩).2.getErrorCode = 0 ∧
    (PKEnd.decode ⟨size, consumed, body⟩).2.buffer.unread = [] ∧
    (PKEnd.decode ⟨size, consumed, body⟩).1 = values

theorem DecodesTo.unique {body : List UInt8} {first second : PKEnd}
    (decodes : DecodesTo body first) (again : DecodesTo body second) : first = second :=
  (decodes 0 []).2.2.symm.trans (again 0 []).2.2

theorem EndInfo.records_eq (infos : List EndInfo) : infos.flatMap EndInfo.bytes =
    (infos.map EndInfo.archived).flatMap fun info =>
      entriesBytes ArchvPKEndInfo.columns info.toValues := by
  rw [List.flatMap_map]
  exact congrArg (List.flatMap · infos) (funext EndInfo.bytes_eq)

/-- The encoding of a report has the size of the list in front of its records. -/
theorem PKEnd.bytes_eq (report : PKEnd) : entriesBytes PKEnd.chain report.toValues =
    Fixed.uInt32.toBytes report.pkID ++ Fixed.uInt16.toBytes report.mapID ++
      Fixed.byte.toBytes report.winOpposition ++
      Fixed.uInt16.toBytes (UInt16.ofNat report.lei.length) ++
      report.lei.flatMap fun info => entriesBytes ArchvPKEndInfo.columns info.toValues := by
  have size : (List.map ArchvPKEndInfo.toValues report.lei).length = report.lei.length :=
    List.length_map _
  have items : (List.map ArchvPKEndInfo.toValues report.lei).flatMap
      (entriesBytes ArchvPKEndInfo.columns) = report.lei.flatMap fun info =>
        entriesBytes ArchvPKEndInfo.columns info.toValues := List.flatMap_map ..
  rw [← size, ← items]
  simp only [entriesBytes, Archive.bytes, listBytes, PKEnd.toValues, List.append_nil,
    List.append_assoc]
  rfl

theorem PKEnd.ofValues_toValues (report : PKEnd) : PKEnd.ofValues report.toValues = report := by
  have inverse : ArchvPKEndInfo.ofValues ∘ ArchvPKEndInfo.toValues = id := rfl
  have records : List.map ArchvPKEndInfo.ofValues (List.map ArchvPKEndInfo.toValues report.lei) =
      report.lei := by
    rw [List.map_map, inverse, List.map_id]
  exact congrArg (PKEnd.mk report.pkID report.mapID report.winOpposition) records

/-- The reads into fresh locals restore a report. -/
theorem PKEnd.decodes (report : PKEnd) (small : report.lei.length < 65536) :
    DecodesTo (entriesBytes PKEnd.chain report.toValues) report := by
  intro size consumed
  have smallValues : SmallEntries PKEnd.chain report.toValues := by
    refine ⟨trivial, trivial, trivial, ⟨(List.length_map _).trans_lt small, ?_⟩, trivial⟩
    intro item _
    exact ⟨trivial, trivial, trivial, trivial, trivial, trivial, trivial, trivial⟩
  have separate : SeparateEntries PKEnd.chain report.toValues := by
    refine ⟨trivial, trivial, trivial, ⟨?_, ?_⟩, trivial⟩
    · intro item _
      exact ⟨trivial, trivial, trivial, trivial, trivial, trivial, trivial, trivial⟩
    · intro item _
      exact ⟨trivial, trivial, trivial, trivial, trivial, trivial, trivial, trivial⟩
  have loaded := loadChain_encoded PKEnd.chain report.toValues smallValues
    (freshEntries PKEnd.chain) (.new ⟨size, consumed, entriesBytes PKEnd.chain report.toValues⟩) []
    rfl (by simp [Serializer.new])
  rw [(overlayEntries_eq_iff _ _ _).mpr ⟨bareEntries_fresh _, separate⟩] at loaded
  simp only [PKEnd.decode, loaded]
  exact ⟨rfl, rfl, PKEnd.ofValues_toValues report⟩

namespace PKPE

variable (battle : PKPE)

/-- The record of a role has its health and its mana between zero and the current maxima. -/
def faithfulRecord (id : Int) : ArchvPKEndInfo :=
  let role := battle.role id
  { (battle.endInfo id).archived with
    hp := toUInt16 (clamp (short role.hp) (short role.currHpMax))
    mp := toUInt16 (clamp (short role.mp) (short role.currMpMax)) }

/-- The packet that lists these records. -/
def endReport (winOpposition : Int) (record : Int → ArchvPKEndInfo) : PKEnd :=
  ⟨toUInt32 battle.pkID, toUInt16 battle.mapID, toUInt8 winOpposition, battle.reported.map record⟩

/-- The main server gets one faithful record for every reported role. -/
def Transmitted (winOpposition : Int) : Prop :=
  ∃ body, battle.endGamePacket winOpposition = some body ∧
    DecodesTo body (battle.endReport winOpposition battle.faithfulRecord)

/-- At most twenty-four roles are reported, with their health and mana within the current maxima. -/
def Reportable : Prop :=
  battle.reported.length ≤ 24 ∧ ∀ id ∈ battle.reported,
    let role := battle.role id
    (0 ≤ short role.hp ∧ short role.hp ≤ max 0 (short role.currHpMax)) ∧
      0 ≤ short role.mp ∧ short role.mp ≤ max 0 (short role.currMpMax)

section Packet

variable (battle : PKPE) (winOpposition : Int)

/-- The main server reads the memory of every record. -/
theorem endGamePacket_decodes {body : List UInt8}
    (sent : battle.endGamePacket winOpposition = some body) :
    DecodesTo body (battle.endReport winOpposition fun id => (battle.endInfo id).archived) := by
  have few : battle.reported.length < 65536 := by
    simp only [endGamePacket] at sent
    split_ifs at sent with fits
    rw [List.length_map] at fits
    omega
  let infos := battle.reported.map battle.endInfo
  let report := battle.endReport winOpposition fun id => (battle.endInfo id).archived
  have lei : report.lei = infos.map EndInfo.archived := by
    simp [report, infos, endReport, Function.comp_def]
  have count : memory 2 infos.length =
      Fixed.uInt16.toBytes (UInt16.ofNat (infos.map EndInfo.archived).length) := by
    have size : (infos.length : Int) % 65536 = infos.length := by
      rw [List.length_map]
      omega
    rw [memory_two, toUInt16, size, Int.toNat_natCast, List.length_map EndInfo.archived]
  have written : body = entriesBytes PKEnd.chain report.toValues := by
    simp only [endGamePacket] at sent
    split_ifs at sent
    rw [PKEnd.bytes_eq, ← Option.some.inj sent, lei, ← EndInfo.records_eq, count, memory_one,
      memory_two, memory_four]
    simp only [List.append_assoc]
    rfl
  rw [written]
  exact PKEnd.decodes report (by simpa [report, endReport] using few)

theorem archived_eq_iff (id : Int) : (battle.endInfo id).archived = battle.faithfulRecord id ↔
    let role := battle.role id
    (0 ≤ short role.hp ∧ short role.hp ≤ max 0 (short role.currHpMax)) ∧
      0 ≤ short role.mp ∧ short role.mp ≤ max 0 (short role.currMpMax) := by
  dsimp only
  rw [← toUInt16_clamp_iff, ← toUInt16_clamp_iff]
  simp [faithfulRecord, EndInfo.archived, endInfo]

theorem exists_endGamePacket_iff :
    (∃ body, battle.endGamePacket winOpposition = some body) ↔ battle.reported.length ≤ 24 := by
  unfold endGamePacket
  simp
  omega

variable {battle winOpposition}

theorem Transmitted.reportable (transmitted : battle.Transmitted winOpposition) :
    battle.Reportable := by
  obtain ⟨body, sent, faithful⟩ := transmitted
  have same := (battle.endGamePacket_decodes winOpposition sent).unique faithful
  have records := (PKEnd.mk.injEq .. ▸ same).2.2.2
  refine ⟨(battle.exists_endGamePacket_iff winOpposition).mp ⟨body, sent⟩, fun id member => ?_⟩
  exact (battle.archived_eq_iff id).mp (List.map_inj_left.mp records id member)

theorem Reportable.transmitted (reportable : battle.Reportable) :
    battle.Transmitted winOpposition := by
  obtain ⟨few, within⟩ := reportable
  obtain ⟨body, sent⟩ := (battle.exists_endGamePacket_iff winOpposition).mpr few
  have decodes := battle.endGamePacket_decodes winOpposition sent
  have records : battle.reported.map (fun id => (battle.endInfo id).archived) =
      battle.reported.map battle.faithfulRecord :=
    List.map_congr_left fun id member => (battle.archived_eq_iff id).mpr (within id member)
  rw [endReport, records] at decodes
  exact ⟨body, sent, decodes⟩

end Packet

/-- A player with more health than its maximum, next to a weak monster. -/
def overHealed : List (RoleInput × RoleState) :=
  let player : RoleInput :=
    { controlID := 1, roleID := 1, level := 1, opposition := 1, roleFlag := 1, roleType := 1
      hpMax := 100, mpMax := 10, hp := 120, mp := 10, speedModBase := 5, currentPos := ⟨10, 10⟩
      direct := 1, attackPowerHignBase := 10, attackPowerLowBase := 10, attackArea := 3
      attackCDTimeBase := 400, attackIngTime := 0, attackBulletMod := 0, attackHitBase := 100
      defenseMissBase := 0, attackCritBase := 0, defenseArmorBase := 0, magicArmorBase := 0
      wisdom := 0, skills := [] }
  [(player, default),
    ({ player with
      controlID := 2, roleID := 2, opposition := 4, roleFlag := 2, hpMax := 5, hp := 5
      currentPos := ⟨11, 10⟩ }, default)]

/-- The battle of these roles on a known map. -/
def overHealedStart : Option PKPE :=
  PKPE.init ⟨fun _ => true, fun _ => none⟩ 7 1 overHealed (fun _ => false) fun _ => default

end PKPE

end AppSvr.PkServer
