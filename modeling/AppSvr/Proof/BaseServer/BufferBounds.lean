/-
This file shows which calls keep the pointers of a buffer inside its storage.
-/

import AppSvr.Construction.BaseServer.DataBuffer
import AppSvr.ToMathlib.TransitionSystem

namespace AppSvr.BaseServer.PointerBuffer

open TransitionSystem

variable {bits : Nat} {storage : Storage bits} {buffer : PointerBuffer storage}

/-- The pointers stand in order inside the storage. -/
structure InStorage (buffer : PointerBuffer storage) : Prop where
  data : storage.pData.toNat ≤ buffer.pRead.toNat
  ordered : buffer.pRead.toNat ≤ buffer.pWrite.toNat
  written : buffer.pWrite.toNat ≤ storage.pData.toNat + storage.size.toNat

/-- A call keeps the pointers in order, a write that succeeds has its room, and a call that fails
changes nothing. -/
structure StaysInside (buffer : PointerBuffer storage) (call : Call) : Prop where
  inside : (buffer.call call).2.InStorage
  room : ∀ src length, call = .write src length → (buffer.call call).1 = some 0 →
    buffer.pWrite.toNat + length.toNat ≤ storage.pData.toNat + storage.size.toNat
  unchanged : (buffer.call call).1 = some (-1) → (buffer.call call).2 = buffer

/-- A write is not longer than the whole buffer, a read does not reach around the address space to
an address in front of the storage, and the write pointer does not move in front of the read
pointer. -/
def Fits (buffer : PointerBuffer storage) : Call → Prop
  | .write _ length => length ≤ storage.size
  | .read length => buffer.pRead.toNat + length.toNat < 2 ^ bits ∨
      storage.pData ≤ advance buffer.pRead length.toNat
  | .moveWritePtr offset => storage.pData ≤ advance buffer.pWrite offset.toInt →
      buffer.pRead ≤ advance buffer.pWrite offset.toInt
  | .moveReadPtr _ | .reset => True

instance (buffer : PointerBuffer storage) : (call : Call) → Decidable (buffer.Fits call)
  | .write _ length => inferInstanceAs (Decidable (length ≤ storage.size))
  | .read _ => instDecidableOr
  | .moveWritePtr offset => inferInstanceAs (Decidable (storage.pData ≤ advance buffer.pWrite
      offset.toInt → buffer.pRead ≤ advance buffer.pWrite offset.toInt))
  | .moveReadPtr _ | .reset => instDecidableTrue

theorem advance_toNat (pointer : BitVec bits) (offset : Nat) :
    (advance pointer offset).toNat = (pointer.toNat + offset) % 2 ^ bits := by
  rw [advance, BitVec.toNat_add, BitVec.toNat_ofInt]
  rw [← Int.natCast_emod, Int.toNat_natCast, Nat.add_mod_mod]

theorem advance_toNat_of_lt (pointer : BitVec bits) (offset : Nat)
    (within : pointer.toNat + offset < 2 ^ bits) :
    (advance pointer offset).toNat = pointer.toNat + offset := by
  rw [advance_toNat, Nat.mod_eq_of_lt within]

theorem storage_end (storage : Storage bits) :
    (advance storage.pData storage.size.toNat).toNat =
      storage.pData.toNat + storage.size.toNat :=
  advance_toNat_of_lt _ _ storage.within

/-- The distance between the pointers is not cut off. -/
theorem InStorage.offset (inside : buffer.InStorage) :
    (UInt32.ofNat (buffer.pWrite - storage.pData).toNat).toNat =
      buffer.pWrite.toNat - storage.pData.toNat := by
  have data := inside.data
  have ordered := inside.ordered
  have written := inside.written
  have below : buffer.pWrite.toNat - storage.pData.toNat < 2 ^ 32 := by
    have size := storage.size.toNat_lt
    omega
  rw [BitVec.toNat_sub_of_le (BitVec.le_def.mpr (by omega)), UInt32.toNat_ofNat']
  exact Nat.mod_eq_of_lt below

theorem InStorage.write_fails_iff (inside : buffer.InStorage) {length : UInt32}
    (short : length ≤ storage.size) :
    UInt32.ofNat (buffer.pWrite - storage.pData).toNat > storage.size - length ↔
      storage.pData.toNat + storage.size.toNat < buffer.pWrite.toNat + length.toNat := by
  have le := UInt32.le_iff_toNat_le.mp short
  have data := inside.data
  have ordered := inside.ordered
  rw [gt_iff_lt, UInt32.lt_iff_toNat_lt, inside.offset, UInt32.toNat_sub_of_le _ _ short]
  omega

/-- The unsigned room of a longer write is larger than the buffer. -/
theorem InStorage.write_passes (inside : buffer.InStorage) {length : UInt32}
    (long : ¬ length ≤ storage.size) :
    ¬ UInt32.ofNat (buffer.pWrite - storage.pData).toNat > storage.size - length := by
  have lt := UInt32.lt_iff_toNat_lt.mp (UInt32.not_le.mp long)
  have written := inside.written
  have longest := length.toNat_lt
  rw [gt_iff_lt, UInt32.lt_iff_toNat_lt, inside.offset, UInt32.toNat_sub]
  rw [Nat.mod_eq_of_lt (by omega)]
  omega

theorem InStorage.write_iff (inside : buffer.InStorage) (src : Nat → UInt8) (length : UInt32) :
    buffer.StaysInside (.write src length) ↔ length ≤ storage.size := by
  constructor
  · intro stays
    by_contra long
    have passes : (buffer.call (.write src length)).1 = some 0 := by
      rw [call, write, if_neg (inside.write_passes long)]
    have room := stays.room src length rfl passes
    have lt := UInt32.lt_iff_toNat_lt.mp (UInt32.not_le.mp long)
    have data := inside.data
    have ordered := inside.ordered
    omega
  · intro short
    have fails := inside.write_fails_iff short
    have data := inside.data
    have ordered := inside.ordered
    have written := inside.written
    have within := storage.within
    by_cases full : UInt32.ofNat (buffer.pWrite - storage.pData).toNat > storage.size - length
    · constructor
      · rw [call, write, if_pos full]
        exact inside
      · intro _ _ _ zero
        rw [call, write, if_pos full] at zero
        cases zero
      · rw [call, write, if_pos full]
        exact fun _ => rfl
    · have room := Nat.not_lt.mp fun more => full (fails.mpr more)
      have moved := advance_toNat_of_lt buffer.pWrite length.toNat
        (Nat.lt_of_le_of_lt room within)
      constructor
      · rw [call, write, if_neg full]
        refine ⟨data, ?_, ?_⟩
        · change buffer.pRead.toNat ≤ (advance buffer.pWrite length.toNat).toNat
          omega
        · change (advance buffer.pWrite length.toNat).toNat ≤ _
          omega
      · intro _ _ same _
        cases same
        exact room
      · rw [call, write, if_neg full]
        intro failed
        cases failed

theorem InStorage.read_iff (inside : buffer.InStorage) (length : UInt32) :
    buffer.StaysInside (.read length) ↔ buffer.Fits (.read length) := by
  have data := inside.data
  have ordered := inside.ordered
  have written := inside.written
  have moved := advance_toNat buffer.pRead length.toNat
  have stays : buffer.StaysInside (.read length) ↔
      (advance buffer.pRead length.toNat > buffer.pWrite ∨
        storage.pData ≤ advance buffer.pRead length.toNat) := by
    by_cases past : advance buffer.pRead length.toNat > buffer.pWrite
    · apply iff_of_true _ (Or.inl past)
      constructor
      · rw [call, read, if_pos past]
        exact inside
      · intro _ _ same
        cases same
      · rw [call, read, if_pos past]
        exact fun _ => rfl
    · have before := BitVec.not_lt.mp past
      rw [or_iff_right past, BitVec.le_def]
      constructor
      · intro stays
        have front := stays.inside.data
        rw [call, read, if_neg past] at front
        exact front
      · intro front
        constructor
        · rw [call, read, if_neg past]
          exact ⟨front, BitVec.le_def.mp before, written⟩
        · intro _ _ same
          cases same
        · rw [call, read, if_neg past]
          intro failed
          cases failed
  rw [stays, Fits]
  constructor
  · rintro (past | front)
    · right
      rw [gt_iff_lt, BitVec.lt_def] at past
      rw [BitVec.le_def]
      omega
    · exact Or.inr front
  · rintro (near | front)
    · right
      rw [BitVec.le_def, moved, Nat.mod_eq_of_lt near]
      omega
    · exact Or.inr front

/-- The read pointer moves between the ends of the written bytes. -/
theorem InStorage.moveReadPtr_stays (inside : buffer.InStorage) (offset : Int32) :
    buffer.StaysInside (.moveReadPtr offset) := by
  by_cases moves : advance buffer.pRead offset.toInt ≥ storage.pData ∧
      advance buffer.pRead offset.toInt ≤ buffer.pWrite
  · constructor
    · rw [call, moveReadPtr, if_pos moves]
      exact ⟨BitVec.le_def.mp moves.1, BitVec.le_def.mp moves.2, inside.written⟩
    · intro _ _ same
      cases same
    · rw [call, moveReadPtr, if_pos moves]
      intro failed
      cases failed
  · constructor
    · rw [call, moveReadPtr, if_neg moves]
      exact inside
    · intro _ _ same
      cases same
    · rw [call, moveReadPtr, if_neg moves]
      exact fun _ => rfl

theorem InStorage.moveWritePtr_iff (inside : buffer.InStorage) (offset : Int32) :
    buffer.StaysInside (.moveWritePtr offset) ↔ buffer.Fits (.moveWritePtr offset) := by
  have data := inside.data
  have ordered := inside.ordered
  have written := inside.written
  have last := storage_end storage
  rw [Fits, BitVec.le_def, BitVec.le_def]
  by_cases moves : advance buffer.pWrite offset.toInt ≥ storage.pData ∧
      advance buffer.pWrite offset.toInt ≤ advance storage.pData storage.size.toNat
  · have front := BitVec.le_def.mp moves.1
    have behind := BitVec.le_def.mp moves.2
    constructor
    · intro stays _
      have after := stays.inside.ordered
      rw [call, moveWritePtr, if_pos moves] at after
      exact after
    · intro fits
      constructor
      · rw [call, moveWritePtr, if_pos moves]
        exact ⟨data, fits front, last ▸ behind⟩
      · intro _ _ same
        cases same
      · rw [call, moveWritePtr, if_pos moves]
        intro failed
        cases failed
  · apply iff_of_true
    · constructor
      · rw [call, moveWritePtr, if_neg moves]
        exact inside
      · intro _ _ same
        cases same
      · rw [call, moveWritePtr, if_neg moves]
        exact fun _ => rfl
    · intro front
      have past : ¬ advance buffer.pWrite offset.toInt ≤ advance storage.pData storage.size.toNat :=
        fun before => moves ⟨BitVec.le_def.mpr front, before⟩
      rw [BitVec.le_def] at past
      omega

/-- A call of a buffer whose pointers are in order stays inside exactly if it fits. -/
theorem InStorage.staysInside_iff (inside : buffer.InStorage) (call : Call) :
    buffer.StaysInside call ↔ buffer.Fits call := by
  cases call with
  | write src length => exact inside.write_iff src length
  | read length => exact inside.read_iff length
  | moveReadPtr offset => exact iff_of_true (inside.moveReadPtr_stays offset) trivial
  | moveWritePtr offset => exact inside.moveWritePtr_iff offset
  | reset =>
      apply iff_of_true _ trivial
      constructor
      · exact ⟨Nat.le_refl _, Nat.le_refl _, Nat.le_add_right _ _⟩
      · intro _ _ same
        cases same
      · intro failed
        cases failed

theorem new_inStorage (memory : BitVec bits → UInt8) : (new storage memory).InStorage :=
  ⟨Nat.le_refl _, Nat.le_refl _, Nat.le_add_right _ _⟩

/-- The calls of a run stay inside the storage exactly if they all fit. -/
theorem run_staysInside_iff {memory : BitVec bits → UInt8} {final : PointerBuffer storage}
    {history : History (PointerBuffer storage) Call}
    (run : Run step anyEvent (new storage memory) history final) :
    (∀ entry ∈ history, entry.1.StaysInside entry.2) ↔
      ∀ entry ∈ history, entry.1.Fits entry.2 := by
  have inside : ((∀ entry ∈ history, entry.1.StaysInside entry.2) ↔
      ∀ entry ∈ history, entry.1.Fits entry.2) ∧
      ((∀ entry ∈ history, entry.1.Fits entry.2) → final.InStorage) := by
    induction run with
    | nil => exact ⟨by simp, fun _ => new_inStorage memory⟩
    | @snoc history state next call before _ enabled ih =>
        obtain ⟨same, reached⟩ := ih
        cases enabled
        simp only [List.forall_mem_append, List.forall_mem_singleton]
        constructor
        · rw [same]
          exact and_congr_right fun fits => (reached fits).staysInside_iff call
        · rintro ⟨fits, last⟩
          exact (((reached fits).staysInside_iff call).mpr last).inside
  exact inside.1

/-- Four bytes at address 16 of a small machine. -/
def fourBytes : Storage 32 := ⟨4, 16, by decide⟩

/-- Three written bytes are read in two steps, and the pointers go back by one byte each. -/
theorem run_staysInside_iff_four :
    ∃ history final, Run step anyEvent (new fourBytes fun _ => 0) history final ∧
      (∀ entry ∈ history, entry.1.Fits entry.2) ∧
      ∀ entry ∈ history, entry.1.StaysInside entry.2 := by
  obtain ⟨history, final, run, fits⟩ := exists_run_of_replay step anyEvent
    (new fourBytes fun _ => 0)
    [.write (fun _ => 7) 3, .read 2, .moveReadPtr (-1), .moveWritePtr (-1), .read 2, .reset]
    (fun history _ => ∀ entry ∈ history, entry.1.Fits entry.2) (by decide +kernel)
  have fits := of_decide_eq_true fits
  exact ⟨history, final, run, fits, (run_staysInside_iff run).mpr fits⟩

/-- A write of five bytes succeeds in a buffer of four. -/
theorem run_not_staysInside :
    ¬ ∀ (bits : Nat) (storage : Storage bits) (memory : BitVec bits → UInt8)
      (history : History (PointerBuffer storage) Call) (final : PointerBuffer storage),
      Run step anyEvent (new storage memory) history final →
        ∀ entry ∈ history, entry.1.StaysInside entry.2 := by
  intro claim
  have run := run_of_replay (show replay step (new fourBytes fun _ => 0)
    [.write (fun _ => 7) 5] = some _ from rfl)
  have written := (claim 32 fourBytes _ _ _ run _ (List.mem_singleton_self _)).inside.written
  exact absurd written (by decide)

section View

/-- These are the bytes of the memory from an address on. -/
def bytesFrom (memory : BitVec bits → UInt8) (pointer : BitVec bits) (length : Nat) : List UInt8 :=
  (List.range length).map fun (index : Nat) => memory (advance pointer index)

/-- The consumed and the unread bytes are what the users of a buffer see. -/
def view (buffer : PointerBuffer storage) : DataBuffer where
  size := storage.size
  consumed := bytesFrom buffer.memory storage.pData (buffer.pRead.toNat - storage.pData.toNat)
  unread := bytesFrom buffer.memory buffer.pRead (buffer.pWrite.toNat - buffer.pRead.toNat)

variable (memory : BitVec bits → UInt8)

variable (pointer : BitVec bits)

@[simp] theorem bytesFrom_length
    (length : Nat) : (bytesFrom memory pointer length).length = length := by
  simp [bytesFrom]

theorem advance_advance (first second : Nat) :
    advance (advance pointer first) second = advance pointer ((first + second : Nat) : Int) := by
  unfold advance
  rw [BitVec.add_assoc, ← BitVec.ofInt_add, Int.natCast_add]

theorem bytesFrom_add (first second : Nat) : bytesFrom memory pointer (first + second) =
      bytesFrom memory pointer first ++ bytesFrom memory (advance pointer first) second := by
  unfold bytesFrom
  rw [List.range_add, List.map_append, List.map_map]
  congr 1
  apply List.map_congr_left
  intro index _
  rw [Function.comp_apply, advance_advance]

/-- The list has the same bytes after the pointer between them has moved. -/
theorem bytesFrom_split (first middle last : BitVec bits)
    (ordered : first.toNat ≤ middle.toNat) (behind : middle.toNat ≤ last.toNat) :
    bytesFrom memory first (last.toNat - first.toNat) =
      bytesFrom memory first (middle.toNat - first.toNat) ++
        bytesFrom memory middle (last.toNat - middle.toNat) := by
  have sum : last.toNat - first.toNat =
      (middle.toNat - first.toNat) + (last.toNat - middle.toNat) := by omega
  have reached : advance first ((middle.toNat - first.toNat : Nat) : Int) = middle := by
    apply BitVec.eq_of_toNat_eq
    have bound := middle.isLt
    rw [advance_toNat_of_lt _ _ (by omega)]
    omega
  rw [sum, bytesFrom_add, reached]

/-- A copy does not change the bytes in front of it. -/
theorem bytesFrom_memcpy (pointer target : BitVec bits)
    (src : Nat → UInt8) (count : Nat) (length : UInt32)
    (front : pointer.toNat + count ≤ target.toNat)
    (within : target.toNat + length.toNat ≤ 2 ^ bits) :
    bytesFrom (memcpy memory target src length) pointer count = bytesFrom memory pointer count := by
  apply List.map_congr_left
  intro index member
  have below := List.mem_range.mp member
  have bound := target.isLt
  have address := advance_toNat_of_lt pointer index (by omega)
  unfold memcpy
  rw [if_neg]
  rw [BitVec.toNat_sub, address, Nat.mod_eq_of_lt (by omega)]
  omega

/-- The copied bytes stand at the target. -/
theorem bytesFrom_memcpy_self (target : BitVec bits)
    (src : Nat → UInt8) (length : UInt32) (within : target.toNat + length.toNat < 2 ^ bits) :
    bytesFrom (memcpy memory target src length) target length.toNat =
      (List.range length.toNat).map src := by
  apply List.map_congr_left
  intro index member
  have below := List.mem_range.mp member
  have address := advance_toNat_of_lt target index (by omega)
  have distance : (advance target index - target).toNat = index := by
    rw [BitVec.toNat_sub_of_le (BitVec.le_def.mpr (by omega)), address]
    omega
  unfold memcpy
  rw [distance, if_pos below]

/-- A write that is not longer than the buffer appends its bytes, or fails. -/
theorem InStorage.write_view (inside : buffer.InStorage) (src : Nat → UInt8) {length : UInt32}
    (short : length ≤ storage.size) :
    ((buffer.write src length).1, (buffer.write src length).2.view) =
      buffer.view.write ((List.range length.toNat).map src) := by
  have data := inside.data
  have ordered := inside.ordered
  have written := inside.written
  have within := storage.within
  have fails := inside.write_fails_iff short
  have le := UInt32.le_iff_toNat_le.mp short
  have same : (buffer.view.size -
      UInt32.ofNat ((List.range length.toNat).map src).length).toNat < buffer.view.written ↔
      UInt32.ofNat (buffer.pWrite - storage.pData).toNat > storage.size - length := by
    rw [fails, List.length_map, List.length_range, UInt32.ofNat_toNat]
    change (storage.size - length).toNat < _ ↔ _
    rw [UInt32.toNat_sub_of_le _ _ short, DataBuffer.written, view, bytesFrom_length,
      bytesFrom_length]
    omega
  rw [write, DataBuffer.write]
  by_cases full : UInt32.ofNat (buffer.pWrite - storage.pData).toNat > storage.size - length
  · rw [if_pos full, if_pos (same.mpr full)]
  · rw [if_neg full, if_neg fun more => full (same.mp more)]
    have room := Nat.not_lt.mp fun more => full (fails.mpr more)
    have moved := advance_toNat_of_lt buffer.pWrite length.toNat
      (Nat.lt_of_le_of_lt room within)
    have copied := bytesFrom_memcpy_self buffer.memory buffer.pWrite src length
      (Nat.lt_of_le_of_lt room within)
    have consumed := bytesFrom_memcpy buffer.memory storage.pData buffer.pWrite src
      (buffer.pRead.toNat - storage.pData.toNat) length (by omega) (by omega)
    have kept := bytesFrom_memcpy buffer.memory buffer.pRead buffer.pWrite src
      (buffer.pWrite.toNat - buffer.pRead.toNat) length (by omega) (by omega)
    have unread := bytesFrom_split (memcpy buffer.memory buffer.pWrite src length) buffer.pRead
      buffer.pWrite (advance buffer.pWrite length.toNat) ordered (by omega)
    have rest : (advance buffer.pWrite length.toNat).toNat - buffer.pWrite.toNat =
        length.toNat := by omega
    rw [rest, copied, kept] at unread
    simp only [view, consumed, unread]

/-- A read that does not reach around the address space takes the first unread bytes, or fails. -/
theorem InStorage.read_view (inside : buffer.InStorage) {length : UInt32}
    (near : buffer.pRead.toNat + length.toNat < 2 ^ bits) :
    ((if (buffer.read length).1 = 0 then some (buffer.read length).2.1 else none),
      (buffer.read length).2.2.view) = buffer.view.read length.toNat := by
  have data := inside.data
  have ordered := inside.ordered
  have moved := advance_toNat_of_lt _ _ near
  have same : buffer.view.unread.length < length.toNat ↔
      advance buffer.pRead length.toNat > buffer.pWrite := by
    rw [gt_iff_lt, BitVec.lt_def, moved, view, bytesFrom_length]
    omega
  rw [read, DataBuffer.read]
  by_cases past : advance buffer.pRead length.toNat > buffer.pWrite
  · rw [if_pos past, if_pos (same.mpr past)]
    rfl
  · rw [if_neg past, if_neg fun more => past (same.mp more)]
    have before : (advance buffer.pRead length.toNat).toNat ≤ buffer.pWrite.toNat :=
      BitVec.le_def.mp (BitVec.not_lt.mp past)
    have split := bytesFrom_split buffer.memory buffer.pRead
      (advance buffer.pRead length.toNat) buffer.pWrite (by omega) before
    have consumed := bytesFrom_split buffer.memory storage.pData buffer.pRead
      (advance buffer.pRead length.toNat) data (by omega)
    have count : (advance buffer.pRead length.toNat).toNat - buffer.pRead.toNat =
        length.toNat := by omega
    rw [count] at split consumed
    have taken : buffer.view.unread.take length.toNat =
        bytesFrom buffer.memory buffer.pRead length.toNat := by
      rw [view, split, List.take_left' (bytesFrom_length _ _ _)]
    have dropped : buffer.view.unread.drop length.toNat =
        bytesFrom buffer.memory (advance buffer.pRead length.toNat)
          (buffer.pWrite.toNat - (advance buffer.pRead length.toNat).toNat) := by
      rw [view, split, List.drop_left' (bytesFrom_length _ _ _)]
    rw [taken, dropped, if_pos rfl]
    simp only [view, consumed]
    rfl

theorem reset_view (buffer : PointerBuffer storage) : buffer.reset.view = buffer.view.reset := by
  simp [reset, view, DataBuffer.reset, bytesFrom]

/-- The size of the data is the number of the unread bytes. -/
theorem InStorage.getDataSize_view (inside : buffer.InStorage) :
    buffer.getDataSize.toNat = buffer.view.getDataSize := by
  have data := inside.data
  have ordered := inside.ordered
  have written := inside.written
  have size := storage.size.toNat_lt
  rw [getDataSize, BitVec.toNat_sub_of_le (BitVec.le_def.mpr ordered), UInt32.toNat_ofNat',
    Nat.mod_eq_of_lt (by omega), DataBuffer.getDataSize, view, bytesFrom_length]

/-- A read pointer that moves forward consumes the bytes, or the call fails. -/
theorem InStorage.moveReadPtr_view (inside : buffer.InStorage) {offset : Int32} {length : Nat}
    (forward : offset.toInt = length) (near : buffer.pRead.toNat + length < 2 ^ bits) :
    ((buffer.moveReadPtr offset).1, (buffer.moveReadPtr offset).2.view) =
      buffer.view.moveReadPtr length := by
  have data := inside.data
  have bound := offset.toInt_lt
  have small : (UInt32.ofNat length).toNat = length := by
    rw [UInt32.toNat_ofNat', Nat.mod_eq_of_lt (by omega)]
  have front : storage.pData ≤ advance buffer.pRead length := by
    rw [BitVec.le_def, advance_toNat_of_lt _ _ near]
    omega
  have consumed := inside.read_view (small.symm ▸ near)
  rw [small] at consumed
  rw [DataBuffer.moveReadPtr, ← consumed, moveReadPtr, read, forward, small]
  by_cases past : advance buffer.pRead length > buffer.pWrite
  · rw [if_pos past, if_neg fun within => BitVec.not_le.mpr past within.2]
    rfl
  · rw [if_neg past, if_pos ⟨front, BitVec.not_lt.mp past⟩]
    rfl

/-- A write pointer that moves forward uncovers the bytes of the memory, or the call fails. -/
theorem InStorage.moveWritePtr_view (inside : buffer.InStorage) {offset : Int32} {length : Nat}
    (forward : offset.toInt = length) (near : buffer.pWrite.toNat + length < 2 ^ bits) :
    ((buffer.moveWritePtr offset).1, (buffer.moveWritePtr offset).2.view) =
      buffer.view.moveWritePtr (bytesFrom buffer.memory buffer.pWrite length) := by
  have data := inside.data
  have ordered := inside.ordered
  have moved := advance_toNat_of_lt _ _ near
  have written : buffer.view.written = buffer.pWrite.toNat - storage.pData.toNat := by
    rw [DataBuffer.written, view, bytesFrom_length, bytesFrom_length]
    omega
  have fits_iff : (storage.pData ≤ advance buffer.pWrite length ∧
      advance buffer.pWrite length ≤ advance storage.pData storage.size.toNat) ↔
        buffer.pWrite.toNat + length ≤ storage.pData.toNat + storage.size.toNat := by
    rw [BitVec.le_def, BitVec.le_def, storage_end, moved]
    omega
  rw [moveWritePtr, forward, DataBuffer.moveWritePtr, written, bytesFrom_length]
  by_cases fits : buffer.pWrite.toNat + length ≤ storage.pData.toNat + storage.size.toNat
  · have full : ¬ buffer.view.size.toNat < buffer.pWrite.toNat - storage.pData.toNat + length := by
      change ¬ storage.size.toNat < _
      omega
    have split := bytesFrom_split buffer.memory buffer.pRead buffer.pWrite
      (advance buffer.pWrite length) ordered (by omega)
    rw [moved, Nat.add_sub_cancel_left] at split
    rw [if_pos (fits_iff.mpr fits), if_neg full]
    simp only [view, moved, split]
  · rw [if_neg (mt fits_iff.mp fits), if_pos]
    change storage.size.toNat < _
    omega

/-- After every run of fitting calls a buffer does what the list buffer does. -/
theorem run_views {memory : BitVec bits → UInt8} {history : History (PointerBuffer storage) Call}
    (run : Run step Fits (new storage memory) history buffer) :
    (∀ src, ∀ length ≤ storage.size, ((buffer.write src length).1, (buffer.write src length).2.view) =
      buffer.view.write ((List.range length.toNat).map src)) ∧
    (∀ length, buffer.pRead.toNat + length.toNat < 2 ^ bits →
      ((if (buffer.read length).1 = 0 then some (buffer.read length).2.1 else none),
        (buffer.read length).2.2.view) = buffer.view.read length.toNat) ∧
    (∀ (offset : Int32) (length : Nat), offset.toInt = length →
      (buffer.pRead.toNat + length < 2 ^ bits →
        ((buffer.moveReadPtr offset).1, (buffer.moveReadPtr offset).2.view) =
          buffer.view.moveReadPtr length) ∧
      (buffer.pWrite.toNat + length < 2 ^ bits →
        ((buffer.moveWritePtr offset).1, (buffer.moveWritePtr offset).2.view) =
          buffer.view.moveWritePtr (bytesFrom buffer.memory buffer.pWrite length))) ∧
    buffer.reset.view = buffer.view.reset ∧
    buffer.getDataSize.toNat = buffer.view.getDataSize := by
  have inside : buffer.InStorage := by
    refine run.invariant InStorage (new_inStorage memory) ?_
    rintro state call _ inside fits ⟨⟩
    exact ((inside.staysInside_iff call).mpr fits).inside
  exact ⟨fun src _ => inside.write_view src, fun _ => inside.read_view, fun _ _ forward =>
    ⟨inside.moveReadPtr_view forward, inside.moveWritePtr_view forward⟩, reset_view _,
    inside.getDataSize_view⟩

theorem run_views_two : ∃ buffer : PointerBuffer fourBytes, ∃ history,
    Run step Fits (new fourBytes fun _ => 0) history buffer ∧
      ((buffer.write (fun _ => 8) 1).1, (buffer.write (fun _ => 8) 1).2.view) =
        buffer.view.write [8] := by
  obtain ⟨history, buffer, run, -⟩ := exists_run_of_replay step Fits (new fourBytes fun _ => 0)
    [.write (fun _ => 7) 3, .read 2] (fun _ _ => true) (by decide +kernel)
  exact ⟨buffer, history, run, (run_views run).1 (fun _ => 8) 1 (by decide)⟩

end View

end AppSvr.BaseServer.PointerBuffer
