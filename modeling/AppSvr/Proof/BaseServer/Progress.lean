/-
This file reduces a load to its progress through the unread bytes.
-/

import AppSvr.Proof.BaseServer.RoundTrip

namespace AppSvr.BaseServer

/-- The control flow of a load sees only the unread bytes and whether the last read failed. -/
structure Progress where
  unread : List UInt8
  failed : Bool
  deriving DecidableEq, Repr

def Serializer.progress (serializer : Serializer) : Progress :=
  ⟨serializer.buffer.unread, serializer.iError ≠ 0⟩

namespace Archive
open LittleEndian

def scanFixed (width : Nat) (progress : Progress) : Progress :=
  if progress.unread.length < width then ⟨progress.unread, true⟩
  else ⟨progress.unread.drop width, false⟩

/-- The two header bytes count what follows. -/
def scanCounted (follow : Nat → List UInt8 → Progress) (progress : Progress) : Progress :=
  if progress.unread.length < 2 then ⟨progress.unread, true⟩
  else follow (decode (progress.unread.take 2)) (progress.unread.drop 2)

def scanString : Progress → Progress :=
  scanCounted fun length unread => scanFixed length ⟨unread, false⟩

def scanList (scan : Progress → Progress) : Progress → Progress :=
  scanCounted fun size unread => scan^[size] ⟨unread, false⟩

mutual

/-- This is the progress of a load. -/
def scan : Archive → Progress → Progress
  | .fixed type, progress => scanFixed type.fixed.width progress
  | .string, progress => scanString progress
  | .list element, progress => scanList (scan element) progress
  | .record entries, progress => scanEntries entries progress

def scanEntries : List Archive → Progress → Progress
  | [], progress => progress
  | entry :: entries, progress =>
      scanEntries entries (if progress.failed then progress else scan entry progress)

end

def scanChain (chain : List Archive) (progress : Progress) : Progress :=
  chain.foldl (fun progress archive => scan archive progress) progress

section Refinement

theorem readFixed_progress {Value : Type} (type : Fixed Value) (old : Value)
    (serializer : Serializer) :
    (serializer.readFixed type old).2.progress = scanFixed type.width serializer.progress := by
  unfold Serializer.readFixed DataBuffer.read scanFixed Serializer.progress
  by_cases short : serializer.buffer.unread.length < type.width
  · simp [short]
  · simp [short]

/-- The header of a string or a list is read into a zero local. -/
theorem readHeader_progress (serializer : Serializer) :
    (serializer.progress.unread.length < 2 ∧
      serializer.readFixed .uInt16 0 = (0, ⟨serializer.buffer, -1⟩)) ∨
    (¬ serializer.progress.unread.length < 2 ∧ ∃ len next,
      serializer.readFixed .uInt16 0 = (len, next) ∧
      len.toNat = decode (serializer.progress.unread.take 2) ∧
      next.progress = ⟨serializer.progress.unread.drop 2, false⟩) := by
  by_cases short : serializer.progress.unread.length < 2
  · exact .inl ⟨short, Serializer.readFixed_short short⟩
  · have present : (serializer.progress.unread.take 2).length = 2 := by
      rw [List.length_take]
      omega
    have bound := decode_lt (serializer.progress.unread.take 2)
    rw [present] at bound
    refine .inr ⟨short, UInt16.ofNat (decode (serializer.progress.unread.take 2)),
      ⟨serializer.buffer.advance (serializer.progress.unread.take 2)
        (serializer.progress.unread.drop 2), 0⟩, ?_, ?_, ?_⟩
    · rw [Serializer.readFixed, DataBuffer.read, if_neg (by exact short)]
      rfl
    · rw [UInt16.toNat_ofNat']
      exact Nat.mod_eq_of_lt bound
    · simp [Serializer.progress]

theorem readString_progress (old : List UInt8) (serializer : Serializer) :
    (serializer.readString old).2.progress = scanString serializer.progress := by
  rcases readHeader_progress serializer with ⟨short, read⟩ | ⟨present, len, next, read, length,
    start⟩
  · rw [Serializer.readString, read, scanString, scanCounted, if_pos short]
    rfl
  · rw [Serializer.readString, read, scanString, scanCounted, if_neg present]
    dsimp only
    rw [← length, ← start]
    by_cases nonempty : 0 < len
    · rw [if_pos nonempty, DataBuffer.getDataSize, scanFixed]
      by_cases short : next.buffer.unread.length < len.toNat
      · rw [if_pos short, if_pos (by exact short)]
        rfl
      · rw [if_neg short, if_neg (by exact short), DataBuffer.moveReadPtr, DataBuffer.read,
          if_neg short]
        rfl
    · have empty : len.toNat = 0 := by
        rwa [UInt16.lt_iff_toNat_lt, UInt16.toNat_zero, Nat.pos_iff_ne_zero, not_not] at nonempty
      rw [if_neg nonempty, empty, scanFixed, if_neg (Nat.not_lt_zero _), start]
      rfl

theorem loadItems_progress {Item : Type} {load : Item → Serializer → Item × Serializer}
    {scan : Progress → Progress}
    (loads : ∀ object serializer, (load object serializer).2.progress = scan serializer.progress)
    (size : Nat) (temporary : Item) (items : List Item) (serializer : Serializer) :
    (loadItems load size temporary items serializer).2.progress =
      scan^[size] serializer.progress := by
  induction size generalizing temporary items serializer with
  | zero => rfl
  | succ size ih => rw [loadItems, ih, loads, Function.iterate_succ_apply]

theorem loadList_progress {Item : Type} {load : Item → Serializer → Item × Serializer}
    {scan : Progress → Progress}
    (loads : ∀ object serializer, (load object serializer).2.progress = scan serializer.progress)
    (temporary : Item) (items : List Item) (serializer : Serializer) :
    (loadList load temporary items serializer).2.progress =
      scanList scan serializer.progress := by
  rcases readHeader_progress serializer with ⟨short, read⟩ | ⟨present, len, next, read, length,
    start⟩
  · rw [loadList, read, scanList, scanCounted, if_pos short]
    rfl
  · rw [loadList, read, scanList, scanCounted, if_neg present]
    dsimp only
    rw [← length, ← start]
    by_cases nonempty : 0 < len
    · rw [if_pos nonempty]
      exact loadItems_progress loads _ _ _ _
    · have empty : len.toNat = 0 := by
        rwa [UInt16.lt_iff_toNat_lt, UInt16.toNat_zero, Nat.pos_iff_ne_zero, not_not] at nonempty
      rw [if_neg nonempty, empty]
      rfl

mutual

/-- The progress of a load does not depend on its object. -/
theorem load_progress (archive : Archive) (object : archive.Value) (serializer : Serializer) :
    (load archive object serializer).2.progress = scan archive serializer.progress := by
  match archive with
  | .fixed type => exact readFixed_progress _ _ _
  | .string => exact readString_progress _ _
  | .list element => exact loadList_progress (load_progress element) _ _ _
  | .record entries => exact loadEntries_progress entries object serializer

theorem loadEntries_progress (entries : List Archive) (object : Values entries)
    (serializer : Serializer) :
    (loadEntries entries object serializer).2.progress =
      scanEntries entries serializer.progress := by
  match entries with
  | [] => rfl
  | entry :: entries =>
      rw [loadEntries, scanEntries, Serializer.getErrorCode]
      dsimp only
      rw [loadEntries_progress entries]
      by_cases ok : serializer.iError = 0
      · have clear : serializer.progress.failed = false := by simp [Serializer.progress, ok]
        rw [if_pos ok, clear, if_neg Bool.false_ne_true, load_progress entry]
      · have set : serializer.progress.failed = true := by simp [Serializer.progress, ok]
        rw [if_neg ok, set, if_pos rfl]

end

theorem loadChain_progress (chain : List Archive) (object : Values chain)
    (serializer : Serializer) :
    (loadChain chain object serializer).2.progress = scanChain chain serializer.progress := by
  induction chain generalizing serializer with
  | nil => rfl
  | cons archive chain ih =>
      rw [loadChain]
      dsimp only
      rw [ih, load_progress]
      rfl

end Refinement

end Archive

end AppSvr.BaseServer
