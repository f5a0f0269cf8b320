/-
This file proves that the search for free cells returns the smallest free cells.
-/

import AppSvr.Construction.MainServer.BagSvc
import AppSvr.ToMathlib.SlotTable
import Mathlib.Algebra.Order.Ring.Nat

namespace AppSvr.MainServer.MainSvc
open FreeIndices

/-- The next counter value stays in range below an occupied cell. -/
theorem next_toNat {countInt : UInt16} {bound : Nat} (below : countInt.toNat < bound)
    (small : bound < 2 ^ 16) : (countInt + 1).toNat = countInt.toNat + 1 := by
  rw [UInt16.toNat_add, UInt16.toNat_one]
  omega

/-- The free cells up to the counter have been taken. -/
def Collected (occupied : List Nat) (countInt : UInt16) (cell : List UInt16) : Prop :=
  cell.map UInt16.toNat = upTo occupied countInt.toNat

/-- A free cell that follows the counter joins the collected ones. -/
theorem Collected.push {occupied : List Nat} {countInt : UInt16} {cell : List UInt16}
    (collected : Collected occupied countInt cell)
    (next : (countInt + 1).toNat = countInt.toNat + 1) (free : countInt.toNat + 1 ∉ occupied) :
    Collected occupied (countInt + 1) (cell ++ [countInt + 1]) := by
  unfold Collected at collected ⊢
  rw [next, upTo_succ_of_free free, List.map_append, collected, List.map_singleton, next]

/-- The inner loop stops in front of the occupied cell or with enough cells. -/
theorem fillGap_spec {occupied : List Nat} {countIndex : UInt16} (num : Nat) (countInt : UInt16)
    (cell : List UInt16)
    (free : ∀ index, countInt.toNat < index → index < countIndex.toNat → index ∉ occupied)
    (behind : countInt.toNat < countIndex.toNat) (collected : Collected occupied countInt cell) :
    let (rest, last, cells) := fillGap countIndex num countInt cell
    Collected occupied last cells ∧ last.toNat < countIndex.toNat ∧
      rest + cells.length = num + cell.length ∧
      (rest ≠ 0 → last.toNat + 1 = countIndex.toNat) := by
  induction num generalizing countInt cell with
  | zero => exact ⟨collected, behind, rfl, fun wrong => absurd rfl wrong⟩
  | succ num ih =>
      unfold fillGap
      by_cases gap : countInt.toNat + 1 < countIndex.toNat
      · have next : (countInt + 1).toNat = countInt.toNat + 1 :=
          next_toNat behind countIndex.toNat_lt
        have pushed := collected.push next (free _ (Nat.lt_succ_self _) gap)
        have later := ih (countInt + 1) (cell ++ [countInt + 1])
          (fun index above below => free index (by omega) below) (by omega) pushed
        rw [if_pos gap]
        simp only [List.length_append, List.length_singleton] at later
        refine ⟨later.1, later.2.1, ?_, later.2.2.2⟩
        rw [later.2.2.1]
        omega
      · rw [if_neg gap]
        exact ⟨collected, behind, rfl, fun _ => by omega⟩

/-- The outer loop ends with enough cells or behind the last occupied cell. -/
theorem fillGaps_spec {occupied : List Nat} {bound : Nat} (rows : List UInt16) (num : Nat)
    (countInt : UInt16) (cell : List UInt16) (sorted : rows.Pairwise (· < ·))
    (behind : ∀ row ∈ rows, countInt.toNat < row.toNat ∧ row.toNat ≤ bound)
    (ahead : ∀ index, countInt.toNat < index → (index ∈ occupied ↔ index ∈ rows.map UInt16.toNat))
    (within : countInt.toNat ≤ bound) (collected : Collected occupied countInt cell) :
    let (rest, last, cells) := fillGaps rows num countInt cell
    rest + cells.length = num + cell.length ∧
      (∃ found, found ≤ bound ∧ cells.map UInt16.toNat = upTo occupied found) ∧
      (rest ≠ 0 → Collected occupied last cells ∧ ∀ index ∈ occupied, index ≤ last.toNat) := by
  induction rows generalizing num countInt cell with
  | nil =>
      refine ⟨rfl, ⟨countInt.toNat, within, collected⟩, fun _ => ⟨collected, ?_⟩⟩
      intro index member
      by_contra above
      simpa using (ahead index (not_le.mp above)).mp member
  | cons countIndex rows ih =>
      obtain ⟨first, sorted⟩ := List.pairwise_cons.mp sorted
      obtain ⟨next, inBound⟩ := behind countIndex List.mem_cons_self
      have free : ∀ index, countInt.toNat < index → index < countIndex.toNat →
          index ∉ occupied := by
        intro index above below member
        obtain ⟨row, listed, rfl⟩ := List.mem_map.mp ((ahead index above).mp member)
        rcases List.mem_cons.mp listed with rfl | later
        · exact lt_irrefl _ below
        · exact lt_asymm below (first row later)
      have gap := fillGap_spec num countInt cell free next collected
      unfold fillGaps
      generalize fillGap countIndex num countInt cell = result at gap ⊢
      obtain ⟨rest, last, cells⟩ := result
      obtain ⟨taken, below, total, full⟩ := gap
      dsimp only at taken below total full ⊢
      by_cases enough : rest = 0
      · obtain rfl := enough
        rw [if_pos rfl]
        exact ⟨total, ⟨last.toNat, by omega, taken⟩, fun wrong => absurd rfl wrong⟩
      · rw [if_neg enough]
        have reached : Collected occupied countIndex cells := by
          have occupiedHere : last.toNat + 1 ∈ occupied := by
            rw [full enough]
            exact (ahead _ next).mpr (by simp)
          unfold Collected at taken ⊢
          rw [← full enough, upTo_succ_of_occupied occupiedHere, taken]
        have later := ih rest countIndex cells sorted
          (fun row member => ⟨first row member, (behind row (List.mem_cons_of_mem _ member)).2⟩)
          (fun index above => ?_) inBound reached
        · refine ⟨?_, later.2⟩
          rw [later.1, total]
        · rw [ahead index (lt_trans next above), List.map_cons, List.mem_cons]
          exact or_iff_right (ne_of_gt above)

/-- Behind the last occupied cell every cell up to the bag size is free. -/
theorem fillTail_spec {occupied : List Nat} {topCellNum : UInt32} (num : Nat) (countInt : UInt16)
    (cell : List UInt16) (last : ∀ index ∈ occupied, index ≤ countInt.toNat)
    (room : countInt.toNat + num ≤ topCellNum.toNat) (small : countInt.toNat + num < 2 ^ 16)
    (collected : Collected occupied countInt cell) :
    (fillTail topCellNum num countInt cell).1 = 0 ∧
      (fillTail topCellNum num countInt cell).2.map UInt16.toNat =
        upTo occupied (countInt.toNat + num) := by
  induction num generalizing countInt cell with
  | zero => exact ⟨rfl, collected⟩
  | succ num ih =>
      have next : (countInt + 1).toNat = countInt.toNat + 1 :=
        next_toNat (Nat.lt_add_of_pos_right (Nat.succ_pos num)) small
      have free : countInt.toNat + 1 ∉ occupied := by
        intro member
        have := last _ member
        omega
      have later := ih (countInt + 1) (cell ++ [countInt + 1])
        (fun index member => by have := last index member; omega) (by omega) (by omega)
        (collected.push next free)
      unfold fillTail
      rw [if_pos (by omega)]
      rw [next, Nat.add_right_comm, Nat.add_assoc] at later
      exact later

/-- Every cell that the last loop takes is one fewer to find. -/
theorem fillTail_length (topCellNum : UInt32) (num : Nat) (countInt : UInt16)
    (cell : List UInt16) :
    (fillTail topCellNum num countInt cell).1 + (fillTail topCellNum num countInt cell).2.length =
      num + cell.length := by
  induction num generalizing countInt cell with
  | zero => rfl
  | succ num ih =>
      unfold fillTail
      split
      · rw [ih, List.length_append, List.length_singleton, Nat.add_right_comm, Nat.add_assoc]
      · rfl

/-- The inner loop takes as many cells as it counts down. -/
theorem fillGap_length (countIndex : UInt16) (num : Nat) (countInt : UInt16)
    (cell : List UInt16) :
    (fillGap countIndex num countInt cell).1 + (fillGap countIndex num countInt cell).2.2.length =
      num + cell.length := by
  induction num generalizing countInt cell with
  | zero => rfl
  | succ num ih =>
      unfold fillGap
      split
      · rw [ih, List.length_append, List.length_singleton, Nat.add_right_comm, Nat.add_assoc]
      · rfl

/-- The outer loop takes as many cells as it counts down. -/
theorem fillGaps_length (rows : List UInt16) (num : Nat) (countInt : UInt16)
    (cell : List UInt16) :
    (fillGaps rows num countInt cell).1 + (fillGaps rows num countInt cell).2.2.length =
      num + cell.length := by
  induction rows generalizing num countInt cell with
  | nil => rfl
  | cons countIndex rest ih =>
      have inner := fillGap_length countIndex num countInt cell
      unfold fillGaps
      dsimp only
      split
      case isTrue enough =>
        rw [enough] at inner
        exact inner
      case isFalse =>
        rw [ih]
        exact inner

/-- A bag size that the counter cannot reach never stops the last loop. -/
theorem fillTail_large {topCellNum : UInt32} (large : 2 ^ 16 ≤ topCellNum.toNat) (num : Nat)
    (countInt : UInt16) (cell : List UInt16) : (fillTail topCellNum num countInt cell).1 = 0 := by
  induction num generalizing countInt cell with
  | zero => rfl
  | succ num ih =>
      unfold fillTail
      rw [if_pos (lt_of_lt_of_le countInt.toNat_lt large)]
      exact ih _ _

/-- The rows of a bag have distinct cells between one and the bag size. -/
structure BagWellFormed (svc : MainSvc) (roleID : UInt32) : Prop where
  distinct : ((svc.selectBag roleID).map DBBagItem.cellIndex).Nodup
  within : ∀ row ∈ svc.selectBag roleID,
    1 ≤ row.cellIndex.toNat ∧ row.cellIndex.toNat ≤ (svc.getRoleCellNum roleID).toNat

/-- The bag still has room for this many items. -/
def HasRoom (svc : MainSvc) (roleID : UInt32) (num : Nat) : Prop :=
  num = 0 ∨ num + (svc.selectBag roleID).length ≤ (svc.getRoleCellNum roleID).toNat

/-- The occupied cells of a bag are natural numbers here. -/
def occupied (svc : MainSvc) (roleID : UInt32) : List Nat :=
  (svc.selectBag roleID).map fun row => row.cellIndex.toNat

@[simp] theorem occupied_length (svc : MainSvc) (roleID : UInt32) :
    (svc.occupied roleID).length = (svc.selectBag roleID).length :=
  List.length_map _

section Search

variable {svc : MainSvc} {roleID : UInt32} (formed : svc.BagWellFormed roleID)
include formed

theorem BagWellFormed.occupied_nodup : (svc.occupied roleID).Nodup := by
  have numbers : svc.occupied roleID =
      ((svc.selectBag roleID).map DBBagItem.cellIndex).map UInt16.toNat := by
    simp [occupied]
  rw [numbers]
  exact formed.distinct.map fun _ _ same => UInt16.toNat_inj.mp same

theorem BagWellFormed.occupied_within : ∀ index ∈ svc.occupied roleID,
    1 ≤ index ∧ index ≤ (svc.getRoleCellNum roleID).toNat := by
  intro index member
  obtain ⟨row, listed, rfl⟩ := List.mem_map.mp member
  exact formed.within row listed

theorem BagWellFormed.occupied_numbered : ∀ index ∈ svc.occupied roleID,
    1 ≤ index ∧ index ≤ 2 ^ 16 - 1 := by
  intro index member
  obtain ⟨row, -, rfl⟩ := List.mem_map.mp member
  exact ⟨(formed.occupied_within _ member).1, Nat.le_sub_one_of_lt row.cellIndex.toNat_lt⟩

/-- A bag has fewer rows than there are cell numbers. -/
theorem BagWellFormed.length_lt : (svc.selectBag roleID).length < 2 ^ 16 := by
  have filled := length_upTo formed.occupied_nodup formed.occupied_numbered
  rw [occupied_length] at filled
  omega

/-- The ordered rows start the search. -/
theorem fillGaps_rows (num : Nat) :
    let rows := ((svc.selectBag roleID).map DBBagItem.cellIndex).insertionSort (· ≤ ·)
    let (rest, last, cells) := fillGaps rows num 0 []
    rest + cells.length = num ∧
      (∃ found, found ≤ (svc.getRoleCellNum roleID).toNat ∧
        cells.map UInt16.toNat = upTo (svc.occupied roleID) found) ∧
      (rest ≠ 0 → Collected (svc.occupied roleID) last cells ∧
        ∀ index ∈ svc.occupied roleID, index ≤ last.toNat) := by
  intro rows
  have listed (row : UInt16) :
      row ∈ rows ↔ row ∈ (svc.selectBag roleID).map DBBagItem.cellIndex :=
    (List.perm_insertionSort _ _).mem_iff
  have sorted : rows.Pairwise (· < ·) := by
    have ordered := List.pairwise_insertionSort (· ≤ ·)
      ((svc.selectBag roleID).map DBBagItem.cellIndex)
    have distinct := (List.perm_insertionSort (· ≤ ·)
      ((svc.selectBag roleID).map DBBagItem.cellIndex)).nodup_iff.mpr formed.distinct
    exact (ordered.and distinct).imp fun both => UInt16.lt_of_le_of_ne both.1 both.2
  apply fillGaps_spec rows num 0 [] sorted
  · intro row member
    obtain ⟨item, stored, rfl⟩ := List.mem_map.mp ((listed row).mp member)
    exact formed.within item stored
  · intro index _
    simp [listed, occupied]
  · exact Nat.zero_le _
  · rfl

/-- A bag with room always yields enough cells; they are free while the counter does not wrap. -/
theorem fillTail_rows {num : Nat}
    (room : num + (svc.selectBag roleID).length ≤ (svc.getRoleCellNum roleID).toNat) :
    let rows := ((svc.selectBag roleID).map DBBagItem.cellIndex).insertionSort (· ≤ ·)
    let (rest, last, cells) := fillGaps rows num 0 []
    let (missing, cells) := fillTail (svc.getRoleCellNum roleID) rest last cells
    missing = 0 ∧ cells.length = num ∧ (num + (svc.selectBag roleID).length < 2 ^ 16 →
      ∃ found, found ≤ (svc.getRoleCellNum roleID).toNat ∧
        cells.map UInt16.toNat = upTo (svc.occupied roleID) found) := by
  intro rows
  have gaps := fillGaps_rows formed num
  change let (rest, last, cells) := fillGaps rows num 0 []; _ at gaps
  generalize fillGaps rows num 0 [] = result at gaps ⊢
  obtain ⟨rest, last, cells⟩ := result
  obtain ⟨total, collected, unfinished⟩ := gaps
  dsimp only at total collected unfinished ⊢
  by_cases enough : rest = 0
  · obtain rfl := enough
    exact ⟨rfl, by simpa [fillTail] using total, fun _ => collected⟩
  · obtain ⟨taken, behind⟩ := unfinished enough
    have filled : (svc.selectBag roleID).length + cells.length = last.toNat := by
      have within : ∀ index ∈ svc.occupied roleID, 1 ≤ index ∧ index ≤ last.toNat :=
        fun index member => ⟨(formed.occupied_within index member).1, behind index member⟩
      have lengths := length_upTo formed.occupied_nodup within
      rw [← taken, List.length_map, occupied_length] at lengths
      exact lengths
    have tail := fillTail_length (svc.getRoleCellNum roleID) rest last cells
    have missing : (fillTail (svc.getRoleCellNum roleID) rest last cells).1 = 0 := by
      by_cases large : 2 ^ 16 ≤ (svc.getRoleCellNum roleID).toNat
      · exact fillTail_large large _ _ _
      · exact (fillTail_spec rest last cells behind (by omega) (by omega) taken).1
    refine ⟨missing, by omega, fun small => ⟨last.toNat + rest, by omega, ?_⟩⟩
    exact (fillTail_spec rest last cells behind (by omega) (by omega) taken).2

/-- The sixteen-bit row count is exact. -/
theorem rowCount : (UInt16.ofNat (((svc.selectBag roleID).map DBBagItem.cellIndex).insertionSort
    (· ≤ ·)).length).toNat = (svc.selectBag roleID).length := by
  rw [List.length_insertionSort, List.length_map]
  exact UInt16.toNat_ofNat_of_lt' formed.length_lt

/-- A bag without room is refused. -/
theorem ifhassomany_of_full {num : UInt16} (full : ¬ svc.HasRoom roleID num.toNat) :
    svc.ifhassomany roleID num = (0, []) := by
  obtain ⟨positive, above⟩ := not_or.mp full
  have present : num ≠ 0 := by
    rintro rfl
    exact positive rfl
  simp only [ifhassomany, if_neg present, rowCount formed, if_pos (not_le.mp above)]

/-- A bag with room yields enough cells; they are free while the counter does not wrap. -/
theorem ifhassomany_of_room {num : UInt16} (room : svc.HasRoom roleID num.toNat) :
    (svc.ifhassomany roleID num).1 = 1 ∧ (svc.ifhassomany roleID num).2.length = num.toNat ∧
      (num.toNat + (svc.selectBag roleID).length < 2 ^ 16 →
        ∃ last, last ≤ (svc.getRoleCellNum roleID).toNat ∧
          (svc.ifhassomany roleID num).2.map UInt16.toNat = upTo (svc.occupied roleID) last) := by
  unfold ifhassomany
  by_cases none : num = 0
  · rw [if_pos none]
    exact ⟨rfl, by simp [none], fun _ => ⟨0, Nat.zero_le _, rfl⟩⟩
  · have positive : num.toNat ≠ 0 := fun zero => none (UInt16.toNat_inj.mp zero)
    have fits := room.resolve_left positive
    have found := fillTail_rows formed fits
    simp only [if_neg none, rowCount formed, if_neg (not_lt.mpr fits), if_pos found.1]
    exact ⟨trivial, found.2⟩

/-- The search refuses exactly a bag without room. -/
theorem ifhassomany_eq_zero (num : UInt16) :
    (svc.ifhassomany roleID num).1 = 0 ↔ ¬ svc.HasRoom roleID num.toNat := by
  constructor
  · intro refused room
    have found := (ifhassomany_of_room formed room).1
    rw [refused] at found
    exact absurd found (by decide)
  · intro full
    rw [ifhassomany_of_full formed full]

/-- The found cells are distinct and free while the counter does not wrap. -/
theorem ifhassomany_free {num : UInt16} (room : svc.HasRoom roleID num.toNat)
    (small : num.toNat + (svc.selectBag roleID).length < 2 ^ 16) :
    (svc.ifhassomany roleID num).2.Nodup ∧ ∀ index ∈ (svc.ifhassomany roleID num).2,
      index ∉ (svc.selectBag roleID).map DBBagItem.cellIndex ∧
        1 ≤ index.toNat ∧ index.toNat ≤ (svc.getRoleCellNum roleID).toNat := by
  obtain ⟨last, inBag, found⟩ := (ifhassomany_of_room formed room).2.2 small
  constructor
  · apply List.Nodup.of_map UInt16.toNat
    rw [found]
    exact nodup_upTo
  · intro index member
    have numbered : index.toNat ∈ upTo (svc.occupied roleID) last := by
      rw [← found]
      exact List.mem_map_of_mem member
    obtain ⟨⟨positive, below⟩, free⟩ := mem_upTo.mp numbered
    refine ⟨fun taken => free ?_, positive, below.trans inBag⟩
    obtain ⟨row, stored, rfl⟩ := List.mem_map.mp taken
    exact List.mem_map.mpr ⟨row, stored, rfl⟩

end Search

/-- A successful search in any bag returns as many cells as it was asked for. -/
theorem ifhassomany_length {svc : MainSvc} {roleID : UInt32} {num : UInt16}
    (found : (svc.ifhassomany roleID num).1 = 1) :
    (svc.ifhassomany roleID num).2.length = num.toNat := by
  unfold ifhassomany at found ⊢
  by_cases none : num = 0
  · rw [if_pos none, none]
    rfl
  · simp only [if_neg none] at found ⊢
    split at found
    case isTrue => exact absurd found (by decide)
    case isFalse fits =>
      rw [if_neg fits]
      have gaps := fillGaps_length (((svc.selectBag roleID).map
        DBBagItem.cellIndex).insertionSort (· ≤ ·)) num.toNat 0 []
      generalize fillGaps _ num.toNat 0 [] = taken at gaps found ⊢
      have tail := fillTail_length (svc.getRoleCellNum roleID) taken.1 taken.2.1 taken.2.2
      split at found
      case isTrue zero =>
        rw [zero, Nat.zero_add] at tail
        exact tail.trans gaps
      case isFalse =>
        have wrong : (0 : UInt16) = 1 := found
        exact absurd wrong (by decide)

/-- The search for one cell ends in a gap between the rows or behind all of them. -/
theorem fillGaps_one {rows : List UInt16} {countInt : UInt16} (sorted : rows.Pairwise (· ≤ ·))
    (behind : ∀ row ∈ rows, countInt.toNat ≤ row.toNat) :
    (∃ last index, fillGaps rows 1 countInt [] = (0, last, [index]) ∧
      countInt.toNat < index.toNat ∧ index ∉ rows) ∨
    ∃ last, fillGaps rows 1 countInt [] = (1, last, []) ∧
      ∀ row ∈ rows, row.toNat ≤ last.toNat := by
  induction rows generalizing countInt with
  | nil => exact .inr ⟨countInt, rfl, by simp⟩
  | cons countIndex rows ih =>
      obtain ⟨first, sorted⟩ := List.pairwise_cons.mp sorted
      have above (row : UInt16) (member : row ∈ rows) : countIndex.toNat ≤ row.toNat :=
        UInt16.le_iff_toNat_le.mp (first row member)
      by_cases gap : countInt.toNat + 1 < countIndex.toNat
      · have next := next_toNat (Nat.lt_of_succ_lt gap) countIndex.toNat_lt
        refine .inl ⟨countIndex, countInt + 1, by simp [fillGaps, fillGap, gap], by omega, ?_⟩
        intro member
        rcases List.mem_cons.mp member with same | later
        · have value := congrArg UInt16.toNat same
          omega
        · have value := above _ later
          omega
      · have step : fillGaps (countIndex :: rows) 1 countInt [] =
            fillGaps rows 1 countIndex [] := by simp [fillGaps, fillGap, gap]
        rw [step]
        rcases ih sorted above with ⟨last, index, found, beyond, free⟩ | ⟨last, found, within⟩
        · have start := behind countIndex List.mem_cons_self
          refine .inl ⟨last, index, found, by omega, ?_⟩
          rw [List.mem_cons, not_or]
          refine ⟨?_, free⟩
          rintro rfl
          exact absurd beyond (Nat.lt_irrefl _)
        · refine .inr ⟨last, found, List.forall_mem_cons.mpr ⟨?_, within⟩⟩
          cases rows with
          | nil =>
              injection found with _ rest
              injection rest with same
              rw [same]
          | cons row rows =>
              exact (above row List.mem_cons_self).trans (within row List.mem_cons_self)

/-- One cell of a small bag is free, also when the rows share cells. -/
theorem ifhassomany_one {svc : MainSvc} {roleID : UInt32}
    (small : (svc.getRoleCellNum roleID).toNat < 2 ^ 16) {lic : List UInt16}
    (found : svc.ifhassomany roleID 1 = (1, lic)) :
    ∃ index, lic = [index] ∧ index ∉ (svc.selectBag roleID).map DBBagItem.cellIndex := by
  have listed (index : UInt16) : index ∈ ((svc.selectBag roleID).map
      DBBagItem.cellIndex).insertionSort (· ≤ ·) ↔
        index ∈ (svc.selectBag roleID).map DBBagItem.cellIndex :=
    (List.perm_insertionSort _ _).mem_iff
  have one : (1 : UInt16).toNat = 1 := rfl
  have refused : ¬ (0 : UInt16) = 1 := by decide
  simp only [ifhassomany, one, if_neg (by decide : ¬ (1 : UInt16) = 0)] at found
  split at found
  · injection found with room
    exact absurd room refused
  have start : ∀ row ∈ ((svc.selectBag roleID).map DBBagItem.cellIndex).insertionSort (· ≤ ·),
      (0 : UInt16).toNat ≤ row.toNat := fun row _ => Nat.zero_le row.toNat
  rcases fillGaps_one (List.pairwise_insertionSort (· ≤ ·) _) start with
    ⟨last, index, taken, -, free⟩ | ⟨last, taken, within⟩
  · rw [taken] at found
    injection found with _ cells
    exact ⟨index, cells.symm, mt (listed index).mpr free⟩
  · rw [taken] at found
    by_cases inside : last.toNat < (svc.getRoleCellNum roleID).toNat
    · have next := next_toNat inside small
      simp only [fillTail, if_pos inside, List.nil_append] at found
      injection found with _ cells
      refine ⟨last + 1, cells.symm, fun member => ?_⟩
      have below := within (last + 1) ((listed _).mpr member)
      omega
    · simp only [fillTail, if_neg inside] at found
      injection found with room
      exact absurd room refused

end AppSvr.MainServer.MainSvc
