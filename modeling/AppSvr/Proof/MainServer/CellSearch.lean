/-
This file proves which cells the two searches for free cells find.
-/

import AppSvr.Construction.MainServer.ItemUse
import AppSvr.Construction.MainServer.MailSvc
import AppSvr.Proof.MainServer.FreeCells

namespace AppSvr.MainServer

open FreeIndices

namespace MainSvc

/-- The free cells of a bag in increasing order. -/
def freeCells (svc : MainSvc) (roleID : UInt32) : List Nat :=
  upTo (svc.occupied roleID) (svc.getRoleCellNum roleID).toNat

/-- The cell is in the bag of the role, and no row has it. -/
def FreeCell (svc : MainSvc) (roleID : UInt32) (index : UInt16) : Prop :=
  index.toNat ∈ svc.freeCells roleID

variable {svc : MainSvc} {roleID : UInt32}

theorem freeCell_iff {index : UInt16} : svc.FreeCell roleID index ↔
    (1 ≤ index.toNat ∧ index.toNat ≤ (svc.getRoleCellNum roleID).toNat) ∧
      index.toNat ∉ svc.occupied roleID :=
  mem_upTo

theorem BagWellFormed.length_le (formed : svc.BagWellFormed roleID) :
    (svc.selectBag roleID).length ≤ (svc.getRoleCellNum roleID).toNat := by
  have filled := length_upTo formed.occupied_nodup formed.occupied_within
  rw [occupied_length] at filled
  omega

theorem BagWellFormed.hasRoom_iff (formed : svc.BagWellFormed roleID) (num : Nat) :
    svc.HasRoom roleID num ↔
      num + (svc.selectBag roleID).length ≤ (svc.getRoleCellNum roleID).toNat := by
  have fits := formed.length_le
  unfold HasRoom
  omega

/-- The search succeeds exactly when the cells suffice, and finds the smallest free ones. -/
structure FindsSmallest (svc : MainSvc) (roleID : UInt32) (num : UInt16) : Prop where
  room : (svc.ifhassomany roleID num).1 = 1 ↔
    num.toNat + (svc.selectBag roleID).length ≤ (svc.getRoleCellNum roleID).toNat
  refused : (svc.ifhassomany roleID num).1 ≠ 1 → (svc.ifhassomany roleID num).1 = 0
  cells : (svc.ifhassomany roleID num).1 = 1 →
    (svc.ifhassomany roleID num).2.map UInt16.toNat = (svc.freeCells roleID).take num.toNat

/-- The result does not depend on the width of a cell number, and the cells are the smallest free
ones while a cell number can count the rows and the cells together. -/
theorem ifhassomany_findsSmallest (formed : svc.BagWellFormed roleID) (num : UInt16) :
    ((svc.ifhassomany roleID num).1 = 1 ↔
      num.toNat + (svc.selectBag roleID).length ≤ (svc.getRoleCellNum roleID).toNat) ∧
    ((svc.ifhassomany roleID num).1 ≠ 1 → (svc.ifhassomany roleID num).1 = 0) ∧
    (num.toNat + (svc.selectBag roleID).length < 2 ^ 16 → svc.FindsSmallest roleID num) := by
  have zero := ifhassomany_eq_zero formed num
  have room : (svc.ifhassomany roleID num).1 = 1 ↔ svc.HasRoom roleID num.toNat := by
    refine ⟨fun found => ?_, fun room => (ifhassomany_of_room formed room).1⟩
    by_contra full
    rw [zero.mpr full] at found
    exact absurd found (by decide)
  have refused : (svc.ifhassomany roleID num).1 ≠ 1 → (svc.ifhassomany roleID num).1 = 0 :=
    fun other => zero.mpr fun fits => other (room.mpr fits)
  rw [formed.hasRoom_iff] at room
  refine ⟨room, refused, fun small => ⟨room, refused, fun found => ?_⟩⟩
  have fits := (formed.hasRoom_iff num.toNat).mpr (room.mp found)
  obtain ⟨last, inBag, taken⟩ := (ifhassomany_of_room formed fits).2.2 small
  have count : num.toNat = (upTo (svc.occupied roleID) last).length := by
    rw [← taken, List.length_map, (ifhassomany_of_room formed fits).2.1]
  rw [freeCells, taken, count]
  exact (upTo_take inBag).symm

/-- Role 7 has this many cells and a row in each of these cells. -/
def numberedBag (topCellNum : UInt32) (cells : List UInt16) : MainSvc where
  mapRole roleID := if roleID = 7 then some { Role.new with id := 7, topCellNum } else none
  bag := cells.map fun cell => ⟨7, cell, 1, 5, 2001, 0, 1⟩
  roleMoney _ := none
  bindStatus _ := none

/-- Three cells lie in front of, between and behind the rows. -/
theorem twoRows_findSmallest :
    (numberedBag 25 [4, 2]).ifhassomany 7 3 = (1, [1, 3, 5]) ∧
      (numberedBag 25 [4, 2]).FindsSmallest 7 3 := by
  have formed : (numberedBag 25 [4, 2]).BagWellFormed 7 :=
    ⟨by decide, by decide⟩
  exact ⟨by decide +kernel, (ifhassomany_findsSmallest formed 3).2.2 (by decide)⟩

/-- No cell number names the last cell of a bag with 65536 cells. -/
theorem largeBag_not_findsSmallest :
    ¬ ∀ (svc : MainSvc) (roleID : UInt32) (num : UInt16), svc.BagWellFormed roleID →
      svc.FindsSmallest roleID num := by
  intro claimed
  have formed : (numberedBag 65536 [1]).BagWellFormed 7 := ⟨by decide, by decide⟩
  have found := claimed (numberedBag 65536 [1]) 7 65535 formed
  have cells := found.cells (found.room.mpr (by decide))
  have top : (numberedBag 65536 [1]).freeCells 7 = upTo [1] 65536 := rfl
  have count : (upTo [1] 65536).length = 65535 := by
    have filled := @length_upTo [1] 65536 (List.nodup_singleton 1) (by simp)
    rw [List.length_singleton] at filled
    omega
  have last : 65536 ∈ (upTo [1] 65536).take (65535 : UInt16).toNat := by
    have num : (65535 : UInt16).toNat = 65535 := rfl
    rw [num, List.take_of_length_le (le_of_eq count)]
    exact mem_upTo.mpr ⟨⟨by decide, le_refl _⟩, by decide⟩
  rw [← top, ← cells] at last
  obtain ⟨cell, -, number⟩ := List.mem_map.mp last
  have small := cell.toNat_lt
  rw [number] at small
  exact absurd small (by decide)

end MainSvc

namespace BagSvc

variable {Other : Type*}

/-- The rows that are read first count the cells up to a jump. -/
theorem firstGap_numbered {rows : List UInt16} {countIndex : UInt16} (distinct : rows.Nodup)
    (above : ∀ row ∈ rows, countIndex.toNat < row.toNat) :
    ∃ taken rest, rows.map UInt16.toNat = List.range' (countIndex.toNat + 1) taken ++ rest ∧
      (rest = [] ∧ (firstGap rows countIndex (countIndex + 1)).1 = 0 ∧
          (firstGap rows countIndex (countIndex + 1)).2.toNat = countIndex.toNat + taken ∨
        ∃ index ∈ rest.head?, countIndex.toNat + taken + 1 < index ∧
          (firstGap rows countIndex (countIndex + 1)).1.toNat = countIndex.toNat + taken + 1) := by
  induction rows generalizing countIndex with
  | nil => exact ⟨0, [], rfl, .inl ⟨rfl, rfl, rfl⟩⟩
  | cons row rows ih =>
      have here := above row List.mem_cons_self
      have next := MainSvc.next_toNat here row.toNat_lt
      rw [firstGap]
      by_cases gap : countIndex + 1 < row
      · rw [if_pos gap]
        rw [UInt16.lt_iff_toNat_lt, next] at gap
        exact ⟨0, row.toNat :: rows.map UInt16.toNat, rfl, .inr ⟨row.toNat, rfl, gap, next⟩⟩
      · rw [if_neg gap]
        rw [UInt16.lt_iff_toNat_lt, next] at gap
        obtain ⟨fresh, distinct⟩ := List.nodup_cons.mp distinct
        have later : ∀ other ∈ rows, row.toNat < other.toNat := by
          intro other member
          have beyond := above other (List.mem_cons_of_mem _ member)
          have different : other.toNat ≠ row.toNat :=
            fun same => fresh (UInt16.toNat_inj.mp same ▸ member)
          omega
        obtain ⟨taken, rest, split, ended⟩ := ih distinct later
        have first : row.toNat = countIndex.toNat + 1 := by omega
        refine ⟨taken + 1, rest, ?_, ?_⟩
        · rw [List.map_cons, split, first, List.range'_succ, List.cons_append]
        · rw [show countIndex.toNat + (taken + 1) = row.toNat + taken by omega]
          exact ended

variable {svc : BagSvc Other} {roleID : UInt32}

/-- The mail service searches in the same way. -/
theorem mainSvc_ifhascellIndex (svc : BagSvc Other) (roleID : UInt32) :
    svc.mainSvc.ifhascellIndex roleID = svc.ifhascellIndex roleID := by
  have loop (rows : List UInt16) (countIndex countInt : UInt16) :
      MainSvc.gapIndex rows countIndex countInt = firstGap rows countIndex countInt := by
    induction rows generalizing countIndex countInt with
    | nil => rfl
    | cons row rows ih => rw [MainSvc.gapIndex, firstGap, ih]
  unfold MainSvc.ifhascellIndex ifhascellIndex
  dsimp only
  rw [loop]
  by_cases empty : (svc.mainSvc.selectBag roleID).map DBBagItem.cellIndex = []
  · rw [empty, if_pos rfl]
    split_ifs with full <;> simp_all [firstGap]
  · rw [if_neg empty]

/-- The rows in the cells below the smallest free one are read first, in the order of the cells. -/
def LowestFirst (svc : BagSvc Other) (roleID : UInt32) : Prop :=
  ∃ last, last + 1 < 2 ^ 16 ∧ List.range' 1 last <+: svc.mainSvc.occupied roleID ∧
    last + 1 ∉ svc.mainSvc.occupied roleID

/-- Both searches refuse the same bags, and no item gets into an occupied cell. -/
structure SearchesAgree (tables : ItemTables) (svc : BagSvc Other) (roleID : UInt32) : Prop where
  refused : svc.ifhascellIndex roleID = 0 ↔ (svc.mainSvc.ifhassomany roleID 1).1 = 0
  free : svc.ifhascellIndex roleID ≠ 0 → svc.mainSvc.FreeCell roleID (svc.ifhascellIndex roleID)
  getItem : ∀ itemID lic num, ∀ row ∈ (svc.getItem tables roleID itemID lic num).2.1.bag,
    row ∈ svc.bag ∨ svc.mainSvc.FreeCell roleID row.cellIndex
  getItemFromEmail : ∀ mail : MailSvc, mail.toMainSvc = svc.mainSvc →
    ∀ itemID num entityID after result,
      (MailProgram.getItemFromEmail roleID itemID num entityID).run MailSvc.execute mail =
        some (after, result) →
      ∀ row ∈ after.bag, row ∈ svc.bag ∨ svc.mainSvc.FreeCell roleID row.cellIndex

/-- A search with room reads the lowest rows and names the cell behind them. -/
theorem ifhascellIndex_cases (formed : svc.mainSvc.BagWellFormed roleID)
    (room : svc.mainSvc.HasRoom roleID 1) :
    ∃ taken rest, svc.mainSvc.occupied roleID = List.range' 1 taken ++ rest ∧
      rest.head? ≠ some (taken + 1) ∧ taken + 1 ≤ (svc.mainSvc.getRoleCellNum roleID).toNat ∧
      (taken + 1 < 2 ^ 16 → (svc.ifhascellIndex roleID).toNat = taken + 1) ∧
      (2 ^ 16 ≤ taken + 1 → svc.ifhascellIndex roleID = 0) := by
  have numbers : ((svc.mainSvc.selectBag roleID).map DBBagItem.cellIndex).map UInt16.toNat =
      svc.mainSvc.occupied roleID := by
    rw [List.map_map]
    rfl
  have above : ∀ row ∈ (svc.mainSvc.selectBag roleID).map DBBagItem.cellIndex,
      (0 : UInt16).toNat < row.toNat := by
    intro row member
    obtain ⟨item, stored, rfl⟩ := List.mem_map.mp member
    exact (formed.within item stored).1
  have count :
      (UInt16.ofNat ((svc.mainSvc.selectBag roleID).map DBBagItem.cellIndex).length).toNat =
        (svc.mainSvc.occupied roleID).length := by
    rw [List.length_map, UInt16.toNat_ofNat_of_lt' formed.length_lt, MainSvc.occupied_length]
  have fits := (formed.hasRoom_iff 1).mp room
  rw [← MainSvc.occupied_length] at fits
  obtain ⟨taken, rest, split, ended⟩ := firstGap_numbered formed.distinct above
  have start : (0 : UInt16).toNat = 0 := rfl
  have one : (0 : UInt16) + 1 = 1 := rfl
  rw [numbers, start, Nat.zero_add] at split
  rw [start, Nat.zero_add, one] at ended
  have lengths : (svc.mainSvc.occupied roleID).length = taken + rest.length := by
    rw [split, List.length_append, List.length_range']
  refine ⟨taken, rest, split, ?_⟩
  unfold ifhascellIndex
  dsimp only
  rw [if_neg (by omega)]
  generalize firstGap _ 0 1 = result at ended ⊢
  obtain ⟨cellIndex, countIndex⟩ := result
  rcases ended with ⟨rfl, none, last⟩ | ⟨index, head, gap, found⟩
  · -- All rows are numbered in order, and the cell behind the last one is named.
    dsimp only at none last ⊢
    rw [List.length_nil] at lengths
    rw [if_pos ⟨by omega, none⟩]
    have next : (countIndex + 1).toNat = (taken + 1) % 2 ^ 16 := by
      rw [UInt16.toNat_add, last]
      rfl
    refine ⟨by simp, by omega, fun small => next.trans (Nat.mod_eq_of_lt small), fun wraps => ?_⟩
    apply UInt16.toNat.inj
    have bound := countIndex.toNat_lt
    rw [next, show taken + 1 = 2 ^ 16 by omega]
    rfl
  · -- The first jump leaves a cell that a later row may still have.
    dsimp only at found ⊢
    have small := cellIndex.toNat_lt
    have present : cellIndex ≠ 0 := fun zero => by
      rw [zero] at found
      exact absurd found (Nat.succ_ne_zero taken).symm
    rw [if_neg fun both => present both.2]
    have member : index ∈ svc.mainSvc.occupied roleID := by
      rw [split]
      exact List.mem_append_right _ (List.mem_of_mem_head? head)
    have within := formed.occupied_within index member
    refine ⟨fun same => ?_, by omega, fun _ => found, by omega⟩
    rw [Option.mem_def.mp head] at same
    have equal := Option.some.inj same
    omega

/-- A new item gets the cell that was found. -/
theorem getItem_bag (tables : ItemTables) (svc : BagSvc Other) (roleID itemID : UInt32)
    (lic : List ItemCell) (num : UInt16) :
    ∀ row ∈ (svc.getItem tables roleID itemID lic num).2.1.bag,
      row ∈ svc.bag ∨
        svc.ifhascellIndex roleID ≠ 0 ∧ row.cellIndex = svc.ifhascellIndex roleID := by
  intro row member
  unfold BagSvc.getItem at member
  dsimp only at member
  split_ifs at member with full
  · exact .inl member
  split at member
  · exact .inl member
  split_ifs at member
  · exact .inl member
  all_goals
    rcases List.mem_append.mp member with old | new
    · exact .inl old
    · rw [List.mem_singleton.mp new]
      exact .inr ⟨full, rfl⟩

theorem getItemFromEmail_bag {mail after : MailSvc} {itemID entityID : UInt32} {num : UInt16}
    {result : Int}
    (ended : (MailProgram.getItemFromEmail roleID itemID num entityID).run MailSvc.execute mail =
      some (after, result)) :
    ∀ row ∈ after.bag, row ∈ mail.bag ∨
      mail.ifhascellIndex roleID ≠ 0 ∧ row.cellIndex = mail.ifhascellIndex roleID := by
  intro row member
  have selected : MailSvc.execute (.selectBag roleID) mail = some mail := rfl
  rw [MailProgram.getItemFromEmail, Programs.Program.run_statement, selected,
    Option.bind_some] at ended
  dsimp only at ended
  by_cases full : mail.ifhascellIndex roleID = 0
  · rw [if_pos full] at ended
    cases ended
    exact .inl member
  · rw [if_neg full] at ended
    have inserted : after.bag = mail.bag ++ [⟨roleID, mail.ifhascellIndex roleID, 1,
        (mail.itemType itemID).getD 0, itemID, entityID, num.toUInt32⟩] := by
      by_cases entity : entityID ≠ 0
      · simp only [if_pos entity] at ended
        cases ended
        rfl
      · simp only [if_neg entity] at ended
        cases ended
        rfl
    rw [inserted] at member
    rcases List.mem_append.mp member with old | new
    · exact .inl old
    · rw [List.mem_singleton.mp new]
      exact .inr ⟨full, rfl⟩

theorem ifhascellIndex_of_full (formed : svc.mainSvc.BagWellFormed roleID)
    (full : (svc.mainSvc.getRoleCellNum roleID).toNat ≤ (svc.mainSvc.selectBag roleID).length) :
    svc.ifhascellIndex roleID = 0 := by
  unfold ifhascellIndex
  dsimp only
  rw [List.length_map, UInt16.toNat_ofNat_of_lt' formed.length_lt, if_pos full]

theorem ifhassomany_one_eq_zero (formed : svc.mainSvc.BagWellFormed roleID) :
    (svc.mainSvc.ifhassomany roleID 1).1 = 0 ↔
      (svc.mainSvc.getRoleCellNum roleID).toNat ≤ (svc.mainSvc.selectBag roleID).length := by
  have one : (1 : UInt16).toNat = 1 := rfl
  rw [MainSvc.ifhassomany_eq_zero formed 1, one, formed.hasRoom_iff]
  omega

/-- The rows that are read before a jump end in front of the smallest free cell. -/
theorem taken_eq {occupied rest : List Nat} {taken last : Nat}
    (split : occupied = List.range' 1 taken ++ rest) (jump : rest.head? ≠ some (taken + 1))
    (lowest : List.range' 1 last <+: occupied) (free : last + 1 ∉ occupied) : last = taken := by
  rcases lt_trichotomy last taken with before | same | behind
  · refine absurd ?_ free
    rw [split]
    exact List.mem_append_left _ (List.mem_range'_1.mpr (by omega))
  · exact same
  · obtain ⟨others, whole⟩ := lowest
    have ranges : List.range' 1 last =
        List.range' 1 taken ++ (taken + 1) :: List.range' (taken + 2) (last - taken - 1) := by
      have whole : taken + (last - taken - 1 + 1) = last := by omega
      change _ = _ ++ List.range' (taken + 1) (last - taken - 1 + 1)
      rw [Nat.add_comm taken 1, List.range'_append_1, whole]
    rw [split, ranges, List.append_assoc] at whole
    rw [← List.append_cancel_left whole] at jump
    exact absurd rfl jump

/-- Both searches refuse a full bag, and the first gap of a bag whose lowest rows are read in order
is a free cell. -/
theorem ifhascellIndex_finds (formed : svc.mainSvc.BagWellFormed roleID)
    (condition : (svc.mainSvc.getRoleCellNum roleID).toNat ≤
        (svc.mainSvc.selectBag roleID).length ∨ svc.LowestFirst roleID) :
    (svc.ifhascellIndex roleID = 0 ↔ (svc.mainSvc.ifhassomany roleID 1).1 = 0) ∧
      (svc.ifhascellIndex roleID ≠ 0 →
        svc.mainSvc.FreeCell roleID (svc.ifhascellIndex roleID)) := by
  have refused := ifhassomany_one_eq_zero formed
  by_cases full : (svc.mainSvc.getRoleCellNum roleID).toNat ≤ (svc.mainSvc.selectBag roleID).length
  · have none := ifhascellIndex_of_full formed full
    exact ⟨iff_of_true none (refused.mpr full), fun present => absurd none present⟩
  · obtain ⟨last, small, lowest, free⟩ := condition.resolve_left full
    have room := (formed.hasRoom_iff 1).mpr (by omega)
    obtain ⟨taken, rest, split, jump, within, found, -⟩ := ifhascellIndex_cases formed room
    obtain rfl := taken_eq split jump lowest free
    have number := found small
    have present : svc.ifhascellIndex roleID ≠ 0 := by
      intro none
      rw [none] at number
      exact absurd number (Nat.succ_ne_zero last).symm
    refine ⟨iff_of_false present (mt refused.mp full), fun _ => ?_⟩
    rw [MainSvc.freeCell_iff, number]
    exact ⟨⟨by omega, within⟩, free⟩

/-- Where the search of a bag finds free cells only, so do the items and the mails put into it. -/
theorem searchesAgree_of_finds (tables : ItemTables)
    (refused : svc.ifhascellIndex roleID = 0 ↔ (svc.mainSvc.ifhassomany roleID 1).1 = 0)
    (free : svc.ifhascellIndex roleID ≠ 0 →
      svc.mainSvc.FreeCell roleID (svc.ifhascellIndex roleID)) :
    SearchesAgree tables svc roleID := by
  refine ⟨refused, free, fun itemID lic num row member => ?_,
    fun mail same itemID num entityID after result ended row member => ?_⟩
  · rcases getItem_bag tables svc roleID itemID lic num row member with old | ⟨present, cell⟩
    · exact .inl old
    · rw [cell]
      exact .inr (free present)
  · have searched : mail.ifhascellIndex roleID = svc.ifhascellIndex roleID := by
      rw [← mainSvc_ifhascellIndex, ← same]
    have bag : mail.bag = svc.bag := congrArg MainSvc.bag same
    rcases getItemFromEmail_bag ended row member with old | ⟨present, cell⟩
    · exact .inl (bag ▸ old)
    · rw [searched] at present cell
      rw [cell]
      exact .inr (free present)

/-- The searches agree exactly when the bag is full or its lowest rows are read in order. -/
theorem searchesAgree_iff (tables : ItemTables) (formed : svc.mainSvc.BagWellFormed roleID) :
    SearchesAgree tables svc roleID ↔
      (svc.mainSvc.getRoleCellNum roleID).toNat ≤ (svc.mainSvc.selectBag roleID).length ∨
        svc.LowestFirst roleID := by
  constructor
  · intro agree
    by_cases full : (svc.mainSvc.getRoleCellNum roleID).toNat ≤
        (svc.mainSvc.selectBag roleID).length
    · exact .inl full
    have room := (formed.hasRoom_iff 1).mpr (by omega)
    obtain ⟨taken, rest, split, -, -, found, wraps⟩ := ifhascellIndex_cases formed room
    have present : svc.ifhascellIndex roleID ≠ 0 := by
      rwa [Ne, agree.refused, ifhassomany_one_eq_zero formed]
    have small : taken + 1 < 2 ^ 16 := not_le.mp (mt wraps present)
    have free := (MainSvc.freeCell_iff.mp (agree.free present)).2
    rw [found small] at free
    exact .inr ⟨taken, small, ⟨rest, split.symm⟩, free⟩
  · intro condition
    obtain ⟨refused, free⟩ := ifhascellIndex_finds formed condition
    exact searchesAgree_of_finds tables refused free

/-- Role 7 has a bag of 25 cells with a row in each of these cells, read in this order. -/
def readBag (cells : List UInt16) : BagSvc Empty where
  mapRole roleID :=
    if roleID = 7 then some { ItemRole.new with id := 7, topCellNum := 25 } else none
  bag := cells.map fun cell => ⟨7, cell, 1, 5, 2001, 0, 1⟩
  roleMoney _ := ⟨0, 0, 0⟩
  equip := []
  bindStatus _ := none
  isVip _ := none
  nextEntityID := 1
  runes := .initial fun _ _ => 0
  issued := []

/-- The rows of the first two cells are read before the others. -/
theorem orderedRows_agree : (readBag [1, 2, 5, 4]).LowestFirst 7 ∧
    SearchesAgree ⟨fun _ => none, [], [], []⟩ (readBag [1, 2, 5, 4]) 7 := by
  have formed : (readBag [1, 2, 5, 4]).mainSvc.BagWellFormed 7 := ⟨by decide, by decide⟩
  have lowest : (readBag [1, 2, 5, 4]).LowestFirst 7 := ⟨2, by decide, by decide, by decide⟩
  exact ⟨lowest, (searchesAgree_iff _ formed).mpr (.inr lowest)⟩

/-- The row of the second cell is read first, and the search names the first cell. -/
theorem swappedRows_not_agree :
    ¬ ∀ (tables : ItemTables) (svc : BagSvc Empty) (roleID : UInt32),
      svc.mainSvc.BagWellFormed roleID → SearchesAgree tables svc roleID := by
  intro claimed
  have formed : (readBag [2, 1]).mainSvc.BagWellFormed 7 := ⟨by decide, by decide⟩
  have agree := claimed ⟨fun _ => none, [], [], []⟩ (readBag [2, 1]) 7 formed
  have taken : (readBag [2, 1]).ifhascellIndex 7 = 1 := by decide +kernel
  have free := (MainSvc.freeCell_iff.mp (agree.free (by rw [taken]; decide))).2
  rw [taken] at free
  exact free (by decide)

end BagSvc

end AppSvr.MainServer
