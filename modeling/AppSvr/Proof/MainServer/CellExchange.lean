/-
This file proves when the requests to move items keep a bag well formed.
-/

import AppSvr.Construction.MainServer.BagProcess
import AppSvr.ToMathlib.TransitionSystem

namespace AppSvr.MainServer

open TransitionSystem

variable {bag : List CellRow} {roleID : UInt32} {topCellNum : UInt32 → UInt32}

def cellsOf (bag : List CellRow) (roleID : UInt32) : List Int :=
  (bag.filter fun row => row.roleID = roleID).map CellRow.cellIndex

/-- Every role has its items in distinct cells of its bag. -/
structure CellsFormed (topCellNum : UInt32 → UInt32) (bag : List CellRow) : Prop where
  distinct : ∀ roleID, (cellsOf bag roleID).Nodup
  range : ∀ roleID, ∀ cell ∈ cellsOf bag roleID, 1 ≤ cell ∧ cell ≤ (topCellNum roleID).toNat

/-- The items of a role are put into other cells. -/
def relocate (roleID : UInt32) (place : Int → Int) (bag : List CellRow) : List CellRow :=
  bag.map fun row =>
    if row.roleID = roleID then { row with cellIndex := place row.cellIndex } else row

/-- What a row says of its item. -/
def CellRow.item (row : CellRow) : UInt32 × UInt32 × UInt32 × UInt32 :=
  (row.roleID, row.itemID, row.entityID, row.num)

/-- The bag stays well formed and has the same items. Either nothing changes, or the contents of the
two cells change places. -/
structure Exchanges (topCellNum : UInt32 → UInt32) (bag : List CellRow) (request : ChangeRequest) :
    Prop where
  formed : CellsFormed topCellNum (processchangeItem bag request).2
  items : ((processchangeItem bag request).2.map CellRow.item).Perm (bag.map CellRow.item)
  cells : (processchangeItem bag request).2 = bag ∨ (processchangeItem bag request).2 =
    relocate request.roleID (Equiv.swap request.celIndex1.toInt request.celIndex2.toInt) bag

/-- The first cell is empty, or the second one is empty and a cell of the bag, or it is not empty
and nothing lies a thousand cells behind the first one. -/
def Movable (topCellNum : UInt32 → UInt32) (bag : List CellRow) (request : ChangeRequest) : Prop :=
  let cells := cellsOf bag request.roleID
  let celIndex1 := request.celIndex1.toInt
  let celIndex2 := request.celIndex2.toInt
  celIndex1 ∉ cells ∨
    celIndex2 ∉ cells ∧ 1 ≤ celIndex2 ∧ celIndex2 ≤ (topCellNum request.roleID).toNat ∨
    celIndex2 ∈ cells ∧ celIndex1 + 1000 ∉ cells

section Relocation

theorem cellsOf_relocate (place : Int → Int) (bag : List CellRow) :
    cellsOf (relocate roleID place bag) roleID = (cellsOf bag roleID).map place := by
  induction bag with
  | nil => rfl
  | cons row rest inductive_hypothesis =>
      unfold cellsOf relocate at inductive_hypothesis ⊢
      by_cases own : row.roleID = roleID <;> simp [own, inductive_hypothesis]

theorem cellsOf_relocate_other {other : UInt32} (apart : other ≠ roleID) (place : Int → Int)
    (bag : List CellRow) : cellsOf (relocate roleID place bag) other = cellsOf bag other := by
  induction bag with
  | nil => rfl
  | cons row rest inductive_hypothesis =>
      unfold cellsOf relocate at inductive_hypothesis ⊢
      by_cases own : row.roleID = roleID
      · simp [own, apart.symm, inductive_hypothesis]
      · by_cases others : row.roleID = other <;> simp [own, others, apart, inductive_hypothesis]

theorem relocate_congr {place other : Int → Int}
    (same : ∀ cell ∈ cellsOf bag roleID, place cell = other cell) :
    relocate roleID place bag = relocate roleID other bag := by
  refine List.map_congr_left fun row member => ?_
  split_ifs with own
  · rw [same _ (List.mem_map_of_mem (List.mem_filter.mpr ⟨member, decide_eq_true own⟩))]
  · rfl

theorem relocate_relocate (place other : Int → Int) (bag : List CellRow) :
    relocate roleID other (relocate roleID place bag) =
      relocate roleID (other ∘ place) bag := by
  unfold relocate
  rw [List.map_map]
  refine List.map_congr_left fun row _ => ?_
  by_cases own : row.roleID = roleID <;> simp [own]

theorem relocate_items (place : Int → Int) (bag : List CellRow) :
    (relocate roleID place bag).map CellRow.item = bag.map CellRow.item := by
  unfold relocate
  rw [List.map_map]
  refine List.map_congr_left fun row _ => ?_
  by_cases own : row.roleID = roleID <;> simp [own, CellRow.item]

/-- The bag stays well formed if the items come into distinct cells of the bag. -/
theorem CellsFormed.relocate_iff (formed : CellsFormed topCellNum bag) (place : Int → Int) :
    CellsFormed topCellNum (relocate roleID place bag) ↔
      (∀ first ∈ cellsOf bag roleID, ∀ second ∈ cellsOf bag roleID,
        place first = place second → first = second) ∧
      ∀ cell ∈ cellsOf bag roleID, 1 ≤ place cell ∧ place cell ≤ (topCellNum roleID).toNat := by
  constructor
  · rintro ⟨distinct, range⟩
    have distinct := distinct roleID
    have range := range roleID
    rw [cellsOf_relocate] at distinct range
    exact ⟨fun first member second other same =>
        List.inj_on_of_nodup_map distinct member other same,
      fun cell member => range _ (List.mem_map_of_mem member)⟩
  · rintro ⟨apart, inside⟩
    refine ⟨fun other => ?_, fun other cell => ?_⟩
    · by_cases own : other = roleID
      · rw [own, cellsOf_relocate]
        exact (formed.distinct roleID).map_on apart
      · rw [cellsOf_relocate_other own]
        exact formed.distinct other
    · by_cases own : other = roleID
      · rw [own, cellsOf_relocate]
        intro member
        obtain ⟨cell, before, rfl⟩ := List.mem_map.mp member
        exact inside cell before
      · rw [cellsOf_relocate_other own]
        exact formed.range other cell

end Relocation

section Request

theorem selectItemID_isEmpty (bag : List CellRow) (roleID : UInt32) (celIndex : Int) :
    (selectItemID bag roleID celIndex).isEmpty ↔ celIndex ∉ cellsOf bag roleID := by
  unfold selectItemID cellsOf
  simp only [List.isEmpty_iff, List.map_eq_nil_iff, List.filter_eq_nil_iff, decide_eq_true_eq,
    not_and, List.mem_map, List.mem_filter, not_exists]
  grind

theorem updateBag_eq (bag : List CellRow) (roleID : UInt32) (celIndex value : Int) :
    updateBag bag roleID celIndex value =
      relocate roleID (fun cell => if cell = celIndex then value else cell) bag := by
  refine List.map_congr_left fun row _ => ?_
  by_cases own : row.roleID = roleID
  · subst own
    by_cases here : row.cellIndex = celIndex <;> simp [here]
  · simp [own]

/-- An item in the way stays in one cell with one of the two items. -/
def parked (celIndex1 celIndex2 cell : Int) : Int :=
  let cell := if cell = celIndex1 then celIndex1 + 1000 else cell
  let cell := if cell = celIndex2 then celIndex1 else cell
  if cell = celIndex1 + 1000 then celIndex2 else cell

theorem processchangeItem_eq (bag : List CellRow) (request : ChangeRequest) :
    (processchangeItem bag request).2 =
      if request.celIndex1.toInt ∉ cellsOf bag request.roleID then bag
      else if request.celIndex2.toInt ∉ cellsOf bag request.roleID then
        relocate request.roleID (fun cell =>
          if cell = request.celIndex1.toInt then request.celIndex2.toInt else cell) bag
      else relocate request.roleID
        (parked request.celIndex1.toInt request.celIndex2.toInt) bag := by
  unfold processchangeItem
  simp only [selectItemID_isEmpty, updateBag_eq, relocate_relocate]
  split_ifs <;> rfl

/-- Two items end in the same cell if one of them is in the way of the other. -/
theorem parked_meet (celIndex1 celIndex2 : Int) :
    parked celIndex1 celIndex2 celIndex1 = parked celIndex1 celIndex2 (celIndex1 + 1000) := by
  unfold parked
  grind

theorem parked_eq_swap {celIndex1 celIndex2 cell : Int} (free : celIndex2 ≠ celIndex1 + 1000)
    (other : cell ≠ celIndex1 + 1000) :
    parked celIndex1 celIndex2 cell = Equiv.swap celIndex1 celIndex2 cell := by
  unfold parked
  rw [Equiv.swap_apply_def]
  grind

theorem CellsFormed.exchange {celIndex1 celIndex2 : Int} (formed : CellsFormed topCellNum bag)
    (member : celIndex1 ∈ cellsOf bag roleID)
    (inside : 1 ≤ celIndex2 ∧ celIndex2 ≤ (topCellNum roleID).toNat) :
    CellsFormed topCellNum (relocate roleID (Equiv.swap celIndex1 celIndex2) bag) := by
  refine (formed.relocate_iff _).mpr ⟨fun first _ second _ => ?_, fun cell listed => ?_⟩
  · exact fun same => (Equiv.swap celIndex1 celIndex2).injective same
  · rw [Equiv.swap_apply_def]
    split_ifs
    · exact inside
    · exact formed.range roleID celIndex1 member
    · exact formed.range roleID cell listed

theorem exchanges_of_swap {request : ChangeRequest}
    (swapped : (processchangeItem bag request).2 = relocate request.roleID
      (Equiv.swap request.celIndex1.toInt request.celIndex2.toInt) bag) :
    Exchanges topCellNum bag request ↔
      CellsFormed topCellNum (processchangeItem bag request).2 := by
  refine ⟨Exchanges.formed, fun formed => ⟨formed, ?_, .inr swapped⟩⟩
  rw [swapped, relocate_items]

/-- A request exchanges the two cells exactly when its condition holds. -/
theorem exchanges_iff (formed : CellsFormed topCellNum bag) (request : ChangeRequest) :
    Exchanges topCellNum bag request ↔ Movable topCellNum bag request := by
  have next := processchangeItem_eq bag request
  unfold Movable
  by_cases first : request.celIndex1.toInt ∈ cellsOf bag request.roleID
  · by_cases second : request.celIndex2.toInt ∈ cellsOf bag request.roleID
    · rw [if_neg (not_not_intro first), if_neg (not_not_intro second)] at next
      simp only [first, second, not_true_eq_false, false_and, false_or, true_and]
      constructor
      · -- The item in the way and the first item would share a cell.
        intro exchanges inTheWay
        have formed' := exchanges.formed
        rw [next] at formed'
        have same := ((formed.relocate_iff _).mp formed').1 _ first _ inTheWay (parked_meet _ _)
        omega
      · intro free
        have apart : request.celIndex2.toInt ≠ request.celIndex1.toInt + 1000 :=
          fun same => free (same ▸ second)
        have swapped := next.trans (relocate_congr fun cell member =>
          parked_eq_swap apart fun same => free (same ▸ member))
        rw [exchanges_of_swap swapped, swapped]
        exact formed.exchange first (formed.range _ _ second)
    · rw [if_neg (not_not_intro first), if_pos second] at next
      simp only [first, second, not_true_eq_false, not_false_eq_true, false_and, or_false, false_or,
        true_and]
      have swapped : (processchangeItem bag request).2 = relocate request.roleID
          (Equiv.swap request.celIndex1.toInt request.celIndex2.toInt) bag := by
        refine next.trans (relocate_congr fun cell member => ?_)
        have apart : cell ≠ request.celIndex2.toInt := fun same => second (same ▸ member)
        rw [Equiv.swap_apply_def, if_neg apart]
      rw [exchanges_of_swap swapped, swapped]
      refine ⟨fun formed' => ?_, formed.exchange first⟩
      have inside := ((formed.relocate_iff _).mp formed').2 _ first
      rwa [Equiv.swap_apply_left] at inside
  · rw [if_pos first] at next
    refine iff_of_true ⟨?_, ?_, .inl next⟩ (.inl first)
    · rwa [next]
    · rw [next]

end Request

/-- The requests of a run keep the bags well formed and exchange two cells each, if and only if each
of them finds a cell of the bag or no item in the way. -/
theorem processchangeItem_run_iff {start final : List CellRow}
    {history : History (List CellRow) ChangeRequest} (formed : CellsFormed topCellNum start)
    (run : Run changeStep anyEvent start history final) :
    (∀ entry ∈ history, Exchanges topCellNum entry.1 entry.2) ↔
      ∀ entry ∈ history, Movable topCellNum entry.1 entry.2 := by
  refine Run.forall_iff formed (fun bag request formed => exchanges_iff formed request) ?_ run
  intro bag request next _ exchanges changed
  exact Option.some.inj changed ▸ exchanges.formed

/-- Role 7 has one item in the first of 25 cells. -/
def oneItem : List CellRow := [⟨7, 1, 40, 0, 5⟩]

theorem oneItem_formed : CellsFormed (fun _ => 25) oneItem where
  distinct roleID := by
    unfold cellsOf
    exact ((List.nodup_singleton _).sublist List.filter_sublist).map_on (by simp [oneItem])
  range roleID cell member := by
    obtain ⟨row, listed, rfl⟩ := List.mem_map.mp member
    obtain rfl := List.mem_singleton.mp (List.mem_of_mem_filter listed)
    decide

theorem oneItem_moves : Exchanges (fun _ => 25) oneItem ⟨7, 1, 2⟩ := by
  have run : Run changeStep anyEvent oneItem [(oneItem, ⟨7, 1, 2⟩)]
      (processchangeItem oneItem ⟨7, 1, 2⟩).2 := .snoc .nil trivial rfl
  refine (processchangeItem_run_iff oneItem_formed run).mpr ?_ _ (List.mem_singleton_self _)
  intro entry member
  obtain rfl := List.mem_singleton.mp member
  exact .inr (.inl (by decide))

/-- The item is put into the cell -5. -/
theorem negativeCell_not_exchanges :
    ¬ ∀ (topCellNum : UInt32 → UInt32) (start final : List CellRow)
        (history : History (List CellRow) ChangeRequest), CellsFormed topCellNum start →
        Run changeStep anyEvent start history final →
        ∀ entry ∈ history, Exchanges topCellNum entry.1 entry.2 := by
  intro claimed
  have run : Run changeStep anyEvent oneItem [(oneItem, ⟨7, 1, -5⟩)]
      (processchangeItem oneItem ⟨7, 1, -5⟩).2 := .snoc .nil trivial rfl
  have exchanges := claimed _ _ _ _ oneItem_formed run _ (List.mem_singleton_self _)
  have inside := exchanges.formed.range 7 (-5) (by decide)
  exact absurd inside.1 (by decide)

end AppSvr.MainServer
