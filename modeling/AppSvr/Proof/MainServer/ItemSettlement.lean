/-
This file proves which items a trade with a failing statement moves.
-/

import AppSvr.Proof.MainServer.ItemExchange
import AppSvr.Proof.MainServer.TradeSteps

namespace AppSvr.MainServer.MainSvc

/-- These rows lie in the offered cells. -/
def offered (svc : MainSvc) (roleID : UInt32) (cell : List UInt16) : List DBBagItem :=
  svc.bag.filter (Listed roleID cell)

/-- The item of the row lies in a free cell of the other role now. -/
structure HandedTo (svc : MainSvc) (toRoleID : UInt32) (row moved : DBBagItem) : Prop where
  owner : moved.roleID = toRoleID
  item : moved.item = row.item
  free : moved.cellIndex ∉ (svc.selectBag toRoleID).map DBBagItem.cellIndex

/-- The offered items have changed their owners, and no other row has changed. -/
def ItemsSettled (svc next : MainSvc) (roleID : UInt32) (cell : List UInt16) (toRoleID : UInt32)
    (cell1 : List UInt16) : Prop :=
  ∃ given received, List.Forall₂ (svc.HandedTo toRoleID) (svc.offered roleID cell) given ∧
    List.Forall₂ (svc.HandedTo roleID) (svc.offered toRoleID cell1) received ∧
    next.bag.Perm (svc.keptRows roleID cell toRoleID cell1 ++ (given ++ received))

section Bags

variable {fault : Option TradeStatement} {own : Bool} {svc : MainSvc} {roleID toRoleID : UInt32}
  {cell cell1 : List UInt16}

/-- The deletion on one side is needed, and it fails. -/
def Stuck (fault : Option TradeStatement) (own : Bool) (svc : MainSvc) (roleID : UInt32)
    (cell : List UInt16) : Prop :=
  UInt16.ofNat cell.length ≠ 0 ∧
    (fault = some (.selectCells own) ∨ fault = some (.deleteCells own) ∨
      svc.offered roleID cell = [])

/-- The rows that the deletion on one side leaves. -/
def leftover (svc : MainSvc) (roleID : UInt32) (cell : List UInt16) : MainSvc :=
  if UInt16.ofNat cell.length ≠ 0 then
    { svc with bag := svc.bag.filter fun row => ¬ Listed roleID cell row }
  else svc

/-- The row that the deletion on one side has read. -/
def taken (svc : MainSvc) (roleID : UInt32) (cell : List UInt16) : List DBBagItem :=
  if UInt16.ofNat cell.length ≠ 0 then (svc.offered roleID cell).take 1 else []

theorem delete_of_stuck (stuck : Stuck fault own svc roleID cell) :
    ∃ bagitem, (if UInt16.ofNat cell.length ≠ 0 then
      svc.deletefromBagUnder fault own roleID cell else (1, svc, [])) = (0, svc, bagitem) := by
  obtain ⟨size, reason⟩ := stuck
  rw [if_pos size]
  unfold deletefromBagUnder deletefromBag
  split_ifs with select delete
  · exact ⟨[], rfl⟩
  · exact ⟨_, rfl⟩
  · have empty := (reason.resolve_left select).resolve_left delete
    rw [offered] at empty
    rw [empty]
    exact ⟨[], rfl⟩

theorem delete_of_free (free : ¬ Stuck fault own svc roleID cell) :
    (if UInt16.ofNat cell.length ≠ 0 then
      svc.deletefromBagUnder fault own roleID cell else (1, svc, [])) =
      (1, svc.leftover roleID cell, svc.taken roleID cell) := by
  unfold leftover taken
  split_ifs with size
  · obtain ⟨select, rest⟩ := not_or.mp fun reason => free ⟨size, reason⟩
    obtain ⟨delete, present⟩ := not_or.mp rest
    simp only [deletefromBagUnder, if_neg select, if_neg delete, deletefromBag]
    rw [offered] at present ⊢
    cases rows : svc.bag.filter (Listed roleID cell) with
    | nil => exact absurd rows present
    | cons first others => rfl
  · rfl

/-- A deletion for one role leaves the offers of the other one. -/
theorem offered_leftover (different : roleID ≠ toRoleID) :
    (svc.leftover roleID cell).offered toRoleID cell1 = svc.offered toRoleID cell1 := by
  unfold leftover
  split_ifs
  · exact filter_other different cell cell1
  · rfl

theorem taken_length : (svc.taken roleID cell).length ≤ 1 := by
  unfold taken
  split_ifs
  · exact List.length_take_le 1 _
  · exact Nat.zero_le 1

theorem leftover_onlyBag : svc.OnlyBag (svc.leftover roleID cell) := by
  unfold leftover
  split_ifs
  · exact ⟨rfl, rfl, rfl⟩
  · exact .refl svc

theorem leftover_length : (svc.leftover roleID cell).bag.length ≤ svc.bag.length := by
  unfold leftover
  split_ifs
  · exact List.length_filter_le _ _
  · exact Nat.le_refl _

/-- A deletion that is not stuck removes a row. -/
theorem leftover_length_lt (free : ¬ Stuck fault own svc roleID cell)
    (size : UInt16.ofNat cell.length ≠ 0) :
    (svc.leftover roleID cell).bag.length < svc.bag.length := by
  have present : svc.offered roleID cell ≠ [] := fun empty => free ⟨size, .inr (.inr empty)⟩
  have split := (filter_split svc.bag roleID cell).length_eq
  have rows := List.length_pos_iff.mpr present
  rw [offered] at rows
  rw [List.length_append] at split
  rw [leftover, if_pos size]
  dsimp only
  omega

theorem getAllToBagUnder_onlyBag (place : Nat) (cells : List UInt16) (items : List DBBagItem) :
    svc.OnlyBag (svc.getAllToBagUnder fault own roleID place cells items) := by
  induction cells generalizing svc items place with
  | nil => exact .refl svc
  | cons cell cells ih =>
      cases items with
      | nil => exact .refl svc
      | cons item items =>
          have first : svc.OnlyBag (if fault = some (.insertBag own place) then svc
              else svc.getToBag roleID cell item) := by
            split_ifs
            · exact .refl svc
            · exact ⟨rfl, rfl, rfl⟩
          exact first.trans (ih _ _)

/-- These rows arrive on one side. -/
def arrived (fault : Option TradeStatement) (own : Bool) (roleID : UInt32) (cells : List UInt16)
    (items : List DBBagItem) : List DBBagItem :=
  if fault = some (.insertBag own 0) then [] else List.zipWith (DBBagItem.moveTo roleID) cells items

theorem getAllToBagUnder_bag {cells : List UInt16} {items : List DBBagItem}
    (few : items.length ≤ 1) :
    (svc.getAllToBagUnder fault own roleID 0 cells items).bag =
      svc.bag ++ arrived fault own roleID cells items := by
  unfold arrived
  cases cells with
  | nil => simp [getAllToBagUnder]
  | cons cell cells =>
      cases items with
      | nil => simp [getAllToBagUnder]
      | cons item items =>
          obtain rfl := List.length_eq_zero_iff.mp (Nat.le_zero.mp (Nat.le_of_succ_le_succ few))
          unfold getAllToBagUnder
          split_ifs <;> cases cells <;> simp [getAllToBagUnder, getToBag, DBBagItem.moveTo]

/-- The rows of a side match the length of its list. -/
def Matches (svc : MainSvc) (roleID : UInt32) (cell : List UInt16) : Prop :=
  UInt16.ofNat cell.length = UInt16.ofNat (svc.taken roleID cell).length

/-- The bag after both deletions and all insertions. -/
def movedBag (fault : Option TradeStatement) (svc : MainSvc) (roleID : UInt32)
    (cell lic : List UInt16) (toRoleID : UInt32) (cell1 lic2 : List UInt16) : List DBBagItem :=
  ((svc.leftover roleID cell).leftover toRoleID cell1).bag ++
    (arrived fault false toRoleID lic2 (svc.taken roleID cell) ++
      arrived fault true roleID lic (svc.taken toRoleID cell1))

theorem stuck_leftover (different : roleID ≠ toRoleID) :
    Stuck fault own (svc.leftover roleID cell) toRoleID cell1 ↔
      Stuck fault own svc toRoleID cell1 := by
  rw [Stuck, Stuck, offered_leftover different]

theorem taken_leftover (different : roleID ≠ toRoleID) :
    (svc.leftover roleID cell).taken toRoleID cell1 = svc.taken toRoleID cell1 := by
  rw [taken, taken, offered_leftover different]

variable (lic lic2 : List UInt16)

theorem moveItemsUnder_of_stuck (stuck : Stuck fault true svc roleID cell) :
    svc.moveItemsUnder fault roleID cell lic toRoleID cell1 lic2 = (-1, svc) := by
  obtain ⟨bagitem, deleted⟩ := delete_of_stuck stuck
  simp only [moveItemsUnder, deleted, if_true]

theorem moveItemsUnder_of_second (different : roleID ≠ toRoleID)
    (free : ¬ Stuck fault true svc roleID cell) (stuck : Stuck fault false svc toRoleID cell1) :
    svc.moveItemsUnder fault roleID cell lic toRoleID cell1 lic2 =
      (-1, svc.leftover roleID cell) := by
  have later : Stuck fault false (svc.leftover roleID cell) toRoleID cell1 :=
    (stuck_leftover different).mpr stuck
  obtain ⟨bagitem, deleted⟩ := delete_of_stuck later
  simp only [moveItemsUnder, delete_of_free free, deleted, if_true,
    if_neg (by decide : ¬ (1 : UInt16) = 0)]

variable (different : roleID ≠ toRoleID) (free : ¬ Stuck fault true svc roleID cell)
  (free1 : ¬ Stuck fault false svc toRoleID cell1)
include different free free1

theorem moveItemsUnder_of_mismatch
    (mismatch : ¬ (svc.Matches roleID cell ∧ svc.Matches toRoleID cell1)) :
    svc.moveItemsUnder fault roleID cell lic toRoleID cell1 lic2 =
      (-1, (svc.leftover roleID cell).leftover toRoleID cell1) := by
  have reason := not_and_or.mp mismatch
  simp only [Matches] at reason
  simp only [moveItemsUnder, delete_of_free free,
    delete_of_free (mt (stuck_leftover different).mp free1), taken_leftover different,
    if_neg (by decide : ¬ (1 : UInt16) = 0)]
  rw [if_pos reason]

theorem moveItemsUnder_of_matches (same : svc.Matches roleID cell)
    (same1 : svc.Matches toRoleID cell1) :
    ∃ next, svc.moveItemsUnder fault roleID cell lic toRoleID cell1 lic2 = (1, next) ∧
      svc.OnlyBag next ∧
      next.bag = svc.movedBag fault roleID cell lic toRoleID cell1 lic2 := by
  have matching : ¬ (UInt16.ofNat cell.length ≠ UInt16.ofNat (svc.taken roleID cell).length ∨
      UInt16.ofNat cell1.length ≠ UInt16.ofNat (svc.taken toRoleID cell1).length) :=
    not_or.mpr ⟨not_not.mpr same, not_not.mpr same1⟩
  simp only [moveItemsUnder, delete_of_free free,
    delete_of_free (mt (stuck_leftover different).mp free1), taken_leftover different,
    if_neg (by decide : ¬ (1 : UInt16) = 0), if_neg matching]
  refine ⟨_, rfl, ?_, ?_⟩
  · exact leftover_onlyBag.trans (leftover_onlyBag.trans
      ((getAllToBagUnder_onlyBag ..).trans (getAllToBagUnder_onlyBag ..)))
  · rw [getAllToBagUnder_bag taken_length, getAllToBagUnder_bag taken_length, movedBag,
      List.append_assoc]

end Bags

/-- The number of rows that lie in free cells of a role. -/
def freshRows (svc : MainSvc) (owner : UInt32) (rows : List DBBagItem) : Nat :=
  rows.countP fun row =>
    row.roleID = owner ∧ row.cellIndex ∉ (svc.selectBag owner).map DBBagItem.cellIndex

section Fresh

variable {svc : MainSvc} {owner roleID toRoleID : UInt32} {cell cell1 : List UInt16}

@[simp] theorem freshRows_append (first second : List DBBagItem) :
    svc.freshRows owner (first ++ second) =
      svc.freshRows owner first + svc.freshRows owner second :=
  List.countP_append

theorem freshRows_perm {first second : List DBBagItem} (same : first.Perm second) :
    svc.freshRows owner first = svc.freshRows owner second :=
  same.countP_eq _

theorem freshRows_le (rows : List DBBagItem) : svc.freshRows owner rows ≤ rows.length :=
  List.countP_le_length

theorem freshRows_stored {rows : List DBBagItem} (stored : ∀ row ∈ rows, row ∈ svc.bag) :
    svc.freshRows owner rows = 0 := by
  refine List.countP_eq_zero.mpr fun row member fresh => ?_
  obtain ⟨owned, free⟩ := of_decide_eq_true fresh
  exact free (List.mem_map.mpr ⟨row, selectBag_mem.mpr ⟨stored row member, owned⟩, rfl⟩)

theorem freshRows_other {rows : List DBBagItem} (other : ∀ row ∈ rows, row.roleID = roleID)
    (different : roleID ≠ owner) : svc.freshRows owner rows = 0 := by
  refine List.countP_eq_zero.mpr fun row member fresh => ?_
  exact different ((other row member).symm.trans (of_decide_eq_true fresh).1)

/-- Every row that is handed over lies in a free cell. -/
theorem freshRows_handed {rows moved : List DBBagItem}
    (handed : List.Forall₂ (svc.HandedTo owner) rows moved) :
    svc.freshRows owner moved = rows.length := by
  induction handed with
  | nil => rfl
  | cons first _ ih =>
      rw [freshRows] at ih ⊢
      rw [List.countP_cons_of_pos, ih, List.length_cons]
      exact decide_eq_true ⟨first.owner, first.free⟩

theorem handed_owner {rows moved : List DBBagItem}
    (handed : List.Forall₂ (svc.HandedTo owner) rows moved) :
    ∀ row ∈ moved, row.roleID = owner := by
  induction handed with
  | nil => simp
  | cons first _ ih => exact List.forall_mem_cons.mpr ⟨first.owner, ih⟩

theorem moveTo_owner (cells : List UInt16) (items : List DBBagItem) :
    ∀ row ∈ List.zipWith (DBBagItem.moveTo owner) cells items, row.roleID = owner := by
  induction cells generalizing items with
  | nil => simp
  | cons cell cells ih =>
      cases items with
      | nil => simp
      | cons item items =>
          rw [List.zipWith_cons_cons]
          exact List.forall_mem_cons.mpr ⟨rfl, ih items⟩

theorem arrived_owner {fault : Option TradeStatement} {own : Bool} (cells : List UInt16)
    (items : List DBBagItem) : ∀ row ∈ arrived fault own owner cells items, row.roleID = owner := by
  unfold arrived
  split_ifs
  · simp
  · exact moveTo_owner cells items

theorem arrived_length {fault : Option TradeStatement} {own : Bool} (cells : List UInt16)
    (items : List DBBagItem) : (arrived fault own owner cells items).length ≤ items.length := by
  unfold arrived
  split_ifs
  · exact Nat.zero_le _
  · rw [List.length_zipWith]
    exact Nat.min_le_right _ _

theorem leftover_stored : ∀ row ∈ (svc.leftover roleID cell).bag, row ∈ svc.bag := by
  intro row member
  unfold leftover at member
  split_ifs at member
  · exact (List.mem_filter.mp member).1
  · exact member

end Fresh

/-- The rows that stay belong to the old bag. -/
theorem freshRows_leftover {svc : MainSvc} (owner : UInt32) {roleID toRoleID : UInt32}
    {cell cell1 : List UInt16} :
    svc.freshRows owner ((svc.leftover roleID cell).leftover toRoleID cell1).bag = 0 :=
  freshRows_stored fun row member => leftover_stored row (leftover_stored row member)

section Sides

variable {fault : Option TradeStatement} {own : Bool} {svc : MainSvc} {roleID toRoleID : UInt32}
  {cell cell1 lic lic2 : List UInt16}

/-- One side hands over at most one row, which its list names, to free cells; no statement for this
row fails. -/
structure Delivers (fault : Option TradeStatement) (own : Bool) (svc : MainSvc) (roleID : UInt32)
    (cell : List UInt16) (toRoleID : UInt32) (lic : List UInt16) : Prop where
  size : (UInt16.ofNat cell.length).toNat = (svc.offered roleID cell).length
  few : (svc.offered roleID cell).length ≤ 1
  runs : svc.offered roleID cell ≠ [] → fault ≠ some (.selectCells own) ∧
    fault ≠ some (.deleteCells own) ∧ fault ≠ some (.insertBag (!own) 0)
  free : ∀ index ∈ lic, index ∉ (svc.selectBag toRoleID).map DBBagItem.cellIndex

/-- The searched cells are as many as the list has entries. -/
def Found (cell lic : List UInt16) : Prop := lic.length = (UInt16.ofNat cell.length).toNat

theorem size_eq_zero : UInt16.ofNat cell.length = 0 ↔ (UInt16.ofNat cell.length).toNat = 0 :=
  UInt16.toNat_inj.symm

theorem Delivers.size_ne_zero (delivers : Delivers fault own svc roleID cell toRoleID lic) :
    UInt16.ofNat cell.length ≠ 0 ↔ svc.offered roleID cell ≠ [] := by
  rw [Ne, size_eq_zero, delivers.size, List.length_eq_zero_iff]

theorem Delivers.taken (delivers : Delivers fault own svc roleID cell toRoleID lic) :
    svc.taken roleID cell = svc.offered roleID cell := by
  rw [MainSvc.taken]
  split_ifs with size
  · exact List.take_of_length_le delivers.few
  · exact (not_ne_iff.mp (mt delivers.size_ne_zero.mpr size)).symm

theorem Delivers.free_of_stuck (delivers : Delivers fault own svc roleID cell toRoleID lic) :
    ¬ Stuck fault own svc roleID cell := by
  rintro ⟨size, reason⟩
  have present := delivers.size_ne_zero.mp size
  obtain ⟨select, delete, -⟩ := delivers.runs present
  exact reason.elim select fun rest => rest.elim delete present

theorem Delivers.matches (delivers : Delivers fault own svc roleID cell toRoleID lic) :
    svc.Matches roleID cell := by
  rw [Matches, delivers.taken, ← UInt16.toNat_inj, delivers.size,
    UInt16.toNat_ofNat_of_lt' (lt_of_le_of_lt delivers.few (by decide))]

/-- The row of a delivering side arrives in the cell that was found. -/
theorem Delivers.arrived (delivers : Delivers fault own svc roleID cell toRoleID lic)
    (found : Found cell lic) :
    List.Forall₂ (svc.HandedTo toRoleID) (svc.offered roleID cell)
      (arrived fault (!own) toRoleID lic (svc.taken roleID cell)) := by
  have size := delivers.size
  have few := delivers.few
  rw [delivers.taken, MainSvc.arrived]
  rw [Found] at found
  cases rows : svc.offered roleID cell with
  | nil => split_ifs <;> simp
  | cons row rest =>
      rw [rows, List.length_cons] at few size
      obtain rfl := List.length_eq_zero_iff.mp (Nat.le_zero.mp (Nat.le_of_succ_le_succ few))
      obtain ⟨index, rfl⟩ := List.length_eq_one_iff.mp (found.trans size)
      have present : svc.offered roleID cell ≠ [] := by simp [rows]
      rw [if_neg (delivers.runs present).2.2]
      exact .cons ⟨rfl, rfl, delivers.free index List.mem_cons_self⟩ .nil

theorem counts_of_fresh (fresh : (svc.offered roleID cell).length ≤
      svc.freshRows toRoleID (arrived fault (!own) toRoleID lic (svc.taken roleID cell))) :
    (svc.taken roleID cell).length = (svc.offered roleID cell).length ∧
      (svc.offered roleID cell).length ≤ 1 := by
  have arrivals := fresh.trans ((freshRows_le _).trans (arrived_length ..))
  have one : (svc.taken roleID cell).length ≤ 1 := taken_length
  have part : (svc.taken roleID cell).length ≤ (svc.offered roleID cell).length := by
    unfold taken
    split_ifs
    · exact List.length_take_le' 1 _
    · exact Nat.zero_le _
  exact ⟨Nat.le_antisymm part arrivals, arrivals.trans one⟩

/-- A side whose rows all arrive in free cells delivers. -/
theorem delivers_of_fresh (free : ¬ Stuck fault own svc roleID cell)
    (same : svc.Matches roleID cell) (found : Found cell lic)
    (fresh : (svc.offered roleID cell).length ≤
      svc.freshRows toRoleID (arrived fault (!own) toRoleID lic (svc.taken roleID cell))) :
    Delivers fault own svc roleID cell toRoleID lic := by
  obtain ⟨all, few⟩ := counts_of_fresh fresh
  have size : (UInt16.ofNat cell.length).toNat = (svc.offered roleID cell).length := by
    rw [same, all, UInt16.toNat_ofNat_of_lt' (lt_of_le_of_lt few (by decide))]
  refine ⟨size, few, fun present => ?_, fun index member => ?_⟩
  · have positive := List.length_pos_iff.mpr present
    have needed : UInt16.ofNat cell.length ≠ 0 := by
      rw [Ne, size_eq_zero, size]
      exact Nat.ne_of_gt positive
    obtain ⟨select, rest⟩ := not_or.mp fun reason => free ⟨needed, reason⟩
    refine ⟨select, (not_or.mp rest).1, fun fails => ?_⟩
    rw [arrived, if_pos fails] at fresh
    exact absurd fresh (not_le.mpr positive)
  · -- the searched cell is the one of the row that arrives
    have one : lic.length = 1 := by
      have positive := List.length_pos_of_mem member
      rw [found, size] at positive ⊢
      omega
    rw [found, size] at one
    obtain ⟨cell', rfl⟩ := List.length_eq_one_iff.mp (found.trans (size.trans one))
    obtain rfl := List.mem_singleton.mp member
    obtain ⟨row, rows⟩ := List.length_eq_one_iff.mp (all.trans one)
    rw [one, rows] at fresh
    obtain ⟨moved, arrives, isFresh⟩ := List.countP_pos_iff.mp (Nat.lt_of_succ_le fresh)
    unfold arrived at arrives
    split_ifs at arrives
    · cases arrives
    · obtain rfl := List.mem_singleton.mp arrives
      exact (of_decide_eq_true isFresh).2

end Sides

/-- A side without an offer keeps its rows, and every other side loses the offered ones. -/
theorem leftover_bag {svc : MainSvc} {roleID : UInt32} {cell : List UInt16}
    (whole : UInt16.ofNat cell.length = 0 → svc.offered roleID cell = []) :
    (svc.leftover roleID cell).bag = svc.bag.filter fun row => ¬ Listed roleID cell row := by
  unfold leftover
  split_ifs with size
  · rfl
  · refine (List.filter_eq_self.mpr fun row member => ?_).symm
    have absent := List.filter_eq_nil_iff.mp (whole (not_ne_iff.mp size)) row member
    simpa using absent

/-- Two deletions leave the rows that neither role offers. -/
theorem leftover_kept {fault : Option TradeStatement} {svc : MainSvc} {roleID toRoleID : UInt32}
    {cell cell1 lic lic2 : List UInt16} (different : roleID ≠ toRoleID)
    (delivers : Delivers fault true svc roleID cell toRoleID lic2)
    (delivers1 : Delivers fault false svc toRoleID cell1 roleID lic) :
    ((svc.leftover roleID cell).leftover toRoleID cell1).bag =
      svc.keptRows roleID cell toRoleID cell1 := by
  have whole (size : UInt16.ofNat cell.length = 0) : svc.offered roleID cell = [] :=
    not_ne_iff.mp (mt delivers.size_ne_zero.mpr (not_ne_iff.mpr size))
  have whole1 (size : UInt16.ofNat cell1.length = 0) : svc.offered toRoleID cell1 = [] :=
    not_ne_iff.mp (mt delivers1.size_ne_zero.mpr (not_ne_iff.mpr size))
  rw [leftover_bag, leftover_bag whole, keptRows]
  rw [offered_leftover different]
  exact whole1

section Items

variable {fault : Option TradeStatement} {svc next : MainSvc} {roleID toRoleID : UInt32}
  {cell cell1 lic lic2 : List UInt16} (different : roleID ≠ toRoleID)
  (bag : next.bag = svc.movedBag fault roleID cell lic toRoleID cell1 lic2)
include different bag

/-- Settled items are as many as the rows that arrived in free cells. -/
theorem offered_le_fresh (settled : svc.ItemsSettled next roleID cell toRoleID cell1) :
    (svc.offered roleID cell).length ≤
        svc.freshRows toRoleID (arrived fault false toRoleID lic2 (svc.taken roleID cell)) ∧
      (svc.offered toRoleID cell1).length ≤
        svc.freshRows roleID (arrived fault true roleID lic (svc.taken toRoleID cell1)) := by
  obtain ⟨given, received, givenRows, receivedRows, same⟩ := settled
  have stays (owner : UInt32) : svc.freshRows owner (svc.keptRows roleID cell toRoleID cell1) = 0 :=
    freshRows_stored fun row member => (mem_keptRows.mp member).1
  have count (owner : UInt32) : svc.freshRows owner next.bag = svc.freshRows owner _ :=
    freshRows_perm same
  simp only [bag, movedBag, freshRows_append, freshRows_leftover, stays, Nat.zero_add] at count
  constructor
  · have count := count toRoleID
    rw [freshRows_handed givenRows, freshRows_other (handed_owner receivedRows) different,
      freshRows_other (arrived_owner lic _) different] at count
    exact Nat.le_of_eq count.symm
  · have count := count roleID
    rw [freshRows_handed receivedRows, freshRows_other (handed_owner givenRows) different.symm,
      freshRows_other (arrived_owner lic2 _) different.symm] at count
    omega

/-- The items are settled exactly when both sides deliver. -/
theorem itemsSettled_iff (free : ¬ Stuck fault true svc roleID cell)
    (free1 : ¬ Stuck fault false svc toRoleID cell1) (same : svc.Matches roleID cell)
    (same1 : svc.Matches toRoleID cell1) (found : Found cell lic2) (found1 : Found cell1 lic) :
    svc.ItemsSettled next roleID cell toRoleID cell1 ↔
      Delivers fault true svc roleID cell toRoleID lic2 ∧
        Delivers fault false svc toRoleID cell1 roleID lic := by
  constructor
  · intro settled
    obtain ⟨fresh, fresh1⟩ := offered_le_fresh different bag settled
    exact ⟨delivers_of_fresh free same found fresh, delivers_of_fresh free1 same1 found1 fresh1⟩
  · rintro ⟨delivers, delivers1⟩
    refine ⟨_, _, delivers.arrived found, delivers1.arrived found1, ?_⟩
    rw [bag, movedBag, leftover_kept different delivers delivers1]
    rfl

end Items

section Search

variable {fault : Option TradeStatement} {own : Bool} {svc : MainSvc} {roleID toRoleID : UInt32}
  {num size1 size2 room : UInt16} {lic lic2 : List UInt16}

theorem ifhassomany_ne_zero (found : (svc.ifhassomany roleID num).1 ≠ 0) :
    (svc.ifhassomany roleID num).1 = 1 := by
  unfold ifhassomany at found ⊢
  dsimp only at found ⊢
  split_ifs at found ⊢ <;> first | rfl | exact absurd rfl found

/-- A search reads the rows of the table or none. -/
theorem ifhassomanyUnder_eq (found : svc.ifhassomanyUnder fault own roleID num = some (room, lic)) :
    ∃ bag, ifhassomany { svc with bag := bag } roleID num = (room, lic) := by
  unfold ifhassomanyUnder at found
  split at found
  · dsimp only at found
    split_ifs at found
    · exact ⟨[], Option.some.inj found⟩
    · exact ⟨svc.bag, Option.some.inj found⟩
  · exact ⟨svc.bag, Option.some.inj found⟩

theorem ifhassomanyUnder_length
    (found : svc.ifhassomanyUnder fault own roleID num = some (room, lic)) (enough : room ≠ 0) :
    lic.length = num.toNat := by
  obtain ⟨bag, same⟩ := ifhassomanyUnder_eq found
  have one : (ifhassomany { svc with bag := bag } roleID num).1 = 1 :=
    ifhassomany_ne_zero (by rw [same]; exact enough)
  have length := ifhassomany_length one
  rw [same] at length
  exact length

/-- Without a failing select, the cell for one item is free. -/
theorem ifhassomanyUnder_free (runs : ∀ garbage, fault ≠ some (.selectBag own garbage))
    (small : (svc.getRoleCellNum roleID).toNat < 2 ^ 16) (few : num.toNat ≤ 1)
    (found : svc.ifhassomanyUnder fault own roleID num = some (room, lic)) (enough : room ≠ 0) :
    ∀ index ∈ lic, index ∉ (svc.selectBag roleID).map DBBagItem.cellIndex := by
  have length := ifhassomanyUnder_length found enough
  have searched : svc.ifhassomany roleID num = (room, lic) := by
    unfold ifhassomanyUnder at found
    split at found
    case h_1 side garbage =>
      split_ifs at found with same
      · exact absurd (by rw [same]) (runs garbage)
      · exact Option.some.inj found
    case h_2 => exact Option.some.inj found
  by_cases one : num = 1
  · have single : room = 1 := by
      have first : (svc.ifhassomany roleID num).1 = 1 :=
        ifhassomany_ne_zero (by rw [searched]; exact enough)
      rw [searched] at first
      exact first
    rw [one, single] at searched
    obtain ⟨index, rfl, free⟩ := ifhassomany_one small searched
    intro other member
    rw [List.mem_singleton.mp member]
    exact free
  · have none : num.toNat = 0 := by
      have other : num.toNat ≠ 1 := fun same => one (UInt16.toNat_inj.mp same)
      omega
    rw [none] at length
    rw [List.length_eq_zero_iff.mp length]
    simp

theorem findRoomUnder_some
    (found : svc.findRoomUnder fault roleID size2 toRoleID size1 = some (some (lic, lic2))) :
    (∃ room, svc.ifhassomanyUnder fault true roleID size2 = some (room, lic) ∧ room ≠ 0) ∧
      ∃ room2, svc.ifhassomanyUnder fault false toRoleID size1 = some (room2, lic2) ∧
        room2 ≠ 0 := by
  unfold findRoomUnder at found
  obtain ⟨⟨room, cells⟩, first, rest⟩ := Option.bind_eq_some_iff.mp found
  dsimp only at rest
  split_ifs at rest with full
  · cases Option.some.inj rest
  · obtain ⟨⟨room2, cells2⟩, second, both⟩ := Option.map_eq_some_iff.mp rest
    dsimp only at both
    split_ifs at both with full2
    cases Option.some.inj both
    exact ⟨⟨room, first, full⟩, room2, second, full2⟩

end Search

section Unpaid

variable {fault : Option TradeStatement} {own : Bool} {svc : MainSvc} {roleID toRoleID : UInt32}
  {cell cell1 lic lic2 : List UInt16}

/-- No side offers an item. -/
def NoItems (cell cell1 : List UInt16) : Prop :=
  UInt16.ofNat cell.length = 0 ∧ UInt16.ofNat cell1.length = 0

theorem Matches.size_le (same : svc.Matches roleID cell) :
    (UInt16.ofNat cell.length).toNat ≤ 1 := by
  have one : (svc.taken roleID cell).length ≤ 1 := taken_length
  rw [same, UInt16.toNat_ofNat_of_lt' (lt_of_le_of_lt one (by decide))]
  exact one

theorem taken_eq_nil (size : UInt16.ofNat cell.length = 0) : svc.taken roleID cell = [] :=
  if_neg (not_ne_iff.mpr size)

theorem leftover_eq_self (size : UInt16.ofNat cell.length = 0) : svc.leftover roleID cell = svc :=
  if_neg (not_ne_iff.mpr size)

theorem arrived_nil (cells : List UInt16) : arrived fault own roleID cells [] = [] := by
  unfold arrived
  split_ifs
  · rfl
  · exact List.zipWith_nil_right

/-- An item that arrived in a free cell was not in the bag before. -/
theorem size_of_stored (inserts : fault ≠ some (.insertBag own 0)) (same : svc.Matches roleID cell)
    (found : Found cell lic)
    (free : ∀ index ∈ lic, index ∉ (svc.selectBag toRoleID).map DBBagItem.cellIndex)
    (stored : ∀ row ∈ arrived fault own toRoleID lic (svc.taken roleID cell), row ∈ svc.bag) :
    UInt16.ofNat cell.length = 0 := by
  rw [same]
  cases rows : svc.taken roleID cell with
  | nil => rfl
  | cons row rest =>
      rw [arrived, if_neg inserts, rows] at stored
      rw [Found, same, rows] at found
      cases lic with
      | nil => exact UInt16.toNat_inj.mp found.symm
      | cons index cells =>
          have member := stored (row.moveTo toRoleID index) List.mem_cons_self
          refine absurd (List.mem_map.mpr ⟨_, selectBag_mem.mpr ⟨member, rfl⟩, rfl⟩)
            (free index List.mem_cons_self)

/-- The moved items leave the bag as it was exactly when no side offers an item. -/
theorem movedBag_perm_iff (inserts : ∀ own, fault ≠ some (.insertBag own 0))
    (same : svc.Matches roleID cell) (same1 : svc.Matches toRoleID cell1)
    (found : Found cell lic2) (found1 : Found cell1 lic)
    (free : ∀ index ∈ lic2, index ∉ (svc.selectBag toRoleID).map DBBagItem.cellIndex)
    (free1 : ∀ index ∈ lic, index ∉ (svc.selectBag roleID).map DBBagItem.cellIndex) :
    (svc.movedBag fault roleID cell lic toRoleID cell1 lic2).Perm svc.bag ↔
      NoItems cell cell1 := by
  constructor
  · intro unchanged
    refine ⟨size_of_stored (inserts false) same found free fun row member => ?_,
      size_of_stored (inserts true) same1 found1 free1 fun row member => ?_⟩
    · apply unchanged.mem_iff.mp
      exact List.mem_append_right _ (List.mem_append_left _ member)
    · apply unchanged.mem_iff.mp
      exact List.mem_append_right _ (List.mem_append_right _ member)
  · rintro ⟨size, size1⟩
    rw [movedBag, taken_eq_nil size, taken_eq_nil size1, arrived_nil, arrived_nil,
      leftover_eq_self size, leftover_eq_self size1, List.append_nil, List.append_nil]

end Unpaid

end AppSvr.MainServer.MainSvc
