/-
This file shows when cells are bought with gold and from which sizes a bag stays within its limit.
-/

import AppSvr.Construction.MainServer.CellExpansion
import Mathlib.Algebra.Order.Ring.Int

namespace AppSvr.MainServer

namespace CellOwner

def bagCells (owner : CellOwner) : Option Nat :=
  owner.topCellNum.map fun topcellnum => (cellNum topcellnum).toNat

/-- Exactly one hundred pieces of gold are gone. -/
def Paid (before after : CellOwner) : Prop :=
  ∃ row, before.roleMoney = some row ∧ after.roleMoney = some { row with gold := row.gold - 100 }

/-- The gold can be taken: the role has a balance, and its update does not fail. -/
def Charged (owner : CellOwner) (fault : Option ExpansionFault) : Prop :=
  owner.roleMoney.isSome ∧ fault ≠ some .updateGold

section Gold

variable (owner : CellOwner) (fault : Option ExpansionFault)

theorem dropGold_refused (poor : owner.selectGold fault < 100) :
    owner.dropGold fault 100 = (-1, owner) := if_pos poor

theorem dropGold_passes (rich : ¬ owner.selectGold fault < 100) :
    (owner.dropGold fault 100).1 ≠ -1 := by
  rw [dropGold, if_neg rich]
  split_ifs
  · exact (by decide : (0 : Int) ≠ -1)
  · exact (by decide : (1 : Int) ≠ -1)

theorem dropGold_topCellNum : (owner.dropGold fault 100).2.topCellNum = owner.topCellNum := by
  unfold dropGold
  split_ifs <;> rfl

theorem dropGold_topStoreCellNum :
    (owner.dropGold fault 100).2.topStoreCellNum = owner.topStoreCellNum := by
  unfold dropGold
  split_ifs <;> rfl

theorem not_paid {after : CellOwner} (same : after.roleMoney = owner.roleMoney) :
    ¬ owner.Paid after := by
  rintro ⟨row, stored, left⟩
  rw [same, stored] at left
  have gold := congrArg MoneyRow.gold (Option.some.inj left)
  dsimp only at gold
  omega

/-- Behind the check, the gold is taken when it can be taken. -/
theorem dropGold_paid_iff (rich : ¬ owner.selectGold fault < 100) {after : CellOwner}
    (same : after.roleMoney = (owner.dropGold fault 100).2.roleMoney) :
    owner.Paid after ↔ owner.Charged fault := by
  rw [dropGold, if_neg rich] at same
  by_cases failed : fault = some .updateGold
  · rw [if_pos failed] at same
    exact iff_of_false (owner.not_paid same) fun charged => charged.2 failed
  · rw [if_neg failed] at same
    cases stored : owner.roleMoney with
    | none =>
        rw [stored] at same
        apply iff_of_false
        · rintro ⟨row, found, _⟩
          rw [stored] at found
          cases found
        · rintro ⟨some, _⟩
          rw [stored] at some
          cases some
    | some row =>
        rw [stored] at same
        exact iff_of_true ⟨row, stored, same⟩ ⟨by rw [stored]; rfl, failed⟩

end Gold

end CellOwner

namespace Expansion

open CellOwner

/-- The bag grows by twenty-five cells, and the warehouse by thirty-six. -/
def Grows (request : Expansion) (before after : CellOwner) : Prop :=
  match request with
  | .bag _ => ∃ cells, before.bagCells = some cells ∧ after.bagCells = some (cells + 25)
  | .store _ => ∃ cells,
      before.topStoreCellNum = some cells ∧ after.topStoreCellNum = some (cells + 36)

def Bought (request : Expansion) (owner : CellOwner) (fault : Option ExpansionFault) : Prop :=
  request.Grows owner (request.process owner fault).2 ↔
    owner.Paid (request.process owner fault).2 ∧ (request.process owner fault).1 = 0

/-- The request is refused, or gold can be taken exactly when cells can be given. -/
def Sound (request : Expansion) (owner : CellOwner) (fault : Option ExpansionFault) : Prop :=
  match request with
  | .bag none | .store none => True
  | .bag (some type) =>
      wantedCellNum (owner.topCellNum.getD 0) type = 100 ∨ owner.selectGold fault < 100 ∨
        (owner.Charged fault ↔ type = 1 ∧ ∃ topcellnum, owner.topCellNum = some topcellnum ∧
          (cellNum topcellnum).toNat + 25 < 2 ^ 32)
  | .store (some _) =>
      owner.selectGold fault < 100 ∨ fault = some .updateStore ∨
        (owner.Charged fault ↔ owner.topStoreCellNum.isSome)

section Requests

variable {owner : CellOwner} {fault : Option ExpansionFault}

theorem not_grows (request : Expansion) {after : CellOwner}
    (bag : after.topCellNum = owner.topCellNum)
    (store : after.topStoreCellNum = owner.topStoreCellNum) : ¬ request.Grows owner after := by
  cases request with
  | bag body =>
      rintro ⟨cells, before, grown⟩
      rw [bagCells, bag, ← bagCells, before, Option.some.injEq] at grown
      omega
  | store body =>
      rintro ⟨cells, before, grown⟩
      rw [store, before, Option.some.injEq] at grown
      omega

/-- A refused request changes nothing. -/
theorem bought_of_refused {request : Expansion} {code : UInt32} (refused : code ≠ 0)
    (ended : request.process owner fault = (code, owner)) : request.Bought owner fault := by
  rw [Bought, ended]
  exact iff_of_false (request.not_grows rfl rfl) fun paid => refused paid.2

theorem cellNum_toNat (topcellnum : UInt32) :
    (cellNum topcellnum).toNat = if topcellnum.toNat = 0 then 25 else topcellnum.toNat := by
  unfold cellNum
  by_cases zero : topcellnum = 0
  · rw [if_pos zero, zero]
    rfl
  · have positive : topcellnum.toNat ≠ 0 := fun none => zero (UInt32.toNat_inj.mp none)
    rw [if_neg zero, if_neg positive]

/-- Only a request of the first type raises the number of cells, unless it wraps. -/
theorem wantedCellNum_grown_iff (topcellnum : UInt32) (type : UInt8) :
    (cellNum (wantedCellNum topcellnum type)).toNat = (cellNum topcellnum).toNat + 25 ↔
      type = 1 ∧ (cellNum topcellnum).toNat + 25 < 2 ^ 32 := by
  have small := (cellNum topcellnum).toNat_lt
  have positive : (cellNum topcellnum).toNat ≠ 0 := by
    rw [cellNum_toNat]
    split_ifs <;> omega
  rw [cellNum_toNat, wantedCellNum]
  by_cases first : type = 1
  · rw [if_pos first, and_iff_right first, UInt32.toNat_add]
    change (if (_ + 25) % 2 ^ 32 = 0 then 25 else (_ + 25) % 2 ^ 32) = _ ↔ _
    split_ifs <;> omega
  · rw [if_neg first, if_neg positive]
    exact iff_of_false (by omega) fun both => first both.1

theorem bag_grows_iff (type : UInt8) {after : CellOwner}
    (bag : after.topCellNum =
      owner.topCellNum.map fun _ => wantedCellNum (owner.topCellNum.getD 0) type) :
    (Expansion.bag (some type)).Grows owner after ↔ type = 1 ∧ ∃ topcellnum,
      owner.topCellNum = some topcellnum ∧ (cellNum topcellnum).toNat + 25 < 2 ^ 32 := by
  unfold Grows bagCells
  dsimp only
  rw [bag]
  cases owner.topCellNum with
  | none => simp
  | some topcellnum =>
      have grown := wantedCellNum_grown_iff topcellnum type
      simpa [eq_comm] using grown

/-- A request for the bag that is not refused sets the size, whatever became of the gold. -/
theorem processchangeTopcell_passed {type : UInt8}
    (open_ : wantedCellNum (owner.topCellNum.getD 0) type ≠ 100)
    (rich : ¬ owner.selectGold fault < 100) :
    ∃ after, owner.processchangeTopcell fault (some type) = (0, after) ∧
      after.topCellNum =
        (owner.topCellNum.map fun _ => wantedCellNum (owner.topCellNum.getD 0) type) ∧
      after.roleMoney = (owner.dropGold fault 100).2.roleMoney := by
  unfold processchangeTopcell
  dsimp only
  rw [if_neg open_, if_neg (owner.dropGold_passes fault rich), dropGold_topCellNum]
  exact ⟨_, rfl, rfl, rfl⟩

/-- So does a request for the warehouse, unless its own update fails. -/
theorem processAddTopCell_passed (type : UInt8) (rich : ¬ owner.selectGold fault < 100)
    (stored : fault ≠ some .updateStore) :
    ∃ after, owner.processAddTopCell fault (some type) = (0, after) ∧
      after.topStoreCellNum = owner.topStoreCellNum.map (· + 36) ∧
      after.roleMoney = (owner.dropGold fault 100).2.roleMoney := by
  unfold processAddTopCell
  dsimp only
  rw [if_neg (owner.dropGold_passes fault rich), if_neg stored, dropGold_topStoreCellNum]
  exact ⟨_, rfl, rfl, rfl⟩

theorem bag_bought_iff (type : UInt8) :
    (Expansion.bag (some type)).Bought owner fault ↔
      (Expansion.bag (some type)).Sound owner fault := by
  by_cases full : wantedCellNum (owner.topCellNum.getD 0) type = 100
  · refine iff_of_true (bought_of_refused (by decide : errSystemSerError ≠ 0) ?_) (.inl full)
    exact if_pos full
  by_cases poor : owner.selectGold fault < 100
  · refine iff_of_true (bought_of_refused (by decide : errSystemSerError ≠ 0) ?_)
      (.inr (.inl poor))
    dsimp only [process, processchangeTopcell]
    rw [if_neg full, owner.dropGold_refused fault poor]
    rfl
  obtain ⟨after, ended, bag, money⟩ := processchangeTopcell_passed full poor
  rw [Bought, process, ended]
  dsimp only
  rw [bag_grows_iff type bag, owner.dropGold_paid_iff fault poor money, and_iff_left rfl, Sound,
    or_iff_right full, or_iff_right poor]
  exact iff_comm

/-- A failed update of the warehouse keeps the gold that was paid. -/
theorem store_bought_iff (type : UInt8) :
    (Expansion.store (some type)).Bought owner fault ↔
      (Expansion.store (some type)).Sound owner fault := by
  by_cases poor : owner.selectGold fault < 100
  · refine iff_of_true (bought_of_refused (by decide : errSystemSerError ≠ 0) ?_) (.inl poor)
    dsimp only [process, processAddTopCell]
    rw [owner.dropGold_refused fault poor]
    rfl
  have passes := owner.dropGold_passes fault poor
  by_cases failed : fault = some .updateStore
  · refine iff_of_true ?_ (.inr (.inl failed))
    have ended : owner.processAddTopCell fault (some type) =
        (errSystemSerError, (owner.dropGold fault 100).2) := by
      unfold processAddTopCell
      dsimp only
      rw [if_neg passes, if_pos failed]
    rw [Bought, process, ended]
    exact iff_of_false (not_grows _ (owner.dropGold_topCellNum fault)
      (owner.dropGold_topStoreCellNum fault)) fun paid =>
        absurd paid.2 (by decide : errSystemSerError ≠ 0)
  obtain ⟨after, ended, store, money⟩ := processAddTopCell_passed type poor failed
  have grows : (Expansion.store (some type)).Grows owner after ↔ owner.topStoreCellNum.isSome := by
    unfold Grows
    dsimp only
    rw [store]
    cases owner.topStoreCellNum with
    | none => simp
    | some cells => simp
  rw [Bought, process, ended]
  dsimp only
  rw [grows, owner.dropGold_paid_iff fault poor money, and_iff_left rfl, Sound, or_iff_right poor,
    or_iff_right failed]
  exact iff_comm

theorem bought_iff (request : Expansion) :
    request.Bought owner fault ↔ request.Sound owner fault := by
  cases request with
  | bag body =>
      cases body with
      | none =>
          exact iff_of_true (bought_of_refused (by decide : errSystemSerError ≠ 0) rfl) trivial
      | some type => exact bag_bought_iff type
  | store body =>
      cases body with
      | none =>
          exact iff_of_true (bought_of_refused (by decide : errSystemSerError ≠ 0) rfl) trivial
      | some type => exact store_bought_iff type

end Requests

end Expansion

namespace CellOwner

/-- From these sizes a bag grows to seventy-five cells and no further. -/
def Regular (topcellnum : UInt32) : Prop := topcellnum ∈ [0, 25, 50, 75]

instance (topcellnum : UInt32) : Decidable (Regular topcellnum) :=
  inferInstanceAs (Decidable (_ ∈ _))

theorem Regular.within {topcellnum : UInt32} (regular : Regular topcellnum) :
    (cellNum topcellnum).toNat ≤ 100 := by
  unfold Regular at regular
  simp only [List.mem_cons, List.not_mem_nil, or_false] at regular
  rcases regular with rfl | rfl | rfl | rfl <;> decide

theorem Regular.wanted {topcellnum : UInt32} (regular : Regular topcellnum) (type : UInt8)
    (open_ : wantedCellNum topcellnum type ≠ 100) : Regular (wantedCellNum topcellnum type) := by
  have sizes : cellNum topcellnum ∈ [0, 25, 50, 75] ∧
      (cellNum topcellnum + 25 ≠ 100 → cellNum topcellnum + 25 ∈ [0, 25, 50, 75]) := by
    unfold Regular at regular
    simp only [List.mem_cons, List.not_mem_nil, or_false] at regular
    rcases regular with rfl | rfl | rfl | rfl <;> decide
  unfold wantedCellNum at open_ ⊢
  split_ifs at open_ ⊢
  · exact sizes.2 open_
  · exact sizes.1

/-- A request leaves the size or sets it to one that is not refused. -/
theorem process_topCellNum (request : Expansion) (owner : CellOwner)
    (fault : Option ExpansionFault) :
    (request.process owner fault).2.topCellNum = owner.topCellNum ∨
      ∃ type, wantedCellNum (owner.topCellNum.getD 0) type ≠ 100 ∧
        (request.process owner fault).2.topCellNum =
          owner.topCellNum.map fun _ => wantedCellNum (owner.topCellNum.getD 0) type := by
  cases request with
  | bag body =>
      cases body with
      | none => exact .inl rfl
      | some type =>
          dsimp only [Expansion.process, processchangeTopcell]
          by_cases full : wantedCellNum (owner.topCellNum.getD 0) type = 100
          · rw [if_pos full]
            exact .inl rfl
          · rw [if_neg full]
            split_ifs
            · exact .inl (owner.dropGold_topCellNum fault)
            · exact .inr ⟨type, full, by rw [dropGold_topCellNum]⟩
  | store body =>
      cases body with
      | none => exact .inl rfl
      | some type =>
          left
          dsimp only [Expansion.process, processAddTopCell]
          split_ifs <;> exact owner.dropGold_topCellNum fault

theorem run_regular (requests : List (Expansion × Option ExpansionFault)) (owner : CellOwner)
    (regular : ∀ topcellnum ∈ owner.topCellNum, Regular topcellnum) :
    ∀ topcellnum ∈ (owner.run requests).topCellNum, Regular topcellnum := by
  induction requests generalizing owner with
  | nil => exact regular
  | cons first requests ih =>
      apply ih
      rcases process_topCellNum first.1 owner first.2 with same | ⟨type, open_, grown⟩
      · rw [same]
        exact regular
      · rw [grown]
        cases online : owner.topCellNum with
        | none => exact fun _ member => by cases member
        | some topcellnum =>
            rw [online] at open_
            rintro _ ⟨⟩
            exact (regular topcellnum online).wanted type open_

theorem process_rich (topcellnum : UInt32) (store : Option Nat) (row : MoneyRow)
    (rich : 100 ≤ row.gold) (bounded : row.gold < 2 ^ 31)
    (open_ : cellNum topcellnum + 25 ≠ 100) :
    (Expansion.bag (some 1)).process ⟨some topcellnum, store, some row⟩ none =
      (0, ⟨some (cellNum topcellnum + 25), store, some { row with gold := row.gold - 100 }⟩) := by
  have enough : ¬ CellOwner.selectGold ⟨some topcellnum, store, some row⟩ none < 100 := by
    have read : (UInt32.ofInt row.gold).toNat = row.gold.toNat := by
      rw [UInt32.ofInt, UInt32.toNat_ofNat']
      omega
    rw [UInt32.not_lt, UInt32.le_iff_toNat_le]
    change 100 ≤ (UInt32.ofInt row.gold).toNat
    omega
  have dropped : CellOwner.dropGold ⟨some topcellnum, store, some row⟩ none 100 =
      (1, ⟨some topcellnum, store, some { row with gold := row.gold - 100 }⟩) := by
    rw [dropGold, if_neg enough]
    rfl
  change processchangeTopcell _ none (some 1) = _
  unfold processchangeTopcell
  rw [dropped]
  exact if_neg open_

/-- A role that can pay for so many requests gets the cells of all of them, unless one of them would
reach one hundred cells. -/
theorem run_replicate (count : Nat) (topcellnum : UInt32) (store : Option Nat) (row : MoneyRow)
    (rich : 100 * count ≤ row.gold) (bounded : row.gold < 2 ^ 31)
    (misses : ∀ step, 0 < step → step ≤ count → (cellNum topcellnum).toNat + 25 * step ≠ 100)
    (small : (cellNum topcellnum).toNat + 25 * count < 2 ^ 32) :
    ((CellOwner.mk (some topcellnum) store (some row)).run
      (List.replicate count (.bag (some 1), none))).bagCells =
        some ((cellNum topcellnum).toNat + 25 * count) := by
  induction count generalizing topcellnum row with
  | zero => rfl
  | succ count ih =>
      have first := misses 1 (by omega) (by omega)
      have next : (cellNum topcellnum + 25).toNat = (cellNum topcellnum).toNat + 25 := by
        rw [UInt32.toNat_add]
        exact Nat.mod_eq_of_lt (by change _ + 25 < _; omega)
      have sized : (cellNum (cellNum topcellnum + 25)).toNat = (cellNum topcellnum).toNat + 25 := by
        rw [Expansion.cellNum_toNat, next, if_neg (by omega)]
      have open_ : cellNum topcellnum + 25 ≠ 100 := by
        intro full
        rw [full] at next
        change 100 = _ at next
        omega
      rw [List.replicate_succ, run, process_rich topcellnum store row (by omega) bounded open_, ih,
        sized]
      · congr 1
        omega
      · dsimp only
        omega
      · dsimp only
        omega
      · intro step positive few
        have later := misses (step + 1) (by omega) (by omega)
        rw [sized]
        omega
      · rw [sized]
        omega

/-- A bag stays within one hundred cells through every sequence of requests exactly when it starts
at a regular size. -/
theorem run_within_iff (start : UInt32) (within : (cellNum start).toNat ≤ 100) :
    (∀ (owner : CellOwner) (requests : List (Expansion × Option ExpansionFault)),
      owner.topCellNum = some start →
        ∀ cells ∈ (owner.run requests).bagCells, cells ≤ 100) ↔ Regular start := by
  constructor
  · intro stays
    by_contra irregular
    have misses : ∀ step, 0 < step → step ≤ 4 → (cellNum start).toNat + 25 * step ≠ 100 := by
      intro step positive few full
      have sizes : start.toNat = 0 ∨ start.toNat = 25 ∨ start.toNat = 50 ∨ start.toNat = 75 := by
        rw [Expansion.cellNum_toNat] at full
        split_ifs at full <;> omega
      apply irregular
      rcases sizes with size | size | size | size <;>
        rw [← UInt32.ofNat_toNat (x := start), size] <;> decide
    have cells := run_replicate 4 start none ⟨0, 0, 400⟩ (by decide) (by decide) misses (by omega)
    have few := stays ⟨some start, none, some ⟨0, 0, 400⟩⟩ _ rfl _ cells
    have positive : (cellNum start).toNat ≠ 0 := by
      rw [Expansion.cellNum_toNat]
      split_ifs <;> omega
    omega
  · intro regular owner requests online cells member
    have kept := run_regular requests owner fun topcellnum found => by
      rw [online] at found
      cases found
      exact regular
    rw [bagCells] at member
    obtain ⟨topcellnum, found, rfl⟩ := Option.map_eq_some_iff.mp member
    exact (kept topcellnum found).within

/-- A request is paid exactly when gold can be taken just where cells are given, and a bag keeps
its limit exactly from the regular sizes. -/
theorem expansions_bought_iff (request : Expansion) (owner : CellOwner)
    (fault : Option ExpansionFault) {start : UInt32} (within : (cellNum start).toNat ≤ 100) :
    (request.Bought owner fault ↔ request.Sound owner fault) ∧
      ((∀ (owner : CellOwner) (requests : List (Expansion × Option ExpansionFault)),
        owner.topCellNum = some start →
          ∀ cells ∈ (owner.run requests).bagCells, cells ≤ 100) ↔ Regular start) :=
  ⟨Expansion.bought_iff request, run_within_iff start within⟩

section Examples

def shopper (topcellnum : UInt32) : CellOwner :=
  ⟨some topcellnum, some 0, some ⟨0, 0, 100⟩⟩

theorem expansions_bought_first :
    (Expansion.bag (some 1)).Bought (shopper 0) none ∧
      ∀ (owner : CellOwner) (requests : List (Expansion × Option ExpansionFault)),
        owner.topCellNum = some 0 → ∀ cells ∈ (owner.run requests).bagCells, cells ≤ 100 := by
  have within : (cellNum 0).toNat ≤ 100 := by decide
  have both := expansions_bought_iff (.bag (some 1)) (shopper 0) none within
  refine ⟨both.1.mpr (.inr (.inr ?_)), both.2.mpr (by decide)⟩
  exact iff_of_true ⟨rfl, by decide⟩ ⟨rfl, 0, rfl, by decide⟩

/-- A failed update gives cells for nothing, and a bag of eighty cells misses the limit. -/
theorem expansions_not_bought :
    ¬ (∀ (request : Expansion) (owner : CellOwner) (fault : Option ExpansionFault),
        request.Bought owner fault) ∧
      ¬ (∀ start : UInt32, (cellNum start).toNat ≤ 100 →
        ∀ (owner : CellOwner) (requests : List (Expansion × Option ExpansionFault)),
          owner.topCellNum = some start →
            ∀ cells ∈ (owner.run requests).bagCells, cells ≤ 100) := by
  constructor
  · intro all
    have paid := (all (.bag (some 1)) (shopper 25) (some .updateGold)).mp ⟨25, rfl, rfl⟩
    exact (shopper 25).not_paid rfl paid.1
  · intro all
    have few := all 80 (by decide) (shopper 80) [(.bag (some 1), none)] rfl 105 rfl
    omega

end Examples

end CellOwner

end AppSvr.MainServer
