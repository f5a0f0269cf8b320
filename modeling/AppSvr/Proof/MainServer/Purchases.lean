/-
This file proves that a purchase brings exactly the pieces that were paid for.
-/

import AppSvr.Proof.MainServer.FreeCells
import AppSvr.Proof.MainServer.BagRows

namespace AppSvr.MainServer.BagSvc

variable {Other : Type*} {svc next : BagSvc Other} {tables : ItemTables} {roleID itemID : UInt32}
  {item : Item} {flag : UInt8} {num : UInt16}

/-- The last stack of a purchase holds the rest. -/
def lastCount (num : UInt16) : UInt16 :=
  if num % topStackNum ≠ 0 then num % topStackNum else topStackNum

theorem lastCount_toNat (num : UInt16) : (lastCount num).toNat =
    if num.toNat % 99 = 0 then 99 else num.toNat % 99 := by
  have rest : (num % topStackNum).toNat = num.toNat % 99 := UInt16.toNat_mod num topStackNum
  unfold lastCount
  by_cases whole : num % topStackNum = 0
  · rw [if_neg (not_not.mpr whole), if_pos (by rw [← rest, whole]; rfl)]
    rfl
  · have nonzero : num.toNat % 99 ≠ 0 := by
      rw [← rest]
      exact fun zero => whole (UInt16.toNat_inj.mp zero)
    rw [if_pos whole, if_neg nonzero, rest]

theorem lastCount_legal (num : UInt16) : LegalNum (lastCount num) := by
  have value := lastCount_toNat num
  have limit : topStackNum.toNat = 99 := rfl
  have one : (1 : UInt16).toNat = 1 := rfl
  rw [LegalNum, UInt16.le_iff_toNat_le, UInt16.le_iff_toNat_le, value]
  split <;> omega

/-- A bought row enters a legal bag, with or without an entity. -/
theorem Legal.insertRow (legal : svc.Legal) (count : UInt16) (fits : LegalNum count)
    (flag : UInt8) (item : Item) (cell : UInt16) :
    let entered := if flag = 0 then svc.insertEntity item.bind else (0, svc)
    Gains svc (entered.2.insertBag ⟨roleID, cell, item.cellType, item.itemType, itemID, entered.1,
      count.toUInt32⟩) roleID itemID count.toNat := by
  intro entered
  have same : Gains svc entered.2 roleID itemID 0 := by
    unfold entered
    split
    · exact ⟨legal, rfl, (legal.gains_zero roleID itemID).total⟩
    · exact legal.gains_zero roleID itemID
  rw [← zero_add (count.toNat : Int), ← printed_ofUInt16]
  exact same.trans (same.legal.insertBag (fits.legalRow rfl))

/-- Single pieces fill one cell each. -/
theorem insertBought_single (single : flag ≠ 2) (cells : List UInt16) (numcell : UInt32)
    (legal : svc.Legal) :
    Gains svc (insertBought roleID itemID item flag num cells numcell svc) roleID itemID
      cells.length := by
  induction cells generalizing numcell svc with
  | nil => exact legal.gains_zero roleID itemID
  | cons cell cells ih =>
      have entered : Gains svc _ roleID itemID _ := legal.insertRow 1 (by decide) flag item cell
      have inserted := entered.trans (ih (numcell - 1) entered.legal)
      unfold insertBought
      simp only [if_neg single]
      rw [List.length_cons, Nat.cast_add_one, add_comm]
      exact inserted

/-- All stacks but the last one are full. -/
theorem insertBought_stack (cells : List UInt16) (numcell : UInt32)
    (counted : numcell.toNat = cells.length) (legal : svc.Legal) :
    Gains svc (insertBought roleID itemID item 2 num cells numcell svc) roleID itemID
      (if cells.length = 0 then 0 else 99 * (cells.length - 1) + (lastCount num).toNat) := by
  induction cells generalizing numcell svc with
  | nil => exact legal.gains_zero roleID itemID
  | cons cell cells ih =>
      have bound := numcell.toNat_lt
      have one : numcell = 1 ↔ cells = [] := by
        rw [← UInt32.toNat_inj, counted, List.length_cons]
        show cells.length + 1 = 1 ↔ cells = []
        rw [Nat.add_eq_right, List.length_eq_zero_iff]
      have next : (numcell - 1).toNat = cells.length := by
        have least : (1 : UInt32) ≤ numcell := by
          rw [UInt32.le_iff_toNat_le, counted]
          exact Nat.le_add_left 1 cells.length
        rw [UInt32.toNat_sub_of_le _ _ least, counted]
        rfl
      have some : (cell :: cells).length ≠ 0 := Nat.succ_ne_zero cells.length
      rw [if_neg some]
      unfold insertBought
      by_cases last : cells = []
      · have entered : Gains svc _ roleID itemID _ :=
          legal.insertRow (lastCount num) (lastCount_legal num) 2 item cell
        have inserted := entered.trans (ih (numcell - 1) next entered.legal)
        rw [if_pos (List.length_eq_zero_iff.mpr last)] at inserted
        simp only [one.mpr last, true_and, if_true]
        rw [List.length_cons, last]
        simpa [lastCount, last, one.mpr last, insertBought] using inserted
      · have entered : Gains svc _ roleID itemID _ :=
          legal.insertRow topStackNum (by decide) 2 item cell
        have inserted := entered.trans (ih (numcell - 1) next entered.legal)
        rw [if_neg (fun none => last (List.length_eq_zero_iff.mp none))] at inserted
        have several : numcell ≠ 1 := fun wrong => last (one.mp wrong)
        simp only [several, false_and, if_false, if_true]
        have amount : (99 * ((cell :: cells).length - 1) + (lastCount num).toNat : Int) =
            topStackNum.toNat + (99 * (cells.length - 1) + (lastCount num).toNat) := by
          have limit : (topStackNum.toNat : Int) = 99 := rfl
          rw [List.length_cons, limit]
          omega
        rw [amount]
        exact inserted

/-- The number of cells is the number of full stacks and the last one. -/
theorem stackCells (num : UInt16) :
    let numcell := if num % topStackNum ≠ 0 then num / topStackNum + 1 else num / topStackNum
    numcell.toUInt32.toNat = numcell.toNat ∧
      (if numcell.toNat = 0 then (0 : Int) else 99 * (numcell.toNat - 1) + (lastCount num).toNat) =
        num.toNat := by
  intro numcell
  have bound := num.toNat_lt
  have quotient : (num / topStackNum).toNat = num.toNat / 99 := UInt16.toNat_div num topStackNum
  have rest : (num % topStackNum).toNat = num.toNat % 99 := UInt16.toNat_mod num topStackNum
  have last := lastCount_toNat num
  have cells : numcell.toNat =
      if num.toNat % 99 = 0 then num.toNat / 99 else num.toNat / 99 + 1 := by
    unfold numcell
    by_cases whole : num % topStackNum = 0
    · rw [if_neg (not_not.mpr whole), if_pos (by rw [← rest, whole]; rfl), quotient]
    · have nonzero : num.toNat % 99 ≠ 0 := by
        rw [← rest]
        exact fun zero => whole (UInt16.toNat_inj.mp zero)
      rw [if_pos whole, if_neg nonzero, UInt16.toNat_add, quotient]
      show (num.toNat / 99 + 1) % 2 ^ 16 = _
      omega
  refine ⟨UInt16.toNat_toUInt32 numcell, ?_⟩
  by_cases whole : num.toNat % 99 = 0
  · rw [if_pos whole] at cells last
    rw [cells, last]
    split <;> omega
  · rw [if_neg whole] at cells last
    rw [cells, last, if_neg (Nat.succ_ne_zero _)]
    omega

/-- The price is in one of the currencies that are charged. -/
def Charged (item : Item) : Prop :=
  item.costMoneyType = 1 ∨ item.costMoneyType = 2 ∨ item.costMoneyType = 3

instance (item : Item) : Decidable (Charged item) := inferInstanceAs (Decidable (_ ∨ _))

theorem pay_bag (svc : BagSvc Other) (roleID itemID : UInt32) (item : Item) (num : UInt16) :
    (svc.pay roleID itemID item num).2.bag = svc.bag := by
  unfold pay
  dsimp only
  split_ifs <;> dsimp only <;> split_ifs <;> rfl

/-- A payment is recorded exactly when it is made. -/
theorem pay_issued (charged : Charged item) (svc : BagSvc Other) (roleID itemID : UInt32)
    (num : UInt16) : (svc.pay roleID itemID item num).2.issued =
      if (svc.pay roleID itemID item num).1 = 1 then svc.issued ++ [⟨roleID, itemID, num⟩]
      else svc.issued := by
  unfold pay
  by_cases gold : item.costMoneyType = 3
  · simp only [gold, if_true]
    split <;> rfl
  · have money : item.costMoneyType = 1 ∨ item.costMoneyType = 2 := by
      rcases charged with one | two | three
      · exact .inl one
      · exact .inr two
      · exact absurd three gold
    simp only [gold, money, if_true, if_false]
    split <;> rfl

/-- A purchase that fills its cells with the paid pieces is accounted for. -/
theorem Legal.buyCells (legal : svc.Legal) (charged : Charged item) {numcell : UInt32}
    {wanted : UInt16} (noRoom : UInt32)
    (filled : ∀ cells : List UInt16, cells.length = wanted.toNat → ∀ paid : BagSvc Other,
      paid.Legal →
        Gains paid (insertBought roleID itemID item flag num cells numcell paid) roleID itemID
          num.toNat) :
    svc.Accounted (svc.buyCells roleID itemID item flag num numcell wanted noRoom).2 := by
  unfold BagSvc.buyCells
  dsimp only
  split
  case isTrue => exact legal.accounted_refl
  case isFalse room =>
    have bag := pay_bag svc roleID itemID item num
    have issued := pay_issued charged svc roleID itemID num
    split
    case isTrue refused =>
      rw [if_neg refused] at issued
      exact legal.accounted_of_eq bag issued
    case isFalse paid =>
      rw [if_pos (not_not.mp paid)] at issued
      have cells := MainSvc.ifhassomany_length (not_not.mp room)
      have funded : (svc.pay roleID itemID item num).2.Legal := by
        rw [Legal, bag]
        exact legal
      have bought := filled _ cells _ funded
      refine .of_issue bought.legal (fun role item => ?_) (bought.issued.trans issued)
      rw [bought.total, total, total, bag]

/-- A purchase in a charged currency brings exactly the paid pieces. -/
theorem Legal.processBuyItem (legal : svc.Legal) (itemID : UInt32) (num : UInt16)
    (charged : ∀ item ∈ tables.item itemID, Charged item) :
    svc.Accounted (svc.processBuyItem tables roleID itemID num).2 := by
  unfold BagSvc.processBuyItem
  cases described : tables.item itemID with
  | none => exact legal.accounted_refl
  | some item =>
      have price := charged item (Option.mem_def.mpr described)
      dsimp only
      split
      case isTrue =>
        split
        case isTrue => exact legal.accounted_refl
        case isFalse =>
          apply legal.buyCells price
          intro cells count paid funded
          rw [← count]
          exact insertBought_single (by decide) cells 1 funded
      case isFalse =>
        split
        case isTrue =>
          apply legal.buyCells price
          intro cells count paid funded
          rw [← count]
          exact insertBought_single (by decide) cells 1 funded
        case isFalse =>
          obtain ⟨width, amount⟩ := stackCells num
          apply legal.buyCells price
          intro cells count paid funded
          rw [← amount, ← count]
          exact insertBought_stack cells _ (width.trans count.symm) funded

end AppSvr.MainServer.BagSvc
