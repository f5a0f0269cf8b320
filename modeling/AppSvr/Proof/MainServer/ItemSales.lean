/-
This file proves when a sale pays for what it takes.
-/

import AppSvr.Proof.MainServer.BagRows

namespace AppSvr.MainServer

open KeyedRows

/-- A product of thirty-two bits is printed exactly below 2147483648. -/
theorem printed_mul_iff (first second : UInt32) :
    printed (first * second) = (first.toNat * second.toNat : Nat) ↔
      first.toNat * second.toNat < 2 ^ 31 := by
  rw [printed_eq, UInt32.toNat_mul]
  generalize first.toNat * second.toNat = product
  split <;> omega

/-- A number below 65536 is read exactly into sixteen bits. -/
theorem printed_toUInt16_iff (num : UInt32) :
    printed num = num.toUInt16.toNat ↔ num.toNat < 2 ^ 16 := by
  have bound := num.toNat_lt
  rw [printed_eq, UInt32.toNat_toUInt16]
  split <;> omega

theorem toNat_ofInt_emod (num : Int) : ((UInt32.ofInt num).toNat : Int) = num % 2 ^ 32 := by
  rw [UInt32.ofInt, UInt32.toNat_ofNat']
  omega

namespace BagSvc

variable {Other : Type*}

variable (tables : ItemTables) (row : DBBagItem) (others : List DBBagItem) (num : UInt16)

/-- A sale takes the requested pieces of a stack, or the single piece with its entity. -/
def soldUnits : Nat := if row.entityID = 0 then num.toNat else 1

/-- The row without the sold units. -/
def unsold (row : DBBagItem) : Option DBBagItem :=
  if row.entityID ≠ 0 ∨ printed row.num = num.toNat then none
  else some { row with num := UInt32.ofInt (printed row.num - num.toNat) }

/-- The units leave the cell, the entity goes with its piece, and the bound money grows by the price
of the units. Nothing else changes. -/
def Sold (svc next : BagSvc Other) (roleID : UInt32) (celIndex num : UInt16) : Prop :=
  ∃ row item, (svc.selectCell roleID celIndex).head? = some row ∧
    tables.item row.itemID = some item ∧ (row.entityID = 0 → num.toNat ≤ printed row.num) ∧
    next = { svc with
      bag := changeFirst (MainSvc.Listed roleID [celIndex]) (unsold num) svc.bag
      bindStatus :=
        if row.entityID = 0 then svc.bindStatus
        else Function.update svc.bindStatus row.entityID none
      roleMoney := Function.update svc.roleMoney roleID
        { svc.roleMoney roleID with
          bindMoney :=
            (svc.roleMoney roleID).bindMoney + (item.costSell.toNat * soldUnits row num : Nat) } }

/-- A refused sale changes nothing, and another one pays for what it takes. -/
def SellsExactly (svc : BagSvc Other) (roleID : UInt32)
    (celIndex num : UInt16) (sellOption : UInt8) : Prop :=
  (svc.processSellItem tables roleID celIndex num sellOption).1 ≠ 0 ∧
      (svc.processSellItem tables roleID celIndex num sellOption).2 = svc ∨
    (svc.processSellItem tables roleID celIndex num sellOption).1 = 0 ∧
      Sold tables svc (svc.processSellItem tables roleID celIndex num sellOption).2 roleID
        celIndex num

/-- The sale is not reserved for VIP roles, or the role is one. -/
def Admitted (svc : BagSvc Other) (roleID : UInt32) (sellOption : UInt8) : Prop :=
  sellOption = 2 ∨
    sellOption = 1 ∧ (svc.isVip roleID).any (fun isVip => 1 ≤ isVip ∧ isVip ≤ 6) = true

/-- A stack that is sold whole is alone in its cell, and a rest fits every row of the cell. -/
def StackSale : Prop :=
  row.num.toNat < 2 ^ 16 ∧
    (∃ item ∈ tables.item row.itemID, item.costSell.toNat * num.toNat < 2 ^ 31) ∧
    if row.num.toUInt16 = num then others = []
    else ∀ other ∈ others, other.num = UInt32.ofInt (row.num.toUInt16 - num).toNat

/-- The update of a sale of nothing finds what it writes. -/
def EmptySale : Prop :=
  tables.item row.itemID = none ∧ num = 0 ∧ row.num.toUInt16 ≠ 0 ∧
    ∀ other ∈ row :: others, other.num = row.num.toUInt16.toUInt32

/-- The price of the requested number is the price of one piece. -/
def EntitySale : Prop :=
  others = [] ∧ ∃ item ∈ tables.item row.itemID,
    item.costSell.toNat < 2 ^ 31 ∧ item.costSell.toNat * num.toNat % 2 ^ 32 = item.costSell.toNat

/-- A sale that is not refused has its price, and its cell holds no other row. -/
def SaleFair (svc : BagSvc Other) (roleID : UInt32) (celIndex num : UInt16)
    (sellOption : UInt8) : Prop :=
  svc.Admitted roleID sellOption → ∀ row others, svc.selectCell roleID celIndex = row :: others →
    if row.entityID = 0 then
      num ≤ row.num.toUInt16 → StackSale tables row others num ∨ EmptySale tables row others num
    else EntitySale tables row others num

section Branches

variable {tables : ItemTables} {svc : BagSvc Other} {roleID : UInt32} {celIndex num : UInt16}
  {sellOption : UInt8} {row : DBBagItem} {others : List DBBagItem}

theorem processSellItem_refused (refused : ¬ svc.Admitted roleID sellOption) :
    svc.processSellItem tables roleID celIndex num sellOption = (errAppData, svc) := by
  obtain ⟨ordinary, vip⟩ := not_or.mp refused
  unfold processSellItem
  by_cases first : sellOption = 1
  · rw [if_neg (by simp [first]), if_pos ⟨first, fun some => vip ⟨first, some⟩⟩]
  · rw [if_pos ⟨first, ordinary⟩]

/-- An admitted sale is decided by the first row of the cell. -/
theorem processSellItem_admitted (admitted : svc.Admitted roleID sellOption) :
    svc.processSellItem tables roleID celIndex num sellOption =
      match (svc.selectCell roleID celIndex).head? with
      | none => (errSystemDbNoRecord, svc)
      | some row =>
          if row.entityID = 0 then
            if row.num.toUInt16 = num then
              (svc.deleteCells roleID [celIndex]).sellProceeds tables roleID row.itemID num
            else if num < row.num.toUInt16 then
              (svc.updateNum roleID celIndex (row.num.toUInt16 - num).toNat).sellProceeds tables
                roleID row.itemID num
            else (errSystemDbNoRecord, svc)
          else
            ({ svc.deleteCells roleID [celIndex] with
              bindStatus := Function.update svc.bindStatus row.entityID none }).sellProceeds tables
                roleID row.itemID num := by
  unfold processSellItem
  rcases admitted with ordinary | ⟨first, vip⟩
  · rw [if_neg (by simp [ordinary]), if_neg (by simp [ordinary])]
    rfl
  · rw [if_neg (by simp [first]), if_neg (fun both => both.2 vip)]
    rfl

/-- Two sales agree when they leave the same rows and pay the same price. -/
theorem paid_eq_iff {bag bag' : List DBBagItem} {bindStatus : UInt32 → Option UInt8}
    {price price' : Int} :
    ({ svc with
        bag := bag
        bindStatus := bindStatus
        roleMoney := Function.update svc.roleMoney roleID
          { svc.roleMoney roleID with bindMoney := (svc.roleMoney roleID).bindMoney + price } } :
      BagSvc Other) =
      { svc with
        bag := bag'
        bindStatus := bindStatus
        roleMoney := Function.update svc.roleMoney roleID
          { svc.roleMoney roleID with bindMoney := (svc.roleMoney roleID).bindMoney + price' } } ↔
      bag = bag' ∧ price = price' := by
  constructor
  · intro same
    refine ⟨congrArg BagSvc.bag same, ?_⟩
    have money := congrArg MoneyRow.bindMoney
      (congrFun (congrArg BagSvc.roleMoney same) roleID)
    simpa using money
  · rintro ⟨rfl, rfl⟩
    rfl

/-- A sale of rows of the item is exact when the rows and the price are the right ones. -/
theorem sold_iff {bag : List DBBagItem} {price : Int}
    (selected : svc.selectCell roleID celIndex = row :: others) {item : Item}
    (found : tables.item row.itemID = some item) :
    Sold tables svc { svc with
        bag := bag
        bindStatus :=
          if row.entityID = 0 then svc.bindStatus
          else Function.update svc.bindStatus row.entityID none
        roleMoney := Function.update svc.roleMoney roleID
          { svc.roleMoney roleID with bindMoney := (svc.roleMoney roleID).bindMoney + price } }
        roleID celIndex num ↔
      (row.entityID = 0 → num.toNat ≤ printed row.num) ∧
        bag = changeFirst (MainSvc.Listed roleID [celIndex]) (unsold num) svc.bag ∧
        price = (item.costSell.toNat * soldUnits row num : Nat) := by
  constructor
  · rintro ⟨first, priced, head, item', enough, same⟩
    rw [selected] at head
    obtain rfl := Option.some.inj head
    rw [found] at item'
    obtain rfl := Option.some.inj item'
    exact ⟨enough, paid_eq_iff.mp same⟩
  · rintro ⟨enough, rows, paid⟩
    refine ⟨row, item, by rw [selected]; rfl, found, enough, paid_eq_iff.mpr ⟨rows, paid⟩⟩

theorem deleteCells_bag_ne (selected : svc.selectCell roleID celIndex = row :: others) :
    (svc.bag.filter fun row => ¬ MainSvc.Listed roleID [celIndex] row) ≠ svc.bag := by
  intro same
  have member : row ∈ svc.selectCell roleID celIndex := by
    rw [selected]
    exact List.mem_cons_self
  obtain ⟨stored, listed⟩ := List.mem_filter.mp member
  rw [← same] at stored
  exact absurd (of_decide_eq_true listed) (of_decide_eq_true (List.mem_filter.mp stored).2)

theorem unsold_stack (stack : row.entityID = 0) : unsold num row =
    if printed row.num = num.toNat then none
    else some { row with num := UInt32.ofInt (printed row.num - num.toNat) } := by
  simp [unsold, stack]

/-- A failed sale that changes nothing takes nothing without pay. -/
theorem sellsExactly_of_refused {code : UInt32}
    (refused : svc.processSellItem tables roleID celIndex num sellOption = (code, svc))
    (failed : code ≠ 0) : SellsExactly tables svc roleID celIndex num sellOption := by
  rw [SellsExactly, refused]
  exact .inl ⟨failed, rfl⟩

/-- Without a price the rows must stay. -/
theorem sellsExactly_unpaid {next : BagSvc Other}
    (sold : svc.processSellItem tables roleID celIndex num sellOption =
      next.sellProceeds tables roleID row.itemID num)
    (missing : tables.item row.itemID = none) :
    SellsExactly tables svc roleID celIndex num sellOption ↔ next = svc := by
  have code : errSystemDbNoRecord ≠ 0 := by decide
  rw [SellsExactly, sold, sellProceeds, missing]
  simp [code]

/-- With a price the rows and the payment must be right. -/
theorem sellsExactly_paid {bag : List DBBagItem} {item : Item}
    (selected : svc.selectCell roleID celIndex = row :: others)
    (sold : svc.processSellItem tables roleID celIndex num sellOption =
      ({ svc with
        bag := bag
        bindStatus :=
          if row.entityID = 0 then svc.bindStatus
          else Function.update svc.bindStatus row.entityID none } :
        BagSvc Other).sellProceeds tables roleID row.itemID num)
    (found : tables.item row.itemID = some item) :
    SellsExactly tables svc roleID celIndex num sellOption ↔
      (row.entityID = 0 → num.toNat ≤ printed row.num) ∧
        bag = changeFirst (MainSvc.Listed roleID [celIndex]) (unsold num) svc.bag ∧
        printed (item.costSell * num.toUInt32) =
          (item.costSell.toNat * soldUnits row num : Nat) := by
  rw [← sold_iff selected found, SellsExactly, sold, sellProceeds, found]
  constructor
  · rintro (⟨refused, -⟩ | ⟨-, sold⟩)
    · exact absurd rfl refused
    · exact sold
  · exact fun sold => .inr ⟨rfl, sold⟩

theorem printed_price_iff (costSell : UInt32) (num : UInt16) :
    printed (costSell * num.toUInt32) = (costSell.toNat * num.toNat : Nat) ↔
      costSell.toNat * num.toNat < 2 ^ 31 := by
  have wide : num.toUInt32.toNat = num.toNat := UInt16.toNat_toUInt32 num
  rw [← wide]
  exact printed_mul_iff costSell num.toUInt32

/-- A stack that is sold whole. -/
theorem wholeSale_iff (admitted : svc.Admitted roleID sellOption)
    (selected : svc.selectCell roleID celIndex = row :: others) (stack : row.entityID = 0)
    (whole : row.num.toUInt16 = num) :
    SellsExactly tables svc roleID celIndex num sellOption ↔
      StackSale tables row others num ∨ EmptySale tables row others num := by
  have empty : ¬ EmptySale tables row others num := by
    rintro ⟨-, zero, some, -⟩
    exact some (whole.trans zero)
  have sold : svc.processSellItem tables roleID celIndex num sellOption =
      (svc.deleteCells roleID [celIndex]).sellProceeds tables roleID row.itemID num := by
    rw [processSellItem_admitted admitted, selected]
    simp only [List.head?_cons, if_pos stack, if_pos whole]
  rw [or_iff_left empty]
  cases found : tables.item row.itemID with
  | none =>
      rw [sellsExactly_unpaid sold found]
      refine iff_of_false (fun same => deleteCells_bag_ne selected (congrArg BagSvc.bag same)) ?_
      rintro ⟨-, ⟨item, present, -⟩, -⟩
      rw [found] at present
      cases present
  | some item =>
      have deleted : svc.deleteCells roleID [celIndex] = ({ svc with
          bag := svc.bag.filter fun row => ¬ MainSvc.Listed roleID [celIndex] row
          bindStatus :=
            if row.entityID = 0 then svc.bindStatus
            else Function.update svc.bindStatus row.entityID none } : BagSvc Other) := by
        rw [if_pos stack]
        rfl
      rw [deleted] at sold
      rw [sellsExactly_paid selected sold found, soldUnits, if_pos stack, printed_price_iff,
        StackSale, if_pos whole, ← printed_toUInt16_iff, whole, found]
      have rows : svc.bag.filter (MainSvc.Listed roleID [celIndex]) = row :: others := selected
      constructor
      · rintro ⟨-, same, paid⟩
        by_cases small : printed row.num = num.toNat
        · have gone : unsold num row = none := by rw [unsold_stack stack, if_pos small]
          exact ⟨small, ⟨item, rfl, paid⟩, (delete_eq_changeFirst_iff rows gone).mp same⟩
        · exact absurd same (delete_ne_changeFirst rows (by rw [unsold_stack stack, if_neg small]))
      · rintro ⟨small, ⟨item', present, paid⟩, alone⟩
        obtain rfl := Option.some.inj present
        have gone : unsold num row = none := by rw [unsold_stack stack, if_pos small]
        exact ⟨fun _ => le_of_eq small.symm, (delete_eq_changeFirst_iff rows gone).mpr alone, paid⟩

theorem setNum_eq_self_iff (row : DBBagItem) (num : UInt32) :
    ({ row with num := num } : DBBagItem) = row ↔ row.num = num := by
  constructor
  · intro same
    exact (congrArg DBBagItem.num same).symm
  · rintro rfl
    rfl

theorem updateNum_eq_self_iff {left : Int} : svc.updateNum roleID celIndex left = svc ↔
    ∀ old ∈ svc.selectCell roleID celIndex, old.num = UInt32.ofInt left := by
  have rows : svc.updateNum roleID celIndex left = svc ↔
      (svc.updateNum roleID celIndex left).bag = svc.bag := by
    refine ⟨congrArg BagSvc.bag, fun same => ?_⟩
    change ({ svc with bag := (svc.updateNum roleID celIndex left).bag } : BagSvc Other) = svc
    rw [same]
  rw [rows]
  refine update_eq_self_iff.trans ?_
  simp only [setNum_eq_self_iff]
  rfl

section Parts

theorem toNat_sub_part (fewer : num < row.num.toUInt16) :
    ((row.num.toUInt16 - num).toNat : Int) = row.num.toUInt16.toNat - num.toNat := by
  rw [UInt16.toNat_sub_of_le _ _ (UInt16.le_of_lt fewer), Nat.cast_sub]
  exact UInt16.le_iff_toNat_le.mp (UInt16.le_of_lt fewer)

/-- The update of a part writes what is there only for no pieces at all. -/
theorem rest_eq_self_iff (fewer : num < row.num.toUInt16) :
    (∀ old ∈ row :: others, old.num = UInt32.ofInt (row.num.toUInt16 - num).toNat) ↔
      num = 0 ∧ row.num.toUInt16 ≠ 0 ∧
        ∀ old ∈ row :: others, old.num = row.num.toUInt16.toUInt32 := by
  have narrow : row.num.toUInt16.toUInt32.toNat = row.num.toUInt16.toNat :=
    UInt16.toNat_toUInt32 _
  have bound := row.num.toUInt16.toNat_lt
  have less := UInt16.lt_iff_toNat_lt.mp fewer
  rw [toNat_sub_part fewer]
  constructor
  · intro same
    have first := congrArg (fun num => (num.toNat : Int)) (same row List.mem_cons_self)
    have low : row.num.toUInt16.toNat = row.num.toNat % 2 ^ 16 := UInt32.toNat_toUInt16 _
    rw [toNat_ofInt_emod] at first
    have zero : num.toNat = 0 := by omega
    obtain rfl : num = 0 := UInt16.toNat.inj zero
    refine ⟨rfl, (UInt16.ne_of_lt fewer).symm, fun old member => ?_⟩
    rw [same old member, ← same row List.mem_cons_self]
    apply UInt32.toNat.inj
    rw [narrow]
    omega
  · rintro ⟨rfl, -, same⟩ old member
    rw [same old member]
    apply UInt32.toNat.inj
    have value := toNat_ofInt_emod (row.num.toUInt16.toNat - (0 : UInt16).toNat)
    have zero : (0 : UInt16).toNat = 0 := rfl
    rw [narrow]
    omega

/-- The update of a part writes the rest of the pieces exactly when they fit the read number. -/
theorem rest_eq_iff (fewer : num < row.num.toUInt16) :
    UInt32.ofInt (row.num.toUInt16 - num).toNat = UInt32.ofInt (printed row.num - num.toNat) ↔
      printed row.num = row.num.toUInt16.toNat := by
  have left := toNat_sub_part fewer
  have less := UInt16.lt_iff_toNat_lt.mp fewer
  constructor
  · intro same
    have written := congrArg (fun num => (num.toNat : Int)) same
    have bound := row.num.toUInt16.toNat_lt
    have narrow : row.num.toUInt16.toNat = row.num.toNat % 2 ^ 16 := UInt32.toNat_toUInt16 _
    have wide := row.num.toNat_lt
    rw [toNat_ofInt_emod, toNat_ofInt_emod, left, printed_eq] at written
    rw [printed_eq]
    split at written <;> split <;> omega
  · intro small
    rw [left, small]

/-- A stack of which a part is sold. -/
theorem partSale_iff (admitted : svc.Admitted roleID sellOption)
    (selected : svc.selectCell roleID celIndex = row :: others) (stack : row.entityID = 0)
    (fewer : num < row.num.toUInt16) :
    SellsExactly tables svc roleID celIndex num sellOption ↔
      StackSale tables row others num ∨ EmptySale tables row others num := by
  have part : row.num.toUInt16 ≠ num := (UInt16.ne_of_lt fewer).symm
  have sold : svc.processSellItem tables roleID celIndex num sellOption =
      (svc.updateNum roleID celIndex (row.num.toUInt16 - num).toNat).sellProceeds tables roleID
        row.itemID num := by
    rw [processSellItem_admitted admitted, selected]
    simp only [List.head?_cons, if_pos stack, if_neg part, if_pos fewer]
  cases found : tables.item row.itemID with
  | none =>
      have priced : ¬ StackSale tables row others num := by
        rintro ⟨-, ⟨item, present, -⟩, -⟩
        rw [found] at present
        cases present
      rw [sellsExactly_unpaid sold found, or_iff_right priced, EmptySale, and_iff_right found,
        updateNum_eq_self_iff, selected]
      exact rest_eq_self_iff fewer
  | some item =>
      have empty : ¬ EmptySale tables row others num := by
        rintro ⟨missing, -⟩
        rw [found] at missing
        cases missing
      have updated : svc.updateNum roleID celIndex (row.num.toUInt16 - num).toNat = ({ svc with
          bag := svc.bag.map fun old =>
            if MainSvc.Listed roleID [celIndex] old then
              { old with num := UInt32.ofInt (row.num.toUInt16 - num).toNat }
            else old
          bindStatus :=
            if row.entityID = 0 then svc.bindStatus
            else Function.update svc.bindStatus row.entityID none } : BagSvc Other) := by
        rw [if_pos stack]
        rfl
      rw [updated] at sold
      rw [sellsExactly_paid selected sold found, soldUnits, if_pos stack, printed_price_iff,
        or_iff_left empty, StackSale, if_neg part, ← printed_toUInt16_iff, found]
      have less := UInt16.lt_iff_toNat_lt.mp fewer
      have different : printed row.num ≠ num.toNat := by
        intro same
        have narrow : row.num.toUInt16.toNat = row.num.toNat % 2 ^ 16 := UInt32.toNat_toUInt16 _
        rw [printed_eq] at same
        split at same <;> omega
      have changed : unsold num row =
          some { row with num := UInt32.ofInt (printed row.num - num.toNat) } := by
        rw [unsold_stack stack, if_neg different]
      have rows : svc.bag.filter (MainSvc.Listed roleID [celIndex]) = row :: others := selected
      rw [update_eq_changeFirst_iff rows changed]
      simp only [setNum_eq_self_iff]
      constructor
      · rintro ⟨-, ⟨same, rest⟩, paid⟩
        have written := congrArg DBBagItem.num same
        exact ⟨(rest_eq_iff fewer).mp written, ⟨item, rfl, paid⟩, rest⟩
      · rintro ⟨small, ⟨item', present, paid⟩, rest⟩
        obtain rfl := Option.some.inj present
        refine ⟨fun _ => by omega, ⟨?_, rest⟩, paid⟩
        rw [(rest_eq_iff fewer).mpr small]

end Parts

theorem printed_price_single (costSell : UInt32) (num : UInt16) :
    printed (costSell * num.toUInt32) = (costSell.toNat * 1 : Nat) ↔
      costSell.toNat < 2 ^ 31 ∧ costSell.toNat * num.toNat % 2 ^ 32 = costSell.toNat := by
  have wide : num.toUInt32.toNat = num.toNat := UInt16.toNat_toUInt32 num
  have bound := costSell.toNat_lt
  rw [printed_eq, UInt32.toNat_mul, wide, Nat.mul_one]
  generalize costSell.toNat * num.toNat = product
  split <;> omega

/-- A stack is sold whole or in part, and no more than its pieces are sold. -/
theorem stackSale_iff (admitted : svc.Admitted roleID sellOption)
    (selected : svc.selectCell roleID celIndex = row :: others) (stack : row.entityID = 0) :
    SellsExactly tables svc roleID celIndex num sellOption ↔
      (num ≤ row.num.toUInt16 →
        StackSale tables row others num ∨ EmptySale tables row others num) := by
  by_cases whole : row.num.toUInt16 = num
  · rw [wholeSale_iff admitted selected stack whole]
    exact (imp_iff_right (UInt16.le_of_eq whole.symm)).symm
  by_cases fewer : num < row.num.toUInt16
  · rw [partSale_iff admitted selected stack fewer]
    exact (imp_iff_right (UInt16.le_of_lt fewer)).symm
  · have failed : errSystemDbNoRecord ≠ 0 := by decide
    have refused : svc.processSellItem tables roleID celIndex num sellOption =
        (errSystemDbNoRecord, svc) := by
      rw [processSellItem_admitted admitted, selected]
      simp only [List.head?_cons, if_pos stack, if_neg whole, if_neg fewer]
    refine iff_of_true (sellsExactly_of_refused refused failed) fun enough => ?_
    exact absurd (UInt16.lt_of_le_of_ne enough (Ne.symm whole)) fewer

/-- A piece with an entity is sold. -/
theorem entitySale_iff (admitted : svc.Admitted roleID sellOption)
    (selected : svc.selectCell roleID celIndex = row :: others) (entity : row.entityID ≠ 0) :
    SellsExactly tables svc roleID celIndex num sellOption ↔ EntitySale tables row others num := by
  have rows : svc.bag.filter (MainSvc.Listed roleID [celIndex]) = row :: others := selected
  have sold : svc.processSellItem tables roleID celIndex num sellOption =
      ({ svc with
        bag := svc.bag.filter fun row => ¬ MainSvc.Listed roleID [celIndex] row
        bindStatus :=
          if row.entityID = 0 then svc.bindStatus
          else Function.update svc.bindStatus row.entityID none } :
        BagSvc Other).sellProceeds tables roleID row.itemID num := by
    rw [processSellItem_admitted admitted, selected]
    simp only [List.head?_cons, if_neg entity]
    rfl
  cases found : tables.item row.itemID with
  | none =>
      rw [sellsExactly_unpaid sold found]
      refine iff_of_false (fun same => deleteCells_bag_ne selected (congrArg BagSvc.bag same)) ?_
      rintro ⟨-, item, present, -⟩
      rw [found] at present
      cases present
  | some item =>
      have gone : unsold num row = none := by rw [unsold, if_pos (.inl entity)]
      rw [sellsExactly_paid selected sold found, delete_eq_changeFirst_iff rows gone, soldUnits,
        if_neg entity, printed_price_single, EntitySale, found]
      constructor
      · rintro ⟨-, alone, paid⟩
        exact ⟨alone, item, rfl, paid⟩
      · rintro ⟨alone, item', present, paid⟩
        obtain rfl := Option.some.inj present
        exact ⟨fun none => absurd none entity, alone, paid⟩

end Branches

/-- A sale pays for what it takes exactly when it is refused or has its price, with no other row in
its cell. -/
theorem processSellItem_exact_iff (tables : ItemTables) (svc : BagSvc Other) (roleID : UInt32)
    (celIndex num : UInt16) (sellOption : UInt8) :
    SellsExactly tables svc roleID celIndex num sellOption ↔
      SaleFair tables svc roleID celIndex num sellOption := by
  have code : errAppData ≠ 0 ∧ errSystemDbNoRecord ≠ 0 := by decide
  by_cases admitted : svc.Admitted roleID sellOption
  · cases selected : svc.selectCell roleID celIndex with
    | nil =>
        have refused : svc.processSellItem tables roleID celIndex num sellOption =
            (errSystemDbNoRecord, svc) := by
          rw [processSellItem_admitted admitted, selected]
          rfl
        refine iff_of_true (sellsExactly_of_refused refused code.2) fun _ row others some => ?_
        rw [selected] at some
        cases some
    | cons row others =>
        have fair : SaleFair tables svc roleID celIndex num sellOption ↔
            if row.entityID = 0 then
              num ≤ row.num.toUInt16 →
                StackSale tables row others num ∨ EmptySale tables row others num
            else EntitySale tables row others num := by
          constructor
          · exact fun fair => fair admitted row others selected
          · intro fair _ first rest some
            obtain ⟨rfl, rfl⟩ := List.cons.inj (selected.symm.trans some)
            exact fair
        rw [fair]
        by_cases stack : row.entityID = 0
        · rw [if_pos stack]
          exact stackSale_iff admitted selected stack
        · rw [if_neg stack]
          exact entitySale_iff admitted selected stack
  · exact iff_of_true (sellsExactly_of_refused (processSellItem_refused admitted) code.1)
      fun wrong => absurd wrong admitted

/-- Item 3001 is worth fifty. -/
def swordTables : ItemTables where
  item itemID :=
    if itemID = 3001 then some { Item.null with itemType := 2, costSell := 50 } else none
  itemComposite := []
  giftItemBag := []
  itemBonus := []

/-- Role 7 has a sword with entity 9 in its first cell. -/
def swordBag : BagSvc Empty where
  mapRole _ := none
  bag := [⟨7, 1, 1, 2, 3001, 9, 1⟩]
  roleMoney _ := ⟨0, 0, 0⟩
  equip := []
  bindStatus entityID := if entityID = 9 then some 0 else none
  isVip _ := none
  nextEntityID := 10
  runes := .initial fun _ _ => 0
  issued := []

/-- One sword is sold as a thousand. -/
theorem oneSword_not_sellsExactly :
    ¬ ∀ (tables : ItemTables) (svc : BagSvc Empty) (roleID : UInt32) (celIndex num : UInt16)
        (sellOption : UInt8), SellsExactly tables svc roleID celIndex num sellOption := by
  intro claimed
  rcases claimed swordTables swordBag 7 1 1000 2 with ⟨refused, -⟩ | ⟨-, sold⟩
  · exact refused (by decide +kernel)
  · obtain ⟨row, item, head, found, -, same⟩ := sold
    have row' : (⟨7, 1, 1, 2, 3001, 9, 1⟩ : DBBagItem) = row := by
      have first : (swordBag.selectCell 7 1).head? = some ⟨7, 1, 1, 2, 3001, 9, 1⟩ := by decide
      exact Option.some.inj (first.symm.trans head)
    subst row'
    obtain rfl : ({ Item.null with itemType := 2, costSell := 50 } : Item) = item :=
      Option.some.inj found
    have money := congrArg MoneyRow.bindMoney (congrFun (congrArg BagSvc.roleMoney same) 7)
    exact absurd money (by decide +kernel)

end BagSvc

end AppSvr.MainServer
