/-
This file proves when the bonuses of a pet are changed as their attributes are numbered.
-/

import AppSvr.Construction.MainServer.PetSvc
import AppSvr.Proof.MainServer.BagRows
import AppSvr.Proof.MainServer.LevelUps
import Mathlib.Tactic.IntervalCases

namespace AppSvr.MainServer

/-- The attribute that `RoleBonus` adds to. -/
def roleAttr (bonusAttrID : UInt32) : Option BonusAttr :=
  match bonusAttrID.toNat with
  | 1 => some .maxHp
  | 2 => some .maxMp
  | 3 => some .attackPowerHigh
  | 4 => some .attackPowerLow
  | 5 => some .defence
  | 6 => some .mDefence
  | 7 => some .critRate
  | 8 => some .strength
  | 9 => some .intelligence
  | 10 => some .agility
  | 11 => some .movSpeed
  | 12 => some .hitRate
  | 13 => some .dodgeRate
  | 14 => some .attackSpeed
  | 15 => some .hpRegen
  | 16 => some .mpRegen
  | _ => none

/-- The attribute that `PetGetNewBonus` reads. -/
def petAttr (bonusAttrID : UInt32) : Option BonusAttr :=
  match bonusAttrID.toNat with
  | 15 => some .maxHp
  | 16 => some .maxMp
  | _ => roleAttr bonusAttrID

/-- The two tables of numbers agree on the numbers that a pet books right. -/
structure Numbers (numbering : UInt32 → Option BonusAttr) : Prop where
  maxHp : numbering 1 = some .maxHp
  maxMp : numbering 2 = some .maxMp
  attackPowerHigh : numbering 3 = some .attackPowerHigh
  other : ∀ id : UInt32, id = 0 ∨ 16 < id → numbering id = none

theorem roleAttr_other {id : UInt32} (other : id = 0 ∨ 16 < id) : roleAttr id = none := by
  have number : id.toNat = 0 ∨ 16 < id.toNat := by
    rcases other with rfl | large
    · exact .inl rfl
    · exact .inr large
  rw [roleAttr]
  split <;> first | omega | rfl

theorem roleAttr_numbers : Numbers roleAttr where
  maxHp := rfl
  maxMp := rfl
  attackPowerHigh := rfl
  other _ := roleAttr_other

theorem petAttr_numbers : Numbers petAttr where
  maxHp := rfl
  maxMp := rfl
  attackPowerHigh := rfl
  other id other := by
    have number : id.toNat = 0 ∨ 16 < id.toNat := by
      rcases other with rfl | large
      · exact .inl rfl
      · exact .inr large
    rw [petAttr]
    split
    · omega
    · omega
    · exact roleAttr_other other

/-- The value takes the amount without leaving its column and without stopping at zero. -/
def TakesIn (value amount : Int) : Prop :=
  -2147483648 ≤ value + amount ∧ value + amount < 2147483648 ∧ (0 ≤ value → 0 ≤ value + amount)

instance (value amount : Int) : Decidable (TakesIn value amount) :=
  inferInstanceAs (Decidable (_ ∧ _ ∧ (_ → _)))

theorem printed_addBonus {value : UInt32} {amount : Int} (takes : TakesIn (printed value) amount) :
    printed (addBonus value (printed (UInt32.ofInt amount))) = printed value + amount := by
  obtain ⟨low, high, covered⟩ := takes
  have bits : (UInt32.ofInt amount).toNat = (amount % 4294967296).toNat := by
    rw [UInt32.ofInt, UInt32.toNat_ofNat']
    omega
  have bound := value.toNat_lt
  have stored := printed_eq value
  have input := printed_eq (UInt32.ofInt amount)
  rw [bits] at input
  generalize printed (UInt32.ofInt amount) = num at input ⊢
  have grows : ¬ (num < 0 ∧ value.toNat < num.natAbs) := by
    split at stored <;> split at input <;> omega
  have sum : UInt32.ofInt (value.toNat + num) = UInt32.ofInt (printed value + amount) := by
    apply UInt32.toNat.inj
    rw [UInt32.ofInt, UInt32.ofInt, UInt32.toNat_ofNat', UInt32.toNat_ofNat']
    split at stored <;> split at input <;> omega
  rw [addBonus, if_neg grows, sum, printed_ofInt low high]

/-- One amount reaches the numbered attribute. -/
def BooksOne (sums : BonusAttr → Int) (id : UInt32) (amount : Int) : Prop :=
  (id = 1 → TakesIn (sums .maxHp) amount) ∧
    (id = 2 → TakesIn (sums .maxMp) amount) ∧
    (id = 3 → sums .attackPowerHigh = 0 ∧ -2147483648 ≤ amount ∧ amount < 2147483648) ∧
    (3 < id ∧ id ≤ 16 → amount = 0)

instance (sums : BonusAttr → Int) (id : UInt32) (amount : Int) :
    Decidable (BooksOne sums id amount) :=
  inferInstanceAs (Decidable ((_ → _) ∧ (_ → _) ∧ (_ → _) ∧ (_ → _)))

/-- The share of an amount in an attribute. -/
def credit (numbering : UInt32 → Option BonusAttr) (attr : BonusAttr) (change : UInt32 × Int) : Int :=
  if numbering change.1 = some attr then change.2 else 0

/-- The amounts reach the numbered attributes one after another. -/
def Books (sums : BonusAttr → Int) : List (UInt32 × Int) → Prop
  | [] => True
  | change :: rest =>
      BooksOne sums change.1 change.2 ∧
        Books (fun attr => sums attr + credit roleAttr attr change) rest

instance Books.decidable (sums : BonusAttr → Int) :
    (changes : List (UInt32 × Int)) → Decidable (Books sums changes)
  | [] => .isTrue trivial
  | _ :: rest => @instDecidableAnd _ _ _ (Books.decidable _ rest)

theorem addBonus_zero (value : UInt32) : addBonus value 0 = value := by
  have bits : UInt32.ofInt (value.toNat : Int) = value := by
    apply UInt32.toNat.inj
    have bound := value.toNat_lt
    rw [UInt32.ofInt, UInt32.toNat_ofNat']
    omega
  simp [addBonus, bits]

namespace AttrCombatBonus

variable {bonus : AttrCombatBonus} {id : UInt32}

theorem add_zero (bonus : AttrCombatBonus) (attr : BonusAttr) : bonus.add attr 0 = bonus := by
  rw [add, addBonus_zero, Function.update_eq_self]

/-- Only the number three notices that nothing is added. -/
theorem petBonusFunc_zero (named : id.toNat ≠ 3) : bonus.petBonusFunc id 0 = bonus := by
  rw [petBonusFunc]
  split <;> first | contradiction | rfl | exact bonus.add_zero _

theorem petBonusFunc_other (other : id = 0 ∨ 16 < id) (num : Int) :
    bonus.petBonusFunc id num = bonus := by
  have number : id.toNat = 0 ∨ 16 < id.toNat := by
    rcases other with rfl | large
    · exact .inl rfl
    · exact .inr large
  rw [petBonusFunc]
  split <;> first | omega | rfl

theorem printed_add {attr : BonusAttr} {amount : Int} (takes : TakesIn (printed (bonus attr)) amount)
    (other : BonusAttr) : printed (bonus.add attr (printed (UInt32.ofInt amount)) other) =
      printed (bonus other) + if attr = other then amount else 0 := by
  by_cases same : attr = other
  · subst same
    rw [add, Function.update_self, printed_addBonus takes, if_pos rfl]
  · rw [add, Function.update_of_ne (Ne.symm same), if_neg same, Int.add_zero]

/-- The pet is given the bits of the amount. -/
def book (bonus : AttrCombatBonus) (change : UInt32 × Int) : AttrCombatBonus :=
  bonus.petBonusFunc change.1 (printed (UInt32.ofInt change.2))

variable {numbering : UInt32 → Option BonusAttr} (numbers : Numbers numbering)
  {sums : BonusAttr → Int}

include numbers

/-- One amount is booked under every numbering. -/
theorem book_spec (same : ∀ attr, printed (bonus attr) = sums attr) {change : UInt32 × Int}
    (books : BooksOne sums change.1 change.2) (attr : BonusAttr) :
    printed (bonus.book change attr) = sums attr + credit numbering attr change := by
  obtain ⟨id, amount⟩ := change
  obtain ⟨maxHp, maxMp, attackPowerHigh, nothing⟩ := books
  by_cases one : id = 1
  · subst one
    have takes := maxHp rfl
    rw [← same] at takes
    have numbered : numbering 1 = some attr ↔ .maxHp = attr := by
      rw [numbers.maxHp, Option.some_inj]
    simp only [credit, numbered]
    rw [← same]
    exact printed_add takes attr
  by_cases two : id = 2
  · subst two
    have takes := maxMp rfl
    rw [← same] at takes
    have numbered : numbering 2 = some attr ↔ .maxMp = attr := by
      rw [numbers.maxMp, Option.some_inj]
    simp only [credit, numbered]
    rw [← same]
    exact printed_add takes attr
  by_cases three : id = 3
  · -- The value is set, so it has to be zero before.
    subst three
    obtain ⟨none, low, high⟩ := attackPowerHigh rfl
    have numbered : numbering 3 = some attr ↔ .attackPowerHigh = attr := by
      rw [numbers.attackPowerHigh, Option.some_inj]
    have value : printed (UInt32.ofInt (printed (UInt32.ofInt amount))) = amount := by
      rw [ofInt_printed, printed_ofInt low high]
    change printed (Function.update bonus .attackPowerHigh
      (UInt32.ofInt (printed (UInt32.ofInt amount))) attr) = _
    simp only [credit, numbered]
    by_cases here : .attackPowerHigh = attr
    · subst here
      rw [Function.update_self, value, none, if_pos rfl, Int.zero_add]
    · rw [Function.update_of_ne (Ne.symm here), if_neg here, same, Int.add_zero]
  by_cases named : 3 < id ∧ id ≤ 16
  · have number : id.toNat ≠ 3 := fun equal => three (UInt32.toNat.inj equal)
    have zero := nothing named
    change amount = 0 at zero
    subst zero
    rw [book, show printed (UInt32.ofInt 0) = 0 from rfl, petBonusFunc_zero number, same, credit,
      ite_self, Int.add_zero]
  · have other : id = 0 ∨ 16 < id := by
      simp only [UInt32.lt_iff_toNat_lt, UInt32.le_iff_toNat_le, ← UInt32.toNat_inj] at *
      simp at *
      omega
    rw [book, petBonusFunc_other other, same, credit, numbers.other id other]
    simp

/-- All amounts are booked under every numbering. -/
theorem foldl_book {changes : List (UInt32 × Int)} (same : ∀ attr, printed (bonus attr) = sums attr)
    (books : Books sums changes) (attr : BonusAttr) :
    printed (changes.foldl book bonus attr) =
      sums attr + (changes.map (credit numbering attr)).sum := by
  induction changes generalizing bonus sums with
  | nil => rw [List.foldl_nil, List.map_nil, List.sum_nil, same, Int.add_zero]
  | cons change rest ih =>
      have first := book_spec roleAttr_numbers same books.1
      have here := book_spec numbers same books.1 attr
      rw [first attr] at here
      rw [List.foldl_cons, ih first books.2, List.map_cons, List.sum_cons, here, Int.add_assoc]

end AttrCombatBonus

/-- A piece that is taken off takes its values back. -/
def offAmounts (rows : List BonusRow) : List (UInt32 × Int) :=
  rows.map fun row => (row.bonusAttr, -printed row.bonusValue)

def onAmounts (rows : List BonusRow) : List (UInt32 × Int) :=
  rows.map fun row => (row.bonusAttr, printed row.bonusValue)

namespace AttrCombatBonus

theorem getPetBonusoff_eq (bonus : AttrCombatBonus) (rows : List BonusRow) :
    bonus.getPetBonusoff rows = (offAmounts rows).foldl book bonus := by
  rw [getPetBonusoff, offAmounts, List.foldl_map]
  congr 1
  funext bonus row
  have bits : UInt32.ofInt (-printed row.bonusValue) = -row.bonusValue := by
    rw [UInt32.ofInt_neg, ofInt_printed]
  rw [book, bits]

theorem getPetBonusin_eq (bonus : AttrCombatBonus) (rows : List BonusRow) :
    bonus.getPetBonusin rows = (onAmounts rows).foldl book bonus := by
  rw [getPetBonusin, onAmounts, List.foldl_map]
  congr 1
  funext bonus row
  rw [book, ofInt_printed]

end AttrCombatBonus

/-- The sum of the values of an item for an attribute. -/
def ItemTables.valueOf (tables : ItemTables) (numbering : UInt32 → Option BonusAttr)
    (itemID : UInt32) (attr : BonusAttr) : Int :=
  ((onAmounts (tables.getPetItemBonus itemID)).map (credit numbering attr)).sum

theorem offAmounts_sum (tables : ItemTables) (numbering : UInt32 → Option BonusAttr)
    (itemID : UInt32) (attr : BonusAttr) :
    ((offAmounts (tables.getPetItemBonus itemID)).map (credit numbering attr)).sum =
      -tables.valueOf numbering itemID attr := by
  rw [ItemTables.valueOf, onAmounts, offAmounts, List.map_map, List.map_map]
  induction tables.getPetItemBonus itemID with
  | nil => rfl
  | cons row rest ih =>
      simp only [List.map_cons, List.sum_cons, ih, Int.neg_add, Function.comp_apply, credit]
      split_ifs <;> omega

/-- The setter of the critical rate drops its column. -/
theorem PetBonus.db2CacheBonus_eq {row : PetBonus} (none : row .critRate = 0) :
    row.db2CacheBonus = row := by
  funext attr
  cases attr with
  | critRate => exact none.symm
  | _ => rfl

end AppSvr.MainServer
