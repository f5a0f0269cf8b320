/-
This file proves what the statements on table `Bag` do to the number of pieces that a role has, what
the use of an item grants, and which rows it leaves alone.
-/

import AppSvr.Construction.MainServer.BagProcess
import AppSvr.Proof.MainServer.MoneyUpdates
import AppSvr.ToMathlib.KeyedRows

namespace AppSvr.MainServer

open KeyedRows

/-- A number of thirty-one bits and a sign survives the column. -/
theorem printed_ofInt {num : Int} (low : -2147483648 ≤ num) (high : num < 2147483648) :
    printed (UInt32.ofInt num) = num := by
  have bits : (UInt32.ofInt num).toNat = (num % 2 ^ 32).toNat := by
    rw [UInt32.ofInt, UInt32.toNat_ofNat']
    omega
  rw [printed_eq, bits]
  split <;> omega

theorem printed_ofUInt16 (num : UInt16) : printed num.toUInt32 = num.toNat := by
  have bound := num.toNat_lt
  have small : num.toUInt32.toNat = num.toNat := UInt16.toNat_toUInt32 num
  rw [printed_small (by omega), small]

/-- The number of the row is positive and fits into a cell. -/
def LegalRow (row : DBBagItem) : Prop :=
  1 ≤ printed row.num ∧ printed row.num ≤ topStackNum.toNat

instance (row : DBBagItem) : Decidable (LegalRow row) := inferInstanceAs (Decidable (_ ∧ _))

/-- A legal number keeps its value in a local of sixteen bits. -/
theorem LegalRow.printed_eq {row : DBBagItem} (legal : LegalRow row) :
    printed row.num = row.num.toUInt16.toNat := by
  have bound := row.num.toNat_lt
  have low := legal.1
  have high : printed row.num ≤ 99 := legal.2
  rw [MainServer.printed_eq] at low high ⊢
  rw [UInt32.toNat_toUInt16]
  split at low <;> omega

variable (owner kind roleID itemID : UInt32)

/-- Pieces of one role's item count only for that role and that item. -/
def share (num : Int) : Int :=
  if owner = roleID ∧ kind = itemID then num else 0

theorem share_zero : share owner kind roleID itemID 0 = 0 :=
  ite_self 0

theorem share_add (first second : Int) : share owner kind roleID itemID (first + second) =
      share owner kind roleID itemID first + share owner kind roleID itemID second := by
  unfold share
  split <;> simp

theorem share_mono {first second : Int} (le : first ≤ second) (owner kind roleID itemID : UInt32) :
    share owner kind roleID itemID first ≤ share owner kind roleID itemID second := by
  unfold share
  split
  · exact le
  · exact le_rfl

/-- A row counts with its number. -/
def pieces (roleID itemID : UInt32) (row : DBBagItem) : Int :=
  share row.roleID row.itemID roleID itemID (printed row.num)

theorem LegalRow.pieces_nonneg {row : DBBagItem} (legal : LegalRow row) (roleID itemID : UInt32) :
    0 ≤ pieces roleID itemID row := by
  rw [← share_zero row.roleID row.itemID roleID itemID]
  exact share_mono (le_trans Int.one_nonneg legal.1) _ _ _ _

namespace BagSvc

variable {Other : Type*} {svc middle next : BagSvc Other} {roleID : UInt32} {celIndex : UInt16}

/-- Every cell holds between one and ninety-nine pieces. -/
def Legal (svc : BagSvc Other) : Prop := ∀ row ∈ svc.bag, LegalRow row

instance (svc : BagSvc Other) : Decidable svc.Legal :=
  inferInstanceAs (Decidable (∀ row ∈ svc.bag, _))

/-- The pieces of the item in the role's bag are added up. -/
def total (svc : BagSvc Other) (roleID itemID : UInt32) : Int :=
  (svc.bag.map (pieces roleID itemID)).sum

/-- The role has got so many pieces of the item by payments and grants. -/
def issuedTo (svc : BagSvc Other) (roleID itemID : UInt32) : Int :=
  (svc.issued.map fun issue =>
    share issue.roleID issue.itemID roleID itemID issue.num.toNat).sum

/-- The bags are legal and every piece that a role has gained was paid for or granted. -/
structure Accounted (svc next : BagSvc Other) : Prop where
  legal : next.Legal
  covered : ∀ roleID itemID, next.total roleID itemID + svc.issuedTo roleID itemID ≤
    svc.total roleID itemID + next.issuedTo roleID itemID

theorem Accounted.trans (first : svc.Accounted middle) (second : middle.Accounted next) :
    svc.Accounted next where
  legal := second.legal
  covered roleID itemID := by
    have before := first.covered roleID itemID
    have after := second.covered roleID itemID
    omega

/-- A change of the other tables needs no account. -/
theorem Legal.accounted_of_eq (legal : svc.Legal) (bag : next.bag = svc.bag)
    (issued : next.issued = svc.issued) : svc.Accounted next where
  legal := by rwa [Legal, bag]
  covered roleID itemID := by rw [total, total, issuedTo, issuedTo, bag, issued]

theorem Legal.accounted_refl (legal : svc.Legal) : svc.Accounted svc :=
  legal.accounted_of_eq rfl rfl

/-- The role has gained this many pieces of the item, and nothing was paid for or granted. -/
structure Gains (svc next : BagSvc Other) (roleID itemID : UInt32) (amount : Int) : Prop where
  legal : next.Legal
  issued : next.issued = svc.issued
  total : ∀ role item,
    next.total role item = svc.total role item + share roleID itemID role item amount

theorem Legal.gains_zero (legal : svc.Legal) (roleID itemID : UInt32) :
    Gains svc svc roleID itemID 0 where
  legal := legal
  issued := rfl
  total role item := by rw [share_zero, add_zero]

variable {itemID : UInt32}

theorem Gains.trans {first second : Int} (before : Gains svc middle roleID itemID first)
    (after : Gains middle next roleID itemID second) :
    Gains svc next roleID itemID (first + second) where
  legal := after.legal
  issued := after.issued.trans before.issued
  total role item := by rw [after.total, before.total, share_add, add_assoc]

/-- A gain of nothing is a gain of no pieces of any other item. -/
theorem Gains.of_zero (gains : Gains svc next roleID itemID 0)
    (other : UInt32) : Gains svc next roleID other 0 where
  legal := gains.legal
  issued := gains.issued
  total role item := by rw [gains.total, share_zero, share_zero]

theorem Gains.accounted (gains : Gains svc next roleID itemID 0) : svc.Accounted next where
  legal := gains.legal
  covered role item := by
    rw [gains.total, share_zero, add_zero, issuedTo, issuedTo, gains.issued]

/-- At most one row of the role lies in the cell. -/
def Alone (svc : BagSvc Other) (roleID : UInt32) (celIndex : UInt16) : Prop :=
  (svc.selectCell roleID celIndex).length ≤ 1

instance (svc : BagSvc Other) (roleID : UInt32) (celIndex : UInt16) :
    Decidable (svc.Alone roleID celIndex) :=
  inferInstanceAs (Decidable (_ ≤ _))

theorem mem_selectCell {row : DBBagItem} : row ∈ svc.selectCell roleID celIndex ↔
    row ∈ svc.bag ∧ row.roleID = roleID ∧ row.cellIndex = celIndex := by
  simp [selectCell, MainSvc.Listed]

/-- The row that a select reads first is the only one in its cell. -/
theorem Alone.selectCell_eq (alone : svc.Alone roleID celIndex) {row : DBBagItem}
    (member : row ∈ svc.selectCell roleID celIndex) : svc.selectCell roleID celIndex = [row] := by
  obtain ⟨inBag, listed⟩ := List.mem_filter.mp member
  exact filter_eq_singleton alone inBag (of_decide_eq_true listed)

theorem Legal.deleteCells (legal : svc.Legal) (roleID : UInt32) (cells : List UInt16) :
    (svc.deleteCells roleID cells).Legal := by
  intro row member
  exact legal row (List.mem_of_mem_filter member)

/-- A deletion gives nothing to anybody. -/
theorem Legal.deleteCells_accounted (legal : svc.Legal) (roleID : UInt32) (cells : List UInt16) :
    svc.Accounted (svc.deleteCells roleID cells) where
  legal := legal.deleteCells roleID cells
  covered role item := by
    apply add_le_add_left
    exact sum_delete_le _ fun row member => (legal row member).pieces_nonneg role item

theorem Legal.updateNum (legal : svc.Legal) {num : Int} (low : 1 ≤ num)
    (high : svc.selectCell roleID celIndex ≠ [] → num ≤ topStackNum.toNat) :
    (svc.updateNum roleID celIndex num).Legal := by
  intro row member
  obtain ⟨old, inBag, rfl⟩ := List.mem_map.mp member
  split
  case isTrue listed =>
    have found : old ∈ svc.selectCell roleID celIndex :=
      List.mem_filter.mpr ⟨inBag, decide_eq_true listed⟩
    have bound := high (List.ne_nil_of_mem found)
    have kept : printed (UInt32.ofInt num) = num := by
      have limit : (topStackNum.toNat : Int) = 99 := rfl
      exact printed_ofInt (by omega) (by omega)
    exact ⟨by rwa [kept], by rwa [kept]⟩
  case isFalse => exact legal old inBag

/-- A smaller positive number gives nothing to anybody. -/
theorem Legal.updateNum_accounted (legal : svc.Legal) {num : Int} (low : 1 ≤ num)
    (fewer : ∀ row ∈ svc.selectCell roleID celIndex, num ≤ printed row.num) :
    svc.Accounted (svc.updateNum roleID celIndex num) where
  legal := by
    apply legal.updateNum low
    intro occupied
    obtain ⟨row, found⟩ := List.exists_mem_of_ne_nil _ occupied
    exact le_trans (fewer row found) (legal row (List.mem_of_mem_filter found)).2
  covered role item := by
    apply add_le_add_left
    apply sum_update_le
    intro row member listed
    have below := fewer row (List.mem_filter.mpr ⟨member, decide_eq_true listed⟩)
    have high : printed row.num ≤ 99 := (legal row member).2
    apply share_mono
    rwa [printed_ofInt (by omega) (by omega)]

/-- A legal row brings its pieces. -/
theorem Legal.insertBag (legal : svc.Legal) {row : DBBagItem} (inserted : LegalRow row) :
    Gains svc (svc.insertBag row) row.roleID row.itemID (printed row.num) where
  legal := by
    intro found member
    rcases List.mem_append.mp member with old | new
    · exact legal found old
    · rwa [List.mem_singleton.mp new]
  issued := rfl
  total role item := by
    rw [BagSvc.insertBag, total, List.map_append, List.sum_append, List.map_singleton,
      List.sum_singleton]
    rfl

/-- A payment or a grant covers a gain. -/
theorem Accounted.of_issue {num : UInt16} (legal : next.Legal) (total : ∀ role item,
      next.total role item = svc.total role item + share roleID itemID role item num.toNat)
    (issued : next.issued = svc.issued ++ [⟨roleID, itemID, num⟩]) : svc.Accounted next where
  legal := legal
  covered role item := by
    rw [total, issuedTo, issuedTo, issued, List.map_append, List.sum_append, List.map_singleton,
      List.sum_singleton, add_assoc, add_comm (share _ _ _ _ _)]

end BagSvc

end AppSvr.MainServer

namespace AppSvr.MainServer.BagSvc

variable {Other : Type*} {start svc next : BagSvc Other} {tables : ItemTables} {roleID : UInt32}
  {lic : List ItemCell}

/-- The number is positive and fits into a cell. -/
def LegalNum (num : UInt16) : Prop := 1 ≤ num ∧ num ≤ topStackNum

instance (num : UInt16) : Decidable (LegalNum num) := inferInstanceAs (Decidable (_ ∧ _))

/-- A legal number makes a legal row. -/
theorem LegalNum.legalRow {num : UInt16} (legal : LegalNum num) {row : DBBagItem}
    (numbered : row.num = num.toUInt32) : LegalRow row := by
  have low := UInt16.le_iff_toNat_le.mp legal.1
  have high := UInt16.le_iff_toNat_le.mp legal.2
  have one : (1 : UInt16).toNat = 1 := rfl
  rw [LegalRow, numbered, printed_ofUInt16]
  omega

/-- The new pieces are accounted for, and every other row is an old one. -/
structure Granted (start svc : BagSvc Other) (lic : List ItemCell) : Prop where
  accounted : start.Accounted svc
  rows : ∀ row ∈ svc.bag, row ∈ start.bag ∨ row.cellIndex ∈ lic.map ItemCell.celIndex

/-- A change of the other tables grants nothing. -/
theorem Granted.of_eq (granted : Granted start svc lic) (bag : next.bag = svc.bag)
    (issued : next.issued = svc.issued) : Granted start next lic where
  accounted := granted.accounted.trans (granted.accounted.legal.accounted_of_eq bag issued)
  rows := by rw [bag]; exact granted.rows

theorem Legal.granted (legal : svc.Legal) (lic : List ItemCell) : Granted svc svc lic where
  accounted := legal.accounted_refl
  rows _ member := .inl member

/-- A granted row enters the bag and the account together. -/
theorem Granted.insertBag (granted : Granted start svc lic) {row : DBBagItem} {num : UInt16}
    (legal : LegalNum num) (numbered : row.num = num.toUInt32) (itemID entityID : UInt32) :
    Granted start
      { svc.insertBag row with issued := svc.issued ++ [⟨row.roleID, row.itemID, num⟩] }
      (lic ++ [⟨row.cellIndex, itemID, entityID, num⟩]) where
  accounted := by
    have inserted := granted.accounted.legal.insertBag (legal.legalRow numbered)
    rw [numbered, printed_ofUInt16] at inserted
    exact granted.accounted.trans (.of_issue inserted.legal inserted.total rfl)
  rows found member := by
    rw [List.map_append, List.mem_append]
    rcases List.mem_append.mp member with old | new
    · exact (granted.rows found old).imp_right .inl
    · rw [List.mem_singleton.mp new]
      simp

/-- Every call with a legal number grants at most one legal row. -/
theorem Granted.getItem (granted : Granted start svc lic) {num : UInt16} (legal : LegalNum num)
    (itemID : UInt32) :
    Granted start (svc.getItem tables roleID itemID lic num).2.1
      (svc.getItem tables roleID itemID lic num).2.2 := by
  unfold BagSvc.getItem
  by_cases full : svc.ifhascellIndex roleID = 0
  · simpa only [full, if_true] using granted
  · cases described : tables.item itemID with
    | none => simpa only [full, described, if_false] using granted
    | some item =>
        by_cases refused : item.itemType ≠ 2 ∧ item.isStack = 0 ∧ num ≠ 1
        · simpa only [full, if_false, if_pos refused] using granted
        · simp only [full, if_false, if_neg refused]
          by_cases entity : item.itemType = 2
          · simp only [entity, if_true]
            have entered : Granted start (svc.insertEntity item.bind).2 lic := granted.of_eq rfl rfl
            exact entered.insertBag legal rfl itemID _
          · simp only [entity, if_false]
            exact granted.insertBag legal rfl itemID _

/-- The loop grants only legal rows when every number is legal. -/
theorem Granted.getItems (items : List ItemList) (granted : Granted start svc lic)
    (legal : ∀ item ∈ items, LegalNum item.num) :
    Granted start (BagSvc.getItems tables roleID items svc lic).1
      (BagSvc.getItems tables roleID items svc lic).2 := by
  induction items generalizing svc lic with
  | nil => exact granted
  | cons item items ih =>
      exact ih (granted.getItem (legal item List.mem_cons_self) item.itemID) fun item member =>
        legal item (List.mem_cons_of_mem _ member)

theorem Legal.roleGetItem (legal : svc.Legal) {items : List ItemList}
    (numbers : ∀ item ∈ items, LegalNum item.num) :
    Granted svc (svc.roleGetItem tables roleID items).2.1
      (svc.roleGetItem tables roleID items).2.2 := by
  unfold BagSvc.roleGetItem
  split
  · exact legal.granted []
  · exact (legal.granted []).getItems items numbers

/-- A composition only takes rows away. -/
theorem Legal.dropItems (legal : svc.Legal) (items : List ItemList) :
    Granted svc (svc.dropItems roleID items).2 [] := by
  unfold BagSvc.dropItems
  split
  · exact legal.granted []
  · exact legal.granted []
  · have deleted (cells : List UInt16) : Granted svc (svc.deleteCells roleID cells) [] :=
      ⟨legal.deleteCells_accounted _ _, fun row member => .inl (List.mem_of_mem_filter member)⟩
    unfold BagSvc.deleteEntities
    split_ifs <;> exact (deleted _).of_eq rfl rfl

theorem Legal.compiteUse (legal : svc.Legal) (itemID : UInt32) :
    Granted svc (svc.compiteUse tables roleID itemID).2 [] := by
  unfold BagSvc.compiteUse
  split
  · exact legal.granted []
  · dsimp only
    split
    · exact legal.dropItems _
    · exact legal.dropItems _

theorem Legal.useItemToHpMp (legal : svc.Legal) (itemID cdTime now : UInt32) :
    Granted svc (svc.useItemToHpMp tables roleID itemID cdTime now).2 [] := by
  unfold BagSvc.useItemToHpMp
  dsimp only
  split_ifs <;> exact (legal.granted []).of_eq rfl rfl

theorem Legal.useVIPItem (legal : svc.Legal) (itemID : UInt32) (vip : UInt8) :
    Granted svc (svc.useVIPItem tables roleID itemID vip).2 [] := by
  unfold BagSvc.useVIPItem
  split_ifs <;> exact (legal.granted []).of_eq rfl rfl

/-- The contents of the gift are what the table lists. -/
theorem useGiftBag_num {itemID : UInt32} {items : List ItemList}
    (found : useGiftBag tables itemID = some items)
    (legal : ∀ row ∈ tables.giftItemBag, row.itemID = itemID → LegalNum row.num.toUInt16) :
    ∀ item ∈ items, LegalNum item.num := by
  intro item member
  unfold useGiftBag at found
  split at found
  case h_1 => simp at found
  case h_2 row rest matching =>
    obtain rfl := Option.some.inj found
    obtain ⟨part, inGift, rfl⟩ := List.mem_map.mp member
    rw [← matching] at inGift
    obtain ⟨listed, named⟩ := List.mem_filter.mp inGift
    exact legal part listed (of_decide_eq_true named)

/-- The use of an item grants only what it reports when its gift has legal numbers. -/
theorem Legal.useItemExcludeEquip (legal : svc.Legal) {itemType : UInt16} {itemId : UInt32}
    (gift : itemType = 9 →
      ∀ row ∈ tables.giftItemBag, row.itemID = itemId → LegalNum row.num.toUInt16)
    (roleID cdTime now : UInt32) :
    Granted svc (svc.useItemExcludeEquip tables roleID itemType cdTime itemId now).2.1
      (svc.useItemExcludeEquip tables roleID itemType cdTime itemId now).2.2 := by
  unfold BagSvc.useItemExcludeEquip
  by_cases potion : itemType = 1
  · rw [if_pos potion]
    split
    · exact (legal.granted []).of_eq rfl rfl
    · exact legal.useItemToHpMp itemId cdTime now
  rw [if_neg potion]
  by_cases composite : itemType = 3
  · rw [if_pos composite]
    dsimp only
    split
    · exact (legal.compiteUse itemId).getItem (by decide) _
    · exact legal.compiteUse itemId
  rw [if_neg composite]
  by_cases present : itemType = 9
  · rw [if_pos present]
    split
    case h_1 items found => exact legal.roleGetItem (useGiftBag_num found (gift present))
    case h_2 => exact legal.granted []
  rw [if_neg present]
  by_cases vip : itemType = 12
  · rw [if_pos vip]
    exact legal.useVIPItem itemId _
  rw [if_neg vip]
  split
  · exact legal.granted []
  · exact legal.granted []

end AppSvr.MainServer.BagSvc
