/-
This file proves which requests keep the stacks of every bag legal.
-/

import AppSvr.Proof.MainServer.Purchases
import AppSvr.Proof.MainServer.StackMerge

namespace AppSvr.MainServer.BagSvc

open TransitionSystem

variable {Other : Type*} {start svc next : BagSvc Other} {tables : ItemTables} {roleID : UInt32}
  {celIndex : UInt16} {row : DBBagItem} {lic : List ItemCell}

/-- A row that no grant has joined is still the only one that can lie in its cell. -/
theorem Granted.selectCell (granted : Granted svc next lic) (alone : svc.Alone roleID row.cellIndex)
    (member : row ∈ svc.selectCell roleID row.cellIndex)
    (outside : ∀ cell ∈ lic, cell.celIndex ≠ row.cellIndex) :
    ∀ found ∈ next.selectCell roleID row.cellIndex, found = row := by
  intro found inCell
  obtain ⟨inBag, owned, placed⟩ := mem_selectCell.mp inCell
  rcases granted.rows found inBag with old | new
  · have only := alone.selectCell_eq member
    have inOld : found ∈ svc.selectCell roleID row.cellIndex :=
      mem_selectCell.mpr ⟨old, owned, placed⟩
    rw [only] at inOld
    exact List.mem_singleton.mp inOld
  · obtain ⟨cell, reported, same⟩ := List.mem_map.mp new
    exact absurd (same.trans placed) (outside cell reported)

/-- Taking pieces out of the used row gives nothing to anybody. -/
theorem Granted.updateNum (granted : Granted svc next lic) (alone : svc.Alone roleID row.cellIndex)
    (member : row ∈ svc.selectCell roleID row.cellIndex)
    (outside : ∀ cell ∈ lic, cell.celIndex ≠ row.cellIndex) {num : Int} (low : 1 ≤ num)
    (fewer : num ≤ printed row.num) :
    svc.Accounted (next.updateNum roleID row.cellIndex num) := by
  apply granted.accounted.trans
  apply granted.accounted.legal.updateNum_accounted low
  intro found inCell
  rwa [granted.selectCell alone member outside found inCell]

/-- The used row lies alone in its cell, its gift has legal numbers, and nothing that the use grants
is put into its cell. -/
def UsedApart (tables : ItemTables) (svc : BagSvc Other) (roleID now : UInt32) (row : DBBagItem) :
    Prop :=
  svc.Alone roleID row.cellIndex ∧
    (row.itemType = 9 →
      ∀ part ∈ tables.giftItemBag, part.itemID = row.itemID → LegalNum part.num.toUInt16) ∧
    ∀ cell ∈ (svc.useItemExcludeEquip tables roleID row.itemType
        ((tables.item row.itemID).getD .null).cdTime row.itemID now).2.2,
      cell.celIndex ≠ row.cellIndex

instance (tables : ItemTables) (svc : BagSvc Other) (roleID now : UInt32) (row : DBBagItem) :
    Decidable (UsedApart tables svc roleID now row) :=
  inferInstanceAs (Decidable (_ ∧ _ ∧ _))

theorem Legal.processUseItem (legal : svc.Legal) (celIndex : UInt16) (now : UInt32)
    (apart : ∀ row ∈ (svc.selectCell roleID celIndex).head?, UsedApart tables svc roleID now row) :
    svc.Accounted (svc.processUseItem tables roleID celIndex now).2 := by
  unfold BagSvc.processUseItem
  cases first : (svc.selectCell roleID celIndex).head? with
  | none => exact legal.accounted_refl
  | some row =>
      have member := List.mem_of_head? first
      obtain ⟨inBag, _, rfl⟩ := mem_selectCell.mp member
      obtain ⟨alone, gift, outside⟩ := apart row (Option.mem_def.mpr first)
      have granted := legal.useItemExcludeEquip gift roleID
        ((tables.item row.itemID).getD .null).cdTime now
      have numbered := (legal row inBag).printed_eq
      have positive := (legal row inBag).1
      dsimp only
      split
      case isTrue => exact legal.accounted_refl
      split
      case isTrue => exact legal.accounted_refl
      split
      case isTrue => exact granted.accounted
      split
      case isTrue =>
        exact granted.accounted.trans (granted.accounted.legal.deleteCells_accounted _ _)
      case isFalse several =>
        have one : (1 : UInt16) ≤ row.num.toUInt16 := by
          rw [UInt16.le_iff_toNat_le]
          show 1 ≤ row.num.toUInt16.toNat
          omega
        have taken : (row.num.toUInt16 - 1).toNat = row.num.toUInt16.toNat - 1 :=
          UInt16.toNat_sub_of_le _ _ one
        have more : row.num.toUInt16.toNat ≠ 1 := fun single => several (UInt16.toNat_inj.mp single)
        exact granted.updateNum alone member outside (by omega) (by omega)

/-- Wearing a piece of equipment only takes its row away. -/
theorem Legal.avatarUseItem (legal : svc.Legal) (itemID entityID equipPos : UInt32)
    (celIndex : UInt16) :
    svc.Accounted (svc.avatarUseItem roleID itemID entityID equipPos celIndex).2 := by
  unfold BagSvc.avatarUseItem
  split
  case h_1 => exact legal.accounted_refl
  case h_2 =>
    split
    case isTrue => exact legal.accounted_refl
    case isFalse =>
      have worn := legal.deleteCells_accounted roleID [celIndex]
      exact worn.trans (worn.legal.accounted_of_eq rfl rfl)

theorem Legal.processUseItemFromItemID (legal : svc.Legal) (itemId now : UInt32)
    (apart : ∀ row ∈ (svc.bag.filter fun row => row.roleID = roleID ∧ row.itemID = itemId).head?,
      row.itemType ≠ 2 → UsedApart tables svc roleID now row) :
    svc.Accounted (svc.processUseItemFromItemID tables roleID itemId now).2 := by
  unfold BagSvc.processUseItemFromItemID
  cases first : (svc.bag.filter fun row => row.roleID = roleID ∧ row.itemID = itemId).head? with
  | none => exact legal.accounted_refl
  | some row =>
      obtain ⟨inBag, selected⟩ := List.mem_filter.mp (List.mem_of_head? first)
      obtain ⟨owned, rfl⟩ := of_decide_eq_true selected
      have member : row ∈ svc.selectCell roleID row.cellIndex :=
        mem_selectCell.mpr ⟨inBag, owned, rfl⟩
      dsimp only
      split
      case isTrue => exact legal.accounted_refl
      split
      case isTrue => exact legal.accounted_refl
      split
      case isTrue => exact legal.avatarUseItem _ _ _ _
      case isFalse other =>
        obtain ⟨alone, gift, outside⟩ := apart row (Option.mem_def.mpr first) other
        have granted := legal.useItemExcludeEquip gift roleID
          ((tables.item row.itemID).getD .null).cdTime now
        split
        case isTrue => exact granted.accounted
        split
        case isTrue =>
          exact granted.accounted.trans (granted.accounted.legal.deleteCells_accounted _ _)
        case isFalse several =>
          exact granted.updateNum alone member outside (by omega) (by omega)

/-- The row that a request reads can be reduced in its place. -/
theorem Legal.reduce (legal : svc.Legal) (alone : svc.Alone roleID celIndex)
    (member : row ∈ svc.selectCell roleID celIndex) {num : Int} (low : 1 ≤ num)
    (fewer : num ≤ printed row.num) : svc.Accounted (svc.updateNum roleID celIndex num) := by
  apply legal.updateNum_accounted low
  intro found inCell
  rw [alone.selectCell_eq member] at inCell
  rwa [List.mem_singleton.mp inCell]

theorem Legal.processUseRune [DecidableEq Other] (legal : svc.Legal) (celIndex count : UInt16)
    (enough : ∀ row ∈ (svc.selectCell roleID celIndex).head?, row.itemType = 10 →
      svc.Alone roleID celIndex ∧ count ≤ row.num.toUInt16) :
    svc.Accounted (svc.processUseRune roleID celIndex count).2 := by
  unfold BagSvc.processUseRune
  cases first : (svc.selectCell roleID celIndex).head? with
  | none => exact legal.accounted_refl
  | some row =>
      have member := List.mem_of_head? first
      have numbered := (legal row (mem_selectCell.mp member).1).printed_eq
      dsimp only
      split
      case isTrue => exact legal.accounted_refl
      case isFalse rune =>
        obtain ⟨alone, within⟩ := enough row (Option.mem_def.mpr first) (not_not.mp rune)
        have used : svc.Accounted { svc with runes := svc.runes.useRune roleID row.itemID.toNat } :=
          legal.accounted_of_eq rfl rfl
        rw [UInt16.le_iff_toNat_le] at within
        split
        case isTrue => exact used.trans (used.legal.deleteCells_accounted _ _)
        case isFalse several =>
          exact used.trans (used.legal.reduce alone member (by omega) (by omega))

theorem Legal.sellProceeds (legal : svc.Legal) (itemID : UInt32) (num : UInt16) :
    svc.Accounted (svc.sellProceeds tables roleID itemID num).2 := by
  unfold BagSvc.sellProceeds
  split
  · exact legal.accounted_refl
  · exact legal.accounted_of_eq rfl rfl

theorem Legal.processSellItem (legal : svc.Legal) (celIndex num : UInt16) (sellOption : UInt8)
    (alone : svc.Alone roleID celIndex) :
    svc.Accounted (svc.processSellItem tables roleID celIndex num sellOption).2 := by
  have deleted := legal.deleteCells_accounted roleID [celIndex]
  unfold BagSvc.processSellItem
  split
  case isTrue => exact legal.accounted_refl
  split
  case isTrue => exact legal.accounted_refl
  cases first : (svc.selectCell roleID celIndex).head? with
  | none => exact legal.accounted_refl
  | some row =>
      have member := List.mem_of_head? first
      have numbered := (legal row (mem_selectCell.mp member).1).printed_eq
      dsimp only
      split
      case isTrue =>
        split
        case isTrue => exact deleted.trans (deleted.legal.sellProceeds _ _)
        split
        case isTrue fewer =>
          have rest : (row.num.toUInt16 - num).toNat = row.num.toUInt16.toNat - num.toNat :=
            UInt16.toNat_sub_of_le _ _ (UInt16.le_of_lt fewer)
          rw [UInt16.lt_iff_toNat_lt] at fewer
          have reduced : svc.Accounted
              (svc.updateNum roleID celIndex (row.num.toUInt16 - num).toNat) :=
            legal.reduce alone member (by omega) (by omega)
          exact reduced.trans (reduced.legal.sellProceeds _ _)
        case isFalse => exact legal.accounted_refl
      case isFalse =>
        have removed : svc.Accounted { svc.deleteCells roleID [celIndex] with
            bindStatus := Function.update svc.bindStatus row.entityID none } :=
          deleted.trans (deleted.legal.accounted_of_eq rfl rfl)
        exact removed.trans (removed.legal.sellProceeds _ _)

/-- A purchase is charged. A used row meets `UsedApart`. No more runes are used than the row has.
A row that is sold or merged lies alone in its cell. -/
def Proper (tables : ItemTables) (svc : BagSvc Other) (packet : BagPacket) : Prop :=
  match packet.request with
  | .buyItem itemID _ => ∀ item ∈ tables.item itemID, Charged item
  | .useItem celIndex => ∀ row ∈ (svc.selectCell packet.roleID celIndex).head?,
      UsedApart tables svc packet.roleID packet.now row
  | .useItemFromItemID itemId =>
      ∀ row ∈ (svc.bag.filter fun row =>
        row.roleID = packet.roleID ∧ row.itemID = itemId).head?,
        row.itemType ≠ 2 → UsedApart tables svc packet.roleID packet.now row
  | .useRune celIndex count => ∀ row ∈ (svc.selectCell packet.roleID celIndex).head?,
      row.itemType = 10 → svc.Alone packet.roleID celIndex ∧ count ≤ row.num.toUInt16
  | .sellItem celIndex _ _ => svc.Alone packet.roleID celIndex
  | .sortItem => StacksAlone tables svc packet.roleID

instance (tables : ItemTables) (svc : BagSvc Other) :
    (packet : BagPacket) → Decidable (Proper tables svc packet)
  | ⟨_, _, .buyItem itemID _⟩ =>
      inferInstanceAs (Decidable (∀ item ∈ tables.item itemID, Charged item))
  | ⟨roleID, now, .useItem celIndex⟩ =>
      inferInstanceAs (Decidable (∀ row ∈ (svc.selectCell roleID celIndex).head?,
        UsedApart tables svc roleID now row))
  | ⟨roleID, now, .useItemFromItemID itemId⟩ =>
      inferInstanceAs (Decidable (∀ row ∈ (svc.bag.filter fun row =>
        row.roleID = roleID ∧ row.itemID = itemId).head?,
        row.itemType ≠ 2 → UsedApart tables svc roleID now row))
  | ⟨roleID, _, .useRune celIndex _⟩ =>
      inferInstanceAs (Decidable (∀ row ∈ (svc.selectCell roleID celIndex).head?, _ → _ ∧ _))
  | ⟨roleID, _, .sellItem celIndex _ _⟩ => inferInstanceAs (Decidable (svc.Alone roleID celIndex))
  | ⟨roleID, _, .sortItem⟩ => inferInstanceAs (Decidable (StacksAlone tables svc roleID))

/-- A proper request keeps the stacks legal and accounts for every new piece. -/
theorem step_accounted [DecidableEq Other] {packet : BagPacket} (legal : svc.Legal)
    (proper : Proper tables svc packet) (enabled : svc.step tables packet = some next) :
    svc.Accounted next := by
  obtain rfl := Option.some.inj enabled
  obtain ⟨roleID, now, request⟩ := packet
  cases request with
  | buyItem itemID num => exact legal.processBuyItem itemID num proper
  | useItem celIndex => exact legal.processUseItem celIndex now proper
  | useItemFromItemID itemId => exact legal.processUseItemFromItemID itemId now proper
  | useRune celIndex count => exact legal.processUseRune celIndex count proper
  | sellItem celIndex num sellOption => exact legal.processSellItem celIndex num sellOption proper
  | sortItem => exact legal.processSortItem proper

/-- After proper requests every cell holds between one and ninety-nine pieces, and a role has no
more new pieces of an item than it has paid for or been granted. -/
theorem run_stacksLegal [DecidableEq Other] {history : History (BagSvc Other) BagPacket}
    (run : Run (step tables) (Proper tables) start history svc) (legal : start.Legal) :
    svc.Legal ∧ ∀ roleID itemID, svc.total roleID itemID + start.issuedTo roleID itemID ≤
      start.total roleID itemID + svc.issuedTo roleID itemID := by
  have accounted : start.Accounted svc := by
    apply run.invariant (start.Accounted ·) legal.accounted_refl
    intro state packet next before proper enabled
    exact before.trans (step_accounted before.legal proper enabled)
  exact ⟨accounted.legal, accounted.covered⟩

/-- The shop sells potions, and there are tough runes. -/
def shopTables : ItemTables where
  item itemID :=
    if itemID = 2001 then
      some { Item.null with itemType := 5, isStack := 1, costMoneyType := 1, costBuy := 2 }
    else if itemID = 6003 then some { Item.null with itemType := 10, isStack := 1 }
    else none
  itemComposite := []
  giftItemBag := []
  itemBonus := []

/-- Role 1 is online with runes in its first cell. -/
def runeBag (num : UInt32) : BagSvc Empty where
  mapRole roleID := if roleID = 1 then some { ItemRole.new with id := 1 } else none
  bag := [⟨1, 1, 0, 10, 6003, 0, num⟩]
  roleMoney _ := ⟨1000, 0, 0⟩
  equip := []
  bindStatus _ := none
  isVip _ := none
  nextEntityID := 1
  runes := .initial fun _ _ => 0
  issued := []

/-- A role buys potions, uses runes and potions, sells some potions and sorts its bag. -/
theorem shopping_stacksLegal :
    ∃ history final, Run (step shopTables) (Proper shopTables) (runeBag 5) history final ∧
      history.map Prod.snd = [⟨1, 0, .useRune 1 2⟩, ⟨1, 0, .buyItem 2001 150⟩, ⟨1, 0, .useItem 2⟩,
        ⟨1, 0, .useItemFromItemID 2001⟩, ⟨1, 0, .sellItem 3 10 2⟩, ⟨1, 0, .sortItem⟩] ∧
      final.total 1 2001 = 138 ∧ final.Legal ∧
      final.total 1 2001 + 0 ≤ 0 + final.issuedTo 1 2001 := by
  have replayed := run_of_replay (show replay (step shopTables) (runeBag 5)
    [⟨1, 0, .useRune 1 2⟩, ⟨1, 0, .buyItem 2001 150⟩, ⟨1, 0, .useItem 2⟩,
      ⟨1, 0, .useItemFromItemID 2001⟩, ⟨1, 0, .sellItem 3 10 2⟩, ⟨1, 0, .sortItem⟩] =
    some _ from rfl)
  have run : Run (step shopTables) (Proper shopTables) _ _ _ := replayed.restrict (by
    simp only [List.forall_mem_cons, List.not_mem_nil, false_imp_iff, implies_true, and_true]
    exact ⟨by decide, by decide, by decide, by decide, by decide, by decide⟩)
  obtain ⟨legal, covered⟩ := run_stacksLegal run (by decide)
  exact ⟨_, _, run, rfl, by decide, legal, covered 1 2001⟩

/-- One rune used twice leaves minus one rune. -/
theorem overusedRune_not_stacksLegal :
    ¬ ∀ (tables : ItemTables) (start svc : BagSvc Empty)
        (history : History (BagSvc Empty) BagPacket),
      Run (step tables) anyEvent start history svc → start.Legal →
        svc.Legal ∧ ∀ roleID itemID, svc.total roleID itemID + start.issuedTo roleID itemID ≤
          start.total roleID itemID + svc.issuedTo roleID itemID := by
  intro claimed
  have run := run_of_replay (show replay (step shopTables) (runeBag 1)
    [⟨1, 0, .useRune 1 2⟩] = some _ from rfl)
  have legal := (claimed shopTables _ _ _ run (by decide)).1
  exact absurd legal (by decide)

end AppSvr.MainServer.BagSvc
