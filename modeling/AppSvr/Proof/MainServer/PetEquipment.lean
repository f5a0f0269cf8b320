/-
This file proves when the equipment of the pets keeps the items and the bonuses in order.
-/

import AppSvr.Proof.MainServer.PetBonuses

namespace AppSvr.MainServer

/-- A place without an item is worth nothing. -/
def ItemTables.worth (tables : ItemTables) (numbering : UInt32 → Option BonusAttr)
    (itemID : UInt32) (attr : BonusAttr) : Int :=
  if itemID = 0 then 0 else tables.valueOf numbering itemID attr

namespace PetSvc

open TransitionSystem

variable {Other : Type*}

/-- A row without an item holds no piece. -/
def piece (itemID entityID : UInt32) : Multiset (UInt32 × UInt32) :=
  if itemID = 0 then 0 else {(itemID, entityID)}

section Rows

variable {Weight : Type*} [AddCommMonoid Weight]

/-- A sum over the rows of the bags. -/
def bagSum (svc : PetSvc Other) (weight : DBBagItem → Weight) : Weight :=
  (svc.bag.rows.map weight).sum

/-- A sum over the places of the pets. -/
def equipSum (svc : PetSvc Other) (weight : PetEquip → Weight) : Weight :=
  (svc.petEquip.rows.map weight).sum

variable {svc : PetSvc Other} {item : DBBagItem} {row worn : PetEquip} {cell : UInt32 × UInt16}
  {slot : UInt32 × UInt8}

/-- A cell that is emptied loses the weight of its row. -/
theorem bagSum_deleteCell (weight : DBBagItem → Weight) (found : svc.bag.find cell = some item) :
    (svc.deleteCell cell).bagSum weight + weight item = svc.bagSum weight :=
  KeyedRows.sum_delete weight (KeyedTable.filter_eq_singleton found)

variable (worn) in
/-- A cell that takes a piece back replaces the weight of its row. -/
theorem bagSum_takeBack (weight : DBBagItem → Weight) (found : svc.bag.find cell = some item) :
    (svc.takeBack cell worn).bagSum weight + weight item =
      svc.bagSum weight + weight (takeBackRow worn item) :=
  KeyedRows.sum_update weight (KeyedTable.filter_eq_singleton found) (takeBackRow worn)

theorem bagSum_insert (weight : DBBagItem → Weight) {bag : KeyedTable DBBagItem.cell}
    (inserted : svc.bag.insert item = some bag) :
    (svc.withBag bag).bagSum weight = svc.bagSum weight + weight item := by
  obtain ⟨_, rows⟩ := KeyedTable.insert_eq_some inserted
  change (bag.rows.map weight).sum = _
  rw [rows, List.map_append, List.sum_append, List.map_singleton, List.sum_singleton]
  rfl

/-- A place that is updated replaces the weight of its row. -/
theorem equipSum_update (weight : PetEquip → Weight) (found : svc.petEquip.find slot = some row)
    (itemType : UInt16) (itemID entityID : UInt32) :
    (svc.updatePetEquip slot itemType itemID entityID).equipSum weight + weight row =
      svc.equipSum weight +
        weight { row with itemType := itemType, itemID := itemID, entityID := entityID } :=
  KeyedRows.sum_update weight (KeyedTable.filter_eq_singleton found) _

end Rows

variable (svc : PetSvc Other)

/-- The pieces in the bags of some roles and on some pets. -/
def pieces (roles pets : UInt32 → Prop) [DecidablePred roles]
    [DecidablePred pets] : Multiset (UInt32 × UInt32) :=
  (svc.bagSum fun row => if roles row.roleID then piece row.itemID row.entityID else 0) +
    svc.equipSum fun row => if pets row.petID then piece row.itemID row.entityID else 0

/-- The pairs of all bags and pets. -/
def allPieces : Multiset (UInt32 × UInt32) :=
  svc.pieces (fun _ => True) fun _ => True

/-- The pairs of one role's bag and of its own pets. -/
def ownPieces (roleID : UInt32) : Multiset (UInt32 × UInt32) :=
  svc.pieces (fun owner => owner = roleID) fun petID => svc.pet petID = some roleID

/-- The sum of the values of the pieces that a pet wears. -/
def wornValue (tables : ItemTables) (numbering : UInt32 → Option BonusAttr) (svc : PetSvc Other)
    (petID : UInt32) (attr : BonusAttr) : Int :=
  svc.equipSum fun row =>
    if row.petID = petID then tables.worth numbering row.itemID attr else 0

/-- Every stored bonus is its initial value with the values of the pieces that the pet wears. -/
def Earned (tables : ItemTables) (numbering : UInt32 → Option BonusAttr)
    (initial : UInt32 → BonusAttr → Int) (svc : PetSvc Other) : Prop :=
  ∀ petID row, svc.petBonus petID = some row → ∀ attr,
    printed (row attr) = initial petID attr + svc.wornValue tables numbering petID attr

/-- The pieces stay, each with its role, and the bonuses follow them under both numberings. -/
structure Conserves (tables : ItemTables) (start svc : PetSvc Other) : Prop where
  all : svc.allPieces = start.allPieces
  own : ∀ roleID, svc.ownPieces roleID = start.ownPieces roleID
  pet : ∀ initial, Earned tables petAttr initial start → Earned tables petAttr initial svc
  role : ∀ initial, Earned tables roleAttr initial start → Earned tables roleAttr initial svc

/-- A condition on what the checks of a request find. -/
def OnSuccess {Value : Type*} (checked : Except UInt32 Value) (holds : Value → Prop) : Prop :=
  match checked with
  | .error _ => True
  | .ok found => holds found

instance {Value : Type*} (checked : Except UInt32 Value) (holds : Value → Prop)
    [DecidablePred holds] : Decidable (OnSuccess checked holds) :=
  match checked with
  | .error _ => .isTrue trivial
  | .ok found => inferInstanceAs (Decidable (holds found))

/-- The stored bonuses of a pet take the amounts as they are numbered. -/
def BooksStored (petID : UInt32) (changes : List (UInt32 × Int)) : Prop :=
  match svc.petBonus petID with
  | none => True
  | some row => row .critRate = 0 ∧ Books (fun attr => printed (row attr)) changes

instance (svc : PetSvc Other) (petID : UInt32) (changes : List (UInt32 × Int)) :
    Decidable (svc.BooksStored petID changes) :=
  match stored : svc.petBonus petID with
  | none => .isTrue (by simp [BooksStored, stored])
  | some row => decidable_of_iff
      (row .critRate = 0 ∧ Books (fun attr => printed (row attr)) changes)
      (by simp [BooksStored, stored])

/-- A role puts on only at a place with a row of its own pet, and only the item that is worn there
can be exchanged. It takes off from its own pet, and the entity of a piece with values is known. -/
def Fair (tables : ItemTables) (svc : PetSvc Other) : PetRequest → Prop
  | .equipPutOn roleID (some (petID, celIndex, equipIndex)) =>
      OnSuccess (svc.putOnChecks roleID petID celIndex equipIndex) fun found =>
        svc.pet petID = some roleID ∧ (svc.petEquip.find (petID, equipIndex)).isSome ∧
          found.1.itemID ≠ 0 ∧
          (found.2.2.itemID ≠ 0 → found.2.2.itemID = found.1.itemID) ∧
          svc.BooksStored petID
            ((if found.2.2.itemID ≠ 0 then offAmounts (tables.getPetItemBonus found.2.2.itemID)
              else []) ++ onAmounts (tables.getPetItemBonus found.1.itemID))
  | .equipGetOff roleID (some (petID, equipIndex)) =>
      OnSuccess (svc.getOffChecks roleID petID equipIndex) fun found =>
        svc.pet petID = some roleID ∧
          if svc.entity found.1.entityID = none then
            ∀ row ∈ tables.getPetItemBonus found.1.itemID, row.bonusValue = 0
          else svc.BooksStored petID (offAmounts (tables.getPetItemBonus found.1.itemID))
  | _ => True

instance (tables : ItemTables) (svc : PetSvc Other) (request : PetRequest) :
    Decidable (Fair tables svc request) :=
  match request with
  | .equipPutOn _ (some (_, _, _)) => inferInstanceAs (Decidable (OnSuccess _ fun _ => _ ∧ _))
  | .equipGetOff _ (some (_, _)) =>
      inferInstanceAs (Decidable (OnSuccess _ fun _ => _ ∧ ite _ _ _))
  | .equipPutOn _ none => .isTrue trivial
  | .equipGetOff _ none => .isTrue trivial

section Steps

variable {tables : ItemTables} {svc next : PetSvc Other} {roleID petID : UInt32}
  {celIndex : UInt16} {equipIndex : UInt8} {item : DBBagItem} {bonus : AttrCombatBonus}
  {worn : PetEquip} {bag : KeyedTable DBBagItem.cell}

theorem putOnChecks_ok
    (checked : svc.putOnChecks roleID petID celIndex equipIndex = .ok (item, bonus, worn)) :
    svc.bag.find (roleID, celIndex) = some item ∧ worn = svc.wornAt petID equipIndex ∧
      ∃ row, svc.petBonus petID = some row ∧ bonus = row.db2CacheBonus := by
  rw [putOnChecks] at checked
  split at checked
  · cases checked
  · next found =>
      split at checked
      · cases checked
      · split at checked
        · cases checked
        · next row stored =>
            split at checked
            · cases checked
            · dsimp only at checked
              split at checked
              · cases checked
              · cases checked
                exact ⟨found, rfl, row, stored, rfl⟩

theorem getOffChecks_ok
    (checked : svc.getOffChecks roleID petID equipIndex = .ok (worn, celIndex, bonus, bag)) :
    svc.petEquip.find (petID, equipIndex) = some worn ∧ worn.itemID ≠ 0 ∧
      svc.bag.insert ⟨roleID, celIndex, 1, worn.itemType, worn.itemID, worn.entityID, 1⟩ = some bag ∧
        ∃ row, svc.petBonus petID = some row ∧ bonus = row.db2CacheBonus := by
  rw [getOffChecks] at checked
  split at checked
  · cases checked
  · next found =>
      split at checked
      · cases checked
      · next some =>
          dsimp only at checked
          split at checked
          · cases checked
          · split at checked
            · cases checked
            · next row stored =>
                split at checked
                · cases checked
                · next inserted =>
                    cases checked
                    exact ⟨found, some, inserted, row, stored, rfl⟩

/-- A request exchanges the piece at a place of the role's own pet, and the bonuses with it. -/
structure Exchanges (tables : ItemTables) (svc next : PetSvc Other) (roleID : UInt32)
    (worn placed : PetEquip) : Prop where
  pet : next.pet = svc.pet
  owner : svc.pet worn.petID = some roleID
  same : placed.petID = worn.petID
  pieces : ∀ (roles pets : UInt32 → Prop) [DecidablePred roles] [DecidablePred pets],
    (pets worn.petID ↔ roles roleID) → next.pieces roles pets = svc.pieces roles pets
  equip : ∀ weight : PetEquip → Int,
    next.equipSum weight + weight worn = svc.equipSum weight + weight placed
  others : ∀ petID, petID ≠ worn.petID → next.petBonus petID = svc.petBonus petID
  bonus : ∀ numbering, Numbers numbering → ∀ changed, next.petBonus worn.petID = some changed →
    ∃ row, svc.petBonus worn.petID = some row ∧ ∀ attr,
      printed (changed attr) = printed (row attr) - tables.worth numbering worn.itemID attr +
        tables.worth numbering placed.itemID attr

theorem Exchanges.earned {placed : PetEquip} (exchange : Exchanges tables svc next roleID worn placed)
    {numbering : UInt32 → Option BonusAttr} (numbers : Numbers numbering)
    {initial : UInt32 → BonusAttr → Int} (earned : Earned tables numbering initial svc) :
    Earned tables numbering initial next := by
  intro petID changed stored attr
  have sums := exchange.equip fun row =>
    if row.petID = petID then tables.worth numbering row.itemID attr else 0
  rw [exchange.same] at sums
  by_cases here : worn.petID = petID
  · subst here
    obtain ⟨row, before, value⟩ := exchange.bonus numbering numbers changed stored
    have initially := earned worn.petID row before attr
    rw [if_pos rfl, if_pos rfl] at sums
    rw [value, initially, wornValue, wornValue]
    omega
  · rw [exchange.others petID (Ne.symm here)] at stored
    rw [if_neg here, if_neg here] at sums
    rw [earned petID changed stored attr, wornValue, wornValue]
    omega

theorem Exchanges.conserves {placed : PetEquip}
    (exchange : Exchanges tables svc next roleID worn placed) : Conserves tables svc next where
  all := exchange.pieces _ _ Iff.rfl
  own owner := by
    rw [ownPieces, ownPieces]
    simp only [exchange.pet]
    apply exchange.pieces
    rw [exchange.owner, Option.some_inj]
  pet _ := exchange.earned petAttr_numbers
  role _ := exchange.earned roleAttr_numbers

theorem Conserves.refl (svc : PetSvc Other) : Conserves tables svc svc :=
  ⟨rfl, fun _ => rfl, fun _ => id, fun _ => id⟩

theorem Conserves.trans {start : PetSvc Other} (first : Conserves tables start svc)
    (second : Conserves tables svc next) : Conserves tables start next where
  all := second.all.trans first.all
  own roleID := (second.own roleID).trans (first.own roleID)
  pet initial earned := second.pet initial (first.pet initial earned)
  role initial earned := second.role initial (first.role initial earned)

/-- The bonuses of the pet are booked, and those of the other pets stay. -/
theorem updatePetBonus_booked {row : PetBonus} {changes : List (UInt32 × Int)}
    {booked : AttrCombatBonus}
    (stored : svc.petBonus petID = some row) (books : svc.BooksStored petID changes)
    (result : booked = changes.foldl AttrCombatBonus.book row.db2CacheBonus)
    {numbering : UInt32 → Option BonusAttr} (numbers : Numbers numbering) {changed : PetBonus}
    (after : (svc.updatePetBonus petID booked).petBonus petID = some changed) (attr : BonusAttr) :
    printed (changed attr) = printed (row attr) + (changes.map (credit numbering attr)).sum := by
  rw [BooksStored, stored] at books
  obtain ⟨none, books⟩ := books
  rw [PetBonus.db2CacheBonus_eq none] at result
  have same : changed = booked := by
    simp only [updatePetBonus, Function.update_self, stored, Option.map_some] at after
    exact (Option.some.inj after).symm
  rw [same, result]
  exact AttrCombatBonus.foldl_book numbers (fun _ => rfl) books attr

/-- The place takes the item out of its cell. -/
theorem putOn_fresh (place : svc.petEquip.find (petID, equipIndex) = some worn)
    (found : svc.bag.find (roleID, celIndex) = some item) (empty : worn.itemID = 0)
    (tables : ItemTables) (bonus : AttrCombatBonus) (roles pets : UInt32 → Prop)
    [DecidablePred roles] [DecidablePred pets] (owned : pets petID ↔ roles roleID) :
    (putOn tables svc petID equipIndex item bonus worn).2.pieces roles pets =
      svc.pieces roles pets := by
  have cell := KeyedTable.find_key found
  have slot := KeyedTable.find_key place
  have sameRole : item.roleID = roleID := congrArg Prod.fst cell
  have samePet : worn.petID = petID := congrArg Prod.fst slot
  have bags := bagSum_deleteCell
    (fun row => if roles row.roleID then piece row.itemID row.entityID else 0) found
  have places := equipSum_update
    (fun row => if pets row.petID then piece row.itemID row.entityID else 0) place
    item.itemType.toUInt8.toUInt16 item.itemID item.entityID
  have result : (putOn tables svc petID equipIndex item bonus worn).2.pieces roles pets =
      (svc.deleteCell (roleID, celIndex)).bagSum
          (fun row => if roles row.roleID then piece row.itemID row.entityID else 0) +
        (svc.updatePetEquip (petID, equipIndex) item.itemType.toUInt8.toUInt16 item.itemID
          item.entityID).equipSum
            fun row => if pets row.petID then piece row.itemID row.entityID else 0 := by
    simp only [putOn, ne_eq, empty, not_true_eq_false, if_false, if_true, cell]
    rfl
  have nothing : (if pets worn.petID then piece worn.itemID worn.entityID else 0) = 0 := by
    rw [empty, piece, if_pos rfl, ite_self]
  rw [result, pieces, ← bags]
  simp only [nothing, add_zero] at places
  rw [places, samePet, sameRole, add_assoc]
  simp only [owned]
  ac_rfl

/-- Only a piece of the same item leaves the place for the cell. -/
theorem putOn_swap (place : svc.petEquip.find (petID, equipIndex) = some worn)
    (found : svc.bag.find (roleID, celIndex) = some item) (some : worn.itemID ≠ 0)
    (alike : worn.itemID = item.itemID) (tables : ItemTables) (bonus : AttrCombatBonus)
    (roles pets : UInt32 → Prop) [DecidablePred roles] [DecidablePred pets]
    (owned : pets petID ↔ roles roleID) :
    (putOn tables svc petID equipIndex item bonus worn).2.pieces roles pets =
      svc.pieces roles pets := by
  have cell := KeyedTable.find_key found
  have slot := KeyedTable.find_key place
  have sameRole : item.roleID = roleID := congrArg Prod.fst cell
  have samePet : worn.petID = petID := congrArg Prod.fst slot
  have bags := bagSum_takeBack worn
    (fun row => if roles row.roleID then piece row.itemID row.entityID else 0) found
  have places := equipSum_update
    (fun row => if pets row.petID then piece row.itemID row.entityID else 0) place
    item.itemType.toUInt8.toUInt16 item.itemID item.entityID
  have result : (putOn tables svc petID equipIndex item bonus worn).2.pieces roles pets =
      (svc.takeBack (roleID, celIndex) worn).bagSum
          (fun row => if roles row.roleID then piece row.itemID row.entityID else 0) +
        (svc.updatePetEquip (petID, equipIndex) item.itemType.toUInt8.toUInt16 item.itemID
          item.entityID).equipSum
            fun row => if pets row.petID then piece row.itemID row.entityID else 0 := by
    simp only [putOn, ne_eq, some, not_false_eq_true, if_true, if_false, cell]
    rfl
  simp only [takeBackRow, samePet, sameRole, owned, alike] at bags places
  rw [result, pieces]
  apply add_right_cancel (b := (if roles roleID then piece item.itemID item.entityID else 0) +
    if roles roleID then piece item.itemID worn.entityID else 0)
  rw [add_add_add_comm, bags, places]
  ac_rfl

theorem putOn_fst (tables : ItemTables) (svc : PetSvc Other) (petID : UInt32) (equipIndex : UInt8)
    (item : DBBagItem) (bonus : AttrCombatBonus) (worn : PetEquip) :
    (putOn tables svc petID equipIndex item bonus worn).1 =
      ((if worn.itemID ≠ 0 then offAmounts (tables.getPetItemBonus worn.itemID) else []) ++
        onAmounts (tables.getPetItemBonus item.itemID)).foldl AttrCombatBonus.book bonus := by
  rw [List.foldl_append, ← AttrCombatBonus.getPetBonusin_eq]
  by_cases empty : worn.itemID = 0
  · simp [putOn, empty]
  · simp [putOn, empty, AttrCombatBonus.getPetBonusoff_eq]

theorem putOn_snd (tables : ItemTables) (svc : PetSvc Other) (petID : UInt32) (equipIndex : UInt8)
    (item : DBBagItem) (bonus : AttrCombatBonus) (worn : PetEquip) :
    (putOn tables svc petID equipIndex item bonus worn).2.pet = svc.pet ∧
      (putOn tables svc petID equipIndex item bonus worn).2.petBonus =
        (svc.updatePetBonus petID
          (putOn tables svc petID equipIndex item bonus worn).1).petBonus ∧
      (putOn tables svc petID equipIndex item bonus worn).2.petEquip =
        (svc.updatePetEquip (petID, equipIndex) item.itemType.toUInt8.toUInt16 item.itemID
          item.entityID).petEquip := by
  by_cases empty : worn.itemID = 0
  · simp only [putOn, ne_eq, empty, not_true_eq_false, if_false, if_true]
    exact ⟨rfl, rfl, rfl⟩
  · simp only [putOn, ne_eq, empty, not_false_eq_true, if_false, if_true]
    exact ⟨rfl, rfl, rfl⟩

/-- The amounts of an exchange sum up to the difference of the pieces. -/
theorem exchange_sum (tables : ItemTables) (numbering : UInt32 → Option BonusAttr)
    (attr : BonusAttr) (wornID : UInt32) {itemID : UInt32} (some : itemID ≠ 0) :
    (((if wornID ≠ 0 then offAmounts (tables.getPetItemBonus wornID) else []) ++
      onAmounts (tables.getPetItemBonus itemID)).map (credit numbering attr)).sum =
        tables.worth numbering itemID attr - tables.worth numbering wornID attr := by
  rw [List.map_append, List.sum_append, ItemTables.worth, ItemTables.worth, if_neg some]
  change _ + tables.valueOf numbering itemID attr = _
  by_cases empty : wornID = 0
  · simp [empty]
  · rw [if_pos empty, if_neg empty, offAmounts_sum]
    omega

/-- A fair request puts the item on its own pet. -/
theorem putOn_exchanges (owner : svc.pet petID = some roleID)
    (place : svc.petEquip.find (petID, equipIndex) = some worn)
    (found : svc.bag.find (roleID, celIndex) = some item) (some : item.itemID ≠ 0)
    (alike : worn.itemID ≠ 0 → worn.itemID = item.itemID) {row : PetBonus}
    (stored : svc.petBonus petID = .some row)
    (books : svc.BooksStored petID
      ((if worn.itemID ≠ 0 then offAmounts (tables.getPetItemBonus worn.itemID) else []) ++
        onAmounts (tables.getPetItemBonus item.itemID))) :
    Exchanges tables svc (putOn tables svc petID equipIndex item row.db2CacheBonus worn).2 roleID
      worn { worn with
        itemType := item.itemType.toUInt8.toUInt16
        itemID := item.itemID
        entityID := item.entityID } := by
  have slot : worn.petID = petID := congrArg Prod.fst (KeyedTable.find_key place)
  obtain ⟨pet, petBonus, petEquip⟩ :=
    putOn_snd tables svc petID equipIndex item row.db2CacheBonus worn
  subst slot
  constructor
  · exact pet
  · exact owner
  · rfl
  · intro roles pets _ _ owned
    by_cases empty : worn.itemID = 0
    · exact putOn_fresh place found empty tables _ roles pets owned
    · exact putOn_swap place found empty (alike empty) tables _ roles pets owned
  · intro weight
    rw [equipSum, petEquip]
    exact equipSum_update weight place _ _ _
  · intro other apart
    rw [petBonus]
    exact Function.update_of_ne apart _ _
  · intro numbering numbers changed after
    rw [petBonus] at after
    refine ⟨row, stored, fun attr => ?_⟩
    rw [updatePetBonus_booked stored books (putOn_fst _ _ _ _ _ _ _) numbers after attr,
      exchange_sum tables numbering attr worn.itemID some]
    dsimp only
    omega

/-- The piece leaves the place for a free cell. -/
theorem getOff_pieces (place : svc.petEquip.find (petID, equipIndex) = some worn)
    (inserted : svc.bag.insert
      ⟨roleID, celIndex, 1, worn.itemType, worn.itemID, worn.entityID, 1⟩ = some bag)
    (roles pets : UInt32 → Prop) [DecidablePred roles] [DecidablePred pets]
    (owned : pets petID ↔ roles roleID) :
    ((svc.withBag bag).updatePetEquip (petID, equipIndex) 0 0 0).pieces roles pets =
      svc.pieces roles pets := by
  have samePet : worn.petID = petID := congrArg Prod.fst (KeyedTable.find_key place)
  have bags := bagSum_insert
    (fun row => if roles row.roleID then piece row.itemID row.entityID else 0) inserted
  have places := equipSum_update
    (fun row => if pets row.petID then piece row.itemID row.entityID else 0) place 0 0 0
  have nothing : piece 0 0 = 0 := rfl
  simp only [samePet, owned, nothing, ite_self, add_zero] at bags places
  have result : ((svc.withBag bag).updatePetEquip (petID, equipIndex) 0 0 0).pieces roles pets =
      (svc.withBag bag).bagSum
          (fun row => if roles row.roleID then piece row.itemID row.entityID else 0) +
        (svc.updatePetEquip (petID, equipIndex) 0 0 0).equipSum
          fun row => if pets row.petID then piece row.itemID row.entityID else 0 := rfl
  rw [result, pieces, bags, ← places]
  ac_rfl

/-- The bonuses follow the piece whether they are updated or not. -/
theorem getOff_exchanges (owner : svc.pet petID = some roleID)
    (place : svc.petEquip.find (petID, equipIndex) = some worn)
    (inserted : svc.bag.insert
      ⟨roleID, celIndex, 1, worn.itemType, worn.itemID, worn.entityID, 1⟩ = some bag)
    (petBonus : UInt32 → Option PetBonus)
    (others : ∀ other, other ≠ petID → petBonus other = svc.petBonus other)
    (bonus : ∀ numbering, Numbers numbering → ∀ changed, petBonus petID = some changed →
      ∃ row, svc.petBonus petID = some row ∧ ∀ attr,
        printed (changed attr) = printed (row attr) - tables.worth numbering worn.itemID attr) :
    Exchanges tables svc
      { (svc.withBag bag).updatePetEquip (petID, equipIndex) 0 0 0 with petBonus := petBonus }
      roleID worn { worn with itemType := 0, itemID := 0, entityID := 0 } := by
  have slot : worn.petID = petID := congrArg Prod.fst (KeyedTable.find_key place)
  subst slot
  constructor
  · rfl
  · exact owner
  · rfl
  · intro roles pets _ _ owned
    exact getOff_pieces place inserted roles pets owned
  · intro weight
    exact equipSum_update weight place 0 0 0
  · exact others
  · intro numbering numbers changed after
    obtain ⟨row, stored, value⟩ := bonus numbering numbers changed after
    refine ⟨row, stored, fun attr => ?_⟩
    rw [value, ItemTables.worth, ItemTables.worth, if_pos rfl, Int.add_zero]

/-- A piece without values changes no bonus. -/
theorem worth_eq_zero {itemID : UInt32}
    (nothing : ∀ row ∈ tables.getPetItemBonus itemID, row.bonusValue = 0)
    (numbering : UInt32 → Option BonusAttr) (attr : BonusAttr) :
    tables.worth numbering itemID attr = 0 := by
  rw [ItemTables.worth, ItemTables.valueOf, onAmounts, List.map_map]
  split_ifs
  · rfl
  · apply List.sum_eq_zero
    intro value listed
    obtain ⟨row, member, rfl⟩ := List.mem_map.mp listed
    have zero : printed row.bonusValue = 0 := by rw [nothing row member]; rfl
    simp [credit, zero]

theorem putOn_conserves (fair : Fair tables svc (.equipPutOn roleID body)) :
    Conserves tables svc (svc.processPetEquipPutOn tables roleID body).2 := by
  cases body with
  | none => exact .refl svc
  | some body =>
      obtain ⟨petID, celIndex, equipIndex⟩ := body
      rw [processPetEquipPutOn]
      dsimp only
      cases checked : svc.putOnChecks roleID petID celIndex equipIndex with
      | error code => exact .refl svc
      | ok found =>
          obtain ⟨item, bonus, worn⟩ := found
          rw [Fair, checked] at fair
          obtain ⟨owner, present, some, alike, books⟩ := fair
          obtain ⟨found, sameWorn, row, stored, rfl⟩ := putOnChecks_ok checked
          obtain ⟨place, present⟩ := Option.isSome_iff_exists.mp present
          rw [wornAt, present, Option.getD_some] at sameWorn
          subst sameWorn
          exact (putOn_exchanges owner present found some alike stored books).conserves

theorem getOff_conserves (fair : Fair tables svc (.equipGetOff roleID body)) :
    Conserves tables svc (svc.processPetEquipGetOff tables roleID body).2 := by
  cases body with
  | none => exact .refl svc
  | some body =>
      obtain ⟨petID, equipIndex⟩ := body
      rw [processPetEquipGetOff]
      dsimp only
      cases checked : svc.getOffChecks roleID petID equipIndex with
      | error code => exact .refl svc
      | ok found =>
          obtain ⟨worn, celIndex, bonus, bag⟩ := found
          rw [Fair, checked] at fair
          obtain ⟨owner, fair⟩ := fair
          dsimp only at fair ⊢
          obtain ⟨place, some, inserted, row, stored, rfl⟩ := getOffChecks_ok checked
          cases known : svc.entity worn.entityID with
          | none =>
              rw [if_pos known] at fair
              refine (getOff_exchanges owner place inserted svc.petBonus (fun _ _ => rfl) ?_).conserves
              intro numbering _ changed after
              refine ⟨changed, after, fun attr => ?_⟩
              rw [worth_eq_zero fair, Int.sub_zero]
          | some itemID =>
              rw [if_neg (by simp [known])] at fair
              refine (getOff_exchanges owner place inserted _ ?_ ?_).conserves
              · intro other apart
                exact Function.update_of_ne apart _ _
              · intro numbering numbers changed after
                refine ⟨row, stored, fun attr => ?_⟩
                rw [updatePetBonus_booked stored fair (AttrCombatBonus.getPetBonusoff_eq _ _) numbers
                  after attr, offAmounts_sum, ItemTables.worth, if_neg some]
                omega

/-- A fair request keeps the items and the bonuses in order. -/
theorem step_conserves {request : PetRequest} (fair : Fair tables svc request)
    (stepped : step tables svc request = some next) : Conserves tables svc next := by
  obtain rfl := Option.some.inj stepped
  cases request with
  | equipPutOn roleID body => exact putOn_conserves fair
  | equipGetOff roleID body => exact getOff_conserves fair

/-- Fair requests of any roles conserve the pieces and the bonuses. -/
theorem run_conserves {start : PetSvc Other} {history : History (PetSvc Other) PetRequest}
    (run : Run (step tables) (Fair tables) start history svc) : Conserves tables start svc :=
  run.invariant (Conserves tables start) (.refl start) fun _ _ _ before fair stepped =>
    before.trans (step_conserves fair stepped)

end Steps

/-- A helmet gives thirty points of life. -/
def helmetTables : ItemTables where
  item _ := none
  itemComposite := []
  giftItemBag := []
  itemBonus := [⟨1001, 1, 30⟩]

/-- Role 7 has a helmet in its first cell, and pet 5 has the given places. -/
def helmetBag (petEquip : KeyedTable PetEquip.slot) : PetSvc Empty where
  bagSvc := {
    mapRole := fun _ => none
    bag := [⟨7, 1, 1, 4, 1001, 9, 1⟩]
    roleMoney := fun _ => ⟨0, 0, 0⟩
    equip := []
    bindStatus := fun _ => some 0
    isVip := fun _ => none
    nextEntityID := 10
    runes := .initial fun _ _ => 0
    issued := [] }
  cells := List.nodup_singleton _
  petEquip := petEquip
  petBonus petID := if petID = 5 then some fun _ => 0 else none
  entity entityID := if entityID = 9 then some 1001 else none
  pet petID := if petID = 5 then some 7 else none

/-- The helmet is put on and taken off. -/
theorem helmet_conserves :
    ∃ history svc, Run (step helmetTables) (Fair helmetTables)
        (helmetBag ⟨[⟨5, 1, 0, 0, 0⟩], List.nodup_singleton _⟩) history svc ∧
      history.map Prod.snd = [.equipPutOn 7 (some (5, 1, 1)), .equipGetOff 7 (some (5, 1))] ∧
      (history.map fun entry => (process helmetTables entry.1 entry.2).1.retCode) = [0, 0] ∧
      Conserves helmetTables (helmetBag ⟨[⟨5, 1, 0, 0, 0⟩], List.nodup_singleton _⟩) svc := by
  have replayed := run_of_replay (show replay (step helmetTables)
    (helmetBag ⟨[⟨5, 1, 0, 0, 0⟩], List.nodup_singleton _⟩)
    [.equipPutOn 7 (some (5, 1, 1)), .equipGetOff 7 (some (5, 1))] = some _ from rfl)
  have run : Run (step helmetTables) (Fair helmetTables) _ _ _ := replayed.restrict (by
    simp only [List.forall_mem_cons, List.not_mem_nil, false_imp_iff, implies_true, and_true]
    exact ⟨by decide +kernel, by decide +kernel⟩)
  exact ⟨_, _, run, rfl, rfl, run_conserves run⟩

/-- The pet has no row for the place, and the helmet is gone. -/
theorem helmet_lost :
    ¬ ∀ (tables : ItemTables) (start svc : PetSvc Empty)
        (history : History (PetSvc Empty) PetRequest),
      Run (step tables) anyEvent start history svc →
        ∀ pair, pair ∈ start.allPieces → pair ∈ svc.allPieces := by
  intro claimed
  have run := run_of_replay (show replay (step helmetTables)
    (helmetBag ⟨[], List.nodup_nil⟩) [.equipPutOn 7 (some (5, 1, 1))] = some _ from rfl)
  have kept := claimed helmetTables _ _ _ run (1001, 9) (by decide +kernel)
  exact absurd kept (by decide +kernel)

end PetSvc

end AppSvr.MainServer
