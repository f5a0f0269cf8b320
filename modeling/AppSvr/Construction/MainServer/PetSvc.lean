/-
This file defines the requests that move equipment between a bag and a pet, the bonuses that the
equipment gives, and the experience of the pets of the winners. A statement fails only when it
repeats a key, and the experience stays below the largest integer of thirty-two bits.
-/

import AppSvr.Construction.MainServer.PKSvc
import AppSvr.ToMathlib.KeyedTable

namespace AppSvr.MainServer

/-- These are the fields of `AttrCombatBonus` that table `PetBonus` keeps. -/
inductive BonusAttr where
  | strength
  | intelligence
  | agility
  | movSpeed
  | maxHp
  | maxMp
  | hpRegen
  | mpRegen
  | attackPowerHigh
  | attackPowerLow
  | attackSpeed
  | defence
  | mDefence
  | critRate
  | hitRate
  | dodgeRate
  deriving DecidableEq, Repr

abbrev AttrCombatBonus := BonusAttr → UInt32

namespace AttrCombatBonus

/-- The constructor clears every field. -/
def new : AttrCombatBonus := fun _ => 0

variable (bonus : AttrCombatBonus)

/-- These are the setters `Creature::..Bonus`. The one of the critical rate has no body. -/
def set : BonusAttr → UInt32 → AttrCombatBonus
  | .critRate, _ => bonus
  | attr, input => Function.update bonus attr input

/-- These are the functions `Creature::Add..Bonus`. -/
def add (attr : BonusAttr) (input : Int) : AttrCombatBonus :=
  Function.update bonus attr (addBonus (bonus attr) input)

def addMaxHpBonus := bonus.add .maxHp
def addMaxMpBonus := bonus.add .maxMp
def addHpRegenBonus := bonus.add .hpRegen
def addMpRegenBonus := bonus.add .mpRegen
def addAttackSpeedBonus := bonus.add .attackSpeed
def addDefenceBonus := bonus.add .defence
def addMDefenceBonus := bonus.add .mDefence
def addCritRateBonus := bonus.add .critRate
def addHitRateBonus := bonus.add .hitRate
def addDodgeRateBonus := bonus.add .dodgeRate
def addMoveSpeedBonus := bonus.add .movSpeed
def addStrengthBonus := bonus.add .strength
def addIntelligenceBonus := bonus.add .intelligence
def addAgilityBonus := bonus.add .agility

/-- A pet's number three sets the attack power instead of adding to it. -/
def petBonusFunc (bonusAttrID : UInt32) (num : Int) : AttrCombatBonus :=
  match bonusAttrID.toNat with
  | 1 => bonus.addMaxHpBonus num
  | 2 => bonus.addMaxMpBonus num
  | 3 => bonus.set .attackPowerHigh (UInt32.ofInt num)
  | 4 => bonus.addDefenceBonus num
  | 5 => bonus.addMDefenceBonus num
  | 6 => bonus.addCritRateBonus num
  | 7 => bonus.addStrengthBonus num
  | 8 => bonus.addIntelligenceBonus num
  | 9 => bonus.addAgilityBonus num
  | 10 => bonus.addMoveSpeedBonus num
  | 11 => bonus.addHitRateBonus num
  | 12 => bonus.addDodgeRateBonus num
  | 13 => bonus.addAttackSpeedBonus num
  | 14 => bonus.addHpRegenBonus num
  | 15 => bonus.addMpRegenBonus num
  | _ => bonus

/-- No value is assigned for another number. -/
def petGetNewBonus (l : UInt32) : Option UInt32 :=
  match l.toNat with
  | 1 => some (bonus .maxHp)
  | 2 => some (bonus .maxMp)
  | 3 => some (bonus .attackPowerHigh)
  | 4 => some (bonus .attackPowerLow)
  | 5 => some (bonus .defence)
  | 6 => some (bonus .mDefence)
  | 7 => some (bonus .critRate)
  | 8 => some (bonus .strength)
  | 9 => some (bonus .intelligence)
  | 10 => some (bonus .agility)
  | 11 => some (bonus .movSpeed)
  | 12 => some (bonus .hitRate)
  | 13 => some (bonus .dodgeRate)
  | 14 => some (bonus .attackSpeed)
  | 15 => some (bonus .maxHp)
  | 16 => some (bonus .maxMp)
  | _ => none

/-- The number of a row is unsigned until it is passed on. -/
def getPetBonusoff (rows : List BonusRow) : AttrCombatBonus :=
  rows.foldl (fun bonus row => bonus.petBonusFunc row.bonusAttr (printed (-row.bonusValue))) bonus

def getPetBonusin (rows : List BonusRow) : AttrCombatBonus :=
  rows.foldl (fun bonus row => bonus.petBonusFunc row.bonusAttr (printed row.bonusValue)) bonus

end AttrCombatBonus

/-- A row of table `PetBonus` without its key. The columns keep the bits of the printed numbers. -/
abbrev PetBonus := BonusAttr → UInt32

/-- The columns of `PetBonus` in the order of the statements. -/
def bonusColumns : List BonusAttr :=
  [.strength, .intelligence, .agility, .movSpeed, .maxHp, .maxMp, .hpRegen, .mpRegen,
    .attackPowerHigh, .attackPowerLow, .attackSpeed, .defence, .mDefence, .critRate, .hitRate,
    .dodgeRate]

/-- The columns are read into a new pet. -/
def PetBonus.db2CacheBonus (row : PetBonus) : AttrCombatBonus :=
  bonusColumns.foldl (fun bonus attr => bonus.set attr (row attr)) .new

/-- Every column is written. -/
def AttrCombatBonus.cache2Bonus (bonus : AttrCombatBonus) : PetBonus := bonus

def ItemTables.getPetItemBonus (tables : ItemTables) (itemID : UInt32) : List BonusRow :=
  tables.itemBonus.filter fun row => row.itemID = itemID

/-- A row of table `PetEquip`. -/
structure PetEquip where
  petID : UInt32
  equipIndex : UInt8
  itemType : UInt16
  itemID : UInt32
  entityID : UInt32
  deriving DecidableEq, Repr

/-- A pet has one row for every place. -/
def PetEquip.slot (row : PetEquip) : UInt32 × UInt8 := (row.petID, row.equipIndex)

/-- A role has one row for every cell. -/
def DBBagItem.cell (row : DBBagItem) : UInt32 × UInt16 := (row.roleID, row.cellIndex)

/-- `bagSvc` holds table `Bag`. The other tables are `PetEquip`, `PetBonus` by pet, the column
`ItemID` of `Entity` by entity, and the column `RoleID` of `Pet` by pet, which these requests do not
read. -/
structure PetSvc (Other : Type*) where
  bagSvc : BagSvc Other
  cells : (bagSvc.bag.map DBBagItem.cell).Nodup
  petEquip : KeyedTable PetEquip.slot
  petBonus : UInt32 → Option PetBonus
  entity : UInt32 → Option UInt32
  pet : UInt32 → Option UInt32

/-- The body of a request is missing when it cannot be parsed. -/
inductive PetRequest where
  | equipPutOn (roleID : UInt32) (body : Option (UInt32 × UInt16 × UInt8))
  | equipGetOff (roleID : UInt32) (body : Option (UInt32 × UInt8))
  deriving DecidableEq, Repr

/-- A request is answered with a return code. After a success the role is notified of the changed
cells, of the changed places and of the new bonuses. -/
structure PetAnswer where
  retCode : UInt32
  bag : List ItemCell
  petEquip : List ItemCell
  petBonus : List (UInt32 × UInt32)
  deriving DecidableEq, Repr

def PetAnswer.refused (retCode : UInt32) : PetAnswer := ⟨retCode, [], [], []⟩

/-- Sixteen numbers are read for the notification. -/
def AttrCombatBonus.notified (bonus : AttrCombatBonus) : List (UInt32 × UInt32) :=
  ([1, 2, 3, 4, 5, 6, 7, 8, 9, 10, 11, 12, 13, 14, 15, 16] : List UInt32).filterMap fun l =>
    (bonus.petGetNewBonus l).map fun num => (l, num)

namespace PetSvc

variable {Other : Type*}

def bag (svc : PetSvc Other) : KeyedTable DBBagItem.cell := ⟨svc.bagSvc.bag, svc.cells⟩

variable (svc : PetSvc Other) (tables : ItemTables)

def withBag (bag : KeyedTable DBBagItem.cell) : PetSvc Other :=
  { svc with
    bagSvc := { svc.bagSvc with bag := bag.rows }
    cells := bag.distinct }

/-- This is `update PetEquip set .. where PetID=.. and EquipIndex=..`. A missing row is no error. -/
def updatePetEquip (slot : UInt32 × UInt8) (itemType : UInt16)
    (itemID entityID : UInt32) : PetSvc Other :=
  { svc with
    petEquip := svc.petEquip.change
      (fun row => if row.slot = slot then
        { row with itemType := itemType, itemID := itemID, entityID := entityID } else row)
      fun row => by split_ifs <;> rfl }

/-- This is `update PetBonus set .. where PetID=..`. -/
def updatePetBonus (petID : UInt32) (bonus : AttrCombatBonus) : PetSvc Other :=
  { svc with
    petBonus := Function.update svc.petBonus petID
      ((svc.petBonus petID).map fun _ => bonus.cache2Bonus) }

/-- The statement does not write the column `ItemID`. -/
def takeBackRow (worn : PetEquip) (row : DBBagItem) : DBBagItem :=
  { row with
    cellType := 1
    itemType := worn.itemType.toUInt8.toUInt16
    entityID := worn.entityID
    num := 1 }

/-- This is `update Bag set .. where RoleID=.. and CellIndex=..`. -/
def takeBack (cell : UInt32 × UInt16) (worn : PetEquip) : PetSvc Other :=
  svc.withBag (svc.bag.change
    (fun row => if row.cell = cell then takeBackRow worn row else row) fun row => by
      split_ifs <;> rfl)

/-- This is `delete from Bag where CellIndex=.. and RoleID=..`. -/
def deleteCell (cell : UInt32 × UInt16) : PetSvc Other :=
  svc.withBag (svc.bag.keep fun row => ¬ row.cell = cell)

/-- The locals of the place are zero when it has no row. -/
def wornAt (petID : UInt32) (equipIndex : UInt8) : PetEquip :=
  (svc.petEquip.find (petID, equipIndex)).getD ⟨petID, equipIndex, 0, 0, 0⟩

/-- The checks end with a return code, or with the row of the cell, the loaded bonuses and the piece
at the place. -/
def putOnChecks (roleID petID : UInt32) (celIndex : UInt16)
    (equipIndex : UInt8) : Except UInt32 (DBBagItem × AttrCombatBonus × PetEquip) :=
  match svc.bag.find (roleID, celIndex) with
  | none => .error errSystemDbNoRecord
  | some item =>
      if item.cellType.toUInt8 ≠ 1 then .error errAppOp
      else
        match svc.petBonus petID with
        | none => .error errAppOp
        | some row =>
            if equipIndex ≠ 1 ∧ equipIndex ≠ 2 ∧ equipIndex ≠ 3 ∧ equipIndex ≠ 10 then
              .error errAppData
            else
              let worn := svc.wornAt petID equipIndex
              if worn.itemID ≠ 0 ∧ svc.entity worn.entityID ≠ some worn.itemID then
                .error errSystemDbNoRecord
              else .ok (item, row.db2CacheBonus, worn)

/-- A piece that was worn comes into the cell, whose row is deleted otherwise. The place is updated
whether it has a row or not. -/
def putOn (svc : PetSvc Other) (petID : UInt32) (equipIndex : UInt8)
    (item : DBBagItem) (bonus : AttrCombatBonus) (worn : PetEquip) : AttrCombatBonus × PetSvc Other :=
  let (bonus, svc) :=
    if worn.itemID ≠ 0 then
      (bonus.getPetBonusoff (tables.getPetItemBonus worn.itemID), svc.takeBack item.cell worn)
    else (bonus, svc)
  let svc := svc.updatePetEquip (petID, equipIndex) item.itemType.toUInt8.toUInt16 item.itemID
    item.entityID
  let svc := if worn.itemID = 0 then svc.deleteCell item.cell else svc
  let bonus := bonus.getPetBonusin (tables.getPetItemBonus item.itemID)
  (bonus, svc.updatePetBonus petID bonus)

def processPetEquipPutOn (svc : PetSvc Other) (roleID : UInt32)
    (body : Option (UInt32 × UInt16 × UInt8)) : PetAnswer × PetSvc Other :=
  match body with
  | none => (.refused errSystemSerError, svc)
  | some (petID, celIndex, equipIndex) =>
      match svc.putOnChecks roleID petID celIndex equipIndex with
      | .error code => (.refused code, svc)
      | .ok (item, bonus, worn) =>
          let (bonus, svc) := putOn tables svc petID equipIndex item bonus worn
          (⟨0, if worn.itemID = 0 then [] else [⟨celIndex, worn.itemID, worn.entityID, 1⟩],
            [⟨equipIndex.toUInt16, item.itemID, item.entityID, 1⟩], bonus.notified⟩, svc)

/-- The checks end with a return code, or with the piece, its new cell, the loaded bonuses and the
bag with the piece. -/
def getOffChecks (roleID petID : UInt32) (equipIndex : UInt8) :
    Except UInt32 (PetEquip × UInt16 × AttrCombatBonus × KeyedTable DBBagItem.cell) :=
  match svc.petEquip.find (petID, equipIndex) with
  | none => .error errSystemDbNoRecord
  | some worn =>
      if worn.itemID = 0 then .error errAppData
      else
        let celIndex := svc.bagSvc.ifhascellIndex roleID
        if celIndex = 0 then .error errAppOp
        else
          match svc.petBonus petID with
          | none => .error errAppOp
          | some row =>
              match svc.bag.insert
                ⟨roleID, celIndex, 1, worn.itemType, worn.itemID, worn.entityID, 1⟩ with
              | none => .error errSystemDbNoRecord
              | some bag => .ok (worn, celIndex, row.db2CacheBonus, bag)

/-- The piece has moved when its entity is looked up. -/
def processPetEquipGetOff (svc : PetSvc Other) (roleID : UInt32)
    (body : Option (UInt32 × UInt8)) : PetAnswer × PetSvc Other :=
  match body with
  | none => (.refused errSystemSerError, svc)
  | some (petID, equipIndex) =>
      match svc.getOffChecks roleID petID equipIndex with
      | .error code => (.refused code, svc)
      | .ok (worn, celIndex, bonus, bag) =>
          let moved := (svc.withBag bag).updatePetEquip (petID, equipIndex) 0 0 0
          match svc.entity worn.entityID with
          | none => (.refused errSystemDbNoRecord, moved)
          | some _ =>
              let bonus := bonus.getPetBonusoff (tables.getPetItemBonus worn.itemID)
              (⟨0, [⟨celIndex, worn.itemID, worn.entityID, 1⟩],
                [⟨equipIndex.toUInt16, worn.itemID, worn.entityID, 0⟩], bonus.notified⟩,
                moved.updatePetBonus petID bonus)

def process (svc : PetSvc Other) : PetRequest → PetAnswer × PetSvc Other
  | .equipPutOn roleID body => processPetEquipPutOn tables svc roleID body
  | .equipGetOff roleID body => processPetEquipGetOff tables svc roleID body

/-- Every request is answered. -/
def step (svc : PetSvc Other) (request : PetRequest) : Option (PetSvc Other) :=
  some (process tables svc request).2

end PetSvc

/-- `PetAddExp` reads and writes these columns of a pet. -/
structure PetExpRow where
  level : Int
  exp : Int
  maxExp : Int
  strength : Int
  intelligence : Int
  agility : Int
  attackPowerHigh : Int
  attackPowerLow : Int
  deriving DecidableEq, Repr

namespace PetExpRow

/-- The last selected row gives the next maximum. -/
def nextMaxExp (pet : PetExpRow) (rows : List Int) : Int :=
  rows.foldl (fun _ maxExp => maxExp.tdiv 3) pet.maxExp

def levelUp (pet : PetExpRow) (expAdd : Int) (rows : List Int) : PetExpRow :=
  let exp := pet.exp + expAdd - pet.maxExp
  let maxExp := pet.nextMaxExp rows
  { level := pet.level + 1
    exp := if maxExp ≤ exp then maxExp - 2 else exp
    maxExp := maxExp
    strength := pet.strength + 1
    intelligence := pet.intelligence + 1
    agility := pet.agility + 1
    attackPowerHigh := pet.attackPowerHigh + 2
    attackPowerLow := pet.attackPowerLow + 2 }

/-- The function returns before the update when `LevelDesc` has no row for the level after the next
one. The level of the owner is `maxLevel`, and a pet of this level stays two points below its
maximum. -/
def petAddExp (levelDesc : Int → List Int) (pet : PetExpRow) (expAdd maxLevel : Int) :
    Option PetExpRow :=
  if pet.maxExp ≤ pet.exp + expAdd then
    if pet.level + 1 ≤ maxLevel then
      match levelDesc (pet.level + 1 + 1) with
      | [] => none
      | row :: rows => some (pet.levelUp expAdd (row :: rows))
    else some { pet with exp := pet.maxExp - 2 }
  else some { pet with exp := pet.exp + expAdd }

end PetExpRow

/-- Table `Pet` has at most one row for a pet. -/
def petAddExp (levelDesc : Int → List Int) (pets : UInt32 → Option PetExpRow) (petID : UInt32)
    (expAdd maxLevel : Int) : UInt32 → Option PetExpRow :=
  match (pets petID).bind fun pet => pet.petAddExp levelDesc expAdd maxLevel with
  | none => pets
  | some pet => Function.update pets petID (some pet)

end AppSvr.MainServer
