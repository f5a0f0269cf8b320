/-
This file proves what a gain of experience does to a pet, and that the maxima bound the pets of all
winners.
-/

import AppSvr.Construction.MainServer.PetSvc
import Mathlib.Tactic.Linarith

namespace AppSvr.MainServer

/-- The rows of the table give a pet at least three points. -/
structure PetLevelDesc where
  maxExp : Int → List Int
  large : ∀ level, ∀ row ∈ maxExp level, 9 ≤ row

namespace PetExpRow

variable {levelDesc : PetLevelDesc} {pet after : PetExpRow} {expAdd maxLevel : Int}

/-- The gain fills a pet of the level of its owner. -/
def Capped (pet : PetExpRow) (expAdd maxLevel : Int) : Prop :=
  pet.maxExp ≤ pet.exp + expAdd ∧ maxLevel ≤ pet.level

/-- The gain fills a pet whose next level has no maximum. -/
def Unlisted (levelDesc : PetLevelDesc) (pet : PetExpRow) (expAdd maxLevel : Int) : Prop :=
  pet.maxExp ≤ pet.exp + expAdd ∧ pet.level < maxLevel ∧ levelDesc.maxExp (pet.level + 2) = []

/-- The five attributes rise with the level, and stay with it. -/
structure AttributesFollow (pet after : PetExpRow) : Prop where
  rise : after.level = pet.level + 1 →
    pet.strength < after.strength ∧ pet.intelligence < after.intelligence ∧
      pet.agility < after.agility ∧ pet.attackPowerHigh < after.attackPowerHigh ∧
      pet.attackPowerLow < after.attackPowerLow
  stay : after.level = pet.level →
    after.strength = pet.strength ∧ after.intelligence = pet.intelligence ∧
      after.agility = pet.agility ∧ after.attackPowerHigh = pet.attackPowerHigh ∧
      after.attackPowerLow = pet.attackPowerLow

/-- A pet grows by whole gains, without exception. -/
structure GrowsFully (pet : PetExpRow) (expAdd maxLevel : Int) (after : PetExpRow) : Prop where
  nonneg : 0 ≤ after.exp
  below : after.exp < after.maxExp
  bounded : after.level ≤ max pet.level maxLevel
  step : after.level = pet.level ∨ after.level = pet.level + 1
  attributes : pet.AttributesFollow after
  kept : after.level = pet.level → pet.exp ≤ after.exp
  added : after.level = pet.level → ¬ pet.Capped expAdd maxLevel → after.exp = pet.exp + expAdd

/-- A capped pet gets two points less than its maximum, and an unlisted one stays as it is. -/
structure Grows (levelDesc : PetLevelDesc) (pet : PetExpRow) (expAdd maxLevel : Int)
    (after : PetExpRow) : Prop where
  nonneg : 0 ≤ after.exp ∨ pet.Capped expAdd maxLevel ∧ pet.maxExp = 1
  below : after.exp < after.maxExp
  bounded : after.level ≤ max pet.level maxLevel
  step : after.level = pet.level ∨ after.level = pet.level + 1
  attributes : pet.AttributesFollow after
  kept : after.level = pet.level →
    pet.exp ≤ after.exp ∨ pet.Capped expAdd maxLevel ∧ pet.exp = pet.maxExp - 1
  capped : pet.Capped expAdd maxLevel → after = { pet with exp := pet.maxExp - 2 }
  unlisted : pet.Unlisted levelDesc expAdd maxLevel → after = pet
  added : after.level = pet.level → ¬ pet.Capped expAdd maxLevel →
    ¬ pet.Unlisted levelDesc expAdd maxLevel → after.exp = pet.exp + expAdd

/-- The row after the request. -/
def grown (levelDesc : PetLevelDesc) (pet : PetExpRow) (expAdd maxLevel : Int) : PetExpRow :=
  (pet.petAddExp levelDesc.maxExp expAdd maxLevel).getD pet

theorem attributesFollow_levelUp (pet : PetExpRow) (expAdd : Int) (rows : List Int) :
    pet.AttributesFollow (pet.levelUp expAdd rows) where
  rise _ := by simp [levelUp]
  stay same := by
    change pet.level + 1 = pet.level at same
    omega

/-- A change of the experience alone moves no attribute. -/
theorem attributesFollow_exp (pet : PetExpRow) (exp : Int) :
    pet.AttributesFollow { pet with exp := exp } where
  rise raised := by
    change pet.level = pet.level + 1 at raised
    omega
  stay _ := ⟨rfl, rfl, rfl, rfl, rfl⟩

theorem three_le_nextMaxExp {row : Int} {rows : List Int} (pet : PetExpRow)
    (large : ∀ value ∈ row :: rows, 9 ≤ value) : 3 ≤ pet.nextMaxExp (row :: rows) := by
  have third : ∀ value : Int, 9 ≤ value → 3 ≤ value.tdiv 3 := by
    intro value enough
    rw [Int.tdiv_eq_ediv_of_nonneg (by omega)]
    omega
  have kept : ∀ (values : List Int) (start : Int), 3 ≤ start → (∀ value ∈ values, 9 ≤ value) →
      3 ≤ values.foldl (fun _ maxExp => maxExp.tdiv 3) start := by
    intro values
    induction values with
    | nil => exact fun _ enough _ => enough
    | cons value values ih =>
        intro _ _ all
        exact ih _ (third value (all value List.mem_cons_self))
          fun later member => all later (List.mem_cons_of_mem value member)
  exact kept rows _ (third row (large row List.mem_cons_self))
    fun value member => large value (List.mem_cons_of_mem row member)

theorem grown_of_capped (capped : pet.Capped expAdd maxLevel) :
    pet.grown levelDesc expAdd maxLevel = { pet with exp := pet.maxExp - 2 } := by
  have top : ¬ pet.level + 1 ≤ maxLevel := by
    have := capped.2
    omega
  rw [grown, petAddExp, if_pos capped.1, if_neg top]
  rfl

theorem grown_of_unlisted (unlisted : pet.Unlisted levelDesc expAdd maxLevel) :
    pet.grown levelDesc expAdd maxLevel = pet := by
  obtain ⟨full, lower, missing⟩ := unlisted
  have place : pet.level + 1 + 1 = pet.level + 2 := by omega
  rw [grown, petAddExp, if_pos full, if_pos (by omega), place, missing]
  rfl

theorem grown_of_listed {row : Int} {rows : List Int} (full : pet.maxExp ≤ pet.exp + expAdd)
    (lower : pet.level < maxLevel) (listed : levelDesc.maxExp (pet.level + 2) = row :: rows) :
    pet.grown levelDesc expAdd maxLevel = pet.levelUp expAdd (row :: rows) := by
  have place : pet.level + 1 + 1 = pet.level + 2 := by omega
  rw [grown, petAddExp, if_pos full, if_pos (by omega), place, listed]
  rfl

theorem grown_of_room (room : pet.exp + expAdd < pet.maxExp) :
    pet.grown levelDesc expAdd maxLevel = { pet with exp := pet.exp + expAdd } := by
  rw [grown, petAddExp, if_neg (by omega)]
  rfl

theorem grows_of_listed {row : Int} {rows : List Int} (full : pet.maxExp ≤ pet.exp + expAdd)
    (lower : pet.level < maxLevel) (listed : levelDesc.maxExp (pet.level + 2) = row :: rows) :
    Grows levelDesc pet expAdd maxLevel (pet.levelUp expAdd (row :: rows)) := by
  have three : 3 ≤ pet.nextMaxExp (row :: rows) :=
    three_le_nextMaxExp pet (listed ▸ levelDesc.large (pet.level + 2))
  have raised : (pet.levelUp expAdd (row :: rows)).level ≠ pet.level := by
    change pet.level + 1 ≠ pet.level
    omega
  exact {
    nonneg := by
      left
      change 0 ≤ if pet.nextMaxExp (row :: rows) ≤ pet.exp + expAdd - pet.maxExp then
        pet.nextMaxExp (row :: rows) - 2 else pet.exp + expAdd - pet.maxExp
      split <;> omega
    below := by
      change (if pet.nextMaxExp (row :: rows) ≤ pet.exp + expAdd - pet.maxExp then
        pet.nextMaxExp (row :: rows) - 2 else pet.exp + expAdd - pet.maxExp) <
          pet.nextMaxExp (row :: rows)
      split <;> omega
    bounded := by
      change pet.level + 1 ≤ max pet.level maxLevel
      omega
    step := Or.inr rfl
    attributes := attributesFollow_levelUp pet expAdd (row :: rows)
    kept := fun same => absurd same raised
    capped := fun capped => absurd capped.2 (Int.not_le.mpr lower)
    unlisted := fun missing => by
      have := listed ▸ missing.2.2
      cases this
    added := fun same => absurd same raised }

theorem grows_of_room (nonneg : 0 ≤ pet.exp) (gain : 0 ≤ expAdd)
    (room : pet.exp + expAdd < pet.maxExp) :
    Grows levelDesc pet expAdd maxLevel { pet with exp := pet.exp + expAdd } where
  nonneg := by
    left
    change 0 ≤ pet.exp + expAdd
    omega
  below := room
  bounded := Int.le_max_left pet.level maxLevel
  step := Or.inl rfl
  attributes := attributesFollow_exp pet _
  kept _ := by
    left
    change pet.exp ≤ pet.exp + expAdd
    omega
  capped capped := absurd capped.1 (Int.not_le.mpr room)
  unlisted missing := absurd missing.1 (Int.not_le.mpr room)
  added _ _ _ := rfl

section Growth

variable (nonneg : 0 ≤ pet.exp) (below : pet.exp < pet.maxExp)
include nonneg below

theorem grows_of_capped (capped : pet.Capped expAdd maxLevel) :
    Grows levelDesc pet expAdd maxLevel { pet with exp := pet.maxExp - 2 } where
  nonneg := by
    by_cases single : pet.maxExp = 1
    · exact Or.inr ⟨capped, single⟩
    · left
      change 0 ≤ pet.maxExp - 2
      omega
  below := by
    change pet.maxExp - 2 < pet.maxExp
    omega
  bounded := Int.le_max_left pet.level maxLevel
  step := Or.inl rfl
  attributes := attributesFollow_exp pet _
  kept _ := by
    by_cases last : pet.exp = pet.maxExp - 1
    · exact Or.inr ⟨capped, last⟩
    · left
      change pet.exp ≤ pet.maxExp - 2
      omega
  capped _ := rfl
  unlisted missing := absurd capped.2 (Int.not_le.mpr missing.2.1)
  added _ room := absurd capped room

theorem grows_of_unlisted (missing : pet.Unlisted levelDesc expAdd maxLevel) :
    Grows levelDesc pet expAdd maxLevel pet where
  nonneg := Or.inl nonneg
  below := below
  bounded := Int.le_max_left pet.level maxLevel
  step := Or.inl rfl
  attributes := attributesFollow_exp pet pet.exp
  kept _ := Or.inl (Int.le_refl pet.exp)
  capped capped := absurd capped.2 (Int.not_le.mpr missing.2.1)
  unlisted _ := rfl
  added _ _ listed := absurd missing listed

/-- The cases are those of the code. -/
theorem grows (gain : 0 ≤ expAdd) (levelDesc : PetLevelDesc) (maxLevel : Int) :
    Grows levelDesc pet expAdd maxLevel (pet.grown levelDesc expAdd maxLevel) := by
  by_cases full : pet.maxExp ≤ pet.exp + expAdd
  · by_cases lower : pet.level < maxLevel
    · cases listed : levelDesc.maxExp (pet.level + 2) with
      | nil =>
          have missing : pet.Unlisted levelDesc expAdd maxLevel := ⟨full, lower, listed⟩
          rw [grown_of_unlisted missing]
          exact grows_of_unlisted nonneg below missing
      | cons row rows =>
          rw [grown_of_listed full lower listed]
          exact grows_of_listed full lower listed
    · have capped : pet.Capped expAdd maxLevel := ⟨full, Int.not_lt.mp lower⟩
      rw [grown_of_capped capped]
      exact grows_of_capped nonneg below capped
  · have room : pet.exp + expAdd < pet.maxExp := Int.not_le.mp full
    rw [grown_of_room room]
    exact grows_of_room nonneg gain room

end Growth

end PetExpRow

section Table

open PetExpRow

variable {levelDesc : PetLevelDesc} {pets : UInt32 → Option PetExpRow} {petID : UInt32}
  {pet : PetExpRow} {expAdd maxLevel : Int}

theorem petAddExp_apply (found : pets petID = some pet) :
    petAddExp levelDesc.maxExp pets petID expAdd maxLevel petID =
      some (pet.grown levelDesc expAdd maxLevel) := by
  rw [petAddExp, found, Option.bind_some]
  cases result : pet.petAddExp levelDesc.maxExp expAdd maxLevel with
  | none => rw [grown, result, Option.getD_none, ← found]
  | some after =>
      rw [grown, result, Option.getD_some]
      exact Function.update_self petID (some after) pets

theorem petAddExp_other {other : UInt32} (different : other ≠ petID) :
    petAddExp levelDesc.maxExp pets petID expAdd maxLevel other = pets other := by
  unfold petAddExp
  cases (pets petID).bind fun pet => pet.petAddExp levelDesc.maxExp expAdd maxLevel with
  | none => rfl
  | some after => exact Function.update_of_ne different (some after) pets

/-- A pet grows within its maximum and the level of its owner, and no other pet changes. -/
theorem petAddExp_grows (levelDesc : PetLevelDesc) (maxLevel : Int)
    (found : pets petID = some pet) (nonneg : 0 ≤ pet.exp) (below : pet.exp < pet.maxExp)
    (gain : 0 ≤ expAdd) :
    (∃ after, petAddExp levelDesc.maxExp pets petID expAdd maxLevel petID = some after ∧
      Grows levelDesc pet expAdd maxLevel after) ∧
    ∀ other ≠ petID, petAddExp levelDesc.maxExp pets petID expAdd maxLevel other = pets other :=
  ⟨⟨_, petAddExp_apply found, grows nonneg below gain levelDesc maxLevel⟩,
    fun _ different => petAddExp_other different⟩

end Table

/-- A pet of the fifth level with nine points of ten. -/
def fullPet : PetExpRow := ⟨5, 9, 10, 1, 1, 1, 2, 2⟩

/-- A pet with a maximum of one point. -/
def hatchling : PetExpRow := ⟨5, 0, 1, 1, 1, 1, 2, 2⟩

/-- The table ends at the sixth level. -/
def sixLevels : PetLevelDesc where
  maxExp level := if level ≤ 6 then [30] else []
  large := by
    intro level row member
    split at member
    · cases List.mem_singleton.mp member
      decide
    · exact absurd member List.not_mem_nil

/-- At the level of the owner a point is lost or the experience falls below zero, and without a row
for the seventh level the gain is dropped. -/
theorem fullPet_not_growsFully :
    (∃ after, petAddExp sixLevels.maxExp (fun _ => some fullPet) 1 5 5 1 = some after ∧
      after.level = fullPet.level ∧ after.exp < fullPet.exp ∧ ¬ fullPet.GrowsFully 5 5 after) ∧
    (∃ after, petAddExp sixLevels.maxExp (fun _ => some hatchling) 1 5 5 1 = some after ∧
      after.exp < 0 ∧ ¬ hatchling.GrowsFully 5 5 after) ∧
    ∃ after, petAddExp sixLevels.maxExp (fun _ => some fullPet) 1 5 6 1 = some after ∧
      after = fullPet ∧ ¬ fullPet.GrowsFully 5 6 after := by
  refine ⟨⟨{ fullPet with exp := 8 }, rfl, rfl, by decide, ?_⟩,
    ⟨{ hatchling with exp := -1 }, rfl, by decide, ?_⟩, ⟨fullPet, rfl, rfl, ?_⟩⟩
  · intro full
    exact absurd (full.kept rfl) (by decide)
  · intro full
    exact absurd full.nonneg (by decide)
  · intro full
    have low : ¬ fullPet.Capped 5 6 := fun capped => absurd capped.2 (by decide)
    exact absurd (full.added rfl low) (by decide)

/-- A gain of thirteen points fills the pet and its next level, whose maximum is ten again. -/
theorem fullPet_grows :
    (∃ after, petAddExp (fun _ => [30]) (fun _ => some fullPet) 1 13 9 1 = some after ∧
      PetExpRow.Grows ⟨fun _ => [30], by simp⟩ fullPet 13 9 after) ∧
    ∀ other ≠ 1, petAddExp (fun _ => [30]) (fun _ => some fullPet) 1 13 9 other = some fullPet :=
  petAddExp_grows ⟨fun _ => [30], by simp⟩ 9 rfl (by decide) (by decide) (by decide)

end AppSvr.MainServer
