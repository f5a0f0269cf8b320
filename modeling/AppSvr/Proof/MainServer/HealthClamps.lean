/-
This file proves when the health and the magic of a creature stay between zero and the maximum, and
when a role regenerates up to both maxima.
-/

import AppSvr.Construction.MainServer.Creature

namespace AppSvr.MainServer

/-- The two values that a creature loses and regenerates. -/
inductive Vital where
  | hp
  | mp
  deriving DecidableEq, Repr

section Words

variable (value maximum : UInt32) (input : Int32)

theorem toNat_toUInt32_lt : input.toUInt32.toNat < 2 ^ 32 := input.toUInt32.toNat_lt

theorem toInt_eq_toUInt32 : input.toInt =
    if input.toUInt32.toNat < 2 ^ 31 then (input.toUInt32.toNat : Int)
    else input.toUInt32.toNat - 2 ^ 32 := by
  have signed : input.toInt = input.toBitVec.toInt := rfl
  have unsigned : input.toBitVec.toNat = input.toUInt32.toNat := rfl
  rw [signed, BitVec.toInt_eq_toNat_cond, unsigned]
  split <;> split <;> omega

/-- The sign is the upper half of the unsigned numbers. -/
theorem lt_zero_iff : input < 0 ↔ 2 ^ 31 ≤ input.toUInt32.toNat := by
  have bound := toNat_toUInt32_lt input
  rw [Int32.lt_iff_toInt_lt, toInt_eq_toUInt32 input, Int32.toInt_zero]
  split <;> omega

theorem toNat_abs (negative : 2 ^ 31 ≤ input.toUInt32.toNat) :
    input.abs.toUInt32.toNat = 2 ^ 32 - input.toUInt32.toNat := by
  have bound := toNat_toUInt32_lt input
  have unsigned : input.toBitVec.toNat = input.toUInt32.toNat := rfl
  have sign : input.toBitVec.msb = true := by
    rw [BitVec.msb_eq_decide, decide_eq_true_iff, unsigned]
    exact negative
  have absolute : input.abs.toUInt32.toNat = input.toBitVec.abs.toNat := rfl
  have negated : (-input.toBitVec).toNat = 2 ^ 32 - input.toUInt32.toNat := by
    rw [BitVec.toNat_neg, unsigned]
    omega
  rw [absolute, BitVec.abs, sign]
  exact negated

theorem addAttr_toNat : (addAttr value input).toNat =
    if 2 ^ 31 ≤ input.toUInt32.toNat ∧ value.toNat + input.toUInt32.toNat < 2 ^ 32 then 0
    else (value.toNat + input.toUInt32.toNat) % 2 ^ 32 := by
  have bound := toNat_toUInt32_lt input
  simp only [addAttr, lt_zero_iff, UInt32.lt_iff_toNat_lt]
  by_cases negative : 2 ^ 31 ≤ input.toUInt32.toNat
  · rw [toNat_abs input negative]
    by_cases below : value.toNat + input.toUInt32.toNat < 2 ^ 32
    · rw [if_pos ⟨negative, by omega⟩, if_pos ⟨negative, below⟩]
      rfl
    · rw [if_neg fun both => below (by omega), if_neg fun both => below both.2,
        UInt32.toNat_add]
  · rw [if_neg fun both => negative both.1, if_neg fun both => negative both.1,
      UInt32.toNat_add]

theorem addBelow_toNat : (addBelow value maximum input).toNat =
    if (value.toNat + input.toUInt32.toNat) % 2 ^ 32 < maximum.toNat then
      if 2 ^ 31 ≤ input.toUInt32.toNat ∧ value.toNat + input.toUInt32.toNat < 2 ^ 32 then 0
      else (value.toNat + input.toUInt32.toNat) % 2 ^ 32
    else maximum.toNat := by
  simp only [addBelow, UInt32.lt_iff_toNat_lt, UInt32.toNat_add, ← addAttr_toNat]
  split <;> rfl

/-- A loss beyond the value wraps, and the sum is then above every maximum. -/
theorem addBelow_clamps_iff (filled : value.toNat ≤ maximum.toNat)
    (small : maximum.toNat < 2 ^ 31) :
    ((addBelow value maximum input).toNat : Int) =
        min (max (value.toNat + input.toInt) 0) maximum.toNat ↔
      0 ≤ value.toNat + input.toInt ∨ maximum.toNat = 0 := by
  have bound := toNat_toUInt32_lt input
  rw [addBelow_toNat, toInt_eq_toUInt32 input]
  split <;> split <;> omega

end Words

namespace Creature

variable (creature : Creature)

def vital : Vital → UInt32
  | .hp => creature.attrCombat.hp
  | .mp => creature.attrCombat.mp

/-- The code adds the bonus in thirty-two bits. -/
def maximum : Vital → UInt32
  | .hp => creature.attrCombat.maxHp + creature.attrCombatBonus .maxHp
  | .mp => creature.attrCombat.maxMp + creature.attrCombatBonus .maxMp

/-- The maximum over the integers. -/
def bound : Vital → Nat
  | .hp => creature.attrCombat.maxHp.toNat + (creature.attrCombatBonus .maxHp).toNat
  | .mp => creature.attrCombat.maxMp.toNat + (creature.attrCombatBonus .maxMp).toNat

/-- These are `AddHp` and `AddMp`. -/
def add : Vital → Int32 → Creature
  | .hp => creature.addHp
  | .mp => creature.addMp

theorem maximum_toNat (vital : Vital) :
    (creature.maximum vital).toNat = creature.bound vital % 2 ^ 32 := by
  cases vital <;> exact UInt32.toNat_add _ _

theorem add_vital (vital : Vital) (input : Int32) : (creature.add vital input).vital vital =
      addBelow (creature.vital vital) (creature.maximum vital) input := by
  cases vital <;> rfl

/-- The new value lies between zero and the maximum. -/
def Clamps (vital : Vital) (input : Int32) : Prop :=
  (((creature.add vital input).vital vital).toNat : Int) =
    min (max ((creature.vital vital).toNat + input.toInt) 0) (creature.bound vital)

instance (creature : Creature) (vital : Vital) (input : Int32) :
    Decidable (creature.Clamps vital input) :=
  inferInstanceAs (Decidable (_ = _))

/-- The value is clamped exactly when it does not fall below zero. -/
theorem add_clamps_iff (vital : Vital) (input : Int32)
    (filled : (creature.vital vital).toNat ≤ creature.bound vital)
    (small : creature.bound vital < 2 ^ 31) :
    creature.Clamps vital input ↔
      0 ≤ (creature.vital vital).toNat + input.toInt ∨ creature.bound vital = 0 := by
  have same : (creature.maximum vital).toNat = creature.bound vital := by
    rw [maximum_toNat]
    exact Nat.mod_eq_of_lt (by omega)
  rw [Clamps, add_vital, ← same]
  exact addBelow_clamps_iff _ _ _ (same ▸ filled) (same ▸ small)

/-- A creature with a hundred points of health and fifty points of magic at most. -/
def wounded (hp mp : UInt32) : Creature :=
  ⟨⟨hp, mp, 100, 50, 40, 20⟩, .new⟩

theorem add_clamps_loss : (wounded 30 20).Clamps .hp (-10) :=
  (add_clamps_iff _ .hp (-10) (by decide) (by decide)).mpr (Or.inl (by decide))

/-- A loss of forty points heals a creature that has thirty points left. -/
theorem add_not_clamps :
    ((wounded 30 20).vital .hp).toNat ≤ (wounded 30 20).bound .hp ∧
      (wounded 30 20).bound .hp < 2 ^ 31 ∧ ¬ (wounded 30 20).Clamps .hp (-40) := by
  decide

end Creature

namespace FightingRole

variable (role : FightingRole)

/-- The regeneration in a unit of time. -/
def regen : Vital → UInt32
  | .hp => (role.hpRegen + role.attrCombatBonus .hpRegen) / 10
  | .mp => (role.mpRegen + role.attrCombatBonus .mpRegen) / 10

/-- The amount over the integers. -/
def amount (time1 : Int32) (vital : Vital) : Nat :=
  (role.regen vital).toNat * time1.toInt.toNat

/-- The flag was set on the same health and magic. The maxima may have changed since. -/
structure FlagSetOn (earlier role : FightingRole) : Prop where
  hp : role.attrCombat.hp = earlier.attrCombat.hp
  mp : role.attrCombat.mp = earlier.attrCombat.mp
  flag : role.hpMpfullflag = earlier.setHpMpfullStatue.hpMpfullflag

/-- The flag keeps a value from its addition. -/
def Suppressed : Vital → Prop
  | .hp => role.hpMpfullflag = 1 ∨ role.hpMpfullflag = 3
  | .mp => role.hpMpfullflag = 2 ∨ role.hpMpfullflag = 3

instance (role : FightingRole) (vital : Vital) : Decidable (role.Suppressed vital) := by
  cases vital <;> exact inferInstanceAs (Decidable (_ ∨ _))

/-- Both values grow up to their maxima, and only a value at its maximum is left out. -/
def ReachesMaxima (now : UInt32) (time1 : Int32) : Prop :=
  ∀ vital, ((role.hpMpadd now time1).vital vital).toNat =
      min ((role.vital vital).toNat + role.amount time1 vital) (role.bound vital) ∧
    (role.Suppressed vital → (role.vital vital).toNat = role.bound vital)

end FightingRole

/-- An amount is added without an overflow, or the overflow ends above the maximum. -/
def AddsExactly (value bound amount : Nat) : Prop :=
  if bound < 2 ^ 32 then
    bound ≤ (value + amount) % 2 ^ 32 ∨ amount < 2 ^ 31 ∧ value + amount < 2 ^ 32
  else
    value + amount = bound - 2 ^ 32 ∨ amount < 2 ^ 31 ∧ value + amount < bound - 2 ^ 32

/-- The amount and the maximum reach the comparison in thirty-two bits. -/
theorem addBelow_exact_iff {value maximum : UInt32} {input : Int32} {bound amount : Nat}
    (same : maximum.toNat = bound % 2 ^ 32) (sum : bound < 2 ^ 33)
    (product : input.toUInt32.toNat = amount % 2 ^ 32) :
    (addBelow value maximum input).toNat = min (value.toNat + amount) bound ↔
      AddsExactly value.toNat bound amount := by
  have small := value.toNat_lt
  rw [addBelow_toNat, AddsExactly, same, product]
  split
  case isTrue below => split <;> split <;> omega
  case isFalse above => split <;> omega

namespace FightingRole

section Flag

variable {earlier role : FightingRole} (set : FlagSetOn earlier role)
include set

/-- A value is left out exactly when it was the maximum of the health. -/
theorem suppressed_iff (vital : Vital) :
    role.Suppressed vital ↔ role.vital vital = earlier.maximum .hp := by
  obtain ⟨hp, mp, flag⟩ := set
  rw [setHpMpfullStatue] at flag
  cases vital
  case hp =>
    rw [Suppressed, flag, ← hp, ← mp]
    change _ ↔ role.attrCombat.hp = _
    split <;> split <;> simp_all [Creature.maximum]
  case mp =>
    rw [Suppressed, flag, ← hp, ← mp]
    change _ ↔ role.attrCombat.mp = _
    split <;> split <;> simp_all [Creature.maximum]

theorem flag_cases : role.hpMpfullflag = 0 ∨ role.hpMpfullflag = 1 ∨ role.hpMpfullflag = 2 ∨
    role.hpMpfullflag = 3 := by
  rw [set.flag, setHpMpfullStatue]
  dsimp only
  split <;> split <;> simp

/-- A value that is not left out is added to. -/
theorem hpMpadd_vital (now : UInt32) (time1 : Int32) (vital : Vital) :
    (role.hpMpadd now time1).vital vital =
      if role.Suppressed vital then role.vital vital
      else addBelow (role.vital vital) (role.maximum vital)
        (role.regen vital * time1.toUInt32).toInt32 := by
  have kept : (role.hpMpadd now time1).toCreature =
      role.regenerate (role.regen .hp * time1.toUInt32).toInt32
        (role.regen .mp * time1.toUInt32).toInt32 := rfl
  rw [kept, regenerate]
  obtain flag | flag | flag | flag := flag_cases set
  all_goals
    rw [flag]
    cases vital
    case hp => simp only [Suppressed, flag]; rfl
    case mp => simp only [Suppressed, flag]; rfl

end Flag

/-- A value at the maximum of the health is at its own maximum. Any other is added to exactly. -/
def Regenerates (earlier role : FightingRole) (time1 : Int32) (vital : Vital) : Prop :=
  if role.vital vital = earlier.maximum .hp then (role.vital vital).toNat = role.bound vital
  else AddsExactly (role.vital vital).toNat (role.bound vital) (role.amount time1 vital)

theorem product_toNat (role : FightingRole) {time1 : Int32} (elapsed : 0 ≤ time1)
    (vital : Vital) : (role.regen vital * time1.toUInt32).toInt32.toUInt32.toNat =
      role.amount time1 vital % 2 ^ 32 := by
  rw [UInt32.toUInt32_toInt32, UInt32.toNat_mul, Int32.toNat_toUInt32_of_le elapsed]
  rfl

theorem bound_lt (creature : Creature) (vital : Vital) : creature.bound vital < 2 ^ 33 := by
  have sum (first second : UInt32) : first.toNat + second.toNat < 2 ^ 33 := by
    have left := first.toNat_lt
    have right := second.toNat_lt
    omega
  cases vital <;> exact sum _ _

/-- A role between two fights, with the flag of its health and magic. -/
def resting (hp mp maxMp : UInt32) : FightingRole :=
  { toCreature := ⟨⟨hp, mp, 100, maxMp, 40, 20⟩, .new⟩
    hpMpfullflag := 0
    lastHpMpTime := 0 : FightingRole }.setHpMpfullStatue

theorem flagSetOn_resting (hp mp maxMp : UInt32) :
    FlagSetOn (resting hp mp maxMp) (resting hp mp maxMp) := ⟨rfl, rfl, rfl⟩

end FightingRole

end AppSvr.MainServer
