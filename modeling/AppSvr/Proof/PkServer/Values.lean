/-
This file proves what a buff adds to the values of a role.
-/

import AppSvr.Construction.PkServer.Buffs
import Mathlib.Data.Int.ModEq

namespace AppSvr.PkServer

theorem short_modEq (value : Int) : short value ≡ value [ZMOD 65536] := by
  unfold short Int.ModEq
  omega

theorem short_eq_self {value : Int} (low : -32768 ≤ value) (high : value ≤ 32767) :
    short value = value := by
  unfold short
  omega

theorem short_bounds (value : Int) : -32768 ≤ short value ∧ short value ≤ 32767 := by
  unfold short
  omega

theorem byLevel_mem {α : Type*} (level : Int) (initial : α) (values : List α) :
    byLevel level initial values = initial ∨ byLevel level initial values ∈ values := by
  unfold byLevel
  split
  · cases found : values[(level - 1).toNat]? with
    | none => exact .inl rfl
    | some value => exact .inr (List.mem_of_getElem? found)
  · exact .inl rfl

/-- These are the values of a role that buffs change. -/
inductive Value where
  | speedMod | attackHit | attackCrit | defenseArmor | attackPowerAdd | hurtAdd | currHpMax
  | currMpMax | moveLimit | physicalLimit | magicLimit | exempt | exemptBad | exemptAll
  deriving DecidableEq, Repr

/-- What a buff adds while its role has it. -/
def Buff.effects (buff : Buff) : List (Value × Int) :=
  match buff.type, buff.parentSkill with
  | .bySkill, .zuiJiuYunWu => [(.speedMod, buff.parametar1), (.attackHit, buff.parametar2)]
  | .bySkill, .zuZhou => [(.hurtAdd, short (buff.parametar1.tdiv 100))]
  | .bySkill, .yaoShu => [(.physicalLimit, 1), (.magicLimit, 1), (.speedMod, buff.parametar1)]
  | .bySkill, .sheShouTianFu => [(.attackCrit, buff.parametar1), (.attackHit, buff.parametar2)]
  | .bySkill, .fuHuo =>
      [(.exemptAll, 1), (.moveLimit, 1), (.physicalLimit, 1), (.magicLimit, 1), (.exempt, 1)]
  | .castSkill, .jianRenFengBao => [(.physicalLimit, 1), (.magicLimit, 1), (.exemptBad, 1)]
  | .castSkill, .wuDiZhan | .castSkill, .chongFeng =>
      [(.exemptAll, 1), (.magicLimit, 1), (.moveLimit, 1), (.physicalLimit, 1), (.exempt, 1)]
  | .xuanYun, _ => [(.physicalLimit, 1), (.moveLimit, 1), (.magicLimit, 1)]
  | .noSkill, _ => [(.magicLimit, 1)]
  | .moveSpeed, _ => [(.speedMod, buff.parametar1)]
  | .noMove, _ => [(.moveLimit, 1)]
  | .armor, _ => [(.defenseArmor, buff.parametar1)]
  | .attackPower, _ => [(.attackPowerAdd, buff.parametar1)]
  | .maxHp, _ => [(.currHpMax, buff.parametar1)]
  | .maxMp, _ => [(.currMpMax, buff.parametar1)]
  | _, _ => []

/-- The amounts for one value. -/
def total (effects : List (Value × Int)) (value : Value) : Int :=
  (effects.map fun effect => if effect.1 = value then effect.2 else 0).sum

@[simp] theorem total_nil (value : Value) : total [] value = 0 := rfl

@[simp] theorem total_cons (effect : Value × Int) (effects : List (Value × Int)) (value : Value) :
    total (effect :: effects) value = (if effect.1 = value then effect.2 else 0) +
      total effects value := by
  simp [total]

/-- This is the contribution of a buff to a value. -/
def Buff.adds (buff : Buff) (value : Value) : Int := total buff.effects value

namespace RoleState

variable (role : RoleState)

def addValue (role : RoleState) : Value → Int → RoleState
  | .speedMod => role.addSpeedMod
  | .attackHit => role.addAttackHit
  | .attackCrit => role.addAttackCrit
  | .defenseArmor => role.addDefenseArmor
  | .attackPowerAdd => role.addAttackPowerAdd
  | .hurtAdd => role.addHurtAdd
  | .currHpMax => role.addCurrHpMax
  | .currMpMax => role.addCurrMpMax
  | .moveLimit => role.addMoveLimit
  | .physicalLimit => role.addPhysicalLimit
  | .magicLimit => role.addMagicLimit
  | .exempt => role.addExempt
  | .exemptBad => role.addExemptBad
  | .exemptAll => role.addExemptAll

/-- The amounts are added one after the other. -/
def addValues (role : RoleState) (effects : List (Value × Int)) : RoleState :=
  effects.foldl (fun role effect => role.addValue effect.1 effect.2) role

@[simp] theorem addValues_nil : role.addValues [] = role := rfl

@[simp] theorem addValues_cons (effect : Value × Int) (effects : List (Value × Int)) :
    role.addValues (effect :: effects) =
      (role.addValue effect.1 effect.2).addValues effects := rfl

variable {role}

/-- The role without its values. -/
def body (role : RoleState) : RoleState :=
  { role with
    currHpMax := 0
    currMpMax := 0
    moveAttrb := { role.moveAttrb with speedMod := 0, limitCounter := 0 }
    physicalAttrib := { role.physicalAttrib with
      attackHit := 0, attackCrit := 0, defenseArmor := 0, attackPowerAdd := 0, hurtAdd := 0
      limitCounter := 0, exemptCounter := 0 }
    magicAttrb := { role.magicAttrb with
      limitCounter := 0, exemptBadCounter := 0, exemptAllCounter := 0 } }

@[simp] theorem body_addValue (role : RoleState) (changed : Value) (amount : Int) :
    (role.addValue changed amount).body = role.body := by
  cases changed <;> rfl

@[simp] theorem body_addValues (role : RoleState) (effects : List (Value × Int)) :
    (role.addValues effects).body = role.body := by
  induction effects generalizing role with
  | nil => rfl
  | cons effect effects ih => simp [ih]

end RoleState

/-- The effects with a sign. -/
def Buff.signed (buff : Buff) (updataType : Int) : List (Value × Int) :=
  buff.effects.map fun effect => (effect.1, effect.2 * updataType)

/-- The removal of this buff also ends the order of its role. -/
def Buff.EndsCast (buff : Buff) (updataType : Int) : Prop :=
  buff.type = .castSkill ∧ buff.parentSkill = .liuXingHuoYU ∧ updataType ≠ 1

instance (buff : Buff) (updataType : Int) : Decidable (buff.EndsCast updataType) :=
  inferInstanceAs (Decidable (_ ∧ _))

namespace RoleState

variable (role : RoleState) (buff : Buff)

/-- A buff without a maximum is added and taken back with the sign of the update. -/
theorem updataEffect_eq (updataType : Int) (noHp : buff.type ≠ .maxHp) (noMp : buff.type ≠ .maxMp) :
    role.updataEffect updataType none buff =
      if buff.EndsCast updataType then role.setOrderType orderTypeNo
      else role.addValues (buff.signed updataType) := by
  obtain ⟨type, _, parentSkill, _, _, _, _, _, _, _, _, _⟩ := buff
  cases type <;> try contradiction
  case bySkill =>
    cases parentSkill <;>
      simp [updataEffect, replace, Buff.EndsCast, Buff.signed, Buff.effects, addValue]
  case castSkill =>
    cases parentSkill <;>
      simp [updataEffect, Buff.EndsCast, Buff.signed, Buff.effects, addValue]
  all_goals simp [updataEffect, replace, Buff.EndsCast, Buff.signed, Buff.effects, addValue]

/-- The maximum of the health grows with every update. -/
theorem updataEffect_maxHp (updataType : Int) (type : buff.type = .maxHp) :
    role.updataEffect updataType none buff =
      (role.addValue .currHpMax buff.parametar1).addHp buff.parametar1 := by
  simp [updataEffect, replace, type, addValue]

/-- Besides the values, an update changes the health or ends the order. -/
theorem body_updataEffect (updataType : Int) :
    ∃ order hp, (role.updataEffect updataType none buff).body =
        ({ role with currentOrder := order, hp := hp } : RoleState).body ∧
      (order = role.currentOrder ∨ order = { role.currentOrder with type := orderTypeNo }) ∧
      (buff.type ≠ .maxHp → hp = role.hp) := by
  cases type : buff.type with
  | maxHp =>
      refine ⟨role.currentOrder, short (role.hp + buff.parametar1), ?_, .inl rfl, by simp⟩
      rw [updataEffect_maxHp role buff updataType type]
      rfl
  | maxMp =>
      refine ⟨role.currentOrder, role.hp, ?_, .inl rfl, fun _ => rfl⟩
      simp only [updataEffect, replace, type]
      rfl
  | _ =>
      rw [updataEffect_eq role buff updataType (by simp [type]) (by simp [type])]
      split
      · exact ⟨_, role.hp, rfl, .inr rfl, fun _ => rfl⟩
      · exact ⟨role.currentOrder, role.hp, body_addValues .., .inl rfl, fun _ => rfl⟩

/-- What an upgrade stores in the buff. -/
structure Stores (old buff new : Buff) : Prop where
  type : new.type = old.type
  parentSkill : new.parentSkill = old.parentSkill
  bCanBreak : new.bCanBreak = old.bCanBreak
  first : new.parametar1 = old.parametar1 ∨ new.parametar1 = buff.parametar1
  second : new.parametar2 = old.parametar2 ∨ new.parametar2 = buff.parametar2

/-- The health changes with its maximum. -/
def upgradeHp (old : Buff) : RoleState :=
  if buff.type = .maxHp then (role.addHp (-old.parametar1)).addHp buff.parametar1 else role

/-- An upgrade takes the old effects back, stores new parameters, and adds the new effects. -/
theorem updataEffect_upgrade {old : Buff} {index : Nat}
    (found : role.multimapBuff[index]? = some old) (type : old.type = buff.type)
    (parentSkill : old.parentSkill = buff.parentSkill) (ordinary : buff.parentSkill ≠ .fuHuo) :
    ∃ store before after, Stores old buff (store old) ∧
      (role.updataEffect 1 (some index) buff) =
        (((role.upgradeHp buff old).addValues before).modifyBuff index store).addValues after ∧
      ∀ value, total before value + total after value =
        (store old).adds value - old.adds value := by
  obtain ⟨type', _, parent, _, _, _, _, _, new1, new2, _, _⟩ := buff
  obtain ⟨_, _, _, _, _, _, _, _, old1, old2, _, _⟩ := old
  obtain rfl : _ = type' := type
  obtain rfl : _ = parent := parentSkill
  rename_i oldType _ oldParent _ _ _ _ _ _ _
  let storeFirst (old : Buff) : Buff := { old with parametar1 := new1 }
  let storeBoth (old : Buff) : Buff := { old with parametar1 := new1, parametar2 := new2 }
  cases oldType
  case bySkill =>
    cases oldParent
    case fuHuo => contradiction
    case zuiJiuYunWu =>
      exact ⟨storeBoth, [(.speedMod, -old1), (.attackHit, -old2)],
        [(.speedMod, new1), (.attackHit, new2)], ⟨rfl, rfl, rfl, .inr rfl, .inr rfl⟩,
        by simp [updataEffect, replace, found, upgradeHp, addValue, storeBoth],
        by simp [Buff.adds, Buff.effects, storeBoth]; grind⟩
    case sheShouTianFu =>
      exact ⟨storeBoth, [(.attackCrit, -old1), (.attackHit, -old2)],
        [(.attackCrit, new1), (.attackHit, new2)], ⟨rfl, rfl, rfl, .inr rfl, .inr rfl⟩,
        by simp [updataEffect, replace, found, upgradeHp, addValue, storeBoth],
        by simp [Buff.adds, Buff.effects, storeBoth]; grind⟩
    case zuZhou =>
      exact ⟨storeFirst, [(.hurtAdd, -short (old1.tdiv 100))], [(.hurtAdd, short (new1.tdiv 100))],
        ⟨rfl, rfl, rfl, .inr rfl, .inl rfl⟩,
        by simp [updataEffect, replace, found, upgradeHp, addValue, storeFirst],
        by simp [Buff.adds, Buff.effects, storeFirst]; grind⟩
    case yaoShu =>
      exact ⟨storeFirst, [(.speedMod, -old1)], [(.speedMod, new1)],
        ⟨rfl, rfl, rfl, .inr rfl, .inl rfl⟩,
        by simp [updataEffect, replace, found, upgradeHp, addValue, storeFirst],
        by simp [Buff.adds, Buff.effects, storeFirst]; grind⟩
    case wuGuangZhiDun =>
      exact ⟨storeFirst, [], [], ⟨rfl, rfl, rfl, .inr rfl, .inl rfl⟩,
        by simp [updataEffect, replace, found, upgradeHp, storeFirst],
        by simp [Buff.adds, Buff.effects, storeFirst]⟩
    case fanJiLuoXuan =>
      exact ⟨storeBoth, [], [], ⟨rfl, rfl, rfl, .inr rfl, .inr rfl⟩,
        by simp [updataEffect, replace, found, upgradeHp, storeBoth],
        by simp [Buff.adds, Buff.effects, storeBoth]⟩
    all_goals
      exact ⟨id, [], [], ⟨rfl, rfl, rfl, .inl rfl, .inl rfl⟩,
        by simp [updataEffect, upgradeHp, modifyBuff], by simp⟩
  case castSkill =>
    cases oldParent <;>
      exact ⟨id, [], [], ⟨rfl, rfl, rfl, .inl rfl, .inl rfl⟩,
        by simp [updataEffect, upgradeHp, modifyBuff], by simp⟩
  case moveSpeed =>
    exact ⟨storeFirst, [(.speedMod, -old1)], [(.speedMod, new1)],
      ⟨rfl, rfl, rfl, .inr rfl, .inl rfl⟩,
      by simp [updataEffect, replace, found, upgradeHp, addValue, storeFirst],
      by simp [Buff.adds, Buff.effects, storeFirst]; grind⟩
  case armor =>
    exact ⟨storeFirst, [(.defenseArmor, -old1)], [(.defenseArmor, new1)],
      ⟨rfl, rfl, rfl, .inr rfl, .inl rfl⟩,
      by simp [updataEffect, replace, found, upgradeHp, addValue, storeFirst],
      by simp [Buff.adds, Buff.effects, storeFirst]; grind⟩
  case attackPower =>
    exact ⟨storeFirst, [(.attackPowerAdd, -old1)], [(.attackPowerAdd, new1)],
      ⟨rfl, rfl, rfl, .inr rfl, .inl rfl⟩,
      by simp [updataEffect, replace, found, upgradeHp, addValue, storeFirst],
      by simp [Buff.adds, Buff.effects, storeFirst]; grind⟩
  case maxHp =>
    exact ⟨storeFirst, [(.currHpMax, -old1)], [(.currHpMax, new1)],
      ⟨rfl, rfl, rfl, .inr rfl, .inl rfl⟩,
      by simp [updataEffect, replace, found, upgradeHp, addValue, storeFirst]; rfl,
      by simp [Buff.adds, Buff.effects, storeFirst]; grind⟩
  case maxMp =>
    exact ⟨storeFirst, [(.currMpMax, -old1)], [(.currMpMax, new1)],
      ⟨rfl, rfl, rfl, .inr rfl, .inl rfl⟩,
      by simp [updataEffect, replace, found, upgradeHp, addValue, storeFirst],
      by simp [Buff.adds, Buff.effects, storeFirst]; grind⟩
  all_goals
    exact ⟨id, [], [], ⟨rfl, rfl, rfl, .inl rfl, .inl rfl⟩,
      by simp [updataEffect, upgradeHp, modifyBuff], by simp⟩

end RoleState

end AppSvr.PkServer
