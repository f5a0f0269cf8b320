/-
This file proves when the numbers of an attack and of a skill do not wrap.
-/

import AppSvr.Proof.PkServer.BuffRuns
import AppSvr.ToMathlib.WrappedNumbers
import Mathlib.Algebra.Order.BigOperators.Group.List
import Mathlib.Tactic.Linarith

namespace AppSvr.PkServer
open WrappedNumbers

/-- The hurts that the shields among some buffs take, with those that they have taken. -/
def shieldsOf (buffs : List Buff) : List (Int × Int) :=
  (buffs.filter fun buff => buff.parentSkill = .wuGuangZhiDun).map fun buff =>
    (buff.parametar1, buff.parametar2)

/-- The hurt that the first feather among some buffs adds. -/
def featherOf (buffs : List Buff) : Int :=
  ((buffs.find? fun buff => buff.parentSkill = .feiXueZhiMao).map Buff.parametar1).getD 0

theorem shieldsOf_cons (buff : Buff) (buffs : List Buff) :
    shieldsOf (buff :: buffs) =
      if buff.parentSkill = .wuGuangZhiDun then
        (buff.parametar1, buff.parametar2) :: shieldsOf buffs
      else shieldsOf buffs := by
  unfold shieldsOf
  by_cases shield : buff.parentSkill = .wuGuangZhiDun <;> simp [shield]

theorem shieldsOf_modify (change : Buff → Buff) (buffs : List Buff) (index : Nat)
    (same : ∀ buff, (change buff).parentSkill = buff.parentSkill)
    (other : ∀ buff, buffs[index]? = some buff → buff.parentSkill ≠ .wuGuangZhiDun) :
    shieldsOf (buffs.modify index change) = shieldsOf buffs := by
  induction buffs generalizing index with
  | nil => rw [List.modify_nil]
  | cons buff buffs ih =>
      cases index with
      | zero =>
          have ordinary := other buff rfl
          rw [List.modify_zero_cons, shieldsOf_cons, shieldsOf_cons, same, if_neg ordinary,
            if_neg ordinary]
      | succ index =>
          rw [List.modify_succ_cons, shieldsOf_cons, shieldsOf_cons, ih index other]

namespace RoleState

variable (role : RoleState)

theorem shieldsOf_collectHurt (hurt : Int) :
    shieldsOf (role.collectHurt hurt).multimapBuff = shieldsOf role.multimapBuff := by
  unfold collectHurt
  dsimp only
  induction role.multimapBuff with
  | nil => rfl
  | cons buff buffs ih =>
      rw [List.map_cons, shieldsOf_cons, shieldsOf_cons, ih]
      by_cases curse : buff.parentSkill = .zuZhou
      · simp [curse]
      · rw [if_neg curse]

theorem featherOf_collectHurt (hurt : Int) :
    featherOf (role.collectHurt hurt).multimapBuff = featherOf role.multimapBuff := by
  unfold collectHurt featherOf
  dsimp only
  induction role.multimapBuff with
  | nil => rfl
  | cons buff buffs ih =>
      rw [List.map_cons, List.find?_cons, List.find?_cons]
      by_cases curse : buff.parentSkill = .zuZhou
      · simpa [curse] using ih
      · rw [if_neg curse]
        split
        · rfl
        · exact ih

theorem sharpen_fst {hurt : Int} (stored : ushort hurt = hurt) :
    (role.sharpen hurt).1 = ushort (hurt + featherOf role.multimapBuff) := by
  unfold sharpen featherOf
  rw [List.find?_eq_bind_findIdx?_getElem?]
  cases role.multimapBuff.findIdx? fun buff => buff.parentSkill = .feiXueZhiMao with
  | none => simp [stored]
  | some index =>
      rw [Option.bind_some]
      dsimp only
      cases role.multimapBuff[index]? with
      | none => simp [stored]
      | some buff => rfl

theorem sharpen_hp (hurt : Int) : (role.sharpen hurt).2.hp = role.hp := by
  unfold sharpen
  split
  · rfl
  · split <;> rfl

theorem shieldsOf_sharpen (hurt : Int) :
    shieldsOf (role.sharpen hurt).2.multimapBuff = shieldsOf role.multimapBuff := by
  unfold sharpen
  split
  · rfl
  · next index found =>
      obtain ⟨inside, feather, _⟩ := List.findIdx?_eq_some_iff_getElem.mp found
      split
      · rfl
      · refine shieldsOf_modify _ _ _ (fun _ => rfl) fun buff listed => ?_
        obtain ⟨_, same⟩ := List.getElem?_eq_some_iff.mp listed
        rw [same, decide_eq_true_eq] at feather
        rw [feather]
        decide

end RoleState

/-- The conversions of the numbers of a formula. -/
structure Width where
  ushort : Int → Int
  short : Int → Int
  int : Int → Int

namespace Width

def machine : Width := ⟨PkServer.ushort, PkServer.short, PkServer.int⟩

def exact : Width := ⟨id, id, id⟩

end Width

/-- What decides the damage of an attack that hits. -/
structure Blow where
  attack : RoleState
  target : RoleState
  roll : Int
  doubled : Bool

namespace Blow

section Stages

variable (width : Width) (blow : Blow)

/-- The power of the weapon, with its buffs. -/
def power : Int := width.ushort (blow.attack.physicalAttrib.attackPowerLowBase + blow.roll)

def boosted : Int :=
  width.ushort (blow.power width +
    width.short ((blow.attack.physicalAttrib.attackPowerAdd * blow.power width).tdiv 100))

/-- The levels and the armor scale the hurt. -/
def defense : Int :=
  50 + blow.target.level + sqrtInt blow.target.physicalAttrib.defenseArmor

def scaled : Int :=
  if blow.defense ≠ 0 then
    width.ushort ((width.int (blow.boosted width * (50 + blow.attack.level))).tdiv blow.defense)
  else blow.boosted width

def raised : Int := if blow.scaled width ≤ 0 then 1 else blow.scaled width

def critical : Int :=
  if blow.doubled then width.ushort (blow.raised width * 2) else blow.raised width

/-- A curse of the target adds to the hurt, and a feather of the attacker, too. -/
def cursed : Int :=
  width.ushort (blow.critical width +
    (blow.critical width * blow.target.physicalAttrib.hurtAdd).tdiv 100)

def sharpened : Int := width.ushort (blow.cursed width + featherOf blow.attack.multimapBuff)

def shields : List (Int × Int) := shieldsOf blow.target.multimapBuff

def absorb (hurt : Int) (shield : Int × Int) : Int :=
  if shield.1 ≤ shield.2 + hurt then width.ushort (shield.2 + hurt - shield.1) else 0

def damage : Int := blow.shields.foldl (absorb width) (blow.sharpened width)

end Stages

/-- The roles have numbers that fit, and no buff makes a number of theirs negative. -/
structure InRange (blow : Blow) : Prop where
  low : 0 ≤ blow.attack.physicalAttrib.attackPowerLowBase
  roll : 0 ≤ blow.roll
  high : blow.attack.physicalAttrib.attackPowerLowBase + blow.roll ≤ 32767
  add : -100 ≤ blow.attack.physicalAttrib.attackPowerAdd
  level : 0 ≤ blow.attack.level ∧ blow.attack.level ≤ 32767
  targetLevel : 0 ≤ blow.target.level ∧ blow.target.level ≤ 32767
  armor : 0 ≤ blow.target.physicalAttrib.defenseArmor ∧
    blow.target.physicalAttrib.defenseArmor ≤ 32767
  hurtAdd : 0 ≤ blow.target.physicalAttrib.hurtAdd
  hp : 0 ≤ blow.target.hp ∧ blow.target.hp ≤ 32767

/-- No stage of the formula leaves the range of its type. -/
structure WeaponFits (blow : Blow) : Prop where
  boosted : blow.boosted .exact ≤ 65535
  product : blow.boosted .exact * (50 + blow.attack.level) ≤ 2147483647
  scaled : blow.scaled .exact ≤ 65535
  critical : blow.critical .exact ≤ 65535
  cursed : blow.cursed .exact ≤ 65535

theorem ushort_lags {machine exact gap : Int} {fits : Prop} (lags : Lags machine exact gap fits)
    (small : gap ≤ 65536) : Lags (ushort machine) exact gap (fits ∧ exact ≤ 65535) := by
  have positive : (0 : Int) ≤ 65535 := by decide
  exact lags.store positive small

/-- A malus of a hundred percent takes the whole power. -/
theorem neg_le_tdiv {power bonus : Int} (nonneg : 0 ≤ power) (least : -100 * power ≤ bonus) :
    -power ≤ bonus.tdiv 100 := by
  rcases le_or_gt 0 bonus with gain | loss
  · have quotient := Int.tdiv_nonneg gain (by decide : (0 : Int) ≤ 100)
    omega
  · have quotient : bonus.tdiv 100 = -(-bonus / 100) := by
      rw [← Int.tdiv_eq_ediv_of_nonneg (by omega), Int.neg_tdiv, neg_neg]
    omega

/-- A product that leaves the range of an integer gives far too little. -/
theorem ushort_tdiv_int {product defense : Int} (low : 2147483648 ≤ product)
    (high : product ≤ 2150662095) (least : 50 ≤ defense) (most : defense ≤ 32998) :
    ushort ((int product).tdiv defense) + 2 ≤ product / defense := by
  have negative : int product = -(4294967296 - product) := by
    unfold int
    omega
  rw [negative, Int.neg_tdiv, Int.tdiv_eq_ediv_of_nonneg (by omega)]
  rcases le_or_gt defense 32767 with small | large
  · have quotient : 65538 ≤ product / defense :=
      (Int.le_ediv_iff_mul_le (by omega)).mpr (by omega)
    unfold ushort
    omega
  · have quotient : 65079 ≤ product / defense :=
      (Int.le_ediv_iff_mul_le (by omega)).mpr (by omega)
    have atLeast : 64982 ≤ (4294967296 - product) / defense :=
      (Int.le_ediv_iff_mul_le (by omega)).mpr (by omega)
    have atMost : (4294967296 - product) / defense < 65537 :=
      (Int.ediv_lt_iff_lt_mul (by omega)).mpr (by omega)
    unfold ushort
    omega

theorem cursed_stored (blow : Blow) : ushort (blow.cursed .machine) = blow.cursed .machine := by
  unfold cursed
  simp only [Width.machine, ushort, Int.emod_emod]

section Lag

variable {blow : Blow} (range : blow.InRange)
include range

theorem defense_range : 50 ≤ blow.defense ∧ blow.defense ≤ 32998 := by
  have root : blow.target.physicalAttrib.defenseArmor.toNat.sqrt < 182 := by
    rw [Nat.sqrt_lt']
    have armor := range.armor
    omega
  have level := range.targetLevel
  unfold defense sqrtInt
  rw [if_neg (not_lt.mpr range.armor.1)]
  omega

theorem power_eq : blow.power .machine = blow.power .exact ∧ 0 ≤ blow.power .exact := by
  have low := range.low
  have roll := range.roll
  have high := range.high
  unfold power
  simp only [Width.machine, Width.exact, ushort, id]
  omega

theorem boosted_lags : Lags (blow.boosted .machine) (blow.boosted .exact) 65536
    (blow.boosted .exact ≤ 65535) := by
  obtain ⟨same, nonneg⟩ := power_eq range
  have bonus : -(blow.power .exact) ≤
      (blow.attack.physicalAttrib.attackPowerAdd * blow.power .exact).tdiv 100 :=
    neg_le_tdiv nonneg (mul_le_mul_of_nonneg_right range.add nonneg)
  have wrapped : blow.boosted .machine = ushort (blow.boosted .exact) := by
    unfold boosted
    rw [same]
    simp only [Width.machine, Width.exact, ushort, short, id]
    omega
  have exact : 0 ≤ blow.boosted .exact := by
    unfold boosted
    simp only [Width.exact, id] at bonus ⊢
    omega
  have lags := ushort_lags (Lags.of_nonneg exact) (le_refl 65536)
  rw [wrapped]
  exact ⟨lags.nonneg, fun fit => lags.same ⟨trivial, fit⟩, fun late => lags.late fun both =>
    late both.2⟩

theorem scaled_lags : Lags (blow.scaled .machine) (blow.scaled .exact) 2
    (blow.boosted .exact ≤ 65535 ∧
      blow.boosted .exact * (50 + blow.attack.level) ≤ 2147483647 ∧
        blow.scaled .exact ≤ 65535) := by
  obtain ⟨low, high⟩ := defense_range range
  have level := range.level
  have boosted := boosted_lags range
  have positive : 0 < blow.defense := by omega
  have stored : blow.boosted .machine ≤ 65535 := by
    unfold Blow.boosted
    simp only [Width.machine, ushort]
    omega
  have nonneg := boosted.nonneg
  have behind := boosted.le (by decide : (0 : Int) ≤ 65536)
  have machine : blow.scaled .machine =
      ushort ((int (blow.boosted .machine * (50 + blow.attack.level))).tdiv blow.defense) := by
    unfold scaled
    rw [if_pos positive.ne']
    rfl
  have exact : blow.scaled .exact =
      blow.boosted .exact * (50 + blow.attack.level) / blow.defense := by
    unfold scaled
    rw [if_pos positive.ne']
    exact Int.tdiv_eq_ediv_of_nonneg (mul_nonneg (by omega) (by omega))
  have more : blow.boosted .machine * (50 + blow.attack.level) ≤
      blow.boosted .exact * (50 + blow.attack.level) := mul_le_mul_of_nonneg_right behind (by omega)
  have bounded : blow.boosted .machine * (50 + blow.attack.level) ≤ 65535 * 32817 :=
    mul_le_mul stored (by omega) (by omega) (by decide)
  have natural : 0 ≤ blow.boosted .machine * (50 + blow.attack.level) :=
    mul_nonneg nonneg (by omega)
  rw [machine, exact]
  rcases le_or_gt (blow.boosted .machine * (50 + blow.attack.level)) 2147483647 with small | large
  · have kept : int (blow.boosted .machine * (50 + blow.attack.level)) =
        blow.boosted .machine * (50 + blow.attack.level) := by
      unfold int
      omega
    have quotient := Int.ediv_nonneg natural positive.le
    rw [kept, Int.tdiv_eq_ediv_of_nonneg natural]
    refine ⟨Int.emod_nonneg _ (by decide), fun fit => ?_, fun late => ?_⟩
    · rw [boosted.same fit.1] at quotient ⊢
      unfold ushort
      omega
    · by_cases fit : blow.boosted .exact ≤ 65535
      · rw [boosted.same fit] at small quotient ⊢
        unfold ushort
        omega
      · have gap := boosted.late fit
        have gained : blow.boosted .machine * (50 + blow.attack.level) + 2 * blow.defense ≤
            blow.boosted .exact * (50 + blow.attack.level) := by nlinarith
        have grown : blow.boosted .machine * (50 + blow.attack.level) / blow.defense + 2 ≤
            blow.boosted .exact * (50 + blow.attack.level) / blow.defense := by
          rw [← Int.add_mul_ediv_right _ _ positive.ne']
          exact Int.ediv_le_ediv positive gained
        unfold ushort
        omega
  · have grown : blow.boosted .machine * (50 + blow.attack.level) / blow.defense ≤
        blow.boosted .exact * (50 + blow.attack.level) / blow.defense :=
      Int.ediv_le_ediv positive more
    have wrapped := ushort_tdiv_int (by omega) bounded low high
    refine ⟨Int.emod_nonneg _ (by decide), fun fit => ?_, fun late => by omega⟩
    rw [boosted.same fit.1] at large
    omega

theorem raised_lags : Lags (blow.raised .machine) (blow.raised .exact) 1
    (blow.boosted .exact ≤ 65535 ∧
      blow.boosted .exact * (50 + blow.attack.level) ≤ 2147483647 ∧
        blow.scaled .exact ≤ 65535) := by
  refine (scaled_lags range).map (fun hurt => if hurt ≤ 0 then 1 else hurt) ?_ fun behind => ?_
  · split <;> omega
  · have nonneg := (scaled_lags range).nonneg
    split <;> split <;> omega

theorem critical_lags : Lags (blow.critical .machine) (blow.critical .exact) 1
    ((blow.boosted .exact ≤ 65535 ∧
      blow.boosted .exact * (50 + blow.attack.level) ≤ 2147483647 ∧
        blow.scaled .exact ≤ 65535) ∧ blow.critical .exact ≤ 65535) := by
  have raised := raised_lags range
  have nonneg := raised.nonneg
  unfold critical
  split
  · exact ushort_lags (raised.map (fun hurt => hurt * 2) (by omega) fun behind => by omega)
      (by decide : (1 : Int) ≤ 65536)
  · have small (fit : blow.scaled .exact ≤ 65535) : blow.raised .exact ≤ 65535 := by
      unfold Blow.raised
      split <;> omega
    exact ⟨raised.nonneg, fun fit => raised.same fit.1,
      fun late => raised.late fun fit => late ⟨fit, small fit.2.2⟩⟩

theorem cursed_lags : Lags (blow.cursed .machine) (blow.cursed .exact) 1 blow.WeaponFits := by
  have critical := critical_lags range
  have nonneg := critical.nonneg
  have curse {hurt : Int} (nonneg : 0 ≤ hurt) :
      (hurt * blow.target.physicalAttrib.hurtAdd).tdiv 100 =
        hurt * blow.target.physicalAttrib.hurtAdd / 100 :=
    Int.tdiv_eq_ediv_of_nonneg (mul_nonneg nonneg range.hurtAdd)
  have small : (1 : Int) ≤ 65536 := by decide
  have lags := ushort_lags (critical.map (fun hurt => hurt +
    (hurt * blow.target.physicalAttrib.hurtAdd).tdiv 100)
      (add_nonneg nonneg (Int.tdiv_nonneg (mul_nonneg nonneg range.hurtAdd) (by decide)))
        fun behind => ?_) small
  · exact ⟨lags.nonneg,
      fun fit => lags.same ⟨⟨⟨fit.boosted, fit.product, fit.scaled⟩, fit.critical⟩, fit.cursed⟩,
      fun late => lags.late fun fit =>
        late ⟨fit.1.1.1, fit.1.1.2.1, fit.1.1.2.2, fit.1.2, fit.2⟩⟩
  · rw [curse nonneg, curse (by omega)]
    have more : blow.critical .machine * blow.target.physicalAttrib.hurtAdd / 100 ≤
        blow.critical .exact * blow.target.physicalAttrib.hurtAdd / 100 :=
      Int.ediv_le_ediv (by decide) (mul_le_mul_of_nonneg_right (by omega) range.hurtAdd)
    omega

/-- The feather makes no number negative. -/
theorem sharpened_lags (feather : 0 ≤ featherOf blow.attack.multimapBuff) :
    Lags (blow.sharpened .machine) (blow.sharpened .exact) 1
      (blow.WeaponFits ∧ blow.sharpened .exact ≤ 65535) := by
  have cursed := cursed_lags range
  have nonneg := cursed.nonneg
  exact ushort_lags (cursed.map (fun hurt => hurt + featherOf blow.attack.multimapBuff) (by omega)
    fun behind => by omega) (by decide : (1 : Int) ≤ 65536)

theorem sharpened_eq (fits : blow.WeaponFits) (low : 0 ≤ blow.sharpened .exact)
    (high : blow.sharpened .exact ≤ 65535) :
    blow.sharpened .machine = blow.sharpened .exact := by
  have same := (cursed_lags range).same fits
  unfold sharpened at low high ⊢
  rw [same]
  simp only [Width.machine, Width.exact, ushort, id] at low high ⊢
  omega

end Lag

section Shields

/-- A shield has taken less than it takes. -/
def Sound (shield : Int × Int) : Prop := 0 ≤ shield.2 ∧ shield.2 ≤ shield.1

instance (shield : Int × Int) : Decidable (Sound shield) := inferInstanceAs (Decidable (_ ∧ _))

/-- The hurt that some shields can still take. -/
def room (shields : List (Int × Int)) : Int :=
  (shields.map fun shield => shield.1 - shield.2).sum

theorem room_nonneg {shields : List (Int × Int)} (sound : ∀ shield ∈ shields, Sound shield) :
    0 ≤ room shields := by
  refine List.sum_nonneg fun space member => ?_
  obtain ⟨shield, listed, rfl⟩ := List.mem_map.mp member
  exact sub_nonneg.mpr (sound shield listed).2

/-- Sound shields take their room from the hurt. -/
theorem foldl_absorb_eq {width : Width} {shields : List (Int × Int)}
    (sound : ∀ shield ∈ shields, Sound shield) {hurt : Int} (nonneg : 0 ≤ hurt)
    (kept : ∀ value, 0 ≤ value → value ≤ hurt → width.ushort value = value) :
    shields.foldl (absorb width) hurt = max 0 (hurt - room shields) := by
  induction shields generalizing hurt with
  | nil =>
      unfold room
      simp [nonneg]
  | cons shield shields ih =>
      obtain ⟨taken, below⟩ := sound shield List.mem_cons_self
      have rest : ∀ other ∈ shields, Sound other := fun other member =>
        sound other (List.mem_cons_of_mem shield member)
      have space := room_nonneg rest
      have whole : room (shield :: shields) = shield.1 - shield.2 + room shields := List.sum_cons
      rw [List.foldl_cons, whole]
      by_cases through : shield.1 ≤ shield.2 + hurt
      · rw [absorb, if_pos through, kept _ (by omega) (by omega),
          ih rest (by omega) fun value low high => kept value low (by omega)]
        congr 1
        omega
      · rw [absorb, if_neg through,
          ih rest (le_refl 0) fun value low high => kept value low (by omega)]
        omega

end Shields

section Damage

variable {blow : Blow}

/-- The value that a shield lets through fits. -/
def ShieldsFit : Int → List (Int × Int) → Prop
  | _, [] => True
  | hurt, shield :: shields =>
      (shield.1 ≤ shield.2 + hurt → shield.2 + hurt - shield.1 ≤ 65535) ∧
        ShieldsFit (absorb .exact hurt shield) shields

theorem foldl_absorb_of_fits {shields : List (Int × Int)} {hurt : Int}
    (fits : ShieldsFit hurt shields) :
    shields.foldl (absorb .machine) hurt = shields.foldl (absorb .exact) hurt := by
  induction shields generalizing hurt with
  | nil => rfl
  | cons shield shields ih =>
      have same : absorb .machine hurt shield = absorb .exact hurt shield := by
        have first := fits.1
        unfold absorb
        split
        · next through =>
            have small := first through
            simp only [Width.machine, Width.exact, ushort, id]
            omega
        · rfl
      rw [List.foldl_cons, List.foldl_cons, same]
      exact ih fits.2

theorem foldl_absorb_nonneg {shields : List (Int × Int)} {hurt : Int} (nonneg : 0 ≤ hurt) :
    0 ≤ shields.foldl (absorb .exact) hurt := by
  induction shields generalizing hurt with
  | nil => exact nonneg
  | cons shield shields ih =>
      refine ih ?_
      unfold absorb
      split
      · simp only [Width.exact, id]
        omega
      · exact le_refl 0

end Damage

/-- The formula is evaluated without a wrapped number. -/
structure Fits (blow : Blow) : Prop where
  weapon : blow.WeaponFits
  sharpened : 0 ≤ blow.sharpened .exact ∧ blow.sharpened .exact ≤ 65535
  shields : ShieldsFit (blow.sharpened .exact) blow.shields

/-- The buffs of the two roles hold numbers as the skills make them. -/
structure SoundBuffs (blow : Blow) : Prop where
  feather : 0 ≤ featherOf blow.attack.multimapBuff
  shields : ∀ shield ∈ blow.shields, Sound shield

/-- No stage leaves its range, or the shields take the whole hurt. What is left is not greater than
half the range of the health. -/
def DamageFits (blow : Blow) : Prop :=
  (blow.WeaponFits ∧ blow.sharpened .exact ≤ 65535 ∨
    blow.sharpened .exact ≤ room blow.shields) ∧ blow.damage .exact ≤ 32768

end Blow

/-- The health falls by the exact damage, and the clients are told so. -/
structure TakesExactly (hp machine exact : Int) : Prop where
  damage : machine = exact
  falls : short (hp - machine) ≤ hp
  told : short (-machine) = short (hp - machine) - hp

theorem takesExactly_iff {hp machine exact : Int} (low : 0 ≤ hp) (high : hp ≤ 32767)
    (nonneg : 0 ≤ machine) (stored : machine ≤ 65535) :
    TakesExactly hp machine exact ↔ machine = exact ∧ exact ≤ 32768 := by
  constructor
  · rintro ⟨rfl, falls, told⟩
    unfold short at falls told
    omega
  · rintro ⟨rfl, small⟩
    refine ⟨rfl, ?_, ?_⟩ <;> unfold short <;> omega

namespace Blow

section Exact

variable {blow : Blow} (range : blow.InRange)
include range

theorem damage_eq (fits : blow.Fits) : blow.damage .machine = blow.damage .exact := by
  unfold damage
  rw [sharpened_eq range fits.weapon fits.sharpened.1 fits.sharpened.2,
    foldl_absorb_of_fits fits.shields]

theorem takesExactly_of_fits (fits : blow.Fits) (small : blow.damage .exact ≤ 32768) :
    TakesExactly blow.target.hp (blow.damage .machine) (blow.damage .exact) := by
  have same := damage_eq range fits
  have nonneg : 0 ≤ blow.damage .exact := foldl_absorb_nonneg fits.sharpened.1
  refine (takesExactly_iff range.hp.1 range.hp.2 ?_ ?_).mpr ⟨same, small⟩ <;> omega

theorem takesExactly_iff_fits (sound : blow.SoundBuffs) :
    TakesExactly blow.target.hp (blow.damage .machine) (blow.damage .exact) ↔ blow.DamageFits := by
  have lags := sharpened_lags range sound.feather
  have nonneg := lags.nonneg
  have stored : blow.sharpened .machine ≤ 65535 := by
    unfold Blow.sharpened
    simp only [Width.machine, ushort]
    omega
  have space := room_nonneg sound.shields
  have machine : blow.damage .machine =
      max 0 (blow.sharpened .machine - room blow.shields) :=
    foldl_absorb_eq sound.shields nonneg fun value low high => by
      simp only [Width.machine, ushort]
      omega
  have behind := lags.le (by decide : (0 : Int) ≤ 1)
  have exact : blow.damage .exact = max 0 (blow.sharpened .exact - room blow.shields) :=
    foldl_absorb_eq sound.shields (by omega) fun _ _ _ => rfl
  rw [takesExactly_iff range.hp.1 range.hp.2 (by omega) (by omega), machine, DamageFits, exact]
  refine and_congr_left fun _ => ?_
  by_cases fits : blow.WeaponFits ∧ blow.sharpened .exact ≤ 65535
  · exact iff_of_true (by rw [lags.same fits]) (.inl fits)
  · have late := lags.late fits
    rw [or_iff_right fits]
    omega

end Exact

end Blow

namespace RoleState

/-- The formula of a skill over the integers. -/
def exactSkillHurt (role : RoleState) (attackLevel hurtValue : Int) : Int :=
  if role.magicDefense ≠ 0 then (hurtValue * attackLevel).tdiv role.magicDefense else hurtValue

/-- The attributes that the formulas read lie between zero and the greatest short integer. -/
structure Attributes (role : RoleState) : Prop where
  level : 0 ≤ role.level ∧ role.level ≤ 32767
  hp : 0 ≤ role.hp ∧ role.hp ≤ 32767
  wisdom : 0 ≤ role.wisdom
  magicArmor : 0 ≤ role.magicAttrb.magicArmor
  low : 0 ≤ role.physicalAttrib.attackPowerLowBase
  high : role.physicalAttrib.attackPowerHignBase ≤ 32767
  ordered : role.physicalAttrib.attackPowerLowBase ≤ role.physicalAttrib.attackPowerHignBase
  add : -100 ≤ role.physicalAttrib.attackPowerAdd
  armor : 0 ≤ role.physicalAttrib.defenseArmor ∧ role.physicalAttrib.defenseArmor ≤ 32767
  hurtAdd : 0 ≤ role.physicalAttrib.hurtAdd

theorem skill_takesExactly_iff {role : RoleState} (attributes : role.Attributes)
    {attackLevel hurtValue : Int} (level : 0 ≤ attackLevel)
    (hurt : 0 ≤ hurtValue ∧ hurtValue ≤ 32767) :
    TakesExactly role.hp (role.skillHurt attackLevel hurtValue)
      (role.exactSkillHurt attackLevel hurtValue) ↔
        role.exactSkillHurt attackLevel hurtValue ≤ 32767 := by
  have hp := attributes.hp
  have defense : 0 ≤ role.magicDefense := by
    have levels := attributes.level
    have armor := attributes.magicArmor
    have wisdom : 0 ≤ role.wisdom.tdiv 10 := Int.tdiv_nonneg attributes.wisdom (by decide)
    unfold magicDefense
    omega
  have exact : 0 ≤ role.exactSkillHurt attackLevel hurtValue := by
    unfold exactSkillHurt
    split
    · exact Int.tdiv_nonneg (mul_nonneg hurt.1 level) defense
    · exact hurt.1
  have stored : role.skillHurt attackLevel hurtValue =
      short (role.exactSkillHurt attackLevel hurtValue) := by
    unfold skillHurt exactSkillHurt
    split
    · rfl
    · unfold short
      omega
  rw [stored]
  constructor
  · rintro ⟨same, -, -⟩
    unfold short at same
    omega
  · intro small
    have same : short (role.exactSkillHurt attackLevel hurtValue) =
        role.exactSkillHurt attackLevel hurtValue := by
      unfold short
      omega
    refine (takesExactly_iff hp.1 hp.2 ?_ ?_).mpr ⟨same, ?_⟩ <;> omega

end RoleState

namespace PKPE

/-- The draw of the power of a weapon. -/
def attackRoll (attack : RoleState) (battle : PKPE) : Int × PKPE :=
  let spread := attack.physicalAttrib.attackPowerHignBase - attack.physicalAttrib.attackPowerLowBase
  if spread ≠ 0 then ((battle.rand.1 : Int).tmod spread + 1, battle.rand.2) else (0, battle)

/-- The draw doubles the hurt. -/
def critRoll (attack : RoleState) (battle : PKPE) : Bool :=
  attack.physicalAttrib.attackCrit ≠ 0 ∧
    ¬ short ((attack.physicalAttrib.attackCrit * 100 + 1199).tdiv 1200) <
      (battle.rand.1 % 100 : Nat)

/-- The draws of an attack, or none if it misses. -/
def blow (attackID targetID : Int) (battle : PKPE) : Option Blow :=
  let attack := battle.role attackID
  let target := battle.role targetID
  if getBHitTarget attack.physicalAttrib.attackHit target.physicalAttrib.defenseMiss <
      (battle.rand.1 % 100 : Nat) then none
  else
    let roll := attackRoll attack battle.rand.2
    some ⟨attack, target, roll.1, critRoll attack roll.2⟩

section Attack

variable {battle : PKPE} {id : Int}

theorem attackRoll_toRoles (attack : RoleState) (battle : PKPE) :
    (attackRoll attack battle).2.toRoles = battle.toRoles := by
  unfold attackRoll
  dsimp only
  split
  · exact rand_toRoles ..
  · rfl

theorem weaponHurt_eq (battle : PKPE) (attack target : RoleState) : ∃ effect last,
    weaponHurt attack target battle =
      (Blow.critical .machine ⟨attack, target, (attackRoll attack battle).1,
        critRoll attack (attackRoll attack battle).2⟩, effect, last) ∧ last.toRoles = battle.toRoles := by
  have same := attackRoll_toRoles attack battle
  have low : (if attack.physicalAttrib.attackPowerHignBase -
        attack.physicalAttrib.attackPowerLowBase ≠ 0 then
      (ushort (ushort attack.physicalAttrib.attackPowerLowBase +
        ((battle.rand.1 : Int).tmod (attack.physicalAttrib.attackPowerHignBase -
          attack.physicalAttrib.attackPowerLowBase) + 1)), battle.rand.2)
      else (ushort attack.physicalAttrib.attackPowerLowBase, battle)) =
      (ushort (attack.physicalAttrib.attackPowerLowBase + (attackRoll attack battle).1),
        (attackRoll attack battle).2) := by
    unfold attackRoll ushort
    dsimp only
    split
    · rw [Int.emod_add_emod]
    · simp
  generalize attackRoll attack battle = rolled at same low
  unfold weaponHurt
  dsimp only
  rw [low]
  dsimp only
  by_cases crit : attack.physicalAttrib.attackCrit = 0
  · have once : critRoll attack rolled.2 = false := by simp [critRoll, crit]
    rw [if_pos crit, once]
    exact ⟨.normal, rolled.2, rfl, same⟩
  · rw [if_neg crit]
    by_cases plain : short ((attack.physicalAttrib.attackCrit * 100 + 1199).tdiv 1200) <
        (rolled.2.rand.1 % 100 : Nat)
    · have once : critRoll attack rolled.2 = false := by
        simp only [critRoll, decide_eq_false_iff_not]
        exact fun both => both.2 plain
      rw [if_pos plain, once]
      exact ⟨.normal, rolled.2.rand.2, rfl, (rand_toRoles ..).trans same⟩
    · have twice : critRoll attack rolled.2 = true := by
        simp only [critRoll, decide_eq_true_eq]
        exact ⟨crit, plain⟩
      rw [if_neg plain, twice]
      exact ⟨.twice, rolled.2.rand.2, rfl, (rand_toRoles ..).trans same⟩

/-- Hurts of enemies leave the role as it is. -/
theorem forSelected_hurt_self {select : RoleState → RoleState → Bool}
    (enemies : ∀ role passive, select role passive → passive.opposition ≠ role.opposition)
    (level : PKPE → Int) (hurt : Int) (effect : SkillType) :
    (forSelected id select (fun target battle =>
      calculateSkillHurt target (level battle) hurt effect battle) battle).role id =
        battle.role id := by
  unfold forSelected forRoles
  refine List.foldlRecOn (motive := fun state : PKPE => state.role id = battle.role id) battle.ids _
    rfl fun state same target _ => ?_
  dsimp only
  split
  · next selected =>
      have differs : id ≠ target := by
        rintro rfl
        exact enemies _ _ selected rfl
      exact (loseHp_of_ne _ _ differs).trans same
  · exact same

/-- The luck of the counter attack is the only number of its buff that changes. -/
theorem skillProcess210Buffer_self (battle : PKPE) (id : Int) (index : Nat) (buff : Buff) :
    (skillProcess210Buffer id index buff battle).role id = battle.role id ∨
      (skillProcess210Buffer id index buff battle).role id =
        (battle.role id).modifyBuff index fun buff => { buff with parametar2 := 0 } := by
  unfold skillProcess210Buffer
  split
  · dsimp only
    split
    · right
      rw [forSelected_hurt_self (fun role passive selected => ?_)
        fun battle => (battle.role id).level]
      · rw [modifyRole_self, send_toRoles, rand_toRoles]
      · rw [decide_eq_true_eq] at selected
        exact selected.1.1.2
    · left
      rw [rand_toRoles]
  · exact .inl rfl

end Attack

section Shields

variable {id : Int}

theorem drop_eraseIdx_modify (change : Buff → Buff) {buffs : List Buff} {index : Nat}
    (inside : index < buffs.length) :
    ((buffs.modify index change).eraseIdx index).drop index = buffs.drop (index + 1) := by
  have size : ((buffs.modify index change).take index).length = index := by
    rw [List.length_take, List.length_modify]
    omega
  rw [List.eraseIdx_eq_take_drop_succ, List.drop_left' size,
    List.drop_modify_of_lt _ _ _ _ (Nat.lt_succ_self index)]

/-- The loop takes the hurt through the shields, and the health stays. -/
theorem shieldLoop_eq (fuel index : Nat) (hurt : Int) (battle : PKPE)
    (enough : (battle.role id).multimapBuff.length ≤ index + fuel) :
    (shieldLoop id fuel index hurt battle).1 =
        (shieldsOf ((battle.role id).multimapBuff.drop index)).foldl (Blow.absorb .machine) hurt ∧
      ((shieldLoop id fuel index hurt battle).2.role id).hp = (battle.role id).hp := by
  induction fuel generalizing index hurt battle with
  | zero =>
      rw [List.drop_eq_nil_of_le (by omega)]
      exact ⟨rfl, rfl⟩
  | succ fuel ih =>
      unfold shieldLoop
      cases found : (battle.role id).multimapBuff[index]? with
      | none =>
          rw [List.drop_eq_nil_of_le (List.getElem?_eq_none_iff.mp found)]
          exact ⟨rfl, rfl⟩
      | some buff =>
          obtain ⟨inside, listed⟩ := List.getElem?_eq_some_iff.mp found
          -- The loop goes on with the buffs that follow the index in the role at that moment.
          have resume {next : PKPE} (role : RoleState) (now : next.role id = role) (index : Nat)
              (hurt : Int) (size : role.multimapBuff.length ≤ index + fuel) :
              (shieldLoop id fuel index hurt next).1 =
                  (shieldsOf (role.multimapBuff.drop index)).foldl (Blow.absorb .machine) hurt ∧
                ((shieldLoop id fuel index hurt next).2.role id).hp = role.hp := by
            rw [← now] at size ⊢
            exact ih index hurt next size
          rw [List.drop_eq_getElem_cons inside, listed, shieldsOf_cons]
          dsimp only
          split
          · next shield =>
              rw [List.foldl_cons]
              split
              · next through =>
                  rw [Blow.absorb, if_pos through, ← drop_eraseIdx_modify (fun old =>
                    { old with parametar2 := buff.parametar1 }) inside]
                  refine resume (((battle.role id).modifyBuff index fun old =>
                    { old with parametar2 := buff.parametar1 }).eraseBuff index) ?_ index _ ?_
                  · rw [modifyRole_self, sendBufferStop, send_toRoles, skillProcess209Buffer_self,
                      modifyRole_self]
                  · unfold RoleState.eraseBuff RoleState.modifyBuff
                    dsimp only
                    rw [List.length_eraseIdx_of_lt (by rwa [List.length_modify]),
                      List.length_modify]
                    omega
              · next holds =>
                  rw [Blow.absorb, if_neg holds, ← List.drop_modify_of_lt (fun old =>
                    { old with parametar2 := buff.parametar2 + hurt }) index (index + 1) _
                      (Nat.lt_succ_self index)]
                  refine resume ((battle.role id).modifyBuff index fun old =>
                    { old with parametar2 := buff.parametar2 + hurt }) (modifyRole_self ..)
                      (index + 1) 0 ?_
                  unfold RoleState.modifyBuff
                  rw [List.length_modify]
                  omega
          · next other =>
              split
              · next counter =>
                  rcases skillProcess210Buffer_self battle id index buff with same | reset
                  · exact resume _ same (index + 1) hurt (by omega)
                  · rw [← List.drop_modify_of_lt (fun buff : Buff => { buff with parametar2 := 0 })
                      index (index + 1) _ (Nat.lt_succ_self index)]
                    refine resume _ reset (index + 1) hurt ?_
                    unfold RoleState.modifyBuff
                    rw [List.length_modify]
                    omega
              · exact ih (index + 1) hurt battle (by omega)

end Shields

section Link

variable {attackID targetID : Int} {battle : PKPE}

/-- The hurt is collected by the curses, grows with the feather, and goes through the shields. -/
theorem shieldLoop_sharpen (attackID targetID : Int) (battle : PKPE) {hurt : Int}
    (stored : ushort hurt = hurt) :
    let marked := battle.modifyRole targetID fun role => role.collectHurt hurt
    let sharpened := (marked.role attackID).sharpen hurt
    let struck := marked.modifyRole attackID fun _ => sharpened.2
    let result :=
      shieldLoop targetID (struck.role targetID).multimapBuff.length 0 sharpened.1 struck
    result.1 = (shieldsOf (battle.role targetID).multimapBuff).foldl (Blow.absorb .machine)
        (ushort (hurt + featherOf (battle.role attackID).multimapBuff)) ∧
      (result.2.role targetID).hp = (battle.role targetID).hp := by
  intro marked sharpened struck result
  have collected : marked.role targetID = (battle.role targetID).collectHurt hurt :=
    modifyRole_self ..
  have feather : featherOf (marked.role attackID).multimapBuff =
      featherOf (battle.role attackID).multimapBuff := by
    rcases eq_or_ne attackID targetID with rfl | differs
    · rw [collected, RoleState.featherOf_collectHurt]
    · rw [modifyRole_of_ne _ _ _ _ differs]
  have shields : shieldsOf (struck.role targetID).multimapBuff =
        shieldsOf (battle.role targetID).multimapBuff ∧
      (struck.role targetID).hp = (battle.role targetID).hp := by
    rcases eq_or_ne targetID attackID with rfl | differs
    · have now : struck.role targetID = sharpened.2 := modifyRole_self ..
      rw [now, RoleState.shieldsOf_sharpen, RoleState.sharpen_hp, collected,
        RoleState.shieldsOf_collectHurt]
      exact ⟨rfl, rfl⟩
    · have now : struck.role targetID = marked.role targetID := modifyRole_of_ne _ _ _ _ differs
      rw [now, collected, RoleState.shieldsOf_collectHurt]
      exact ⟨rfl, rfl⟩
  have run := shieldLoop_eq (struck.role targetID).multimapBuff.length 0 sharpened.1 struck
    (Nat.le_add_left _ _)
  rw [List.drop_zero, shields.1, shields.2] at run
  refine ⟨run.1.trans ?_, run.2⟩
  rw [← feather, ← RoleState.sharpen_fst _ stored]

theorem calculateAttackHurt_of_none (misses : battle.blow attackID targetID = none) :
    calculateAttackHurt attackID targetID battle =
      battle.rand.2.send (.hpChange targetID 0 .miss) := by
  unfold blow at misses
  dsimp only at misses
  split at misses
  · next miss =>
      unfold calculateAttackHurt
      dsimp only
      rw [if_pos miss]
  · cases misses

/-- An attack that hits lowers the health of its target by the damage, after the shields. -/
theorem calculateAttackHurt_of_some {blow : Blow}
    (hits : battle.blow attackID targetID = some blow) :
    ∃ effect before, (before.role targetID).hp = (battle.role targetID).hp ∧
      calculateAttackHurt attackID targetID battle =
        if 0 < blow.damage .machine then loseHp targetID (blow.damage .machine) effect before
        else before := by
  unfold PKPE.blow at hits
  dsimp only at hits
  split at hits
  · cases hits
  · next hit =>
      have made := Option.some.inj hits
      have attack : blow.attack = battle.role attackID := by rw [← made]
      have target : blow.target = battle.role targetID := by rw [← made]
      obtain ⟨effect, last, hurt, same⟩ :=
        weaponHurt_eq battle.rand.2 (battle.role attackID) (battle.role targetID)
      rw [rand_toRoles] at same
      obtain ⟨damage, health⟩ := shieldLoop_sharpen attackID targetID last blow.cursed_stored
      rw [same] at damage health
      have exact : _ = blow.damage .machine := damage.trans (by
        unfold Blow.damage Blow.sharpened Blow.shields
        rw [attack, target]
        rfl)
      refine ⟨effect, _, health, ?_⟩
      rw [← exact]
      unfold calculateAttackHurt
      dsimp only
      rw [if_neg hit, hurt]
      subst made
      rfl

theorem attackRoll_range {attack : RoleState} (attributes : attack.Attributes) (battle : PKPE) :
    0 ≤ (attackRoll attack battle).1 ∧
      attack.physicalAttrib.attackPowerLowBase + (attackRoll attack battle).1 ≤
        attack.physicalAttrib.attackPowerHignBase := by
  have ordered := attributes.ordered
  unfold attackRoll
  dsimp only
  split
  · next spread =>
      have low := Int.tmod_nonneg (attack.physicalAttrib.attackPowerHignBase -
        attack.physicalAttrib.attackPowerLowBase) (Int.natCast_nonneg battle.rand.1)
      have high := Int.tmod_lt_of_pos (battle.rand.1 : Int)
        (lt_of_le_of_ne (sub_nonneg.mpr ordered) spread.symm)
      omega
  · omega

theorem inRange_of_attributes {blow : Blow} (hits : battle.blow attackID targetID = some blow)
    (attack : (battle.role attackID).Attributes) (target : (battle.role targetID).Attributes) :
    blow.target = battle.role targetID ∧ blow.InRange := by
  unfold PKPE.blow at hits
  dsimp only at hits
  split at hits
  · cases hits
  · cases hits
    have roll := attackRoll_range attack battle.rand.2
    exact ⟨rfl, attack.low, roll.1, roll.2.trans attack.high, attack.add, attack.level,
      target.level, target.armor, target.hurtAdd, target.hp⟩

end Link

/-- A strong player with a sure critical hit, and a weak one. -/
def duel : PKPE :=
  { empty 7 1 (fun _ => false) (fun id =>
      if id = 1 then
        { (default : RoleState) with
          hp := 100
          physicalAttrib := { (default : PhysicalAttr) with
            attackHit := 100, attackCrit := 1200
            attackPowerLowBase := 32767, attackPowerHignBase := 32767 } }
      else
        { (default : RoleState) with
          opposition := 4, level := 1, hp := 100
          physicalAttrib := { (default : PhysicalAttr) with
            attackPowerLowBase := 20, attackPowerHignBase := 40 } }) with
    ids := [1, 2], pkState := .pking, draws := [0, 0] }

theorem duel_attributes (id : Int) : (duel.role id).Attributes := by
  unfold duel empty
  dsimp only
  split <;> constructor <;> decide

end PKPE

end AppSvr.PkServer
