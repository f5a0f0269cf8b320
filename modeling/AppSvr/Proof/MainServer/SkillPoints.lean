/-
This file proves when a role gets a level and its attributes for every point that it spends.
-/

import AppSvr.Construction.MainServer.RoleSkill
import AppSvr.Proof.MainServer.HealthClamps
import Mathlib.Data.List.Induction

namespace AppSvr.MainServer

section Additions

/-- The additions to one attribute, in exact arithmetic. -/
def added (additions : Additions) (attr : RoleAttr) : Int :=
  ((additions.filter fun entry => entry.1 = attr).map fun entry => entry.2.toInt).sum

theorem added_cons (entry : RoleAttr × Int32) (additions : Additions) (attr : RoleAttr) :
    added (entry :: additions) attr =
      (if entry.1 = attr then entry.2.toInt else 0) + added additions attr := by
  unfold added
  by_cases same : entry.1 = attr
  · rw [List.filter_cons_of_pos (by simpa using same), List.map_cons, List.sum_cons, if_pos same]
  · rw [List.filter_cons_of_neg (by simpa using same), if_neg same, Int.zero_add]

theorem added_nonneg {additions : Additions} (nonneg : ∀ entry ∈ additions, 0 ≤ entry.2.toInt)
    (attr : RoleAttr) : 0 ≤ added additions attr := by
  induction additions with
  | nil => exact Int.le_refl 0
  | cons entry additions ih =>
      rw [List.forall_mem_cons] at nonneg
      have rest := ih nonneg.2
      have first := nonneg.1
      rw [added_cons]
      split <;> omega

theorem addAttr_exact {value : UInt32} {input : Int32} (nonneg : 0 ≤ input.toInt)
    (room : value.toNat + input.toInt < 2 ^ 32) :
    ((addAttr value input).toNat : Int) = value.toNat + input.toInt := by
  have bound := toNat_toUInt32_lt input
  have signed := toInt_eq_toUInt32 input
  rw [addAttr_toNat]
  split at signed
  · rw [if_neg (by omega), Nat.mod_eq_of_lt (by omega)]
    omega
  · omega

/-- Nothing wraps while every sum has room. -/
theorem addAll_exact {attrs : RoleAttrs} {additions : Additions}
    (nonneg : ∀ entry ∈ additions, 0 ≤ entry.2.toInt)
    (room : ∀ attr, (attrs attr).toNat + added additions attr < 2 ^ 32) (attr : RoleAttr) :
    ((attrs.addAll additions attr).toNat : Int) = (attrs attr).toNat + added additions attr := by
  induction additions generalizing attrs with
  | nil => exact (Int.add_zero _).symm
  | cons entry additions ih =>
      rw [List.forall_mem_cons] at nonneg
      have rest := added_nonneg nonneg.2
      simp only [added_cons] at room ⊢
      have step (attr : RoleAttr) :
          ((Function.update attrs entry.1 (addAttr (attrs entry.1) entry.2) attr).toNat : Int) =
            (attrs attr).toNat + if entry.1 = attr then entry.2.toInt else 0 := by
        by_cases same : entry.1 = attr
        · subst same
          have first := room entry.1
          have later := rest entry.1
          rw [if_pos rfl] at first ⊢
          rw [Function.update_self, addAttr_exact nonneg.1 (by omega)]
        · rw [if_neg same, Function.update_of_ne (Ne.symm same), Int.add_zero]
      refine (ih nonneg.2 fun attr => ?_).trans ?_
      · rw [step]
        have first := room attr
        omega
      · rw [step, Int.add_assoc]

end Additions

section Talents

variable (proID : UInt32) (p : Int)

/-- All values of a macro but the one of the tenth talent are the same. -/
theorem byLevel_same (value : Int32) : byLevel value value value value value value p = value := by
  unfold byLevel
  split_ifs <;> rfl

theorem addSkill10_later (later : p ≠ 1) : addSkill10 p = 1 := by
  unfold addSkill10 byLevel
  rw [if_neg later]
  split_ifs <;> rfl

/-- The attributes that a level of a skill adds by the macro of its own number. Only talents add
any. -/
def definedAdditions (proID : UInt32) (skillID level : Int) : Additions :=
  if skillID = 311 then [(.dodgeRate, addSkill11 level)]
  else if 301 ≤ skillID ∧ skillID ≤ 312 then talentAdditions proID (skillID - 300) level
  else []

/-- The level matters to the tenth talent alone. -/
theorem talentAdditions_level {talentID first second : Int}
    (tenth : talentID = 10 → first ≠ 1 ∧ second ≠ 1) :
    talentAdditions proID talentID first = talentAdditions proID talentID second := by
  unfold talentAdditions
  split
  case h_12 =>
    obtain ⟨laterFirst, laterSecond⟩ := tenth rfl
    rw [if_neg laterFirst, if_neg laterSecond, addSkill10_later _ laterFirst,
      addSkill10_later _ laterSecond]
  all_goals
    simp only [addSkill1, addSkill2, addSkill3, addSkill4, addSkill5, addSkill6, addSkill7,
      addSkill8, addSkill9, addSkill12, byLevel_same]

theorem talentAdditions_nonneg (talentID skilllev : Int) :
    ∀ entry ∈ talentAdditions proID talentID skilllev, 0 ≤ entry.2.toInt := by
  unfold talentAdditions roleAddStrength roleAddAgility roleAddIntelligence
  simp only [addSkill1, addSkill2, addSkill3, addSkill4, addSkill5, addSkill6, addSkill7,
    addSkill8, addSkill9, addSkill12, byLevel_same]
  have tenth : 0 ≤ (addSkill10 skilllev).toInt := by
    by_cases first : skilllev = 1
    · rw [first]
      decide
    · rw [addSkill10_later _ first]
      decide
  split
  case h_12 =>
    split_ifs
    · decide
    · simpa using tenth
  all_goals
    try split_ifs
    all_goals decide

theorem definedAdditions_nonneg (skillID level : Int) :
    ∀ entry ∈ definedAdditions proID skillID level, 0 ≤ entry.2.toInt := by
  unfold definedAdditions
  split_ifs
  · rw [addSkill11, byLevel_same]
    decide
  · exact talentAdditions_nonneg proID _ _
  · exact List.forall_mem_nil _

/-- The code reads the number of the skill in the place of its level. -/
theorem talentAdditions_defined {skillID level skilllev : Int}
    (talent : 301 ≤ skillID ∧ skillID ≤ 312) (other : skillID ≠ 311) (late : skilllev ≠ 1)
    (tenth : skillID = 310 → level ≠ 1) :
    talentAdditions proID (skillID - 300) skilllev = definedAdditions proID skillID level := by
  rw [definedAdditions, if_neg other, if_pos talent]
  exact talentAdditions_level proID fun same => ⟨late, tenth (by omega)⟩

end Talents

section Reading

variable {lis : List ArchvSkill} {rows : List RoleSkill} {skillID : Int}

/-- The numbers fit the fields of `ArchvSkill`. -/
structure RoleSkill.Fits (row : RoleSkill) : Prop where
  skillID : 0 ≤ row.skillID ∧ row.skillID < 65536
  skillLev : 0 ≤ row.skillLev ∧ row.skillLev < 256

structure SkillRequie.Fits (row : SkillRequie) : Prop where
  requiedSkillID : 0 ≤ row.requiedSkillID ∧ row.requiedSkillID < 65536
  requiedSkillLev : 0 ≤ row.requiedSkillLev ∧ row.requiedSkillLev < 256

theorem ofInt_skillID {value : Int} (fits : 0 ≤ value ∧ value < 65536) :
    ((UInt16.ofInt value).toNat : Int) = value := by
  rw [UInt16.ofInt, UInt16.toNat_ofNat']
  omega

theorem ofInt_skillLevel {value : Int} (fits : 0 ≤ value ∧ value < 256) :
    ((UInt8.ofInt value).toNat : Int) = value := by
  rw [UInt8.ofInt, UInt8.toNat_ofNat']
  omega

theorem ofInt_skillID_inj {first second : Int} (fitsFirst : 0 ≤ first ∧ first < 65536)
    (fitsSecond : 0 ≤ second ∧ second < 65536) :
    UInt16.ofInt first = UInt16.ofInt second ↔ first = second := by
  constructor
  · intro same
    rw [← ofInt_skillID fitsFirst, ← ofInt_skillID fitsSecond, same]
  · exact congrArg UInt16.ofInt

theorem ofInt_skillLevel_lt {first second : Int} (fitsFirst : 0 ≤ first ∧ first < 256)
    (fitsSecond : 0 ≤ second ∧ second < 256) :
    UInt8.ofInt first < UInt8.ofInt second ↔ first < second := by
  have one := ofInt_skillLevel fitsFirst
  have two := ofInt_skillLevel fitsSecond
  rw [UInt8.lt_iff_toNat_lt]
  omega

/-- The only row with a number splits the table. -/
theorem once_split (once : (rows.filter fun row => row.skillID = skillID).length = 1) :
    ∃ front row back, rows = front ++ row :: back ∧ row.skillID = skillID ∧
      (∀ other ∈ front, other.skillID ≠ skillID) ∧ ∀ other ∈ back, other.skillID ≠ skillID := by
  obtain ⟨row, only⟩ := List.length_eq_one_iff.mp once
  obtain ⟨front, back, split, before, same, after⟩ := List.filter_eq_cons_iff.mp only
  exact ⟨front, row, back, split, of_decide_eq_true same,
    fun other member => by simpa using before other member,
    fun other member => by simpa using List.filter_eq_nil_iff.mp after other member⟩

/-- Other rows leave the level that was found. -/
theorem foldl_skillLev_other (others : ∀ sk ∈ lis, (sk.skillID.toNat : Int) ≠ skillID) (lev : Int) :
    lis.foldl (fun lev sk =>
      if (sk.skillID.toNat : Int) = skillID then sk.skillLevel.toNat else lev) lev = lev := by
  induction lis with
  | nil => rfl
  | cons sk lis ih =>
      rw [List.forall_mem_cons] at others
      rw [List.foldl_cons, if_neg others.1]
      exact ih others.2

theorem skillLev_once {front back : List RoleSkill} {row : RoleSkill}
    (fits : ∀ other ∈ front ++ row :: back, other.Fits) (same : row.skillID = skillID)
    (after : ∀ other ∈ back, other.skillID ≠ skillID) :
    skillLev ((front ++ row :: back).map RoleSkill.read) skillID = row.skillLev := by
  simp only [List.forall_mem_append, List.forall_mem_cons] at fits
  have unread {part : List RoleSkill} (fit : ∀ other ∈ part, other.Fits)
      (none : ∀ other ∈ part, other.skillID ≠ skillID) :
      ∀ sk ∈ part.map RoleSkill.read, (sk.skillID.toNat : Int) ≠ skillID := by
    intro sk member
    obtain ⟨other, found, rfl⟩ := List.mem_map.mp member
    rw [RoleSkill.read, ofInt_skillID (fit other found).skillID]
    exact none other found
  have found : (row.read.skillID.toNat : Int) = skillID := by
    rw [RoleSkill.read, ofInt_skillID fits.2.1.skillID, same]
  rw [skillLev, List.map_append, List.map_cons, List.foldl_append, List.foldl_cons, if_pos found,
    foldl_skillLev_other (unread fits.2.2 after), RoleSkill.read,
    ofInt_skillLevel fits.2.1.skillLev]

/-- The search for a required skill finds the row that is read. -/
theorem find_read {requie : SkillRequie} (fits : ∀ row ∈ rows, row.Fits) (fit : requie.Fits) :
    (rows.map RoleSkill.read).find? (fun held => held.skillID = requie.read.skillID) =
      (rows.find? fun row => row.skillID = requie.requiedSkillID).map RoleSkill.read := by
  rw [List.find?_map]
  congr 1
  induction rows with
  | nil => rfl
  | cons row rows ih =>
      rw [List.forall_mem_cons] at fits
      have same : (row.read.skillID = requie.read.skillID) ↔ row.skillID = requie.requiedSkillID :=
        ofInt_skillID_inj fits.1.skillID fit.requiedSkillID
      rw [List.find?_cons, List.find?_cons, ih fits.2, Function.comp_apply, decide_eq_decide.mpr same]

end Reading

namespace SkilledRole

variable (role : SkilledRole) (skillRequie : List SkillRequie)

/-- The sum of the levels over the rows of the role. -/
def levels : Int := (role.roleSkill.map RoleSkill.skillLev).sum

def points : Int := role.addPoint.toNat + role.levels

/-- A skill that the role does not have counts as level zero. -/
def levelOf (skillID : Int) : Int :=
  ((role.roleSkill.find? fun row => row.skillID = skillID).map RoleSkill.skillLev).getD 0

def BelowCap (skillID level : Int) : Prop :=
  (skillID < 300 → level < 6) ∧ (300 < skillID → level < 10)

/-- The call spends a point for the next level of one row between the others. -/
structure GainsLevel (skillRequie : List SkillRequie) (before after : SkilledRole)
    (front : List RoleSkill) (row : RoleSkill) (back : List RoleSkill) : Prop where
  rowsBefore : before.roleSkill = front ++ row :: back
  rowsAfter : after.roleSkill = front ++ { row with skillLev := row.skillLev + 1 } :: back
  point : after.addPoint.toNat + 1 = before.addPoint.toNat
  belowCap : BelowCap row.skillID row.skillLev
  requied : ∀ requie ∈ skillRequie, requie.proID = printed before.proID →
    requie.skillLev = row.skillLev + 1 → requie.skillID = row.skillID →
      requie.requiedSkillLev ≤ before.levelOf requie.requiedSkillID
  attrs : ∀ attr, ((after.attrs attr).toNat : Int) = (before.attrs attr).toNat +
    added (definedAdditions before.proID row.skillID (row.skillLev + 1)) attr
  proID : after.proID = before.proID

/-- A call that raises no level changes nothing. -/
def FairCall (before after : SkilledRole) : Prop :=
  after = before ∨ ∃ front row back, GainsLevel skillRequie before after front row back

/-- The numbers that the call reads fit the fields that hold them. -/
structure Readable (role : SkilledRole) (skillRequie : List SkillRequie) (skillID : Int) :
    Prop where
  roleSkill : ∀ row ∈ role.roleSkill, row.Fits
  requied : ∀ requie ∈ role.requied skillRequie skillID, requie.Fits

/-- A required skill of the role has a lower level. -/
def Lacks (skillID : Int) : Prop :=
  ∃ requie ∈ role.requied skillRequie skillID, ∃ row,
    (role.roleSkill.find? fun row => row.skillID = requie.requiedSkillID) = some row ∧
      row.skillLev < requie.requiedSkillLev

/-- Nothing goes wrong when the call raises the level. -/
structure Raisable (role : SkilledRole) (skillRequie : List SkillRequie) (skillID : Int) :
    Prop where
  once : (role.roleSkill.filter fun row => row.skillID = skillID).length = 1
  belowCap : BelowCap skillID (role.lev skillID)
  known : ∀ requie ∈ role.requied skillRequie skillID,
    requie.requiedSkillLev = 0 ∨ ∃ row ∈ role.roleSkill, row.skillID = requie.requiedSkillID
  eleventh : skillID ≠ 311
  tenth : skillID = 310 → role.lev skillID ≠ 0
  room : ∀ attr, (role.attrs attr).toNat +
    added (definedAdditions role.proID skillID (role.lev skillID + 1)) attr < 2 ^ 32

/-- The call is refused, or its skill can be raised. -/
def SoundCall (skillID : Int) : Prop :=
  role.addPoint = 0 ∨ role.roleSkill = [] ∨ role.Readable skillRequie skillID ∧
    (role.topLev skillID ∨ role.Lacks skillRequie skillID ∨ role.Raisable skillRequie skillID)

section Calls

variable {role : SkilledRole} {skillRequie : List SkillRequie} {memory : Unwritten} {skillID : Int}

variable {requies : List SkillRequie}

/-- The level that the code compares for a row of the requirements. -/
theorem requied_level {requie : SkillRequie}
    (fits : ∀ row ∈ role.roleSkill, row.Fits) (fit : requie.Fits) :
    ((role.lis.find? fun held => held.skillID = requie.read.skillID).map
        ArchvSkill.skillLevel).getD (memory.endLevel requies) =
      ((role.roleSkill.find? fun row => row.skillID = requie.requiedSkillID).map
        fun row => UInt8.ofInt row.skillLev).getD (memory.endLevel requies) := by
  rw [lis, find_read fits fit, Option.map_map]
  rfl

/-- A row that refuses is never passed, whatever the other rows compare. -/
theorem not_meetsRequied
    (fits : ∀ row ∈ role.roleSkill, row.Fits) (fit : ∀ requie ∈ requies, requie.Fits)
    (lacks : ∃ requie ∈ requies, ∃ row,
      (role.roleSkill.find? fun row => row.skillID = requie.requiedSkillID) = some row ∧
        row.skillLev < requie.requiedSkillLev) :
    meetsRequied role.lis memory requies = false := by
  induction requies with
  | nil =>
      obtain ⟨requie, member, -⟩ := lacks
      cases member
  | cons requie requies ih =>
      rw [List.forall_mem_cons] at fit
      rw [meetsRequied, requied_level fits fit.1]
      obtain ⟨lacking, member, row, found, lower⟩ := lacks
      rcases List.mem_cons.mp member with rfl | member
      · have low := (ofInt_skillLevel_lt (fits row (List.mem_of_find?_eq_some found)).skillLev
          fit.1.requiedSkillLev).mpr lower
        rw [found]
        exact if_pos low
      · rw [ih fit.2 ⟨lacking, member, row, found, lower⟩]
        exact ite_self _

/-- The rows that are passed are met by the levels of the role. -/
theorem requied_le_levelOf
    (fits : ∀ row ∈ role.roleSkill, row.Fits) (fit : ∀ requie ∈ requies, requie.Fits)
    (known : ∀ requie ∈ requies,
      requie.requiedSkillLev = 0 ∨ ∃ row ∈ role.roleSkill, row.skillID = requie.requiedSkillID)
    (meets : meetsRequied role.lis memory requies) :
    ∀ requie ∈ requies, requie.requiedSkillLev ≤ role.levelOf requie.requiedSkillID := by
  induction requies with
  | nil => exact List.forall_mem_nil _
  | cons requie requies ih =>
      rw [List.forall_mem_cons] at fit known
      rw [meetsRequied, requied_level fits fit.1] at meets
      rw [List.forall_mem_cons]
      cases found : role.roleSkill.find? fun row => row.skillID = requie.requiedSkillID with
      | none =>
          have zero : requie.requiedSkillLev = 0 := by
            rcases known.1 with zero | ⟨row, member, same⟩
            · exact zero
            · have other := List.find?_eq_none.mp found row member
              rw [decide_eq_true_iff] at other
              exact absurd same other
          rw [found, Option.map_none, Option.getD_none] at meets
          have low : ¬ memory.endLevel (requie :: requies) < requie.read.skillLevel := by
            rw [SkillRequie.read, zero]
            exact UInt8.not_lt.mpr (UInt8.zero_le)
          rw [if_neg low] at meets
          rw [levelOf, found, zero]
          exact ⟨Int.le_refl 0, ih fit.2 known.2 meets⟩
      | some row =>
          rw [found, Option.map_some, Option.getD_some] at meets
          have member := List.mem_of_find?_eq_some found
          by_cases low : row.skillLev < requie.requiedSkillLev
          · rw [SkillRequie.read, if_pos ((ofInt_skillLevel_lt (fits row member).skillLev
              fit.1.requiedSkillLev).mpr low)] at meets
            cases meets
          · rw [SkillRequie.read, if_neg fun less => low ((ofInt_skillLevel_lt
              (fits row member).skillLev fit.1.requiedSkillLev).mp less)] at meets
            rw [levelOf, found]
            exact ⟨Int.not_lt.mp low, ih fit.2 known.2 meets⟩

theorem addAttr_neg_one {value : UInt32} (positive : value ≠ 0) :
    (addAttr value (-1)).toNat + 1 = value.toNat := by
  have bound := value.toNat_lt
  have some : value.toNat ≠ 0 := fun zero => positive (UInt32.toNat_inj.mp zero)
  have input : (-1 : Int32).toUInt32.toNat = 2 ^ 32 - 1 := by decide
  rw [addAttr_toNat, input, if_neg (by omega)]
  omega

/-- The attributes grow by what the source defines for the skill and its next level. -/
theorem attrs_exact (role : SkilledRole) (memory : Unwritten) {level : Int}
    (once : (role.roleSkill.filter fun row => row.skillID = skillID).length = 1)
    (eleventh : skillID ≠ 311) (tenth : skillID = 310 → level ≠ 1)
    (room : ∀ attr, (role.attrs attr).toNat +
      added (definedAdditions role.proID skillID level) attr < 2 ^ 32) (attr : RoleAttr) :
    (((if 301 ≤ skillID ∧ skillID ≤ 312 then role.roleAddtalentpoint memory (skillID - 300)
      else role).attrs attr).toNat : Int) =
        (role.attrs attr).toNat + added (definedAdditions role.proID skillID level) attr := by
  by_cases talent : 301 ≤ skillID ∧ skillID ≤ 312
  · obtain ⟨row, only⟩ := List.length_eq_one_iff.mp once
    have found : row ∈ role.roleSkill.filter fun row => row.skillID = skillID := by
      rw [only]
      exact List.mem_singleton_self row
    have same := of_decide_eq_true (List.mem_filter.mp found).2
    have number : skillID - 300 + 300 = skillID := by omega
    rw [if_pos talent, roleAddtalentpoint, number, only, List.foldl_cons, List.foldl_nil,
      talentAdditions_defined role.proID talent eleventh (by omega) tenth]
    exact addAll_exact (definedAdditions_nonneg _ _ _) room attr
  · rw [if_neg talent, definedAdditions, if_neg eleventh, if_neg talent]
    exact (Int.add_zero _).symm

/-- The rows around the raised one stay. -/
theorem map_raise {front back : List RoleSkill} {row : RoleSkill} (same : row.skillID = skillID)
    (before : ∀ other ∈ front, other.skillID ≠ skillID)
    (after : ∀ other ∈ back, other.skillID ≠ skillID) :
    ((front ++ row :: back).map fun row =>
      if row.skillID = skillID then { row with skillLev := row.skillLev + 1 } else row) =
        front ++ { row with skillLev := row.skillLev + 1 } :: back := by
  have stays {part : List RoleSkill} (others : ∀ other ∈ part, other.skillID ≠ skillID) :
      (part.map fun row =>
        if row.skillID = skillID then { row with skillLev := row.skillLev + 1 } else row) = part := by
    refine (List.map_congr_left fun other member => ?_).trans (List.map_id part)
    exact if_neg (others other member)
  rw [List.map_append, List.map_cons, stays before, stays after, if_pos same]

/-- The rest of the call, behind its tests, raises the level. -/
theorem updateSkillLev_gains (readable : role.Readable skillRequie skillID)
    (raisable : role.Raisable skillRequie skillID)
    (meets : meetsRequied role.lis memory (role.requied skillRequie skillID))
    (positive : role.addPoint ≠ 0) :
    let paid := { role with addPoint := addAttr role.addPoint (-1) }
    let trained := if 301 ≤ skillID ∧ skillID ≤ 312
      then paid.roleAddtalentpoint memory (skillID - 300) else paid
    ∃ front row back,
      GainsLevel skillRequie role (trained.updateSkillLev skillID) front row back := by
  intro paid trained
  obtain ⟨front, row, back, split, same, before, after⟩ := once_split raisable.once
  have level : role.lev skillID = row.skillLev := by
    have fits := readable.roleSkill
    rw [split] at fits
    rw [lev, lis, split]
    exact skillLev_once fits same after
  have requied := requied_le_levelOf readable.roleSkill readable.requied raisable.known meets
  have frame : trained.roleSkill = role.roleSkill ∧ trained.addPoint = paid.addPoint ∧
      trained.proID = role.proID := by
    dsimp only [trained]
    split_ifs <;> exact ⟨rfl, rfl, rfl⟩
  obtain ⟨rows, point, proID⟩ := frame
  refine ⟨front, row, back, split, ?_, ?_, ?_, ?_, ?_, proID⟩
  · rw [updateSkillLev, rows, split]
    exact map_raise same before after
  · rw [updateSkillLev, point]
    exact addAttr_neg_one positive
  · rw [same, ← level]
    exact raisable.belowCap
  · intro requie member pro next number
    apply requied requie
    rw [SkilledRole.requied, List.mem_filter, decide_eq_true_iff, level, ← same]
    exact ⟨member, pro, next, number⟩
  · intro attr
    rw [same, ← level]
    apply attrs_exact paid memory raisable.once raisable.eleventh _ raisable.room
    intro talent
    have late := raisable.tenth talent
    omega

theorem roleAddSKill_fair (sound : role.SoundCall skillRequie skillID) :
    FairCall skillRequie role (role.roleAddSKill skillRequie memory skillID) := by
  rcases sound with none | empty | ⟨readable, sound⟩
  · refine .inl (if_pos ?_)
    rw [none]
    exact UInt32.le_refl 0
  · refine .inl ?_
    rw [roleAddSKill, if_pos empty, ite_self]
  unfold roleAddSKill
  by_cases none : role.addPoint ≤ 0
  · exact .inl (if_pos none)
  by_cases empty : role.roleSkill = []
  · exact .inl (by rw [if_neg none, if_pos empty])
  by_cases top : role.topLev skillID
  · exact .inl (by rw [if_neg none, if_neg empty, if_pos top])
  by_cases meets : meetsRequied role.lis memory (role.requied skillRequie skillID)
  · rw [if_neg none, if_neg empty, if_neg top, if_pos meets]
    rcases sound with refused | lacks | raisable
    · exact absurd refused top
    · rw [not_meetsRequied readable.roleSkill readable.requied lacks] at meets
      cases meets
    · have positive : role.addPoint ≠ 0 := fun zero => none (by rw [zero]; exact UInt32.le_refl 0)
      obtain ⟨front, row, back, gains⟩ := updateSkillLev_gains readable raisable meets positive
      exact .inr ⟨front, row, back, gains⟩
  · exact .inl (by rw [if_neg none, if_neg empty, if_neg top, if_neg meets])

end Calls

section Runs

variable {role before after : SkilledRole} {skillRequie : List SkillRequie}

theorem GainsLevel.points {front back : List RoleSkill} {row : RoleSkill}
    (gains : GainsLevel skillRequie before after front row back) :
    after.points = before.points := by
  have point := gains.point
  unfold SkilledRole.points levels
  rw [gains.rowsBefore, gains.rowsAfter, List.map_append, List.map_append, List.sum_append,
    List.sum_append, List.map_cons, List.map_cons, List.sum_cons, List.sum_cons]
  dsimp only
  omega

theorem FairCall.points (fair : FairCall skillRequie before after) :
    after.points = before.points := by
  rcases fair with same | ⟨front, row, back, gains⟩
  · rw [same]
  · exact gains.points

theorem performCalls_append (calls : List (Int × Unwritten)) (call : Int × Unwritten) :
    role.performCalls skillRequie (calls ++ [call]) =
      (role.performCalls skillRequie calls).roleAddSKill skillRequie call.2 call.1 := by
  rw [performCalls, List.foldl_append]
  rfl

/-- An unreadable request has no calls. -/
theorem run_eq_performCalls (requests : List SkillRequest) :
    role.run skillRequie requests =
      role.performCalls skillRequie (requests.flatMap SkillRequest.calls) := by
  induction requests generalizing role with
  | nil => rfl
  | cons request requests ih =>
      have first : (role.processRoleSkillAdd skillRequie request).2 =
          role.performCalls skillRequie request.calls := by
        obtain ⟨sk | sk, memory⟩ := request <;> rfl
      rw [List.flatMap_cons, performCalls, List.foldl_append]
      exact (congrArg (fun next => run next skillRequie requests) first).trans ih

/-- What every call keeps is kept from the start to every state that the calls reach. -/
theorem performCalls_points (calls : List (Int × Unwritten))
    (fair : ∀ front call, front ++ [call] <+: calls →
      FairCall skillRequie (role.performCalls skillRequie front)
        (role.performCalls skillRequie (front ++ [call]))) :
    ∀ front, front <+: calls → (role.performCalls skillRequie front).points = role.points := by
  intro front
  induction front using List.reverseRecOn with
  | nil => exact fun _ => rfl
  | append_singleton front call ih =>
      intro reached
      exact (fair front call reached).points.trans (ih ((List.prefix_append _ _).trans reached))

end Runs

/-- The points are spent fairly in every run whose calls are refused or raise a skill that can be
raised. -/
theorem skillPoints_fair (role : SkilledRole) (skillRequie : List SkillRequie)
    (requests : List SkillRequest)
    (sound : ∀ front call, front ++ [call] <+: requests.flatMap SkillRequest.calls →
      (role.performCalls skillRequie front).SoundCall skillRequie call.1) :
    (role.run skillRequie requests).points = role.points ∧
      (∀ front, front <+: requests.flatMap SkillRequest.calls →
        (role.performCalls skillRequie front).points = role.points) ∧
      ∀ front call, front ++ [call] <+: requests.flatMap SkillRequest.calls →
        FairCall skillRequie (role.performCalls skillRequie front)
          (role.performCalls skillRequie (front ++ [call])) := by
  have fair : ∀ front call, front ++ [call] <+: requests.flatMap SkillRequest.calls →
      FairCall skillRequie (role.performCalls skillRequie front)
        (role.performCalls skillRequie (front ++ [call])) := by
    intro front call reached
    rw [performCalls_append]
    exact roleAddSKill_fair (sound front call reached)
  have points := performCalls_points _ fair
  refine ⟨?_, points, fair⟩
  rw [run_eq_performCalls]
  exact points _ (List.prefix_refl _)

section Examples

/-- The role has one point and an untrained talent. -/
def novice : SkilledRole := ⟨1, 1, fun _ => 0, [⟨302, 0⟩]⟩

def skillRequest (skillID : UInt16) : SkillRequest :=
  ⟨some [⟨skillID, 1⟩], fun _ => ⟨fun _ => 0, 0⟩⟩

theorem reached_single {calls : List (Int × Unwritten)} {only : Int × Unwritten}
    {front : List (Int × Unwritten)} {call : Int × Unwritten} (single : calls = [only])
    (reached : front ++ [call] <+: calls) : front = [] ∧ call = only := by
  rw [single] at reached
  have short := reached.length_le
  rw [List.length_append, List.length_singleton, List.length_singleton] at short
  obtain rfl : front = [] := List.eq_nil_of_length_eq_zero (by omega)
  obtain ⟨rest, whole⟩ := reached
  exact ⟨rfl, (List.cons.inj whole).1⟩

theorem skillPoints_fair_talent :
    (novice.run [] [skillRequest 302]).points = novice.points := by
  refine (skillPoints_fair novice [] [skillRequest 302] fun front call reached => ?_).1
  obtain ⟨rfl, rfl⟩ := reached_single rfl reached
  refine .inr (.inr ⟨⟨?_, List.forall_mem_nil _⟩, .inr (.inr ?_)⟩)
  · exact List.forall_mem_singleton.mpr ⟨by decide, by decide⟩
  · refine ⟨by decide, by unfold BelowCap; decide, List.forall_mem_nil _, by decide, by decide, ?_⟩
    intro attr
    cases attr <;> decide

/-- A skill that the role does not have takes a point for nothing. -/
theorem skillPoints_not_fair :
    ¬ ∀ (role : SkilledRole) (skillRequie : List SkillRequie) (requests : List SkillRequest),
      (role.run skillRequie requests).points = role.points ∧
        (∀ front, front <+: requests.flatMap SkillRequest.calls →
          (role.performCalls skillRequie front).points = role.points) ∧
        ∀ front call, front ++ [call] <+: requests.flatMap SkillRequest.calls →
          FairCall skillRequie (role.performCalls skillRequie front)
            (role.performCalls skillRequie (front ++ [call])) := by
  intro claim
  exact absurd (claim novice [] [skillRequest 999]).1 (by decide)

end Examples

end SkilledRole

end AppSvr.MainServer
