/-
This file proves when a battle starts with everyone on a cell of their own.
-/

import AppSvr.Construction.MainServer.PKPlacement

namespace AppSvr.MainServer

namespace ArchvPosition

/-- The cell lies in the left half of the screen. -/
def Left (pos : ArchvPosition) : Prop := pos.x < 25

def Inside (pos : ArchvPosition) : Prop :=
  (pos.x.toNat : Int) < pkScreenXLength ∧ (pos.y.toNat : Int) < pkScreenYLength

end ArchvPosition

/-- All start cells are different cells of the screen, and the two sides keep to different
halves. -/
structure OwnCells (places : List PKPlace) : Prop where
  inside : ∀ place ∈ places, place.currPos.Inside
  apart : (places.map PKPlace.currPos).Nodup
  halves : ∀ place ∈ places, ∀ other ∈ places,
    (place.opposition = 1 ↔ other.opposition = 1) ↔ (place.currPos.Left ↔ other.currPos.Left)

/-- The cells of one side are different cells of one half. -/
structure SidePlaced (left : Prop) (cells : List ArchvPosition) : Prop where
  inside : ∀ cell ∈ cells, cell.Inside
  apart : cells.Nodup
  half : ∀ cell ∈ cells, cell.Left ↔ left

theorem SidePlaced.nil (left : Prop) : SidePlaced left [] := ⟨by simp, List.nodup_nil, by simp⟩

section Sides

variable {left : Prop} {first second : List PKPlace}

/-- Two sides on different halves share no cell. -/
theorem OwnCells.of_sides (placed : SidePlaced left (first.map PKPlace.currPos))
    (placed' : SidePlaced (¬ left) (second.map PKPlace.currPos))
    (attack : ∀ place ∈ first, place.opposition = 1)
    (defend : ∀ place ∈ second, place.opposition ≠ 1) : OwnCells (first ++ second) := by
  have half : ∀ place ∈ first, place.currPos.Left ↔ left := fun place member =>
    placed.half _ (List.mem_map_of_mem member)
  have half' : ∀ place ∈ second, place.currPos.Left ↔ ¬ left := fun place member =>
    placed'.half _ (List.mem_map_of_mem member)
  refine ⟨?_, ?_, ?_⟩
  · intro place member
    exact (List.mem_append.mp member).elim
      (fun member => placed.inside _ (List.mem_map_of_mem member))
      fun member => placed'.inside _ (List.mem_map_of_mem member)
  · rw [List.map_append]
    refine List.nodup_append'.mpr ⟨placed.apart, placed'.apart, ?_⟩
    intro cell member member'
    exact iff_not_self ((placed.half cell member).symm.trans (placed'.half cell member'))
  · intro place member other member'
    obtain member | member := List.mem_append.mp member <;>
      obtain member' | member' := List.mem_append.mp member'
    · exact iff_of_true (iff_of_true (attack place member) (attack other member'))
        ((half place member).trans (half other member').symm)
    · refine iff_of_false (fun same => defend other member' (same.mp (attack place member))) ?_
      exact fun same =>
        iff_not_self ((half place member).symm.trans (same.trans (half' other member')))
    · refine iff_of_false (fun same => defend place member (same.mpr (attack other member'))) ?_
      exact fun same =>
        iff_not_self ((half other member').symm.trans (same.symm.trans (half' place member)))
    · exact iff_of_true (iff_of_false (defend place member) (defend other member'))
        ((half' place member).trans (half' other member').symm)

/-- Two places of different sides are in different halves. -/
theorem OwnCells.other_half (own : OwnCells (first ++ second))
    (attack : ∀ place ∈ first, place.opposition = 1)
    (defend : ∀ place ∈ second, place.opposition ≠ 1) {place other : PKPlace}
    (member : place ∈ first) (member' : other ∈ second) :
    ¬ (place.currPos.Left ↔ other.currPos.Left) := by
  have sides := own.halves place (List.mem_append_left _ member) other
    (List.mem_append_right _ member')
  exact fun same => defend other member' ((sides.mpr same).mp (attack place member))

end Sides

section Swing

/-- A shorter swing is the beginning of a longer one. -/
theorem take_swing (few : Nat) : ∀ (y : UInt16) (pp j : Int) (count : Nat), few ≤ count →
    (swing y pp j count).take few = swing y pp j few := by
  induction few with
  | zero => exact fun _ _ _ _ _ => rfl
  | succ few ih =>
      intro y pp j count enough
      obtain ⟨more, rfl⟩ : ∃ more, count = more + 1 := ⟨count - 1, by omega⟩
      rw [swing, swing, List.take_succ_cons, ih _ _ _ more (by omega)]

theorem length_swing (y : UInt16) (pp j : Int) (count : Nat) :
    (swing y pp j count).length = count := by
  induction count generalizing y pp j with
  | zero => rfl
  | succ count ih => rw [swing, List.length_cons, ih]

/-- The rows of a leader and these members. -/
def swingRows (y : UInt16) (members : Nat) : List UInt16 := y :: swing y (-1) 1 members

variable {y : UInt16} {few members : Nat}

theorem take_swingRows (enough : few ≤ members) :
    (swingRows y members).take (few + 1) = swingRows y few := by
  rw [swingRows, List.take_succ_cons, take_swing few y (-1) 1 members enough]
  rfl

theorem mem_swingRows (few : Nat) (enough : few ≤ members) {row : UInt16} (member : row ∈ swingRows y few) :
    row ∈ swingRows y members :=
  List.mem_of_mem_take (take_swingRows enough ▸ member)

/-- The rows are different and lie on the screen. -/
def RowsFit (rows : List UInt16) : Prop := rows.Nodup ∧ ∀ row ∈ rows, row < 29

instance (rows : List UInt16) : Decidable (RowsFit rows) :=
  have : Decidable (∀ row ∈ rows, row < 29) := List.decidableBAll (· < 29) rows
  inferInstanceAs (Decidable (_ ∧ _))

theorem rowsFit_of_le (members : Nat) (enough : few ≤ members) (fit : RowsFit (swingRows y members)) :
    RowsFit (swingRows y few) := by
  rw [← take_swingRows enough]
  exact ⟨fit.1.sublist (List.take_sublist _ _), fun row member =>
    fit.2 row (List.mem_of_mem_take member)⟩

/-- Thirteen members fit around their leader. -/
theorem members_le (fit : ∀ row ∈ swingRows (if members % 2 = 0 then 13 else 14) members, row < 29) :
    members ≤ 13 := by
  by_contra many
  by_cases even : members % 2 = 0
  · rw [if_pos even] at fit
    have below := fit 65535 (mem_swingRows 14 (by omega) (by decide))
    exact absurd below (by decide)
  · rw [if_neg even] at fit
    have above := fit 30 (mem_swingRows 15 (by omega) (by decide))
    exact absurd above (by decide)

theorem rowsFit_of_members_le (few : members ≤ 13) :
    RowsFit (swingRows (if members % 2 = 0 then 13 else 14) members) := by
  split
  · exact rowsFit_of_le 12 (by omega) (by decide)
  · exact rowsFit_of_le 13 few (by decide)

/-- Twelve monsters of a group fit, and fifteen if their number is odd. -/
def NumFits (num : Nat) : Prop := num ≤ 12 ∨ num % 2 = 1 ∧ num ≤ 15

instance (num : Nat) : Decidable (NumFits num) := inferInstanceAs (Decidable (_ ∨ _))

theorem numFits {num : Nat}
    (fit : ∀ row ∈ swingRows (if num % 2 = 0 then 15 else 14) (num - 1), row < 29) :
    NumFits num := by
  unfold NumFits
  by_contra many
  by_cases even : num % 2 = 0
  · rw [if_pos even] at fit
    have above := fit 29 (mem_swingRows 13 (by omega) (by decide))
    exact absurd above (by decide)
  · rw [if_neg even] at fit
    have above := fit 30 (mem_swingRows 15 (by omega) (by decide))
    exact absurd above (by decide)

theorem NumFits.rowsFit {num : Nat} (fits : NumFits num) :
    RowsFit (swingRows (if num % 2 = 0 then 15 else 14) (num - 1)) := by
  unfold NumFits at fits
  split
  · exact rowsFit_of_le 11 (by omega) (by decide)
  · exact rowsFit_of_le 14 (by omega) (by decide)

end Swing

section Columns

/-- The middle of two columns is left of the right one. -/
theorem getMidpoint_lt_iff (pos other : ArchvPosition) :
    ((getMidpoint pos other).x.toNat < pos.x.toNat ↔ other.x < pos.x) ∧
      ((getMidpoint pos other).x.toNat < other.x.toNat ↔ pos.x < other.x) := by
  have bound := pos.x.toNat_lt
  have bound' := other.x.toNat_lt
  have middle : (getMidpoint pos other).x.toNat = (pos.x.toNat + other.x.toNat) / 2 :=
    UInt16.toNat_ofNat_of_lt (by change _ < 65536; omega)
  rw [middle, UInt16.lt_iff_toNat_lt, UInt16.lt_iff_toNat_lt]
  omega

variable (pos mid : ArchvPosition)

theorem startCell_eq (distance : Int) : startCell pos mid distance =
    ⟨if mid.x.toNat < pos.x.toNat then UInt16.ofInt (25 - distance)
      else UInt16.ofInt (25 + distance), 14⟩ := by
  rw [startCell]
  by_cases right : mid.x.toNat < pos.x.toNat
  · rw [if_pos right, if_pos (by omega)]
    rfl
  · rw [if_neg right, if_neg (by omega)]
    rfl

theorem column_lt_iff (right : Prop) [Decidable right] {near far : UInt16} (near_lt : near < 25)
    (far_ge : ¬ far < 25) : (if right then near else far) < 25 ↔ right := by
  split
  case isTrue holds => exact iff_of_true near_lt holds
  case isFalse fails => exact iff_of_false far_ge fails

theorem startCell_ten : startCell pos mid 10 =
    ⟨if mid.x.toNat < pos.x.toNat then 15 else 35, 14⟩ := startCell_eq pos mid 10

theorem startCell_five : startCell pos mid 5 =
    ⟨if mid.x.toNat < pos.x.toNat then 20 else 30, 14⟩ := startCell_eq pos mid 5

/-- A pet stands in this column. -/
def petColumn (x : UInt16) : UInt16 :=
  if 0 < (x.toNat : Int) - pkScreenXLength / 2 then x + 2 else x - 2

/-- A role and its pet stand in different columns of one half. -/
structure ColumnFits (left : Prop) (x : UInt16) : Prop where
  inside : x < 50 ∧ petColumn x < 50
  apart : petColumn x ≠ x
  half : (x < 25 ↔ left) ∧ (petColumn x < 25 ↔ left)

theorem columnFits_left : ColumnFits True 15 :=
  ⟨by decide, by decide, by decide⟩

theorem columnFits_right : ColumnFits False 35 :=
  ⟨by decide, by decide, by decide⟩

variable {ground : PKGround}

/-- The cells of a role and of its pet in use. -/
def roleCells (ground : PKGround) (origin : ArchvPosition) (roleID : UInt32) : List ArchvPosition :=
  origin :: match ground.petInUse roleID with
    | none => []
    | some _ => [⟨petColumn origin.x, origin.y⟩]

theorem currPos_makeSSPkgForRole (origin : ArchvPosition) (role : PKRole) (type : UInt8) :
    (ground.makeSSPkgForRole origin role type).map PKPlace.currPos =
      roleCells ground origin role.id := by
  unfold PKGround.makeSSPkgForRole PKGround.makeSSPkgForPet roleCells
  cases ground.petInUse role.id <;> rfl

theorem opposition_makeSSPkgForRole {origin : ArchvPosition} {role : PKRole} {type : UInt8}
    {place : PKPlace} (member : place ∈ ground.makeSSPkgForRole origin role type) :
    place.opposition = type := by
  unfold PKGround.makeSSPkgForRole PKGround.makeSSPkgForPet at member
  cases List.mem_cons.mp member with
  | inl same => rw [same]
  | inr pet =>
      split at pet
      · cases pet
      · rw [List.mem_singleton.mp pet]

theorem mem_roleCells {origin cell : ArchvPosition} {roleID : UInt32}
    (member : cell ∈ roleCells ground origin roleID) :
    cell.y = origin.y ∧ (cell.x = origin.x ∨ cell.x = petColumn origin.x) := by
  cases List.mem_cons.mp member with
  | inl same => exact ⟨same ▸ rfl, Or.inl (same ▸ rfl)⟩
  | inr pet =>
      split at pet
      · cases pet
      · rw [List.mem_singleton.mp pet]
        exact ⟨rfl, Or.inr rfl⟩

theorem nodup_roleCells {left : Prop} {x y : UInt16} (column : ColumnFits left x)
    (roleID : UInt32) : (roleCells ground ⟨x, y⟩ roleID).Nodup := by
  unfold roleCells
  split
  · exact List.nodup_singleton _
  · refine List.nodup_cons.mpr ⟨fun member => ?_, List.nodup_singleton _⟩
    exact column.apart (congrArg ArchvPosition.x (List.mem_singleton.mp member)).symm

/-- Roles in different rows of a column keep apart from each other, with their pets. -/
theorem sidePlaced_column (ground : PKGround) {left : Prop} {x : UInt16} {rows : List UInt16}
    (column : ColumnFits left x) (fit : RowsFit rows) (roleIDs : List UInt32)
    (enough : rows.length ≤ roleIDs.length) :
    SidePlaced left ((roleIDs.zip (rows.map fun y => ArchvPosition.mk x y)).flatMap
      fun entry => roleCells ground entry.2 entry.1) := by
  have origin : ∀ entry ∈ roleIDs.zip (rows.map fun y => ArchvPosition.mk x y),
      ∃ y ∈ rows, entry.2 = ⟨x, y⟩ := by
    intro entry member
    obtain ⟨y, row, same⟩ := List.mem_map.mp (List.of_mem_zip member).2
    exact ⟨y, row, same.symm⟩
  have cells : ∀ cell ∈ (roleIDs.zip (rows.map fun y => ArchvPosition.mk x y)).flatMap
      fun entry => roleCells ground entry.2 entry.1,
      cell.y ∈ rows ∧ (cell.x = x ∨ cell.x = petColumn x) := by
    intro cell member
    obtain ⟨entry, listed, here⟩ := List.mem_flatMap.mp member
    obtain ⟨y, row, same⟩ := origin entry listed
    rw [same] at here
    obtain ⟨sameRow, sameColumn⟩ := mem_roleCells here
    exact ⟨sameRow ▸ row, sameColumn⟩
  refine ⟨fun cell member => ?_, ?_, fun cell member => ?_⟩
  · obtain ⟨row, sameColumn⟩ := cells cell member
    have low := fit.2 _ row
    have columns : cell.x < 50 :=
      sameColumn.elim (fun same => same ▸ column.inside.1) fun same => same ▸ column.inside.2
    rw [UInt16.lt_iff_toNat_lt] at low columns
    exact ⟨Int.ofNat_lt.mpr columns, Int.ofNat_lt.mpr low⟩
  · refine List.nodup_flatMap.mpr ⟨fun entry member => ?_, ?_⟩
    · obtain ⟨y, -, same⟩ := origin entry member
      rw [same]
      exact nodup_roleCells column entry.1
    · have different : (roleIDs.zip (rows.map fun y => ArchvPosition.mk x y)).Pairwise
          fun entry other => entry.2.y ≠ other.2.y := by
        have columns : (roleIDs.zip (rows.map fun y => ArchvPosition.mk x y)).map
            (fun entry => entry.2.y) = rows := by
          have seconds : (roleIDs.zip (rows.map fun y => ArchvPosition.mk x y)).map Prod.snd =
              rows.map fun y => ArchvPosition.mk x y :=
            List.map_snd_zip (by rw [List.length_map]; exact enough)
          calc (roleIDs.zip (rows.map fun y => ArchvPosition.mk x y)).map (fun entry => entry.2.y)
              = ((roleIDs.zip (rows.map fun y => ArchvPosition.mk x y)).map Prod.snd).map
                  ArchvPosition.y := List.map_map.symm
            _ = rows := by rw [seconds, List.map_map]; exact List.map_id' rows
        apply List.pairwise_map.mp
        change List.Nodup (_ : List UInt16)
        rw [columns]
        exact fit.1
      refine different.imp fun apart cell member member' => apart ?_
      exact (mem_roleCells member).1.symm.trans (mem_roleCells member').1
  · obtain ⟨-, sameColumn⟩ := cells cell member
    unfold ArchvPosition.Left
    exact sameColumn.elim (fun same => same ▸ column.half.1) fun same => same ▸ column.half.2

end Columns

section Groups

/-- The cells of a group of monsters. -/
def groupCells (x : UInt16) (num : Nat) : List ArchvPosition :=
  (swingRows (if num % 2 = 0 then 15 else 14) (num - 1)).map fun y => ⟨x, y⟩

theorem currPos_makeSSPkgForMonster (x : UInt16) (id : UInt32) (num : UInt8) :
    (makeSSPkgForMonster ⟨x, 14⟩ id num).map PKPlace.currPos = groupCells x num.toNat := by
  have even : num % 2 = 0 ↔ num.toNat % 2 = 0 := by
    rw [← UInt8.toNat_inj, UInt8.toNat_mod]
    rfl
  have start : (if num % 2 = 0 then (14 : UInt16) + 1 else 14) =
      if num.toNat % 2 = 0 then 15 else 14 := by
    by_cases parity : num % 2 = 0
    · rw [if_pos parity, if_pos (even.mp parity)]
      rfl
    · rw [if_neg parity, if_neg (even.not.mp parity)]
  rw [groupCells, ← start, swingRows, List.map_cons, makeSSPkgForMonster, List.map_cons]
  refine congrArg (List.cons _) (List.ext_getElem (by simp) fun index bound bound' => ?_)
  simp

theorem opposition_makeSSPkgForMonster {origin : ArchvPosition} {id : UInt32} {num : UInt8}
    {place : PKPlace} (member : place ∈ makeSSPkgForMonster origin id num) :
    place.opposition = 4 := by
  cases List.mem_cons.mp member with
  | inl same => rw [same]
  | inr later =>
      obtain ⟨index, bound, same⟩ := List.mem_mapIdx.mp later
      rw [← same]

theorem opposition_makeSSPkgForGroups {place : PKPlace} (groups : List SenceMonster) :
    ∀ {origin : ArchvPosition} {id i : UInt32},
      place ∈ makeSSPkgForGroups origin id i groups → place.opposition = 4 := by
  induction groups with
  | nil => exact fun member => absurd member List.not_mem_nil
  | cons group groups ih =>
      intro origin id i member
      cases List.mem_append.mp member with
      | inl member => exact opposition_makeSSPkgForMonster member
      | inr member => exact ih member

/-- The cells of the groups behind the first one. -/
def groupsCells (x : UInt16) : List SenceMonster → List ArchvPosition
  | [] => []
  | group :: groups =>
      groupCells (x + 2) group.num.toUInt8.toNat ++ groupsCells (x + 2) groups

variable (groups : List SenceMonster)

theorem currPos_makeSSPkgForGroups : ∀ (x : UInt16) (id i : UInt32),
    (makeSSPkgForGroups ⟨x, 14⟩ id i groups).map PKPlace.currPos = groupsCells x groups := by
  induction groups with
  | nil => exact fun _ _ _ => rfl
  | cons group groups ih =>
      intro x id i
      rw [makeSSPkgForGroups, List.map_append, currPos_makeSSPkgForMonster, ih]
      rfl

/-- The number of a group is cut to eight bits. -/
def GroupFits (group : SenceMonster) : Prop := NumFits group.num.toUInt8.toNat

instance (group : SenceMonster) : Decidable (GroupFits group) :=
  inferInstanceAs (Decidable (NumFits _))

theorem mem_groupCells {x : UInt16} {num : Nat} {cell : ArchvPosition} :
    cell ∈ groupCells x num ↔
      cell.x = x ∧ cell.y ∈ swingRows (if num % 2 = 0 then 15 else 14) (num - 1) := by
  rw [groupCells, List.mem_map]
  constructor
  · rintro ⟨y, row, rfl⟩
    exact ⟨rfl, row⟩
  · rintro ⟨rfl, row⟩
    exact ⟨cell.y, row, rfl⟩

theorem nodup_groupCells (x : UInt16) {num : Nat} (fits : NumFits num) :
    (groupCells x num).Nodup :=
  fits.rowsFit.1.map fun _ _ same => congrArg ArchvPosition.y same

theorem toNat_nextColumn {x : UInt16} (room : x.toNat + 2 < 65536) :
    (x + 2).toNat = x.toNat + 2 := by
  rw [UInt16.toNat_add]
  exact Nat.mod_eq_of_lt room

/-- Every group has a column of its own. -/
theorem groupsCells_fit : ∀ {x : UInt16},
    x.toNat + 2 * groups.length < 65536 → (∀ group ∈ groups, GroupFits group) →
    (groupsCells x groups).Nodup ∧ ∀ cell ∈ groupsCells x groups,
      x.toNat < cell.x.toNat ∧ cell.x.toNat ≤ x.toNat + 2 * groups.length ∧ cell.y < 29 := by
  induction groups with
  | nil => exact fun _ _ => ⟨List.nodup_nil, by simp [groupsCells]⟩
  | cons group groups ih =>
      intro x room fits
      have fit : NumFits group.num.toUInt8.toNat := fits group List.mem_cons_self
      rw [List.length_cons] at room
      have next := toNat_nextColumn (x := x) (by omega)
      obtain ⟨apart, later⟩ := ih (x := x + 2) (by omega) fun group member =>
        fits group (List.mem_cons_of_mem _ member)
      refine ⟨List.nodup_append'.mpr ⟨nodup_groupCells _ fit, apart, ?_⟩, ?_⟩
      · intro cell member member'
        have := (mem_groupCells.mp member).1
        have beyond := (later cell member').1
        rw [this] at beyond
        exact Nat.lt_irrefl _ beyond
      · intro cell member
        rw [List.length_cons]
        cases List.mem_append.mp member with
        | inl member =>
            obtain ⟨column, row⟩ := mem_groupCells.mp member
            rw [column]
            exact ⟨by omega, by omega, fit.rowsFit.2 _ row⟩
        | inr member =>
            obtain ⟨beyond, within, row⟩ := later cell member
            exact ⟨by omega, by omega, row⟩

/-- Groups with all their cells on the screen are small. -/
theorem groupFits_of_rows : ∀ {x : UInt16},
    (∀ cell ∈ groupsCells x groups, cell.y < 29) → ∀ group ∈ groups, GroupFits group := by
  induction groups with
  | nil => exact fun _ _ member => absurd member List.not_mem_nil
  | cons group groups ih =>
      intro x rows other member
      cases List.mem_cons.mp member with
      | inl same =>
          subst same
          refine numFits fun row listed => ?_
          exact rows ⟨x + 2, row⟩ (List.mem_append_left _ (mem_groupCells.mpr ⟨rfl, listed⟩))
      | inr later =>
          exact ih (fun cell listed => rows cell (List.mem_append_right _ listed)) other later

/-- The column of a group is two cells from that of the one before. -/
theorem exists_groupsCells (count : Nat) : ∀ (groups : List SenceMonster) (x : UInt16),
    count < groups.length → x.toNat + 2 * (count + 1) < 65536 →
    ∃ cell ∈ groupsCells x groups, cell.x.toNat = x.toNat + 2 * (count + 1) := by
  induction count with
  | zero =>
      intro groups x enough room
      obtain ⟨group, groups, rfl⟩ := List.exists_cons_of_length_pos enough
      refine ⟨⟨x + 2, _⟩, List.mem_append_left _
        (mem_groupCells.mpr ⟨rfl, List.mem_cons_self⟩), toNat_nextColumn (by omega)⟩
  | succ count ih =>
      intro groups x enough room
      obtain ⟨group, groups, rfl⟩ := List.exists_cons_of_length_pos (Nat.zero_lt_of_lt enough)
      have next := toNat_nextColumn (x := x) (by omega)
      obtain ⟨cell, member, column⟩ :=
        ih groups (x + 2) (Nat.lt_of_succ_lt_succ enough) (by omega)
      exact ⟨cell, List.mem_append_right _ member, by omega⟩

end Groups

namespace PKCore

/-- The groups of monsters behind the attacked one. -/
def groupsBehind (scenes : Scenes) (core : PKCore) (roleID creatureID : UInt32) :
    List SenceMonster :=
  (scenes.getSenceMonster (core.processGetRolePtr roleID).mapID creatureID []).tail

/-- The followers are few, an attacked role brings no team, and the groups of monsters are small and
few. The two sides come from different columns of the map. -/
structure StartsFit (scenes : Scenes) (core : PKCore) (ground : PKGround) (roleID : UInt32)
    (creatureFlag : UInt8) (creatureID : UInt32) : Prop where
  few : (core.followers (core.processGetRolePtr roleID)).length ≤ 13
  columns : creatureFlag = 1 ∨ creatureFlag = 2 →
    (ground.pos roleID).x ≠ (core.targetPos ground roleID creatureFlag creatureID).x
  alone : creatureFlag = 1 → core.defenders (core.processGetRolePtr creatureID) creatureID = []
  groups : creatureFlag = 2 → (groupsBehind scenes core roleID creatureID).length ≤
    if (ground.pos roleID).x < (core.targetPos ground roleID creatureFlag creatureID).x then 2 else 9
  sizes : creatureFlag = 2 → ∀ group ∈ groupsBehind scenes core roleID creatureID, GroupFits group

section Requests

variable {scenes : Scenes} {core : PKCore} {ground : PKGround} {roleID creatureID : UInt32}
  {creatureFlag : UInt8} {posMid : ArchvPosition}

/-- The column of the first side. -/
def firstColumn (ground : PKGround) (roleID : UInt32) (posMid : ArchvPosition) : UInt16 :=
  if posMid.x.toNat < (ground.pos roleID).x.toNat then 15 else 35

theorem firstCells_eq : core.firstCells ground roleID posMid =
    (swingRows (if (core.followers (core.processGetRolePtr roleID)).length % 2 = 0 then 13 else 14)
      (core.followers (core.processGetRolePtr roleID)).length).map
        fun y => ⟨firstColumn ground roleID posMid, y⟩ := by
  have middle : ∀ even : Prop, [Decidable even] →
      (if even then (14 : UInt16) - 1 else 14) = if even then 13 else 14 := fun _ _ => rfl
  unfold firstCells swingCells
  rw [startCell_ten]
  simp only [middle]
  rfl

theorem getLastD_mem_firstCells :
    (core.firstCells ground roleID posMid).getLastD ⟨0, 0⟩ ∈ core.firstCells ground roleID posMid := by
  rw [firstCells_eq, swingRows, List.map_cons, List.getLastD_cons]
  exact List.getLastD_mem_cons

theorem currPos_firstSide : (core.firstSide ground roleID posMid).map PKPlace.currPos =
    (((roleID :: core.followers (core.processGetRolePtr roleID)).map fun member =>
      (core.processGetRolePtr member).id).zip (core.firstCells ground roleID posMid)).flatMap
        fun entry => roleCells ground entry.2 entry.1 := by
  rw [firstSide, List.map_flatMap, List.zip_map_left, List.flatMap_map]
  simp only [currPos_makeSSPkgForRole]
  rfl

theorem opposition_firstSide {place : PKPlace}
    (member : place ∈ core.firstSide ground roleID posMid) : place.opposition = 1 := by
  obtain ⟨entry, -, here⟩ := List.mem_flatMap.mp member
  exact opposition_makeSSPkgForRole here

theorem columnFits_firstColumn : ColumnFits (firstColumn ground roleID posMid < 25)
    (firstColumn ground roleID posMid) := by
  unfold firstColumn
  split
  · exact ⟨by decide, by decide, by decide⟩
  · exact ⟨by decide, by decide, by decide⟩

theorem sidePlaced_firstSide
    (few : (core.followers (core.processGetRolePtr roleID)).length ≤ 13) :
    SidePlaced (firstColumn ground roleID posMid < 25)
      ((core.firstSide ground roleID posMid).map PKPlace.currPos) := by
  rw [currPos_firstSide, firstCells_eq]
  refine sidePlaced_column ground columnFits_firstColumn (rowsFit_of_members_le few) _ ?_
  rw [List.length_map, List.length_cons, swingRows, List.length_cons, length_swing]

/-- Every cell of the swing has a role. -/
theorem mem_firstSide {cell : ArchvPosition} (member : cell ∈ core.firstCells ground roleID posMid) :
    cell ∈ (core.firstSide ground roleID posMid).map PKPlace.currPos := by
  have same : (core.firstCells ground roleID posMid).length ≤
      ((roleID :: core.followers (core.processGetRolePtr roleID)).map fun member =>
        (core.processGetRolePtr member).id).length := by
    rw [firstCells_eq, List.length_map, swingRows, List.length_cons, length_swing,
      List.length_map, List.length_cons]
  rw [← List.map_snd_zip same] at member
  obtain ⟨entry, listed, rfl⟩ := List.mem_map.mp member
  rw [currPos_firstSide]
  exact List.mem_flatMap.mpr ⟨entry, listed, List.mem_cons_self⟩

/-- The rows of the first side are on the screen. -/
theorem followers_le {places : List PKPlace} (own : OwnCells places)
    (listed : ∀ place ∈ core.firstSide ground roleID posMid, place ∈ places) :
    (core.followers (core.processGetRolePtr roleID)).length ≤ 13 := by
  refine members_le fun row member => ?_
  have cell : (⟨firstColumn ground roleID posMid, row⟩ : ArchvPosition) ∈
      core.firstCells ground roleID posMid := by
    rw [firstCells_eq]
    exact List.mem_map_of_mem member
  obtain ⟨place, here, same⟩ := List.mem_map.mp (mem_firstSide cell)
  have inside := (own.inside place (listed place here)).2
  rw [same] at inside
  exact UInt16.lt_iff_toNat_lt.mpr (Int.ofNat_lt.mp inside)

variable (core ground roleID posMid) in
/-- The leader of the first side stands in its column. -/
theorem exists_leader : ∃ place ∈ core.firstSide ground roleID posMid,
    place.currPos.x = firstColumn ground roleID posMid := by
  have first : ∃ cell ∈ core.firstCells ground roleID posMid,
      cell.x = firstColumn ground roleID posMid := by
    rw [firstCells_eq]
    exact ⟨_, List.mem_map_of_mem List.mem_cons_self, rfl⟩
  obtain ⟨cell, member, column⟩ := first
  obtain ⟨place, here, same⟩ := List.mem_map.mp (mem_firstSide member)
  exact ⟨place, here, (congrArg ArchvPosition.x same).trans column⟩

variable {pos1 pos2 : ArchvPosition}

/-- A role that is attacked alone stands in one of the two columns, with its pet. -/
theorem sidePlaced_roleCells (pos2 posMid : ArchvPosition) (id : UInt32) :
    SidePlaced (posMid.x.toNat < pos2.x.toNat)
      (roleCells ground (startCell pos2 posMid 10) id) := by
  have row : RowsFit [14] := by decide
  rw [startCell_ten]
  by_cases right : posMid.x.toNat < pos2.x.toNat
  · rw [if_pos right]
    have placed := sidePlaced_column ground columnFits_left row [id] (Nat.le_refl 1)
    simp only [right]
    simpa using placed
  · rw [if_neg right]
    have placed := sidePlaced_column ground columnFits_right row [id] (Nat.le_refl 1)
    simp only [right]
    simpa using placed

/-- The groups of monsters keep to the half of the first one. -/
theorem sidePlaced_groups {x : UInt16} {left : Prop} {groups : List SenceMonster}
    (fits : ∀ group ∈ groups, GroupFits group) (start : x < 25 ↔ left)
    (room : x.toNat + 2 * groups.length < if x < 25 then 25 else 50) :
    SidePlaced left (groupCells x 1 ++ groupsCells x groups) := by
  have size : x.toNat + 2 * groups.length < 50 := by
    split at room <;> omega
  obtain ⟨apart, later⟩ := groupsCells_fit groups (x := x) (by omega) fits
  have cells : ∀ cell ∈ groupCells x 1 ++ groupsCells x groups,
      x.toNat ≤ cell.x.toNat ∧ cell.x.toNat ≤ x.toNat + 2 * groups.length ∧ cell.y < 29 := by
    intro cell member
    cases List.mem_append.mp member with
    | inl member =>
        obtain ⟨column, row⟩ := mem_groupCells.mp member
        rw [column]
        exact ⟨Nat.le_refl _, by omega, (NumFits.rowsFit (Or.inl (by omega))).2 _ row⟩
    | inr member =>
        obtain ⟨beyond, within, row⟩ := later cell member
        exact ⟨by omega, within, row⟩
  refine ⟨fun cell member => ?_, ?_, fun cell member => ?_⟩
  · obtain ⟨-, within, row⟩ := cells cell member
    have columns : cell.x.toNat < 50 := by omega
    exact ⟨Int.ofNat_lt.mpr columns, Int.ofNat_lt.mpr (UInt16.lt_iff_toNat_lt.mp row)⟩
  · refine List.nodup_append'.mpr ⟨nodup_groupCells x (Or.inl (by omega)), apart, ?_⟩
    intro cell member member'
    have beyond := (later cell member').1
    rw [(mem_groupCells.mp member).1] at beyond
    exact Nat.lt_irrefl _ beyond
  · obtain ⟨beyond, within, -⟩ := cells cell member
    rw [← start]
    change cell.x.toNat < 25 ↔ x.toNat < 25
    by_cases small : x < 25
    · rw [if_pos small] at room
      omega
    · have large : ¬ x.toNat < 25 := small
      omega

/-- The side that comes from the right starts on the left. -/
theorem firstColumn_lt_iff (pos2 : ArchvPosition) :
    firstColumn ground roleID (getMidpoint (ground.pos roleID) pos2) < 25 ↔
      pos2.x < (ground.pos roleID).x := by
  rw [← (getMidpoint_lt_iff (ground.pos roleID) pos2).1]
  exact column_lt_iff _ (by decide) (by decide)

/-- The other side takes the other half when the columns differ. -/
theorem secondHalf_iff (different : (ground.pos roleID).x ≠ pos2.x) :
    (getMidpoint (ground.pos roleID) pos2).x.toNat < pos2.x.toNat ↔
      ¬ firstColumn ground roleID (getMidpoint (ground.pos roleID) pos2) < 25 := by
  rw [firstColumn_lt_iff, (getMidpoint_lt_iff (ground.pos roleID) pos2).2]
  rw [UInt16.lt_iff_toNat_lt, UInt16.lt_iff_toNat_lt]
  rw [ne_eq, ← UInt16.toNat_inj] at different
  omega

theorem secondSide_role : core.secondSide scenes ground roleID 1 creatureID pos1 pos2 posMid =
    ground.makeSSPkgForRole (startCell pos2 posMid 10) (core.processGetRolePtr creatureID) 2 ++
      (core.defenders (core.processGetRolePtr creatureID) creatureID).flatMap fun member =>
        ground.makeSSPkgForRole pos1 (core.processGetRolePtr member) 2 := rfl

theorem secondSide_monster : core.secondSide scenes ground roleID 2 creatureID pos1 pos2 posMid =
    makeSSPkgForMonster (startCell pos2 posMid 5) creatureID 1 ++
      makeSSPkgForGroups (startCell pos2 posMid 5) creatureID 1
        (groupsBehind scenes core roleID creatureID) := rfl

/-- Neither a role nor a monster is attacked. -/
theorem secondSide_none (role : creatureFlag ≠ 1) (monster : creatureFlag ≠ 2) :
    core.secondSide scenes ground roleID creatureFlag creatureID pos1 pos2 posMid = [] := by
  rw [secondSide, if_neg role, if_neg monster]

theorem opposition_secondSide {place : PKPlace} (member : place ∈
    core.secondSide scenes ground roleID creatureFlag creatureID pos1 pos2 posMid) :
    place.opposition ≠ 1 := by
  by_cases role : creatureFlag = 1
  · subst role
    rw [secondSide_role] at member
    cases List.mem_append.mp member with
    | inl member => rw [opposition_makeSSPkgForRole member]; decide
    | inr member =>
        obtain ⟨_, _, here⟩ := List.mem_flatMap.mp member
        rw [opposition_makeSSPkgForRole here]
        decide
  · by_cases monster : creatureFlag = 2
    · subst monster
      rw [secondSide_monster] at member
      cases List.mem_append.mp member with
      | inl member => rw [opposition_makeSSPkgForMonster member]; decide
      | inr member => rw [opposition_makeSSPkgForGroups _ member]; decide
    · rw [secondSide_none role monster] at member
      cases member

/-- The column of the first group of monsters. -/
def monsterColumn (pos2 posMid : ArchvPosition) : UInt16 :=
  if posMid.x.toNat < pos2.x.toNat then 20 else 30

theorem currPos_secondSide_monster :
    (core.secondSide scenes ground roleID 2 creatureID pos1 pos2 posMid).map PKPlace.currPos =
      groupCells (monsterColumn pos2 posMid) 1 ++
        groupsCells (monsterColumn pos2 posMid) (groupsBehind scenes core roleID creatureID) := by
  rw [secondSide_monster, startCell_five, List.map_append, currPos_makeSSPkgForMonster,
    currPos_makeSSPkgForGroups]
  rfl

theorem StartsFit.ownCells
    (fits : StartsFit scenes core ground roleID creatureFlag creatureID) :
    OwnCells (core.startPlaces scenes ground roleID creatureFlag creatureID) := by
  refine OwnCells.of_sides (sidePlaced_firstSide fits.few) ?_ (fun _ => opposition_firstSide)
    fun _ => opposition_secondSide
  by_cases role : creatureFlag = 1
  · subst role
    rw [secondSide_role, fits.alone rfl, List.flatMap_nil, List.append_nil,
      currPos_makeSSPkgForRole, ← secondHalf_iff (fits.columns (Or.inl rfl))]
    exact sidePlaced_roleCells _ _ _
  · by_cases monster : creatureFlag = 2
    · subst monster
      have different := fits.columns (Or.inr rfl)
      have few := fits.groups rfl
      rw [currPos_secondSide_monster, ← secondHalf_iff different]
      have middle := (getMidpoint_lt_iff (ground.pos roleID)
        (core.targetPos ground roleID 2 creatureID)).2
      refine sidePlaced_groups (fits.sizes rfl)
        (column_lt_iff _ (by decide) (by decide)) ?_
      by_cases right : (getMidpoint (ground.pos roleID)
          (core.targetPos ground roleID 2 creatureID)).x.toNat <
          (core.targetPos ground roleID 2 creatureID).x.toNat
      · rw [monsterColumn, if_pos right, if_pos (by decide)]
        rw [if_pos (middle.mp right)] at few
        change 20 + 2 * _ < 25
        omega
      · rw [monsterColumn, if_neg right, if_neg (by decide)]
        rw [if_neg (middle.not.mp right)] at few
        change 30 + 2 * _ < 50
        omega
    · rw [secondSide_none role monster]
      exact SidePlaced.nil _

/-- The leader of the second side stands in one of two columns. -/
theorem exists_second (engaged : creatureFlag = 1 ∨ creatureFlag = 2) :
    ∃ place ∈ core.secondSide scenes ground roleID creatureFlag creatureID pos1 pos2 posMid,
      place.currPos.Left ↔ posMid.x.toNat < pos2.x.toNat := by
  obtain rfl | rfl := engaged
  · refine ⟨_, List.mem_append_left _ List.mem_cons_self, ?_⟩
    rw [startCell_ten]
    exact column_lt_iff _ (by decide) (by decide)
  · refine ⟨_, List.mem_append_left _ List.mem_cons_self, ?_⟩
    rw [startCell_five]
    exact column_lt_iff _ (by decide) (by decide)

theorem exists_monster {cell : ArchvPosition}
    (member : cell ∈ groupsCells (monsterColumn pos2 posMid)
      (groupsBehind scenes core roleID creatureID)) :
    ∃ place ∈ core.secondSide scenes ground roleID 2 creatureID pos1 pos2 posMid,
      place.currPos = cell := by
  refine List.mem_map.mp ?_
  rw [currPos_secondSide_monster]
  exact List.mem_append_right _ member

/-- Too many groups leave the half of the first one, or the screen. -/
theorem groups_le (own : OwnCells (core.startPlaces scenes ground roleID 2 creatureID)) :
    (groupsBehind scenes core roleID creatureID).length ≤
      if (ground.pos roleID).x < (core.targetPos ground roleID 2 creatureID).x then 2 else 9 := by
  have middle := (getMidpoint_lt_iff (ground.pos roleID)
    (core.targetPos ground roleID 2 creatureID)).2
  by_contra many
  by_cases right : (ground.pos roleID).x < (core.targetPos ground roleID 2 creatureID).x
  · rw [if_pos right] at many
    obtain ⟨cell, member, column⟩ := exists_groupsCells 2 _ 20 (Nat.not_le.mp many) (by decide)
    have start : monsterColumn (core.targetPos ground roleID 2 creatureID)
        (getMidpoint (ground.pos roleID) (core.targetPos ground roleID 2 creatureID)) = 20 :=
      if_pos (middle.mpr right)
    rw [← start] at member
    obtain ⟨place, listed, same⟩ := exists_monster member
    obtain ⟨other, listed', half⟩ := exists_second (Or.inr rfl)
    have sides := own.halves place (List.mem_append_right _ listed) other
      (List.mem_append_right _ listed')
    have monsters := iff_of_false (opposition_secondSide listed) (opposition_secondSide listed')
    have left : place.currPos.x.toNat < 25 :=
      (sides.mp monsters).mpr (half.mpr (middle.mpr right))
    rw [same, column] at left
    exact absurd left (by decide)
  · rw [if_neg right] at many
    obtain ⟨cell, member, column⟩ := exists_groupsCells 9 _ 30 (Nat.not_le.mp many) (by decide)
    have start : monsterColumn (core.targetPos ground roleID 2 creatureID)
        (getMidpoint (ground.pos roleID) (core.targetPos ground roleID 2 creatureID)) = 30 :=
      if_neg (middle.not.mpr right)
    rw [← start] at member
    obtain ⟨place, listed, same⟩ := exists_monster member
    have inside := (own.inside place (List.mem_append_right _ listed)).1
    rw [same, column] at inside
    exact absurd inside (by decide)

/-- Every group stays on the screen. -/
theorem sizes_fit (own : OwnCells (core.startPlaces scenes ground roleID 2 creatureID)) :
    ∀ group ∈ groupsBehind scenes core roleID creatureID, GroupFits group := by
  refine groupFits_of_rows _ (x := monsterColumn (core.targetPos ground roleID 2 creatureID)
    (getMidpoint (ground.pos roleID) (core.targetPos ground roleID 2 creatureID)))
    fun cell member => ?_
  obtain ⟨place, listed, same⟩ := exists_monster member
  have inside := (own.inside place (List.mem_append_right _ listed)).2
  rw [same] at inside
  exact UInt16.lt_iff_toNat_lt.mpr (Int.ofNat_lt.mp inside)

/-- The members of an attacked team would stand on the last cell of the first side. -/
theorem defenders_eq_nil (own : OwnCells (core.startPlaces scenes ground roleID 1 creatureID)) :
    core.defenders (core.processGetRolePtr creatureID) creatureID = [] := by
  refine List.eq_nil_iff_forall_not_mem.mpr fun member listed => ?_
  let posMid := getMidpoint (ground.pos roleID) (core.targetPos ground roleID 1 creatureID)
  let pos1 := (core.firstCells ground roleID posMid).getLastD ⟨0, 0⟩
  have last : pos1 ∈ core.firstCells ground roleID posMid := getLastD_mem_firstCells
  have here : ⟨1, 2, (core.processGetRolePtr member).id, pos1⟩ ∈
      core.secondSide scenes ground roleID 1 creatureID pos1
        (core.targetPos ground roleID 1 creatureID) posMid := by
    rw [secondSide_role]
    exact List.mem_append_right _ (List.mem_flatMap.mpr ⟨member, listed, List.mem_cons_self⟩)
  have apart := own.apart
  rw [startPlaces, List.map_append] at apart
  exact (List.nodup_append'.mp apart).2.2 (mem_firstSide last) (List.mem_map_of_mem here)

theorem startsFit (own : OwnCells (core.startPlaces scenes ground roleID creatureFlag creatureID)) :
    StartsFit scenes core ground roleID creatureFlag creatureID where
  few := followers_le own fun _ => List.mem_append_left _
  columns engaged same := by
    obtain ⟨leader, member, column⟩ := exists_leader core ground roleID
      (getMidpoint (ground.pos roleID) (core.targetPos ground roleID creatureFlag creatureID))
    obtain ⟨other, member', half⟩ := exists_second engaged
    refine own.other_half (fun _ => opposition_firstSide) (fun _ => opposition_secondSide) member
      member' ?_
    rw [half, ArchvPosition.Left, column, firstColumn_lt_iff,
      (getMidpoint_lt_iff (ground.pos roleID) _).2, same]
  alone role := by
    subst role
    exact defenders_eq_nil own
  groups monster := by
    subst monster
    exact groups_le own
  sizes monster := by
    subst monster
    exact sizes_fit own

/-- Everyone starts on a cell of their own exactly when the sides fit. -/
theorem ownCells_iff {body : Option (UInt8 × UInt32)} {places : List PKPlace}
    (packet : core.beginPacket scenes ground roleID body = some places) :
    OwnCells places ↔ ∃ creatureFlag creatureID, body = some (creatureFlag, creatureID) ∧
      StartsFit scenes core ground roleID creatureFlag creatureID := by
  unfold beginPacket at packet
  split at packet
  case h_1 creatureFlag creatureID _ =>
      split at packet
      · cases packet
      · cases Option.some.inj packet
        constructor
        · exact fun own => ⟨creatureFlag, creatureID, rfl, startsFit own⟩
        · rintro ⟨flag, target, same, fits⟩
          cases Option.some.inj same
          exact fits.ownCells
  case h_2 => cases packet

end Requests

/-- Role one has no team, and role two leads role three. -/
def ambush : PKCore where
  briefs := .empty
  mapRole id :=
    if id = 1 then some ⟨1, 1, 0, 0, 1⟩
    else if id = 2 then some ⟨2, 1, 2, 2, 1⟩
    else if id = 3 then some ⟨3, 1, 2, 1, 1⟩
    else none
  mapTeam id := if id = 2 then some ⟨2, 2, [⟨2, 2⟩, ⟨3, 1⟩]⟩ else none

/-- The roles stand in a row, and no role has a pet. -/
def meadow : PKGround := ⟨fun id => ⟨id.toUInt16 * 10, 20⟩, fun _ _ => ⟨15, 20⟩, fun _ => none⟩

def noMonsters : Scenes := ⟨fun _ _ => none, fun _ _ => 0⟩

/-- The member of the attacked team is put on the cell of the attacker. -/
theorem ambush_not_ownCells : ∃ places,
    ambush.beginPacket noMonsters meadow 1 (some (1, 2)) = some places ∧
      ⟨1, 1, 1, ⟨35, 13⟩⟩ ∈ places ∧ ⟨1, 2, 3, ⟨35, 13⟩⟩ ∈ places ∧ ¬ OwnCells places := by
  refine ⟨[⟨1, 1, 1, ⟨35, 13⟩⟩, ⟨1, 2, 2, ⟨15, 14⟩⟩, ⟨1, 2, 3, ⟨35, 13⟩⟩], rfl, by decide,
    by decide, fun own => ?_⟩
  exact absurd own.apart (by decide)

/-- Role two attacks role one with role three at its side. -/
theorem revenge_ownCells_iff :
    OwnCells [⟨1, 1, 2, ⟨15, 14⟩⟩, ⟨1, 1, 3, ⟨15, 16⟩⟩, ⟨1, 2, 1, ⟨35, 14⟩⟩] ↔
      ∃ creatureFlag creatureID, some ((1 : UInt8), (1 : UInt32)) = some (creatureFlag, creatureID) ∧
        StartsFit noMonsters ambush meadow 2 creatureFlag creatureID :=
  have packet : ambush.beginPacket noMonsters meadow 2 (some (1, 1)) =
      some [⟨1, 1, 2, ⟨15, 14⟩⟩, ⟨1, 1, 3, ⟨15, 16⟩⟩, ⟨1, 2, 1, ⟨35, 14⟩⟩] := rfl
  ownCells_iff packet

end PKCore

end AppSvr.MainServer
