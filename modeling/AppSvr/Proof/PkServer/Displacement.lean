/-
This file proves when a role that gives way to other roles enters a free cell.
-/

import AppSvr.Proof.PkServer.Transitions
import AppSvr.ToMathlib.Orbits

namespace AppSvr.PkServer

/-- A role on an occupied cell is moved by five columns and five rows. -/
def Pos.giveWay (pos : Pos) : Pos := pos.shift 5 5

namespace Roles

variable (roles : Roles) (id : Int)

/-- The loop returns a cell without another role, which is the cell that the role enters. -/
def EntersFree (next : Pos) : Prop :=
  ∃ fuel cell, roles.overlapLoop id fuel roles.ids next = some cell ∧
    roles.displaced id next = cell ∧ cell ∉ roles.others roles.ids id

/-- The cell is free, or the first one on the way that the roles behind the first one leave free is
not that of the first role. -/
def LandsFree (next : Pos) : Prop :=
  next ∉ roles.others roles.ids id ∨
    ∃ steps, (∀ step < steps, Pos.giveWay^[step] next.giveWay ∈ roles.others roles.ids.tail id) ∧
      Pos.giveWay^[steps] next.giveWay ∉ roles.others roles.ids id

variable {roles id}

theorem mem_others_cons {other : Int} {ids : List Int} {pos : Pos} :
    pos ∈ roles.others (other :: ids) id ↔
      other ≠ id ∧ pos = (roles.role other).moveAttrb.currentPos ∨ pos ∈ roles.others ids id := by
  by_cases self : other = id
  · simp [others, self]
  · simp [others, self]

theorem others_tail_subset (pos : Pos) (member : pos ∈ roles.others roles.ids.tail id) :
    pos ∈ roles.others roles.ids id := by
  cases list : roles.ids with
  | nil => simpa [list] using member
  | cons first ids =>
      rw [list] at member
      exact mem_others_cons.mpr (Or.inr member)

/-- A scan over free cells ends at the cell. -/
theorem overlapLoop_free {ids : List Int} {pos : Pos} (free : pos ∉ roles.others ids id)
    (fuel : Nat) : roles.overlapLoop id (ids.length + fuel + 1) ids pos = some pos := by
  induction ids with
  | nil => rfl
  | cons other ids ih =>
      rw [mem_others_cons, not_or] at free
      have longer : (other :: ids).length + fuel + 1 = ids.length + fuel + 1 + 1 := by
        rw [List.length_cons]
        omega
      rw [longer, overlapLoop]
      split
      · exact ih free.2
      · rename_i differs
        rw [if_neg fun same => free.1 ⟨differs, same⟩]
        exact ih free.2

/-- A scan over an occupied cell starts again behind the first role. -/
theorem overlapLoop_hit {ids : List Int} {pos : Pos} (hit : pos ∈ roles.others ids id)
    (fuel : Nat) : ∃ used, roles.overlapLoop id (fuel + used + 1) ids pos =
      roles.overlapLoop id fuel roles.ids.tail pos.giveWay := by
  induction ids with
  | nil => exact absurd hit List.not_mem_nil
  | cons other ids ih =>
      by_cases here : other ≠ id ∧ pos = (roles.role other).moveAttrb.currentPos
      · refine ⟨0, ?_⟩
        rw [overlapLoop, if_neg here.1, if_pos here.2]
        rfl
      · obtain ⟨used, same⟩ := ih ((mem_others_cons.mp hit).resolve_left here)
        refine ⟨used + 1, ?_⟩
        rw [overlapLoop]
        split
        · exact same
        · rename_i differs
          rw [if_neg fun equal => here ⟨differs, equal⟩]
          exact same

/-- A loop that returns has scanned a free cell, or has started again. -/
theorem overlapLoop_cases {fuel : Nat} {ids : List Int} {pos cell : Pos}
    (returned : roles.overlapLoop id fuel ids pos = some cell) :
    pos ∉ roles.others ids id ∧ cell = pos ∨
      pos ∈ roles.others ids id ∧ ∃ less < fuel,
        roles.overlapLoop id less roles.ids.tail pos.giveWay = some cell := by
  induction fuel generalizing ids with
  | zero => exact nomatch returned
  | succ fuel ih =>
      cases ids with
      | nil =>
          cases Option.some.inj returned
          exact Or.inl ⟨List.not_mem_nil, rfl⟩
      | cons other ids =>
          rw [overlapLoop] at returned
          rw [mem_others_cons]
          split at returned
          case isTrue self =>
            obtain ⟨free, same⟩ | ⟨hit, less, fewer, again⟩ := ih returned
            · exact Or.inl ⟨by simp [self, free], same⟩
            · exact Or.inr ⟨Or.inr hit, less, Nat.lt_succ_of_lt fewer, again⟩
          case isFalse differs =>
            split at returned
            case isTrue here =>
              exact Or.inr ⟨Or.inl ⟨differs, here⟩, fuel, Nat.lt_succ_self _, returned⟩
            case isFalse apart =>
              obtain ⟨free, same⟩ | ⟨hit, less, fewer, again⟩ := ih returned
              · exact Or.inl ⟨by simp [apart, free], same⟩
              · exact Or.inr ⟨Or.inr hit, less, Nat.lt_succ_of_lt fewer, again⟩

/-- A loop that starts behind the first role returns the first free cell on the way. -/
theorem overlapLoop_tail {fuel : Nat} {pos cell : Pos}
    (returned : roles.overlapLoop id fuel roles.ids.tail pos = some cell) :
    ∃ steps, (∀ step < steps, Pos.giveWay^[step] pos ∈ roles.others roles.ids.tail id) ∧
      cell = Pos.giveWay^[steps] pos ∧ cell ∉ roles.others roles.ids.tail id := by
  induction fuel using Nat.strong_induction_on generalizing pos with
  | _ fuel ih =>
      obtain ⟨free, same⟩ | ⟨hit, less, fewer, again⟩ := overlapLoop_cases returned
      · exact ⟨0, fun _ none => absurd none (Nat.not_lt_zero _), same, same ▸ free⟩
      · obtain ⟨steps, hits, last, free⟩ := ih less fewer again
        refine ⟨steps + 1, fun step early => ?_, last, free⟩
        cases step with
        | zero => exact hit
        | succ step => exact hits step (Nat.lt_of_succ_lt_succ early)

theorem overlapLoop_returns {steps : Nat} {pos : Pos}
    (hits : ∀ step < steps, Pos.giveWay^[step] pos ∈ roles.others roles.ids.tail id)
    (free : Pos.giveWay^[steps] pos ∉ roles.others roles.ids.tail id) :
    ∃ fuel, roles.overlapLoop id fuel roles.ids.tail pos = some (Pos.giveWay^[steps] pos) := by
  induction steps generalizing pos with
  | zero => exact ⟨_, overlapLoop_free free 0⟩
  | succ steps ih =>
      obtain ⟨fuel, returned⟩ :=
        ih (fun step early => hits (step + 1) (Nat.succ_lt_succ early)) free
      obtain ⟨used, same⟩ := overlapLoop_hit (hits 0 (Nat.succ_pos _)) fuel
      exact ⟨fuel + used + 1, same.trans returned⟩

/-- The model of the loop by its displacements takes the same way. -/
theorem displace_eq {again : List Pos} {steps fuel : Nat} {pos : Pos}
    (hits : ∀ step < steps, Pos.giveWay^[step] pos ∈ again)
    (free : Pos.giveWay^[steps] pos ∉ again) (enough : steps ≤ fuel) :
    displace again fuel again pos = Pos.giveWay^[steps] pos := by
  induction steps generalizing fuel pos with
  | zero =>
      cases fuel with
      | zero => rfl
      | succ fuel => exact if_neg free
  | succ steps ih =>
      cases fuel with
      | zero => exact absurd enough (Nat.not_succ_le_zero _)
      | succ fuel =>
          have here : pos ∈ again := hits 0 (Nat.succ_pos _)
          rw [displace, if_pos here]
          exact ih (fun step early => hits (step + 1) (Nat.succ_lt_succ early)) free
            (Nat.le_of_succ_le_succ enough)

theorem displaced_of_free {next : Pos} (free : next ∉ roles.others roles.ids id) :
    roles.displaced id next = next := by
  rw [displaced]
  cases roles.ids.length with
  | zero => rfl
  | succ fuel => exact if_neg free

theorem displaced_of_hit {next : Pos} {steps : Nat} (hit : next ∈ roles.others roles.ids id)
    (hits : ∀ step < steps, Pos.giveWay^[step] next.giveWay ∈ roles.others roles.ids.tail id)
    (free : Pos.giveWay^[steps] next.giveWay ∉ roles.others roles.ids.tail id) :
    roles.displaced id next = Pos.giveWay^[steps] next.giveWay := by
  have few := Orbits.steps_le_length hits free
  have tail : (roles.others roles.ids.tail id).length ≤ roles.ids.length - 1 := by
    rw [others, List.length_map, ← List.length_tail]
    exact List.length_filter_le _ _
  rw [displaced]
  cases count : roles.ids.length with
  | zero =>
      rw [others, List.length_eq_zero_iff.mp count] at hit
      exact absurd hit List.not_mem_nil
  | succ fuel =>
      rw [displace, if_pos hit]
      exact displace_eq hits free (by omega)

/-- The role enters a free cell exactly when the first role is not in its way. -/
theorem entersFree_iff (next : Pos) : roles.EntersFree id next ↔ roles.LandsFree id next := by
  constructor
  · rintro ⟨fuel, cell, returned, -, free⟩
    obtain ⟨here, -⟩ | ⟨hit, less, -, again⟩ := overlapLoop_cases returned
    · exact Or.inl here
    · obtain ⟨steps, hits, rfl, -⟩ := overlapLoop_tail again
      exact Or.inr ⟨steps, hits, free⟩
  · intro lands
    by_cases hit : next ∈ roles.others roles.ids id
    · obtain ⟨steps, hits, free⟩ := lands.resolve_left fun here => here hit
      have behind := mt (others_tail_subset _) free
      obtain ⟨fuel, returned⟩ := overlapLoop_returns hits behind
      obtain ⟨used, same⟩ := overlapLoop_hit hit fuel
      exact ⟨fuel + used + 1, _, same.trans returned, displaced_of_hit hit hits behind, free⟩
    · exact ⟨_, next, overlapLoop_free hit 0, displaced_of_free hit, hit⟩

/-- Three roles stand on these cells. -/
def threeRoles (first second third : Pos) : Roles where
  ids := [1, 2, 3]
  role id := (default : RoleState).setCurrentPos
    (if id = 1 then first else if id = 2 then second else third)

/-- The third role is moved off the second role onto the cell of the first role. -/
theorem not_entersFree : ¬ (threeRoles ⟨15, 15⟩ ⟨10, 10⟩ ⟨9, 9⟩).EntersFree 3 ⟨10, 10⟩ := by
  rintro ⟨fuel, cell, returned, same, free⟩
  have landed : (threeRoles ⟨15, 15⟩ ⟨10, 10⟩ ⟨9, 9⟩).displaced 3 ⟨10, 10⟩ = ⟨15, 15⟩ := by decide
  rw [← same, landed] at free
  exact absurd free (by decide)

end Roles

end AppSvr.PkServer
