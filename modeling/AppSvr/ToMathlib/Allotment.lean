/-
This file defines the allotment of a supply to a line of demands, where the first demand for more
than is left ends the allotment, and what the shares of such a line add up to.
-/

import Mathlib.Algebra.BigOperators.Group.List.Basic
import Mathlib.Data.UInt

namespace AppSvr

universe u v

/-- A demand has a number and asks for an amount. -/
abbrev Demand := Nat × UInt32

namespace Demand

/-- These demands are served from the supply. -/
def served : UInt32 → List Demand → List Nat
  | _, [] => []
  | supply, demand :: rest =>
      if supply < demand.2 then [] else demand.1 :: served (supply - demand.2) rest

variable {supply more : UInt32} {demands others : List Demand} {id : Nat}

theorem served_sublist (supply : UInt32) (demands : List Demand) :
    (served supply demands).Sublist (demands.map Prod.fst) := by
  induction demands generalizing supply with
  | nil => exact List.Sublist.refl _
  | cons demand rest ih =>
      rw [served]
      split_ifs
      · exact List.nil_sublist _
      · exact (ih _).cons_cons demand.1

theorem sub_le_sub {demand : UInt32} (enough : demand ≤ supply) (le : supply ≤ more) :
    supply - demand ≤ more - demand := by
  have all := UInt32.le_trans enough le
  rw [UInt32.le_iff_toNat_le, UInt32.toNat_sub_of_le _ _ enough, UInt32.toNat_sub_of_le _ _ all]
  exact Nat.sub_le_sub_right (UInt32.le_iff_toNat_le.mp le) _

/-- A larger supply serves more demands. -/
theorem served_mono (le : supply ≤ more) (member : id ∈ served supply demands) :
    id ∈ served more demands := by
  induction demands generalizing supply more with
  | nil => cases member
  | cons demand rest ih =>
      rw [served] at member ⊢
      split_ifs at member with lacks
      · cases member
      · have enough := UInt32.not_lt.mp lacks
        rw [if_neg (UInt32.not_lt.mpr (UInt32.le_trans enough le))]
        rcases List.mem_cons.mp member with rfl | later
        · exact List.mem_cons_self
        · exact List.mem_cons_of_mem _ (ih (sub_le_sub enough le) later)

/-- A demand that is served finds its whole amount. -/
theorem le_of_served {amount : UInt32} (distinct : (demands.map Prod.fst).Nodup)
    (asked : (id, amount) ∈ demands) (member : id ∈ served supply demands) : amount ≤ supply := by
  induction demands generalizing supply with
  | nil => cases asked
  | cons demand rest ih =>
      rw [List.map_cons, List.nodup_cons] at distinct
      rw [served] at member
      split_ifs at member with lacks
      · cases member
      · have enough := UInt32.not_lt.mp lacks
        rcases List.mem_cons.mp asked with rfl | later
        · exact enough
        · rcases List.mem_cons.mp member with rfl | served_
          · exact absurd (List.mem_map_of_mem later) distinct.1
          · have le := ih distinct.2 later served_
            rw [UInt32.le_iff_toNat_le] at *
            rw [UInt32.toNat_sub_of_le _ _ (UInt32.le_iff_toNat_le.mpr enough)] at le
            omega

/-- Demands behind a demand do not matter for it. -/
theorem served_append (member : id ∈ served supply demands) (others : List Demand) :
    id ∈ served supply (demands ++ others) := by
  induction demands generalizing supply with
  | nil => cases member
  | cons demand rest ih =>
      rw [served] at member
      rw [List.cons_append, served]
      split_ifs at member with lacks
      · cases member
      · rw [if_neg lacks]
        rcases List.mem_cons.mp member with rfl | later
        · exact List.mem_cons_self
        · exact List.mem_cons_of_mem _ (ih later)

/-- A demand that is left in a shorter line is still served. -/
theorem served_of_sublist (fewer : others.Sublist demands) (distinct : (demands.map Prod.fst).Nodup)
    (left : id ∈ others.map Prod.fst) (member : id ∈ served supply demands) :
    id ∈ served supply others := by
  induction fewer generalizing supply with
  | slnil => cases left
  | cons demand fewer ih =>
      rw [List.map_cons, List.nodup_cons] at distinct
      rw [served] at member
      split_ifs at member with lacks
      · cases member
      · have enough := UInt32.not_lt.mp lacks
        rcases List.mem_cons.mp member with rfl | later
        · exact absurd ((fewer.map Prod.fst).subset left) distinct.1
        · apply served_mono _ (ih distinct.2 left later)
          rw [UInt32.le_iff_toNat_le, UInt32.toNat_sub_of_le _ _ enough]
          omega
  | cons_cons demand fewer ih =>
      rw [List.map_cons, List.nodup_cons] at distinct
      rw [served] at member ⊢
      split_ifs at member with lacks
      · cases member
      · rw [if_neg lacks]
        rcases List.mem_cons.mp member with rfl | later
        · exact List.mem_cons_self
        · rcases List.mem_cons.mp left with rfl | behind
          · exact absurd ((served_sublist _ _).subset later) distinct.1
          · exact List.mem_cons_of_mem _ (ih distinct.2 behind later)

end Demand

/-- Each demand gets its whole amount while the supply lasts. The first one that asks for more gets
what is left, and the later ones get nothing. -/
inductive Shares : Nat → List Nat → List Nat → Prop
  | nil (supply : Nat) : Shares supply [] []
  | full {supply demand : Nat} {demands given : List Nat} (enough : demand ≤ supply)
      (rest : Shares (supply - demand) demands given) :
      Shares supply (demand :: demands) (demand :: given)
  | short {supply demand : Nat} (lacks : supply < demand) (demands : List Nat) :
      Shares supply (demand :: demands) (supply :: demands.map fun _ => 0)

namespace Shares

theorem sum_zeros (demands : List Nat) : (demands.map fun _ => 0).sum = 0 := by
  induction demands with
  | nil => rfl
  | cons demand demands ih => rw [List.map_cons, List.sum_cons, ih]

/-- Nothing is lost, and nothing is given beyond the demands. -/
theorem sum_eq {supply : Nat} {demands given : List Nat} (shares : Shares supply demands given) :
    given.sum = min supply demands.sum := by
  induction shares with
  | nil supply => simp
  | full enough rest ih =>
      rw [List.sum_cons, List.sum_cons, ih]
      omega
  | short lacks demands =>
      rw [List.sum_cons, List.sum_cons, sum_zeros]
      omega

theorem of_enough {supply : Nat} {demands : List Nat} (enough : demands.sum ≤ supply) :
    Shares supply demands demands := by
  induction demands generalizing supply with
  | nil => exact .nil supply
  | cons demand demands ih =>
      rw [List.sum_cons] at enough
      exact .full (by omega) (ih (by omega))

/-- When the supply reaches for all, the demands are met. -/
theorem eq_of_enough {supply : Nat} {demands given : List Nat}
    (shares : Shares supply demands given) (enough : demands.sum ≤ supply) : given = demands := by
  induction shares with
  | nil supply => rfl
  | full _ _ ih =>
      rw [List.sum_cons] at enough
      rw [ih (by omega)]
  | short lacks demands =>
      rw [List.sum_cons] at enough
      omega

end Shares

/-- A sum in thirty-two bits is the sum modulo their number. -/
theorem toNat_foldl_add (nums : List UInt32) (start : UInt32) :
    (nums.foldl (· + ·) start).toNat = (start.toNat + (nums.map UInt32.toNat).sum) % 2 ^ 32 := by
  induction nums generalizing start with
  | nil => exact (Nat.mod_eq_of_lt start.toNat_lt).symm
  | cons num nums ih =>
      rw [List.foldl_cons, ih, List.map_cons, List.sum_cons, UInt32.toNat_add, Nat.mod_add_mod,
        Nat.add_assoc]

end AppSvr
