/-
This file keeps keys in numbered slots, removes a key by moving the last slot into its place, and
collects the free indices below a bound.
-/

import Mathlib.Data.List.Nodup
import Mathlib.Data.Set.Function
import Mathlib.Order.Interval.Set.Defs

namespace AppSvr.SlotTable

section Scan

variable {Entry : Type*} {slot : Nat → Entry} {size index : Nat}

/-- These are the entries from a slot to the last one. -/
def entriesFrom (slot : Nat → Entry) (size index : Nat) : List Entry :=
  (List.range' index (size + 1 - index)).map slot

/-- A scan inside the table reads one entry and continues behind it. -/
theorem entriesFrom_cons (within : index ≤ size) :
    entriesFrom slot size index = slot index :: entriesFrom slot size (index + 1) := by
  have count : size + 1 - index = size + 1 - (index + 1) + 1 := by omega
  simp only [entriesFrom, count, List.range'_succ, List.map_cons]

/-- A scan behind the last slot is over. -/
theorem entriesFrom_end (beyond : size < index) : entriesFrom slot size index = [] := by
  have count : size + 1 - index = 0 := by omega
  simp [entriesFrom, count]

theorem entriesFrom_congr {other : Nat → Entry}
    (same : ∀ i, index ≤ i → i ≤ size → other i = slot i) :
    entriesFrom other size index = entriesFrom slot size index := by
  apply List.map_congr_left
  intro i member
  rw [List.mem_range'_1] at member
  exact same i (by omega) (by omega)

/-- A new last slot is scanned last. -/
theorem entriesFrom_succ (within : index ≤ size + 1) :
    entriesFrom slot (size + 1) index = entriesFrom slot size index ++ [slot (size + 1)] := by
  have count : size + 1 + 1 - index = size + 1 - index + 1 := by omega
  have last : index + (size + 1 - index) = size + 1 := by omega
  simp [entriesFrom, count, List.range'_concat, last]

/-- After the last entry has moved into a slot, a scan from that slot reads all later entries. -/
theorem entriesFrom_moved (positive : 1 ≤ index) (within : index ≤ size) :
    (entriesFrom (Function.update slot index (slot size)) (size - 1) index).Perm
      (entriesFrom slot size (index + 1)) := by
  rcases Nat.eq_or_lt_of_le within with rfl | before
  · rw [entriesFrom_end (by omega), entriesFrom_end (by omega)]
  · obtain ⟨rest, rfl⟩ : ∃ rest, size = rest + 1 := ⟨size - 1, by omega⟩
    rw [entriesFrom_succ (by omega), Nat.add_sub_cancel, entriesFrom_cons (by omega),
      Function.update_self]
    have later : entriesFrom (Function.update slot index (slot (rest + 1))) rest (index + 1) =
        entriesFrom slot rest (index + 1) := by
      apply entriesFrom_congr
      intro i above _
      exact Function.update_of_ne (by omega) _ _
    rw [later]
    exact (List.perm_append_singleton _ _).symm

end Scan

variable {Key : Type*} {slot : Nat → Key} {index : Key → Nat} {live : Key → Prop} {size : Nat}

/-- The slots from one to `size` and the live keys name each other. -/
structure Indexed (slot : Nat → Key) (index : Key → Nat) (live : Key → Prop) (size : Nat) :
    Prop where
  slots : ∀ i, 1 ≤ i → i ≤ size → live (slot i) ∧ index (slot i) = i
  keys : ∀ key, live key → 1 ≤ index key ∧ index key ≤ size ∧ slot (index key) = key

namespace Indexed

/-- The slots and the live keys correspond one to one. -/
theorem bijOn (indexed : Indexed slot index live size) :
    Set.BijOn slot (Set.Icc 1 size) {key | live key} := by
  refine ⟨?_, ?_, ?_⟩
  · intro i member
    exact (indexed.slots i member.1 member.2).1
  · intro i inside j within same
    have first := (indexed.slots i inside.1 inside.2).2
    have second := (indexed.slots j within.1 within.2).2
    rw [← first, ← second]
    exact congrArg index same
  · intro key alive
    obtain ⟨positive, within, found⟩ := indexed.keys key alive
    exact ⟨index key, ⟨positive, within⟩, found⟩

theorem congr {slot' : Nat → Key} {index' : Key → Nat} {live' : Key → Prop}
    (indexed : Indexed slot index live size)
    (slots : ∀ i, 1 ≤ i → i ≤ size → slot' i = slot i)
    (indices : ∀ key, live key → index' key = index key)
    (lives : ∀ key, live' key ↔ live key) : Indexed slot' index' live' size where
  slots i positive within := by
    obtain ⟨alive, found⟩ := indexed.slots i positive within
    rw [slots i positive within, lives, indices _ alive]
    exact ⟨alive, found⟩
  keys key alive := by
    rw [lives] at alive
    obtain ⟨positive, within, found⟩ := indexed.keys key alive
    rw [indices key alive, slots _ positive within]
    exact ⟨positive, within, found⟩

/-- A new key takes the slot behind the last one. -/
theorem insert [DecidableEq Key] (indexed : Indexed slot index live size) {new : Key}
    (fresh : ¬ live new) :
    Indexed (Function.update slot (size + 1) new) (Function.update index new (size + 1))
      (fun key => key = new ∨ live key) (size + 1) where
  slots i positive within := by
    by_cases last : i = size + 1
    · subst last
      simp
    · obtain ⟨alive, found⟩ := indexed.slots i positive (by omega)
      have other : slot i ≠ new := fun same => fresh (same ▸ alive)
      rw [Function.update_of_ne last, Function.update_of_ne other]
      exact ⟨.inr alive, found⟩
  keys key alive := by
    by_cases same : key = new
    · subst same
      simp
    · obtain ⟨positive, within, found⟩ := indexed.keys key (alive.resolve_left same)
      rw [Function.update_of_ne same, Function.update_of_ne (by omega)]
      exact ⟨positive, by omega, found⟩

/-- The last key moves into the slot of the removed one. -/
theorem remove [DecidableEq Key] (indexed : Indexed slot index live size) {old : Key}
    (alive : live old) :
    Indexed (Function.update slot (index old) (slot size))
      (Function.update index (slot size) (index old))
      (fun key => key ≠ old ∧ live key) (size - 1) := by
  obtain ⟨positive, within, found⟩ := indexed.keys old alive
  have lastSlot := indexed.slots size (by omega) (le_refl size)
  constructor
  · intro i first last
    by_cases moved : i = index old
    · subst moved
      have other : slot size ≠ old := by
        intro same
        have position := lastSlot.2
        rw [same] at position
        omega
      rw [Function.update_self, Function.update_self]
      exact ⟨⟨other, lastSlot.1⟩, rfl⟩
    · obtain ⟨present, position⟩ := indexed.slots i first (by omega)
      have other : slot i ≠ old := fun same => moved (same ▸ position.symm)
      have notLast : slot i ≠ slot size := by
        intro same
        rw [same, lastSlot.2] at position
        omega
      rw [Function.update_of_ne moved, Function.update_of_ne notLast]
      exact ⟨⟨other, present⟩, position⟩
  · intro key kept
    obtain ⟨other, present⟩ := kept
    obtain ⟨first, last, place⟩ := indexed.keys key present
    have different : index key ≠ index old := by
      intro same
      rw [same, found] at place
      exact other place.symm
    by_cases moved : key = slot size
    · subst moved
      rw [lastSlot.2] at different
      rw [Function.update_self, Function.update_self]
      exact ⟨positive, by omega, rfl⟩
    · have notLast : index key ≠ size := by
        intro same
        rw [same] at place
        exact moved place.symm
      rw [Function.update_of_ne moved, Function.update_of_ne different]
      exact ⟨first, by omega, place⟩

end Indexed

end AppSvr.SlotTable

namespace AppSvr.FreeIndices

/-- The free indices run from one through the last index in increasing order. -/
def upTo (occupied : List Nat) (last : Nat) : List Nat :=
  (List.range' 1 last).filter fun index => index ∉ occupied

variable {occupied : List Nat} {last : Nat}

theorem range_succ (last : Nat) : List.range' 1 (last + 1) = List.range' 1 last ++ [last + 1] := by
  rw [List.range'_1_concat, Nat.add_comm 1 last]

/-- A free index joins the end. -/
theorem upTo_succ_of_free (free : last + 1 ∉ occupied) :
    upTo occupied (last + 1) = upTo occupied last ++ [last + 1] := by
  simp [upTo, range_succ, free]

/-- An occupied index adds nothing. -/
theorem upTo_succ_of_occupied (taken : last + 1 ∈ occupied) :
    upTo occupied (last + 1) = upTo occupied last := by
  simp [upTo, range_succ, taken]

@[simp] theorem mem_upTo {index : Nat} :
    index ∈ upTo occupied last ↔ (1 ≤ index ∧ index ≤ last) ∧ index ∉ occupied := by
  simp only [upTo, List.mem_filter, List.mem_range'_1, decide_eq_true_eq, and_congr_left_iff]
  intro _
  omega

theorem nodup_upTo : (upTo occupied last).Nodup :=
  List.Nodup.filter _ List.nodup_range'

/-- A smaller bound collects the first free indices. -/
theorem upTo_front {bound : Nat} (le : last ≤ bound) :
    upTo occupied last <+: upTo occupied bound := by
  have split : List.range' 1 bound =
      List.range' 1 last ++ List.range' (1 + last) (bound - last) := by
    rw [List.range'_append_1, Nat.add_sub_cancel' le]
  rw [upTo, upTo, split, List.filter_append]
  exact List.prefix_append _ _

theorem upTo_take {bound : Nat} (le : last ≤ bound) :
    (upTo occupied bound).take (upTo occupied last).length = upTo occupied last :=
  (List.prefix_iff_eq_take.mp (upTo_front le)).symm

/-- The free and the occupied indices together fill the range. -/
theorem length_upTo (distinct : occupied.Nodup)
    (within : ∀ index ∈ occupied, 1 ≤ index ∧ index ≤ last) :
    occupied.length + (upTo occupied last).length = last := by
  have taken : ((List.range' 1 last).filter fun index => index ∈ occupied).Perm occupied := by
    apply (List.perm_ext_iff_of_nodup (List.Nodup.filter _ List.nodup_range') distinct).mpr
    intro index
    simp only [List.mem_filter, List.mem_range'_1, decide_eq_true_eq]
    constructor
    · exact And.right
    · intro member
      have bounds := within index member
      exact ⟨by omega, member⟩
  have split := List.length_eq_length_filter_add (l := List.range' 1 last)
    fun index => index ∈ occupied
  rw [List.length_range', taken.length_eq] at split
  simpa [upTo] using split.symm

end AppSvr.FreeIndices
