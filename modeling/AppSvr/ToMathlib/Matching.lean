/-
This file pairs the elements of a type.
-/

import Mathlib.Logic.Function.Basic

namespace AppSvr.Matching

variable {Element : Type*} {partner : Element → Option Element}

/-- Each element names at most one other element, which names it back. -/
def IsMatching (partner : Element → Option Element) : Prop :=
  ∀ first second, partner first = some second → first ≠ second ∧ partner second = some first

theorem IsMatching.empty : IsMatching fun _ : Element => none := by
  intro first second named
  cases named

/-- Paired elements are apart from every other pair. -/
theorem IsMatching.apart (matching : IsMatching partner) {first second third : Element}
    (pair : partner first = some second) (other : third ≠ first ∧ third ≠ second) :
    partner third ≠ some first ∧ partner third ≠ some second := by
  have back := (matching first second pair).2
  constructor
  · intro named
    have same := (matching third first named).2
    exact other.2 (Option.some.inj (same.symm.trans pair))
  · intro named
    have same := (matching third second named).2
    exact other.1 (Option.some.inj (same.symm.trans back))

variable [DecidableEq Element]

/-- Two unpaired elements become a pair. -/
theorem IsMatching.join (matching : IsMatching partner) {first second : Element}
    (different : first ≠ second) (free : partner first = none) (free' : partner second = none) :
    IsMatching (Function.update (Function.update partner second (some first)) first
      (some second)) := by
  intro element named pair
  by_cases isFirst : element = first
  · obtain rfl := isFirst
    rw [Function.update_self] at pair
    obtain rfl := Option.some.inj pair
    refine ⟨different, ?_⟩
    rw [Function.update_of_ne different.symm, Function.update_self]
  rw [Function.update_of_ne isFirst] at pair
  by_cases isSecond : element = second
  · obtain rfl := isSecond
    rw [Function.update_self] at pair
    obtain rfl := Option.some.inj pair
    exact ⟨different.symm, Function.update_self ..⟩
  rw [Function.update_of_ne isSecond] at pair
  obtain ⟨apart, back⟩ := matching element named pair
  have notFirst : named ≠ first := by
    rintro rfl
    rw [free] at back
    cases back
  have notSecond : named ≠ second := by
    rintro rfl
    rw [free'] at back
    cases back
  refine ⟨apart, ?_⟩
  rw [Function.update_of_ne notFirst, Function.update_of_ne notSecond, back]

/-- The two elements of a pair become unpaired. -/
theorem IsMatching.separate (matching : IsMatching partner) {first second : Element}
    (pair : partner first = some second) :
    IsMatching (Function.update (Function.update partner first none) second none) := by
  intro element named paired
  have notSecond : element ≠ second := by
    rintro rfl
    rw [Function.update_self] at paired
    cases paired
  rw [Function.update_of_ne notSecond] at paired
  have notFirst : element ≠ first := by
    rintro rfl
    rw [Function.update_self] at paired
    cases paired
  rw [Function.update_of_ne notFirst] at paired
  obtain ⟨apart, back⟩ := matching element named paired
  obtain ⟨otherFirst, otherSecond⟩ := matching.apart pair ⟨notFirst, notSecond⟩
  have namedSecond : named ≠ second := by
    rintro rfl
    exact otherSecond paired
  have namedFirst : named ≠ first := by
    rintro rfl
    exact otherFirst paired
  refine ⟨apart, ?_⟩
  rw [Function.update_of_ne namedSecond, Function.update_of_ne namedFirst, back]

end AppSvr.Matching
