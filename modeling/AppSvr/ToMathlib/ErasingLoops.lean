/-
This file defines loops over the entries of a state. A pass may erase its entry, and its own actions
may change the entries behind the back of the loop.
-/

import Mathlib.Logic.Basic

namespace AppSvr.ErasingLoops

/-- A pass over one entry. Before it erases the entry, it has acted. -/
inductive Pass (State : Type*) where
  | ends (next : State)
  | passes (next : State)
  | erases (acted erased : State)

structure Loop (State Entry : Type*) where
  entries : State → List Entry
  pass : Nat → State → Pass State

namespace Loop

variable {State Entry : Type*} (loop : Loop State Entry)

/-- The fuel is the number of entries. -/
def run : Nat → Nat → State → State
  | 0, _, state => state
  | fuel + 1, index, state =>
      match loop.pass index state with
      | .ends next => next
      | .passes next => run fuel (index + 1) next
      | .erases _ erased => run fuel index erased

/-- The property holds before every pass of the run. -/
def Always (holds : Nat → State → Prop) : Nat → Nat → State → Prop
  | 0, _, _ => True
  | fuel + 1, index, state => holds index state ∧
      match loop.pass index state with
      | .ends _ => True
      | .passes next => Always holds fuel (index + 1) next
      | .erases _ erased => Always holds fuel index erased

/-- The actions of the pass leave the entries alone, so the iterator of the loop stays valid. -/
def Keeps (index : Nat) (state : State) : Prop :=
  match loop.pass index state with
  | .ends _ => True
  | .passes next => loop.entries next = loop.entries state
  | .erases acted _ => loop.entries acted = loop.entries state

/-- Every entry that is erased or visited is still there. -/
def Safe (fuel index : Nat) (state : State) : Prop := loop.Always loop.Keeps fuel index state

variable {loop} {holds other : Nat → State → Prop}

theorem Always.congr (same : ∀ index state, holds index state ↔ other index state)
    (fuel index : Nat) (state : State) :
    loop.Always holds fuel index state ↔ loop.Always other fuel index state := by
  induction fuel generalizing index state with
  | zero => exact Iff.rfl
  | succ fuel ih =>
      unfold Always
      rw [same]
      refine and_congr_right fun _ => ?_
      split
      · exact Iff.rfl
      · exact ih ..
      · exact ih ..

theorem Always.of_forall (every : ∀ index state, holds index state) (fuel index : Nat)
    (state : State) : loop.Always holds fuel index state := by
  induction fuel generalizing index state with
  | zero => trivial
  | succ fuel ih =>
      unfold Always
      refine ⟨every .., ?_⟩
      split
      · trivial
      · exact ih ..
      · exact ih ..

end Loop

end AppSvr.ErasingLoops
