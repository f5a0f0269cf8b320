/-
This file defines programs of atomic statements on a shared state and the pool that interleaves
them.
-/

import AppSvr.ToMathlib.TransitionSystem

namespace AppSvr.Programs

universe u v w

/-- A program has returned, or it executes a statement and goes on with the state it found. -/
inductive Program (Statement : Type u) (State : Type v) (Result : Type w) where
  | done (result : Result)
  | statement (first : Statement) (next : State → Program Statement State Result)

namespace Program

variable {Statement : Type u} {State : Type v} {First Second Result : Type w}

/-- The second program goes on with the result of the first one. -/
def bind : Program Statement State First → (First → Program Statement State Second) →
    Program Statement State Second
  | .done result, rest => rest result
  | .statement first next, rest => .statement first fun state => (next state).bind rest

@[simp] theorem done_bind (result : First) (rest : First → Program Statement State Second) :
    (done result).bind rest = rest result := rfl

@[simp] theorem statement_bind (first : Statement) (next : State → Program Statement State First)
    (rest : First → Program Statement State Second) :
    (statement first next).bind rest = .statement first fun state => (next state).bind rest := rfl

/-- The statement that comes next, if the program has not returned. -/
def head : Program Statement State Result → Option Statement
  | .done _ => none
  | .statement first _ => some first

@[simp] theorem head_statement (first : Statement)
    (next : State → Program Statement State Result) :
    (statement first next).head = some first := rfl

theorem head_eq_none {program : Program Statement State Result} (ended : program.head = none) :
    ∃ result, program = .done result := by
  cases program with
  | done result => exact ⟨result, rfl⟩
  | statement first next => cases ended

/-- The program runs alone to its end. A statement without a next state has failed. -/
def run (execute : Statement → State → Option State) :
    Program Statement State Result → State → Option (State × Result)
  | .done result, state => some (state, result)
  | .statement first next, state => (execute first state).bind ((next state).run execute)

variable {execute : Statement → State → Option State}

@[simp] theorem run_done (result : Result) (state : State) :
    (done result).run execute state = some (state, result) := rfl

@[simp] theorem run_statement (first : Statement)
    (next : State → Program Statement State Result) (state : State) :
    (statement first next).run execute state =
      (execute first state).bind ((next state).run execute) := rfl

theorem run_bind (program : Program Statement State First)
    (rest : First → Program Statement State Second) (state : State) :
    (program.bind rest).run execute state =
      (program.run execute state).bind fun ended => (rest ended.2).run execute ended.1 := by
  induction program generalizing state with
  | done result => rfl
  | statement first next ih =>
      rw [statement_bind, run_statement, run_statement, Option.bind_assoc]
      congr 1
      funext after
      exact ih state after

/-- These statements are executed when the program runs alone. -/
def trace (execute : Statement → State → Option State) :
    Program Statement State Result → State → List Statement
  | .done _, _ => []
  | .statement first next, state =>
      first :: match execute first state with
        | none => []
        | some after => (next state).trace execute after

@[simp] theorem trace_done (result : Result) (state : State) :
    (done result : Program Statement State Result).trace execute state = [] := rfl

theorem trace_statement {first : Statement} {next : State → Program Statement State Result}
    {state after : State} (executed : execute first state = some after) :
    (statement first next).trace execute state = first :: (next state).trace execute after := by
  rw [trace, executed]

theorem trace_bind {program : Program Statement State First}
    {rest : First → Program Statement State Second} {state after : State} {result : First}
    (ran : program.run execute state = some (after, result)) :
    (program.bind rest).trace execute state =
      program.trace execute state ++ (rest result).trace execute after := by
  induction program generalizing state with
  | done other =>
      cases ran
      rfl
  | statement first next ih =>
      obtain ⟨middle, executed, later⟩ := Option.bind_eq_some_iff.mp ran
      rw [statement_bind, trace_statement executed, trace_statement executed, ih state later]
      rfl

/-- The statements are executed in these states. -/
def visits (execute : Statement → State → Option State) :
    Program Statement State Result → State → List State
  | .done _, _ => []
  | .statement first next, state =>
      state :: match execute first state with
        | none => []
        | some after => (next state).visits execute after

theorem visits_statement {first : Statement} {next : State → Program Statement State Result}
    {state after : State} (executed : execute first state = some after) :
    (statement first next).visits execute state = state :: (next state).visits execute after := by
  rw [visits, executed]

theorem visits_bind {program : Program Statement State First}
    {rest : First → Program Statement State Second} {state after : State} {result : First}
    (ran : program.run execute state = some (after, result)) :
    (program.bind rest).visits execute state =
      program.visits execute state ++ (rest result).visits execute after := by
  induction program generalizing state with
  | done other =>
      cases ran
      rfl
  | statement first next ih =>
      obtain ⟨middle, executed, later⟩ := Option.bind_eq_some_iff.mp ran
      rw [statement_bind, visits_statement executed, visits_statement executed, ih state later]
      rfl

/-- The program executes no other statements, whatever it finds. -/
def Only (allowed : Statement → Prop) : Program Statement State Result → Prop
  | .done _ => True
  | .statement first next => allowed first ∧ ∀ state, (next state).Only allowed

section Only

variable {allowed : Statement → Prop}

theorem Only.first {first : Statement} {next : State → Program Statement State Result}
    (head : allowed first) (later : ∀ state, (next state).Only allowed) :
    (statement first next).Only allowed := ⟨head, later⟩

theorem only_true (program : Program Statement State Result) :
    program.Only fun _ => True := by
  induction program with
  | done result => exact trivial
  | statement head next ih => exact ⟨trivial, ih⟩

variable {program : Program Statement State Result}

theorem Only.mono {wider : Statement → Prop}
    (only : program.Only allowed) (widens : ∀ statement, allowed statement → wider statement) :
    program.Only wider := by
  induction program with
  | done result => exact trivial
  | statement head next ih => exact ⟨widens head only.1, fun state => ih state (only.2 state)⟩

theorem Only.bind {program : Program Statement State First}
    {rest : First → Program Statement State Second} (first : program.Only allowed)
    (later : ∀ result, (rest result).Only allowed) : (program.bind rest).Only allowed := by
  induction program with
  | done result => exact later result
  | statement head next ih => exact ⟨first.1, fun state => ih state (first.2 state)⟩

theorem Only.trace (only : program.Only allowed)
    (state : State) : ∀ statement ∈ program.trace execute state, allowed statement := by
  induction program generalizing state with
  | done result => exact fun _ member => nomatch member
  | statement head next ih =>
      intro statement member
      rw [Program.trace] at member
      rcases List.mem_cons.mp member with rfl | tail
      · exact only.1
      · cases executed : execute head state with
        | none =>
            rw [executed] at tail
            cases tail
        | some after =>
            rw [executed] at tail
            exact ih state (only.2 state) after statement tail

/-- A program of statements that keep a relation keeps it. -/
theorem Only.run (only : program.Only allowed)
    (related : State → State → Prop) (refl : ∀ state, related state state)
    (trans : ∀ {first second third}, related first second → related second third →
      related first third)
    (steps : ∀ statement, allowed statement → ∀ {state after},
      execute statement state = some after → related state after)
    {state after : State} {result : Result} (ran : program.run execute state = some (after, result)) :
    related state after := by
  induction program generalizing state with
  | done other =>
      cases ran
      exact refl after
  | statement head next ih =>
      obtain ⟨middle, executed, later⟩ := Option.bind_eq_some_iff.mp ran
      exact trans (steps head only.1 executed) (ih state (only.2 state) later)

end Only

end Program

variable {Request : Type*} {Statement : Type u} {State : Type v} {Result : Type w}

/-- Every worker runs the program of its request. -/
structure Worker (Request : Type*) (Statement : Type u) (State : Type v) (Result : Type w) where
  request : Request
  rest : Program Statement State Result

/-- The workers share one state. -/
structure Pool (Request : Type*) (Statement : Type u) (State : Type v) (Result : Type w) where
  state : State
  workers : List (Worker Request Statement State Result)

/-- A request starts a worker, and a worker executes its next statement. -/
inductive PoolEvent (Request : Type*) where
  | request (request : Request)
  | execute (index : Nat)
  deriving DecidableEq, Repr

variable (body : Request → Program Statement State Result)
  (execute : Statement → State → Option State)

def Worker.advance (worker : Worker Request Statement State Result) (state : State) :
    Option (State × Worker Request Statement State Result) :=
  match worker.rest with
  | .done _ => none
  | .statement first next =>
      (execute first state).map fun after => (after, { worker with rest := next state })

def Pool.step (pool : Pool Request Statement State Result) :
    PoolEvent Request → Option (Pool Request Statement State Result)
  | .request request => some { pool with workers := pool.workers ++ [⟨request, body request⟩] }
  | .execute index =>
      pool.workers[index]?.bind fun worker =>
        (worker.advance execute pool.state).map fun result =>
          { state := result.1, workers := pool.workers.set index result.2 }

/-- One worker has executed its next statement, and it goes on with the state it found. -/
theorem Pool.step_execute {pool next : Pool Request Statement State Result} {index : Nat}
    (enabled : pool.step body execute (.execute index) = some next) :
    ∃ worker first rest after, pool.workers[index]? = some worker ∧
      worker.rest = .statement first rest ∧ execute first pool.state = some after ∧
      next = ⟨after, pool.workers.set index { worker with rest := rest pool.state }⟩ := by
  obtain ⟨worker, found, advanced⟩ := Option.bind_eq_some_iff.mp enabled
  obtain ⟨⟨after, moved⟩, step, rfl⟩ := Option.map_eq_some_iff.mp advanced
  unfold Worker.advance at step
  split at step
  · cases step
  · next first rest running =>
    obtain ⟨_, executed, same⟩ := Option.map_eq_some_iff.mp step
    cases same
    exact ⟨worker, first, rest, after, found, running, executed, rfl⟩

end AppSvr.Programs
