/-
This file proves when the table of the battle server lists exactly the running battles.
-/

import AppSvr.Construction.PkServer.MainThread
import AppSvr.ToMathlib.TransitionSystem

namespace AppSvr.PkServer
open TransitionSystem

/-- An accepted battle runs under the identifier of its message. -/
theorem Worker.init_eq_some {option : Options} {input : BeginInput} {worker : Worker}
    (accepted : Worker.init option input = some worker) :
    worker.pkID = input.pkID ∧ worker.running := by
  unfold Worker.init at accepted
  split_ifs at accepted
  obtain ⟨battle, -, rfl⟩ := Option.map_eq_some_iff.mp accepted
  exact ⟨rfl, rfl⟩

/-- The thread keeps the identifier of its battle. -/
theorem Worker.runPking_keeps {draws : List Nat} {objects : List RoleState} {worker next : Worker}
    (ran : worker.runPking draws objects = some next) :
    next.pkID = worker.pkID ∧ next.running = worker.running := by
  unfold Worker.runPking at ran
  split at ran
  · cases ran
  · obtain ⟨battle, -, rfl⟩ := Option.map_eq_some_iff.mp ran
    exact ⟨rfl, rfl⟩

theorem Worker.writePipe_keeps (event : PipeEvent) (worker : Worker) :
    (worker.writePipe event).pkID = worker.pkID ∧
      (worker.writePipe event).running = worker.running := by
  unfold Worker.writePipe
  split <;> exact ⟨rfl, rfl⟩

namespace MainThread

/-- The identifier of a battle whose thread runs. -/
def runs (server : MainThread) (pointer : Nat) : Option UInt32 :=
  (server.workers pointer).bind fun worker => if worker.running then some worker.pkID else none

/-- No running battle with the identifier was accepted later. -/
structure Latest (server : MainThread) (pkID : UInt32) (pointer : Nat) : Prop where
  runs : server.runs pointer = some pkID
  newest : ∀ other, server.runs other = some pkID → other ≤ pointer

/-- The table lists the running battles. Orders and ends concern the listed battle alone. -/
structure TableCorrect (server : MainThread) : Prop where
  stored : ∀ pkID pointer, server.find pkID = some pointer → server.Latest pkID pointer
  listed : ∀ pkID pointer, server.runs pointer = some pkID → server.find pkID = some pointer
  ordered : ∀ pkID pointer, server.Latest pkID pointer → ∀ order : UserOrder,
    order.order.targetType = 1 ∨ order.order.targetType = 2 →
      server.processCSOrder pkID order = server.modifyWorker pointer fun worker =>
        (worker.addOrder order).writePipe .order
  killed : ∀ pointer worker, server.workers pointer = some worker → worker.running →
    (server.stop pointer worker).workers = Function.update server.workers pointer none ∧
      ∀ pkID, (server.stop pointer worker).find pkID =
        if pkID = worker.pkID then none else server.find pkID

/-- An accepted begin message names a battle that the table does not list. -/
def NamesFree (option : Options) (server : MainThread) : ServerEvent → Prop
  | .begin input => Worker.init option input = none ∨ server.find input.pkID = none
  | _ => True

section Updates

variable {server : MainThread}

theorem runs_of_some {pointer : Nat} {worker : Worker}
    (found : server.workers pointer = some worker) (running : worker.running) :
    server.runs pointer = some worker.pkID := by
  simp [runs, found, running]

@[simp] theorem modifyWorker_find (pointer : Nat) (change : Worker → Worker) (pkID : UInt32) :
    (server.modifyWorker pointer change).find pkID = server.find pkID := rfl

theorem modifyWorker_modifyWorker (pointer : Nat) (first second : Worker → Worker) :
    (server.modifyWorker pointer first).modifyWorker pointer second =
      server.modifyWorker pointer fun worker => second (first worker) := by
  simp [modifyWorker, Function.comp_def]

theorem insert_find {pkID : UInt32} (free : server.find pkID = none) (pointer : Nat)
    (other : UInt32) : (server.insert pkID pointer).find other =
      if other = pkID then some pointer else server.find other := by
  unfold insert
  rw [free]
  by_cases same : other = pkID
  · subst same
    simp [find]
  · simp [find, same, AList.lookup_insert_ne]

theorem killThread_find (threadID pkID : UInt32) :
    (server.killThread threadID).find pkID =
      if pkID = threadID then none else server.find pkID := by
  unfold killThread
  cases found : server.find threadID with
  | none =>
      split_ifs with same
      · exact same ▸ found
      · rfl
  | some pointer =>
      by_cases same : pkID = threadID
      · subst same
        simp [find]
      · simp [find, same, AList.lookup_erase_ne]

end Updates

/-- The object of an accepted battle, before the table lists it. -/
def allocate (server : MainThread) (worker : Worker) : MainThread :=
  { server with
    workers := Function.update server.workers server.created (some worker)
    created := server.created + 1 }

section Allocation

variable (server : MainThread) {worker : Worker}

@[simp] theorem allocate_find (pkID : UInt32) :
    (server.allocate worker).find pkID = server.find pkID := rfl

theorem allocate_runs (running : worker.running) (pointer : Nat) :
    (server.allocate worker).runs pointer =
      if pointer = server.created then some worker.pkID else server.runs pointer := by
  by_cases newest : pointer = server.created
  · simp [runs, allocate, newest, running]
  · simp [runs, allocate, newest]

@[simp] theorem insert_runs (pkID : UInt32) (value pointer : Nat) :
    (server.insert pkID value).runs pointer = server.runs pointer := by
  unfold insert
  split <;> rfl

@[simp] theorem insert_created (pkID : UInt32) (value : Nat) :
    (server.insert pkID value).created = server.created := by
  unfold insert
  split <;> rfl

theorem processSSBegin_accepted {option : Options} {input : BeginInput}
    (accepted : Worker.init option input = some worker) :
    server.processSSBegin option input =
      (server.allocate worker).insert input.pkID server.created := by
  simp only [processSSBegin, accepted]
  rfl

theorem insert_listed {pkID : UInt32} {old : Nat} (listed : server.find pkID = some old)
    (pointer : Nat) : (server.insert pkID pointer) = server := by
  simp [insert, listed]

end Allocation

/-- The next server has the same table, the same running battles and no earlier object. -/
structure KeepsTable (server next : MainThread) : Prop where
  mapPK : next.mapPK = server.mapPK
  runs : ∀ pointer, next.runs pointer = server.runs pointer
  created : server.created ≤ next.created

namespace KeepsTable

variable {server middle next : MainThread}

theorem refl (server : MainThread) : server.KeepsTable server := ⟨rfl, fun _ => rfl, le_rfl⟩

theorem trans (first : server.KeepsTable middle) (second : middle.KeepsTable next) :
    server.KeepsTable next where
  mapPK := second.mapPK.trans first.mapPK
  runs pointer := (second.runs pointer).trans (first.runs pointer)
  created := first.created.trans second.created

theorem find (keeps : server.KeepsTable next) (pkID : UInt32) :
    next.find pkID = server.find pkID := by
  simp [MainThread.find, keeps.mapPK]

/-- A change of a battle keeps its identifier and its thread. -/
theorem modifyWorker (pointer : Nat) {change : Worker → Worker}
    (pkID : ∀ worker, server.workers pointer = some worker → (change worker).pkID = worker.pkID)
    (running : ∀ worker, server.workers pointer = some worker →
      (change worker).running = worker.running) :
    server.KeepsTable (server.modifyWorker pointer change) := by
  refine ⟨rfl, fun other => ?_, le_rfl⟩
  by_cases same : other = pointer
  · subst same
    cases found : server.workers other with
    | none => simp [MainThread.runs, MainThread.modifyWorker, found]
    | some worker =>
        simp [MainThread.runs, MainThread.modifyWorker, found, pkID worker found,
          running worker found]
  · simp [MainThread.runs, MainThread.modifyWorker, Function.update_of_ne same]

theorem timerEvent (server : MainThread) : server.KeepsTable server.timerEvent := by
  have folded (entries : List (Sigma fun _ : UInt32 => Nat)) (server : MainThread) :
      server.KeepsTable (entries.foldl (fun server entry =>
        server.modifyWorker entry.2 (Worker.writePipe .timer)) server) := by
    induction entries generalizing server with
    | nil => exact refl server
    | cons entry entries ih =>
        have written : server.KeepsTable
            (server.modifyWorker entry.2 (Worker.writePipe .timer)) := by
          apply modifyWorker
          · exact fun worker _ => (worker.writePipe_keeps .timer).1
          · exact fun worker _ => (worker.writePipe_keeps .timer).2
        exact written.trans (ih _)
  exact folded server.mapPK.entries server

theorem processCSOrder (pkID : UInt32) (order : UserOrder) :
    server.KeepsTable (server.processCSOrder pkID order) := by
  unfold MainThread.processCSOrder
  split_ifs
  · split
    · exact refl server
    · rw [modifyWorker_modifyWorker]
      apply modifyWorker
      · exact fun worker _ => ((worker.addOrder order).writePipe_keeps .order).1
      · exact fun worker _ => ((worker.addOrder order).writePipe_keeps .order).2
  · exact refl server

end KeepsTable

/-- The table lists a battle exactly while its thread runs. -/
structure Agrees (server : MainThread) : Prop where
  find_iff : ∀ pkID pointer, server.find pkID = some pointer ↔ server.runs pointer = some pkID
  created : ∀ pkID pointer, server.runs pointer = some pkID → pointer < server.created

theorem agrees_initial : Agrees initial where
  find_iff pkID pointer := by simp [initial, find, runs]
  created pkID pointer found := by simp [initial, runs] at found

namespace Agrees

variable {option : Options} {server next : MainThread} (agrees : Agrees server)
include agrees

theorem keeps (keeps : server.KeepsTable next) : Agrees next where
  find_iff pkID pointer := by rw [keeps.find, keeps.runs, agrees.find_iff]
  created pkID pointer found := by
    rw [keeps.runs] at found
    exact (agrees.created pkID pointer found).trans_le keeps.created

theorem latest {pkID : UInt32} {pointer : Nat} (found : server.find pkID = some pointer) :
    server.Latest pkID pointer where
  runs := (agrees.find_iff pkID pointer).mp found
  newest other runs := by
    have same := (agrees.find_iff pkID other).mpr runs
    rw [found] at same
    exact (Option.some.inj same).ge

theorem stop_spec {pointer : Nat} {worker : Worker} (found : server.workers pointer = some worker)
    (running : worker.running) :
    (server.stop pointer worker).workers = Function.update server.workers pointer none ∧
      ∀ pkID, (server.stop pointer worker).find pkID =
        if pkID = worker.pkID then none else server.find pkID := by
  have listed : server.find worker.pkID = some pointer :=
    (agrees.find_iff worker.pkID pointer).mpr (runs_of_some found running)
  refine ⟨?_, fun pkID => ?_⟩
  · unfold stop killThread
    rw [modifyWorker_find, listed]
    simp [modifyWorker]
  · rw [stop, killThread_find, modifyWorker_find]

theorem tableCorrect : TableCorrect server where
  stored pkID pointer := agrees.latest
  listed pkID pointer runs := (agrees.find_iff pkID pointer).mpr runs
  ordered pkID pointer latest order valid := by
    have found := (agrees.find_iff pkID pointer).mpr latest.runs
    rw [processCSOrder, if_pos valid, found]
    exact modifyWorker_modifyWorker pointer _ _
  killed pointer worker found running := agrees.stop_spec found running

theorem stop {pointer : Nat} {worker : Worker} (found : server.workers pointer = some worker)
    (running : worker.running) : Agrees (server.stop pointer worker) := by
  obtain ⟨workers, finds⟩ := agrees.stop_spec found running
  have gone (other : Nat) : (server.stop pointer worker).runs other =
      if other = pointer then none else server.runs other := by
    rw [runs, workers]
    by_cases same : other = pointer
    · simp [same]
    · simp [same, runs, Function.update_of_ne]
  have own := runs_of_some found running
  refine ⟨fun pkID other => ?_, fun pkID other runs => ?_⟩
  · rw [finds, gone]
    split_ifs with same apart apart
    · simp
    · subst same
      simp only [false_iff]
      intro runs
      have first := (agrees.find_iff worker.pkID other).mpr runs
      have second := (agrees.find_iff worker.pkID pointer).mpr own
      rw [first] at second
      exact apart (Option.some.inj second)
    · subst apart
      simp only [iff_false]
      intro listed
      have runs := (agrees.find_iff pkID other).mp listed
      rw [own] at runs
      exact same (Option.some.inj runs).symm
    · exact agrees.find_iff pkID other
  · rw [gone] at runs
    split_ifs at runs
    have before := agrees.created pkID other runs
    unfold MainThread.stop killThread
    split
    · exact before
    · exact before

/-- A begin message whose identifier is free adds the accepted battle. -/
theorem begin {input : BeginInput} (free : NamesFree option server (.begin input)) :
    Agrees (server.processSSBegin option input) := by
  cases accepted : Worker.init option input with
  | none =>
      simp only [processSSBegin, accepted]
      exact agrees.keeps ⟨rfl, fun _ => rfl, Nat.le_succ _⟩
  | some worker =>
      rw [processSSBegin_accepted server accepted]
      obtain ⟨same, running⟩ := Worker.init_eq_some accepted
      have unlisted : server.find input.pkID = none := free.resolve_left (by simp [accepted])
      have unused : (server.allocate worker).find input.pkID = none := unlisted
      have finds := insert_find unused server.created
      have runs := allocate_runs server running
      refine ⟨fun pkID pointer => ?_, fun pkID pointer => ?_⟩
      · rw [finds, insert_runs, runs, same]
        split_ifs with named newest newest
        · simp [named, newest]
        · subst named
          have absent : server.runs pointer ≠ some input.pkID := by
            rw [Ne, ← agrees.find_iff, unlisted]
            simp
          simp [absent, Ne.symm newest]
        · subst newest
          have absent : server.find pkID ≠ some server.created := fun found =>
            (agrees.created _ _ ((agrees.find_iff _ _).mp found)).false
          simp [absent, Ne.symm named]
        · exact agrees.find_iff pkID pointer
      · rw [insert_runs, runs, insert_created]
        split_ifs with newest
        · exact fun _ => newest ▸ Nat.lt_succ_self _
        · exact fun found => (agrees.created pkID pointer found).trans (Nat.lt_succ_self _)

/-- Under a listed identifier the accepted battle never gets into the table. -/
theorem begin_listed {input : BeginInput} (taken : ¬ NamesFree option server (.begin input)) :
    ¬ TableCorrect (server.processSSBegin option input) := by
  obtain ⟨accepted, listed⟩ := not_or.mp taken
  obtain ⟨worker, accepted⟩ := Option.ne_none_iff_exists'.mp accepted
  obtain ⟨old, listed⟩ := Option.ne_none_iff_exists'.mp listed
  obtain ⟨same, running⟩ := Worker.init_eq_some accepted
  intro correct
  have runs : (server.allocate worker).runs server.created = some input.pkID := by
    rw [allocate_runs server running, if_pos rfl, same]
  rw [processSSBegin_accepted server accepted,
    insert_listed (server.allocate worker) listed] at correct
  have found := correct.listed input.pkID server.created runs
  rw [allocate_find, listed] at found
  obtain rfl := Option.some.inj found
  exact (agrees.created input.pkID _ ((agrees.find_iff _ _).mp listed)).false

theorem step {event : ServerEvent} (free : NamesFree option server event)
    (enabled : server.step option event = some next) : Agrees next := by
  cases event with
  | begin input =>
      obtain rfl := Option.some.inj enabled
      exact agrees.begin free
  | ready roleID pkID =>
      obtain rfl := Option.some.inj enabled
      unfold processCSReady
      split
      · exact agrees
      · exact agrees.keeps (.modifyWorker _ (fun _ _ => rfl) fun _ _ => rfl)
  | order pkID order =>
      obtain rfl := Option.some.inj enabled
      exact agrees.keeps (.processCSOrder pkID order)
  | timer =>
      obtain rfl := Option.some.inj enabled
      exact agrees.keeps (.timerEvent server)
  | run pointer draws objects =>
      simp only [MainThread.step] at enabled
      split at enabled
      · cases enabled
      · next worker found =>
          split_ifs at enabled
          obtain ⟨after, ran, rfl⟩ := Option.map_eq_some_iff.mp enabled
          obtain ⟨pkID, running⟩ := Worker.runPking_keeps ran
          refine agrees.keeps (.modifyWorker _ (fun other same => ?_) fun other same => ?_)
          · rw [found] at same
            exact Option.some.inj same ▸ pkID
          · rw [found] at same
            exact Option.some.inj same ▸ running
  | stop pointer =>
      simp only [MainThread.step] at enabled
      split at enabled
      · cases enabled
      · next worker found =>
          split_ifs at enabled with stops
          obtain rfl := Option.some.inj enabled
          exact agrees.stop found stops.1

end Agrees

instance (option : Options) (server : MainThread) (event : ServerEvent) :
    Decidable (NamesFree option server event) := by
  cases event with
  | begin input => exact inferInstanceAs (Decidable (_ ∨ _))
  | _ => exact inferInstanceAs (Decidable True)

/-- While the accepted identifiers are free, the table lists exactly the running battles, and each
step keeps it so if and only if its identifier is free. -/
theorem run_tableCorrect (option : Options) {history : History MainThread ServerEvent}
    {server : MainThread} (reached : Run (step option) (NamesFree option) initial history server) :
    TableCorrect server ∧ ∀ event next, step option server event = some next →
      (TableCorrect next ↔ NamesFree option server event) := by
  have agrees : Agrees server := reached.invariant Agrees agrees_initial
    fun _ _ _ agrees free enabled => agrees.step free enabled
  refine ⟨agrees.tableCorrect, fun event next enabled => ⟨fun correct => ?_, fun free => ?_⟩⟩
  · by_contra taken
    cases event with
    | begin input =>
        obtain rfl := Option.some.inj enabled
        exact agrees.begin_listed taken correct
    | _ => exact taken trivial
  · exact (agrees.step free enabled).tableCorrect

/-- Every map is known, and no skill is. -/
def openMaps : Options := ⟨fun _ => true, fun _ => none⟩

/-- A begin message without roles. -/
def emptyBegin (pkID : UInt32) : BeginInput :=
  ⟨pkID, 1, [], false, fun _ => false, fun _ => default⟩

/-- Two battles run under their identifiers. -/
theorem run_tableCorrect_two : ∃ history server,
    Run (step openMaps) (NamesFree openMaps) initial history server ∧
      server.find 8 = some 1 ∧ TableCorrect server := by
  obtain ⟨history, server, reached, found⟩ := exists_run_of_replay (step openMaps)
    (NamesFree openMaps) initial [.begin (emptyBegin 7), .begin (emptyBegin 8), .timer, .run 0 [] []]
    (fun _ server => server.find 8 = some 1) (by decide +kernel)
  exact ⟨history, server, reached, of_decide_eq_true found, (run_tableCorrect openMaps reached).1⟩

/-- The second battle of identifier seven runs outside the table. -/
theorem run_not_tableCorrect : ¬ ∀ (history : History MainThread ServerEvent) (server : MainThread),
    Run (step openMaps) anyEvent initial history server → TableCorrect server := by
  intro claim
  have reached := run_of_replay (show replay (step openMaps) initial
    [.begin (emptyBegin 7), .begin (emptyBegin 7)] = some _ from rfl)
  have listed := (claim _ _ reached).listed 7 1 (by decide +kernel)
  exact absurd listed (by decide +kernel)

end MainThread

end AppSvr.PkServer
