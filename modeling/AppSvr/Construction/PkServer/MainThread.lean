/-
This file defines the main thread of the battle server with its table of battles. The battles run in
threads of their own.
-/

import AppSvr.Construction.PkServer.Battle
import Mathlib.Data.List.AList

namespace AppSvr.PkServer

/-- A begin message lists its roles with the memory of their objects. -/
structure BeginInput where
  pkID : UInt32
  mapID : Int
  roles : List (RoleInput × RoleState)
  /-- The bytes end before the last role does. -/
  truncated : Bool
  outside : Pos → Bool
  role : Int → RoleState

/-- The timer writes a one, and an order writes a zero. -/
inductive PipeEvent where
  | timer | order
  deriving DecidableEq, Repr

/-- This is a `PK_PE` whose thread waits at its pipe. Only `Init` sets the identifier. -/
structure Worker where
  pkID : UInt32
  battle : PKPE
  pipe : List PipeEvent
  /-- The thread has not left its loop and its last call yet. -/
  running : Bool

namespace Worker

/-- `Init` starts the thread when it accepts the message. -/
def init (option : Options) (input : BeginInput) : Option Worker :=
  if input.truncated then none
  else
    (PKPE.init option input.pkID.toNat input.mapID input.roles input.outside input.role).map
      fun battle => ⟨input.pkID, battle, [], true⟩

/-- A full pipe refuses the event. -/
def writePipe (event : PipeEvent) (worker : Worker) : Worker :=
  if worker.pipe.length < 65536 then { worker with pipe := worker.pipe ++ [event] } else worker

def addOrder (order : UserOrder) (worker : Worker) : Worker :=
  { worker with battle := worker.battle.addOrder order }

def processCSReady (roleID : Int) (worker : Worker) : Worker :=
  { worker with battle := PKPE.processCSReady roleID worker.battle }

/-- The loop runs while the battle waits or fights. -/
def looping (worker : Worker) : Prop :=
  worker.battle.pkState = .pking ∨ worker.battle.pkState = .ready

instance (worker : Worker) : Decidable worker.looping := inferInstanceAs (Decidable (_ ∨ _))

/-- The thread reads one event from its pipe. -/
def runPking (draws : List Nat) (objects : List RoleState) (worker : Worker) : Option Worker :=
  match worker.pipe with
  | [] => none
  | event :: pipe =>
      (worker.battle.step (match event with
        | .timer => .runTime draws objects
        | .order => .processOrders draws)).map
        fun battle => { worker with battle := battle, pipe := pipe }

end Worker

/-- A pointer numbers the objects in the order of their creation. -/
structure MainThread where
  /-- This is `map_PK` without the order of its keys. -/
  mapPK : AList fun _ : UInt32 => Nat
  workers : Nat → Option Worker
  created : Nat

namespace MainThread

/-- No battle runs when the server starts. -/
def initial : MainThread := ⟨∅, fun _ => none, 0⟩

variable (server : MainThread)

def find (pkID : UInt32) : Option Nat := server.mapPK.lookup pkID

/-- A key that is present keeps its value. -/
def insert (server : MainThread) (pkID : UInt32) (pointer : Nat) : MainThread :=
  match server.find pkID with
  | none => { server with mapPK := server.mapPK.insert pkID pointer }
  | some _ => server

def modifyWorker (pointer : Nat) (change : Worker → Worker) : MainThread :=
  { server with
    workers := Function.update server.workers pointer ((server.workers pointer).map change) }

/-- The found object is deleted, and its key is erased. -/
def killThread (threadID : UInt32) : MainThread :=
  match server.find threadID with
  | none => server
  | some pointer =>
      { server with
        workers := Function.update server.workers pointer none
        mapPK := server.mapPK.erase threadID }

/-- The timer writes to every battle of the table. -/
def timerEvent : MainThread :=
  server.mapPK.foldl (fun server _ pointer => server.modifyWorker pointer (Worker.writePipe .timer))
    server

def processCSReady (server : MainThread) (roleID : Int) (pkID : UInt32) : MainThread :=
  match server.find pkID with
  | none => server
  | some pointer => server.modifyWorker pointer (Worker.processCSReady roleID)

/-- An order names a position or a role as its target. -/
def processCSOrder (pkID : UInt32) (order : UserOrder) : MainThread :=
  if order.order.targetType = 1 ∨ order.order.targetType = 2 then
    match server.find pkID with
    | none => server
    | some pointer =>
        (server.modifyWorker pointer (Worker.addOrder order)).modifyWorker pointer
          (Worker.writePipe .order)
  else server

/-- A rejected object is deleted. The reply has the result and the identifier. -/
def processSSBegin (option : Options) (server : MainThread) (input : BeginInput) : MainThread :=
  let pointer := server.created
  match Worker.init option input with
  | none => { server with created := pointer + 1 }
  | some worker =>
      insert { server with
        workers := Function.update server.workers pointer (some worker)
        created := pointer + 1 } input.pkID pointer

/-- A thread behind its loop removes its battle by the identifier, and ends. -/
def stop (pointer : Nat) (worker : Worker) : MainThread :=
  (server.modifyWorker pointer fun worker => { worker with running := false }).killThread
    worker.pkID

end MainThread

/-- A thread of a battle handles one event of its pipe, or it stops. -/
inductive ServerEvent where
  | begin (input : BeginInput)
  | ready (roleID : Int) (pkID : UInt32)
  | order (pkID : UInt32) (order : UserOrder)
  | timer
  | run (pointer : Nat) (draws : List Nat) (objects : List RoleState)
  | stop (pointer : Nat)

/-- Only a thread whose object still exists can go on. -/
def MainThread.step (option : Options) (server : MainThread) : ServerEvent → Option MainThread
  | .begin input => some (server.processSSBegin option input)
  | .ready roleID pkID => some (server.processCSReady roleID pkID)
  | .order pkID order => some (server.processCSOrder pkID order)
  | .timer => some server.timerEvent
  | .run pointer draws objects =>
      match server.workers pointer with
      | none => none
      | some worker =>
          if worker.running ∧ worker.looping then
            (worker.runPking draws objects).map fun worker =>
              server.modifyWorker pointer fun _ => worker
          else none
  | .stop pointer =>
      match server.workers pointer with
      | none => none
      | some worker =>
          if worker.running ∧ ¬ worker.looping then some (server.stop pointer worker) else none

end AppSvr.PkServer
