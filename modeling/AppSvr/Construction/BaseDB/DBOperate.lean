/-
This file defines the statement object of the database library with its result set.
-/

import AppSvr.ToMathlib.TransitionSystem

namespace AppSvr.BaseDB

/-- The database library refuses the text, returns no result set, or stores the rows. -/
inductive QueryOutcome (Row : Type*) where
  | failed
  | unstored
  | stored (rows : List Row) (fieldNum : UInt32)
  deriving DecidableEq, Repr

/-- The database library refuses the text or reports a number of rows, which is minus one as an
error. -/
inductive ExceOutcome where
  | failed
  | executed (affectRows : UInt64)
  deriving DecidableEq, Repr

/-- `results` holds the rows that are not fetched, and `record` is the pointer to one row. -/
structure DBOperate (Handle Row : Type*) where
  mysql : Option Handle
  results : Option (List Row)
  record : Option Row
  rowNum : UInt32
  fieldNum : UInt32
  affectRows : UInt64
  deriving DecidableEq, Repr

namespace DBOperate

variable {Handle Row : Type*}

/-- The constructor leaves the pointer `_record` as it finds it. -/
def new (record : Option Row) : DBOperate Handle Row where
  mysql := none
  results := none
  record := record
  rowNum := 0
  fieldNum := 0
  affectRows := 0

variable (dbo : DBOperate Handle Row)

def setHandle (input : Option Handle) : DBOperate Handle Row :=
  { dbo with mysql := input }

def freeResult : DBOperate Handle Row := { dbo with results := none }

/-- The first row is fetched at once. -/
def querySQL (outcome : QueryOutcome Row) : DBOperate Handle Row × Int :=
  let dbo := dbo.freeResult
  match dbo.mysql, outcome with
  | none, _ | _, .failed | _, .unstored => (dbo, -1)
  | some _, .stored rows fieldNum =>
      let rowNum := UInt32.ofNat rows.length
      ({ dbo with results := some rows.tail, record := rows.head?, rowNum, fieldNum },
        if rowNum = 0 then 1 else 0)

def exceSQL (outcome : ExceOutcome) : DBOperate Handle Row × Int :=
  let dbo := dbo.freeResult
  match dbo.mysql, outcome with
  | none, _ | _, .failed => (dbo, -1)
  | some _, .executed affectRows =>
      ({ dbo with affectRows }, if affectRows.toInt64 = -1 then -1 else 0)

def hasRowData : Bool := dbo.record.isSome

def nextRow : DBOperate Handle Row :=
  match dbo.results with
  | none => dbo
  | some rows => { dbo with results := some rows.tail, record := rows.head? }

/-- The loop `while(HasRowData()) { .. NextRow(); }` counts its rounds within its fuel. -/
def rounds : Nat → DBOperate Handle Row → Option Nat
  | 0, _ => none
  | fuel + 1, dbo => if dbo.hasRowData then (rounds fuel dbo.nextRow).map (· + 1) else some 0

end DBOperate

/-- These are the calls of the services. -/
inductive Call (Handle Row : Type*) where
  | setHandle (input : Option Handle)
  | querySQL (outcome : QueryOutcome Row)
  | exceSQL (outcome : ExceOutcome)
  | freeResult
  | nextRow
  deriving DecidableEq, Repr

namespace DBOperate

variable {Handle Row : Type*}

def step (dbo : DBOperate Handle Row) : Call Handle Row → Option (DBOperate Handle Row)
  | .setHandle input => some (dbo.setHandle input)
  | .querySQL outcome => some (dbo.querySQL outcome).1
  | .exceSQL outcome => some (dbo.exceSQL outcome).1
  | .freeResult => some dbo.freeResult
  | .nextRow => some dbo.nextRow

end DBOperate

end AppSvr.BaseDB
