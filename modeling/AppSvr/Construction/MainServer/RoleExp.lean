/-
This file defines the experience of a role in memory and in the table `Role`. The statements on other
tables succeed, and the attributes that grow with the level are left out.
-/

import AppSvr.Construction.MainServer.MainSvc

namespace AppSvr.MainServer

/-- The level attributes of a creature. -/
structure AttrGeneral where
  level : UInt32
  exp : UInt32
  maxExp : UInt32
  addPoint : UInt32
  deriving DecidableEq, Repr

/-- A level gives this many points. -/
def addAddPointRole : Int32 := 1

/-- The setters `AddLevel`, `AddExp` and `AddAddPoint` of `Creature` stop at zero. -/
def addAttr (value : UInt32) (input : Int32) : UInt32 :=
  if input < 0 ∧ value < input.abs.toUInt32 then 0 else value + input.toUInt32

namespace AttrGeneral

variable (attr : AttrGeneral)

def addLevel (input : Int32) : AttrGeneral :=
  { attr with level := addAttr attr.level input }

def addExp (input : Int32) : AttrGeneral :=
  { attr with exp := addAttr attr.exp input }

def addAddPoint (input : Int32) : AttrGeneral :=
  { attr with addPoint := addAttr attr.addPoint input }

/-- The last selected row gives the next maximum. -/
def levelUp (rows : List Int) : AttrGeneral :=
  let attr := attr.addAddPoint addAddPointRole
  let attr := { attr with exp := attr.exp - attr.maxExp }
  let attr := rows.foldl (fun attr maxExp => { attr with maxExp := UInt32.ofInt maxExp }) attr
  attr.addLevel 1

/-- The table `LevelDesc` lists the maxima of a level. The loop returns false at a missing level, and
nothing when the fuel ends. -/
def expLoop (levelDesc : Int → List Int) : Nat → AttrGeneral → Option (Bool × AttrGeneral)
  | 0, _ => none
  | fuel + 1, attr =>
      if attr.maxExp < attr.exp then
        match levelDesc (printed (attr.level + 1)) with
        | [] => some (false, attr)
        | row :: rows => expLoop levelDesc fuel (attr.levelUp (row :: rows))
      else some (true, attr)

/-- The result is the number of levels, or minus one for a missing level. -/
def ifTheExpToMax (levelDesc : Int → List Int) (fuel : Nat) (attr : AttrGeneral) :
    Option (Int16 × AttrGeneral) :=
  (expLoop levelDesc fuel attr).map fun (found, after) =>
    (if found then (after.level - attr.level.toUInt16.toUInt32).toUInt16.toInt16 else -1, after)

/-- This is `Role::RoleExpAdd`. -/
def roleExpAdd (levelDesc : Int → List Int) (fuel : Nat) (attr : AttrGeneral) (input : Int32) :
    Option (Int32 × AttrGeneral) :=
  let attr := attr.addExp input
  if 0 < input then
    (attr.ifTheExpToMax levelDesc fuel).map fun (levels, after) => (levels.toInt32, after)
  else some (0, attr)

end AttrGeneral

/-- The messages of `CoreData::RoleExpAdd` to the client. -/
inductive ExpNotice where
  | roleLev
  | info
  | roleAddLevl
  | roleExp (input : Int32)
  deriving DecidableEq, Repr

/-- This is `CoreData::RoleExpAdd` for a role on a map. -/
def AttrGeneral.roleExpAddNotify (levelDesc : Int → List Int) (fuel : Nat) (attr : AttrGeneral)
    (input : Int32) : Option (Int32 × List ExpNotice × AttrGeneral) :=
  (attr.roleExpAdd levelDesc fuel input).map fun (iRet, after) =>
    (iRet, if 1 ≤ iRet then [.roleLev, .info, .roleAddLevl] else [.roleExp input], after)

/-- A row of table `Role` with these columns. -/
structure RoleRow where
  level : Int
  exp : Int
  maxExp : Int
  addPoint : Int
  deriving DecidableEq, Repr

namespace RoleRow

/-- `InitRoleCache` reads the columns as integers of thirty-two bits. -/
def db2Cache (row : RoleRow) : AttrGeneral where
  level := UInt32.ofInt row.level
  exp := UInt32.ofInt row.exp
  maxExp := UInt32.ofInt row.maxExp
  addPoint := UInt32.ofInt row.addPoint

/-- The name of a column is compared without regard to case. -/
def column (row : RoleRow) : String → Option Int
  | "level" => some row.level
  | "exp" => some row.exp
  | "maxexp" => some row.maxExp
  | "addpoint" => some row.addPoint
  | _ => none

end RoleRow

/-- `Cache2DB` prints the attributes as signed numbers. -/
def AttrGeneral.cache2DB (attr : AttrGeneral) : RoleRow where
  level := printed attr.level
  exp := printed attr.exp
  maxExp := printed attr.maxExp
  addPoint := printed attr.addPoint

/-- The expressions on the right of an assignment. -/
inductive SqlExpr where
  | column (name : String)
  | add (first second : SqlExpr)
  deriving DecidableEq, Repr

/-- A name that is no column makes the statement fail. -/
def SqlExpr.eval (row : RoleRow) : SqlExpr → Option Int
  | .column name => row.column name
  | .add first second =>
      (first.eval row).bind fun left => (second.eval row).map fun right => left + right

/-- This is the text `exp+num`. -/
def expPlusNum : SqlExpr := .add (.column "exp") (.column "num")

/-- The rows by the number that stands for the role in a statement. -/
abbrev RoleTable := Int → Option RoleRow

/-- This is `update Role set Exp=.. where roleID=..`. -/
def RoleTable.updateExp (table : RoleTable) (roleID : Int) (value : SqlExpr) : Option RoleTable :=
  match table roleID with
  | none => some table
  | some row => (value.eval row).map fun exp =>
      Function.update table roleID (some { row with exp := exp })

/-- This is `RoleInfoSvc::RoleExpAddToDB`. A failed statement leaves the table. -/
def roleExpAddToDB (levelDesc : Int → List Int) (fuel : Nat) (table : RoleTable) (roleID : UInt32)
    (num : Int32) : Option RoleTable :=
  match table (printed roleID) with
  | none => some table
  | some row =>
      if UInt32.ofInt row.exp + num.toUInt32 < UInt32.ofInt row.maxExp then
        some ((table.updateExp (printed roleID) expPlusNum).getD table)
      else
        (row.db2Cache.roleExpAdd levelDesc fuel num).map fun (_, attr) =>
          Function.update table (printed roleID) (some attr.cache2DB)

/-- A role is loaded at its login and saved at its logout. -/
def roleExpAddOnline (levelDesc : Int → List Int) (fuel : Nat) (table : RoleTable)
    (roleID : UInt32) (input : Int32) : Option RoleTable :=
  match table (printed roleID) with
  | none => some table
  | some row =>
      (row.db2Cache.roleExpAdd levelDesc fuel input).map fun (_, attr) =>
        Function.update table (printed roleID) (some attr.cache2DB)

end AppSvr.MainServer
