/-
This file defines the notices of a map to its roles.
-/

import AppSvr.Construction.MainServer.PKBriefs
import AppSvr.ToMathlib.KeyedTable

namespace AppSvr.MainServer

/-- The list of a notice is sent in pages of this many roles. -/
def rnumPerSend : Nat := 20

def roleMoveSpeed : UInt32 := 541

structure ArchvRoute where
  time : UInt32
  listPos : List ArchvPosition
  deriving DecidableEq, Repr

structure ArchvRoleMoveDesc where
  roleID : UInt32
  speed : UInt32
  route : ArchvRoute
  deriving DecidableEq, Repr

/-- The identifier belongs to a role when the flag is one. -/
structure ArchvCreatureStatus where
  creatureFlag : UInt8
  creatureType : UInt32
  id : UInt32
  status : UInt8
  deriving DecidableEq, Repr

/-- The roles of a map with their routes. -/
abbrev MapRole := KeyedTable (Prod.fst : UInt32 × ArchvRoute → UInt32)

/-- A packet goes to every role of its list. -/
structure Notice (Record : Type) where
  lrid : List UInt32
  records : List Record
  deriving DecidableEq, Repr

/-- These are the variables of the loop in `NotifyAllRoleInfo`, with the packets so far. -/
structure Paging where
  lrid : List UInt32
  larmd : List ArchvRoleMoveDesc
  iCount : Nat
  iTmp : Nat
  sent : List (Notice ArchvRoleMoveDesc)
  deriving DecidableEq, Repr

/-- A page clears the list of its receivers, and keeps the records. -/
def Paging.next (roleID : UInt32) (size : Nat) (state : Paging) (entry : UInt32 × ArchvRoute) :
    Paging :=
  let iCount := state.iCount + 1
  let larmd :=
    if roleID ≠ entry.1 then state.larmd ++ [⟨entry.1, roleMoveSpeed, entry.2⟩] else state.larmd
  if state.iTmp < rnumPerSend ∧ iCount < size then
    { state with larmd := larmd, iCount := iCount, iTmp := state.iTmp + 1 }
  else ⟨[], larmd, iCount, 0, state.sent ++ [⟨state.lrid, larmd⟩]⟩

/-- These are the packets when every one fits its buffer and no send fails. -/
def notifyAllRoleInfo (mapRole : MapRole) (roleID : UInt32) : List (Notice ArchvRoleMoveDesc) :=
  (mapRole.rows.foldl (Paging.next roleID mapRole.rows.length) ⟨[roleID], [], 0, 0, []⟩).sent

/-- The `continue` belongs to the inner loop. -/
def notifyCtStatusBroadcast (mapRole : MapRole) (lcs : List ArchvCreatureStatus) :
    Notice ArchvCreatureStatus where
  lrid := mapRole.rows.foldl (fun lrid entry =>
    lcs.foldl (fun lrid status =>
      if 1 = status.creatureFlag ∧ entry.1 = status.id then lrid else lrid) lrid ++ [entry.1]) []
  records := lcs

end AppSvr.MainServer
