/-
This file defines the friend messages over table `Friend`. Every well-formed statement succeeds.
-/

import AppSvr.Construction.MainServer.ClientStrings
import AppSvr.Construction.OurDef

namespace AppSvr.MainServer

def friendTypeNonChange : UInt32 := 3001

/-- A row of table `Friend`. -/
structure DBFriend where
  roleID : UInt32
  friendRoleID : UInt32
  friendName : List UInt8
  friendType : UInt8
  proID : UInt8
  deriving DecidableEq, Repr

namespace DBFriend

/-- The clause `where RoleID = .. and FriendRoleID = ..` selects this row. -/
def Between (roleID friendRoleID : UInt32) (row : DBFriend) : Prop :=
  row.roleID = roleID ∧ row.friendRoleID = friendRoleID

instance (roleID friendRoleID : UInt32) (row : DBFriend) :
    Decidable (Between roleID friendRoleID row) :=
  inferInstanceAs (Decidable (_ ∧ _))

/-- The clause `where RoleID = .. and FriendType = ..` selects this row. -/
def OfType (roleID : UInt32) (friendType : UInt8) (row : DBFriend) : Prop :=
  row.roleID = roleID ∧ row.friendType = friendType

instance (roleID : UInt32) (friendType : UInt8) (row : DBFriend) :
    Decidable (OfType roleID friendType row) :=
  inferInstanceAs (Decidable (_ ∧ _))

end DBFriend

/-- A row of table `Role` without its key. -/
structure DBRole where
  roleName : List UInt8
  proID : UInt8
  isVip : UInt8
  deriving DecidableEq, Repr

/-- A select can fail, find no row, or read its first row. -/
inductive QueryResult (Record : Type) where
  | failed
  | noRecord
  | record (first : Record)
  deriving DecidableEq, Repr

/-- The result is the return code of the request, or what its checks have read. -/
inductive Checked (Target : Type) where
  | refused (retCode : UInt32)
  | passed (target : Target)
  deriving DecidableEq, Repr

/-- The tables of the friend service. A client's text stands between quotes in the select by
`RoleName`, so that `named` can answer anything, and `quotable` lists the texts that leave an insert
well formed. -/
structure FriendTables where
  role : UInt32 → Option DBRole
  named : List UInt8 → QueryResult (UInt32 × UInt8)
  quotable : List UInt8 → Bool
  friends : List DBFriend

/-- The answers of the core data about online roles during one request. -/
structure OnlineRoles where
  getRoleMapID : UInt32 → Int
  processGetRolePtr : UInt32 → UInt32

namespace FriendTables

open DBFriend

variable (svc : FriendTables) (roleID friendRoleID : UInt32) (online : OnlineRoles)
  (friendType : UInt8)

def select : Option DBFriend :=
  svc.friends.find? fun row => Between roleID friendRoleID row

def count (roleID : UInt32) (friendType : UInt8) : Nat :=
  svc.friends.countP fun row => OfType roleID friendType row

def update : FriendTables :=
  { svc with
    friends := svc.friends.map fun row =>
      if Between roleID friendRoleID row then { row with friendType } else row }

def delete : FriendTables :=
  { svc with friends := svc.friends.filter fun row => ¬ Between roleID friendRoleID row }

def append (row : DBFriend) : FriendTables :=
  { svc with friends := svc.friends ++ [row] }

/-- The statement pastes the name. -/
def insert (row : DBFriend) : Option FriendTables :=
  if svc.quotable row.friendName then some (svc.append row) else none

def isVip (svc : FriendTables) (roleID : UInt32) : UInt8 :=
  ((svc.role roleID).map DBRole.isVip).getD 0

def FriendType : Prop := friendType = 1 ∨ friendType = 2 ∨ friendType = 3

instance (friendType : UInt8) : Decidable (FriendType friendType) :=
  inferInstanceAs (Decidable (_ ∨ _))

/-- The checks of message 1202 read the own row and the identifier and `ProID` of the friend. -/
def addFriendTarget (roleID : UInt32)
    (friendName : List UInt8) (friendType : UInt8) : Checked (DBRole × UInt32 × UInt8) :=
  if ¬ FriendType friendType then .refused errAppData
  else
    match svc.role roleID with
    | none => .refused errSystemDbNoRecord
    | some self =>
        if svc.count roleID friendType > (FriendSvc.friendLimit self.isVip).toNat then
          .refused errAppData
        else
          match svc.named friendName with
          | .noRecord => .refused errSystemDbNoRecord
          | .failed => .refused errSystemDbError
          | .record (friendRoleID, proID) =>
              if roleID = friendRoleID then .refused errAppOp
              else if online.getRoleMapID friendRoleID = 0 then .refused errAppData
              else .passed (self, friendRoleID, proID)

/-- Both directions get the type. -/
def reviseBoth : FriendTables :=
  (svc.update roleID friendRoleID friendType).update friendRoleID roleID friendType

/-- A role is put on the black list or among the enemies. -/
def addHostile (friendName : List UInt8) (friendType proID : UInt8) : UInt32 × FriendTables :=
  match svc.select roleID friendRoleID with
  | some row =>
      if friendType = row.friendType then (errAppData, svc)
      else (0, svc.reviseBoth roleID friendRoleID friendType)
  | none =>
      match svc.insert ⟨roleID, friendRoleID, friendName, friendType, proID⟩ with
      | none => (errSystemDbError, svc)
      -- The second insert names five columns and gives four values, which the database refuses.
      | some next => (errSystemDbError, next)

/-- A request for friendship only notifies the other role. -/
def requestFriend : UInt32 :=
  match svc.select roleID friendRoleID with
  | some row => if row.friendType = 1 then friendTypeNonChange else 0
  | none => 0

/-- A check that fails goes to the end of the request. -/
def afterChecks {Target : Type} (svc : FriendTables) (checked : Checked Target)
    (act : Target → UInt32 × FriendTables) : UInt32 × FriendTables :=
  match checked with
  | .refused retCode => (retCode, svc)
  | .passed target => act target

/-- Message 1202 carries the name of the friend and a type. -/
def processAddFriend (roleID : UInt32)
    (body : Option (List UInt8 × UInt8)) : UInt32 × FriendTables :=
  match body with
  | none => (errSystemSerError, svc)
  | some (friendName, friendType) =>
      svc.afterChecks (svc.addFriendTarget online roleID friendName friendType)
        fun (self, friendRoleID, _) =>
          if friendType = 1 then (svc.requestFriend roleID friendRoleID, svc)
          else svc.addHostile roleID friendRoleID friendName friendType self.proID

/-- Message 1203 deletes both directions. -/
def processDeleteFriend (roleID : UInt32) (body : Option UInt32) : UInt32 × FriendTables :=
  match body with
  | none => (errSystemSerError, svc)
  | some friendRoleID =>
      match svc.select roleID friendRoleID with
      | none => (errSystemDbNoRecord, svc)
      | some _ => (0, (svc.delete roleID friendRoleID).delete friendRoleID roleID)

/-- The checks of message 1204 read both directions. -/
def reviseChecks : Checked Unit :=
  if friendRoleID = roleID then .refused errAppOp
  else if ¬ FriendType friendType then .refused errAppOp
  else if svc.count roleID friendType > maxFriendNum.toNat + (svc.isVip roleID).toNat * 10 then
    .refused errAppOp
  else
    match svc.select roleID friendRoleID, svc.select friendRoleID roleID with
    | none, _ => .refused errSystemDbNoRecord
    | some _, none => .refused errSystemDbNoRecord
    | some there, some back =>
        if back.friendType ≠ there.friendType then .refused errAppData
        else if there.friendType = friendType then .refused errAppData
        else .passed ()

/-- Message 1204 carries a role and its new type. -/
def processReviseFriendType (roleID : UInt32)
    (body : Option (UInt32 × UInt8)) : UInt32 × FriendTables :=
  match body with
  | none => (errSystemDbError, svc)
  | some (friendRoleID, friendType) =>
      svc.afterChecks (svc.reviseChecks roleID friendRoleID friendType) fun _ =>
        if friendType = 1 then (0, svc) else (0, svc.reviseBoth roleID friendRoleID friendType)

/-- The checks of message 1205 bound the friends by 300. -/
def agreeTarget (roleID : UInt32)
    (friendRoleName : List UInt8) : Checked (DBRole × UInt32 × UInt8) :=
  match svc.named friendRoleName with
  | .failed => .refused errSystemDbError
  | .noRecord => .refused errSystemDbNoRecord
  | .record (friendRoleID, proID) =>
      match svc.role roleID with
      | none => .refused errSystemDbNoRecord
      | some self =>
          if svc.count roleID 1 > 300 then .refused errAppData
          else if online.processGetRolePtr friendRoleID = 0 then .refused errAppData
          else .passed (self, friendRoleID, proID)

/-- The two directions are inserted one after the other. -/
def insertBoth (there back : DBFriend) : UInt32 × FriendTables :=
  match svc.insert there with
  | none => (errSystemDbNoRecord, svc)
  | some next =>
      match next.insert back with
      | none => (errSystemDbNoRecord, next)
      | some last => (0, last)

/-- Message 1205 carries the name of the role that has asked. -/
def processAgreeFriend (roleID : UInt32) (body : Option (List UInt8)) : UInt32 × FriendTables :=
  match body with
  | none => (errSystemSerError, svc)
  | some friendRoleName =>
      svc.afterChecks (svc.agreeTarget online roleID friendRoleName)
        fun (self, friendRoleID, proID) =>
          match svc.select roleID friendRoleID with
          | none =>
              svc.insertBoth ⟨roleID, friendRoleID, friendRoleName, 1, self.proID⟩
                ⟨friendRoleID, roleID, self.roleName, 1, proID⟩
          | some row =>
              if row.friendType = 1 then (errAppOp, svc)
              else (0, svc.reviseBoth roleID friendRoleID 1)

end FriendTables

/-- These messages change table `Friend`. A body that does not unpack is missing. -/
inductive FriendMessage where
  | addFriend (body : Option (List UInt8 × UInt8))
  | deleteFriend (body : Option UInt32)
  | reviseFriendType (body : Option (UInt32 × UInt8))
  | agreeFriend (body : Option (List UInt8))

/-- A role sends a message while some roles are online. -/
structure FriendPacket where
  online : OnlineRoles
  roleID : UInt32
  message : FriendMessage

namespace FriendTables

def onProcessPacket (svc : FriendTables) (packet : FriendPacket) : UInt32 × FriendTables :=
  match packet.message with
  | .addFriend body => svc.processAddFriend packet.online packet.roleID body
  | .deleteFriend body => svc.processDeleteFriend packet.roleID body
  | .reviseFriendType body => svc.processReviseFriendType packet.roleID body
  | .agreeFriend body => svc.processAgreeFriend packet.online packet.roleID body

/-- Every packet is answered. -/
def step (svc : FriendTables) (packet : FriendPacket) : Option FriendTables :=
  some (svc.onProcessPacket packet).2

end FriendTables

end AppSvr.MainServer
