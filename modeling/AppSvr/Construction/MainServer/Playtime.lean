/-
This file defines the play time of an account. The statements succeed, and the notices to the clients
are left out.
-/

import AppSvr.Construction.MainServer.MainSvc

namespace AppSvr.MainServer

/-- A row of table `Account` with these columns of thirty-two bits. -/
structure AccountRow where
  isAdult : Int32
  lastloginTime : Int32
  topTime : Int32
  deriving DecidableEq, Repr

/-- The rows by the number that stands for the account in a statement. -/
abbrev AccountTable := Int → Option AccountRow

/-- The account of a role that is logged in. -/
structure Account where
  accountlastloginTime : UInt32
  accounttopTime : UInt32
  isAdult : UInt8
  logintime : UInt32
  deriving DecidableEq, Repr

namespace AccountTable

variable (accounts : AccountTable)

/-- `GetAccountAccountID` and `GetAccount` leave zeros for a missing row. -/
def getAccount (accountID : UInt32) : UInt8 × UInt32 × UInt32 :=
  match accounts (printed accountID) with
  | none => (0, 0, 0)
  | some row =>
      (row.isAdult.toUInt32.toUInt8, row.lastloginTime.toUInt32, row.topTime.toUInt32)

/-- This is `update Account set .. where AccountID=..`. -/
def update (accounts : AccountTable) (accountID : UInt32) (set : AccountRow → AccountRow) :
    AccountTable :=
  Function.update accounts (printed accountID) ((accounts (printed accountID)).map set)

def updateToptime (accountID : UInt32) : AccountTable :=
  accounts.update accountID fun row => { row with topTime := 0 }

/-- The flag is one for an account that has to rest. The second comparison is meant to find another
day. -/
def accountPlaytimeAccess (now : Nat) (accountID : UInt32) : Int32 × AccountTable :=
  let (is, lastlogintime, toptime) := accounts.getAccount accountID
  if is = 0 then
    if 3600 * 3 ≤ toptime then
      if 3600 * 5 ≤ (now : Int) - lastlogintime.toNat then (0, accounts.updateToptime accountID)
      else (1, accounts)
    else if 0 < UInt32.ofInt (now / 3600 * 24 - (lastlogintime / 3600 * 24).toNat) then
      (0, accounts.updateToptime accountID)
    else if 5 * 3600 < (now : Int) - lastlogintime.toNat then
      (0, accounts.updateToptime accountID)
    else (0, accounts)
  else (0, accounts)

/-- This is the account that `ProcessRoleLogin` keeps for a role. -/
def processRoleLogin (now : Nat) (accountID : UInt32) : Account :=
  let (is, lastlogintime, toptime) := accounts.getAccount accountID
  let toptime :=
    if is = 0 ∧ 3600 * 3 ≤ toptime ∧ ¬ (now : Int) - lastlogintime.toNat < 3600 * 5 then 0
    else toptime
  ⟨lastlogintime, toptime, is, UInt32.ofNat now⟩

/-- The time since the login is added when the role leaves. -/
def updateAccount (now : Nat) (accountID : UInt32) (l : Account) : AccountTable :=
  let lastlogintime := UInt32.ofNat now
  let toptime := l.accounttopTime + (lastlogintime - l.logintime)
  accounts.update accountID fun row =>
    { row with lastloginTime := lastlogintime.toInt32, topTime := toptime.toInt32 }

end AccountTable

end AppSvr.MainServer
