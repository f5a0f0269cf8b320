/-
This file defines the functions that change a role's money and the pool that interleaves them.
-/

import AppSvr.Construction.MainServer.MainSvc

namespace AppSvr.MainServer

/-- The row that table `RoleMoney` keeps for one role. -/
structure MoneyRow where
  money : Int
  bindMoney : Int
  gold : Int
  deriving DecidableEq, Repr

/-- These are the `update RoleMoney set ..` statements with the numbers that `%d` printed. -/
inductive MoneyUpdate where
  | addMoney (num : Int)
  | addBindMoney (num : Int)
  | addBindAndMoney (num1 num2 : Int)
  | addGold (num : Int)
  | setMoney (money : Int)
  | setBindAndMoney (money bindMoney : Int)
  | dropGold (num : Int)
  deriving DecidableEq, Repr

def MoneyUpdate.apply (row : MoneyRow) : MoneyUpdate → MoneyRow
  | .addMoney num => { row with money := row.money + num }
  | .addBindMoney num => { row with bindMoney := row.bindMoney + num }
  | .addBindAndMoney num1 num2 =>
      { row with money := row.money + num1, bindMoney := row.bindMoney + num2 }
  | .addGold num => { row with gold := row.gold + num }
  | .setMoney money => { row with money }
  | .setBindAndMoney money bindMoney => { row with money, bindMoney }
  | .dropGold num => { row with gold := row.gold - num }

/-- A call is the sequence of its SQL statements; between two of them other calls can run. The
result of `ExceSQL` is zero or negative. -/
inductive Statements where
  | done (result : Int)
  | selectmoney (next : (money bindMoney : UInt32) → Statements)
  | selectGold (next : (gold : UInt32) → Statements)
  | exceSQL (update : MoneyUpdate) (next : (iRet : Int) → Statements)

namespace Statements

variable (num : UInt32)

def getmoney : Statements :=
  .exceSQL (.addMoney (printed num)) fun iRet =>
    if iRet = 1 then .done 0 else if iRet < 0 then .done 0 else .done 1

def getBindMoney : Statements :=
  .exceSQL (.addBindMoney (printed num)) fun iRet => if iRet ≠ 0 then .done 0 else .done 1

def getBindAndMoney (num1 num2 : UInt32) : Statements :=
  .exceSQL (.addBindAndMoney (printed num1) (printed num2)) fun iRet =>
    if iRet = 1 then .done 0 else if iRet < 0 then .done 0 else .done 1

def getGold : Statements :=
  .exceSQL (.addGold (printed num)) fun iRet =>
    if iRet = 1 then .done 0 else if iRet < 0 then .done 0 else .done 1

def dropMoneyOnly : Statements :=
  .selectmoney fun money _ =>
    if money < num then .done (-1)
    else .exceSQL (.setMoney (printed (money - num))) fun iRet =>
      if iRet ≠ 0 then .done 0 else .done 1

/-- The bound money is spent first. -/
def dropBalance (num money bindMoney : UInt32) : UInt32 × UInt32 :=
  if num ≤ bindMoney then (money, bindMoney - num) else (money - (num - bindMoney), 0)

/-- The sum of the two balances is unsigned. -/
def dropmoney : Statements :=
  .selectmoney fun money bindMoney =>
    if money + bindMoney < num then .done (-1)
    else
      let balance := dropBalance num money bindMoney
      .exceSQL (.setBindAndMoney (printed balance.1) (printed balance.2)) fun iRet =>
        if iRet ≠ 0 then .done 0 else .done 1

def dropGold (num : UInt32) : Statements :=
  .selectGold fun gold =>
    if gold < num then .done (-1)
    else .exceSQL (.dropGold (printed num)) fun iRet => if iRet ≠ 0 then .done 0 else .done 1

end Statements

/-- The calls on one role that the workers make. -/
inductive MoneyCall where
  | getmoney (num : UInt32)
  | getBindMoney (num : UInt32)
  | getBindAndMoney (num1 num2 : UInt32)
  | getGold (num : UInt32)
  | dropMoneyOnly (num : UInt32)
  | dropmoney (num : UInt32)
  | dropGold (num : UInt32)
  deriving DecidableEq, Repr

def MoneyCall.body : MoneyCall → Statements
  | .getmoney num => .getmoney num
  | .getBindMoney num => .getBindMoney num
  | .getBindAndMoney num1 num2 => .getBindAndMoney num1 num2
  | .getGold num => .getGold num
  | .dropMoneyOnly num => .dropMoneyOnly num
  | .dropmoney num => .dropmoney num
  | .dropGold num => .dropGold num

/-- The database executes a statement or fails. A failed `select` leaves the local balance
uninitialised. -/
inductive DbAnswer where
  | executed
  | failed (uninitialised : UInt32)
  deriving DecidableEq, Repr

/-- A worker runs one call. `read` holds its locals `money` and `BindMoney`, or `Gold`. -/
structure MoneyWorker where
  call : MoneyCall
  read : UInt32 × UInt32
  rest : Statements

/-- The pool runs the calls on one role. -/
structure MoneyPool where
  row : MoneyRow
  workers : List MoneyWorker

/-- A request starts a call, and a worker executes its next statement. -/
inductive MoneyEvent where
  | request (call : MoneyCall)
  | execute (index : Nat) (answer : DbAnswer)
  deriving DecidableEq, Repr

/-- A statement is atomic. `GetIntField` reads a balance into an unsigned local. -/
def MoneyWorker.execute (worker : MoneyWorker) (row : MoneyRow) (answer : DbAnswer) :
    Option (MoneyRow × MoneyWorker) :=
  match worker.rest with
  | .done _ => none
  | .selectmoney next =>
      let read := match answer with
        | .executed => (UInt32.ofInt row.money, UInt32.ofInt row.bindMoney)
        | .failed uninitialised => (uninitialised, 0)
      some (row, { worker with read, rest := next read.1 read.2 })
  | .selectGold next =>
      let read := match answer with
        | .executed => (UInt32.ofInt row.gold, 0)
        | .failed uninitialised => (uninitialised, 0)
      some (row, { worker with read, rest := next read.1 })
  | .exceSQL update next =>
      match answer with
      | .executed => some (update.apply row, { worker with rest := next 0 })
      | .failed _ => some (row, { worker with rest := next (-1) })

def MoneyPool.step (pool : MoneyPool) : MoneyEvent → Option MoneyPool
  | .request call => some { pool with workers := pool.workers ++ [⟨call, (0, 0), call.body⟩] }
  | .execute index answer =>
      pool.workers[index]?.bind fun worker =>
        (worker.execute pool.row answer).map fun result =>
          { row := result.1, workers := pool.workers.set index result.2 }

end AppSvr.MainServer
