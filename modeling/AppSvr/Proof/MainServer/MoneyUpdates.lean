/-
This file proves when no interleaving of calls loses a change of a role's money.
-/

import AppSvr.Construction.MainServer.RoleMoney
import AppSvr.Proof.MainServer.MoneyExchange
import Mathlib.Algebra.BigOperators.Group.List.Basic

namespace AppSvr.MainServer

open TransitionSystem

/-- The amount by which a successful call changes the money and the bound money together. -/
def MoneyCall.moneyChange : MoneyCall → Int
  | .getmoney num | .getBindMoney num => num.toNat
  | .getBindAndMoney num1 num2 => num1.toNat + num2.toNat
  | .dropMoneyOnly num | .dropmoney num => -num.toNat
  | .getGold _ | .dropGold _ => 0

def MoneyCall.goldChange : MoneyCall → Int
  | .getGold num => num.toNat
  | .dropGold num => -num.toNat
  | _ => 0

/-- The call returned one. -/
def Statements.succeeded : Statements → Bool
  | .done result => result = 1
  | _ => false

def Statements.isUpdate : Statements → Bool
  | .exceSQL _ _ => true
  | _ => false

namespace MoneyWorker

/-- A call counts when it succeeds. -/
def counted (amount : MoneyCall → Int) (worker : MoneyWorker) : Int :=
  if worker.rest.succeeded then amount worker.call else 0

/-- The row still has the balance that the call read, the gold covers the amount, and the printed
numbers stay below 2147483648. -/
def Exact (row : MoneyRow) (worker : MoneyWorker) : Prop :=
  match worker.call with
  | .getmoney num | .getBindMoney num | .getGold num => num.toNat < 2147483648
  | .getBindAndMoney num1 num2 => num1.toNat < 2147483648 ∧ num2.toNat < 2147483648
  | .dropMoneyOnly num =>
      row.money = worker.read.1.toNat ∧ (worker.read.1 - num).toNat < 2147483648
  | .dropmoney num =>
      row.money + row.bindMoney = worker.read.1.toNat + worker.read.2.toNat ∧
        (Statements.dropBalance num worker.read.1 worker.read.2).1.toNat < 2147483648 ∧
        (Statements.dropBalance num worker.read.1 worker.read.2).2.toNat < 2147483648
  | .dropGold num => num.toNat < 2147483648 ∧ num.toNat ≤ row.gold

/-- A worker is at the start of its call, behind its select, or at the end. -/
inductive Stage (worker : MoneyWorker) : Prop where
  | start (rest : worker.rest = worker.call.body)
  | readMoney {next : UInt32 → UInt32 → Statements}
      (body : worker.call.body = .selectmoney next)
      (rest : worker.rest = next worker.read.1 worker.read.2)
  | readGold {next : UInt32 → Statements} (body : worker.call.body = .selectGold next)
      (rest : worker.rest = next worker.read.1)
  | finish {result : Int} (rest : worker.rest = .done result)

end MoneyWorker

/-- No balance of the row is negative. -/
structure MoneyRow.Nonneg (row : MoneyRow) : Prop where
  money : 0 ≤ row.money
  bindMoney : 0 ≤ row.bindMoney
  gold : 0 ≤ row.gold

/-- The update moves the row by the amounts of the call. -/
structure Charges (call : MoneyCall) (row : MoneyRow) (update : MoneyUpdate) : Prop where
  money : (update.apply row).money + (update.apply row).bindMoney =
    row.money + row.bindMoney + call.moneyChange
  gold : (update.apply row).gold = row.gold + call.goldChange
  nonneg : (update.apply row).Nonneg

theorem printed_small {value : UInt32} (small : value.toNat < 2147483648) :
    printed value = value.toNat := by
  rw [printed_eq, if_pos (by omega)]

/-- The reduced balances still add up. -/
theorem dropBalance_sum {num money bindMoney : UInt32} (enough : ¬ money + bindMoney < num) :
    (Statements.dropBalance num money bindMoney).1.toNat +
        (Statements.dropBalance num money bindMoney).2.toNat + num.toNat =
      money.toNat + bindMoney.toNat := by
  rw [UInt32.lt_iff_toNat_lt, UInt32.toNat_add] at enough
  unfold Statements.dropBalance
  by_cases bound : num ≤ bindMoney
  · rw [if_pos bound]
    have exact := UInt32.toNat_sub_of_le _ _ bound
    rw [UInt32.le_iff_toNat_le] at bound
    simp only [exact]
    omega
  · rw [if_neg bound]
    rw [UInt32.le_iff_toNat_le] at bound
    have difference : bindMoney ≤ num := by
      rw [UInt32.le_iff_toNat_le]
      omega
    have first := UInt32.toNat_sub_of_le _ _ difference
    have covered : num - bindMoney ≤ money := by
      rw [UInt32.le_iff_toNat_le, first]
      omega
    have second := UInt32.toNat_sub_of_le _ _ covered
    simp only [second, first, UInt32.toNat_zero]
    omega

namespace MoneyWorker.Stage

variable {worker : MoneyWorker} {row : MoneyRow} {update : MoneyUpdate} {next : Int → Statements}

/-- A call that starts with its update is a credit. -/
theorem charges_credit (nonneg : row.Nonneg) (exact : worker.Exact row)
    (body : worker.call.body = .exceSQL update next) : Charges worker.call row update := by
  obtain ⟨call, read, rest⟩ := worker
  obtain ⟨money, bindMoney, gold⟩ := nonneg
  cases call with
  | dropMoneyOnly | dropmoney | dropGold => cases body
  | getmoney num | getBindMoney num | getGold num =>
      cases body
      have small := printed_small exact
      refine ⟨?_, ?_, ⟨?_, ?_, ?_⟩⟩ <;>
        simp only [MoneyUpdate.apply, MoneyCall.moneyChange, MoneyCall.goldChange, small] <;> omega
  | getBindAndMoney num1 num2 =>
      cases body
      have small1 := printed_small exact.1
      have small2 := printed_small exact.2
      refine ⟨?_, ?_, ⟨?_, ?_, ?_⟩⟩ <;>
        simp only [MoneyUpdate.apply, MoneyCall.moneyChange, MoneyCall.goldChange, small1,
          small2] <;> omega

/-- A call that updates what it read in table `RoleMoney` is a debit of money. -/
theorem charges_money (nonneg : row.Nonneg) (exact : worker.Exact row)
    {read : UInt32 → UInt32 → Statements} (body : worker.call.body = .selectmoney read)
    (rest : read worker.read.1 worker.read.2 = .exceSQL update next) :
    Charges worker.call row update := by
  obtain ⟨call, ⟨money, bindMoney⟩, _⟩ := worker
  have gold := nonneg.gold
  cases call with
  | getmoney | getBindMoney | getBindAndMoney | getGold | dropGold => cases body
  | dropMoneyOnly num =>
      cases body
      obtain ⟨current, small⟩ := exact
      dsimp only at rest current small
      split at rest
      · cases rest
      next enough =>
        cases rest
        have covered : num ≤ money := UInt32.not_lt.mp enough
        have value := UInt32.toNat_sub_of_le _ _ covered
        have written := printed_small small
        rw [UInt32.le_iff_toNat_le] at covered
        have kept := nonneg.bindMoney
        refine ⟨?_, ?_, ⟨?_, ?_, ?_⟩⟩ <;>
          simp only [MoneyUpdate.apply, MoneyCall.moneyChange, MoneyCall.goldChange, written] <;>
          omega
  | dropmoney num =>
      cases body
      obtain ⟨current, small1, small2⟩ := exact
      dsimp only at rest current small1 small2
      split at rest
      · cases rest
      next enough =>
        cases rest
        have sum := dropBalance_sum enough
        have written1 := printed_small small1
        have written2 := printed_small small2
        refine ⟨?_, ?_, ⟨?_, ?_, ?_⟩⟩ <;>
          simp only [MoneyUpdate.apply, MoneyCall.moneyChange, MoneyCall.goldChange, written1,
            written2] <;> omega

/-- A call that updates the gold it read is a debit of gold. -/
theorem charges_gold (nonneg : row.Nonneg) (exact : worker.Exact row)
    {read : UInt32 → Statements} (body : worker.call.body = .selectGold read)
    (rest : read worker.read.1 = .exceSQL update next) :
    Charges worker.call row update := by
  obtain ⟨call, ⟨gold, other⟩, _⟩ := worker
  obtain ⟨money, bindMoney, -⟩ := nonneg
  cases call with
  | getmoney | getBindMoney | getBindAndMoney | getGold | dropMoneyOnly | dropmoney => cases body
  | dropGold num =>
      cases body
      obtain ⟨small, covered⟩ := exact
      dsimp only at rest
      split at rest
      · cases rest
      · cases rest
        have written := printed_small small
        refine ⟨?_, ?_, ⟨?_, ?_, ?_⟩⟩ <;>
          simp only [MoneyUpdate.apply, MoneyCall.moneyChange, MoneyCall.goldChange, written] <;>
          omega

/-- An exact update charges its call. -/
theorem charges (stage : worker.Stage) (nonneg : row.Nonneg) (exact : worker.Exact row)
    (rest : worker.rest = .exceSQL update next) : Charges worker.call row update := by
  cases stage with
  | start body => exact charges_credit nonneg exact (body.symm.trans rest)
  | readMoney body read => exact charges_money nonneg exact body (read.symm.trans rest)
  | readGold body read => exact charges_gold nonneg exact body (read.symm.trans rest)
  | finish ended => rw [ended] at rest; cases rest

end MoneyWorker.Stage

/-- The last statement of a call is an update, unless the balance is too small. -/
inductive Statements.Last : Statements → Prop where
  | refused : Last (.done (-1))
  | update {update : MoneyUpdate} {next : Int → Statements} (executed : next 0 = .done 1)
      (failed : next (-1) = .done 0) : Last (.exceSQL update next)

/-- A call is one update, or one select and a last statement. -/
theorem MoneyCall.body_cases (call : MoneyCall) :
    call.body.isUpdate = true ∧ call.body.Last ∨
      (∃ next, call.body = .selectmoney next ∧ ∀ money bindMoney, (next money bindMoney).Last) ∨
      ∃ next, call.body = .selectGold next ∧ ∀ gold, (next gold).Last := by
  cases call with
  | getmoney | getBindMoney | getBindAndMoney | getGold => exact .inl ⟨rfl, .update rfl rfl⟩
  | dropMoneyOnly num =>
      refine .inr (.inl ⟨_, rfl, fun money _ => ?_⟩)
      by_cases short : money < num
      · rw [if_pos short]
        exact .refused
      · rw [if_neg short]
        exact .update rfl rfl
  | dropmoney num =>
      refine .inr (.inl ⟨_, rfl, fun money bindMoney => ?_⟩)
      by_cases short : money + bindMoney < num
      · rw [if_pos short]
        exact .refused
      · rw [if_neg short]
        exact .update rfl rfl
  | dropGold num =>
      refine .inr (.inr ⟨_, rfl, fun gold => ?_⟩)
      by_cases short : gold < num
      · rw [if_pos short]
        exact .refused
      · rw [if_neg short]
        exact .update rfl rfl

theorem Statements.Last.not_succeeded {rest : Statements} (last : rest.Last) :
    rest.succeeded = false := by
  cases last <;> rfl

theorem MoneyCall.body_not_succeeded (call : MoneyCall) : call.body.succeeded = false := by
  cases call <;> rfl

namespace MoneyWorker

variable {worker : MoneyWorker}

/-- A worker waits for its select, is at its last statement, or has returned. -/
theorem Stage.rest_cases (stage : worker.Stage) :
    worker.rest = worker.call.body ∨ worker.rest.Last ∨ ∃ result, worker.rest = .done result := by
  cases stage with
  | start rest => exact .inl rest
  | readMoney body rest =>
      rcases worker.call.body_cases with ⟨update, -⟩ | ⟨next, other, last⟩ | ⟨next, other, -⟩
      · rw [body] at update; cases update
      · rw [body] at other
        cases other
        exact .inr (.inl (rest ▸ last _ _))
      · rw [body] at other; cases other
  | readGold body rest =>
      rcases worker.call.body_cases with ⟨update, -⟩ | ⟨next, other, -⟩ | ⟨next, other, last⟩
      · rw [body] at update; cases update
      · rw [body] at other; cases other
      · rw [body] at other
        cases other
        exact .inr (.inl (rest ▸ last _))
  | finish rest => exact .inr (.inr ⟨_, rest⟩)

theorem Stage.update_last (stage : worker.Stage) {update : MoneyUpdate} {next : Int → Statements}
    (rest : worker.rest = .exceSQL update next) : next 0 = .done 1 ∧ next (-1) = .done 0 := by
  have last : worker.rest.Last := by
    rcases stage.rest_cases with body | last | ⟨result, ended⟩
    · rw [body]
      rcases worker.call.body_cases with ⟨-, last⟩ | ⟨_, other, -⟩ | ⟨_, other, -⟩
      · exact last
      · rw [← body, rest] at other; cases other
      · rw [← body, rest] at other; cases other
    · exact last
    · rw [ended] at rest; cases rest
  rw [rest] at last
  cases last with
  | update executed failed => exact ⟨executed, failed⟩

/-- A select is the first statement of its call. -/
theorem Stage.start_of_select (stage : worker.Stage) (select : worker.rest.isUpdate = false)
    (running : ∀ result, worker.rest ≠ .done result) : worker.rest = worker.call.body := by
  rcases stage.rest_cases with body | last | ⟨result, ended⟩
  · exact body
  · generalize shape : worker.rest = rest at last
    cases last with
    | refused => exact absurd shape (running _)
    | update => rw [shape] at select; cases select
  · exact absurd ended (running result)

theorem counted_of_not_succeeded {amount : MoneyCall → Int}
    (running : worker.rest.succeeded = false) : worker.counted amount = 0 := by
  simp [counted, running]

/-- A statement charges the row with exactly what the worker then counts. -/
structure Executes (row : MoneyRow) (worker : MoneyWorker) (next : MoneyRow)
    (after : MoneyWorker) : Prop where
  stage : after.Stage
  nonneg : next.Nonneg
  running : worker.rest.succeeded = false
  money : next.money + next.bindMoney =
    row.money + row.bindMoney + after.counted MoneyCall.moneyChange
  gold : next.gold = row.gold + after.counted MoneyCall.goldChange

/-- A select charges nothing. -/
theorem Executes.of_select {row : MoneyRow} {after : MoneyWorker} (stage : after.Stage)
    (nonneg : row.Nonneg) (running : worker.rest.succeeded = false) (last : after.rest.Last) :
    Executes row worker row after := by
  have quiet : ∀ amount, after.counted amount = 0 := fun amount =>
    counted_of_not_succeeded last.not_succeeded
  refine ⟨stage, nonneg, running, ?_, ?_⟩
  · rw [quiet, Int.add_zero]
  · rw [quiet, Int.add_zero]

theorem Stage.execute (stage : worker.Stage) {row next : MoneyRow} {after : MoneyWorker}
    {answer : DbAnswer} (nonneg : row.Nonneg)
    (exact : answer = .executed → worker.rest.isUpdate = true → worker.Exact row)
    (enabled : worker.execute row answer = some (next, after)) :
    Executes row worker next after := by
  unfold MoneyWorker.execute at enabled
  have running : (∀ result, worker.rest ≠ .done result) → worker.rest.succeeded = false := by
    intro open_
    cases rest : worker.rest with
    | done result => exact absurd rest (open_ result)
    | _ => rfl
  cases rest : worker.rest with
  | done result => rw [rest] at enabled; cases enabled
  | selectmoney remain =>
      rw [rest] at enabled
      cases enabled
      have body := stage.start_of_select (by rw [rest]; rfl) (by simp [rest])
      rw [rest] at body
      rcases worker.call.body_cases with ⟨update, -⟩ | ⟨_, other, last⟩ | ⟨_, other, -⟩
      · rw [← body] at update; cases update
      · rw [← body] at other
        cases other
        exact .of_select (.readMoney body.symm rfl) nonneg (running (by simp [rest])) (last _ _)
      · rw [← body] at other; cases other
  | selectGold remain =>
      rw [rest] at enabled
      cases enabled
      have body := stage.start_of_select (by rw [rest]; rfl) (by simp [rest])
      rw [rest] at body
      rcases worker.call.body_cases with ⟨update, -⟩ | ⟨_, other, -⟩ | ⟨_, other, last⟩
      · rw [← body] at update; cases update
      · rw [← body] at other; cases other
      · rw [← body] at other
        cases other
        exact .of_select (.readGold body.symm rfl) nonneg (running (by simp [rest])) (last _)
  | exceSQL update remain =>
      rw [rest] at enabled
      obtain ⟨executed, failed⟩ := stage.update_last rest
      cases answer with
      | executed =>
          cases enabled
          have charged := stage.charges nonneg (exact rfl (by rw [rest]; rfl)) rest
          have counts : ∀ amount : MoneyCall → Int,
              counted amount { worker with rest := remain 0 } = amount worker.call := by
            intro amount
            simp [counted, executed, Statements.succeeded]
          refine ⟨.finish executed, charged.nonneg, running (by simp [rest]), ?_, ?_⟩
          · rw [counts, charged.money]
          · rw [counts, charged.gold]
      | failed =>
          cases enabled
          have quiet : ∀ amount : MoneyCall → Int,
              counted amount { worker with rest := remain (-1) } = 0 := by
            intro amount
            simp [counted, failed, Statements.succeeded]
          refine ⟨.finish failed, nonneg, running (by simp [rest]), ?_, ?_⟩
          · rw [quiet, Int.add_zero]
          · rw [quiet, Int.add_zero]

end MoneyWorker

namespace MoneyPool

/-- The sum of the amounts of the calls that returned one. -/
def total (amount : MoneyCall → Int) (pool : MoneyPool) : Int :=
  (pool.workers.map (MoneyWorker.counted amount)).sum

/-- The totals are their initial values plus the amounts of the successful calls, and they are not
negative. -/
structure Lossless (start : MoneyRow) (pool : MoneyPool) : Prop where
  money : pool.row.money + pool.row.bindMoney =
    start.money + start.bindMoney + pool.total MoneyCall.moneyChange
  gold : pool.row.gold = start.gold + pool.total MoneyCall.goldChange
  moneyNonneg : 0 ≤ pool.row.money + pool.row.bindMoney
  goldNonneg : 0 ≤ pool.row.gold

/-- Every update that the database executes is exact. -/
def Admitted (pool : MoneyPool) : MoneyEvent → Prop
  | .execute index .executed => ∀ worker, pool.workers[index]? = some worker →
      worker.rest.isUpdate = true → worker.Exact pool.row
  | _ => True

/-- Every worker is at a stage of its call and the row has lost nothing. -/
structure Sound (start : MoneyRow) (pool : MoneyPool) : Prop where
  stages : ∀ worker ∈ pool.workers, worker.Stage
  nonneg : pool.row.Nonneg
  lossless : pool.Lossless start

variable {start : MoneyRow} {pool next : MoneyPool}

theorem request_sound (sound : pool.Sound start) (call : MoneyCall) :
    Sound start { pool with workers := pool.workers ++ [⟨call, (0, 0), call.body⟩] } := by
  have same : ∀ amount,
      total amount { pool with workers := pool.workers ++ [⟨call, (0, 0), call.body⟩] } =
        pool.total amount := by
    intro amount
    simp [total, MoneyWorker.counted, call.body_not_succeeded]
  refine ⟨?_, sound.nonneg, ?_, ?_, sound.lossless.moneyNonneg, sound.lossless.goldNonneg⟩
  · intro worker member
    rcases List.mem_append.mp member with before | new
    · exact sound.stages worker before
    · rw [List.mem_singleton] at new
      subst new
      exact .start rfl
  · rw [same]
    exact sound.lossless.money
  · rw [same]
    exact sound.lossless.gold

theorem execute_sound (sound : pool.Sound start) {index : Nat} {answer : DbAnswer}
    (admitted : pool.Admitted (.execute index answer))
    (enabled : pool.step (.execute index answer) = some next) : next.Sound start := by
  obtain ⟨worker, found, ran⟩ := Option.bind_eq_some_iff.mp enabled
  obtain ⟨⟨row, after⟩, executed, rfl⟩ := Option.map_eq_some_iff.mp ran
  obtain ⟨inside, worker_eq⟩ := List.getElem?_eq_some_iff.mp found
  have member : worker ∈ pool.workers := worker_eq ▸ List.getElem_mem inside
  have exact : answer = .executed → worker.rest.isUpdate = true → worker.Exact pool.row := by
    rintro rfl update
    exact admitted worker found update
  have effect := (sound.stages worker member).execute sound.nonneg exact executed
  have added : ∀ amount, total amount { row, workers := pool.workers.set index after } =
      pool.total amount + after.counted amount := by
    intro amount
    have before : worker.counted amount = 0 := MoneyWorker.counted_of_not_succeeded effect.running
    have position : index < (pool.workers.map (MoneyWorker.counted amount)).length := by
      rwa [List.length_map]
    simp only [total, List.map_set]
    rw [List.sum_set', dif_pos position, List.getElem_map, worker_eq, before]
    omega
  refine ⟨?_, effect.nonneg, ?_, ?_, ?_, ?_⟩
  · intro other inPool
    rcases List.mem_or_eq_of_mem_set inPool with before | rfl
    · exact sound.stages other before
    · exact effect.stage
  · rw [added, ← Int.add_assoc, ← sound.lossless.money]
    exact effect.money
  · rw [added, ← Int.add_assoc, ← sound.lossless.gold]
    exact effect.gold
  · have money := effect.nonneg.money
    have bindMoney := effect.nonneg.bindMoney
    show 0 ≤ row.money + row.bindMoney
    omega
  · exact effect.nonneg.gold

/-- No interleaving of exact updates loses a change of the row. -/
theorem run_lossless {history : History MoneyPool MoneyEvent} {final : MoneyPool}
    (nonneg : start.Nonneg) (run : Run step Admitted ⟨start, []⟩ history final) :
    final.Lossless start := by
  have initial : Sound start ⟨start, []⟩ := by
    refine ⟨by simp, nonneg, by simp [total], by simp [total], ?_, nonneg.gold⟩
    have money := nonneg.money
    have bindMoney := nonneg.bindMoney
    show 0 ≤ start.money + start.bindMoney
    omega
  have sound : final.Sound start := by
    apply run.invariant (Sound start) initial
    intro state event next before admitted enabled
    cases event with
    | request call =>
        cases enabled
        exact request_sound before call
    | execute index answer => exact execute_sound before admitted enabled
  exact sound.lossless

/-- Two debits run one after the other. -/
theorem successiveDebits_lossless :
    ∃ history final, Run step Admitted ⟨⟨100, 0, 0⟩, []⟩ history final ∧
      history.map Prod.snd = [.request (.dropMoneyOnly 50), .execute 0 .executed,
        .execute 0 .executed, .request (.dropMoneyOnly 30), .execute 1 .executed,
        .execute 1 .executed] ∧
      final.row = ⟨20, 0, 0⟩ ∧ final.Lossless ⟨100, 0, 0⟩ := by
  have replayed := run_of_replay (show replay step ⟨⟨100, 0, 0⟩, []⟩
    [.request (.dropMoneyOnly 50), .execute 0 .executed, .execute 0 .executed,
      .request (.dropMoneyOnly 30), .execute 1 .executed, .execute 1 .executed] = some _ from rfl)
  have run : Run step Admitted _ _ _ := replayed.restrict (by
    intro entry member
    simp only [List.mem_cons, List.not_mem_nil, or_false] at member
    rcases member with rfl | rfl | rfl | rfl | rfl | rfl
    · trivial
    · intro worker found update
      cases found
      cases update
    · intro worker found _
      cases found
      exact ⟨by decide, by decide⟩
    · trivial
    · intro worker found update
      cases found
      cases update
    · intro worker found _
      cases found
      exact ⟨by decide, by decide⟩)
  exact ⟨_, _, run, rfl, by decide, run_lossless ⟨by decide, by decide, by decide⟩ run⟩

/-- Two debits read the balance before either of them writes it. -/
theorem concurrentDebits_not_lossless :
    ∃ history final, Run step anyEvent ⟨⟨100, 0, 0⟩, []⟩ history final ∧
      history.map Prod.snd = [.request (.dropMoneyOnly 50), .request (.dropMoneyOnly 30),
        .execute 0 .executed, .execute 1 .executed, .execute 0 .executed,
        .execute 1 .executed] ∧
      final.row = ⟨70, 0, 0⟩ ∧ ¬ final.Lossless ⟨100, 0, 0⟩ := by
  have run := run_of_replay (show replay step ⟨⟨100, 0, 0⟩, []⟩
    [.request (.dropMoneyOnly 50), .request (.dropMoneyOnly 30), .execute 0 .executed,
      .execute 1 .executed, .execute 0 .executed, .execute 1 .executed] = some _ from rfl)
  refine ⟨_, _, run, rfl, by decide, ?_⟩
  intro lossless
  exact absurd lossless.money (by decide)

end MoneyPool

end AppSvr.MainServer
