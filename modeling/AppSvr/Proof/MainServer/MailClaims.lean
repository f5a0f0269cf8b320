/-
This file proves when concurrent claims credit a mail at most once and when concurrent sends stay
within the balances of their senders.
-/

import AppSvr.Proof.MainServer.MailStages
import AppSvr.Proof.MainServer.MailTotals

namespace AppSvr.MainServer

open MailProgram Programs TableSums TransitionSystem

abbrev MailWorker := Worker MailRequest MailStatement MailSvc UInt32

abbrev MailHistory := History MailPool (PoolEvent MailRequest)

namespace MailBox

variable {mailBox next : MailBox} {mailID roleID otherID otherRole : UInt32} {mail row : DBMail}

/-- An update changes the row that its clause selects and no other one. -/
theorem find_update (change : DBMail → DBMail) (keeps : ∀ mail, (change mail).mailID = mail.mailID)
    (owner : ∀ mail, (change mail).roleID = mail.roleID) :
    (mailBox.update mailID roleID change keeps).find otherID otherRole =
      (mailBox.find otherID otherRole).map fun mail =>
        if otherID = mailID ∧ otherRole = roleID then change mail else mail := by
  have same : ((fun mail => decide (Named otherID otherRole mail)) ∘ fun mail =>
      if Named mailID roleID mail then change mail else mail) =
        fun mail => decide (Named otherID otherRole mail) := by
    funext mail
    by_cases named : Named mailID roleID mail
    · have kept : Named otherID otherRole (change mail) ↔ Named otherID otherRole mail := by
        unfold Named
        rw [keeps, owner]
      rw [Function.comp_apply, if_pos named]
      exact decide_eq_decide.mpr kept
    · simp [named]
  rw [find, update, List.find?_map, same, ← find]
  cases found : mailBox.find otherID otherRole with
  | none => rfl
  | some mail =>
      obtain ⟨rfl, rfl⟩ := (find_mem found).2
      rfl

/-- A new mail leaves the stored ones. -/
theorem find_insert (inserted : mailBox.insert mail = some next)
    (found : mailBox.find mailID roleID = some row) : next.find mailID roleID = some row := by
  rw [find, (insert_mails inserted).1, List.find?_append, ← find, found, Option.some_or]

end MailBox

namespace MailProgram

variable {roleID mailID : UInt32} {mail : DBMail} {moveType : UInt8} {svc after : MailSvc}
  {first : MailStatement} {program : MailProgram UInt32} {next : MailSvc → MailProgram UInt32}

/-- This is all that one statement of a claim does to the tables and to the stage of the claim. -/
inductive ClaimEffect (roleID mailID : UInt32) (mail : DBMail) (svc : MailSvc) :
    UInt8 → MailStatement → MailSvc → MailProgram UInt32 → Prop where
  | reads {moveType : UInt8} {first : MailStatement} {rest : MailProgram UInt32}
      (pending : first.clears = true → rest.head.any MailStatement.clears = true)
      (stage : Claiming roleID mailID mail moveType rest) :
      ClaimEffect roleID mailID mail svc moveType first svc rest
  | clearMoney {rest : MailProgram UInt32} (ended : rest.head = none) :
      ClaimEffect roleID mailID mail svc 1 (.initMoneyAttach mailID roleID)
        { svc with
          mailBox := svc.mailBox.update mailID roleID DBMail.clearMoney DBMail.clearMoney_mailID }
        rest
  | clearItem {rest : MailProgram UInt32} (ended : rest.head = none) :
      ClaimEffect roleID mailID mail svc 2 (.initItemAttach mailID roleID)
        { svc with
          mailBox := svc.mailBox.update mailID roleID DBMail.clearItem DBMail.clearItem_mailID }
        rest
  | money {first : MailStatement} {rest : MailProgram UInt32} (credits : first.credits = true)
      (pending : Clearing roleID mailID 1 rest) :
      ClaimEffect roleID mailID mail svc 1 first (svc.updateMoney roleID mail.silver mail.gold) rest
  | item {row : DBBagItem} {rest : MailProgram UInt32} (brings : mail.Brings roleID row)
      (pending : Clearing roleID mailID 2 rest) :
      ClaimEffect roleID mailID mail svc 2 (.insertBag row) { svc with bag := svc.bag ++ [row] } rest

theorem Clearing.pending (clearing : Clearing roleID mailID moveType program) :
    program.head.any MailStatement.clears = true := by
  cases clearing <;> rfl

theorem Claiming.effect (claiming : Claiming roleID mailID mail moveType (.statement first next))
    (executed : MailSvc.execute first svc = some after) :
    ClaimEffect roleID mailID mail svc moveType first after (next svc) := by
  cases claiming with
  | ended ended => cases ended
  | clearing rest =>
      cases rest with
      | money ended =>
          cases executed
          exact .clearMoney (ended svc)
      | item ended =>
          cases executed
          exact .clearItem (ended svc)
      | entity rest =>
          cases executed
          exact .reads (fun _ => (rest svc).pending) (.clearing (rest svc))
  | silver moneyType rest =>
      cases executed
      have credit : ClaimEffect roleID mailID mail svc 1 (.addMoney roleID mail.money)
          (svc.updateMoney roleID mail.silver mail.gold) _ := .money rfl (rest svc)
      simpa [DBMail.silver, DBMail.gold, moneyType] using credit
  | gold moneyType rest =>
      cases executed
      have credit : ClaimEffect roleID mailID mail svc 1 (.addGold roleID mail.money)
          (svc.updateMoney roleID mail.silver mail.gold) _ := .money rfl (rest svc)
      simpa [DBMail.silver, DBMail.gold, moneyType] using credit
  | cells rest =>
      cases executed
      exact .reads (fun pending => absurd pending Bool.false_ne_true) (rest svc)
  | itemType rest =>
      cases executed
      exact .reads (fun pending => absurd pending Bool.false_ne_true) (rest svc)
  | item brings rest =>
      cases executed
      exact .item brings (rest svc)

end MailProgram

namespace MailSvc

variable (roleID : UInt32) (svc : MailSvc)

/-- The silver of a role, which has none without a row. -/
def moneyOf : Int := (svc.roleMoney roleID).elim 0 RoleMoney.money

def goldOf : Int := (svc.roleMoney roleID).elim 0 RoleMoney.gold

/-- A credit reaches the balance if the role has a row. -/
theorem moneyOf_updateMoney (money gold : Int) :
    (svc.updateMoney roleID money gold).moneyOf roleID - svc.moneyOf roleID ≤ max 0 money := by
  unfold moneyOf updateMoney
  cases row : svc.roleMoney roleID with
  | none => simp
  | some balance => simp

theorem goldOf_updateMoney (money gold : Int) :
    (svc.updateMoney roleID money gold).goldOf roleID - svc.goldOf roleID ≤ max 0 gold := by
  unfold goldOf updateMoney
  cases row : svc.roleMoney roleID with
  | none => simp
  | some balance => simp

end MailSvc

/-- The request claims a part of this mail. -/
def MailRequest.claims (roleID mailID : UInt32) : MailRequest → Bool
  | .attachToBag owner claimed _ => owner = roleID ∧ claimed = mailID
  | _ => false

namespace MailPool

variable {pool next : MailPool} {history : MailHistory} {event : PoolEvent MailRequest}
  {roleID mailID : UInt32}

/-- The worker that executes its next statement. -/
def executing (pool : MailPool) : PoolEvent MailRequest → Option MailWorker
  | .request _ => none
  | .execute index => pool.workers[index]?

/-- The step changes the value by this amount. -/
def change (read : MailSvc → Int) (entry : MailPool × PoolEvent MailRequest) : Int :=
  (entry.1.step entry.2).elim 0 fun next => read next.state - read entry.1.state

/-- The step adds these rows to the bags. -/
def added (entry : MailPool × PoolEvent MailRequest) : List DBBagItem :=
  (entry.1.step entry.2).elim [] fun next => next.state.bag.drop entry.1.state.bag.length

/-- The event is a statement of a claim of this mail. -/
def ClaimStep (roleID mailID : UInt32) (entry : MailPool × PoolEvent MailRequest) : Bool :=
  (entry.1.executing entry.2).any fun worker => worker.request.claims roleID mailID

/-- The claims of this mail change the value by this amount. -/
def credited (read : MailSvc → Int) (history : MailHistory) (roleID mailID : UInt32) : Int :=
  ((history.filter (ClaimStep roleID mailID)).map (change read)).sum

/-- The claims of this mail add these rows to the bags. -/
def received (history : MailHistory) (roleID mailID : UInt32) : List DBBagItem :=
  (history.filter (ClaimStep roleID mailID)).flatMap added

/-- The first row of this mail shows what the mail carried. -/
def carried (history : MailHistory) (pool : MailPool) (roleID mailID : UInt32) : Option DBMail :=
  (history.map Prod.fst ++ [pool]).findSome? fun pool => pool.state.mailBox.find mailID roleID

/-- The claims of this mail have credited at most what it carried. -/
structure ClaimedOnce (history : MailHistory) (pool : MailPool) (roleID mailID : UInt32) :
    Prop where
  money : credited (MailSvc.moneyOf roleID) history roleID mailID ≤
    max 0 ((carried history pool roleID mailID).elim 0 DBMail.silver)
  gold : credited (MailSvc.goldOf roleID) history roleID mailID ≤
    max 0 ((carried history pool roleID mailID).elim 0 DBMail.gold)
  single : (received history roleID mailID).length ≤ 1
  items : ∀ row ∈ received history roleID mailID,
    ∃ mail ∈ carried history pool roleID mailID, mail.Brings roleID row

section Histories

theorem carried_append :
    carried (history ++ [(pool, event)]) next roleID mailID =
      (carried history pool roleID mailID).or (next.state.mailBox.find mailID roleID) := by
  simp only [carried, List.map_append, List.map_singleton, List.findSome?_append,
    List.findSome?_singleton]

theorem credited_other (history : MailHistory) (read : MailSvc → Int)
    (other : ClaimStep roleID mailID (pool, event) = false) :
    credited read (history ++ [(pool, event)]) roleID mailID =
      credited read history roleID mailID := by
  simp [credited, List.filter_append, other]

theorem credited_own (history : MailHistory) (read : MailSvc → Int)
    (own : ClaimStep roleID mailID (pool, event) = true)
    (enabled : pool.step event = some next) :
    credited read (history ++ [(pool, event)]) roleID mailID =
      credited read history roleID mailID + (read next.state - read pool.state) := by
  simp [credited, List.filter_append, own, change, enabled]

theorem received_other (history : MailHistory)
    (other : ClaimStep roleID mailID (pool, event) = false) :
    received (history ++ [(pool, event)]) roleID mailID = received history roleID mailID := by
  simp [received, List.filter_append, other]

theorem received_own (history : MailHistory) (own : ClaimStep roleID mailID (pool, event) = true)
    (enabled : pool.step event = some next) :
    received (history ++ [(pool, event)]) roleID mailID =
      received history roleID mailID ++ next.state.bag.drop pool.state.bag.length := by
  simp [received, List.filter_append, own, added, enabled]

/-- What a mail carried stays the same. -/
theorem carried_mono {mail : DBMail}
    (first : carried history pool roleID mailID = some mail) :
    carried (history ++ [(pool, event)]) next roleID mailID = some mail := by
  rw [carried_append, first, Option.some_or]

end Histories

/-- The row holds the part that the move type names. -/
structure Holds (moveType : UInt8) (row : DBMail) : Prop where
  money : moveType = 1 → row.money ≠ 0
  item : moveType = 2 → row.itemID ≠ 0

/-- No claim of this part stands between its credit and its clearing statement. -/
def Idle (pool : MailPool) (request : MailRequest) : Prop :=
  ∀ worker ∈ pool.workers, worker.request = request →
    worker.rest.head.any MailStatement.clears = false

/-- The claims of this mail have credited nothing of this part. -/
structure Uncredited (history : MailHistory) (roleID mailID : UInt32) (moveType : UInt8) :
    Prop where
  money : moveType = 1 → credited (MailSvc.moneyOf roleID) history roleID mailID = 0
  gold : moveType = 1 → credited (MailSvc.goldOf roleID) history roleID mailID = 0
  items : moveType = 2 → received history roleID mailID = []

/-- A claim waits for its first statement, has returned, or has read what the mail carried. -/
def AtStage (history : MailHistory) (pool : MailPool) (roleID mailID : UInt32) (moveType : UInt8)
    (rest : MailProgram UInt32) : Prop :=
  rest = processAttachToBag roleID mailID moveType ∨ rest.head = none ∨
    ∃ mail, carried history pool roleID mailID = some mail ∧
      Claiming roleID mailID mail moveType rest

/-- The claims of this mail are at their stages. A part that is stored while no claim is about to
clear it has not been credited. -/
structure Claimed (history : MailHistory) (pool : MailPool) (roleID mailID : UInt32) : Prop where
  stages : ∀ worker ∈ pool.workers, ∀ moveType,
    worker.request = .attachToBag roleID mailID moveType →
      AtStage history pool roleID mailID moveType worker.rest
  remains : ∀ row, pool.state.mailBox.find mailID roleID = some row →
    ∃ mail, carried history pool roleID mailID = some mail ∧ mail.Remains row
  kept : pool.state.mailBox.find mailID roleID = none → carried history pool roleID mailID = none
  uncredited : ∀ moveType,
    (∀ row, pool.state.mailBox.find mailID roleID = some row → Holds moveType row) →
      pool.Idle (.attachToBag roleID mailID moveType) →
        Uncredited history roleID mailID moveType
  once : ClaimedOnce history pool roleID mailID

theorem AtStage.mono {moveType : UInt8} {rest : MailProgram UInt32}
    (stage : AtStage history pool roleID mailID moveType rest) :
    AtStage (history ++ [(pool, event)]) next roleID mailID moveType rest := by
  rcases stage with start | ended | ⟨mail, first, claiming⟩
  · exact .inl start
  · exact .inr (.inl ended)
  · exact .inr (.inr ⟨mail, carried_mono first, claiming⟩)

/-- A bound by what the mail carried stays a bound. -/
theorem bound_mono (weight : DBMail → Int) {amount : Int}
    (bound : amount ≤ max 0 ((carried history pool roleID mailID).elim 0 weight)) :
    amount ≤ max 0 ((carried (history ++ [(pool, event)]) next roleID mailID).elim 0 weight) := by
  cases first : carried history pool roleID mailID with
  | none =>
      rw [first] at bound
      exact bound.trans (by simp)
  | some mail =>
      rw [first] at bound
      rw [carried_mono first]
      exact bound

/-- A bound on the credited amounts and on the received rows carries over to the next state. -/
theorem ClaimedOnce.mono (once : ClaimedOnce history pool roleID mailID)
    (money : credited (MailSvc.moneyOf roleID) (history ++ [(pool, event)]) roleID mailID =
      credited (MailSvc.moneyOf roleID) history roleID mailID)
    (gold : credited (MailSvc.goldOf roleID) (history ++ [(pool, event)]) roleID mailID =
      credited (MailSvc.goldOf roleID) history roleID mailID)
    (items : received (history ++ [(pool, event)]) roleID mailID =
      received history roleID mailID) :
    ClaimedOnce (history ++ [(pool, event)]) next roleID mailID := by
  refine ⟨?_, ?_, ?_, ?_⟩
  · rw [money]
    exact bound_mono DBMail.silver once.money
  · rw [gold]
    exact bound_mono DBMail.gold once.gold
  · rw [items]
    exact once.single
  · rw [items]
    intro row member
    obtain ⟨mail, first, brings⟩ := once.items row member
    exact ⟨mail, carried_mono first, brings⟩

/-- A part without a credit stays so when the step credits nothing of it. -/
theorem Uncredited.mono {moveType : UInt8} (before : Uncredited history roleID mailID moveType)
    (money : moveType = 1 →
      credited (MailSvc.moneyOf roleID) (history ++ [(pool, event)]) roleID mailID =
        credited (MailSvc.moneyOf roleID) history roleID mailID)
    (gold : moveType = 1 →
      credited (MailSvc.goldOf roleID) (history ++ [(pool, event)]) roleID mailID =
        credited (MailSvc.goldOf roleID) history roleID mailID)
    (items : moveType = 2 → received (history ++ [(pool, event)]) roleID mailID =
      received history roleID mailID) :
    Uncredited (history ++ [(pool, event)]) roleID mailID moveType :=
  ⟨fun part => (money part).trans (before.money part),
    fun part => (gold part).trans (before.gold part),
    fun part => (items part).trans (before.items part)⟩

namespace Claimed

/-- A stored row is what is left of the mail. -/
theorem left (claimed : Claimed history pool roleID mailID) {mail row : DBMail}
    (first : carried history pool roleID mailID = some mail)
    (stored : pool.state.mailBox.find mailID roleID = some row) : mail.Remains row := by
  obtain ⟨other, same, remains⟩ := claimed.remains row stored
  obtain rfl := Option.some.inj (first.symm.trans same)
  exact remains

/-- A step of another request keeps the mail and its claims. -/
theorem frame (claimed : Claimed history pool roleID mailID)
    (other : ClaimStep roleID mailID (pool, event) = false)
    (find : ∀ row, pool.state.mailBox.find mailID roleID = some row →
      next.state.mailBox.find mailID roleID = some row)
    (workers : ∀ worker ∈ next.workers, ∀ moveType,
      worker.request = .attachToBag roleID mailID moveType →
        worker ∈ pool.workers ∨ worker.rest = processAttachToBag roleID mailID moveType)
    (back : ∀ worker ∈ pool.workers, ∀ moveType,
      worker.request = .attachToBag roleID mailID moveType → worker ∈ next.workers) :
    Claimed (history ++ [(pool, event)]) next roleID mailID := by
  have money := credited_other history (MailSvc.moneyOf roleID) other
  have gold := credited_other history (MailSvc.goldOf roleID) other
  have items := received_other history other
  refine ⟨?_, ?_, ?_, ?_, claimed.once.mono money gold items⟩
  · intro worker member moveType request
    rcases workers worker member moveType request with old | start
    · exact (claimed.stages worker old moveType request).mono
    · exact .inl start
  · intro row found
    cases before : pool.state.mailBox.find mailID roleID with
    | none =>
        refine ⟨row, ?_, .refl row⟩
        rw [carried_append, claimed.kept before, Option.none_or, found]
    | some old =>
        obtain rfl := Option.some.inj ((find old before).symm.trans found)
        obtain ⟨mail, first, remains⟩ := claimed.remains old before
        exact ⟨mail, carried_mono first, remains⟩
  · intro missing
    cases before : pool.state.mailBox.find mailID roleID with
    | none => rw [carried_append, claimed.kept before, missing, Option.none_or]
    | some old => rw [find old before] at missing; cases missing
  · intro moveType holds idle
    have before : Uncredited history roleID mailID moveType := by
      apply claimed.uncredited moveType
      · intro row found
        exact holds row (find row found)
      · intro worker member request
        exact idle worker (back worker member moveType request) request
    exact before.mono (fun _ => money) (fun _ => gold) fun _ => items

section Own

variable {index : Nat} {worker : MailWorker} {after : MailSvc} {rest : MailProgram UInt32}
  {moveType : UInt8} (found : pool.workers[index]? = some worker)
  (request : worker.request = .attachToBag roleID mailID moveType)
include found request

theorem claimStep : ClaimStep roleID mailID (pool, .execute index) = true := by
  simp [ClaimStep, executing, found, request, MailRequest.claims]

omit request in
/-- Nobody else clears, so the part was idle unless this worker has left its clearing stage. -/
theorem idle_back {part : MailRequest}
    (pending : worker.request = part → worker.rest.head.any MailStatement.clears = true →
      rest.head.any MailStatement.clears = true)
    (idle : Idle ⟨after, pool.workers.set index { worker with rest }⟩ part) : pool.Idle part := by
  intro other member same
  obtain ⟨position, bound, rfl⟩ := List.mem_iff_getElem.mp member
  by_cases here : index = position
  · subst here
    obtain ⟨_, rfl⟩ := List.getElem?_eq_some_iff.mp found
    rw [Bool.eq_false_iff]
    intro clears
    have ended : rest.head.any MailStatement.clears = false :=
      idle { request := pool.workers[index].request, rest } (List.mem_set bound _) same
    rw [pending same clears] at ended
    cases ended
  · apply idle _ _ same
    dsimp only
    rw [← List.getElem_set_ne here (by simpa using bound)]
    exact List.getElem_mem _

/-- The claims of the other part are not touched. -/
theorem idle_other {part : UInt8} (apart : part ≠ moveType)
    (idle : Idle ⟨after, pool.workers.set index { worker with rest }⟩
      (.attachToBag roleID mailID part)) : pool.Idle (.attachToBag roleID mailID part) := by
  apply idle_back found _ idle
  intro named
  rw [request] at named
  cases named
  exact absurd rfl apart

/-- A part that this claim is about to clear is not idle. -/
theorem apart_of_idle {part : UInt8} (pending : rest.head.any MailStatement.clears = true)
    (idle : Idle ⟨after, pool.workers.set index { worker with rest }⟩
      (.attachToBag roleID mailID part)) : part ≠ moveType := by
  intro same
  subst same
  obtain ⟨bound, -⟩ := List.getElem?_eq_some_iff.mp found
  have ended : rest.head.any MailStatement.clears = false :=
    idle { worker with rest } (List.mem_set bound _) request
  rw [pending] at ended
  cases ended

omit found in
/-- A step of this claim moves it to its next stage. -/
theorem advance (claimed : Claimed history pool roleID mailID)
    (stage : AtStage history pool roleID mailID moveType rest)
    (remains : ∀ mail row, carried history pool roleID mailID = some mail →
      after.mailBox.find mailID roleID = some row → mail.Remains row)
    (same : pool.state.mailBox.find mailID roleID = none ↔
      after.mailBox.find mailID roleID = none)
    (uncredited : ∀ part, (∀ row, after.mailBox.find mailID roleID = some row → Holds part row) →
      Idle ⟨after, pool.workers.set index { worker with rest }⟩
        (.attachToBag roleID mailID part) →
      Uncredited (history ++ [(pool, .execute index)]) roleID mailID part)
    (once : ClaimedOnce (history ++ [(pool, .execute index)])
      ⟨after, pool.workers.set index { worker with rest }⟩ roleID mailID) :
    Claimed (history ++ [(pool, .execute index)])
      ⟨after, pool.workers.set index { worker with rest }⟩ roleID mailID := by
  refine ⟨?_, ?_, ?_, uncredited, once⟩
  · intro other member part named
    rcases List.mem_or_eq_of_mem_set member with old | rfl
    · exact (claimed.stages other old part named).mono
    · dsimp only at named
      rw [request] at named
      cases named
      exact stage.mono
  · intro row stored
    cases before : pool.state.mailBox.find mailID roleID with
    | none =>
        dsimp only at stored
        rw [same.mp before] at stored
        cases stored
    | some old =>
        obtain ⟨mail, first, -⟩ := claimed.remains old before
        exact ⟨mail, carried_mono first, remains mail row first stored⟩
  · intro missing
    have before := same.mpr missing
    rw [carried_append, claimed.kept before, missing, Option.none_or]

variable (enabled : pool.step (.execute index) =
  some ⟨after, pool.workers.set index { worker with rest }⟩)
include enabled

/-- A value that the step keeps is not credited. -/
theorem credited_kept (history : MailHistory) (read : MailSvc → Int)
    (same : read after = read pool.state) :
    credited read (history ++ [(pool, .execute index)]) roleID mailID =
      credited read history roleID mailID := by
  rw [credited_own history read (claimStep found request) enabled]
  dsimp only
  rw [same, Int.sub_self, Int.add_zero]

theorem received_kept (history : MailHistory) (same : after.bag = pool.state.bag) :
    received (history ++ [(pool, .execute index)]) roleID mailID =
      received history roleID mailID := by
  rw [received_own history (claimStep found request) enabled]
  dsimp only
  rw [same, List.drop_length, List.append_nil]

/-- A statement of this claim that reads credits nothing. -/
theorem read (claimed : Claimed history pool roleID mailID) (same : after = pool.state)
    (stage : AtStage history pool roleID mailID moveType rest)
    (pending : worker.rest.head.any MailStatement.clears = true →
      rest.head.any MailStatement.clears = true) :
    Claimed (history ++ [(pool, .execute index)])
      ⟨after, pool.workers.set index { worker with rest }⟩ roleID mailID := by
  subst same
  have money := credited_kept found request enabled history (MailSvc.moneyOf roleID) rfl
  have gold := credited_kept found request enabled history (MailSvc.goldOf roleID) rfl
  have items := received_kept found request enabled history rfl
  apply advance request claimed stage
  · intro mail row
    exact claimed.left
  · exact Iff.rfl
  · intro part holds idle
    have before := claimed.uncredited part holds (idle_back found (fun _ => pending) idle)
    exact before.mono (fun _ => money) (fun _ => gold) fun _ => items
  · exact claimed.once.mono money gold items

variable {mail : DBMail} (first : carried history pool roleID mailID = some mail)
include first

/-- The clearing statement empties its part and keeps the other one. -/
theorem clear (claimed : Claimed history pool roleID mailID) (change : DBMail → DBMail)
    (keeps : ∀ mail, (change mail).mailID = mail.mailID)
    (owner : ∀ mail, (change mail).roleID = mail.roleID)
    (cleared : after =
      { pool.state with mailBox := pool.state.mailBox.update mailID roleID change keeps })
    (remains : ∀ row, mail.Remains row → mail.Remains (change row))
    (other : ∀ part row, part ≠ moveType → Holds part (change row) → Holds part row)
    (emptied : ∀ row, ¬ Holds moveType (change row)) (ended : rest.head = none) :
    Claimed (history ++ [(pool, .execute index)])
      ⟨after, pool.workers.set index { worker with rest }⟩ roleID mailID := by
  have money := credited_kept found request enabled history (MailSvc.moneyOf roleID)
    (by rw [cleared]; rfl)
  have gold := credited_kept found request enabled history (MailSvc.goldOf roleID)
    (by rw [cleared]; rfl)
  have items := received_kept found request enabled history (by rw [cleared])
  have find : after.mailBox.find mailID roleID =
      (pool.state.mailBox.find mailID roleID).map change := by
    rw [cleared]
    dsimp only
    rw [MailBox.find_update change keeps owner]
    simp
  obtain ⟨row, stored⟩ : ∃ row, pool.state.mailBox.find mailID roleID = some row := by
    apply Option.ne_none_iff_exists'.mp
    intro missing
    rw [claimed.kept missing] at first
    cases first
  rw [stored, Option.map_some] at find
  apply advance request claimed (.inr (.inl ended))
  · intro known left again stays
    obtain rfl := Option.some.inj (first.symm.trans again)
    obtain rfl := Option.some.inj (find.symm.trans stays)
    exact remains row (claimed.left first stored)
  · rw [stored, find]
    exact iff_of_false (Option.some_ne_none _) (Option.some_ne_none _)
  · intro part holds idle
    have held := holds _ find
    have apart : part ≠ moveType := by
      intro same
      subst same
      exact emptied row held
    have before := claimed.uncredited part
      (fun again stays => by
        obtain rfl := Option.some.inj (stored.symm.trans stays)
        exact other part row apart held)
      (idle_other found request apart idle)
    exact before.mono (fun _ => money) (fun _ => gold) fun _ => items
  · exact claimed.once.mono money gold items

/-- Money that is still stored and that nobody is about to clear is credited for the first time. -/
theorem creditMoney (claimed : Claimed history pool roleID mailID) (money : moveType = 1)
    (credited : after = pool.state.updateMoney roleID mail.silver mail.gold)
    (before : Uncredited history roleID mailID 1) (pending : Clearing roleID mailID 1 rest) :
    Claimed (history ++ [(pool, .execute index)])
      ⟨after, pool.workers.set index { worker with rest }⟩ roleID mailID := by
  subst credited money
  have items := received_kept found request enabled history rfl
  apply advance request claimed (.inr (.inr ⟨mail, first, .clearing pending⟩))
  · intro known row
    exact claimed.left
  · exact Iff.rfl
  · intro part holds idle
    have apart := apart_of_idle found request pending.pending idle
    have before := claimed.uncredited part holds (idle_other found request apart idle)
    exact before.mono (absurd · apart) (absurd · apart) fun _ => items
  · refine ⟨?_, ?_, ?_, ?_⟩
    · rw [credited_own history _ (claimStep found request) enabled, before.money rfl, Int.zero_add,
        carried_mono first]
      exact MailSvc.moneyOf_updateMoney roleID pool.state mail.silver mail.gold
    · rw [credited_own history _ (claimStep found request) enabled, before.gold rfl, Int.zero_add,
        carried_mono first]
      exact MailSvc.goldOf_updateMoney roleID pool.state mail.silver mail.gold
    · rw [items]
      exact claimed.once.single
    · rw [items]
      intro row member
      obtain ⟨known, same, brings⟩ := claimed.once.items row member
      exact ⟨known, carried_mono same, brings⟩

/-- The same holds of an item. -/
theorem creditItem (claimed : Claimed history pool roleID mailID) (item : moveType = 2)
    {row : DBBagItem} (credited : after = { pool.state with bag := pool.state.bag ++ [row] })
    (brings : mail.Brings roleID row) (before : Uncredited history roleID mailID 2)
    (pending : Clearing roleID mailID 2 rest) :
    Claimed (history ++ [(pool, .execute index)])
      ⟨after, pool.workers.set index { worker with rest }⟩ roleID mailID := by
  subst credited item
  have money := credited_kept found request enabled history (MailSvc.moneyOf roleID) rfl
  have gold := credited_kept found request enabled history (MailSvc.goldOf roleID) rfl
  have items : received (history ++ [(pool, .execute index)]) roleID mailID = [row] := by
    rw [received_own history (claimStep found request) enabled, before.items rfl]
    simp
  apply advance request claimed (.inr (.inr ⟨mail, first, .clearing pending⟩))
  · intro known left
    exact claimed.left
  · exact Iff.rfl
  · intro part holds idle
    have apart := apart_of_idle found request pending.pending idle
    have before := claimed.uncredited part holds (idle_other found request apart idle)
    exact before.mono (fun _ => money) (fun _ => gold) (absurd · apart)
  · refine ⟨?_, ?_, ?_, ?_⟩
    · rw [money]
      exact bound_mono DBMail.silver claimed.once.money
    · rw [gold]
      exact bound_mono DBMail.gold claimed.once.gold
    · rw [items]
      exact Nat.le_refl 1
    · rw [items]
      intro other member
      obtain rfl := List.mem_singleton.mp member
      exact ⟨mail, carried_mono first, brings⟩

/-- Every statement of a claim that has read its mail keeps the claims of this mail in order. -/
theorem step_own (claimed : Claimed history pool roleID mailID) {statement : MailStatement}
    (head : worker.rest.head = some statement)
    (effect : ClaimEffect roleID mailID mail pool.state moveType statement after rest)
    (fresh : statement.credits = true → Uncredited history roleID mailID moveType) :
    Claimed (history ++ [(pool, .execute index)])
      ⟨after, pool.workers.set index { worker with rest }⟩ roleID mailID := by
  cases effect with
  | reads pending stage =>
      apply read found request enabled claimed rfl (.inr (.inr ⟨mail, first, stage⟩))
      rw [head]
      exact pending
  | clearMoney ended =>
      apply clear found request enabled first claimed DBMail.clearMoney DBMail.clearMoney_mailID
        (fun _ => rfl) rfl (fun row => .clearMoney) _ _ ended
      · intro part row apart holds
        exact ⟨(absurd · apart), holds.item⟩
      · intro row holds
        exact holds.money rfl rfl
  | clearItem ended =>
      apply clear found request enabled first claimed DBMail.clearItem DBMail.clearItem_mailID
        (fun _ => rfl) rfl (fun row => .clearItem) _ _ ended
      · intro part row apart holds
        exact ⟨holds.money, (absurd · apart)⟩
      · intro row holds
        exact holds.item rfl rfl
  | money credits pending =>
      exact creditMoney found request enabled first claimed rfl rfl (fresh credits) pending
  | item brings pending =>
      exact creditItem found request enabled first claimed rfl rfl brings (fresh rfl) pending

end Own

end Claimed

end MailPool

end AppSvr.MainServer
