/-
This file proves when concurrent sends stay within the balances of their senders and when a pool of
claims and sends is safe.
-/

import AppSvr.Proof.MainServer.MailClaims
import AppSvr.Proof.MainServer.MoneyExchange

namespace AppSvr.MainServer

open MailProgram Programs TableSums TransitionSystem

namespace MailProgram

variable {roleID attachMoney : UInt32} {svc after : MailSvc} {first : MailStatement}
  {program : MailProgram UInt32} {next : MailSvc → MailProgram UInt32}

/-- This is all that one statement of a send does to the balances and to the stage of the send. -/
inductive SendEffect (roleID attachMoney : UInt32) (svc : MailSvc) :
    MailStatement → MailSvc → MailProgram UInt32 → Prop where
  | wait {first : MailStatement} {rest : MailProgram UInt32} (unchecked : first.reserves = false)
      (stage : Sending roleID attachMoney rest) : SendEffect roleID attachMoney svc first svc rest
  | check {rest : MailProgram UInt32} {balance : RoleMoney}
      (row : svc.roleMoney roleID = some balance) (covered : Covered svc roleID attachMoney balance)
      (stage : Paying roleID attachMoney rest) :
      SendEffect roleID attachMoney svc (.selectRoleMoney roleID) svc rest
  | attach {first : MailStatement} {after : MailSvc} {rest : MailProgram UInt32}
      (reserves : first.reserves = true) (roleMoney : after.roleMoney = svc.roleMoney)
      (bindMoney : after.bindMoney = svc.bindMoney)
      (find : ∀ mailID roleID row, svc.mailBox.find mailID roleID = some row →
        after.mailBox.find mailID roleID = some row)
      (stage : Paying roleID attachMoney rest) : SendEffect roleID attachMoney svc first after rest
  | pay {rest : MailProgram UInt32} (ended : rest.head = none) :
      SendEffect roleID attachMoney svc (.chargeMail roleID attachMoney)
        (svc.chargeMail roleID attachMoney) rest

theorem Sending.unchecked (sending : Sending roleID attachMoney program) :
    program.head.any MailStatement.reserves = false := by
  cases sending with
  | ended ended => rw [ended]; rfl
  | receiver | sender | check => rfl

theorem Sending.effect (sending : Sending roleID attachMoney (.statement first next))
    (executed : MailSvc.execute first svc = some after) :
    SendEffect roleID attachMoney svc first after (next svc) := by
  cases sending with
  | ended ended => cases ended
  | receiver rest =>
      cases executed
      exact .wait rfl (rest svc)
  | sender rest =>
      cases executed
      exact .wait rfl (rest svc)
  | check checked =>
      cases executed
      rcases checked svc with ended | ⟨⟨balance, row, covered⟩, stage⟩
      · exact .wait rfl (.ended ended)
      · exact .check row covered stage

theorem Paying.effect (paying : Paying roleID attachMoney (.statement first next))
    (executed : MailSvc.execute first svc = some after) :
    SendEffect roleID attachMoney svc first after (next svc) := by
  cases paying with
  | ended ended => cases ended
  | charge ended =>
      cases executed
      exact .pay (ended svc)
  | attaching attaches rest =>
      cases first with
      | countMailBox | selectCell | deleteCell | selectEntity =>
          cases executed
          exact .attach rfl rfl rfl (fun _ _ _ => id) (rest svc)
      | insertMailBox =>
          rw [MailSvc.execute, MailStatement.execute] at executed
          split_ifs at executed
          obtain ⟨mailBox, inserted, rfl⟩ := Option.map_eq_some_iff.mp executed
          exact .attach rfl rfl rfl (fun _ _ _ => MailBox.find_insert inserted) (rest svc)
      | _ => cases attaches

end MailProgram

/-- The amounts of silver and of bound money that a send has checked and not paid. -/
def MailWorker.reserved (roleID : UInt32) (worker : MailWorker) : Nat × Nat :=
  match worker.request with
  | .sendRoleMails sender (some content) =>
      if sender = roleID ∧ worker.rest.head.any MailStatement.reserves = true then
        (content.attachMoney.toNat, perMailCost.toNat)
      else 0
  | _ => 0

theorem printed_le (value : UInt32) : printed value ≤ value.toNat := by
  rw [printed_eq]
  split_ifs <;> omega

theorem MailWorker.reserved_send (worker : MailWorker) {sender : UInt32} {content : MailContent}
    (request : worker.request = .sendRoleMails sender (some content)) (roleID : UInt32) :
    worker.reserved roleID =
      if sender = roleID ∧ worker.rest.head.any MailStatement.reserves = true then
        (content.attachMoney.toNat, perMailCost.toNat)
      else 0 := by
  rw [MailWorker.reserved, request]

namespace MailSvc

variable {svc : MailSvc} {roleID attachMoney : UInt32} {balance : RoleMoney}

/-- A payment takes the printed money and the fee from its role. -/
theorem chargeMail_payer (row : svc.roleMoney roleID = some balance) :
    (svc.chargeMail roleID attachMoney).roleMoney roleID =
        some ⟨balance.money + -printed attachMoney, balance.gold + 0⟩ ∧
      (svc.chargeMail roleID attachMoney).bindMoney roleID =
        svc.bindMoney roleID - perMailCost.toNat := by
  rw [chargeMail, if_pos (by rw [row]; rfl)]
  simp [updateMoney, row]

theorem chargeMail_bindMoney_le : svc.bindMoney roleID ≤
    (svc.chargeMail roleID attachMoney).bindMoney roleID + perMailCost.toNat := by
  unfold chargeMail
  split_ifs
  · simp
  · omega

theorem chargeMail_other {other : UInt32} (apart : roleID ≠ other) :
    (svc.chargeMail roleID attachMoney).roleMoney other = svc.roleMoney other ∧
      (svc.chargeMail roleID attachMoney).bindMoney other = svc.bindMoney other := by
  unfold chargeMail
  split_ifs
  · exact ⟨Function.update_of_ne apart.symm _ _, Function.update_of_ne apart.symm _ _⟩
  · exact ⟨rfl, rfl⟩

theorem chargeMail_mailBox : (svc.chargeMail roleID attachMoney).mailBox = svc.mailBox := by
  unfold chargeMail
  split_ifs
  · rfl
  · rfl

end MailSvc

namespace MailPool

variable {pool next : MailPool} {history : MailHistory} {event : PoolEvent MailRequest}
  {roleID mailID : UInt32}

/-- The unpaid sends of a role have reserved these amounts. -/
def reserved (pool : MailPool) (roleID : UInt32) : Nat × Nat :=
  (pool.workers.map (MailWorker.reserved roleID)).sum

/-- The mail still holds the part that the move type names, and its money is positive. -/
def Stored (pool : MailPool) (roleID mailID : UInt32) (moveType : UInt8) : Prop :=
  ∃ row ∈ pool.state.mailBox.find mailID roleID,
    (moveType = 1 → 0 < printed row.money) ∧ (moveType = 2 → row.itemID ≠ 0)

instance (moveType : UInt8) : Decidable (pool.Stored roleID mailID moveType) :=
  inferInstanceAs (Decidable (∃ row ∈ _, _))

instance (request : MailRequest) : Decidable (pool.Idle request) :=
  inferInstanceAs (Decidable (∀ worker ∈ _, _))

/-- A claim credits a part that is stored while no other claim is about to clear it. A send that
passes its check finds balances that also cover the unpaid sends of its role. -/
def Careful (pool : MailPool) (worker : MailWorker) : Prop :=
  match worker.request with
  | .attachToBag roleID mailID moveType => worker.rest.head.any MailStatement.credits = true →
      pool.Stored roleID mailID moveType ∧ pool.Idle (.attachToBag roleID mailID moveType)
  | .sendRoleMails roleID (some content) =>
      worker.rest.head = some (.selectRoleMoney roleID) →
        ∀ balance ∈ pool.state.roleMoney roleID,
          Covered pool.state roleID content.attachMoney balance →
            (pool.reserved roleID).1 + content.attachMoney.toNat ≤ balance.money ∧
              (pool.reserved roleID).2 + perMailCost.toNat ≤ pool.state.bindMoney roleID
  | _ => True

instance : (worker : MailWorker) → Decidable (pool.Careful worker)
  | ⟨.attachToBag _ _ _, _⟩ => inferInstanceAs (Decidable (_ → _ ∧ _))
  | ⟨.sendRoleMails _ (some _), _⟩ => inferInstanceAs (Decidable (_ → ∀ balance ∈ _, _ → _ ∧ _))
  | ⟨.sendRoleMails _ none, _⟩ | ⟨.deleteRoleMails _ _, _⟩ => inferInstanceAs (Decidable True)

/-- The requests are claims and sends. -/
def ClaimOrSend (_ : MailPool) : PoolEvent MailRequest → Prop
  | .request (.deleteRoleMails _ _) => False
  | _ => True

instance : (event : PoolEvent MailRequest) → Decidable (pool.ClaimOrSend event)
  | .request (.deleteRoleMails _ _) => inferInstanceAs (Decidable False)
  | .request (.sendRoleMails _ _) | .request (.attachToBag _ _ _) | .execute _ =>
      inferInstanceAs (Decidable True)

def Admitted (pool : MailPool) (event : PoolEvent MailRequest) : Prop :=
  pool.ClaimOrSend event ∧ ∀ worker ∈ pool.executing event, pool.Careful worker

instance : Decidable (pool.Admitted event) := inferInstanceAs (Decidable (_ ∧ _))

/-- A send leaves no balance of its sender negative that was not. -/
def Paid (entry : MailPool × PoolEvent MailRequest) : Prop :=
  ∀ worker ∈ entry.1.executing entry.2, ∀ roleID body,
    worker.request = .sendRoleMails roleID body → ∀ next, entry.1.step entry.2 = some next →
      (0 ≤ entry.1.state.moneyOf roleID → 0 ≤ next.state.moneyOf roleID) ∧
        (0 ≤ entry.1.state.bindMoney roleID → 0 ≤ next.state.bindMoney roleID)

/-- The balances of the role cover its unpaid sends. -/
def Backed (pool : MailPool) (roleID : UInt32) : Prop :=
  (pool.reserved roleID).2 = 0 ∨ ∃ balance, pool.state.roleMoney roleID = some balance ∧
    (pool.reserved roleID).1 ≤ balance.money ∧
      (pool.reserved roleID).2 ≤ pool.state.bindMoney roleID

/-- No mail has credited more than it carried, and no send has overdrawn a balance. -/
structure Safe (history : MailHistory) (pool : MailPool) : Prop where
  claimed : ∀ roleID mailID, ClaimedOnce history pool roleID mailID
  paid : ∀ entry ∈ history, Paid entry

/-- A send without a body has ended, and another one is at a stage of its mail. -/
def SendStage (roleID : UInt32) (body : Option MailContent) (rest : MailProgram UInt32) : Prop :=
  rest.head = none ∨ ∃ content, body = some content ∧
    (Sending roleID content.attachMoney rest ∨ Paying roleID content.attachMoney rest)

/-- Every worker is at a stage of its request, and every unpaid send is backed. -/
structure Sound (history : MailHistory) (pool : MailPool) : Prop where
  claimed : ∀ roleID mailID, Claimed history pool roleID mailID
  sending : ∀ worker ∈ pool.workers, ∀ roleID body,
    worker.request = .sendRoleMails roleID body → SendStage roleID body worker.rest
  listed : ∀ worker ∈ pool.workers, ∀ roleID body,
    worker.request ≠ .deleteRoleMails roleID body
  backed : ∀ roleID, pool.Backed roleID
  paid : ∀ entry ∈ history, Paid entry

section Workers

variable {index : Nat} {worker : MailWorker} {after : MailSvc} {rest : MailProgram UInt32}

theorem paid_snoc (paid : ∀ entry ∈ history, Paid entry) (last : Paid (pool, event)) :
    ∀ entry ∈ history ++ [(pool, event)], Paid entry := by
  intro entry member
  rcases List.mem_append.mp member with old | new
  · exact paid entry old
  · rw [List.mem_singleton.mp new]
    exact last

/-- The step replaces what its worker has reserved. -/
theorem reserved_set (after : MailSvc) (rest : MailProgram UInt32)
    (found : pool.workers[index]? = some worker) (roleID : UInt32) :
    reserved ⟨after, pool.workers.set index { worker with rest }⟩ roleID +
        worker.reserved roleID =
      pool.reserved roleID + MailWorker.reserved roleID { worker with rest } :=
  sum_map_set (MailWorker.reserved roleID) found _

/-- A step with the same reservations and without a smaller balance keeps all sends backed. -/
theorem Backed.mono (backed : pool.Backed roleID)
    (same : next.reserved roleID = pool.reserved roleID)
    (money : ∀ balance, pool.state.roleMoney roleID = some balance →
      ∃ left, next.state.roleMoney roleID = some left ∧ balance.money ≤ left.money)
    (bindMoney : next.state.bindMoney roleID = pool.state.bindMoney roleID) :
    next.Backed roleID := by
  unfold Backed
  rw [same, bindMoney]
  rcases backed with unreserved | ⟨balance, row, silver, fee⟩
  · exact .inl unreserved
  · obtain ⟨left, kept, more⟩ := money balance row
    exact .inr ⟨left, kept, silver.trans more, fee⟩

/-- A send that ends gives its reservation back, and it costs at most what it has reserved. -/
theorem Backed.release (backed : pool.Backed roleID) {attachMoney : UInt32}
    (sum : next.reserved roleID + (attachMoney.toNat, perMailCost.toNat) = pool.reserved roleID)
    (money : ∀ balance, pool.state.roleMoney roleID = some balance →
      ∃ left, next.state.roleMoney roleID = some left ∧
        balance.money ≤ left.money + attachMoney.toNat)
    (bindMoney : pool.state.bindMoney roleID ≤
      next.state.bindMoney roleID + perMailCost.toNat) : next.Backed roleID := by
  have silver := congrArg Prod.fst sum
  have fee := congrArg Prod.snd sum
  simp only [Prod.fst_add, Prod.snd_add] at silver fee
  have cost : perMailCost.toNat = 100 := rfl
  rcases backed with unreserved | ⟨balance, row, covered, paid⟩
  · omega
  · obtain ⟨left, kept, more⟩ := money balance row
    exact .inr ⟨left, kept, by omega, by omega⟩

section Charges

variable {sender attachMoney : UInt32}

/-- A check that starts to pay reserves no more than the balances of the sender hold. -/
theorem Backed.check (backed : pool.Backed roleID) {balance : RoleMoney} {pays : Bool}
    (row : pool.state.roleMoney sender = some balance) (state : next.state = pool.state)
    (silver : (pool.reserved sender).1 + attachMoney.toNat ≤ balance.money)
    (fee : (pool.reserved sender).2 + perMailCost.toNat ≤ pool.state.bindMoney sender)
    (sum : next.reserved roleID = pool.reserved roleID +
      if sender = roleID ∧ pays = true then (attachMoney.toNat, perMailCost.toNat) else 0) :
    next.Backed roleID := by
  by_cases reserves : sender = roleID ∧ pays = true
  · rw [if_pos reserves] at sum
    obtain ⟨rfl, -⟩ := reserves
    refine .inr ⟨balance, by rw [state, row], ?_, ?_⟩
    · rw [sum]
      simpa using silver
    · rw [sum, state]
      simpa using fee
  · rw [if_neg reserves, add_zero] at sum
    apply backed.mono sum
    · intro balance row
      exact ⟨balance, by rw [state, row], le_rfl⟩
    · rw [state]

/-- An attachment that keeps the balances keeps its reservation or gives it back. -/
theorem Backed.attach (backed : pool.Backed roleID) {pays : Bool}
    (roleMoney : next.state.roleMoney = pool.state.roleMoney)
    (bindMoney : next.state.bindMoney = pool.state.bindMoney)
    (sum : next.reserved roleID +
        (if sender = roleID then (attachMoney.toNat, perMailCost.toNat) else 0) =
      pool.reserved roleID +
        if sender = roleID ∧ pays = true then (attachMoney.toNat, perMailCost.toNat) else 0) :
    next.Backed roleID := by
  by_cases ended : sender = roleID ∧ pays = false
  · obtain ⟨own, rfl⟩ := ended
    rw [if_pos own, if_neg (by simp), add_zero] at sum
    apply backed.release sum
    · intro balance row
      exact ⟨balance, (congrFun roleMoney roleID).trans row, by omega⟩
    · rw [bindMoney]
      omega
  · apply backed.mono
    · by_cases own : sender = roleID
      · have pays : pays = true := by simpa [own] using ended
        simpa [own, pays] using sum
      · simpa [own] using sum
    · intro balance row
      exact ⟨balance, (congrFun roleMoney roleID).trans row, le_rfl⟩
    · rw [bindMoney]

/-- A charge takes no more than it has reserved. -/
theorem Backed.charge (backed : pool.Backed roleID)
    (state : next.state = pool.state.chargeMail sender attachMoney)
    (sum : next.reserved roleID +
      (if sender = roleID then (attachMoney.toNat, perMailCost.toNat) else 0) =
        pool.reserved roleID) : next.Backed roleID := by
  by_cases own : sender = roleID
  · subst own
    rw [if_pos rfl] at sum
    apply backed.release sum
    · intro balance row
      refine ⟨_, by rw [state]; exact (MailSvc.chargeMail_payer row).1, ?_⟩
      have cost := printed_le attachMoney
      dsimp only
      omega
    · rw [state]
      exact MailSvc.chargeMail_bindMoney_le
  · rw [if_neg own, add_zero] at sum
    apply backed.mono sum
    · intro balance row
      exact ⟨balance, by rw [state]; exact (MailSvc.chargeMail_other own).1.trans row, le_rfl⟩
    · rw [state]
      exact (MailSvc.chargeMail_other own).2

/-- A charge that is reserved overdraws no balance. -/
theorem chargeMail_nonneg (backed : pool.Backed sender) {others : Nat × Nat}
    (sum : others + (attachMoney.toNat, perMailCost.toNat) = pool.reserved sender) :
    0 ≤ (pool.state.chargeMail sender attachMoney).moneyOf sender ∧
      0 ≤ (pool.state.chargeMail sender attachMoney).bindMoney sender := by
  have silver := congrArg Prod.fst sum
  have fee := congrArg Prod.snd sum
  simp only [Prod.fst_add, Prod.snd_add] at silver fee
  have price : perMailCost.toNat = 100 := rfl
  have cost := printed_le attachMoney
  rcases backed with unreserved | ⟨balance, row, covered, paid⟩
  · omega
  · obtain ⟨left, charged⟩ := MailSvc.chargeMail_payer row
    rw [MailSvc.moneyOf, left, charged, Option.elim_some]
    dsimp only
    omega

end Charges

/-- A step of another request keeps the claims of a mail that it does not touch. -/
theorem claimed_frame (found : pool.workers[index]? = some worker)
    (claimed : Claimed history pool roleID mailID)
    (other : worker.request.claims roleID mailID = false)
    (find : ∀ row, pool.state.mailBox.find mailID roleID = some row →
      after.mailBox.find mailID roleID = some row) :
    Claimed (history ++ [(pool, .execute index)])
      ⟨after, pool.workers.set index { worker with rest }⟩ roleID mailID := by
  have apart (moveType : UInt8) : worker.request ≠ .attachToBag roleID mailID moveType := by
    intro same
    rw [same] at other
    simp [MailRequest.claims] at other
  apply claimed.frame
  · simp [ClaimStep, executing, found, other]
  · exact find
  · intro other member moveType request
    rcases List.mem_or_eq_of_mem_set member with old | rfl
    · exact .inl old
    · exact absurd request (apart moveType)
  · intro other member moveType request
    obtain ⟨position, bound, rfl⟩ := List.mem_iff_getElem.mp member
    have here : index ≠ position := by
      intro same
      subst same
      obtain ⟨_, rfl⟩ := List.getElem?_eq_some_iff.mp found
      exact apart moveType request
    dsimp only
    rw [← List.getElem_set_ne here (by simpa using bound)]
    exact List.getElem_mem _

end Workers

theorem request_sound (sound : Sound history pool) (request : MailRequest)
    (permitted : pool.ClaimOrSend (.request request)) :
    Sound (history ++ [(pool, .request request)])
      { pool with workers := pool.workers ++ [⟨request, request.program⟩] } := by
  have quiet (roleID : UInt32) :
      MailWorker.reserved roleID ⟨request, request.program⟩ = 0 := by
    cases request with
    | attachToBag | deleteRoleMails => rfl
    | sendRoleMails sender body =>
        cases body with
        | none => rfl
        | some content =>
            have unchecked : (MailRequest.program (.sendRoleMails sender (some content))).head.any
                MailStatement.reserves = false :=
              (processSendRoleMails_sending : Sending sender _ _).unchecked
            simp [MailWorker.reserved, unchecked]
  refine ⟨?_, ?_, ?_, ?_, ?_⟩
  · intro roleID mailID
    apply (sound.claimed roleID mailID).frame
    · rfl
    · exact fun _ => id
    · intro worker member moveType claims
      rcases List.mem_append.mp member with old | new
      · exact .inl old
      · obtain rfl := List.mem_singleton.mp new
        dsimp only at claims
        subst claims
        exact .inr rfl
    · intro worker member _ _
      exact List.mem_append_left _ member
  · intro worker member roleID body sends
    rcases List.mem_append.mp member with old | new
    · exact sound.sending worker old roleID body sends
    · obtain rfl := List.mem_singleton.mp new
      dsimp only at sends
      subst sends
      cases body with
      | none => exact .inl rfl
      | some content => exact .inr ⟨content, rfl, .inl processSendRoleMails_sending⟩
  · intro worker member roleID body deletes
    rcases List.mem_append.mp member with old | new
    · exact sound.listed worker old roleID body deletes
    · obtain rfl := List.mem_singleton.mp new
      dsimp only at deletes
      subst deletes
      exact permitted
  · intro roleID
    apply (sound.backed roleID).mono
    · simp [reserved, quiet]
    · intro balance row
      exact ⟨balance, row, le_rfl⟩
    · rfl
  · apply paid_snoc sound.paid
    intro worker executes
    cases executes

variable {owner claimed : UInt32}

/-- A claim of another mail leaves this one. -/
theorem find_claim {mail row : DBMail} {svc after : MailSvc}
    {moveType : UInt8} {first : MailStatement} {rest : MailProgram UInt32}
    (effect : ClaimEffect owner claimed mail svc moveType first after rest)
    (apart : ¬ (mailID = claimed ∧ roleID = owner))
    (found : svc.mailBox.find mailID roleID = some row) :
    after.mailBox.find mailID roleID = some row := by
  cases effect with
  | reads | money | item => exact found
  | clearMoney ended =>
      apply (MailBox.find_update DBMail.clearMoney DBMail.clearMoney_mailID fun _ => rfl).trans
      rw [found, Option.map_some, if_neg apart]
  | clearItem ended =>
      apply (MailBox.find_update DBMail.clearItem DBMail.clearItem_mailID fun _ => rfl).trans
      rw [found, Option.map_some, if_neg apart]

/-- A claim lowers no balance when its credit is not negative. -/
theorem roleMoney_claim {mail : DBMail} {svc after : MailSvc}
    {moveType : UInt8} {first : MailStatement} {rest : MailProgram UInt32}
    (effect : ClaimEffect owner claimed mail svc moveType first after rest)
    (credit : first.credits = true → moveType = 1 → 0 ≤ mail.silver) {balance : RoleMoney}
    (row : svc.roleMoney roleID = some balance) :
    ∃ left, after.roleMoney roleID = some left ∧ balance.money ≤ left.money := by
  cases effect with
  | reads | clearMoney | clearItem | item => exact ⟨balance, row, le_rfl⟩
  | money credits pending =>
      have silver := credit credits rfl
      by_cases own : roleID = owner
      · subst own
        refine ⟨⟨balance.money + mail.silver, balance.gold + mail.gold⟩, ?_, ?_⟩
        · simp [MailSvc.updateMoney, row]
        · dsimp only
          omega
      · exact ⟨balance, (Function.update_of_ne own _ _).trans row, le_rfl⟩

theorem bindMoney_claim {mail : DBMail} {svc after : MailSvc}
    {moveType : UInt8} {first : MailStatement} {rest : MailProgram UInt32}
    (effect : ClaimEffect owner claimed mail svc moveType first after rest) :
    after.bindMoney = svc.bindMoney := by
  cases effect <;> rfl

section Execute

variable {index : Nat} {worker : MailWorker} {first : MailStatement}
  {rest : MailSvc → MailProgram UInt32} {after : MailSvc}
  (sound : Sound history pool) (found : pool.workers[index]? = some worker)
  (running : worker.rest = .statement first rest)
  (executed : MailSvc.execute first pool.state = some after)
  (enabled : pool.step (.execute index) =
    some ⟨after, pool.workers.set index { worker with rest := rest pool.state }⟩)
include sound found

/-- A step of one worker leaves the stages of the other ones. -/
theorem sound_set {rest : MailProgram UInt32}
    (claimed : ∀ roleID mailID, Claimed (history ++ [(pool, .execute index)])
      ⟨after, pool.workers.set index { worker with rest }⟩ roleID mailID)
    (sending : ∀ roleID body, worker.request = .sendRoleMails roleID body →
      SendStage roleID body rest)
    (backed : ∀ roleID,
      Backed ⟨after, pool.workers.set index { worker with rest }⟩ roleID)
    (paid : Paid (pool, .execute index)) :
    Sound (history ++ [(pool, .execute index)])
      ⟨after, pool.workers.set index { worker with rest }⟩ := by
  have member := List.mem_of_getElem? found
  refine ⟨claimed, ?_, ?_, backed, paid_snoc sound.paid paid⟩
  · intro other stays roleID body sends
    rcases List.mem_or_eq_of_mem_set stays with old | rfl
    · exact sound.sending other old roleID body sends
    · exact sending roleID body sends
  · intro other stays roleID body deletes
    rcases List.mem_or_eq_of_mem_set stays with old | rfl
    · exact sound.listed other old roleID body deletes
    · exact sound.listed worker member roleID body deletes

include running executed enabled

omit sound running executed in
/-- A statement of a send is judged by the balances of its sender. -/
theorem paid_of {sender : UInt32} {body : Option MailContent}
    (request : worker.request = .sendRoleMails sender body)
    (money : 0 ≤ pool.state.moneyOf sender → 0 ≤ after.moneyOf sender)
    (bindMoney : 0 ≤ pool.state.bindMoney sender → 0 ≤ after.bindMoney sender) :
    Paid (pool, .execute index) := by
  intro other executes roleID body sends next step
  obtain rfl := Option.some.inj (found.symm.trans executes)
  rw [request] at sends
  cases sends
  obtain rfl := Option.some.inj (enabled.symm.trans step)
  exact ⟨money, bindMoney⟩

/-- One statement of a send keeps the pool sound. -/
theorem send_sound {sender : UInt32} {body : Option MailContent}
    (request : worker.request = .sendRoleMails sender body) (careful : pool.Careful worker) :
    Sound (history ++ [(pool, .execute index)])
      ⟨after, pool.workers.set index { worker with rest := rest pool.state }⟩ := by
  have claims (roleID mailID : UInt32) : worker.request.claims roleID mailID = false := by
    rw [request]
    rfl
  obtain ⟨content, rfl, effect⟩ : ∃ content, body = some content ∧
      SendEffect sender content.attachMoney pool.state first after (rest pool.state) := by
    have stage := sound.sending worker (List.mem_of_getElem? found) sender body request
    rw [running] at stage
    rcases stage with ended | ⟨content, same, sending | paying⟩
    · cases ended
    · exact ⟨content, same, sending.effect executed⟩
    · exact ⟨content, same, paying.effect executed⟩
  have staged {stage : MailProgram UInt32}
      (holds : Sending sender content.attachMoney stage ∨ Paying sender content.attachMoney stage) :
      ∀ roleID body, worker.request = .sendRoleMails roleID body → SendStage roleID body stage := by
    intro roleID body sends
    rw [request] at sends
    cases sends
    exact .inr ⟨content, rfl, holds⟩
  have sum (roleID : UInt32) :
      reserved ⟨after, pool.workers.set index { worker with rest := rest pool.state }⟩ roleID +
          (if sender = roleID ∧ first.reserves = true then
            (content.attachMoney.toNat, perMailCost.toNat) else 0) =
        pool.reserved roleID +
          if sender = roleID ∧ (rest pool.state).head.any MailStatement.reserves = true then
            (content.attachMoney.toNat, perMailCost.toNat) else 0 := by
    have new := MailWorker.reserved_send { worker with rest := rest pool.state } request roleID
    have replaced := reserved_set after (rest pool.state) found roleID
    rw [new, worker.reserved_send request, running] at replaced
    exact replaced
  cases effect with
  | wait unchecked stage =>
      apply sound_set sound found _ (staged (.inl stage)) _ (paid_of found enabled request id id)
      · intro roleID mailID
        exact claimed_frame found (sound.claimed roleID mailID) (claims roleID mailID) fun _ => id
      · intro roleID
        apply (sound.backed roleID).mono
        · simpa [unchecked, stage.unchecked] using sum roleID
        · intro balance row
          exact ⟨balance, row, le_rfl⟩
        · rfl
  | check row covered stage =>
      apply sound_set sound found _ (staged (.inr stage)) _ (paid_of found enabled request id id)
      · intro roleID mailID
        exact claimed_frame found (sound.claimed roleID mailID) (claims roleID mailID) fun _ => id
      · intro roleID
        have replaced := sum roleID
        have unchecked : (MailStatement.selectRoleMoney sender).reserves = false := rfl
        simp only [unchecked, Bool.false_eq_true, and_false, if_false, add_zero] at replaced
        unfold Careful at careful
        rw [request, running] at careful
        obtain ⟨silver, fee⟩ := careful rfl _ row covered
        exact (sound.backed roleID).check row rfl silver fee replaced
  | attach reserves roleMoney bindMoney find stage =>
      have money : after.moneyOf sender = pool.state.moneyOf sender := by
        rw [MailSvc.moneyOf, MailSvc.moneyOf, roleMoney]
      apply sound_set sound found _ (staged (.inr stage)) _
        (paid_of found enabled request (by rw [money]; exact id) (by rw [bindMoney]; exact id))
      · intro roleID mailID
        exact claimed_frame found (sound.claimed roleID mailID) (claims roleID mailID)
          (find mailID roleID)
      · intro roleID
        have replaced := sum roleID
        simp only [reserves, and_true] at replaced
        exact (sound.backed roleID).attach roleMoney bindMoney replaced
  | pay ended =>
      have reserves : (MailStatement.chargeMail sender content.attachMoney).reserves = true := rfl
      simp only [reserves, ended, Option.any_none, Bool.false_eq_true, and_true, and_false,
        if_false, add_zero] at sum
      have own := sum sender
      rw [if_pos rfl] at own
      have paid := chargeMail_nonneg (sound.backed sender) own
      apply sound_set sound found _ (staged (.inr (.ended ended))) _
        (paid_of found enabled request (fun _ => paid.1) fun _ => paid.2)
      · intro roleID mailID
        apply claimed_frame found (sound.claimed roleID mailID) (claims roleID mailID)
        intro row
        rw [MailSvc.chargeMail_mailBox]
        exact id
      · intro roleID
        exact (sound.backed roleID).charge rfl (sum roleID)

/-- A statement of a claim reads, or it does what the claim does with the mail that it has read. -/
theorem claim_effect {owner mailID : UInt32} {moveType : UInt8}
    (request : worker.request = .attachToBag owner mailID moveType) :
    (after = pool.state ∧ first.clears = false ∧
      AtStage history pool owner mailID moveType (rest pool.state)) ∨
    ∃ mail, carried history pool owner mailID = some mail ∧
      ClaimEffect owner mailID mail pool.state moveType first after (rest pool.state) := by
  have stage := (sound.claimed owner mailID).stages worker (List.mem_of_getElem? found) moveType
    request
  rw [running] at stage
  rcases stage with start | ended | ⟨mail, known, claiming⟩
  · obtain ⟨next, program, reads⟩ := processAttachToBag_reads owner mailID moveType
    rw [program] at start
    cases start
    cases executed
    refine .inl ⟨rfl, rfl, ?_⟩
    rcases reads pool.state with ended | ⟨row, stored, claiming⟩
    · exact .inr (.inl ended)
    · obtain ⟨mail, known, remains⟩ := (sound.claimed owner mailID).remains row stored
      exact .inr (.inr ⟨mail, known, claiming mail remains⟩)
  · cases ended
  · exact .inr ⟨mail, known, claiming.effect executed⟩

/-- One statement of a claim keeps the pool sound. -/
theorem claim_sound {owner claimed : UInt32} {moveType : UInt8}
    (request : worker.request = .attachToBag owner claimed moveType)
    (careful : pool.Careful worker) :
    Sound (history ++ [(pool, .execute index)])
      ⟨after, pool.workers.set index { worker with rest := rest pool.state }⟩ := by
  have effect := claim_effect sound found running executed enabled request
  have head : worker.rest.head = some first := by rw [running]; rfl
  have fresh : first.credits = true → Uncredited history owner claimed moveType ∧
      ∀ mail, carried history pool owner claimed = some mail → moveType = 1 → 0 ≤ mail.silver := by
    intro credits
    unfold Careful at careful
    rw [request, running] at careful
    obtain ⟨⟨row, stored, money, item⟩, idle⟩ := careful credits
    have holds : Holds moveType row := by
      refine ⟨?_, item⟩
      intro part none
      rw [none] at money
      exact absurd (money part) (by decide)
    refine ⟨(sound.claimed owner claimed).uncredited moveType ?_ idle, ?_⟩
    · intro other again
      obtain rfl := Option.some.inj (stored.symm.trans again)
      exact holds
    · intro mail known part
      have remains := (sound.claimed owner claimed).left known stored
      rw [DBMail.silver, ← remains.money.resolve_right (holds.money part)]
      have positive := money part
      split_ifs <;> omega
  apply sound_set sound found
  · intro roleID mailID
    by_cases claims : worker.request.claims roleID mailID = true
    · obtain ⟨rfl, rfl⟩ : owner = roleID ∧ claimed = mailID := by
        simpa [request, MailRequest.claims] using claims
      rcases effect with ⟨same, unclear, stage⟩ | ⟨mail, known, effect⟩
      · apply Claimed.read found request enabled (sound.claimed owner claimed) same stage
        rw [head]
        intro clears
        rw [Option.any_some, unclear] at clears
        cases clears
      · exact Claimed.step_own found request enabled known (sound.claimed owner claimed) head effect
          fun credits => (fresh credits).1
    · apply claimed_frame found (sound.claimed roleID mailID) (Bool.eq_false_iff.mpr claims)
      intro row stored
      rcases effect with ⟨rfl, -, -⟩ | ⟨mail, known, effect⟩
      · exact stored
      · apply find_claim effect _ stored
        rintro ⟨rfl, rfl⟩
        simp [request, MailRequest.claims] at claims
  · intro roleID body sends
    rw [request] at sends
    cases sends
  · intro roleID
    have sum := reserved_set after (rest pool.state) found roleID
    have none (rest : MailProgram UInt32) :
        MailWorker.reserved roleID { worker with rest } = 0 := by
      simp [MailWorker.reserved, request]
    have old : worker.reserved roleID = 0 := none worker.rest
    rw [old, none (rest pool.state), add_zero, add_zero] at sum
    rcases effect with ⟨rfl, -, -⟩ | ⟨mail, known, effect⟩
    · exact (sound.backed roleID).mono sum (fun balance row => ⟨balance, row, le_rfl⟩) rfl
    · have credit : first.credits = true → moveType = 1 → 0 ≤ mail.silver :=
        fun credits => (fresh credits).2 mail known
      apply (sound.backed roleID).mono sum
      · intro balance row
        exact roleMoney_claim effect credit row
      · rw [bindMoney_claim effect]
  · intro other executes roleID body sends
    obtain rfl := Option.some.inj (found.symm.trans executes)
    rw [request] at sends
    cases sends

end Execute

/-- An admitted event keeps the pool sound. -/
theorem step_sound (sound : Sound history pool) (admitted : pool.Admitted event)
    (enabled : pool.step event = some next) : Sound (history ++ [(pool, event)]) next := by
  cases event with
  | request request =>
      cases enabled
      exact request_sound sound request admitted.1
  | execute index =>
      obtain ⟨worker, first, rest, after, found, running, executed, rfl⟩ :=
        Pool.step_execute _ _ enabled
      have careful := admitted.2 worker found
      cases request : worker.request with
      | sendRoleMails sender body =>
          rw [← request]
          exact send_sound sound found running executed enabled request careful
      | attachToBag owner mailID moveType =>
          rw [← request]
          exact claim_sound sound found running executed enabled request careful
      | deleteRoleMails roleID body =>
          exact absurd request (sound.listed worker (List.mem_of_getElem? found) roleID body)

/-- A pool without workers is sound. -/
theorem sound_start (idle : pool.workers = []) : Sound [] pool := by
  have carried (roleID mailID : UInt32) :
      carried [] pool roleID mailID = pool.state.mailBox.find mailID roleID := by
    simp [carried]
  have none (worker : MailWorker) : worker ∉ pool.workers := by simp [idle]
  refine ⟨?_, ?_, ?_, ?_, ?_⟩
  · intro roleID mailID
    refine ⟨?_, ?_, ?_, ?_, ?_⟩
    · intro worker member
      exact absurd member (none worker)
    · intro row found
      exact ⟨row, (carried roleID mailID).trans found, .refl row⟩
    · exact (carried roleID mailID).trans
    · intro moveType _ _
      exact ⟨fun _ => rfl, fun _ => rfl, fun _ => rfl⟩
    · refine ⟨le_max_left _ _, le_max_left _ _, Nat.zero_le 1, ?_⟩
      intro row member
      cases member
  · intro worker member
    exact absurd member (none worker)
  · intro worker member
    exact absurd member (none worker)
  · intro roleID
    exact .inl (by simp [reserved, idle])
  · intro entry member
    cases member

/-- Careful claims and sends are safe in every interleaving. -/
theorem run_safe {start final : MailPool} {history : MailHistory} (idle : start.workers = [])
    (run : Run MailPool.step Admitted start history final) : Safe history final := by
  have sound : Sound history final := by
    apply run.historyInvariant Sound (sound_start idle)
    intro history pool event next sound admitted enabled
    exact step_sound sound admitted enabled
  exact ⟨fun roleID mailID => (sound.claimed roleID mailID).once, sound.paid⟩

/-- Role one claims the money of a mail while role two sends another one. -/
theorem run_safe_pair : ∃ history final,
    Run MailPool.step Admitted ⟨MailSvc.waiting [], []⟩ history final ∧
      final.state.moneyOf 1 = 1030 ∧ final.state.moneyOf 2 = 950 ∧ Safe history final := by
  obtain ⟨history, final, run, money⟩ := exists_run_of_replay MailPool.step Admitted
    ⟨MailSvc.waiting [], []⟩
    ([.request (.attachToBag 1 7 1), .request (.sendRoleMails 2 (some ⟨[1], 2, [65], 50, 0, 0⟩))] ++
      [1, 0, 1, 0, 1, 0, 1, 1, 1].map .execute)
    (fun _ final => final.state.moneyOf 1 = 1030 ∧ final.state.moneyOf 2 = 950) (by decide +kernel)
  obtain ⟨first, second⟩ := of_decide_eq_true money
  exact ⟨history, final, run, first, second, run_safe rfl run⟩

/-- Two claims that have both read a mail credit its money twice. -/
theorem run_not_safe :
    ¬ ∀ (start final : MailPool) (history : MailHistory), start.workers = [] →
      Run MailPool.step ClaimOrSend start history final → Safe history final := by
  intro claim
  obtain ⟨history, final, run, twice⟩ := exists_run_of_replay MailPool.step ClaimOrSend
    ⟨MailSvc.waiting [], []⟩
    ([.request (.attachToBag 1 7 1), .request (.attachToBag 1 7 1)] ++ [0, 1, 0, 1].map .execute)
    (fun history final => credited (MailSvc.moneyOf 1) history 1 7 = 60 ∧
      (carried history final 1 7).elim 0 DBMail.silver = 30) (by decide +kernel)
  obtain ⟨money, silver⟩ := of_decide_eq_true twice
  have bound := ((claim _ final history rfl run).claimed 1 7).money
  rw [money, silver] at bound
  exact absurd bound (by decide)

end MailPool

end AppSvr.MainServer
