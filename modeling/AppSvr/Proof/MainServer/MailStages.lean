/-
This file defines the stages of a claim and of a send and proves that their programs pass through
them.
-/

import AppSvr.Construction.MainServer.MailSvc

namespace AppSvr.MainServer

open Programs

namespace MailStatement

/-- A claim credits its part with this statement. -/
def credits : MailStatement → Bool
  | .addMoney _ _ | .addGold _ _ | .insertBag _ => true
  | _ => false

/-- A claim stands here between its credit and the end of its clearing statement. -/
def clears : MailStatement → Bool
  | .selectEntity _ | .initMoneyAttach _ _ | .initItemAttach _ _ => true
  | _ => false

/-- A send stands here between its check of the balance and its payment. -/
def attaches : MailStatement → Bool
  | .countMailBox _ | .selectCell _ _ | .deleteCell _ _ | .insertMailBox _ _ _ _ _ _ _
  | .selectEntity _ => true
  | _ => false

/-- A send has checked the balance and has not paid. -/
def reserves : MailStatement → Bool
  | .chargeMail _ _ => true
  | statement => statement.attaches

end MailStatement

/-- The row holds the attachments of the mail, or they have been cleared. -/
structure DBMail.Remains (mail row : DBMail) : Prop where
  moneyType : row.moneyType = mail.moneyType
  money : row.money = mail.money ∨ row.money = 0
  item : (row.itemID = mail.itemID ∧ row.entityID = mail.entityID ∧ row.num = mail.num) ∨
    row.itemID = 0

namespace DBMail.Remains

variable {mail row : DBMail}

theorem refl (mail : DBMail) : mail.Remains mail := ⟨rfl, .inl rfl, .inl ⟨rfl, rfl, rfl⟩⟩

theorem clearMoney (remains : mail.Remains row) : mail.Remains row.clearMoney :=
  ⟨remains.moneyType, .inr rfl, remains.item⟩

theorem clearItem (remains : mail.Remains row) : mail.Remains row.clearItem :=
  ⟨remains.moneyType, remains.money, .inr rfl⟩

end DBMail.Remains

/-- The row brings the item of the mail to the role. -/
structure DBMail.Brings (mail : DBMail) (roleID : UInt32) (row : DBBagItem) : Prop where
  owner : row.roleID = roleID
  present : mail.itemID ≠ 0
  itemID : row.itemID = mail.itemID
  entityID : row.entityID = mail.entityID
  num : row.num.toNat ≤ mail.num.toNat

namespace MailProgram

/-- The program clears the part that the move type names. -/
inductive Clearing (roleID mailID : UInt32) : UInt8 → MailProgram UInt32 → Prop where
  | money {next : MailSvc → MailProgram UInt32} (ended : ∀ svc, (next svc).head = none) :
      Clearing roleID mailID 1 (.statement (.initMoneyAttach mailID roleID) next)
  | item {next : MailSvc → MailProgram UInt32} (ended : ∀ svc, (next svc).head = none) :
      Clearing roleID mailID 2 (.statement (.initItemAttach mailID roleID) next)
  | entity {entityID : UInt32} {next : MailSvc → MailProgram UInt32}
      (rest : ∀ svc, Clearing roleID mailID 2 (next svc)) :
      Clearing roleID mailID 2 (.statement (.selectEntity entityID) next)

/-- The program has read the mail. It credits at most the part that the move type names, and it
clears this part behind its credit. -/
inductive Claiming (roleID mailID : UInt32) (mail : DBMail) : UInt8 → MailProgram UInt32 → Prop where
  | ended {moveType : UInt8} {program : MailProgram UInt32} (ended : program.head = none) :
      Claiming roleID mailID mail moveType program
  | clearing {moveType : UInt8} {program : MailProgram UInt32}
      (rest : Clearing roleID mailID moveType program) :
      Claiming roleID mailID mail moveType program
  | silver {next : MailSvc → MailProgram UInt32} (moneyType : mail.moneyType = 1)
      (rest : ∀ svc, Clearing roleID mailID 1 (next svc)) :
      Claiming roleID mailID mail 1 (.statement (.addMoney roleID mail.money) next)
  | gold {next : MailSvc → MailProgram UInt32} (moneyType : mail.moneyType = 2)
      (rest : ∀ svc, Clearing roleID mailID 1 (next svc)) :
      Claiming roleID mailID mail 1 (.statement (.addGold roleID mail.money) next)
  | cells {next : MailSvc → MailProgram UInt32}
      (rest : ∀ svc, Claiming roleID mailID mail 2 (next svc)) :
      Claiming roleID mailID mail 2 (.statement (.selectBag roleID) next)
  | itemType {itemID : UInt32} {next : MailSvc → MailProgram UInt32}
      (rest : ∀ svc, Claiming roleID mailID mail 2 (next svc)) :
      Claiming roleID mailID mail 2 (.statement (.selectItem itemID) next)
  | item {row : DBBagItem} {next : MailSvc → MailProgram UInt32} (brings : mail.Brings roleID row)
      (rest : ∀ svc, Clearing roleID mailID 2 (next svc)) :
      Claiming roleID mailID mail 2 (.statement (.insertBag row) next)

/-- The send has checked the balance. -/
inductive Paying (roleID attachMoney : UInt32) : MailProgram UInt32 → Prop where
  | ended {program : MailProgram UInt32} (ended : program.head = none) :
      Paying roleID attachMoney program
  | attaching {statement : MailStatement} {next : MailSvc → MailProgram UInt32}
      (attaches : statement.attaches = true)
      (rest : ∀ svc, Paying roleID attachMoney (next svc)) :
      Paying roleID attachMoney (.statement statement next)
  | charge {next : MailSvc → MailProgram UInt32} (ended : ∀ svc, (next svc).head = none) :
      Paying roleID attachMoney (.statement (.chargeMail roleID attachMoney) next)

/-- Both balances cover the mail as unsigned numbers. -/
def Covered (svc : MailSvc) (roleID attachMoney : UInt32) (balance : RoleMoney) : Prop :=
  attachMoney ≤ UInt32.ofInt balance.money ∧ perMailCost ≤ UInt32.ofInt (svc.bindMoney roleID)

instance (svc : MailSvc) (roleID attachMoney : UInt32) (balance : RoleMoney) :
    Decidable (Covered svc roleID attachMoney balance) := inferInstanceAs (Decidable (_ ∧ _))

/-- The send has not yet checked the balance. -/
inductive Sending (roleID attachMoney : UInt32) : MailProgram UInt32 → Prop where
  | ended {program : MailProgram UInt32} (ended : program.head = none) :
      Sending roleID attachMoney program
  | receiver {roleName : List UInt8} {next : MailSvc → MailProgram UInt32}
      (rest : ∀ svc, Sending roleID attachMoney (next svc)) :
      Sending roleID attachMoney (.statement (.selectRoleID roleName) next)
  | sender {next : MailSvc → MailProgram UInt32}
      (rest : ∀ svc, Sending roleID attachMoney (next svc)) :
      Sending roleID attachMoney (.statement (.selectRoleName roleID) next)
  | check {next : MailSvc → MailProgram UInt32}
      (checked : ∀ svc, (next svc).head = none ∨
        (∃ balance, svc.roleMoney roleID = some balance ∧
          Covered svc roleID attachMoney balance) ∧
          Paying roleID attachMoney (next svc)) :
      Sending roleID attachMoney (.statement (.selectRoleMoney roleID) next)

section Claims

variable {roleID mailID : UInt32} {mail row : DBMail}

theorem initMoneyAttach_clearing : Clearing roleID mailID 1 (initMoneyAttach mailID roleID) :=
  .money fun _ => rfl

theorem initItemAttach_clearing : Clearing roleID mailID 2 (initItemAttach mailID roleID) :=
  .item fun _ => rfl

theorem moveMoney_claiming (remains : mail.Remains row) (present : row.money ≠ 0) :
    Claiming roleID mailID mail 1 (moveMoney roleID row mailID) := by
  have money : row.money = mail.money := remains.money.resolve_right present
  unfold moveMoney
  rw [remains.moneyType, money]
  split_ifs with silver gold
  · exact .silver silver fun _ => initMoneyAttach_clearing
  · exact .gold gold fun _ => initMoneyAttach_clearing
  · exact .clearing initMoneyAttach_clearing

theorem moveItem_claiming (remains : mail.Remains row) :
    Claiming roleID mailID mail 2 (moveItem roleID row mailID) := by
  unfold moveItem
  split_ifs with missing
  · exact .ended rfl
  · obtain ⟨itemID, entityID, num⟩ := remains.item.resolve_right missing
    unfold getItemFromEmail
    apply Claiming.cells
    intro svc
    by_cases full : svc.ifhascellIndex roleID = 0
    · simp only [full, if_pos]
      exact .clearing initItemAttach_clearing
    · simp only [full, if_false]
      apply Claiming.itemType
      intro svc
      apply Claiming.item
      · refine ⟨rfl, itemID ▸ missing, itemID, entityID, ?_⟩
        rw [num, UInt16.toNat_toUInt32, UInt32.toNat_toUInt16]
        exact Nat.mod_le _ _
      · intro svc
        by_cases entity : row.entityID = 0
        · simp only [entity, ne_eq, not_true_eq_false, if_false]
          exact initItemAttach_clearing
        · simp only [entity, ne_eq, not_false_eq_true, if_true]
          exact .entity fun _ => initItemAttach_clearing

/-- A claim reads its mail first. -/
theorem processAttachToBag_reads (roleID mailID : UInt32) (moveType : UInt8) :
    ∃ next, processAttachToBag roleID mailID moveType =
        .statement (.selectMail mailID roleID) next ∧
      ∀ svc, (next svc).head = none ∨ ∃ row, svc.mailBox.find mailID roleID = some row ∧
        ∀ mail : DBMail, mail.Remains row → Claiming roleID mailID mail moveType (next svc) := by
  refine ⟨_, rfl, ?_⟩
  intro svc
  cases found : svc.mailBox.find mailID roleID with
  | none => exact .inl rfl
  | some row =>
      refine .inr ⟨row, rfl, ?_⟩
      intro mail remains
      dsimp only
      split_ifs with money item
      · obtain ⟨rfl, present⟩ := money
        exact moveMoney_claiming remains present
      · subst item
        exact moveItem_claiming remains
      · exact .ended rfl

end Claims

section Sends

variable {roleID recvRoleID itemID num entityID : UInt32} {content : MailContent}

theorem storeMail_paying :
    Paying roleID content.attachMoney
      (storeMail roleID recvRoleID content itemID num entityID) := by
  have pay : Paying roleID content.attachMoney
      (.statement (.chargeMail roleID content.attachMoney) fun _ => .done 0) :=
    .charge fun _ => rfl
  apply Paying.attaching rfl
  intro svc
  dsimp only
  split_ifs
  · exact .attaching rfl fun _ => pay
  · exact pay

theorem attachItem_paying :
    Paying roleID content.attachMoney (attachItem roleID recvRoleID content) := by
  unfold attachItem dleteItemForEmail
  split_ifs
  · apply Paying.attaching rfl
    intro svc
    cases found : (svc.bag.filter (MainSvc.Listed roleID [content.cellIndex])).head? with
    | none =>
        simp only [found]
        exact .ended rfl
    | some item =>
        simp only [found]
        exact .attaching rfl fun _ => storeMail_paying
  · exact storeMail_paying

theorem checkMoney_sending :
    Sending roleID content.attachMoney (checkMoney roleID recvRoleID content) := by
  apply Sending.check
  intro svc
  cases row : svc.roleMoney roleID with
  | none => exact .inl rfl
  | some balance =>
      dsimp only
      split_ifs with short fee
      · exact .inl rfl
      · exact .inl rfl
      · refine .inr ⟨⟨balance, rfl, UInt32.not_lt.mp short, UInt32.not_lt.mp fee⟩, ?_⟩
        apply Paying.attaching rfl
        intro svc
        split_ifs
        · exact .ended rfl
        · exact attachItem_paying

/-- A send passes its stages in order. -/
theorem processSendRoleMails_sending :
    Sending roleID content.attachMoney (processSendRoleMails roleID (some content)) := by
  apply Sending.receiver
  intro svc
  cases svc.roleIDOf content.recvRoleName with
  | none => exact .ended rfl
  | some recvRoleID =>
      apply Sending.sender
      intro svc
      split_ifs
      · exact .ended rfl
      · exact .ended rfl
      · exact .ended rfl
      · exact .ended rfl
      · exact .ended rfl
      · exact checkMoney_sending

end Sends

end MailProgram

end AppSvr.MainServer
