/-
This file proves when a mail that is sent with a failing statement loses nothing.
-/

import AppSvr.Construction.MainServer.MailSvc
import Mathlib.Data.Multiset.AddSub

namespace AppSvr.MainServer

open MailProgram

namespace MailSvc

/-- The bag and the balances of a role and the mails of all roles are the same. -/
structure Untouched (svc after : MailSvc) (roleID : UInt32) : Prop where
  bag : after.bag.filter (fun row => row.roleID = roleID) =
    svc.bag.filter fun row => row.roleID = roleID
  money : after.roleMoney roleID = svc.roleMoney roleID
  bindMoney : after.bindMoney roleID = svc.bindMoney roleID
  mailBox : after.mailBox = svc.mailBox

/-- The mail carries the row that left the bag, if one did. -/
def CarriesItem (svc after : MailSvc) (roleID : UInt32) (mail : DBMail) : Prop :=
  (after.bag = svc.bag ∧ mail.itemID = 0 ∧ mail.num = 0 ∧ mail.entityID = 0) ∨
    ∃ row : DBBagItem, svc.bag.Perm (row :: after.bag) ∧ row.roleID = roleID ∧
      mail.itemID = row.itemID ∧ mail.num = row.num ∧ mail.entityID = row.entityID

/-- One mail is new. It carries what left the bag and the money, and it is paid for once. -/
structure Sent (svc after : MailSvc) (roleID recvRoleID : UInt32) : Prop where
  arrives : ∃ mail : DBMail, after.mailBox.mails = svc.mailBox.mails ++ [mail] ∧
    mail.roleID = recvRoleID ∧ CarriesItem svc after roleID mail ∧
    after.roleMoney roleID = (svc.roleMoney roleID).map fun balance =>
      { balance with money := balance.money - printed mail.money }
  postage : after.bindMoney roleID = svc.bindMoney roleID - perMailCost.toNat

/-- A refused mail changes nothing, and an accepted one arrives. -/
def LosesNothing (svc : MailSvc) (roleID : UInt32) (body : Option MailContent)
    (result : UInt32 × MailSvc) : Prop :=
  (result.1 ≠ 0 → Untouched svc result.2 roleID) ∧
    (result.1 = 0 → ∃ content recvRoleID, body = some content ∧
      svc.roleIDOf content.recvRoleName = some recvRoleID ∧
      Sent svc result.2 roleID recvRoleID)

theorem Untouched.rfl {svc : MailSvc} {roleID : UInt32} : Untouched svc svc roleID :=
  ⟨Eq.refl _, Eq.refl _, Eq.refl _, Eq.refl _⟩

theorem losesNothing_of_refused {svc : MailSvc} {roleID retCode : UInt32}
    {body : Option MailContent} (refused : retCode ≠ 0) :
    LosesNothing svc roleID body (retCode, svc) :=
  ⟨fun _ => Untouched.rfl, fun accepted => absurd accepted refused⟩

/-- All checks in front of the attachment pass, and none of their statements fails. -/
structure Passes (fault : Option SendStatement) (svc : MailSvc) (roleID recvRoleID : UInt32)
    (content : MailContent) : Prop where
  executed : fault ≠ some .selectRoleID ∧ fault ≠ some .selectRoleName ∧
    fault ≠ some .selectRoleMoney ∧ fault ≠ some .countMailBox
  receiver : svc.roleIDOf content.recvRoleName = some recvRoleID
  sender : svc.roleName roleID ≠ none
  mailType : content.mailType = 2
  size : content.mailContent ≠ [] ∧ content.mailContent.length ≤ maxMailContent
  money : ∃ balance, svc.roleMoney roleID = some balance ∧
    content.attachMoney ≤ UInt32.ofInt balance.money
  postage : perMailCost ≤ UInt32.ofInt (svc.bindMoney roleID)
  room : svc.mailBox.mails.countP (fun mail => mail.roleID = recvRoleID) < mailMaxNum

/-- The row of the mail is inserted. -/
def Stores (fault : Option SendStatement) (svc : MailSvc) (content : MailContent) : Prop :=
  fault ≠ some .insertMailBox ∧ Plain content.mailContent ∧
    svc.lastMailID + 1 ∉ svc.mailBox.mails.map DBMail.mailID

/-- The rows of the cell that the request names. -/
def cellRows (svc : MailSvc) (roleID : UInt32) (cellIndex : UInt16) : List DBBagItem :=
  svc.bag.filter (MainSvc.Listed roleID [cellIndex])

/-- Without an item only the payment may fail behind the mail. With an item everything behind its
deletion has to succeed. -/
def SendsSafely (fault : Option SendStatement) (svc : MailSvc) (roleID : UInt32)
    (content : MailContent) : Prop :=
  if content.cellIndex > 0 then
    (fault = some .selectCell ∨ fault = some .deleteCell ∨
      svc.cellRows roleID content.cellIndex = []) ∨
    ∃ row, svc.cellRows roleID content.cellIndex = [row] ∧ row.num < 65536 ∧
      Stores fault svc content ∧ (row.itemID ≠ 0 → fault ≠ some .selectEntity) ∧
      fault ≠ some .updateRoleMoney
  else Stores fault svc content → fault ≠ some .updateRoleMoney

section Checks

variable {fault : Option SendStatement} {svc : MailSvc} {roleID recvRoleID : UInt32}
  {content : MailContent}

/-- A request that passes the checks goes on to the attachment. -/
theorem Passes.process_eq (passes : Passes fault svc roleID recvRoleID content) :
    svc.processSendRoleMailsUnder fault roleID (some content) =
      svc.attachItemUnder fault roleID recvRoleID content := by
  obtain ⟨roleIDs, roleNames, monies, mails⟩ := passes.executed
  obtain ⟨balance, stored, enough⟩ := passes.money
  have type := passes.mailType
  simp only [processSendRoleMailsUnder, checkMoneyUnder, if_neg roleIDs, if_neg roleNames,
    if_neg monies, if_neg mails, passes.receiver, if_neg passes.sender, stored, if_neg passes.size.1,
    if_neg (Nat.not_lt.mpr passes.size.2), if_neg (UInt32.not_lt.mpr enough),
    if_neg (UInt32.not_lt.mpr passes.postage), if_neg (Nat.not_le.mpr passes.room), type]
  rfl

/-- A request that does not pass is refused with its state as it is. -/
theorem process_refused (blocked : ∀ recvRoleID, ¬ Passes fault svc roleID recvRoleID content) :
    ∃ retCode ≠ 0, svc.processSendRoleMailsUnder fault roleID (some content) = (retCode, svc) := by
  unfold processSendRoleMailsUnder
  dsimp only
  split
  case isTrue => exact ⟨_, by decide, rfl⟩
  case isFalse roleIDs =>
  split
  case h_1 => exact ⟨_, by decide, rfl⟩
  case h_2 recvRoleID receiver =>
  split
  case isTrue => exact ⟨_, by decide, rfl⟩
  case isFalse roleNames =>
  split
  case isTrue => exact ⟨_, by decide, rfl⟩
  case isFalse sender =>
  split
  case isTrue => exact ⟨_, by decide, rfl⟩
  case isFalse known =>
  split
  case isTrue => exact ⟨_, by decide, rfl⟩
  case isFalse user =>
  split
  case isTrue => exact ⟨_, by decide, rfl⟩
  case isFalse filled =>
  split
  case isTrue => exact ⟨_, by decide, rfl⟩
  case isFalse short =>
  unfold checkMoneyUnder
  split
  case isTrue => exact ⟨_, by decide, rfl⟩
  case isFalse monies =>
  split
  case h_1 => exact ⟨_, by decide, rfl⟩
  case h_2 balance stored =>
  split
  case isTrue => exact ⟨_, by decide, rfl⟩
  case isFalse enough =>
  split
  case isTrue => exact ⟨_, by decide, rfl⟩
  case isFalse postage =>
  split
  case isTrue => exact ⟨_, by decide, rfl⟩
  case isFalse mails =>
  split
  case isTrue => exact ⟨_, by decide, rfl⟩
  case isFalse room =>
  have type : content.mailType = 2 := by
    by_contra other
    exact known ⟨user, other⟩
  exact absurd ⟨⟨roleIDs, roleNames, monies, mails⟩, receiver, sender, type,
    ⟨filled, Nat.not_lt.mp short⟩, ⟨balance, stored, UInt32.not_lt.mp enough⟩,
    UInt32.not_lt.mp postage, Nat.not_le.mp room⟩ (blocked recvRoleID)

end Checks

section Payment

variable {fault : Option SendStatement} {svc : MailSvc} {roleID recvRoleID : UInt32}
  {content : MailContent} {itemID num entityID : UInt32}

/-- The state behind the insertion of a mail. -/
structure Stored (svc : MailSvc) (mail : DBMail) (after : MailSvc) : Prop where
  mails : after.mailBox.mails = svc.mailBox.mails ++ [mail]
  bag : after.bag = svc.bag
  roleMoney : after.roleMoney = svc.roleMoney
  bindMoney : after.bindMoney = svc.bindMoney

variable (roleID recvRoleID itemID num entityID) in
theorem executeUnder_of_stores (stores : Stores fault svc content) :
    ∃ after, svc.executeUnder fault .insertMailBox (.insertMailBox recvRoleID roleID
        content.attachMoney itemID num entityID content.mailContent) = some after ∧
      Stored svc ⟨svc.lastMailID + 1, recvRoleID, roleID, content.attachMoney, 1, itemID, num,
        entityID⟩ after := by
  obtain ⟨executed, plain, fresh⟩ := stores
  rw [executeUnder, if_neg executed, MailStatement.execute, if_pos plain, insertMail,
    MailBox.insert, dif_neg fresh]
  exact ⟨_, rfl, rfl, rfl, rfl, rfl⟩

theorem executeUnder_of_not_stores (fails : ¬ Stores fault svc content) :
    svc.executeUnder fault .insertMailBox (.insertMailBox recvRoleID roleID content.attachMoney
      itemID num entityID content.mailContent) = none := by
  unfold executeUnder
  split
  case isTrue => rfl
  case isFalse executed =>
  unfold MailStatement.execute
  dsimp only
  split
  case isFalse => rfl
  case isTrue plain =>
  rw [insertMail, MailBox.insert, dif_pos (by_contra fun fresh => fails ⟨executed, plain, fresh⟩)]
  rfl

theorem payMailUnder_of_executed (executed : fault ≠ some .updateRoleMoney) (attachMoney : UInt32) :
    svc.payMailUnder fault roleID attachMoney = (0, svc.chargeMail roleID attachMoney) := by
  rw [payMailUnder, executeUnder, if_neg executed]
  rfl

theorem payMailUnder_of_failed (failed : fault = some .updateRoleMoney) (attachMoney : UInt32) :
    svc.payMailUnder fault roleID attachMoney = (errAppOp, svc) := by
  rw [payMailUnder, executeUnder, if_pos failed]

variable (fault svc roleID recvRoleID content itemID num entityID) in
/-- The mail is stored and paid for, it is stored without a payment, or it is refused. -/
theorem storeMailUnder_cases :
    (¬ Stores fault svc content ∧ svc.storeMailUnder fault roleID recvRoleID content itemID num
      entityID = (errSystemDbError, svc)) ∨
    ∃ after, Stores fault svc content ∧ Stored svc ⟨svc.lastMailID + 1, recvRoleID, roleID,
        content.attachMoney, 1, itemID, num, entityID⟩ after ∧
      (((itemID ≠ 0 ∧ fault = some .selectEntity ∨ fault = some .updateRoleMoney) ∧
        ∃ retCode ≠ 0, svc.storeMailUnder fault roleID recvRoleID content itemID num entityID =
          (retCode, after)) ∨
      ((itemID ≠ 0 → fault ≠ some .selectEntity) ∧ fault ≠ some .updateRoleMoney ∧
        svc.storeMailUnder fault roleID recvRoleID content itemID num entityID =
          (0, after.chargeMail roleID content.attachMoney))) := by
  by_cases stores : Stores fault svc content
  · right
    obtain ⟨after, executed, kept⟩ := executeUnder_of_stores roleID recvRoleID itemID num
      entityID stores
    refine ⟨after, stores, kept, ?_⟩
    have paid : ∀ refused : Prop, ((refused ∨ fault = some .updateRoleMoney) ∧
        ∃ retCode ≠ 0, after.payMailUnder fault roleID content.attachMoney = (retCode, after)) ∨
        (fault ≠ some .updateRoleMoney ∧ after.payMailUnder fault roleID content.attachMoney =
          (0, after.chargeMail roleID content.attachMoney)) := by
      intro refused
      by_cases failed : fault = some .updateRoleMoney
      · exact Or.inl ⟨Or.inr failed, errAppOp, by decide, payMailUnder_of_failed failed _⟩
      · exact Or.inr ⟨failed, payMailUnder_of_executed failed _⟩
    unfold storeMailUnder
    rw [executed]
    dsimp only
    by_cases item : itemID ≠ 0
    · rw [if_pos item, executeUnder]
      by_cases lost : fault = some .selectEntity
      · rw [if_pos lost]
        exact Or.inl ⟨Or.inl ⟨item, lost⟩, errSystemDbError, by decide, rfl⟩
      · rw [if_neg lost]
        exact (paid _).imp id fun ⟨executed, same⟩ => ⟨fun _ => lost, executed, same⟩
    · rw [if_neg item]
      exact (paid _).imp id fun ⟨executed, same⟩ =>
        ⟨fun attached => absurd attached item, executed, same⟩
  · left
    unfold storeMailUnder
    rw [executeUnder_of_not_stores stores]
    exact ⟨stores, rfl⟩

/-- A refused request that has stored its mail is not undone. -/
theorem Stored.not_untouched {mail : DBMail} {after : MailSvc} (kept : Stored svc mail after) :
    ¬ Untouched svc after roleID := by
  intro untouched
  have mails := kept.mails
  rw [untouched.mailBox] at mails
  exact absurd (congrArg List.length mails) (by simp)

/-- The payment of a mail that is stored. -/
theorem sent_chargeMail {before : MailSvc} {mail : DBMail} {after : MailSvc}
    (kept : Stored svc mail after) (balance : (before.roleMoney roleID).isSome)
    (sameBox : svc.mailBox = before.mailBox) (sameMoney : svc.roleMoney = before.roleMoney)
    (samePostage : svc.bindMoney = before.bindMoney)
    (carries : CarriesItem before after roleID mail) :
    Sent before (after.chargeMail roleID mail.money) roleID mail.roleID := by
  obtain ⟨money, stored⟩ := Option.isSome_iff_exists.mp balance
  have there : (after.roleMoney roleID).isSome := by
    rw [kept.roleMoney, sameMoney]
    exact balance
  rw [chargeMail, if_pos there]
  refine ⟨⟨mail, by rw [← sameBox]; exact kept.mails, rfl, carries, ?_⟩, ?_⟩
  · change Function.update after.roleMoney roleID _ roleID = _
    rw [Function.update_self, kept.roleMoney, sameMoney, stored]
    simp [Int.sub_eq_add_neg]
  · change Function.update after.bindMoney roleID _ roleID = _
    rw [Function.update_self, kept.bindMoney, samePostage]

end Payment

section Attachment

variable {fault : Option SendStatement} {svc : MailSvc} {roleID recvRoleID : UInt32}
  {content : MailContent}

/-- The state behind the deletion of a cell. -/
def emptied (svc : MailSvc) (roleID : UInt32) (cellIndex : UInt16) : MailSvc :=
  { svc with bag := svc.bag.filter fun row => ¬ MainSvc.Listed roleID [cellIndex] row }

variable {cellIndex : UInt16}

theorem selectCell_execute :
    (MailStatement.selectCell roleID cellIndex).execute svc = some svc := rfl

theorem dleteItemForEmailUnder_eq_none (kept : fault = some .selectCell ∨ fault = some .deleteCell ∨
      svc.cellRows roleID cellIndex = []) :
    svc.dleteItemForEmailUnder fault roleID cellIndex = none := by
  unfold dleteItemForEmailUnder executeUnder
  by_cases select : fault = some .selectCell
  · rw [if_pos select]
    rfl
  · rw [if_neg select, selectCell_execute, Option.bind_some]
    cases rows : svc.cellRows roleID cellIndex with
    | nil =>
        unfold cellRows at rows
        rw [rows]
        rfl
    | cons row more =>
        have deletion : fault = some .deleteCell := by
          refine (kept.resolve_left select).resolve_right fun empty => ?_
          rw [rows] at empty
          cases empty
        unfold cellRows at rows
        rw [rows, List.head?_cons]
        simp only [if_pos deletion, Option.map_none]

theorem dleteItemForEmailUnder_eq_some {row : DBBagItem}
    {more : List DBBagItem} (select : fault ≠ some .selectCell) (delete : fault ≠ some .deleteCell)
    (rows : svc.cellRows roleID cellIndex = row :: more) :
    svc.dleteItemForEmailUnder fault roleID cellIndex =
      some ((row.itemID, row.num.toUInt16, row.entityID), svc.emptied roleID cellIndex) := by
  unfold dleteItemForEmailUnder executeUnder
  unfold cellRows at rows
  rw [if_neg select, selectCell_execute, Option.bind_some, rows, List.head?_cons]
  simp only [if_neg delete]
  rfl

theorem mem_cellRows {row : DBBagItem} :
    row ∈ svc.cellRows roleID cellIndex ↔ row ∈ svc.bag ∧ MainSvc.Listed roleID [cellIndex] row := by
  rw [cellRows, List.mem_filter, decide_eq_true_iff]

/-- The rows of a cell and the rows that stay make up the bag. -/
theorem perm_cellRows (svc : MailSvc) (roleID : UInt32) (cellIndex : UInt16) :
    svc.bag.Perm (svc.cellRows roleID cellIndex ++ (svc.emptied roleID cellIndex).bag) := by
  have split := (List.filter_append_perm
    (fun row => decide (MainSvc.Listed roleID [cellIndex] row)) svc.bag).symm
  simpa [cellRows, emptied] using split

/-- A bag without one of its rows is not the same bag. -/
theorem not_untouched_of_emptied {after : MailSvc} {cellIndex : UInt16} {row : DBBagItem}
    (taken : row ∈ svc.cellRows roleID cellIndex)
    (bag : after.bag = (svc.emptied roleID cellIndex).bag) : ¬ Untouched svc after roleID := by
  intro untouched
  obtain ⟨present, listed⟩ := mem_cellRows.mp taken
  have own : row ∈ svc.bag.filter fun row => row.roleID = roleID :=
    List.mem_filter.mpr ⟨present, decide_eq_true listed.1⟩
  rw [← untouched.bag, bag] at own
  have stays := (List.mem_filter.mp (List.mem_filter.mp own).1).2
  exact of_decide_eq_true stays listed

theorem toUInt32_toUInt16_iff (num : UInt32) : num.toUInt16.toUInt32 = num ↔ num < 65536 := by
  rw [← UInt32.toNat_inj, UInt32.lt_iff_toNat_lt]
  change num.toNat % 65536 = num.toNat ↔ num.toNat < 65536
  omega

/-- The mail carries what left the bag exactly when the cell held one row with a small number. -/
theorem carriesItem_iff {after : MailSvc} {cellIndex : UInt16} {row : DBBagItem}
    {more : List DBBagItem} {mail : DBMail} (rows : svc.cellRows roleID cellIndex = row :: more)
    (bag : after.bag = (svc.emptied roleID cellIndex).bag)
    (item : mail.itemID = row.itemID ∧ mail.num = row.num.toUInt16.toUInt32 ∧
      mail.entityID = row.entityID) :
    CarriesItem svc after roleID mail ↔ more = [] ∧ row.num < 65536 := by
  have whole := perm_cellRows svc roleID cellIndex
  rw [rows, ← bag] at whole
  have length := whole.length_eq
  rw [List.length_append, List.length_cons] at length
  constructor
  · rintro (⟨same, -⟩ | ⟨other, left, -, -, num, -⟩)
    · rw [same] at length
      omega
    · have single : more = [] := by
        have others := left.length_eq
        rw [List.length_cons] at others
        exact List.eq_nil_of_length_eq_zero (by omega)
      subst single
      have one : ((other :: after.bag : List DBBagItem) : Multiset DBBagItem) =
          (row :: after.bag : List DBBagItem) := Multiset.coe_eq_coe.mpr (left.symm.trans whole)
      rw [← Multiset.cons_coe, ← Multiset.cons_coe, Multiset.cons_inj_left] at one
      rw [one, item.2.1] at num
      exact ⟨rfl, (toUInt32_toUInt16_iff row.num).mp num⟩
  · rintro ⟨rfl, small⟩
    have listed : row ∈ svc.cellRows roleID cellIndex := rows ▸ List.mem_cons_self
    exact Or.inr ⟨row, whole, (mem_cellRows.mp listed).2.1, item.1,
      item.2.1.trans ((toUInt32_toUInt16_iff row.num).mpr small), item.2.2⟩

/-- A mail without an item is lost only by a failing payment. -/
theorem attachNothing_losesNothing_iff
    (passes : Passes fault svc roleID recvRoleID content) (nothing : ¬ content.cellIndex > 0) :
    LosesNothing svc roleID (some content) (svc.attachItemUnder fault roleID recvRoleID content) ↔
      SendsSafely fault svc roleID content := by
  rw [attachItemUnder, if_neg nothing, SendsSafely, if_neg nothing]
  obtain ⟨fails, result⟩ | ⟨after, stores, kept, ⟨failed, retCode, refused, result⟩ |
    ⟨-, executed, result⟩⟩ := storeMailUnder_cases fault svc roleID recvRoleID content 0 0 0
  · rw [result]
    exact iff_of_true (losesNothing_of_refused (by decide)) fun stores => absurd stores fails
  · rw [result]
    have payment : fault = some .updateRoleMoney :=
      failed.resolve_left fun item => item.1 rfl
    exact iff_of_false (fun safe => kept.not_untouched (safe.1 refused))
      fun safe => safe stores payment
  · rw [result]
    obtain ⟨balance, found, -⟩ := passes.money
    have there : (svc.roleMoney roleID).isSome := by rw [found, Option.isSome_some]
    have sent := sent_chargeMail kept there rfl rfl rfl (Or.inl ⟨kept.bag, rfl, rfl, rfl⟩)
    exact iff_of_true ⟨fun refused => absurd rfl refused,
      fun _ => ⟨content, recvRoleID, rfl, passes.receiver, sent⟩⟩ fun _ => executed

/-- The deletion of the item is not undone when a later statement fails. -/
theorem attachItem_losesNothing_iff {row : DBBagItem} {more : List DBBagItem}
    (passes : Passes fault svc roleID recvRoleID content) (item : content.cellIndex > 0)
    (select : fault ≠ some .selectCell) (delete : fault ≠ some .deleteCell)
    (rows : svc.cellRows roleID content.cellIndex = row :: more) :
    LosesNothing svc roleID (some content) (svc.attachItemUnder fault roleID recvRoleID content) ↔
      more = [] ∧ row.num < 65536 ∧ Stores fault svc content ∧
        (row.itemID ≠ 0 → fault ≠ some .selectEntity) ∧ fault ≠ some .updateRoleMoney := by
  have taken : row ∈ svc.cellRows roleID content.cellIndex := rows ▸ List.mem_cons_self
  rw [attachItemUnder, if_pos item, dleteItemForEmailUnder_eq_some select delete rows]
  obtain ⟨fails, result⟩ | ⟨after, stores, kept, ⟨failed, retCode, refused, result⟩ |
    ⟨found, executed, result⟩⟩ := storeMailUnder_cases fault
      (svc.emptied roleID content.cellIndex) roleID recvRoleID content row.itemID
      row.num.toUInt16.toUInt32 row.entityID
  · dsimp only
    rw [result]
    refine iff_of_false (fun safe => ?_) fun safe => fails safe.2.2.1
    have refused : errSystemDbError ≠ 0 := by decide
    exact not_untouched_of_emptied taken rfl (safe.1 refused)
  · dsimp only
    rw [result]
    refine iff_of_false (fun safe => ?_) fun safe => ?_
    · exact not_untouched_of_emptied taken kept.bag (safe.1 refused)
    · exact failed.elim (fun lost => safe.2.2.2.1 lost.1 lost.2) safe.2.2.2.2
  · dsimp only
    rw [result]
    obtain ⟨balance, stored, -⟩ := passes.money
    have there : (svc.roleMoney roleID).isSome := by rw [stored, Option.isSome_some]
    have charged : (after.chargeMail roleID content.attachMoney).bag =
        (svc.emptied roleID content.cellIndex).bag := by
      rw [← kept.bag]
      unfold chargeMail
      split <;> rfl
    constructor
    · intro safe
      obtain ⟨_, _, -, -, sent⟩ := safe.2 rfl
      obtain ⟨mail, mails, -, carries, -⟩ := sent.arrives
      have box : (after.chargeMail roleID content.attachMoney).mailBox = after.mailBox := by
        unfold chargeMail
        split <;> rfl
      have same := mails.symm.trans ((congrArg MailBox.mails box).trans kept.mails)
      cases List.singleton_inj.mp (List.append_cancel_left same)
      obtain ⟨single, small⟩ := (carriesItem_iff rows charged ⟨rfl, rfl, rfl⟩).mp carries
      exact ⟨single, small, stores, found, executed⟩
    · rintro ⟨single, small, -, -, -⟩
      have carries : CarriesItem svc after roleID
          ⟨svc.lastMailID + 1, recvRoleID, roleID, content.attachMoney, 1, row.itemID,
            row.num.toUInt16.toUInt32, row.entityID⟩ :=
        (carriesItem_iff rows kept.bag ⟨rfl, rfl, rfl⟩).mpr ⟨single, small⟩
      have sent := sent_chargeMail kept there rfl rfl rfl carries
      exact ⟨fun refused => absurd rfl refused,
        fun _ => ⟨content, recvRoleID, rfl, passes.receiver, sent⟩⟩

theorem attachItemUnder_losesNothing_iff
    (passes : Passes fault svc roleID recvRoleID content) :
    LosesNothing svc roleID (some content) (svc.attachItemUnder fault roleID recvRoleID content) ↔
      SendsSafely fault svc roleID content := by
  by_cases item : content.cellIndex > 0
  · by_cases kept : fault = some .selectCell ∨ fault = some .deleteCell ∨
        svc.cellRows roleID content.cellIndex = []
    · rw [attachItemUnder, if_pos item, dleteItemForEmailUnder_eq_none kept, SendsSafely,
        if_pos item]
      exact iff_of_true (losesNothing_of_refused (by decide)) (Or.inl kept)
    · obtain ⟨select, later⟩ := not_or.mp kept
      obtain ⟨delete, filled⟩ := not_or.mp later
      obtain ⟨row, more, rows⟩ := List.exists_cons_of_ne_nil filled
      rw [attachItem_losesNothing_iff passes item select delete rows, SendsSafely, if_pos item,
        or_iff_right kept, rows]
      constructor
      · rintro ⟨rfl, later⟩
        exact ⟨row, rfl, later⟩
      · rintro ⟨other, same, later⟩
        obtain ⟨rfl, rfl⟩ := List.cons.inj same
        exact ⟨rfl, later⟩
  · exact attachNothing_losesNothing_iff passes item

end Attachment

/-- Role one holds two pieces of an item in its fourth cell. -/
def postOffice : MailSvc where
  mapRole _ := none
  bag := [⟨1, 4, 1, 5, 30, 0, 2⟩]
  roleMoney _ := some ⟨500, 0⟩
  bindStatus _ := none
  bindMoney _ := 200
  mailBox := ⟨[], List.nodup_nil⟩
  lastMailID := 0
  roleIDOf _ := some 2
  roleName _ := some [65]
  itemType _ := none

end MailSvc

end AppSvr.MainServer
