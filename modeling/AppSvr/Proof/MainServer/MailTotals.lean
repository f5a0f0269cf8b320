/-
This file proves when the mail messages conserve money and items.
-/

import AppSvr.Construction.MainServer.MailSvc
import AppSvr.Proof.MainServer.ItemExchange
import AppSvr.ToMathlib.KeyedRows
import Mathlib.Algebra.Ring.Int.Defs
import Mathlib.Data.FinEnum

namespace AppSvr.MainServer

open KeyedRows Programs TableSums TransitionSystem

namespace MailBox

variable {mailBox : MailBox} {mailID roleID : UInt32} {mail other : DBMail}

theorem unique (member : mail ∈ mailBox.mails) (second : other ∈ mailBox.mails)
    (same : other.mailID = mail.mailID) : other = mail :=
  List.inj_on_of_nodup_map mailBox.distinct second member same

theorem find_mem (found : mailBox.find mailID roleID = some mail) :
    mail ∈ mailBox.mails ∧ Named mailID roleID mail :=
  ⟨List.mem_of_find?_eq_some found, by simpa using List.find?_some found⟩

/-- The clause selects no other row. -/
theorem filter_named (found : mailBox.find mailID roleID = some mail) :
    mailBox.mails.filter (Named mailID roleID) = [mail] := by
  obtain ⟨member, named⟩ := find_mem found
  apply filter_eq_singleton _ member named
  have distinct := mailBox.distinct.sublist
    ((List.filter_sublist (p := fun mail => Named mailID roleID mail)).map DBMail.mailID)
  have same (row : DBMail) (kept : row ∈ mailBox.mails.filter (Named mailID roleID)) :
      row.mailID = mailID := by
    have selected := List.of_mem_filter kept
    simp only [decide_eq_true_eq] at selected
    exact selected.1
  cases rows : mailBox.mails.filter (Named mailID roleID) with
  | nil => exact Nat.zero_le 1
  | cons first rest =>
      cases rest with
      | nil => exact Nat.le_refl 1
      | cons second rest =>
          rw [rows] at distinct same
          have apart := (List.nodup_cons.mp distinct).1
          rw [same first (by simp)] at apart
          exact absurd (List.mem_map.mpr ⟨second, by simp, same second (by simp)⟩) apart

theorem insert_mails {next : MailBox} (inserted : mailBox.insert mail = some next) :
    next.mails = mailBox.mails ++ [mail] ∧ mail.mailID ∉ mailBox.mails.map DBMail.mailID := by
  unfold insert at inserted
  split at inserted
  · cases inserted
  · next fresh =>
    cases inserted
    exact ⟨rfl, fresh⟩

end MailBox

def DBMail.silver (mail : DBMail) : Int := if mail.moneyType = 1 then printed mail.money else 0

def DBMail.gold (mail : DBMail) : Int := if mail.moneyType = 2 then printed mail.money else 0

/-- An item without an identifier is none. -/
def goods (itemID entityID num : UInt32) : Multiset (UInt32 × UInt32 × UInt32) :=
  if itemID = 0 then 0 else {(itemID, entityID, num)}

def DBMail.goods (mail : DBMail) : Multiset (UInt32 × UInt32 × UInt32) :=
  MainServer.goods mail.itemID mail.entityID mail.num

def DBBagItem.goods (row : DBBagItem) : Multiset (UInt32 × UInt32 × UInt32) :=
  MainServer.goods row.itemID row.entityID row.num

namespace MailSvc

variable {svc next : MailSvc} {roleID mailID : UInt32}

/-- The silver of all roles and of all mails. -/
def totalMoney (svc : MailSvc) : Int :=
  tableSum RoleMoney.money svc.roleMoney + (svc.mailBox.mails.map DBMail.silver).sum

def totalGold (svc : MailSvc) : Int :=
  tableSum RoleMoney.gold svc.roleMoney + (svc.mailBox.mails.map DBMail.gold).sum

def totalGoods (svc : MailSvc) : Multiset (UInt32 × UInt32 × UInt32) :=
  (svc.bag.map DBBagItem.goods).sum + (svc.mailBox.mails.map DBMail.goods).sum

/-- The mails that a request deletes with their attachments. -/
def removed (svc : MailSvc) : MailRequest → List DBMail
  | .deleteRoleMails roleID (some lmailID) =>
      svc.mailBox.mails.filter fun mail => mail.mailID ∈ lmailID ∧ mail.roleID = roleID
  | _ => []

/-- The money of the mail has been added to the balance of its owner. -/
def Credited (svc next : MailSvc) (mail : DBMail) : Prop :=
  ∃ before after, svc.roleMoney mail.roleID = some before ∧
    next.roleMoney mail.roleID = some after ∧ (mail.moneyType = 1 ∨ mail.moneyType = 2) ∧
    after.money = before.money + mail.silver ∧ after.gold = before.gold + mail.gold

/-- The item of the mail has been added to the bag of its owner. -/
def Received (svc next : MailSvc) (mail : DBMail) : Prop :=
  ∃ row : DBBagItem, row.roleID = mail.roleID ∧ next.bag = svc.bag ++ [row] ∧
    row.item = (mail.itemID, mail.entityID, mail.num)

/-- The attachments that are left are the old ones, or they have reached the owner. -/
structure Left (svc next : MailSvc) (mail left : DBMail) : Prop where
  money : left.money = mail.money ∨ left.money = 0 ∧ svc.Credited next mail
  item : (left.itemID = mail.itemID ∧ left.entityID = mail.entityID ∧ left.num = mail.num) ∨
    left.itemID = 0 ∧ svc.Received next mail

/-- The totals lose only the mails that the request deletes, and no stored attachment is lost. -/
structure Conserves (svc : MailSvc) (request : MailRequest) (next : MailSvc) : Prop where
  money : next.totalMoney + ((svc.removed request).map DBMail.silver).sum = svc.totalMoney
  gold : next.totalGold + ((svc.removed request).map DBMail.gold).sum = svc.totalGold
  goods : next.totalGoods + ((svc.removed request).map DBMail.goods).sum = svc.totalGoods
  left : ∀ mail ∈ svc.mailBox.mails, ∀ left ∈ next.mailBox.mails, left.mailID = mail.mailID →
    svc.Left next mail left

theorem Left.refl (mail : DBMail) : svc.Left next mail mail :=
  ⟨.inl rfl, .inl ⟨rfl, rfl, rfl⟩⟩

/-- A request that changes nothing conserves everything. -/
theorem Conserves.refl {request : MailRequest} (none : svc.removed request = []) :
    svc.Conserves request svc := by
  refine ⟨?_, ?_, ?_, ?_⟩
  · simp [none]
  · simp [none]
  · simp [none]
  · intro mail member left stays same
    rw [MailBox.unique member stays same]
    exact .refl mail

/-- The update of one balance replaces its weight. -/
theorem tableSum_updateMoney (weight : RoleMoney → Int) {balance : RoleMoney}
    (row : svc.roleMoney roleID = some balance) (money gold : Int) :
    tableSum weight (svc.updateMoney roleID money gold).roleMoney + weight balance =
      tableSum weight svc.roleMoney + weight ⟨balance.money + money, balance.gold + gold⟩ := by
  have sum := tableSum_update weight svc.roleMoney roleID
    (some ⟨balance.money + money, balance.gold + gold⟩)
  rw [row, Option.elim_some, Option.elim_some] at sum
  rw [updateMoney, row, Option.map_some]
  exact sum

/-- Changing one mail replaces its weight. -/
theorem sum_updateMail {Weight : Type*} [AddCommMonoid Weight] (weight : DBMail → Weight)
    {mail : DBMail} (found : svc.mailBox.find mailID roleID = some mail)
    (change : DBMail → DBMail) (keeps : ∀ mail, (change mail).mailID = mail.mailID) :
    ((svc.mailBox.update mailID roleID change keeps).mails.map weight).sum + weight mail =
      (svc.mailBox.mails.map weight).sum + weight (change mail) :=
  sum_update weight (MailBox.filter_named found) change

/-- A changed mail is the old one or the one that the clause selects. -/
theorem update_left {mail row left : DBMail} (found : svc.mailBox.find mailID roleID = some mail)
    (change : DBMail → DBMail) (keeps : ∀ mail, (change mail).mailID = mail.mailID)
    (member : row ∈ svc.mailBox.mails)
    (stays : left ∈ (svc.mailBox.update mailID roleID change keeps).mails)
    (same : left.mailID = row.mailID) : left = row ∨ row = mail ∧ left = change mail := by
  obtain ⟨old, stored, changed⟩ := List.mem_map.mp stays
  by_cases named : MailBox.Named mailID roleID old
  · rw [if_pos named] at changed
    have selected : old = mail := by
      have kept : old ∈ svc.mailBox.mails.filter (MailBox.Named mailID roleID) :=
        List.mem_filter.mpr ⟨stored, decide_eq_true named⟩
      rw [MailBox.filter_named found] at kept
      exact List.mem_singleton.mp kept
    subst selected
    rw [← changed, keeps] at same
    exact .inr ⟨MailBox.unique stored member same.symm, changed.symm⟩
  · rw [if_neg named] at changed
    subst changed
    exact .inl (MailBox.unique member stored same)

section Attachments

variable {mail : DBMail} {balance : RoleMoney}
  (found : svc.mailBox.find mailID roleID = some mail)
include found

/-- The state after an attachment of silver or gold has been moved. -/
def moneyMoved (svc : MailSvc) (mailID roleID : UInt32) (mail : DBMail) : MailSvc :=
  { svc.updateMoney roleID mail.silver mail.gold with
    mailBox := svc.mailBox.update mailID roleID DBMail.clearMoney DBMail.clearMoney_mailID }

theorem moneyMoved_conserves (row : svc.roleMoney roleID = some balance)
    (moneyType : mail.moneyType = 1 ∨ mail.moneyType = 2) (moveType : UInt8) :
    svc.Conserves (.attachToBag roleID mailID moveType) (svc.moneyMoved mailID roleID mail) := by
  have owner := (MailBox.find_mem found).2.2
  have money := tableSum_updateMoney RoleMoney.money row mail.silver mail.gold
  have gold := tableSum_updateMoney RoleMoney.gold row mail.silver mail.gold
  have silverLeft := sum_updateMail DBMail.silver found DBMail.clearMoney DBMail.clearMoney_mailID
  have goldLeft := sum_updateMail DBMail.gold found DBMail.clearMoney DBMail.clearMoney_mailID
  have goodsLeft := sum_updateMail DBMail.goods found DBMail.clearMoney DBMail.clearMoney_mailID
  refine ⟨?_, ?_, ?_, ?_⟩
  · have cleared : mail.clearMoney.silver = 0 := by
      simp [DBMail.clearMoney, DBMail.silver, printed]
    simp only [removed, List.map_nil, List.sum_nil, totalMoney, moneyMoved]
    dsimp only at money
    omega
  · have cleared : mail.clearMoney.gold = 0 := by
      simp [DBMail.clearMoney, DBMail.gold, printed]
    simp only [removed, List.map_nil, List.sum_nil, totalGold, moneyMoved]
    dsimp only at gold
    omega
  · have same := add_right_cancel goodsLeft
    simp only [removed, List.map_nil, List.sum_nil, totalGoods, moneyMoved, add_zero, same]
    rfl
  · intro other member left stays same
    rcases update_left found DBMail.clearMoney DBMail.clearMoney_mailID member
      stays same with rfl | ⟨rfl, rfl⟩
    · exact .refl left
    · refine ⟨.inr ⟨rfl, balance, ⟨balance.money + other.silver, balance.gold + other.gold⟩, ?_, ?_,
        moneyType, rfl, rfl⟩, .inl ⟨rfl, rfl, rfl⟩⟩
      · rw [owner, row]
      · rw [owner]
        simp [moneyMoved, updateMoney, row]

/-- The state after the item of a mail has been moved to a cell. -/
def itemMoved (svc : MailSvc) (mailID roleID : UInt32) (row : DBBagItem) : MailSvc :=
  { svc with
    bag := svc.bag ++ [row]
    mailBox := svc.mailBox.update mailID roleID DBMail.clearItem DBMail.clearItem_mailID }

theorem itemMoved_conserves {row : DBBagItem} (owned : row.roleID = roleID)
    (same : row.item = (mail.itemID, mail.entityID, mail.num)) (moveType : UInt8) :
    svc.Conserves (.attachToBag roleID mailID moveType) (svc.itemMoved mailID roleID row) := by
  have owner := (MailBox.find_mem found).2.2
  have silverLeft := sum_updateMail DBMail.silver found DBMail.clearItem DBMail.clearItem_mailID
  have goldLeft := sum_updateMail DBMail.gold found DBMail.clearItem DBMail.clearItem_mailID
  have goodsLeft := sum_updateMail DBMail.goods found DBMail.clearItem DBMail.clearItem_mailID
  have cleared : mail.clearItem.goods = 0 := by
    simp [DBMail.clearItem, DBMail.goods, MainServer.goods]
  have delivered : row.goods = mail.goods := by
    simp only [DBBagItem.item, Prod.mk.injEq] at same
    rw [DBBagItem.goods, DBMail.goods, same.1, same.2.1, same.2.2]
  refine ⟨?_, ?_, ?_, ?_⟩
  · have kept := add_right_cancel silverLeft
    simp only [removed, List.map_nil, List.sum_nil, totalMoney, itemMoved, kept, Int.add_zero]
  · have kept := add_right_cancel goldLeft
    simp only [removed, List.map_nil, List.sum_nil, totalGold, itemMoved, kept, Int.add_zero]
  · rw [cleared, add_zero] at goodsLeft
    simp only [removed, List.map_nil, List.sum_nil, totalGoods, itemMoved, add_zero,
      List.map_append, List.map_singleton, List.sum_append, List.sum_singleton, delivered]
    rw [← goodsLeft, add_assoc, add_comm mail.goods]
  · intro other member left stays sameID
    rcases update_left found DBMail.clearItem DBMail.clearItem_mailID member
      stays sameID with rfl | ⟨rfl, rfl⟩
    · exact .refl left
    · exact ⟨.inl rfl, .inr ⟨rfl, row, owned.trans owner.symm, rfl, same⟩⟩

end Attachments

/-- The named cell holds one row with a sixteen-bit number. A claimed money is silver or gold for a
role with a balance, and a claimed item with a sixteen-bit number finds a cell. -/
def Careful (svc : MailSvc) : MailRequest → Prop
  | .sendRoleMails roleID (some content) => content.cellIndex ≠ 0 →
      ∀ row ∈ svc.bag.filter (MainSvc.Listed roleID [content.cellIndex]),
        svc.bag.filter (MainSvc.Listed roleID [content.cellIndex]) = [row] ∧
          row.num.toNat < 2 ^ 16
  | .attachToBag roleID mailID moveType => ∀ mail ∈ svc.mailBox.find mailID roleID,
      (moveType = 1 → mail.money ≠ 0 →
        (mail.moneyType = 1 ∨ mail.moneyType = 2) ∧ (svc.roleMoney roleID).isSome) ∧
      (moveType = 2 → mail.itemID ≠ 0 →
        svc.ifhascellIndex roleID ≠ 0 ∧ mail.num.toNat < 2 ^ 16)
  | _ => True

instance (svc : MailSvc) : (request : MailRequest) → Decidable (svc.Careful request)
  | .sendRoleMails _ none | .deleteRoleMails _ _ => inferInstanceAs (Decidable True)
  | .sendRoleMails _ (some _) => inferInstanceAs (Decidable (_ → _))
  | .attachToBag _ _ _ => inferInstanceAs (Decidable (∀ mail ∈ _, _))

theorem toUInt32_toUInt16 {num : UInt32} (small : num.toNat < 2 ^ 16) :
    num.toUInt16.toUInt32 = num := by
  rw [← UInt32.toNat_inj, UInt16.toNat_toUInt32, UInt32.toNat_toUInt16]
  exact Nat.mod_eq_of_lt small

/-- The money of a mail moves to the balance of its type. -/
theorem moveMoney_run {mail : DBMail} (moneyType : mail.moneyType = 1 ∨ mail.moneyType = 2) :
    (MailProgram.moveMoney roleID mail mailID).run execute svc =
      some (svc.moneyMoved mailID roleID mail, 0) := by
  rcases moneyType with silver | gold
  · simp [MailProgram.moveMoney, MailProgram.getmoney, MailProgram.initMoneyAttach, silver, execute,
      MailStatement.execute, moneyMoved, DBMail.silver, DBMail.gold]
    rfl
  · simp [MailProgram.moveMoney, MailProgram.getGold, MailProgram.initMoneyAttach, gold, execute,
      MailStatement.execute, moneyMoved, DBMail.silver, DBMail.gold]
    rfl

/-- A cell that was found takes the item of a mail. -/
theorem moveItem_run {mail : DBMail} (present : mail.itemID ≠ 0)
    (room : svc.ifhascellIndex roleID ≠ 0) :
    (MailProgram.moveItem roleID mail mailID).run execute svc =
      some (svc.itemMoved mailID roleID ⟨roleID, svc.ifhascellIndex roleID, 1,
        (svc.itemType mail.itemID).getD 0, mail.itemID, mail.entityID,
        mail.num.toUInt16.toUInt32⟩, 0) := by
  have result : ¬ (1 : Int) = -1 := by decide
  unfold MailProgram.moveItem MailProgram.getItemFromEmail
  rw [if_neg present]
  simp only [Program.statement_bind, Program.run_statement, execute, MailStatement.execute,
    Option.bind_some, if_neg room]
  split_ifs
  · simp only [Program.statement_bind, Program.run_statement, Program.done_bind, execute,
      MailStatement.execute, Option.bind_some, if_neg result]
    rfl
  · simp only [Program.done_bind, if_neg result]
    rfl

theorem attachToBag_conserves {moveType : UInt8}
    (careful : svc.Careful (.attachToBag roleID mailID moveType))
    (enabled : svc.step (.attachToBag roleID mailID moveType) = some next) :
    svc.Conserves (.attachToBag roleID mailID moveType) next := by
  obtain ⟨⟨after, retCode⟩, ran, rfl⟩ := Option.map_eq_some_iff.mp enabled
  simp only [MailRequest.program, MailProgram.processAttachToBag, Program.run_statement, execute,
    MailStatement.execute, Option.bind_some] at ran
  have unchanged {code : UInt32}
      (ran : (Program.done code : MailProgram UInt32).run execute svc = some (after, retCode)) :
      svc.Conserves (.attachToBag roleID mailID moveType) after := by
    cases ran
    exact .refl rfl
  cases found : svc.mailBox.find mailID roleID with
  | none =>
      rw [found] at ran
      exact unchanged ran
  | some mail =>
      rw [found] at ran
      obtain ⟨money, item⟩ := careful mail found
      dsimp only at ran
      split_ifs at ran with silver second
      · obtain ⟨moneyType, row⟩ := money silver.1 silver.2
        obtain ⟨balance, row⟩ := Option.isSome_iff_exists.mp row
        rw [moveMoney_run moneyType] at ran
        cases ran
        exact moneyMoved_conserves found row moneyType moveType
      · by_cases present : mail.itemID = 0
        · rw [MailProgram.moveItem, if_pos present] at ran
          exact unchanged ran
        · obtain ⟨room, small⟩ := item second present
          rw [moveItem_run present room] at ran
          cases ran
          refine itemMoved_conserves found rfl ?_ moveType
          rw [DBBagItem.item, toUInt32_toUInt16 small]
      · exact unchanged ran

section Sending

variable {mail : DBMail} {mailBox : MailBox} {balance : RoleMoney} {attachMoney : UInt32}
  {bag : List DBBagItem}

/-- The state after a mail has been stored and paid. -/
def mailed (svc : MailSvc) (roleID attachMoney : UInt32) (bag : List DBBagItem)
    (mailBox : MailBox) : MailSvc :=
  { svc with bag, mailBox, lastMailID := svc.lastMailID + 1 }.chargeMail roleID attachMoney

theorem mailed_roleMoney (row : svc.roleMoney roleID = some balance) :
    (svc.mailed roleID attachMoney bag mailBox).roleMoney =
      (svc.updateMoney roleID (-printed attachMoney) 0).roleMoney := by
  rw [mailed, chargeMail, if_pos (by rw [row]; rfl)]
  rfl

@[simp] theorem mailed_bag : (svc.mailed roleID attachMoney bag mailBox).bag = bag := by
  unfold mailed chargeMail
  split_ifs <;> rfl

@[simp] theorem mailed_mailBox :
    (svc.mailed roleID attachMoney bag mailBox).mailBox = mailBox := by
  unfold mailed chargeMail
  split_ifs <;> rfl

theorem mailed_conserves (row : svc.roleMoney roleID = some balance)
    (inserted : svc.mailBox.insert mail = some mailBox) (money : mail.money = attachMoney)
    (moneyType : mail.moneyType = 1)
    (item : (bag.map DBBagItem.goods).sum + mail.goods = (svc.bag.map DBBagItem.goods).sum)
    (body : Option MailProgram.MailContent) :
    svc.Conserves (.sendRoleMails roleID body) (svc.mailed roleID attachMoney bag mailBox) := by
  obtain ⟨mails, fresh⟩ := MailBox.insert_mails inserted
  have paid : (svc.mailed roleID attachMoney bag mailBox).roleMoney = _ := mailed_roleMoney row
  have silver : mail.silver = printed attachMoney := by rw [DBMail.silver, if_pos moneyType, money]
  have noGold : mail.gold = 0 := by
    rw [DBMail.gold, moneyType]
    rfl
  refine ⟨?_, ?_, ?_, ?_⟩
  · have sum := tableSum_updateMoney RoleMoney.money row (-printed attachMoney) 0
    simp only [removed, List.map_nil, List.sum_nil, totalMoney, mailed_mailBox, mails, paid,
      List.map_append, List.map_singleton, List.sum_append, List.sum_singleton, silver]
    dsimp only at sum
    omega
  · have sum := tableSum_updateMoney RoleMoney.gold row (-printed attachMoney) 0
    simp only [removed, List.map_nil, List.sum_nil, totalGold, mailed_mailBox, mails, paid,
      List.map_append, List.map_singleton, List.sum_append, List.sum_singleton, noGold]
    dsimp only at sum
    omega
  · simp only [removed, List.map_nil, List.sum_nil, totalGoods, mailed_mailBox, mailed_bag, mails,
      List.map_append, List.map_singleton, List.sum_append, List.sum_singleton, add_zero, ← item]
    ac_rfl
  · intro other member left stays same
    rw [mailed_mailBox, mails] at stays
    rcases List.mem_append.mp stays with old | new
    · rw [MailBox.unique member old same]
      exact .refl other
    · rw [List.mem_singleton.mp new] at same
      exact absurd (List.mem_map.mpr ⟨other, member, same.symm⟩) fresh

/-- A stored mail is paid at the end. -/
theorem storeMail_run {recvRoleID itemID num entityID : UInt32} {content : MailProgram.MailContent}
    {retCode : UInt32} (ran : (MailProgram.storeMail roleID recvRoleID content itemID num
      entityID).run execute svc = some (next, retCode)) :
    ∃ mailBox, svc.mailBox.insert ⟨svc.lastMailID + 1, recvRoleID, roleID, content.attachMoney, 1,
        itemID, num, entityID⟩ = some mailBox ∧
      next = svc.mailed roleID content.attachMoney svc.bag mailBox := by
  rw [MailProgram.storeMail, Program.run_statement] at ran
  obtain ⟨stored, inserted, rest⟩ := Option.bind_eq_some_iff.mp ran
  rw [execute, MailStatement.execute] at inserted
  split_ifs at inserted
  obtain ⟨mailBox, accepted, rfl⟩ := Option.map_eq_some_iff.mp inserted
  refine ⟨mailBox, accepted, ?_⟩
  dsimp only at rest
  split_ifs at rest
  · cases rest
    rfl
  · cases rest
    rfl

/-- The row of the named cell leaves the bag with its mail. -/
theorem sum_delete_row {row : DBBagItem} {cellIndex : UInt16}
    (single : svc.bag.filter (MainSvc.Listed roleID [cellIndex]) = [row]) :
    ((svc.bag.filter fun row => ¬ MainSvc.Listed roleID [cellIndex] row).map
      DBBagItem.goods).sum + row.goods = (svc.bag.map DBBagItem.goods).sum :=
  sum_delete DBBagItem.goods single

theorem attachItem_conserves {recvRoleID : UInt32} {content : MailProgram.MailContent}
    {retCode : UInt32} (row : svc.roleMoney roleID = some balance)
    (careful : svc.Careful (.sendRoleMails roleID (some content)))
    (ran : (MailProgram.attachItem roleID recvRoleID content).run execute svc =
      some (next, retCode)) : svc.Conserves (.sendRoleMails roleID (some content)) next := by
  unfold MailProgram.attachItem at ran
  split_ifs at ran with attached
  · rw [MailProgram.dleteItemForEmail, Program.statement_bind, Program.run_statement] at ran
    simp only [execute, MailStatement.execute, Option.bind_some] at ran
    cases rows : svc.bag.filter (MainSvc.Listed roleID [content.cellIndex]) with
    | nil =>
        rw [rows] at ran
        cases ran
        exact .refl rfl
    | cons item others =>
        obtain ⟨single, small⟩ := careful (UInt16.pos_iff_ne_zero.mp attached) item (by simp [rows])
        rw [rows] at ran
        simp only [List.head?_cons, Program.statement_bind, Program.run_statement,
          Program.done_bind, execute, MailStatement.execute, Option.bind_some] at ran
        obtain ⟨mailBox, inserted, rfl⟩ := storeMail_run ran
        refine mailed_conserves row inserted rfl rfl ?_ _
        rw [DBMail.goods, toUInt32_toUInt16 small]
        exact sum_delete_row single
  · obtain ⟨mailBox, inserted, rfl⟩ := storeMail_run ran
    exact mailed_conserves row inserted rfl rfl (add_zero _) _

theorem checkMoney_conserves {recvRoleID : UInt32} {content : MailProgram.MailContent}
    {retCode : UInt32} (careful : svc.Careful (.sendRoleMails roleID (some content)))
    (ran : (MailProgram.checkMoney roleID recvRoleID content).run execute svc =
      some (next, retCode)) : svc.Conserves (.sendRoleMails roleID (some content)) next := by
  have unchanged {code : UInt32}
      (ran : (Program.done code : MailProgram UInt32).run execute svc = some (next, retCode)) :
      svc.Conserves (.sendRoleMails roleID (some content)) next := by
    cases ran
    exact .refl rfl
  simp only [MailProgram.checkMoney, Program.run_statement, execute, MailStatement.execute,
    Option.bind_some] at ran
  cases row : svc.roleMoney roleID with
  | none =>
      rw [row] at ran
      exact unchanged ran
  | some balance =>
      rw [row] at ran
      dsimp only at ran
      split_ifs at ran
      · exact unchanged ran
      · exact unchanged ran
      · rw [Program.run_statement, execute, MailStatement.execute, Option.bind_some] at ran
        split_ifs at ran
        · exact unchanged ran
        · exact attachItem_conserves row careful ran

theorem sendRoleMails_conserves {body : Option MailProgram.MailContent}
    (careful : svc.Careful (.sendRoleMails roleID body))
    (enabled : svc.step (.sendRoleMails roleID body) = some next) :
    svc.Conserves (.sendRoleMails roleID body) next := by
  obtain ⟨⟨after, retCode⟩, ran, rfl⟩ := Option.map_eq_some_iff.mp enabled
  have unchanged {code : UInt32}
      (ran : (Program.done code : MailProgram UInt32).run execute svc = some (after, retCode)) :
      svc.Conserves (.sendRoleMails roleID body) after := by
    cases ran
    exact .refl rfl
  cases body with
  | none => exact unchanged ran
  | some content =>
      simp only [MailRequest.program, MailProgram.processSendRoleMails, Program.run_statement,
        execute, MailStatement.execute, Option.bind_some] at ran
      cases receiver : svc.roleIDOf content.recvRoleName with
      | none =>
          rw [receiver] at ran
          exact unchanged ran
      | some recvRoleID =>
          rw [receiver] at ran
          simp only [Program.run_statement, execute, MailStatement.execute,
            Option.bind_some] at ran
          split_ifs at ran
          · exact unchanged ran
          · exact unchanged ran
          · exact unchanged ran
          · exact unchanged ran
          · exact unchanged ran
          · exact checkMoney_conserves careful ran

end Sending

section Deleting

variable {lmailID : List UInt32} {retCode : UInt32}

/-- These mails are deleted. -/
def Deleted (roleID : UInt32) (lmailID : List UInt32) (mail : DBMail) : Prop :=
  mail.mailID ∈ lmailID ∧ mail.roleID = roleID

instance (mail : DBMail) : Decidable (Deleted roleID lmailID mail) :=
  inferInstanceAs (Decidable (_ ∧ _))

theorem deleteMails_run (ran : (MailProgram.deleteMails roleID lmailID).run execute svc =
      some (next, retCode)) :
    ∃ mailBox, next = { svc with mailBox := mailBox } ∧
      mailBox.mails = svc.mailBox.mails.filter fun mail => ¬ Deleted roleID lmailID mail := by
  induction lmailID generalizing svc with
  | nil =>
      cases ran
      exact ⟨next.mailBox, rfl, by simp [Deleted]⟩
  | cons mailID lmailID ih =>
      rw [MailProgram.deleteMails, Program.run_statement, execute, MailStatement.execute,
        Option.bind_some] at ran
      obtain ⟨mailBox, rfl, mails⟩ := ih ran
      refine ⟨mailBox, rfl, mails.trans ?_⟩
      rw [MailBox.delete, List.filter_filter]
      apply List.filter_congr
      intro mail _
      rw [Bool.eq_iff_iff, Bool.and_eq_true, decide_eq_true_iff, decide_eq_true_iff,
        decide_eq_true_iff, ← not_or, not_iff_not, Deleted, Deleted, MailBox.Named,
        List.mem_cons, or_and_right, or_comm]

theorem deleteRoleMails_conserves {body : Option (List UInt32)}
    (enabled : svc.step (.deleteRoleMails roleID body) = some next) :
    svc.Conserves (.deleteRoleMails roleID body) next := by
  obtain ⟨⟨after, retCode⟩, ran, rfl⟩ := Option.map_eq_some_iff.mp enabled
  cases body with
  | none =>
      cases ran
      exact .refl rfl
  | some lmailID =>
      simp only [MailRequest.program, MailProgram.processDeleteRoleMails, Program.run_statement,
        execute, MailStatement.execute, Option.bind_some] at ran
      split_ifs at ran with owns
      · obtain ⟨mailBox, rfl, mails⟩ := deleteMails_run ran
        have split {Weight : Type} [AddCommMonoid Weight] (weight : DBMail → Weight) :
            (mailBox.mails.map weight).sum +
              ((svc.removed (.deleteRoleMails roleID (some lmailID))).map weight).sum =
              (svc.mailBox.mails.map weight).sum := by
          rw [mails, add_comm]
          exact List.sum_map_filter_add_sum_map_filter_not (Deleted roleID lmailID) weight _
        refine ⟨?_, ?_, ?_, ?_⟩
        · have sum := split DBMail.silver
          simp only [totalMoney]
          omega
        · have sum := split DBMail.gold
          simp only [totalGold]
          omega
        · simp only [totalGoods, add_assoc, split DBMail.goods]
        · intro mail member left stays same
          have stays : left ∈ mailBox.mails := stays
          rw [mails] at stays
          rw [MailBox.unique member (List.mem_of_mem_filter stays) same]
          exact .refl mail
      · cases ran
        apply Conserves.refl
        apply List.filter_eq_nil_iff.mpr
        intro mail member deleted
        apply owns
        apply List.any_eq_true.mpr
        exact ⟨mail, member, decide_eq_true (of_decide_eq_true deleted).2⟩

end Deleting

/-- A careful request conserves money and items. -/
theorem step_conserves {request : MailRequest} (careful : svc.Careful request)
    (enabled : svc.step request = some next) : svc.Conserves request next := by
  cases request with
  | sendRoleMails roleID body => exact sendRoleMails_conserves careful enabled
  | deleteRoleMails roleID body => exact deleteRoleMails_conserves enabled
  | attachToBag roleID mailID moveType => exact attachToBag_conserves careful enabled

/-- The mails that the requests of a history delete. -/
def allRemoved (history : History MailSvc MailRequest) : List DBMail :=
  history.flatMap fun entry => entry.1.removed entry.2

/-- The totals have changed by the deleted mails only, and every request has kept its attachments or
delivered them. -/
structure AllConserved (start : MailSvc) (history : History MailSvc MailRequest)
    (final : MailSvc) : Prop where
  money : final.totalMoney + ((allRemoved history).map DBMail.silver).sum = start.totalMoney
  gold : final.totalGold + ((allRemoved history).map DBMail.gold).sum = start.totalGold
  goods : final.totalGoods + ((allRemoved history).map DBMail.goods).sum = start.totalGoods
  left : ∀ entry ∈ history, ∀ next, entry.1.step entry.2 = some next →
    ∀ mail ∈ entry.1.mailBox.mails, ∀ left ∈ next.mailBox.mails, left.mailID = mail.mailID →
      entry.1.Left next mail left

/-- Careful requests conserve money and items over every run. -/
theorem run_conserved {start final : MailSvc} {history : History MailSvc MailRequest}
    (run : Run step Careful start history final) : AllConserved start history final := by
  apply run.historyInvariant (AllConserved start)
  · exact ⟨by simp [allRemoved], by simp [allRemoved], by simp [allRemoved], by simp⟩
  · intro history svc request next before careful enabled
    have step := step_conserves careful enabled
    have removed : allRemoved (history ++ [(svc, request)]) =
        allRemoved history ++ svc.removed request := by
      rw [allRemoved, List.flatMap_append, List.flatMap_singleton]
      rfl
    refine ⟨?_, ?_, ?_, ?_⟩
    · rw [removed, List.map_append, List.sum_append, add_comm (List.sum _), ← add_assoc, step.money,
        before.money]
    · rw [removed, List.map_append, List.sum_append, add_comm (List.sum _), ← add_assoc, step.gold,
        before.gold]
    · rw [removed, List.map_append, List.sum_append, add_comm (List.sum _), ← add_assoc, step.goods,
        before.goods]
    · intro entry member
      rcases List.mem_append.mp member with earlier | latest
      · exact before.left entry earlier
      · obtain rfl := List.mem_singleton.mp latest
        intro other same
        obtain rfl := Option.some.inj (enabled.symm.trans same)
        exact step.left

/-- A mail with money and an item waits for role one, whose bag holds these rows. -/
def waiting (bag : List DBBagItem) : MailSvc where
  mapRole _ := none
  bag := bag
  roleMoney roleID := if roleID = 1 ∨ roleID = 2 then some ⟨1000, 0⟩ else none
  bindStatus _ := none
  bindMoney _ := 1000
  mailBox := ⟨[⟨7, 1, 2, 30, 1, 2001, 5, 0⟩], by decide⟩
  lastMailID := 7
  roleIDOf _ := some 1
  roleName _ := some []
  itemType _ := some 1

/-- Role one claims both attachments, and role two sends another mail. -/
theorem run_conserved_claims : ∃ history final,
    Run step Careful (waiting []) history final ∧ final.bag.length = 1 ∧
      AllConserved (waiting []) history final := by
  obtain ⟨history, final, reached, bag⟩ := exists_run_of_replay step Careful (waiting [])
    [.attachToBag 1 7 1, .attachToBag 1 7 2, .sendRoleMails 2 (some ⟨[1], 2, [65], 50, 0, 0⟩)]
    (fun _ final => final.bag.length = 1) (by decide +kernel)
  exact ⟨history, final, reached, of_decide_eq_true bag, run_conserved reached⟩

/-- A bag with twenty-five rows is full. -/
def fullBag : List DBBagItem :=
  (List.range 25).map fun index => ⟨1, UInt16.ofNat (index + 1), 1, 1, 3001, 0, 1⟩

/-- The item of a claimed mail is lost when the bag is full. -/
theorem run_not_conserved :
    ¬ ∀ (start final : MailSvc) (history : History MailSvc MailRequest),
      Run step anyEvent start history final → AllConserved start history final := by
  intro claim
  have ready : ((waiting fullBag).step (.attachToBag 1 7 2)).map
      (fun next => (next.bag, next.mailBox.mails)) =
        some (fullBag, [⟨7, 1, 2, 30, 1, 0, 0, 0⟩]) := by decide +kernel
  obtain ⟨next, enabled, tables⟩ := Option.map_eq_some_iff.mp ready
  obtain ⟨bag, mails⟩ := Prod.mk.inj tables
  have run : Run step anyEvent (waiting fullBag) _ next := .snoc .nil trivial enabled
  have before : (⟨7, 1, 2, 30, 1, 2001, 5, 0⟩ : DBMail) ∈ (waiting fullBag).mailBox.mails :=
    List.mem_singleton_self _
  have after : (⟨7, 1, 2, 30, 1, 0, 0, 0⟩ : DBMail) ∈ next.mailBox.mails := by
    rw [mails]
    exact List.mem_singleton_self _
  have left := (claim _ _ _ run).left _ (List.mem_singleton_self _) next enabled _ before _ after
    rfl
  rcases left.item with ⟨itemID, -⟩ | ⟨-, row, -, received, -⟩
  · exact absurd itemID (by decide)
  · have length := congrArg List.length received
    rw [bag, List.length_append] at length
    exact absurd length (Nat.ne_of_lt (Nat.lt_succ_self fullBag.length))

end MailSvc

end AppSvr.MainServer
