/-
This file defines the mail messages as programs of SQL statements, and the sending of a mail in
which one statement fails. A statement is atomic, a failing one changes nothing, and nothing is
rolled back.
-/

import AppSvr.Construction.MainServer.BagSvc
import AppSvr.ToMathlib.Programs

namespace AppSvr.MainServer

open Programs

def mailMaxNum : Nat := 101
def perMailCost : UInt32 := 100
def maxMailContent : Nat := 600
def errorLackMonty : UInt32 := 2001
def errorMailFull : UInt32 := 2002
def errorItemNotFind : UInt32 := 2003

/-- A row of table `MailBox`. `money` keeps the bits of the signed column, as `%d` prints them. -/
structure DBMail where
  mailID : UInt32
  roleID : UInt32
  sendRoleID : UInt32
  money : UInt32
  moneyType : UInt8
  itemID : UInt32
  num : UInt32
  entityID : UInt32
  deriving DecidableEq, Repr

namespace DBMail

variable (mail : DBMail)

def clearMoney : DBMail := { mail with money := 0 }

theorem clearMoney_mailID : mail.clearMoney.mailID = mail.mailID := rfl

def clearItem : DBMail := { mail with itemID := 0, num := 0, entityID := 0 }

theorem clearItem_mailID : mail.clearItem.mailID = mail.mailID := rfl

end DBMail

/-- The table has at most one row for each `MailID`. -/
structure MailBox where
  mails : List DBMail
  distinct : (mails.map DBMail.mailID).Nodup

namespace MailBox

/-- The clause `where MailID = .. and RoleID = ..` selects this row. -/
def Named (mailID roleID : UInt32) (mail : DBMail) : Prop :=
  mail.mailID = mailID ∧ mail.roleID = roleID

instance (mailID roleID : UInt32) (mail : DBMail) : Decidable (Named mailID roleID mail) :=
  inferInstanceAs (Decidable (_ ∧ _))

def find (mailBox : MailBox) (mailID roleID : UInt32) : Option DBMail :=
  mailBox.mails.find? fun mail => Named mailID roleID mail

/-- A second row for a `MailID` is refused. -/
def insert (mailBox : MailBox) (mail : DBMail) : Option MailBox :=
  if fresh : mail.mailID ∈ mailBox.mails.map DBMail.mailID then none
  else some ⟨mailBox.mails ++ [mail], by
    rw [List.map_append]
    exact mailBox.distinct.append (List.nodup_singleton _)
      (List.disjoint_singleton.mpr fresh)⟩

def delete (mailBox : MailBox) (mailID roleID : UInt32) : MailBox where
  mails := mailBox.mails.filter fun mail => ¬ Named mailID roleID mail
  distinct := mailBox.distinct.sublist (List.filter_sublist.map _)

/-- No statement changes a key. -/
def update (mailBox : MailBox) (mailID roleID : UInt32) (change : DBMail → DBMail)
    (keeps : ∀ mail, (change mail).mailID = mail.mailID) : MailBox where
  mails := mailBox.mails.map fun mail => if Named mailID roleID mail then change mail else mail
  distinct := by
    have same : DBMail.mailID ∘
        (fun mail => if Named mailID roleID mail then change mail else mail) = DBMail.mailID := by
      funext mail
      by_cases named : Named mailID roleID mail
      · simp [named, keeps]
      · simp [named]
    rw [List.map_map, same]
    exact mailBox.distinct

end MailBox

/-- The mail service reads and writes the tables of the main server and these ones. `bindMoney` is
the other balance of table `RoleMoney`, `lastMailID` its last `MailID`, and `itemType` a column of
table `Item`. -/
structure MailSvc extends MainSvc where
  bindMoney : UInt32 → Int
  mailBox : MailBox
  lastMailID : UInt32
  roleIDOf : List UInt8 → Option UInt32
  roleName : UInt32 → Option (List UInt8)
  itemType : UInt32 → Option UInt16

/-- A content with a quote or a backslash would end its literal in the statement. -/
def Plain (content : List UInt8) : Prop := 39 ∉ content ∧ 92 ∉ content

instance (content : List UInt8) : Decidable (Plain content) :=
  inferInstanceAs (Decidable (_ ∧ _))

/-- These are the statements of the mail messages with the values that they print. -/
inductive MailStatement where
  | selectRoleID (roleName : List UInt8)
  | selectRoleName (roleID : UInt32)
  | selectRoleMoney (roleID : UInt32)
  | countMailBox (roleID : UInt32)
  | selectCell (roleID : UInt32) (cellIndex : UInt16)
  | deleteCell (roleID : UInt32) (cellIndex : UInt16)
  | insertMailBox (roleID sendRoleID money itemID num entityID : UInt32) (content : List UInt8)
  | selectEntity (entityID : UInt32)
  | chargeMail (roleID attachMoney : UInt32)
  | selectMailIDs (roleID : UInt32)
  | deleteMail (mailID roleID : UInt32)
  | selectMail (mailID roleID : UInt32)
  | addMoney (roleID num : UInt32)
  | addGold (roleID num : UInt32)
  | initMoneyAttach (mailID roleID : UInt32)
  | initItemAttach (mailID roleID : UInt32)
  | selectBag (roleID : UInt32)
  | selectItem (itemID : UInt32)
  | insertBag (row : DBBagItem)
  deriving DecidableEq, Repr

namespace MailSvc

/-- The statement `update RoleMoney set .. where RoleID=..` changes one row or none. -/
def updateMoney (svc : MailSvc) (roleID : UInt32) (money gold : Int) : MailSvc :=
  { svc with
    roleMoney := Function.update svc.roleMoney roleID ((svc.roleMoney roleID).map fun balance =>
      { money := balance.money + money, gold := balance.gold + gold }) }

/-- The fee is taken from the bound money. -/
def chargeMail (svc : MailSvc) (roleID attachMoney : UInt32) : MailSvc :=
  if (svc.roleMoney roleID).isSome then
    { svc.updateMoney roleID (-printed attachMoney) 0 with
      bindMoney := Function.update svc.bindMoney roleID (svc.bindMoney roleID - perMailCost.toNat) }
  else svc

/-- The key of a new mail follows the last one. Its money is silver. -/
def insertMail (svc : MailSvc) (roleID sendRoleID money itemID num entityID : UInt32) :
    Option MailSvc :=
  let mailID := svc.lastMailID + 1
  (svc.mailBox.insert ⟨mailID, roleID, sendRoleID, money, 1, itemID, num, entityID⟩).map
    fun mailBox => { svc with mailBox, lastMailID := mailID }

end MailSvc

/-- A statement that fails has no next state. The statements that only read leave the tables. -/
def MailStatement.execute (svc : MailSvc) : MailStatement → Option MailSvc
  | .deleteCell roleID cellIndex =>
      some { svc with bag := svc.bag.filter fun row => ¬ MainSvc.Listed roleID [cellIndex] row }
  | .insertMailBox roleID sendRoleID money itemID num entityID content =>
      if Plain content then svc.insertMail roleID sendRoleID money itemID num entityID else none
  | .chargeMail roleID attachMoney => some (svc.chargeMail roleID attachMoney)
  | .deleteMail mailID roleID => some { svc with mailBox := svc.mailBox.delete mailID roleID }
  | .addMoney roleID num => some (svc.updateMoney roleID (printed num) 0)
  | .addGold roleID num => some (svc.updateMoney roleID 0 (printed num))
  | .initMoneyAttach mailID roleID =>
      some { svc with
        mailBox := svc.mailBox.update mailID roleID DBMail.clearMoney DBMail.clearMoney_mailID }
  | .initItemAttach mailID roleID =>
      some { svc with
        mailBox := svc.mailBox.update mailID roleID DBMail.clearItem DBMail.clearItem_mailID }
  | .insertBag row => some { svc with bag := svc.bag ++ [row] }
  | .selectRoleID _ | .selectRoleName _ | .selectRoleMoney _ | .countMailBox _ | .selectCell _ _
  | .selectEntity _ | .selectMailIDs _ | .selectMail _ _ | .selectBag _ | .selectItem _ => some svc

abbrev MailProgram := Program MailStatement MailSvc

namespace MainSvc

/-- The loop looks for a gap in front of a row; its rows are not sorted. -/
def gapIndex : List UInt16 → UInt16 → UInt16 → UInt16 × UInt16
  | [], countIndex, _ => (0, countIndex)
  | countIndex :: rows, _, countInt =>
      if countInt < countIndex then (countInt, countIndex)
      else gapIndex rows countIndex (countIndex + 1)

/-- The result zero stands for a full bag; the row count is a sixteen-bit local. -/
def ifhascellIndex (svc : MainSvc) (roleID : UInt32) : UInt16 :=
  let topCellNum := svc.getRoleCellNum roleID
  let rows := (svc.selectBag roleID).map DBBagItem.cellIndex
  if topCellNum.toNat ≤ (UInt16.ofNat rows.length).toNat then 0
  else
    let (cellIndex, countIndex) := if rows = [] then (1, 0) else gapIndex rows 0 1
    if countIndex.toNat < topCellNum.toNat ∧ cellIndex = 0 then countIndex + 1 else cellIndex

end MainSvc

namespace MailProgram

variable (roleID : UInt32)

/-- The item of the cell with a sixteen-bit number, and its entity. -/
def dleteItemForEmail (cellIndex : UInt16) : MailProgram (Option (UInt32 × UInt16 × UInt32)) :=
  .statement (.selectCell roleID cellIndex) fun svc =>
    match (svc.bag.filter (MainSvc.Listed roleID [cellIndex])).head? with
    | none => .done none
    | some item =>
        .statement (.deleteCell roleID cellIndex) fun _ =>
          .done (some (item.itemID, item.num.toUInt16, item.entityID))

/-- The result is zero for a full bag and one otherwise. -/
def getItemFromEmail (roleID itemID : UInt32) (num : UInt16) (entityID : UInt32) :
    MailProgram Int :=
  .statement (.selectBag roleID) fun svc =>
    let cellIndex := svc.ifhascellIndex roleID
    if cellIndex = 0 then .done 0
    else
      .statement (.selectItem itemID) fun svc =>
        .statement (.insertBag ⟨roleID, cellIndex, 1, (svc.itemType itemID).getD 0, itemID,
            entityID, num.toUInt32⟩) fun _ =>
          if entityID ≠ 0 then .statement (.selectEntity entityID) fun _ => .done 1 else .done 1

def getmoney (roleID num : UInt32) : MailProgram Int :=
  .statement (.addMoney roleID num) fun _ => .done 1

def getGold (roleID num : UInt32) : MailProgram Int :=
  .statement (.addGold roleID num) fun _ => .done 1

def initMoneyAttach (mailID roleID : UInt32) : MailProgram UInt32 :=
  .statement (.initMoneyAttach mailID roleID) fun _ => .done 0

def initItemAttach (mailID roleID : UInt32) : MailProgram UInt32 :=
  .statement (.initItemAttach mailID roleID) fun _ => .done 0

/-- The money is credited by its type and then cleared. -/
def moveMoney (mail : DBMail) (mailID : UInt32) : MailProgram UInt32 :=
  if mail.moneyType = 1 then
    (getmoney roleID mail.money).bind fun iRet =>
      if iRet = 0 then .done errAppOp else initMoneyAttach mailID roleID
  else if mail.moneyType = 2 then
    (getGold roleID mail.money).bind fun iRet =>
      if iRet = 0 then .done errAppOp else initMoneyAttach mailID roleID
  else initMoneyAttach mailID roleID

/-- Only the result minus one keeps the item in the mail. -/
def moveItem (mail : DBMail) (mailID : UInt32) : MailProgram UInt32 :=
  if mail.itemID = 0 then .done errAppOp
  else
    (getItemFromEmail roleID mail.itemID mail.num.toUInt16 mail.entityID).bind fun iRet =>
      if iRet = -1 then .done errAppOp else initItemAttach mailID roleID

/-- Message 1504 moves an attachment to the bag. The serializer's error is not looked at. -/
def processAttachToBag (roleID mailID : UInt32) (moveType : UInt8) : MailProgram UInt32 :=
  .statement (.selectMail mailID roleID) fun svc =>
    match svc.mailBox.find mailID roleID with
    | none => .done errSystemDbNoRecord
    | some mail =>
        if moveType = 1 ∧ mail.money ≠ 0 then moveMoney roleID mail mailID
        else if moveType = 2 then moveItem roleID mail mailID
        else .done errAppData

/-- The body of message 1502. -/
structure MailContent where
  recvRoleName : List UInt8
  mailType : UInt8
  mailContent : List UInt8
  attachMoney : UInt32
  cellIndex : UInt16
  itemNum : UInt32
  deriving DecidableEq, Repr

/-- The mail is stored before it is paid. -/
def storeMail (roleID recvRoleID : UInt32) (content : MailContent)
    (itemID num entityID : UInt32) : MailProgram UInt32 :=
  .statement (.insertMailBox recvRoleID roleID content.attachMoney itemID num entityID
      content.mailContent) fun _ =>
    let pay : MailProgram UInt32 :=
      .statement (.chargeMail roleID content.attachMoney) fun _ => .done 0
    if itemID ≠ 0 then .statement (.selectEntity entityID) fun _ => pay else pay

/-- The item leaves the bag before the mail is stored. -/
def attachItem (roleID recvRoleID : UInt32) (content : MailContent) : MailProgram UInt32 :=
  if content.cellIndex > 0 then
    (dleteItemForEmail roleID content.cellIndex).bind fun
      | none => .done errorItemNotFind
      | some (itemID, num, entityID) =>
          storeMail roleID recvRoleID content itemID num.toUInt32 entityID
  else storeMail roleID recvRoleID content 0 0 0

/-- Both balances are read as unsigned numbers. -/
def checkMoney (roleID recvRoleID : UInt32) (content : MailContent) : MailProgram UInt32 :=
  .statement (.selectRoleMoney roleID) fun svc =>
    match svc.roleMoney roleID with
    | none => .done errAppData
    | some balance =>
        if content.attachMoney > UInt32.ofInt balance.money then .done errorLackMonty
        else if perMailCost > UInt32.ofInt (svc.bindMoney roleID) then .done errorLackMonty
        else
          .statement (.countMailBox recvRoleID) fun svc =>
            if mailMaxNum ≤ svc.mailBox.mails.countP (fun mail => mail.roleID = recvRoleID) then
              .done errorMailFull
            else attachItem roleID recvRoleID content

/-- Message 1502 sends a mail. -/
def processSendRoleMails (body : Option MailContent) : MailProgram UInt32 :=
  match body with
  | none => .done errSystemSerError
  | some content =>
      .statement (.selectRoleID content.recvRoleName) fun svc =>
        match svc.roleIDOf content.recvRoleName with
        | none => .done errSystemDbNoRecord
        | some recvRoleID =>
            .statement (.selectRoleName roleID) fun svc =>
              if svc.roleName roleID = none then .done errSystemDbNoRecord
              else if content.mailType ≠ 1 ∧ content.mailType ≠ 2 then .done errAppData
              else if content.mailType = 1 then .done errAppData
              else if content.mailContent = [] then .done errAppData
              else if content.mailContent.length > maxMailContent then .done errAppData
              else checkMoney roleID recvRoleID content

def deleteMails (roleID : UInt32) : List UInt32 → MailProgram UInt32
  | [] => .done 0
  | mailID :: lmailID =>
      .statement (.deleteMail mailID roleID) fun _ => deleteMails roleID lmailID

/-- Message 1503 deletes mails with their attachments. -/
def processDeleteRoleMails (body : Option (List UInt32)) : MailProgram UInt32 :=
  match body with
  | none => .done errSystemSerError
  | some lmailID =>
      .statement (.selectMailIDs roleID) fun svc =>
        if svc.mailBox.mails.any fun mail => mail.roleID = roleID then deleteMails roleID lmailID
        else .done errSystemDbNoRecord

end MailProgram

/-- The mail messages with their sender and their body. -/
inductive MailRequest where
  | sendRoleMails (roleID : UInt32) (body : Option MailProgram.MailContent)
  | deleteRoleMails (roleID : UInt32) (body : Option (List UInt32))
  | attachToBag (roleID mailID : UInt32) (moveType : UInt8)
  deriving DecidableEq, Repr

/-- The message type selects the handler. -/
def MailRequest.program : MailRequest → MailProgram UInt32
  | .sendRoleMails roleID body => .processSendRoleMails roleID body
  | .deleteRoleMails roleID body => .processDeleteRoleMails roleID body
  | .attachToBag roleID mailID moveType => .processAttachToBag roleID mailID moveType

namespace MailSvc

def execute (statement : MailStatement) (svc : MailSvc) : Option MailSvc := statement.execute svc

/-- Every request is processed to its end before the next one. -/
def step (svc : MailSvc) (request : MailRequest) : Option MailSvc :=
  (request.program.run execute svc).map Prod.fst

end MailSvc

/-- The worker threads process the requests at the same time. -/
abbrev MailPool := Pool MailRequest MailStatement MailSvc UInt32

def MailPool.step : MailPool → PoolEvent MailRequest → Option MailPool :=
  Pool.step MailRequest.program MailSvc.execute

/-- A request for a mail executes each of these statements at most once. -/
inductive SendStatement where
  | selectRoleID
  | selectRoleName
  | selectRoleMoney
  | countMailBox
  | selectCell
  | deleteCell
  | insertMailBox
  | selectEntity
  | updateRoleMoney
  deriving DecidableEq, Repr

namespace MailSvc

variable (fault : Option SendStatement) (svc : MailSvc) (roleID recvRoleID : UInt32)
  (content : MailProgram.MailContent)

/-- A statement that fails has no next state. -/
def executeUnder (step : SendStatement) (statement : MailStatement) : Option MailSvc :=
  if fault = some step then none else statement.execute svc

/-- A missing row and a failing statement are reported alike. -/
def dleteItemForEmailUnder (roleID : UInt32)
    (cellIndex : UInt16) : Option ((UInt32 × UInt16 × UInt32) × MailSvc) :=
  (svc.executeUnder fault .selectCell (.selectCell roleID cellIndex)).bind fun svc =>
    match (svc.bag.filter (MainSvc.Listed roleID [cellIndex])).head? with
    | none => none
    | some item =>
        (svc.executeUnder fault .deleteCell (.deleteCell roleID cellIndex)).map fun svc =>
          ((item.itemID, item.num.toUInt16, item.entityID), svc)

/-- The last statement pays for the mail. -/
def payMailUnder (roleID attachMoney : UInt32) : UInt32 × MailSvc :=
  match svc.executeUnder fault .updateRoleMoney (.chargeMail roleID attachMoney) with
  | none => (errAppOp, svc)
  | some after => (0, after)

/-- A missing entity is no error. -/
def storeMailUnder (itemID num entityID : UInt32) : UInt32 × MailSvc :=
  match svc.executeUnder fault .insertMailBox (.insertMailBox recvRoleID roleID
      content.attachMoney itemID num entityID content.mailContent) with
  | none => (errSystemDbError, svc)
  | some stored =>
      if itemID ≠ 0 then
        match stored.executeUnder fault .selectEntity (.selectEntity entityID) with
        | none => (errSystemDbError, stored)
        | some found => found.payMailUnder fault roleID content.attachMoney
      else stored.payMailUnder fault roleID content.attachMoney

def attachItemUnder : UInt32 × MailSvc :=
  if content.cellIndex > 0 then
    match svc.dleteItemForEmailUnder fault roleID content.cellIndex with
    | none => (errorItemNotFind, svc)
    | some ((itemID, num, entityID), after) =>
        after.storeMailUnder fault roleID recvRoleID content itemID num.toUInt32 entityID
  else svc.storeMailUnder fault roleID recvRoleID content 0 0 0

def checkMoneyUnder : UInt32 × MailSvc :=
  if fault = some .selectRoleMoney then (errAppData, svc)
  else
    match svc.roleMoney roleID with
    | none => (errAppData, svc)
    | some balance =>
        if content.attachMoney > UInt32.ofInt balance.money then (errorLackMonty, svc)
        else if perMailCost > UInt32.ofInt (svc.bindMoney roleID) then (errorLackMonty, svc)
        else if fault = some .countMailBox then (errSystemDbNoRecord, svc)
        else if mailMaxNum ≤ svc.mailBox.mails.countP (fun mail => mail.roleID = recvRoleID) then
          (errorMailFull, svc)
        else svc.attachItemUnder fault roleID recvRoleID content

/-- Message 1502 with a failing statement. -/
def processSendRoleMailsUnder (roleID : UInt32)
    (body : Option MailProgram.MailContent) : UInt32 × MailSvc :=
  match body with
  | none => (errSystemSerError, svc)
  | some content =>
      if fault = some .selectRoleID then (errSystemDbError, svc)
      else
        match svc.roleIDOf content.recvRoleName with
        | none => (errSystemDbNoRecord, svc)
        | some recvRoleID =>
            if fault = some .selectRoleName then (errSystemDbError, svc)
            else if svc.roleName roleID = none then (errSystemDbNoRecord, svc)
            else if content.mailType ≠ 1 ∧ content.mailType ≠ 2 then (errAppData, svc)
            else if content.mailType = 1 then (errAppData, svc)
            else if content.mailContent = [] then (errAppData, svc)
            else if content.mailContent.length > maxMailContent then (errAppData, svc)
            else svc.checkMoneyUnder fault roleID recvRoleID content

end MailSvc

end AppSvr.MainServer
