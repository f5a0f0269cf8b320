/-
This file proves when a trade moves only unbound items that lie as their owners locked them.
-/

import AppSvr.Construction.MainServer.BagStatements
import AppSvr.Proof.MainServer.ItemExchange
import AppSvr.Proof.MainServer.TradeSteps
import AppSvr.ToMathlib.TransitionSystem

namespace AppSvr.MainServer.MainSvc
open TransitionSystem

/-- The row lies in a cell on the trade record of its owner. -/
def Offered (svc : MainSvc) (row : DBBagItem) : Prop :=
  row.cellIndex ∈ (svc.tradeInfo row.roleID).tradeCellIndex

instance (svc : MainSvc) (row : DBBagItem) : Decidable (svc.Offered row) :=
  inferInstanceAs (Decidable (_ ∈ _))

/-- The item in the row is bound to its owner. -/
def Bound (svc : MainSvc) (row : DBBagItem) : Prop := svc.bindStatus row.entityID = some 1

instance (svc : MainSvc) (row : DBBagItem) : Decidable (svc.Bound row) :=
  inferInstanceAs (Decidable (_ = _))

/-- No bound item is locked, and no statement writes to an offered cell or binds an item in it. -/
def KeepsOffers (svc : MainSvc) : MarketEvent → Prop
  | .message (.lockTrade roleID (some (id, _, _, lic))) => svc.Locks roleID id →
      ∀ row ∈ svc.bag, Listed roleID lic row → ¬ svc.Bound row
  | .message _ => True
  | .statement (.insertBag row) => ¬ svc.Offered row
  | .statement (.updateBag roleID cell set) =>
      ∀ row ∈ svc.bag, Selected roleID cell row → ¬ svc.Offered (set.apply row)
  | .statement (.insertEntity entityID bindStatus) =>
      bindStatus = 1 → ∀ row ∈ svc.bag, row.entityID = entityID → ¬ svc.Offered row
  | .statement (.bindEntity entityID) =>
      ∀ row ∈ svc.bag, row.entityID = entityID → ¬ svc.Offered row
  | .statement (.deleteBag _ _) | .statement (.deleteEntity _) => True

instance (svc : MainSvc) (event : MarketEvent) : Decidable (svc.KeepsOffers event) :=
  match event with
  | .message (.lockTrade _ (some _)) => inferInstanceAs (Decidable (_ → _))
  | .message (.lockTrade _ none) | .message (.requestTrade _ _) | .message (.answerTrade _ _)
  | .message (.itemPast _ _) | .message (.money _ _) | .message (.trade _)
  | .message (.cancelTrade _ _) => inferInstanceAs (Decidable True)
  | .statement (.insertBag _) => inferInstanceAs (Decidable (¬ _))
  | .statement (.updateBag _ _ _) => inferInstanceAs (Decidable (∀ row ∈ svc.bag, _))
  | .statement (.insertEntity _ _) => inferInstanceAs (Decidable (_ → _))
  | .statement (.bindEntity _) => inferInstanceAs (Decidable (∀ row ∈ svc.bag, _))
  | .statement (.deleteBag _ _) | .statement (.deleteEntity _) => inferInstanceAs (Decidable True)

/-- The owner locked the cell while it held the same item, and the cell stayed on its record. -/
def LockedAs (history : History MainSvc MarketEvent) (row : DBBagItem) : Prop :=
  ∃ earlier before later id money gold lic, history =
      earlier ++ (before, .message (.lockTrade row.roleID (some (id, money, gold, lic)))) :: later ∧
    before.Locks row.roleID id ∧ row.cellIndex ∈ lic ∧
    (∃ old ∈ before.bag,
      old.roleID = row.roleID ∧ old.cellIndex = row.cellIndex ∧ old.item = row.item) ∧
    ∀ entry ∈ later, entry.1.Offered row

/-- The row that the exchange moves to another role is not bound, and it lies as it was locked. -/
structure MovesLocked (history : History MainSvc MarketEvent) (svc : MainSvc)
    (row moved : DBBagItem) : Prop where
  inBag : row ∈ svc.bag
  item : row.item = moved.item
  different : row.roleID ≠ moved.roleID
  offered : svc.Offered row
  unbound : ¬ svc.Bound row
  locked : LockedAs history row

/-- A row that is new after the confirmation comes from the bag of the other role. -/
def TradesLocked (history : History MainSvc MarketEvent) (svc : MainSvc) (roleID : UInt32) :
    Prop :=
  ∀ moved, svc.bag.count moved < (svc.processTrade roleID).2.bag.count moved →
    ∃ row, MovesLocked history svc row moved

theorem LockedAs.snoc {history : History MainSvc MarketEvent} {row : DBBagItem}
    (locked : LockedAs history row) {svc : MainSvc} (offered : svc.Offered row)
    (event : MarketEvent) : LockedAs (history ++ [(svc, event)]) row := by
  obtain ⟨earlier, before, later, id, money, gold, lic, rfl, locks, listed, old, kept⟩ := locked
  refine ⟨earlier, before, later ++ [(svc, event)], id, money, gold, lic, by simp, locks, listed,
    old, fun entry member => ?_⟩
  rcases List.mem_append.mp member with past | last
  · exact kept entry past
  · obtain rfl := List.mem_singleton.mp last
    exact offered

section Exchange

variable (svc : MainSvc)

@[simp] theorem setTradeInfo_bindStatus (item : TradeItem) (roleID : UInt32) :
    (svc.setTradeInfo item roleID).2.bindStatus = svc.bindStatus := by
  unfold setTradeInfo
  split <;> rfl

@[simp] theorem initTradeItem_bindStatus (roleID : UInt32) :
    (svc.initTradeItem roleID).2.bindStatus = svc.bindStatus := by
  unfold initTradeItem
  dsimp only
  split <;> simp

@[simp] theorem tradeMoney_bindStatus (lic1 lic2 : TradeItem) :
    (svc.tradeMoney lic1 lic2).2.bindStatus = svc.bindStatus := by
  unfold tradeMoney
  dsimp only
  split <;> rfl

variable {svc}

/-- A deletion returns a listed row at most. -/
theorem deletefromBag_rows (roleID : UInt32) (cell : List UInt16) :
    (svc.deletefromBag roleID cell []).2.1.bag.Sublist svc.bag ∧
      ∀ row ∈ (svc.deletefromBag roleID cell []).2.2, row ∈ svc.bag ∧ Listed roleID cell row := by
  unfold deletefromBag
  split
  case h_1 => simp
  case h_2 first rest found =>
    refine ⟨List.filter_sublist, fun row member => ?_⟩
    obtain rfl : row = first := by simpa using member
    have listed : row ∈ svc.bag.filter (Listed roleID cell) := by simp [found]
    simpa using listed

/-- A row has been moved from one of the two bags to the other. -/
def HandedOver (svc : MainSvc) (roleID : UInt32) (cell : List UInt16) (toRoleID : UInt32)
    (moved : DBBagItem) : Prop :=
  ∃ row ∈ svc.bag, Listed roleID cell row ∧ row.item = moved.item ∧ moved.roleID = toRoleID

theorem handedOver_of_mem {rows : List DBBagItem} {roleID toRoleID : UInt32} {cell : List UInt16}
    (found : ∀ row ∈ rows, row ∈ svc.bag ∧ Listed roleID cell row) (cells : List UInt16)
    {moved : DBBagItem} (member : moved ∈ List.zipWith (DBBagItem.moveTo toRoleID) cells rows) :
    svc.HandedOver roleID cell toRoleID moved := by
  rw [← List.map_uncurry_zip_eq_zipWith] at member
  obtain ⟨⟨index, row⟩, pair, rfl⟩ := List.mem_map.mp member
  obtain ⟨inBag, listed⟩ := found row (List.of_mem_zip pair).2
  exact ⟨row, inBag, listed, rfl, rfl⟩

/-- A failed exchange deletes rows, and a finished one also moves rows. -/
theorem tradeItem_rows (roleID : UInt32) (cell : List UInt16) (toRoleID : UInt32)
    (cell1 : List UInt16) :
    ((svc.tradeItem roleID cell toRoleID cell1).1 = 0 ∨
          (svc.tradeItem roleID cell toRoleID cell1).1 = -1) ∧
        (svc.tradeItem roleID cell toRoleID cell1).2.bag.Sublist svc.bag ∨
      (svc.tradeItem roleID cell toRoleID cell1).1 = 1 ∧
        ∃ kept moved, (svc.tradeItem roleID cell toRoleID cell1).2.bag = kept ++ moved ∧
          kept.Sublist svc.bag ∧ ∀ row ∈ moved,
            svc.HandedOver roleID cell toRoleID row ∨ svc.HandedOver toRoleID cell1 roleID row := by
  have deleted (current : MainSvc) (size : UInt16) (owner : UInt32) (cells : List UInt16) :
      (if size ≠ 0 then current.deletefromBag owner cells []
        else (1, current, [])).2.1.bag.Sublist current.bag ∧
      ∀ row ∈ (if size ≠ 0 then current.deletefromBag owner cells []
        else (1, current, [])).2.2, row ∈ current.bag ∧ Listed owner cells row := by
    split
    · exact deletefromBag_rows owner cells
    · simp
  unfold tradeItem
  dsimp only
  split
  · exact .inl ⟨.inl rfl, .refl _⟩
  obtain ⟨first, given⟩ := deleted svc (UInt16.ofNat cell.length) roleID cell
  generalize (if UInt16.ofNat cell.length ≠ 0 then svc.deletefromBag roleID cell []
    else (1, svc, [])) = result at first given ⊢
  split
  · exact .inl ⟨.inr rfl, first⟩
  obtain ⟨second, received⟩ :=
    deleted result.2.1 (UInt16.ofNat cell1.length) toRoleID cell1
  generalize (if UInt16.ofNat cell1.length ≠ 0 then result.2.1.deletefromBag toRoleID cell1 []
    else (1, result.2.1, [])) = result2 at second received ⊢
  split
  · exact .inl ⟨.inr rfl, second.trans first⟩
  split
  · exact .inl ⟨.inr rfl, second.trans first⟩
  generalize (svc.ifhassomany toRoleID (UInt16.ofNat cell.length)).2 = lic2
  generalize (svc.ifhassomany roleID (UInt16.ofNat cell1.length)).2 = lic
  refine .inr ⟨rfl, result2.2.1.bag,
    List.zipWith (DBBagItem.moveTo toRoleID) lic2 result.2.2 ++
      List.zipWith (DBBagItem.moveTo roleID) lic result2.2.2, ?_, second.trans first, ?_⟩
  · rw [getAllToBag_bag, getAllToBag_bag, List.append_assoc]
  · intro row member
    rcases List.mem_append.mp member with moved | moved
    · exact .inl (handedOver_of_mem given _ moved)
    · refine .inr (handedOver_of_mem (fun row member => ?_) _ moved)
      obtain ⟨inBag, listed⟩ := received row member
      exact ⟨first.subset inBag, listed⟩

/-- The rows of an exchange between two roles move from one of them to the other. -/
structure Exchanges (svc next : MainSvc) (roleID desRoleID : UInt32) (kept moved : List DBBagItem) :
    Prop where
  info : next.tradeInfo = Function.update (Function.update svc.tradeInfo roleID .new) desRoleID .new
  bag : next.bag = kept ++ moved
  kept : kept.Sublist svc.bag
  moved : ∀ row ∈ moved,
    svc.HandedOver roleID (svc.tradeInfo roleID).tradeCellIndex desRoleID row ∨
      svc.HandedOver desRoleID (svc.tradeInfo desRoleID).tradeCellIndex roleID row

/-- The records are cleared exactly when the rows move. -/
theorem settleTrade_rows {roleID : UInt32} (desRoleID : UInt32) (online : ¬ svc.isOffline roleID) :
    ((svc.settleTrade roleID desRoleID).2.tradeInfo = svc.tradeInfo ∧
        (svc.settleTrade roleID desRoleID).2.bag.Sublist svc.bag) ∨
      ∃ kept moved,
        svc.Exchanges (svc.settleTrade roleID desRoleID).2 roleID desRoleID kept moved := by
  have items := tradeItem_onlyBag svc roleID (svc.tradeInfo roleID).tradeCellIndex desRoleID
    (svc.tradeInfo desRoleID).tradeCellIndex
  have rows := svc.tradeItem_rows roleID (svc.tradeInfo roleID).tradeCellIndex desRoleID
    (svc.tradeInfo desRoleID).tradeCellIndex
  unfold settleTrade
  dsimp only
  generalize svc.tradeItem roleID (svc.tradeInfo roleID).tradeCellIndex desRoleID
    (svc.tradeInfo desRoleID).tradeCellIndex = result at items rows ⊢
  rcases rows with ⟨failed, deleted⟩ | ⟨finished, kept, moved, bag, sub, handed⟩
  · refine .inl ?_
    rcases failed with full | failed
    · rw [if_pos full]
      exact ⟨tradeInfo_congr items.mapRole, deleted⟩
    · rw [if_neg (by omega), if_pos failed]
      exact ⟨tradeInfo_congr items.mapRole, deleted⟩
  · have paid := tradeMoney_mapRole result.2 (svc.tradeInfo roleID) (svc.tradeInfo desRoleID)
    have same := result.2.tradeMoney_bag (svc.tradeInfo roleID) (svc.tradeInfo desRoleID)
    rw [items.mapRole] at paid
    rw [bag] at same
    rw [if_neg (by omega), if_neg (by omega), if_neg (not_not.mpr (tradeMoney_success ..))]
    generalize (result.2.tradeMoney (svc.tradeInfo roleID) (svc.tradeInfo desRoleID)).2 = next
      at paid same ⊢
    obtain ⟨role, found⟩ := mapRole_of_online (mt (isOffline_congr paid roleID).mp online)
    have cleared := initTradeItem_both next roleID desRoleID
    rw [tradeInfo_congr paid] at cleared
    rw [if_neg (not_not.mpr (initTradeItem_of_some next roleID found))]
    have rows : ((next.initTradeItem roleID).2.initTradeItem desRoleID).2.bag = kept ++ moved := by
      rw [initTradeItem_bag, initTradeItem_bag, same]
    refine .inr ⟨kept, moved, ?_⟩
    split
    · exact ⟨cleared, rows, sub, handed⟩
    · exact ⟨cleared, rows, sub, handed⟩

theorem settleTrade_bindStatus (roleID desRoleID : UInt32) :
    (svc.settleTrade roleID desRoleID).2.bindStatus = svc.bindStatus := by
  have items := (tradeItem_onlyBag svc roleID (svc.tradeInfo roleID).tradeCellIndex desRoleID
    (svc.tradeInfo desRoleID).tradeCellIndex).bindStatus
  unfold settleTrade
  dsimp only
  split_ifs <;> simp [items]

/-- The rows of the bags and their binding are the same. -/
structure SameTables (svc next : MainSvc) : Prop where
  bag : next.bag = svc.bag
  bindStatus : next.bindStatus = svc.bindStatus

namespace SameTables

theorem refl (svc : MainSvc) : SameTables svc svc := ⟨rfl, rfl⟩

theorem trans {next last : MainSvc} (first : SameTables svc next) (second : SameTables next last) :
    SameTables svc last :=
  ⟨second.bag.trans first.bag, second.bindStatus.trans first.bindStatus⟩

/-- Both ways of a check keep the tables. -/
theorem check {refused : Prop} [Decidable refused] {first second : UInt32 × MainSvc}
    (refuses : SameTables svc first.2) (passes : SameTables svc second.2) :
    SameTables svc (if refused then first else second).2 := by
  split
  · exact refuses
  · exact passes

theorem setTradeInfo (svc : MainSvc) (item : TradeItem) (roleID : UInt32) :
    SameTables svc (svc.setTradeInfo item roleID).2 :=
  ⟨setTradeInfo_bag .., setTradeInfo_bindStatus ..⟩

theorem initTradeItem (svc : MainSvc) (roleID : UInt32) :
    SameTables svc (svc.initTradeItem roleID).2 :=
  ⟨initTradeItem_bag .., initTradeItem_bindStatus ..⟩

theorem acceptTrade (svc : MainSvc) (roleID id : UInt32) :
    SameTables svc (svc.acceptTrade roleID id).2 := by
  unfold MainSvc.acceptTrade
  dsimp only
  have first := setTradeInfo svc ((svc.tradeInfo id).engage roleID) id
  generalize (svc.setTradeInfo ((svc.tradeInfo id).engage roleID) id) = result at first ⊢
  have second (item : TradeItem) := first.trans (setTradeInfo result.2 item roleID)
  exact check (refl _) (check (check first (check (second _) (second _))) (refl _))

theorem answerTrade (svc : MainSvc) (roleID : UInt32) (body : Option (UInt32 × UInt8)) :
    SameTables svc (svc.processAnswerTrade roleID body).2 := by
  unfold processAnswerTrade
  split
  · exact refl _
  · exact check (refl _) (check (refl _) (check (refl _) (check (acceptTrade ..) (refl _))))

theorem lockTrade (svc : MainSvc) (roleID : UInt32)
    (body : Option (UInt32 × UInt32 × UInt32 × List UInt16)) :
    SameTables svc (svc.processLockTrade roleID body).2 := by
  unfold processLockTrade
  split
  · exact refl _
  · have locked (item : TradeItem) := setTradeInfo svc item roleID
    exact check (refl _) (check (refl _) (check (refl _) (check (locked _) (locked _))))

theorem cancelTrade (svc : MainSvc) (roleID : UInt32) (body : Option UInt32) :
    SameTables svc (svc.processCancelTrade roleID body).2 := by
  unfold processCancelTrade
  split
  · exact refl _
  · have first := initTradeItem svc roleID
    dsimp only
    generalize svc.initTradeItem roleID = result at first ⊢
    have second (desRoleID : UInt32) := first.trans (initTradeItem result.2 desRoleID)
    exact check (refl _) (check (refl _) (check first (check (second _) (second _))))

/-- A confirmation that reaches no exchange writes a record at most. -/
theorem trade {roleID : UInt32} (idle : ¬ svc.ReachesTradeItem roleID) :
    SameTables svc (svc.processTrade roleID).2 := by
  unfold processTrade
  dsimp only
  split_ifs with offline desOffline unlocked confirmed
  · exact refl _
  · exact refl _
  · exact refl _
  · obtain ⟨locked, desLocked⟩ := not_or.mp unlocked
    exact absurd ⟨⟨offline, desOffline, not_not.mp locked, not_not.mp desLocked⟩, confirmed⟩ idle
  · exact setTradeInfo ..
  · exact setTradeInfo ..

end SameTables

/-- Only an exchange writes the tables. -/
theorem onProcessPacket_tables (message : Message)
    (idle : ∀ roleID, message = .trade roleID → ¬ svc.ReachesTradeItem roleID) :
    SameTables svc (svc.onProcessPacket message).2 := by
  cases message with
  | requestTrade roleID body => exact .refl svc
  | answerTrade roleID body => exact .answerTrade svc roleID body
  | itemPast roleID body => exact .refl svc
  | lockTrade roleID body => exact .lockTrade svc roleID body
  | money roleID body => exact .refl svc
  | trade roleID => exact .trade (idle roleID rfl)
  | cancelTrade roleID body => exact .cancelTrade svc roleID body

/-- A message moves rows by a finished exchange or deletes rows at most. -/
theorem onProcessPacket_rows (svc : MainSvc) (message : Message) :
    (svc.onProcessPacket message).2.bindStatus = svc.bindStatus ∧
      ((svc.onProcessPacket message).2.bag.Sublist svc.bag ∨
        ∃ roleID kept moved, message = .trade roleID ∧ svc.BothLocked roleID ∧
          svc.Exchanges (svc.onProcessPacket message).2 roleID
            (svc.tradeInfo roleID).tradeRoleID kept moved) := by
  by_cases idle : ∀ roleID, message = .trade roleID → ¬ svc.ReachesTradeItem roleID
  · obtain ⟨bag, bindStatus⟩ := onProcessPacket_tables message idle
    exact ⟨bindStatus, .inl (bag ▸ .refl _)⟩
  · push Not at idle
    obtain ⟨roleID, rfl, reaches⟩ := idle
    have settled : svc.onProcessPacket (.trade roleID) =
        svc.settleTrade roleID (svc.tradeInfo roleID).tradeRoleID :=
      processTrade_of_reaches svc reaches
    rw [settled]
    refine ⟨settleTrade_bindStatus _ _, ?_⟩
    rcases settleTrade_rows (svc.tradeInfo roleID).tradeRoleID reaches.1.online with
      ⟨-, deleted⟩ | ⟨kept, moved, exchanges⟩
    · exact .inl deleted
    · exact .inr ⟨roleID, kept, moved, rfl, reaches.1, exchanges⟩

end Exchange

section Step

variable {history : History MainSvc MarketEvent} {svc next : MainSvc}

/-- The locked roles name others, and every offered row is unbound and lies as it was locked. -/
structure OffersKept (history : History MainSvc MarketEvent) (svc : MainSvc) : Prop where
  apart : ∀ roleID, (svc.tradeInfo roleID).isLockTrade = 1 →
    (svc.tradeInfo roleID).tradeRoleID ≠ roleID
  unbound : ∀ row ∈ svc.bag, svc.Offered row → ¬ svc.Bound row
  locked : ∀ row ∈ svc.bag, svc.Offered row → LockedAs history row

/-- Only a lock brings new cells onto a record. -/
theorem TradeEffect.offered {message : Message} {info : UInt32 → TradeItem}
    (effect : svc.TradeEffect message info) {row : DBBagItem}
    (offered : row.cellIndex ∈ (info row.roleID).tradeCellIndex) :
    svc.Offered row ∨ ∃ id money gold lic,
      message = .lockTrade row.roleID (some (id, money, gold, lic)) ∧ svc.Locks row.roleID id ∧
        row.cellIndex ∈ lic := by
  have cleared : TradeItem.new.tradeCellIndex = [] := rfl
  cases effect with
  | unchanged => exact .inl offered
  | accepted accepts =>
      refine .inl ?_
      simp only [Function.update_apply] at offered
      split_ifs at offered with same same'
      · rw [Offered, same]
        exact offered
      · rw [Offered, same']
        exact offered
      · exact offered
  | @locked roleID id money gold lic locks =>
      by_cases same : row.roleID = roleID
      · rw [same, Function.update_self] at offered
        rcases List.mem_append.mp offered with old | new
        · exact .inl (by rwa [Offered, same])
        · exact .inr ⟨id, money, gold, lic, by rw [same], by rwa [same], new⟩
      · rw [Function.update_of_ne same] at offered
        exact .inl offered
  | @confirmed roleID waits =>
      refine .inl ?_
      by_cases same : row.roleID = roleID
      · rw [same, Function.update_self] at offered
        rw [Offered, same]
        exact offered
      · rwa [Function.update_of_ne same] at offered
  | settled reaches =>
      simp only [Function.update_apply] at offered
      split_ifs at offered
      · rw [cleared] at offered
        cases offered
      · rw [cleared] at offered
        cases offered
      · exact .inl offered
  | cancelled desRoleID engaged =>
      simp only [Function.update_apply] at offered
      split_ifs at offered
      · rw [cleared] at offered
        cases offered
      · rw [cleared] at offered
        cases offered
      · exact .inl offered

/-- No record comes to name its own role. -/
theorem TradeEffect.apart {message : Message} {info : UInt32 → TradeItem}
    (effect : svc.TradeEffect message info)
    (apart : ∀ roleID, (svc.tradeInfo roleID).isLockTrade = 1 →
      (svc.tradeInfo roleID).tradeRoleID ≠ roleID)
    (role : UInt32) (locked : (info role).isLockTrade = 1) : (info role).tradeRoleID ≠ role := by
  have fresh : TradeItem.new.isLockTrade ≠ 1 := by decide
  cases effect with
  | unchanged => exact apart role locked
  | accepted accepts =>
      simp only [Function.update_apply] at locked ⊢
      split_ifs at locked ⊢ with same same'
      · rw [same]
        exact accepts.different
      · rw [same']
        exact accepts.different.symm
      · exact apart role locked
  | locked money gold lic locks =>
      simp only [Function.update_apply] at locked ⊢
      split_ifs at locked ⊢ with same
      · rw [same]
        exact locks.partner ▸ locks.different
      · exact apart role locked
  | confirmed waits =>
      simp only [Function.update_apply] at locked ⊢
      split_ifs at locked ⊢ with same
      · rw [same]
        exact apart _ waits.1.locked
      · exact apart role locked
  | settled reaches =>
      simp only [Function.update_apply] at locked ⊢
      split_ifs at locked ⊢
      · exact absurd locked fresh
      · exact absurd locked fresh
      · exact apart role locked
  | cancelled desRoleID engaged =>
      simp only [Function.update_apply] at locked ⊢
      split_ifs at locked ⊢
      · exact absurd locked fresh
      · exact absurd locked fresh
      · exact apart role locked

/-- A message that locks no bound item keeps the offers. -/
theorem OffersKept.message (kept : OffersKept history svc) {message : Message}
    (keeps : svc.KeepsOffers (.message message)) :
    OffersKept (history ++ [(svc, .message message)]) (svc.onProcessPacket message).2 := by
  have effect := onProcessPacket_effect svc message
  obtain ⟨bindStatus, rows⟩ := onProcessPacket_rows svc message
  generalize (svc.onProcessPacket message).2 = next at effect bindStatus rows ⊢
  have old {row : DBBagItem} (inBag : row ∈ svc.bag) (offered : next.Offered row) :
      ¬ svc.Bound row ∧ LockedAs (history ++ [(svc, .message message)]) row := by
    rcases effect.offered offered with before | ⟨id, money, gold, lic, rfl, locks, listed⟩
    · exact ⟨kept.unbound row inBag before, (kept.locked row inBag before).snoc before _⟩
    · exact ⟨keeps locks row inBag ⟨rfl, listed⟩, history, svc, [], id, money, gold, lic, rfl, locks,
        listed, ⟨row, inBag, rfl, rfl, rfl⟩, by simp⟩
  have still {row : DBBagItem} (inBag : row ∈ next.bag) (offered : next.Offered row) :
      row ∈ svc.bag := by
    rcases rows with deleted | ⟨roleID, kept, moved, rfl, both, exchanges⟩
    · exact deleted.subset inBag
    · rw [exchanges.bag] at inBag
      rcases List.mem_append.mp inBag with stays | moves
      · exact exchanges.kept.subset stays
      · -- the receiver of a moved row has a cleared record
        rw [Offered, exchanges.info] at offered
        have fresh : TradeItem.new.tradeCellIndex = [] := rfl
        rcases exchanges.moved row moves with ⟨-, -, -, -, receiver⟩ | ⟨-, -, -, -, receiver⟩
        · rw [receiver, Function.update_self, fresh] at offered
          cases offered
        · rw [receiver, Function.update_apply] at offered
          split_ifs at offered
          · rw [fresh] at offered
            cases offered
          · rw [Function.update_self, fresh] at offered
            cases offered
  refine ⟨effect.apart kept.apart, fun row inBag offered => ?_, fun row inBag offered => ?_⟩
  · rw [Bound, bindStatus]
    exact (old (still inBag offered) offered).1
  · exact (old (still inBag offered) offered).2

/-- A statement that leaves the offered cells alone keeps the offers. -/
theorem OffersKept.statement (kept : OffersKept history svc) {statement : BagStatement}
    (keeps : svc.KeepsOffers (.statement statement)) :
    OffersKept (history ++ [(svc, .statement statement)]) (svc.exceSQL statement) := by
  have info : (svc.exceSQL statement).tradeInfo = svc.tradeInfo := by
    cases statement <;> rfl
  have same {row : DBBagItem} (offered : (svc.exceSQL statement).Offered row) :
      svc.Offered row := by
    rwa [Offered, info] at offered
  have still {row : DBBagItem} (inBag : row ∈ (svc.exceSQL statement).bag)
      (offered : svc.Offered row) : row ∈ svc.bag := by
    cases statement with
    | insertBag new =>
        rcases List.mem_append.mp inBag with old | new
        · exact old
        · obtain rfl := List.mem_singleton.mp new
          exact absurd offered keeps
    | deleteBag roleID cells => exact List.mem_of_mem_filter inBag
    | updateBag roleID cell set =>
        obtain ⟨old, member, rfl⟩ := List.mem_map.mp inBag
        split_ifs at offered ⊢ with selected
        · exact absurd offered (keeps old member selected)
        · exact member
    | insertEntity entityID bindStatus => exact inBag
    | deleteEntity entityIDs => exact inBag
    | bindEntity entityID => exact inBag
  have unbound {row : DBBagItem} (inBag : row ∈ svc.bag) (offered : svc.Offered row) :
      ¬ (svc.exceSQL statement).Bound row := by
    have free := kept.unbound row inBag offered
    cases statement with
    | insertBag new => exact free
    | deleteBag roleID cells => exact free
    | updateBag roleID cell set => exact free
    | insertEntity entityID bindStatus =>
        simp only [Bound, exceSQL, Function.update_apply]
        split_ifs with same
        · intro bound
          exact keeps (Option.some.inj bound) row inBag same offered
        · exact free
    | deleteEntity entityIDs =>
        simp only [Bound, exceSQL]
        split_ifs
        · exact nofun
        · exact free
    | bindEntity entityID =>
        simp only [Bound, exceSQL, Function.update_apply]
        split_ifs with same
        · exact absurd offered (keeps row inBag same)
        · exact free
  refine ⟨?_, fun row inBag offered => ?_, fun row inBag offered => ?_⟩
  · rw [info]
    exact kept.apart
  · exact unbound (still inBag (same offered)) (same offered)
  · exact (kept.locked row (still inBag (same offered)) (same offered)).snoc (same offered) _

theorem OffersKept.step (kept : OffersKept history svc) {event : MarketEvent}
    (keeps : svc.KeepsOffers event) (enabled : svc.marketStep event = some next) :
    OffersKept (history ++ [(svc, event)]) next := by
  cases event with
  | message message =>
      obtain rfl := Option.some.inj enabled
      exact kept.message keeps
  | statement statement =>
      obtain rfl := Option.some.inj enabled
      exact kept.statement keeps

/-- Fresh records offer nothing. -/
theorem Start.offersKept (fresh : svc.Start) : OffersKept [] svc := by
  have clear (roleID : UInt32) : svc.tradeInfo roleID = .new := by
    rw [tradeInfo, processGetRolePtr]
    cases found : svc.mapRole roleID with
    | none => rfl
    | some role => exact (fresh roleID role found).2
  have nothing (row : DBBagItem) : ¬ svc.Offered row := by
    rw [Offered, clear]
    exact List.not_mem_nil
  refine ⟨fun roleID locked => ?_, fun row _ offered => ?_, fun row _ offered => ?_⟩
  · rw [clear] at locked
    exact absurd locked (by decide)
  · exact absurd offered (nothing row)
  · exact absurd offered (nothing row)

/-- A new row after an exchange is one that the exchange has moved. -/
theorem Exchanges.mem_moved {roleID desRoleID : UInt32} {kept moved : List DBBagItem}
    (exchanges : svc.Exchanges next roleID desRoleID kept moved) {row : DBBagItem}
    (new : svc.bag.count row < next.bag.count row) : row ∈ moved := by
  rw [exchanges.bag, List.count_append] at new
  have below := exchanges.kept.count_le row
  exact List.count_pos_iff.mp (by omega)

/-- The moved rows were offered, so they lie as they were locked. -/
theorem OffersKept.tradesLocked (kept : OffersKept history svc) (roleID : UInt32) :
    TradesLocked history svc roleID := by
  intro moved new
  rcases (onProcessPacket_rows svc (.trade roleID)).2 with
    deleted | ⟨role, stays, moves, same, both, exchanges⟩
  · exact absurd new (not_lt.mpr (deleted.count_le moved))
  obtain rfl : role = roleID := by
    injection same with same
    exact same.symm
  have apart := kept.apart role both.locked
  have found (owner receiver : UInt32) (different : owner ≠ receiver)
      (handed : svc.HandedOver owner (svc.tradeInfo owner).tradeCellIndex receiver moved) :
      ∃ row, MovesLocked history svc row moved := by
    obtain ⟨row, inBag, ⟨rfl, listed⟩, item, rfl⟩ := handed
    exact ⟨row, inBag, item, different, listed, kept.unbound row inBag listed,
      kept.locked row inBag listed⟩
  rcases exchanges.moved moved (exchanges.mem_moved new) with given | received
  · exact found _ _ apart.symm given
  · exact found _ _ apart received

end Step

/-- Every exchange moves unbound items that lie as their owners locked them, while no bound item is
locked and no statement writes to an offered cell or binds an item in it. -/
theorem trade_tradesLocked {start svc : MainSvc} (fresh : start.Start)
    {history : History MainSvc MarketEvent}
    (reached : Run MainSvc.marketStep KeepsOffers start history svc) (roleID : UInt32) :
    TradesLocked history svc roleID := by
  have kept : OffersKept history svc := reached.historyInvariant OffersKept fresh.offersKept
    fun _ _ _ _ kept keeps enabled => kept.step keeps enabled
  exact kept.tradesLocked roleID

/-- The first of two traders has one piece of equipment. -/
def equippedTrader (bindStatus : UInt8) : MainSvc :=
  { traders with
    bag := [⟨1, 5, 1, 2, 700, 9, 1⟩]
    bindStatus := fun entityID => if entityID = 9 then some bindStatus else none }

theorem equippedTrader_start (bindStatus : UInt8) : (equippedTrader bindStatus).Start :=
  traders_start

/-- The equipment is locked without a preview, and its owner confirms. -/
def lockEquipment : List MarketEvent :=
  [.message (.answerTrade 2 (some (1, 1))), .message (.lockTrade 1 (some (2, 0, 0, [5]))),
    .message (.lockTrade 2 (some (1, 0, 0, []))), .message (.trade 1)]

/-- The equipment arrives in the first free cell of the other role. -/
def arrivedEquipment : DBBagItem := ⟨2, 1, 1, 2, 700, 9, 1⟩

/-- An unbound piece of equipment is locked and moves with the second confirmation. -/
theorem trade_tradesLocked_unbound : ∃ history svc,
    Run MainSvc.marketStep KeepsOffers (equippedTrader 0) history svc ∧
      svc.bag.count arrivedEquipment < (svc.processTrade 2).2.bag.count arrivedEquipment ∧
      TradesLocked history svc 2 := by
  obtain ⟨history, svc, reached, moves⟩ := exists_run_of_replay MainSvc.marketStep KeepsOffers
    (equippedTrader 0) lockEquipment
    (fun _ svc => svc.bag.count arrivedEquipment <
      (svc.processTrade 2).2.bag.count arrivedEquipment) (by decide +kernel)
  have moves := of_decide_eq_true moves
  exact ⟨history, svc, reached, moves, trade_tradesLocked (equippedTrader_start 0) reached 2⟩

/-- A bound piece of equipment moves as well when it is locked without a preview. -/
theorem trade_not_tradesLocked :
    ¬ ∀ (start : MainSvc) (history : History MainSvc MarketEvent) (svc : MainSvc), start.Start →
      Run MainSvc.marketStep anyEvent start history svc →
        ∀ roleID, TradesLocked history svc roleID := by
  intro claim
  obtain ⟨history, svc, reached, moves⟩ := exists_run_of_replay MainSvc.marketStep anyEvent
    (equippedTrader 1) lockEquipment
    (fun _ svc => svc.bag.count arrivedEquipment <
        (svc.processTrade 2).2.bag.count arrivedEquipment ∧ ∀ row ∈ svc.bag, svc.Bound row)
    (by decide +kernel)
  obtain ⟨new, bound⟩ := of_decide_eq_true moves
  obtain ⟨row, locked⟩ :=
    claim _ history svc (equippedTrader_start 1) reached 2 arrivedEquipment new
  exact locked.unbound (bound row locked.inBag)

end AppSvr.MainServer.MainSvc
