/-
This file proves when the use of a gift or of a composition scroll is atomic.
-/

import AppSvr.Proof.MainServer.GiftUse

namespace AppSvr.MainServer.BagSvc

open WeightedPrefix

variable {Other : Type*} {svc : BagSvc Other} {tables : ItemTables}
  {roleID itemID : UInt32} {items : List ItemList} {row : DBBagItem} {packet : BagPacket}

/-- The components of the composite that a scroll is a component of. -/
def components (tables : ItemTables) (itemID : UInt32) : List ItemList :=
  partItems (compositeOf tables itemID)

/-- The rows of an item that are deleted for the wanted items. -/
def lostRows (svc : BagSvc Other) (roleID : UInt32) (items : List ItemList) (itemID : UInt32) :
    List DBBagItem :=
  (svc.itemRows roleID itemID).filter (· ∈ svc.removedRows roleID items)

/-- The composite is put into the first gap of the rows that are left, if there is a free cell. -/
def composedUnits (tables : ItemTables) (svc : BagSvc Other) (roleID : UInt32) (used : DBBagItem)
    (itemID : UInt32) : Nat :=
  let cellIndex := (svc.withoutRows roleID
    (svc.removedRows roleID (components tables used.itemID))).ifhascellIndex roleID
  if cellIndex = 0 then 0 else deliveredUnits tables used (cellIndex = used.cellIndex) itemID 1

/-- A use takes one piece of the item, and a scroll takes the other components too. -/
def spentUnits (tables : ItemTables) (used : DBBagItem) (itemID : UInt32) : Nat :=
  if used.itemID = itemID then 1
  else if used.itemType = 3 then listedUnits (compositeOf tables used.itemID) itemID
  else 0

/-- A scroll gives one composite, and a gift gives its parts. -/
def gainedUnits (tables : ItemTables) (used : DBBagItem) (itemID : UInt32) : Nat :=
  if used.itemType = 3 then
    if (compositeOf tables used.itemID).head?.map PartRow.itemID = some itemID then 1 else 0
  else listedUnits (giftParts tables used.itemID) itemID

/-- The statements that delete the components fit into their buffers. -/
def StatementsFit (tables : ItemTables) (svc : BagSvc Other) (roleID : UInt32) (used : DBBagItem) :
    Prop :=
  UseAdmitted tables svc roleID used → used.itemType = 3 →
    compositeOf tables used.itemID ≠ [] → svc.TextsFit roleID (components tables used.itemID)

/-- A use is refused and the bag stays as it is, or it takes and gives everything. -/
def UsesAtomically [DecidableEq Other] (tables : ItemTables) (svc : BagSvc Other)
    (packet : BagPacket) (used : DBBagItem) : Prop :=
  let (code, next) := svc.process tables packet
  StatementsFit tables svc packet.roleID used ∧
    (code ≠ 0 ∧ next.bag = svc.bag ∨
      code = 0 ∧ ∀ itemID, next.held packet.roleID itemID + spentUnits tables used itemID =
        svc.held packet.roleID itemID + gainedUnits tables used itemID)

/-- A composition fails for a missing component. Else the deleted rows are just the components, with
the used row for the scroll, and the composite gets a cell that is not emptied afterwards. A
composite without a number comes too late for the components, so nothing may be deleted for it. -/
def ScrollFair (tables : ItemTables) (svc : BagSvc Other) (roleID : UInt32) (used : DBBagItem) :
    Prop :=
  let items := components tables used.itemID
  ∀ part ∈ (compositeOf tables used.itemID).head?,
    (∃ item ∈ items, ¬ svc.Available roleID item) ∨
      svc.NumbersFit roleID items ∧
        if part.itemID = 0 then ∀ item ∈ items, item.num = 0
        else
          (svc.lostRows roleID items used.itemID = [] ∨
            svc.lostRows roleID items used.itemID = [used] ∧ used.num = 1) ∧
          ∀ itemID, used.itemID ≠ itemID →
            (if part.itemID = itemID then composedUnits tables svc roleID used part.itemID else 0) +
                listedUnits (compositeOf tables used.itemID) itemID =
              weightOf rowUnits (svc.lostRows roleID items itemID) +
                if part.itemID = itemID then 1 else 0

/-- An admitted use is fair. -/
def UseFair (tables : ItemTables) (svc : BagSvc Other) (roleID : UInt32) (used : DBBagItem) :
    Prop :=
  UseAdmitted tables svc roleID used →
    if used.itemType = 3 then ScrollFair tables svc roleID used
    else GiftFair tables svc roleID used

section Scroll

/-- What is left and what is lost are what was there. -/
theorem held_composed (stocked : svc.Stocked roleID) (items : List ItemList) (itemID : UInt32) :
    (svc.withoutRows roleID (svc.removedRows roleID items)).held roleID itemID +
      weightOf rowUnits (svc.lostRows roleID items itemID) = svc.held roleID itemID := by
  have rows : svc.lostRows roleID items itemID = (svc.itemRows roleID itemID).filter fun row =>
      row.cellIndex ∈ (svc.removedRows roleID items).map DBBagItem.cellIndex := by
    refine List.filter_congr fun row own => ?_
    obtain ⟨inBag, key⟩ := List.mem_filter.mp own
    exact decide_eq_decide.mpr (cell_removed_iff stocked inBag (of_decide_eq_true key).1).symm
  rw [rows]
  exact held_withoutRows svc roleID (svc.removedRows roleID items) itemID

theorem mem_lostRows_iff (member : row ∈ svc.bag) (own : row.roleID = roleID) :
    row ∈ svc.lostRows roleID items row.itemID ↔ row ∈ svc.removedRows roleID items := by
  rw [lostRows, List.mem_filter, decide_eq_true_iff]
  exact and_iff_right (List.mem_filter.mpr ⟨member, decide_eq_true ⟨own, rfl⟩⟩)

/-- A use consumes a piece of the used row, unless the row is gone. -/
theorem weightOf_unitsAfter_composed (usable : svc.UsableBag roleID) (member : row ∈ svc.bag)
    (own : row.roleID = roleID) (items : List ItemList) :
    weightOf (unitsAfter roleID itemID row)
        (svc.withoutRows roleID (svc.removedRows roleID items)).bag +
      (if row.itemID = itemID ∧ row ∉ svc.removedRows roleID items then 1 else 0) =
      (svc.withoutRows roleID (svc.removedRows roleID items)).held roleID itemID := by
  obtain ⟨positive, -⟩ := usable.num row member own
  have only : svc.bag.filter (MainSvc.Listed roleID [row.cellIndex]) = [row] :=
    usable.only member own
  have removed := @cell_removed_iff Other svc roleID items usable.stocked row member own
  have left : (svc.withoutRows roleID (svc.removedRows roleID items)).bag.filter
      (MainSvc.Listed roleID [row.cellIndex]) = [row].filter fun row =>
        ¬ MainSvc.Listed roleID ((svc.removedRows roleID items).map DBBagItem.cellIndex) row := by
    rw [← only]
    exact List.filter_comm _ _ _
  rw [held_eq]
  by_cases gone : row ∈ svc.removedRows roleID items
  · rw [if_neg fun both => both.2 gone]
    refine weightOf_unitsAfter_gone (left.trans (List.filter_cons_of_neg ?_))
    simpa using ⟨own, removed.mpr gone⟩
  · rw [← weightOf_unitsAfter (left.trans (List.filter_cons_of_pos ?_)) positive
      (usable.single row member own)]
    · simp only [gone, not_false_eq_true, and_true]
    · simpa using fun listed => gone (removed.mp listed.2)

theorem rowUnits_pos (usable : svc.UsableBag roleID) (member : row ∈ svc.bag)
    (own : row.roleID = roleID) : 1 ≤ rowUnits row := by
  unfold rowUnits
  split_ifs
  · exact (usable.num row member own).1
  · exact le_refl 1

/-- The scroll is consumed once if none is deleted, or if just the used row with one piece is. -/
theorem lostRows_used_iff (usable : svc.UsableBag roleID) (member : row ∈ svc.bag)
    (own : row.roleID = roleID) (items : List ItemList) :
    weightOf rowUnits (svc.lostRows roleID items row.itemID) +
        (if row ∉ svc.removedRows roleID items then 1 else 0) = 1 ↔
      svc.lostRows roleID items row.itemID = [] ∨
        svc.lostRows roleID items row.itemID = [row] ∧ row.num = 1 := by
  simp only [← @mem_lostRows_iff Other svc roleID items row member own]
  have positive : ∀ other ∈ svc.lostRows roleID items row.itemID, 1 ≤ rowUnits other := by
    intro other lost
    obtain ⟨inBag, key⟩ := List.mem_filter.mp (List.mem_of_mem_filter lost)
    exact rowUnits_pos usable inBag (of_decide_eq_true key).1
  have one : rowUnits row = 1 ↔ row.num = 1 := by
    unfold rowUnits
    split_ifs with stack
    · exact UInt32.toNat_inj (a := row.num) (b := 1)
    · exact iff_of_true rfl (usable.single row member own stack)
  generalize svc.lostRows roleID items row.itemID = lost at positive ⊢
  match lost with
  | [] => simp
  | [other] =>
      have some := positive other List.mem_cons_self
      by_cases same : row = other
      · obtain rfl := same
        simp [one]
      · simp [same, Ne.symm same]
        omega
  | first :: second :: rest =>
      have some := positive first List.mem_cons_self
      have more := positive second (List.mem_cons_of_mem _ List.mem_cons_self)
      simp
      omega

/-- What a role holds after the composite is given and a piece of the scroll is consumed. -/
theorem getItem_held (usable : svc.UsableBag roleID) (member : row ∈ svc.bag)
    (own : row.roleID = roleID) (itemID counted : UInt32) :
    let items := components tables row.itemID
    (((svc.withoutRows roleID (svc.removedRows roleID items)).getItem tables roleID itemID
        [] 1).2.1.consumeUnit roleID row).held roleID counted +
        (if row.itemID = counted ∧ row ∉ svc.removedRows roleID items then 1 else 0) +
        weightOf rowUnits (svc.lostRows roleID items counted) =
      svc.held roleID counted +
        if itemID = counted then composedUnits tables svc roleID row itemID else 0 := by
  intro items
  obtain ⟨positive, -⟩ := usable.num row member own
  have lost := held_composed usable.stocked items counted
  have consumed :=
    @weightOf_unitsAfter_composed Other svc roleID counted row usable member own items
  have units : weightOf (unitsAfter roleID counted row)
        ((svc.withoutRows roleID (svc.removedRows roleID items)).getItem tables roleID itemID
          [] 1).2.1.bag =
      weightOf (unitsAfter roleID counted row)
          (svc.withoutRows roleID (svc.removedRows roleID items)).bag +
        if itemID = counted then composedUnits tables svc roleID row itemID else 0 := by
    unfold composedUnits
    dsimp only
    by_cases full : (svc.withoutRows roleID
        (svc.removedRows roleID items)).ifhascellIndex roleID = 0
    · rw [if_pos full, ite_self, getItem]
      dsimp only
      rw [if_pos full]
      rfl
    · have entity : svc.nextEntityID ≠ 0 := fun zero => by
        have keys := usable.keys.1
        rw [zero] at keys
        exact absurd keys (by decide)
      obtain ⟨rows, bag, -, -, -, added⟩ :=
        getItem_units tables itemID [] 1 full Iff.rfl entity positive
      rw [if_neg full, bag, weightOf_append, added]
  rw [held_consumeUnit _ _ _ positive, units]
  omega

/-- The use of a scroll keeps the sums exactly when the used row is the one that is deleted, or none
is, and each other item loses and gains what is listed. -/
theorem composition_iff (usable : svc.UsableBag roleID) (member : row ∈ svc.bag)
    (own : row.roleID = roleID) (scroll : row.itemType = 3) {part : PartRow}
    (first : part ∈ (compositeOf tables row.itemID).head?) :
    (∀ itemID, (((svc.withoutRows roleID
        (svc.removedRows roleID (components tables row.itemID))).getItem tables roleID
          part.itemID [] 1).2.1.consumeUnit roleID row).held roleID itemID +
          spentUnits tables row itemID =
        svc.held roleID itemID + gainedUnits tables row itemID) ↔
      (svc.lostRows roleID (components tables row.itemID) row.itemID = [] ∨
        svc.lostRows roleID (components tables row.itemID) row.itemID = [row] ∧ row.num = 1) ∧
      ∀ itemID, row.itemID ≠ itemID →
        (if part.itemID = itemID then composedUnits tables svc roleID row part.itemID else 0) +
            listedUnits (compositeOf tables row.itemID) itemID =
          weightOf rowUnits (svc.lostRows roleID (components tables row.itemID) itemID) +
            if part.itemID = itemID then 1 else 0 := by
  have composite : part.itemID ≠ row.itemID := by
    have listed := List.mem_of_mem_head? first
    unfold compositeOf at listed
    split at listed
    · exact (of_decide_eq_true (List.mem_filter.mp listed).2).1
    · simp at listed
  have held := fun counted =>
    @getItem_held Other svc tables roleID row usable member own part.itemID counted
  dsimp only at held
  have gained (itemID : UInt32) : gainedUnits tables row itemID =
      if part.itemID = itemID then 1 else 0 := by
    rw [gainedUnits, if_pos scroll, Option.mem_def.mp first]
    simp
  simp only [gained, ← lostRows_used_iff usable member own]
  have other (itemID : UInt32) (different : row.itemID ≠ itemID) : spentUnits tables row itemID =
      listedUnits (compositeOf tables row.itemID) itemID := by
    rw [spentUnits, if_neg different, if_pos scroll]
  constructor
  · intro sums
    refine ⟨?_, fun itemID different => ?_⟩
    · have before := held row.itemID
      have after := sums row.itemID
      rw [spentUnits, if_pos rfl] at after
      simp only [composite, if_false, true_and] at before after
      omega
    · have before := held itemID
      have after := sums itemID
      rw [other itemID different] at after
      simp only [different, if_false, false_and] at before
      omega
  · rintro ⟨used, each⟩ itemID
    have before := held itemID
    by_cases same : row.itemID = itemID
    · obtain rfl := same
      rw [spentUnits, if_pos rfl]
      simp only [composite, if_false, true_and] at before ⊢
      omega
    · have sum := each itemID same
      rw [other itemID same]
      simp only [same, if_false, false_and] at before
      omega

/-- Nothing is deleted when nothing is wanted. -/
theorem withoutRows_bag_iff (stocked : svc.Stocked roleID)
    (available : ∀ item ∈ items, svc.Available roleID item) :
    (svc.withoutRows roleID (svc.removedRows roleID items)).bag = svc.bag ↔
      ∀ item ∈ items, item.num = 0 := by
  change (svc.bag.filter _) = _ ↔ _
  rw [List.filter_eq_self]
  constructor
  · intro stays item wanted
    by_contra some
    have taken : svc.takenRows roleID item ≠ [] := by
      intro none
      have enough := (le_weightOf_reach_iff rowUnits item.num.toNat
        (svc.itemRows roleID item.itemID)).mpr (available item wanted).2
      rw [takenRows] at none
      rw [none, weightOf_nil, Nat.le_zero] at enough
      exact some (UInt16.toNat.inj enough)
    obtain ⟨row, member⟩ := List.exists_mem_of_ne_nil _ taken
    have removed : row ∈ svc.removedRows roleID items :=
      List.mem_flatMap.mpr ⟨item, wanted, member⟩
    obtain ⟨inBag, own⟩ := own_of_mem_removedRows removed
    exact of_decide_eq_true (stays row inBag) ⟨own, List.mem_map_of_mem removed⟩
  · intro none row inBag
    refine decide_eq_true fun listed => ?_
    have removed := (cell_removed_iff stocked inBag listed.1).mp listed.2
    obtain ⟨item, wanted, taken⟩ := List.mem_flatMap.mp removed
    rw [takenRows, none item wanted] at taken
    simp at taken

end Scroll

section Requests

variable [DecidableEq Other]

/-- The use of a gift only fails for a gift without parts. -/
theorem process_gift (usable : svc.UsableBag packet.roleID)
    (used : svc.usedRow packet.roleID packet.request = some row) (gift : row.itemType = 9)
    (admitted : UseAdmitted tables svc packet.roleID row) :
    svc.process tables packet =
      if giftParts tables row.itemID = [] then (errSystemDbNoRecord, svc)
      else (0, (svc.roleGetItem tables packet.roleID
        (partItems (giftParts tables row.itemID))).2.1.consumeUnit packet.roleID row) := by
  have opened : useGiftBag tables row.itemID = if giftParts tables row.itemID = [] then none
      else some (partItems (giftParts tables row.itemID)) := by
    rw [useGiftBag, ← giftParts.eq_1]
    cases giftParts tables row.itemID <;> rfl
  have none : errSystemDbNoRecord ≠ 0 := by decide
  rw [process_use_eq usable used (by rw [gift]; decide) admitted, gift, useItemExcludeEquip,
    if_neg (by decide), if_neg (by decide), if_pos rfl, opened]
  by_cases empty : giftParts tables row.itemID = []
  · rw [if_pos empty, if_pos empty]
    exact if_pos none
  · rw [if_neg empty, if_neg empty]
    rfl

theorem process_scroll_eq (usable : svc.UsableBag packet.roleID)
    (used : svc.usedRow packet.roleID packet.request = some row) (scroll : row.itemType = 3)
    (admitted : UseAdmitted tables svc packet.roleID row) :
    svc.process tables packet =
      let (itemID, svc) := svc.compiteUse tables packet.roleID row.itemID
      if itemID = 0 then (errSystemDbNoRecord, svc)
      else (0,
        (svc.getItem tables packet.roleID itemID [] 1).2.1.consumeUnit packet.roleID row) := by
  have none : errSystemDbNoRecord ≠ 0 := by decide
  rw [process_use_eq usable used (by rw [scroll]; decide) admitted, scroll, useItemExcludeEquip,
    if_neg (by decide), if_pos rfl]
  generalize svc.compiteUse tables packet.roleID row.itemID = result
  obtain ⟨itemID, composed⟩ := result
  by_cases failed : itemID = 0
  · simp [failed, none]
  · simp [failed]

/-- A scroll without a composite or with a missing component changes nothing. -/
theorem process_scroll_refused (usable : svc.UsableBag packet.roleID)
    (used : svc.usedRow packet.roleID packet.request = some row) (scroll : row.itemType = 3)
    (admitted : UseAdmitted tables svc packet.roleID row)
    (refused : compositeOf tables row.itemID = [] ∨
      ∃ item ∈ components tables row.itemID, ¬ svc.Available packet.roleID item) :
    svc.process tables packet = (errSystemDbNoRecord, svc) := by
  rw [process_scroll_eq usable used scroll admitted, compiteUse]
  unfold components partItems at refused
  cases parts : compositeOf tables row.itemID with
  | nil => rfl
  | cons part parts =>
      rw [parts] at refused
      dsimp only
      rw [dropItems_unavailable usable.stocked (refused.resolve_left (List.cons_ne_nil _ _))]
      rfl

/-- Else the components are deleted first. -/
theorem process_scroll_composed (usable : svc.UsableBag packet.roleID)
    (used : svc.usedRow packet.roleID packet.request = some row) (scroll : row.itemType = 3)
    (admitted : UseAdmitted tables svc packet.roleID row) {part : PartRow}
    (first : part ∈ (compositeOf tables row.itemID).head?)
    (available : ∀ item ∈ components tables row.itemID, svc.Available packet.roleID item) :
    let left := svc.withoutRows packet.roleID
      (svc.removedRows packet.roleID (components tables row.itemID))
    svc.process tables packet =
      if part.itemID = 0 then (errSystemDbNoRecord, left)
      else (0, (left.getItem tables packet.roleID part.itemID [] 1).2.1.consumeUnit
        packet.roleID row) := by
  rw [process_scroll_eq usable used scroll admitted, compiteUse]
  unfold components partItems at available ⊢
  cases parts : compositeOf tables row.itemID with
  | nil => simp [parts] at first
  | cons other parts =>
      rw [parts] at first available
      obtain rfl := Option.some.inj first
      dsimp only
      rw [dropItems_available usable.stocked available]
      rfl

end Requests

section Kinds

variable [DecidableEq Other]

theorem process_gift_atomic_iff (usable : svc.UsableBag packet.roleID)
    (used : svc.usedRow packet.roleID packet.request = some row) (gift : row.itemType = 9)
    (admitted : UseAdmitted tables svc packet.roleID row) :
    UsesAtomically tables svc packet row ↔ GiftFair tables svc packet.roleID row := by
  obtain ⟨member, own⟩ := mem_of_usedRow used
  have failed : errSystemDbNoRecord ≠ 0 := by decide
  have other : row.itemType ≠ 3 := by
    rw [gift]
    decide
  unfold UsesAtomically StatementsFit
  rw [process_gift usable used gift admitted]
  by_cases empty : giftParts tables row.itemID = []
  · rw [if_pos empty]
    simp [other, failed, GiftFair, empty, listedUnits]
  · rw [if_neg empty, ← giftFair_iff usable member own empty]
    simp [other, spentUnits, gainedUnits]

/-- A missing component leaves the texts empty and the bag as it is. -/
theorem process_scroll_missing_atomic (usable : svc.UsableBag packet.roleID)
    (used : svc.usedRow packet.roleID packet.request = some row) (scroll : row.itemType = 3)
    (admitted : UseAdmitted tables svc packet.roleID row)
    (missing : ∃ item ∈ components tables row.itemID, ¬ svc.Available packet.roleID item) :
    UsesAtomically tables svc packet row := by
  have failed : errSystemDbNoRecord ≠ 0 := by decide
  unfold UsesAtomically StatementsFit
  rw [process_scroll_refused usable used scroll admitted (.inr missing)]
  refine ⟨fun _ _ _ lic selected => ?_, .inl ⟨failed, rfl⟩⟩
  rw [(selectIfhasItems_spec usable.stocked _ 0 0 (by decide) []).2 missing] at selected
  cases selected

theorem process_scroll_atomic_iff (usable : svc.UsableBag packet.roleID)
    (used : svc.usedRow packet.roleID packet.request = some row) (scroll : row.itemType = 3)
    (admitted : UseAdmitted tables svc packet.roleID row) :
    UsesAtomically tables svc packet row ↔ ScrollFair tables svc packet.roleID row := by
  obtain ⟨member, own⟩ := mem_of_usedRow used
  have stocked := usable.stocked
  have failed : errSystemDbNoRecord ≠ 0 := by decide
  unfold ScrollFair
  dsimp only
  by_cases missing : ∃ item ∈ components tables row.itemID, ¬ svc.Available packet.roleID item
  · exact iff_of_true (process_scroll_missing_atomic usable used scroll admitted missing)
      fun _ _ => .inl missing
  unfold UsesAtomically StatementsFit
  cases first : (compositeOf tables row.itemID).head? with
  | none =>
      have empty := List.head?_eq_none_iff.mp first
      rw [process_scroll_refused usable used scroll admitted (.inl empty)]
      simp [empty, failed]
  | some part =>
      have nonempty : compositeOf tables row.itemID ≠ [] := by
        rintro empty
        simp [empty] at first
      have available : ∀ item ∈ components tables row.itemID,
          svc.Available packet.roleID item := by
        simpa only [not_exists, not_and, not_not] using missing
      simp only [admitted, scroll, nonempty, ne_eq, not_false_eq_true, true_implies,
        Option.mem_def, Option.some.injEq, forall_eq']
      rw [process_scroll_composed usable used scroll admitted first available,
        textsFit_iff stocked available, or_iff_right missing]
      refine and_congr_right fun _ => ?_
      by_cases zero : part.itemID = 0
      · rw [if_pos zero, if_pos zero, ← withoutRows_bag_iff stocked available]
        simp [failed]
      · rw [if_neg zero, if_neg zero,
          ← composition_iff usable member own scroll (Option.mem_def.mpr first)]
        simp

end Kinds

/-- The use of a gift or of a scroll is atomic exactly when it is not admitted, or when everything
that is listed is deleted and delivered. -/
theorem process_atomic_iff [DecidableEq Other] (usable : svc.UsableBag packet.roleID)
    (used : svc.usedRow packet.roleID packet.request = some row)
    (kind : row.itemType = 9 ∨ row.itemType = 3) :
    UsesAtomically tables svc packet row ↔ UseFair tables svc packet.roleID row := by
  by_cases admitted : UseAdmitted tables svc packet.roleID row
  · have fair : UseFair tables svc packet.roleID row ↔
        if row.itemType = 3 then ScrollFair tables svc packet.roleID row
        else GiftFair tables svc packet.roleID row :=
      imp_iff_right admitted
    rw [fair]
    rcases kind with gift | scroll
    · have other : row.itemType ≠ 3 := by
        rw [gift]
        decide
      rw [if_neg other]
      exact process_gift_atomic_iff usable used gift admitted
    · rw [if_pos scroll]
      exact process_scroll_atomic_iff usable used scroll admitted
  · refine iff_of_true ?_ fun wrong => absurd wrong admitted
    unfold UsesAtomically StatementsFit
    rw [process_use_refused used admitted]
    exact ⟨fun wrong => absurd wrong admitted, .inl ⟨by decide, rfl⟩⟩

/-- Gift 60 lists two potions 40, which can be stacked. -/
def giftTables : ItemTables where
  item itemID := if itemID = 40 then some { Item.null with itemType := 1, isStack := 1 } else none
  itemComposite := []
  giftItemBag := [⟨60, 40, 2⟩]
  itemBonus := []

/-- Role 7 has a bag of 25 cells with three gifts in each of these cells. -/
def giftBag (cells : List UInt16) : BagSvc Empty where
  mapRole _ := none
  bag := cells.map fun cell => ⟨7, cell, 0, 9, 60, 0, 3⟩
  roleMoney _ := ⟨0, 0, 0⟩
  equip := []
  bindStatus _ := none
  isVip _ := none
  nextEntityID := 1
  runes := .initial fun _ _ => 0
  issued := []

/-- The potions are put into the second cell. -/
theorem potions_useAtomically :
    UsesAtomically giftTables (giftBag [1]) ⟨7, 0, .useItem 1⟩ ⟨7, 1, 0, 9, 60, 0, 3⟩ := by
  have usable : (giftBag [1]).UsableBag 7 :=
    ⟨⟨by decide, by decide⟩, by decide, by decide, by decide, by decide, by decide⟩
  refine (process_atomic_iff usable (by decide) (.inl rfl)).mpr fun _ => ?_
  unfold GiftFair
  dsimp only
  rw [if_neg (show ¬ (9 : UInt16) = 3 by decide), if_pos (by decide)]
  intro itemID
  by_cases potion : itemID = 40
  · rw [potion]
    decide +kernel
  · have none : (giftParts giftTables 60).filter (fun part => part.partItemID = itemID) = [] := by
      simp [giftParts, giftTables, Ne.symm potion]
    rw [listedUnits, none]
    rfl

/-- A full bag has no cell for the potions, and a gift is consumed. -/
theorem fullBag_not_useAtomically :
    ¬ ∀ (tables : ItemTables) (svc : BagSvc Empty) (packet : BagPacket) (row : DBBagItem),
      svc.UsableBag packet.roleID → svc.usedRow packet.roleID packet.request = some row →
      (row.itemType = 9 ∨ row.itemType = 3) → UsesAtomically tables svc packet row := by
  intro claimed
  let cells := (List.range 25).map fun index => UInt16.ofNat (index + 1)
  have usable : (giftBag cells).UsableBag 7 :=
    ⟨⟨by decide, by decide⟩, by decide, by decide +kernel, by decide, by decide, by decide⟩
  rcases claimed giftTables (giftBag cells) ⟨7, 0, .useItem 1⟩ ⟨7, 1, 0, 9, 60, 0, 3⟩ usable
    (by decide) (.inl rfl) with ⟨_, ⟨refused, _⟩ | ⟨_, kept⟩⟩
  · exact refused (by decide +kernel)
  · exact absurd (kept 40) (by decide +kernel)

end AppSvr.MainServer.BagSvc
