/-
This file shows which lists fit the buffers of the statements that they are appended to.
-/

import AppSvr.Construction.MainServer.BagStatements

namespace AppSvr.MainServer

open SqlText

/-- The number of the decimal digits and signs of a list. -/
def listDigits (values : List Int) : Nat := (values.map fun value => (decimal value).length).sum

/-- The text and its final zero fit a buffer of this size. -/
def FitsBuffer (size : Nat) (pieces : List Piece) : Prop := (print pieces).length + 1 ≤ size

/-- The list of the statement is closed. -/
def Closed (pieces : List Piece) : Prop :=
  ∃ front, print pieces = front ++ ascii ");" ∨ print pieces = front ++ ascii "); "

def CellTexts.Safe (texts : CellTexts) : Prop :=
  FitsBuffer 256 texts.szCat ∧
    ∀ statement ∈ [texts.select, texts.delete], FitsBuffer 1024 statement ∧ Closed statement

section Lists

variable {between close : String} {values : List Int}

theorem print_text (format : String) (pieces : List Piece) :
    (print (text format :: pieces)).length = (ascii format).length + (print pieces).length := by
  rw [print_cons, List.length_append]
  rfl

theorem print_number (value : Int) (pieces : List Piece) :
    (print (.number value :: pieces)).length =
      (decimal value).length + (print pieces).length := by
  rw [print_cons, List.length_append]
  rfl

theorem print_tabs (count : Nat) (pieces : List Piece) :
    (print (tabs count :: pieces)).length = count + (print pieces).length := by
  rw [print_cons, List.length_append]
  exact congrArg (· + _) List.length_replicate

theorem listed_cons (value next : Int) :
    listed between close (value :: next :: values) =
      .number value :: text between :: listed between close (next :: values) := rfl

theorem listed_length (between close : String) (some : values ≠ []) :
    (print (listed between close values)).length + (ascii between).length =
      listDigits values + values.length * (ascii between).length + (ascii close).length := by
  induction values with
  | nil => exact absurd rfl some
  | cons value values ih =>
      cases values with
      | nil =>
          rw [listed, print_number, print_text, listDigits]
          simp [print]
          omega
      | cons next values =>
          have rest := ih (List.cons_ne_nil _ _)
          rw [listed_cons, print_number, print_text, listDigits, List.map_cons, List.sum_cons,
            ← listDigits, List.length_cons, Nat.succ_mul]
          omega

theorem listed_closes (between close : String) (some : values ≠ []) :
    ∃ front, print (listed between close values) = front ++ ascii close := by
  induction values with
  | nil => exact absurd rfl some
  | cons value values ih =>
      cases values with
      | nil =>
          refine ⟨decimal value, ?_⟩
          rw [listed, print_cons, print_cons]
          exact congrArg (decimal value ++ ·) (List.append_nil _)
      | cons next values =>
          obtain ⟨front, rest⟩ := ih (List.cons_ne_nil _ _)
          refine ⟨decimal value ++ (ascii between ++ front), ?_⟩
          rw [listed_cons, print_cons, print_cons, rest, List.append_assoc, List.append_assoc]
          rfl

/-- The front of a statement does not open the list again. -/
theorem Closed.append {pieces : List Piece} (closed : Closed pieces) (front : List Piece) :
    Closed (front ++ pieces) := by
  have joined : print (front ++ pieces) = print front ++ print pieces := List.flatMap_append
  obtain ⟨text, same | same⟩ := closed
  · exact ⟨print front ++ text, .inl (by rw [joined, same, List.append_assoc])⟩
  · exact ⟨print front ++ text, .inr (by rw [joined, same, List.append_assoc])⟩

end Lists

section Cells

variable {cell : List UInt16}

/-- The number of letters that the numbers of the cells take. -/
def cellDigits (cell : List UInt16) : Nat := listDigits (cell.map fun index => (index.toNat : Int))

theorem printed_length_le (value : UInt32) : (decimal (printed value)).length ≤ 11 :=
  decimal_int32_length_le value.toInt32

theorem szCat_length (some : cell ≠ []) (roleID : UInt32) :
    (print (deletefromBagTexts roleID cell).szCat).length =
      cellDigits cell + 2 * cell.length + 2 := by
  have values : (cell.map fun index => (index.toNat : Int)) ≠ [] := by simpa using some
  have list := listed_length ", " "); " values
  have between : (ascii ", ").length = 2 := by decide
  have close : (ascii "); ").length = 3 := by decide
  have space : (ascii " ").length = 1 := by decide
  rw [List.length_map, between, close, ← cellDigits] at list
  dsimp only [deletefromBagTexts]
  rw [print_text, space]
  omega

/-- The list decides, since the statements leave it enough room. -/
theorem deletefromBag_safe_iff (some : cell ≠ []) (roleID : UInt32) :
    (deletefromBagTexts roleID cell).Safe ↔ cellDigits cell + 2 * cell.length ≤ 253 := by
  have length := szCat_length some roleID
  have role := printed_length_le roleID
  have closed : Closed (deletefromBagTexts roleID cell).szCat := by
    have values : (cell.map fun index => (index.toNat : Int)) ≠ [] := by simpa using some
    obtain ⟨front, same⟩ := listed_closes ", " "); " values
    exact Closed.append ⟨front, .inr same⟩ [text " "]
  unfold CellTexts.Safe FitsBuffer
  rw [length]
  constructor
  · intro safe
    omega
  · intro short
    refine ⟨by omega, List.forall_mem_cons.mpr ⟨⟨?_, ?_⟩, List.forall_mem_singleton.mpr ⟨?_, ?_⟩⟩⟩
    · have first : (ascii
          "select RoleID,CellIndex ,CellType , ItemType ,ItemID,EntityID ,Num from Bag ").length =
          76 := by decide
      have second : (ascii "where RoleID=").length = 13 := by decide
      have third : (ascii " and CellIndex in(").length = 18 := by decide
      change (print (text _ :: text _ :: .number _ :: text _ ::
        (deletefromBagTexts roleID cell).szCat)).length + 1 ≤ 1024
      rw [print_text, print_text, print_number, print_text, length, first, second, third]
      omega
    · exact closed.append [_, _, _, _]
    · have first : (ascii "delete from Bag where RoleID=").length = 29 := by decide
      have second : (ascii " and CellIndex in(").length = 18 := by decide
      change (print (text _ :: .number _ :: text _ ::
        (deletefromBagTexts roleID cell).szCat)).length + 1 ≤ 1024
      rw [print_text, print_number, print_text, length, first, second]
      omega
    · exact closed.append [_, _, _]

end Cells

section Equipment

variable {entity : List UInt32}

/-- The number of letters that the numbers of the entities take. -/
def entityDigits (entity : List UInt32) : Nat := listDigits (entity.map printed)

theorem entities_length (some : entity ≠ []) :
    (print (listed "," ");" (entity.map printed))).length =
      entityDigits entity + entity.length + 1 := by
  have values : entity.map printed ≠ [] := by simpa using some
  have list := listed_length "," ");" values
  have between : (ascii ",").length = 1 := by decide
  have close : (ascii ");").length = 2 := by decide
  rw [List.length_map, between, close, ← entityDigits] at list
  omega

theorem entities_closed (some : entity ≠ []) (front : List Piece) :
    Closed (front ++ listed "," ");" (entity.map printed)) := by
  have values : entity.map printed ≠ [] := by simpa using some
  obtain ⟨text, same⟩ := listed_closes "," ");" values
  exact Closed.append ⟨text, .inl same⟩ front

/-- The select has the longer front. -/
theorem mixEquip_safe_iff (entity : List UInt32) (paid : Bool) :
    (∀ statement ∈ mixEquipTexts entity paid, FitsBuffer 1024 statement ∧ Closed statement) ↔
      entityDigits entity + entity.length ≤ 847 := by
  by_cases empty : entity = []
  · rw [mixEquipTexts, if_pos empty, empty]
    exact iff_of_true (List.forall_mem_nil _) (Nat.zero_le 847)
  have length := entities_length empty
  have select : FitsBuffer 1024 (selectMixEquipMoneyText entity) ↔
      entityDigits entity + entity.length ≤ 847 := by
    have first : (ascii <|
        "select Entity.Durability,Entity.ItemID ,Item.Durability,Item.MinLevel,Item.EquipPos "
      ).length = 84 := by decide
    have second : (ascii "from Entity left join Item ").length = 27 := by decide
    have third : (ascii "on Entity.ItemID=Item.ItemID where ").length = 35 := by decide
    have fourth : (ascii "EntityID in(").length = 12 := by decide
    rw [FitsBuffer, selectMixEquipMoneyText, print_text, print_text, print_tabs, print_text,
      print_tabs, print_text, length, first, second, third, fourth]
    omega
  have update : entityDigits entity + entity.length ≤ 847 →
      FitsBuffer 1024 (updateMixEquipText entity) := by
    intro short
    have first : (ascii <|
        "update  Entity set Durability=(select Durability from Item where ").length = 65 := by
      decide
    have second : (ascii "ItemID=Entity.ItemID) where EntityID in(").length = 40 := by decide
    rw [FitsBuffer, updateMixEquipText, print_text, print_text, length, first, second]
    omega
  rw [mixEquipTexts, if_neg empty]
  constructor
  · intro safe
    refine select.mp (safe _ ?_).1
    split_ifs
    · exact List.mem_cons_self
    · exact List.mem_singleton_self _
  · intro short statement member
    have closed := entities_closed empty
    have head : FitsBuffer 1024 (selectMixEquipMoneyText entity) ∧
        Closed (selectMixEquipMoneyText entity) :=
      ⟨select.mpr short, closed [_, _, _, _, _, _]⟩
    split_ifs at member
    · rcases List.mem_cons.mp member with rfl | member
      · exact head
      · obtain rfl := List.mem_singleton.mp member
        exact ⟨update short, closed [_, _]⟩
    · obtain rfl := List.mem_singleton.mp member
      exact head

end Equipment

namespace MainSvc

/-- The calls pass one of the two lists, and its sixteen-bit size is not zero. -/
theorem tradeItemCalls_cases {svc : MainSvc} {roleID toRoleID : UInt32} {cell cell1 : List UInt16}
    {call : UInt32 × List UInt16} (member : call ∈ svc.tradeItemCalls roleID cell toRoleID cell1) :
    (call = (roleID, cell) ∧ UInt16.ofNat cell.length ≠ 0) ∨
      (call = (toRoleID, cell1) ∧ UInt16.ofNat cell1.length ≠ 0) := by
  unfold tradeItemCalls at member
  dsimp only at member
  split_ifs at member <;> simp_all

theorem tradeItemCalls_full {svc : MainSvc} {roleID toRoleID : UInt32} {cell cell1 : List UInt16}
    {call : UInt32 × List UInt16} (member : call ∈ svc.tradeItemCalls roleID cell toRoleID cell1) :
    call.2 ≠ [] := by
  rcases tradeItemCalls_cases member with ⟨rfl, size⟩ | ⟨rfl, size⟩ <;>
    · rintro rfl
      exact size rfl

end MainSvc

/-- The statements fit while the numbers of their lists are few and short. -/
theorem statements_fit_iff (svc : MainSvc) (roleID : UInt32) (cell : List UInt16)
    (toRoleID : UInt32) (cell1 : List UInt16) (entity : List UInt32) (paid : Bool) :
    ((∀ call ∈ svc.tradeItemCalls roleID cell toRoleID cell1,
        (deletefromBagTexts call.1 call.2).Safe) ↔
      ∀ call ∈ svc.tradeItemCalls roleID cell toRoleID cell1,
        cellDigits call.2 + 2 * call.2.length ≤ 253) ∧
    ((∀ statement ∈ mixEquipTexts entity paid, FitsBuffer 1024 statement ∧ Closed statement) ↔
      entityDigits entity + entity.length ≤ 847) := by
  refine ⟨forall₂_congr fun call member => ?_, mixEquip_safe_iff entity paid⟩
  exact deletefromBag_safe_iff
    (MainSvc.tradeItemCalls_full member) call.1

section Examples

/-- Two roles with empty bags of seventy-five cells. -/
def largeBags : MainSvc where
  mapRole roleID :=
    if roleID = 7 ∨ roleID = 8 then some { Role.new with id := roleID, topCellNum := 75 } else none
  bag := []
  roleMoney := fun _ => none
  bindStatus := fun _ => none

/-- Forty cells of five digits are offered. -/
theorem statements_not_fit :
    ¬ ∀ (svc : MainSvc) (roleID : UInt32) (cell : List UInt16) (toRoleID : UInt32)
        (cell1 : List UInt16) (entity : List UInt32) (paid : Bool),
      (∀ call ∈ svc.tradeItemCalls roleID cell toRoleID cell1,
        (deletefromBagTexts call.1 call.2).Safe) ∧
      ∀ statement ∈ mixEquipTexts entity paid, FitsBuffer 1024 statement ∧ Closed statement := by
  intro fits
  have called : (7, List.replicate 40 65535) ∈
      largeBags.tradeItemCalls 7 (List.replicate 40 65535) 8 [] := by decide
  have safe := (fits largeBags 7 (List.replicate 40 65535) 8 [] [] true).1 _ called
  have short := (deletefromBag_safe_iff (by decide) 7).mp safe
  exact absurd short (by decide)

end Examples

end AppSvr.MainServer
