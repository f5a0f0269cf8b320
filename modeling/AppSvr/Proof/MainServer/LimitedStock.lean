/-
This file shows when concurrent purchases stay within the stock of an item.
-/

import AppSvr.Construction.MainServer.ShopSvc
import AppSvr.ToMathlib.KeyedRows
import Mathlib.Algebra.Order.Ring.Nat

namespace AppSvr.MainServer

open Programs TableSums TransitionSystem

section Stock

variable (svc : ShopSvc) (itemID num : UInt32)

theorem ShopSvc.updateSpecialItem_self : (svc.updateSpecialItem itemID num).specialItem itemID =
    (svc.specialItem itemID).map fun leftNum =>
      if leftNum > num then leftNum - num else leftNum :=
  Function.update_self itemID _ svc.specialItem

theorem ShopSvc.updateSpecialItem_of_ne {other : UInt32} (differs : other ≠ itemID) :
    (svc.updateSpecialItem itemID num).specialItem other = svc.specialItem other :=
  Function.update_of_ne differs _ svc.specialItem

end Stock

namespace ShopStatement

/-- A purchase that has seen enough stock runs these statements before it answers. -/
def delivers : ShopStatement → Bool
  | .selectGold _ | .dropGold _ _ | .selectItem _ | .selectBag _ | .selectCdTime _
  | .insertEntity _ _ | .insertBag _ | .onBagItemAddOrDelete _ _ => true
  | _ => false

/-- The stock is counted down. -/
def counts : ShopStatement → Bool
  | .updateSpecialItem _ _ => true
  | _ => false

/-- A purchase in front of these statements has seen enough stock and has not counted it down. -/
def reserves (statement : ShopStatement) : Bool :=
  statement.delivers || statement.counts || statement = .reply 0

/-- These statements follow behind the counter. -/
def settles : ShopStatement → Bool
  | .selectLeftNum _ | .updateItemSellCount _ _ _ => true
  | _ => false

/-- Only the counter changes the stock. -/
theorem execute_specialItem {statement : ShopStatement} {svc after : ShopSvc}
    (quiet : statement.counts = false) (executed : statement.execute svc = some after) :
    after.specialItem = svc.specialItem := by
  cases statement with
  | updateSpecialItem itemID num => cases quiet
  | _ =>
      cases executed
      rfl

end ShopStatement

namespace ShopProgram

section Stages

/-- The counter comes next. -/
inductive Counting (itemID num : UInt32) : ShopProgram UInt32 → Prop where
  | counts {rest : ShopSvc → ShopProgram UInt32}
      (settled : ∀ svc, (rest svc).Only fun statement => statement.settles = true) :
      Counting itemID num (.statement (.updateSpecialItem itemID num) rest)

/-- The purchase is refused. -/
inductive Refusing : ShopProgram UInt32 → Prop where
  | replies {retCode : UInt32} {rest : ShopSvc → ShopProgram UInt32} (refused : retCode ≠ 0)
      (ended : ∀ svc, (rest svc).head = none) : Refusing (.statement (.reply retCode) rest)

/-- The purchase has seen enough stock. -/
inductive Delivering (itemID num : UInt32) : ShopProgram UInt32 → Prop where
  | delivers {first : ShopStatement} {rest : ShopSvc → ShopProgram UInt32}
      (delivers : first.delivers = true) (later : ∀ svc, Delivering itemID num (rest svc)) :
      Delivering itemID num (.statement first rest)
  | answers {rest : ShopSvc → ShopProgram UInt32}
      (later : ∀ svc, Counting itemID num (rest svc)) :
      Delivering itemID num (.statement (.reply 0) rest)
  | refuses {program : ShopProgram UInt32} (refusing : Refusing program) :
      Delivering itemID num program

/-- The stock is looked at next. -/
inductive Checking (itemID num : UInt32) : ShopProgram UInt32 → Prop where
  | checks {rest : ShopSvc → ShopProgram UInt32}
      (later : ∀ svc, Refusing (rest svc) ∨ Delivering itemID num (rest svc) ∧
        ∃ leftNum, svc.specialItem itemID = some leftNum ∧ num ≤ leftNum) :
      Checking itemID num (.statement (.selectSpecialItem itemID) rest)

/-- A purchase looks at the price, then at the stock, delivers, and counts. -/
inductive Buying (itemID num : UInt32) : ShopProgram UInt32 → Prop where
  | price {type : UInt8} {rest : ShopSvc → ShopProgram UInt32}
      (later : ∀ svc, Refusing (rest svc) ∨ Checking itemID num (rest svc)) :
      Buying itemID num (.statement (.selectNowPrice itemID type) rest)
  | stock {program : ShopProgram UInt32} (checking : Checking itemID num program) :
      Buying itemID num program
  | goods {program : ShopProgram UInt32} (delivering : Delivering itemID num program) :
      Buying itemID num program
  | counter {program : ShopProgram UInt32} (counting : Counting itemID num program) :
      Buying itemID num program
  | settled {program : ShopProgram UInt32}
      (settled : program.Only fun statement => statement.settles = true) :
      Buying itemID num program

end Stages

section Programs

variable {Result : Type} (roleID itemID : UInt32) (num : UInt16)

theorem dropGold_only (price : UInt32) :
    (dropGold roleID price).Only fun statement => statement.delivers = true := by
  refine Program.Only.first rfl fun svc => ?_
  split_ifs
  · trivial
  · exact ⟨rfl, fun _ => trivial⟩

theorem ifhassomany_only :
    (ifhassomany roleID num).Only fun statement => statement.delivers = true := by
  unfold ifhassomany
  split_ifs
  · trivial
  · exact ⟨rfl, fun _ => trivial⟩

theorem insertBought_only (item : Item) (flag : UInt8) (cell : List UInt16) (numcell : UInt32) :
    (insertBought roleID itemID item flag num cell numcell).Only
      fun statement => statement.delivers = true := by
  induction cell generalizing numcell with
  | nil => exact ⟨rfl, fun _ => trivial⟩
  | cons index cell ih =>
      rw [insertBought]
      dsimp only
      split_ifs
      all_goals
        refine Program.Only.first rfl fun svc => ?_
        first
          | exact Program.Only.first rfl fun _ => ih _
          | exact ih _

theorem deliver_only :
    (deliver roleID itemID num).Only fun statement => statement.delivers = true := by
  refine Program.Only.first rfl fun svc => ?_
  cases svc.item itemID with
  | none => trivial
  | some item =>
      dsimp only
      split_ifs
      · trivial
      · apply (ifhassomany_only roleID num).bind
        intro room
        split_ifs
        · trivial
        · exact insertBought_only roleID itemID num item 0 room.2 1
      · apply (ifhassomany_only roleID num).bind
        intro room
        split_ifs
        · trivial
        · exact Program.Only.first rfl fun _ => insertBought_only _ _ _ _ _ _ _
      all_goals
        apply (ifhassomany_only roleID _).bind
        intro room
        split_ifs
        · trivial
        · exact Program.Only.first rfl fun _ => insertBought_only _ _ _ _ _ _ _

theorem payGold_only (price : UInt32) :
    (payGold roleID itemID num price).Only fun statement => statement.delivers = true := by
  apply (dropGold_only roleID _).bind
  intro iRet
  split_ifs
  · trivial
  · trivial
  · exact deliver_only roleID itemID num

end Programs

/-- The answer and what follows behind it. -/
def answer (itemID : UInt32) (num : UInt16) (retCode : UInt32) : ShopProgram UInt32 :=
  .statement (.reply retCode) fun _ =>
    if retCode ≠ 0 then .done retCode
    else
      (updateDBspecialItem itemID num.toUInt32).bind fun _ =>
        updateDBItemSellCount itemID 7 num.toUInt32

theorem answer_refusing (itemID : UInt32) (num : UInt16) {retCode : UInt32}
    (refused : retCode ≠ 0) : Refusing (answer itemID num retCode) := by
  apply Refusing.replies refused
  intro svc
  rw [if_pos refused]
  rfl

/-- What is delivered is answered and counted, unless it is refused. -/
theorem delivering_of_only {program : ShopProgram UInt32} (itemID : UInt32) (num : UInt16)
    (only : program.Only fun statement => statement.delivers = true) :
    Delivering itemID num.toUInt32 (program.bind (answer itemID num)) := by
  induction program with
  | done retCode =>
      by_cases zero : retCode = 0
      · subst zero
        apply Delivering.answers
        intro svc
        rw [if_neg (not_not.mpr rfl)]
        exact .counts fun _ => ⟨rfl, fun _ => ⟨rfl, fun _ => trivial⟩⟩
      · exact .refuses (answer_refusing itemID num zero)
  | statement first next ih =>
      exact .delivers only.1 fun svc => ih svc (only.2 svc)

/-- Every purchase begins at the price. -/
theorem processBuyItem_buying (roleID itemID : UInt32) (num : UInt16) :
    Buying itemID num.toUInt32 (processBuyItem roleID 7 itemID num) := by
  have begins : processBuyItem roleID 7 itemID num =
      (buyItem roleID 7 itemID num).bind (answer itemID num) := rfl
  rw [begins]
  apply Buying.price
  intro svc
  dsimp only
  cases svc.nowPrice itemID 7 with
  | none => exact Or.inl (answer_refusing itemID num (show errSystemDbNoRecord ≠ 0 by decide))
  | some price =>
      dsimp only
      rw [if_neg (by decide), if_pos rfl]
      right
      apply Checking.checks
      intro svc
      cases found : svc.specialItem itemID with
      | none =>
          left
          dsimp only
          rw [found]
          exact answer_refusing itemID num (show errSystemDbNoRecord ≠ 0 by decide)
      | some leftNum =>
          dsimp only
          rw [found]
          dsimp only
          split_ifs with few
          · exact Or.inl (answer_refusing itemID num (show errSystemDbNoRecord ≠ 0 by decide))
          · right
            exact ⟨delivering_of_only itemID num (payGold_only roleID itemID num price), leftNum,
              rfl, UInt32.not_lt.mp few⟩

section Effects

variable {itemID num : UInt32} {svc after : ShopSvc} {first : ShopStatement}
  {program : ShopProgram UInt32} {next : ShopSvc → ShopProgram UInt32}

/-- This is all that one statement of a purchase does to the stock and to its own stage. -/
inductive StockEffect (itemID num : UInt32) (svc : ShopSvc) :
    ShopStatement → ShopSvc → ShopProgram UInt32 → Prop where
  | wait {first : ShopStatement} {after : ShopSvc} {rest : ShopProgram UInt32}
      (same : after.specialItem = svc.specialItem) (silent : first ≠ .reply 0)
      (uncounted : first.counts = false) (later : rest.head.any ShopStatement.counts = false)
      (kept : rest.head.any ShopStatement.reserves = true → first.reserves = true) :
      StockEffect itemID num svc first after rest
  | check {rest : ShopProgram UInt32} {leftNum : UInt32}
      (row : svc.specialItem itemID = some leftNum) (enough : num ≤ leftNum)
      (later : rest.head.any ShopStatement.counts = false) :
      StockEffect itemID num svc (.selectSpecialItem itemID) svc rest
  | answer {rest : ShopProgram UInt32} (later : rest.head = some (.updateSpecialItem itemID num)) :
      StockEffect itemID num svc (.reply 0) svc rest
  | count {rest : ShopProgram UInt32}
      (later : rest.head.any ShopStatement.reserves = false) :
      StockEffect itemID num svc (.updateSpecialItem itemID num) (svc.updateSpecialItem itemID num)
        rest

/-- A statement that reserves nothing does not count. -/
theorem uncounted_of_unreserved {program : ShopProgram UInt32}
    (free : program.head.any ShopStatement.reserves = false) :
    program.head.any ShopStatement.counts = false := by
  cases head : program.head with
  | none => rfl
  | some first =>
      rw [head, Option.any_some, ShopStatement.reserves] at free
      rw [Option.any_some]
      simp only [Bool.or_eq_false_iff] at free
      exact free.1.2

theorem Refusing.free (refusing : Refusing program) :
    program.head.any ShopStatement.reserves = false := by
  cases refusing with
  | replies refused ended =>
      simp [ShopStatement.reserves, ShopStatement.delivers, ShopStatement.counts, refused]

theorem Checking.free (checking : Checking itemID num program) :
    program.head.any ShopStatement.reserves = false := by
  cases checking with
  | checks later => rfl

theorem Delivering.uncounted (delivering : Delivering itemID num program) :
    program.head.any ShopStatement.counts = false := by
  cases delivering with
  | @delivers first rest delivers later =>
      rw [Program.head_statement, Option.any_some]
      cases first with
      | updateSpecialItem itemID num => cases delivers
      | _ => rfl
  | answers later => rfl
  | refuses refusing => exact uncounted_of_unreserved refusing.free

theorem Counting.head (counting : Counting itemID num program) :
    program.head = some (.updateSpecialItem itemID num) := by
  cases counting with
  | counts settled => rfl

theorem free_of_settled
    (settled : program.Only fun statement => statement.settles = true) :
    program.head.any ShopStatement.reserves = false := by
  cases program with
  | done retCode => rfl
  | statement first next =>
      have settles := settled.1
      rw [Program.head_statement, Option.any_some]
      cases first with
      | selectLeftNum itemID => rfl
      | updateItemSellCount itemID type num => rfl
      | _ => cases settles

theorem free_of_ended (ended : program.head = none) :
    program.head.any ShopStatement.reserves = false := by
  rw [ended]
  rfl

/-- A refused purchase only answers. -/
theorem Refusing.effect (refusing : Refusing (.statement first next))
    (executed : first.execute svc = some after) :
    StockEffect itemID num svc first after (next svc) ∧ Buying itemID num (next svc) := by
  cases refusing with
  | replies refused ended =>
      cases executed
      have free := free_of_ended (ended svc)
      refine ⟨.wait rfl ?_ rfl (uncounted_of_unreserved free) ?_, ?_⟩
      · intro same
        cases same
        exact refused rfl
      · rw [free]
        intro never
        cases never
      · obtain ⟨result, done⟩ := Program.head_eq_none (ended svc)
        rw [done]
        exact .settled trivial

theorem Buying.effect (buying : Buying itemID num (.statement first next))
    (executed : first.execute svc = some after) :
    StockEffect itemID num svc first after (next svc) ∧ Buying itemID num (next svc) := by
  cases buying with
  | price later =>
      cases executed
      have free : (next svc).head.any ShopStatement.reserves = false :=
        (later svc).elim Refusing.free Checking.free
      refine ⟨.wait rfl (by simp) rfl (uncounted_of_unreserved free) ?_, ?_⟩
      · rw [free]
        intro never
        cases never
      · exact (later svc).elim (fun refusing => .goods (.refuses refusing)) .stock
  | stock checking =>
      cases checking with
      | checks later =>
          cases executed
          rcases later svc with refusing | ⟨delivering, leftNum, row, enough⟩
          · refine ⟨.wait rfl (by simp) rfl (uncounted_of_unreserved refusing.free) ?_,
              .goods (.refuses refusing)⟩
            rw [refusing.free]
            intro never
            cases never
          · exact ⟨.check row enough delivering.uncounted, .goods delivering⟩
  | goods delivering =>
      cases delivering with
      | delivers delivers later =>
          have uncounted : first.counts = false := by
            cases first with
            | updateSpecialItem itemID num => cases delivers
            | _ => rfl
          refine ⟨.wait (ShopStatement.execute_specialItem uncounted executed) ?_ uncounted
            (later svc).uncounted ?_, .goods (later svc)⟩
          · rintro rfl
            cases delivers
          · rw [ShopStatement.reserves, delivers]
            exact fun _ => rfl
      | answers later =>
          cases executed
          exact ⟨.answer (later svc).head, .counter (later svc)⟩
      | refuses refusing => exact refusing.effect executed
  | counter counting =>
      cases counting with
      | counts settled =>
          cases executed
          exact ⟨.count (free_of_settled (settled svc)), .settled (settled svc)⟩
  | settled settled =>
      have settles := settled.1
      have rest := settled.2 svc
      have free := free_of_settled rest
      refine ⟨.wait ?_ ?_ ?_ (uncounted_of_unreserved free) ?_, .settled rest⟩
      · apply ShopStatement.execute_specialItem _ executed
        cases first with
        | updateSpecialItem itemID num => cases settles
        | _ => rfl
      · rintro rfl
        cases settles
      · cases first with
        | updateSpecialItem itemID num => cases settles
        | _ => rfl
      · rw [free]
        intro never
        cases never

end Effects

end ShopProgram

/-- The pieces that a purchase has seen in stock and has not counted down. -/
def StockWorker.reserved (itemID : UInt32)
    (worker : Worker StockRequest ShopStatement ShopSvc UInt32) : Nat :=
  if worker.request.itemID = itemID ∧ worker.rest.head.any ShopStatement.reserves = true then
    worker.request.num.toNat
  else 0

/-- The pieces that are answered and not counted down. -/
def StockWorker.owed (itemID : UInt32)
    (worker : Worker StockRequest ShopStatement ShopSvc UInt32) : Nat :=
  if worker.request.itemID = itemID ∧ worker.rest.head.any ShopStatement.counts = true then
    worker.request.num.toNat
  else 0

/-- The pieces that the next statement of a purchase answers with zero. -/
def StockWorker.answers (itemID : UInt32)
    (worker : Worker StockRequest ShopStatement ShopSvc UInt32) : Nat :=
  if worker.request.itemID = itemID ∧ worker.rest.head = some (.reply 0) then
    worker.request.num.toNat
  else 0

namespace StockPool

abbrev StockHistory := History StockPool (PoolEvent StockRequest)

def reserved (pool : StockPool) (itemID : UInt32) : Nat :=
  (pool.workers.map (StockWorker.reserved itemID)).sum

def owed (pool : StockPool) (itemID : UInt32) : Nat :=
  (pool.workers.map (StockWorker.owed itemID)).sum

/-- The pieces that one event answers with zero. -/
def answered (itemID : UInt32) (pool : StockPool) : PoolEvent StockRequest → Nat
  | .request _ => 0
  | .execute index => (pool.workers[index]?).elim 0 (StockWorker.answers itemID)

/-- The sum of the pieces of an item in the purchases that were answered with zero. -/
def sold (history : StockHistory) (itemID : UInt32) : Nat :=
  (history.map fun entry => answered itemID entry.1 entry.2).sum

/-- The sold pieces never exceed the stock at the start, and when all purchases have finished, the
stock has gone down by the sold pieces. -/
def Accounted (start : StockPool) (history : StockHistory) (final : StockPool) : Prop :=
  ∀ itemID leftNum, start.state.specialItem itemID = some leftNum →
    sold history itemID ≤ leftNum.toNat ∧
    ((∀ worker ∈ final.workers, worker.rest.head = none) →
      ∃ rest, final.state.specialItem itemID = some rest ∧
        rest.toNat + sold history itemID = leftNum.toNat)

/-- A purchase that sees enough stock finds more than its own pieces and those that others have
seen. -/
def ChecksReserved (pool : StockPool) : PoolEvent StockRequest → Prop
  | .request _ => True
  | .execute index => ∀ worker, pool.workers[index]? = some worker →
      worker.rest.head = some (.selectSpecialItem worker.request.itemID) →
        ∀ leftNum, pool.state.specialItem worker.request.itemID = some leftNum →
          worker.request.num.toUInt32 ≤ leftNum → worker.request.num = 0 ∨
            pool.reserved worker.request.itemID + worker.request.num.toNat < leftNum.toNat

/-- The purchases keep to their stages, and the stock covers what they have seen. -/
structure Sound (start : ShopSvc) (history : StockHistory) (pool : StockPool) : Prop where
  buying : ∀ worker ∈ pool.workers,
    ShopProgram.Buying worker.request.itemID worker.request.num.toUInt32 worker.rest
  backed : ∀ itemID leftNum, pool.state.specialItem itemID = some leftNum →
    pool.reserved itemID = 0 ∨ pool.reserved itemID < leftNum.toNat
  counted : ∀ itemID leftNum, start.specialItem itemID = some leftNum →
    ∃ rest, pool.state.specialItem itemID = some rest ∧
      rest.toNat + sold history itemID = leftNum.toNat + pool.owed itemID

section Steps

variable {start : ShopSvc} {history : StockHistory} {pool next : StockPool}

theorem sold_snoc (event : PoolEvent StockRequest) (itemID : UInt32) :
    sold (history ++ [(pool, event)]) itemID = sold history itemID + answered itemID pool event := by
  simp [sold]

theorem request_sound (sound : Sound start history pool) (request : StockRequest) :
    Sound start (history ++ [(pool, .request request)])
      ⟨pool.state, pool.workers ++ [⟨request, request.program⟩]⟩ := by
  have idle (itemID : UInt32) :
      StockWorker.reserved itemID ⟨request, request.program⟩ = 0 ∧
        StockWorker.owed itemID ⟨request, request.program⟩ = 0 := by
    constructor <;> exact if_neg fun both => Bool.noConfusion both.2
  constructor
  · intro worker member
    rcases List.mem_append.mp member with old | new
    · exact sound.buying worker old
    · obtain rfl := List.mem_singleton.mp new
      exact ShopProgram.processBuyItem_buying request.roleID request.itemID request.num
  · intro itemID leftNum row
    have same : reserved ⟨pool.state, pool.workers ++ [⟨request, request.program⟩]⟩ itemID =
        pool.reserved itemID := by
      simp [reserved, (idle itemID).1]
    rw [same]
    exact sound.backed itemID leftNum row
  · intro itemID leftNum row
    have same : owed ⟨pool.state, pool.workers ++ [⟨request, request.program⟩]⟩ itemID =
        pool.owed itemID := by
      simp [owed, (idle itemID).2]
    rw [sold_snoc, same]
    exact sound.counted itemID leftNum row

/-- What a step does to the sums of one item, and to its stock. -/
structure ItemStep (pool next : StockPool) (itemID : UInt32) (answers : Nat) : Prop where
  row : ∀ leftNum, pool.state.specialItem itemID = some leftNum →
    ∃ rest, next.state.specialItem itemID = some rest ∧
      rest.toNat + answers + pool.owed itemID = leftNum.toNat + next.owed itemID ∧
        (next.reserved itemID = 0 ∨ next.reserved itemID < rest.toNat)
  missing : pool.state.specialItem itemID = none → next.state.specialItem itemID = none

/-- The counter of a covered purchase goes down by its number. -/
theorem count_down {leftNum : UInt32} {num : UInt16}
    (covered : num = 0 ∨ num.toNat < leftNum.toNat) :
    (if leftNum > num.toUInt32 then leftNum - num.toUInt32 else leftNum).toNat + num.toNat =
      leftNum.toNat := by
  have value : num.toUInt32.toNat = num.toNat := rfl
  rcases covered with rfl | less
  · split_ifs
    · rw [UInt32.toNat_sub_of_le _ _ (UInt32.le_iff_toNat_le.mpr (Nat.zero_le _))]
      simp
    · rfl
  · have more : leftNum > num.toUInt32 := UInt32.lt_iff_toNat_lt.mpr less
    rw [if_pos more, UInt32.toNat_sub_of_le _ _ (UInt32.le_of_lt more), value]
    omega

/-- A step that does not count keeps the stock, which still covers what is reserved. -/
theorem ItemStep.of_uncounted {itemID : UInt32} {answers : Nat}
    (same : next.state.specialItem itemID = pool.state.specialItem itemID)
    (owes : next.owed itemID = pool.owed itemID + answers)
    (covers : ∀ leftNum, pool.state.specialItem itemID = some leftNum →
      next.reserved itemID = 0 ∨ next.reserved itemID < leftNum.toNat) :
    ItemStep pool next itemID answers where
  row leftNum row := ⟨leftNum, same.trans row, by omega, covers leftNum row⟩
  missing missing := same.trans missing

/-- A count takes its pieces from the stock and from what is owed. -/
theorem ItemStep.of_counted {itemID : UInt32} {num : UInt16}
    (state : next.state = pool.state.updateSpecialItem itemID num.toUInt32)
    (owes : next.owed itemID + num.toNat = pool.owed itemID)
    (reserves : next.reserved itemID + num.toNat = pool.reserved itemID)
    (covers : ∀ leftNum, pool.state.specialItem itemID = some leftNum →
      pool.reserved itemID = 0 ∨ pool.reserved itemID < leftNum.toNat) :
    ItemStep pool next itemID 0 := by
  constructor
  · intro leftNum row
    have covered := covers leftNum row
    have enough : num = 0 ∨ num.toNat < leftNum.toNat := by
      rcases covered with none_ | more
      · left
        have zero : num.toNat = 0 := by omega
        exact UInt16.toNat_inj.mp zero
      · right
        omega
    have down := count_down enough
    refine ⟨if leftNum > num.toUInt32 then leftNum - num.toUInt32 else leftNum, ?_, ?_, ?_⟩
    · rw [state, ShopSvc.updateSpecialItem_self, row]
      rfl
    · omega
    · omega
  · intro missing
    rw [state, ShopSvc.updateSpecialItem_self, missing]
    rfl

theorem execute_itemStep (sound : Sound start history pool) {index : Nat}
    (checked : pool.ChecksReserved (.execute index))
    {worker : Worker StockRequest ShopStatement ShopSvc UInt32} {first : ShopStatement}
    {rest : ShopSvc → ShopProgram UInt32} {after : ShopSvc}
    (found : pool.workers[index]? = some worker) (running : worker.rest = .statement first rest)
    (effect : ShopProgram.StockEffect worker.request.itemID worker.request.num.toUInt32 pool.state
      first after (rest pool.state)) (itemID : UInt32) :
    ItemStep pool ⟨after, pool.workers.set index { worker with rest := rest pool.state }⟩ itemID
      (StockWorker.answers itemID worker) := by
  have reserves := sum_map_set (StockWorker.reserved itemID) found
    { worker with rest := rest pool.state }
  have owes := sum_map_set (StockWorker.owed itemID) found { worker with rest := rest pool.state }
  change reserved ⟨after, pool.workers.set index { worker with rest := rest pool.state }⟩ itemID +
    _ = pool.reserved itemID + _ at reserves
  change owed ⟨after, pool.workers.set index { worker with rest := rest pool.state }⟩ itemID +
    _ = pool.owed itemID + _ at owes
  have head : worker.rest.head = some first := by
    rw [running]
    rfl
  have covers := sound.backed itemID
  rw [StockWorker.reserved, StockWorker.reserved, head, Option.any_some] at reserves
  rw [StockWorker.owed, StockWorker.owed, head, Option.any_some] at owes
  rw [StockWorker.answers, head]
  by_cases own : worker.request.itemID = itemID
  · subst own
    simp only [true_and] at reserves owes ⊢
    cases effect with
    | wait same silent uncounted later kept =>
        rw [uncounted, later] at owes
        rw [if_neg fun answer => silent (Option.some.inj answer)]
        refine .of_uncounted (congrFun same _) (by omega) fun leftNum row => ?_
        have covered := covers leftNum row
        split_ifs at reserves with before now now
        · omega
        · omega
        · exact absurd (kept now) before
        · omega
    | @check _ stock row enough later =>
        have free : ShopStatement.reserves (.selectSpecialItem worker.request.itemID) = false := rfl
        have uncounted : ShopStatement.counts (.selectSpecialItem worker.request.itemID) = false :=
          rfl
        rw [free] at reserves
        rw [uncounted, later] at owes
        rw [if_neg (by simp)]
        have room := checked worker found head stock row enough
        simp only [Bool.false_eq_true, if_false] at reserves owes
        refine .of_uncounted rfl (by omega) fun leftNum stored => ?_
        have covered := covers leftNum stored
        rw [row] at stored
        cases stored
        split_ifs at reserves
        · rcases room with zero | more
          · have none_ : worker.request.num.toNat = 0 := by
              rw [zero]
              rfl
            omega
          · omega
        · omega
    | answer later =>
        have reserving : ShopStatement.reserves (.reply 0) = true := rfl
        have counting : (rest pool.state).head.any ShopStatement.reserves = true := by
          rw [later]
          rfl
        have owing : (rest pool.state).head.any ShopStatement.counts = true := by
          rw [later]
          rfl
        have uncounted : ShopStatement.counts (.reply 0) = false := rfl
        rw [reserving, counting] at reserves
        rw [uncounted, owing] at owes
        rw [if_pos rfl]
        simp only [if_true, Bool.false_eq_true, if_false] at reserves owes
        refine .of_uncounted rfl (by omega) fun leftNum row => ?_
        have covered := covers leftNum row
        omega
    | count later =>
        have uncounted := ShopProgram.uncounted_of_unreserved later
        have reserving : ShopStatement.reserves (.updateSpecialItem worker.request.itemID
            worker.request.num.toUInt32) = true := rfl
        have counting : ShopStatement.counts (.updateSpecialItem worker.request.itemID
            worker.request.num.toUInt32) = true := rfl
        rw [reserving, later] at reserves
        rw [counting, uncounted] at owes
        rw [if_neg (by simp)]
        simp only [if_true, Bool.false_eq_true, if_false] at reserves owes
        exact .of_counted rfl owes reserves covers
  · have same : after.specialItem itemID = pool.state.specialItem itemID := by
      cases effect with
      | wait same silent uncounted later kept => rw [same]
      | check row enough later => rfl
      | answer later => rfl
      | count later =>
          exact ShopSvc.updateSpecialItem_of_ne _ _ _ fun equal => own equal.symm
    simp only [own, false_and, if_false] at reserves owes ⊢
    refine .of_uncounted same (by omega) fun leftNum row => ?_
    have covered := covers leftNum row
    omega

theorem step_sound (event : PoolEvent StockRequest) (sound : Sound start history pool)
    (checked : pool.ChecksReserved event) (enabled : pool.step event = some next) :
    Sound start (history ++ [(pool, event)]) next := by
  cases event with
  | request request =>
      cases enabled
      exact request_sound sound request
  | execute index =>
      obtain ⟨worker, first, rest, after, found, running, executed, rfl⟩ :=
        Pool.step_execute _ _ enabled
      have buying := sound.buying worker (List.mem_of_getElem? found)
      rw [running] at buying
      obtain ⟨effect, stage⟩ := buying.effect executed
      have item := execute_itemStep sound checked found running effect
      constructor
      · intro other member
        rcases List.mem_or_eq_of_mem_set member with old | rfl
        · exact sound.buying other old
        · exact stage
      · intro itemID leftNum row
        cases before : pool.state.specialItem itemID with
        | none =>
            rw [(item itemID).missing before] at row
            cases row
        | some stock =>
            obtain ⟨left, stored, -, covered⟩ := (item itemID).row stock before
            rw [row] at stored
            cases stored
            exact covered
      · intro itemID leftNum row
        obtain ⟨stock, before, sum⟩ := sound.counted itemID leftNum row
        obtain ⟨left, stored, changed, -⟩ := (item itemID).row stock before
        refine ⟨left, stored, ?_⟩
        rw [sold_snoc]
        have answers : answered itemID pool (.execute index) = StockWorker.answers itemID worker := by
          rw [answered, found]
          rfl
        omega

end Steps

/-- The pieces that are owed have been seen. -/
theorem owed_le_reserved (pool : StockPool) (itemID : UInt32) :
    pool.owed itemID ≤ pool.reserved itemID := by
  apply List.sum_le_sum
  intro worker _
  unfold StockWorker.owed StockWorker.reserved
  split_ifs with owing reserving reserving
  · exact Nat.le_refl _
  · exfalso
    apply reserving
    refine ⟨owing.1, ?_⟩
    cases head : worker.rest.head with
    | none =>
        rw [head] at owing
        cases owing.2
    | some first =>
        rw [head, Option.any_some] at owing
        rw [Option.any_some, ShopStatement.reserves, owing.2]
        simp
  · exact Nat.zero_le _
  · exact Nat.le_refl _

/-- Purchases that look at the pieces that others have seen stay within the stock. -/
theorem run_accounted {start final : StockPool} {history : StockHistory}
    (idle : start.workers = []) (run : Run StockPool.step ChecksReserved start history final) :
    Accounted start history final := by
  have sound : Sound start.state history final := by
    apply run.historyInvariant (Sound start.state)
    · constructor
      · intro worker member
        rw [idle] at member
        cases member
      · intro itemID leftNum row
        left
        simp [reserved, idle]
      · intro itemID leftNum row
        refine ⟨leftNum, row, ?_⟩
        simp [sold, owed, idle]
    · intro history pool event next sound checked enabled
      exact step_sound event sound checked enabled
  intro itemID leftNum row
  obtain ⟨rest, stored, sum⟩ := sound.counted itemID leftNum row
  have seen := final.owed_le_reserved itemID
  have covered := sound.backed itemID rest stored
  refine ⟨by omega, ?_⟩
  intro finished
  refine ⟨rest, stored, ?_⟩
  have none_ : final.owed itemID = 0 := by
    apply List.sum_eq_zero
    intro number member
    obtain ⟨worker, present, rfl⟩ := List.mem_map.mp member
    rw [StockWorker.owed, finished worker present]
    exact if_neg fun both => Bool.noConfusion both.2
  omega

/-- Item 500 is in stock. -/
def shop (leftNum : UInt32) : StockPool where
  state :=
    { mainSvc := ⟨fun roleID => some ⟨roleID, 25, .new⟩, [], fun _ => none, fun _ => none⟩
      item := fun _ => some ⟨1, 1, 0, 0, 3, 0, 0, 0, 0, 0, 0⟩
      vip := fun _ => 0
      nowPrice := fun _ _ => some 10
      itemSellTotalNum := fun _ _ => 0
      specialItem := fun itemID => if itemID = 500 then some leftNum else none
      discount := fun _ => none
      gift := fun _ => 0
      gold := fun _ => 100
      lastEntityID := 0 }
  workers := []

instance (pool : StockPool) : (event : PoolEvent StockRequest) →
    Decidable (pool.ChecksReserved event)
  | .request _ => .isTrue trivial
  | .execute index =>
      decidable_of_iff ((pool.workers[index]?).all (fun worker =>
          !decide (worker.rest.head = some (.selectSpecialItem worker.request.itemID)) ||
            (pool.state.specialItem worker.request.itemID).all fun leftNum =>
              !decide (worker.request.num.toUInt32 ≤ leftNum) || (decide (worker.request.num = 0) ||
                decide (pool.reserved worker.request.itemID + worker.request.num.toNat <
                  leftNum.toNat))) = true) (by
        simp only [ChecksReserved, Option.all_eq_true, Bool.or_eq_true, Bool.not_eq_true',
          decide_eq_false_iff_not, decide_eq_true_iff, ← imp_iff_not_or])

/-- Two purchases of one and two pieces alternate and leave two pieces of five. -/
theorem run_accounted_two : ∃ history final,
    Run StockPool.step ChecksReserved (shop 5) history final ∧ sold history 500 = 3 ∧
      final.state.specialItem 500 = some 2 ∧ Accounted (shop 5) history final := by
  obtain ⟨history, final, run, counted⟩ := exists_run_of_replay StockPool.step ChecksReserved
    (shop 5) ([.request ⟨1, 500, 1⟩, .request ⟨2, 500, 2⟩] ++
      ([0, 1, 0, 1, 0, 1, 0, 1, 0, 1, 0, 1, 0, 1, 0, 1, 0, 1, 0, 1, 0, 1, 0, 1, 1] : List Nat).map
        .execute)
    (fun history final => sold history 500 = 3 ∧ final.state.specialItem 500 = some 2)
    (by decide +kernel)
  obtain ⟨three, two⟩ := of_decide_eq_true counted
  exact ⟨history, final, run, three, two, run_accounted rfl run⟩

/-- The last piece is sold twice, one purchase after the other. -/
theorem run_not_accounted :
    ¬ ∀ (start final : StockPool) (history : StockHistory), start.workers = [] →
      Run StockPool.step anyEvent start history final → Accounted start history final := by
  intro claim
  obtain ⟨history, final, run, twice⟩ := exists_run_of_replay StockPool.step anyEvent (shop 1)
    ([.request ⟨1, 500, 1⟩] ++ (List.replicate 12 (.execute 0)) ++
      [.request ⟨2, 500, 1⟩] ++ (List.replicate 12 (.execute 1)))
    (fun history _ => sold history 500 = 2) (by decide +kernel)
  have bound := (claim (shop 1) final history rfl run 500 1 rfl).1
  rw [of_decide_eq_true twice] at bound
  exact absurd bound (by decide)

end StockPool

end AppSvr.MainServer
