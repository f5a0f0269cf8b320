/-
This file proves when the rewards of a battle are credited as they are reported.
-/

import AppSvr.Construction.MainServer.PKRewards
import Mathlib.Data.List.Flatten
import Mathlib.Algebra.BigOperators.Group.List.Basic

namespace AppSvr.MainServer

/-- The roles of the first side, in the order of their records. -/
def winners (lei : List ArchvPKEndInfo) : List UInt32 :=
  (lei.filter ArchvPKEndInfo.isWinner).map ArchvPKEndInfo.roleID

/-- The credits that a report tells its role. -/
def PKEndInfo.told (info : PKEndInfo) : List Credit :=
  [.bindMoney info.roleID info.pkr.money, .exp info.roleID info.pkr.exp,
    .items info.roleID info.pkr.items]

def totalMoney (world : RewardWorld) (monsters : List SenceMonster) : Nat :=
  (monsters.map fun group => group.num.toNat * (world.monster group.monsterType).money.toNat).sum

/-- The money of a credit counts for a role that is no VIP. -/
def RewardWorld.plainMoney (world : RewardWorld) : Credit → Nat
  | .bindMoney roleID num => if world.isVip roleID then 0 else num.toNat
  | _ => 0

namespace RewardWorld

section Items

variable (world : RewardWorld) (numnum : Nat)

/-- The items whose draws name the place. -/
def drawnItems (place : Nat) : List UInt32 → Nat → List UInt32
  | [], _ => []
  | item :: items, draws =>
      if world.rand draws % numnum = place then item :: drawnItems place items (draws + 1)
      else drawnItems place items (draws + 1)

/-- The array holds the drawn items behind what it held. -/
theorem shareItems_spec (positive : 0 < numnum) {places : List (List UInt32)}
    (enough : numnum ≤ places.length) (items : List UInt32) (draws : Nat) :
    ∃ shared, world.shareItems numnum items draws places = some shared ∧
      shared.length = places.length ∧ ∀ place < numnum,
        shared.getD place [] = places.getD place [] ++ world.drawnItems numnum place items draws := by
  induction items generalizing draws places with
  | nil => exact ⟨places, rfl, rfl, by simp [drawnItems]⟩
  | cons item items ih =>
      have inside : world.rand draws % numnum < places.length :=
        (Nat.mod_lt _ positive).trans_le enough
      have kept : numnum ≤ (places.modify (world.rand draws % numnum) (· ++ [item])).length := by
        simpa using enough
      obtain ⟨shared, found, length, drawn⟩ := ih kept (draws + 1)
      refine ⟨shared, by simp [shareItems, inside, found], by simpa using length, ?_⟩
      intro place within
      rw [drawn place within, drawnItems]
      split_ifs with same
      · subst same
        simp [List.getD_eq_getElem?_getD, inside]
      · simp [List.getD_eq_getElem?_getD, same]

theorem shareItems_length {items : List UInt32} {draws : Nat} {places shared : List (List UInt32)}
    (found : world.shareItems numnum items draws places = some shared) :
    shared.length = places.length := by
  induction items generalizing draws places with
  | nil =>
      obtain rfl := Option.some.inj found
      rfl
  | cons item items ih =>
      rw [shareItems] at found
      split_ifs at found
      simpa using ih found

/-- An item in front of one part is an item of the whole. -/
theorem flatMap_insert {Place Item : Type*} [DecidableEq Place] {places : List Place}
    (distinct : places.Nodup) {chosen : Place} (listed : chosen ∈ places) (item : Item)
    (part : Place → List Item) :
    (places.flatMap fun place => if chosen = place then item :: part place else part place).Perm
      (item :: places.flatMap part) := by
  induction places with
  | nil => cases listed
  | cons place places ih =>
      obtain ⟨absent, distinct⟩ := List.nodup_cons.mp distinct
      rw [List.flatMap_cons, List.flatMap_cons]
      by_cases same : chosen = place
      · subst same
        have others : (places.flatMap fun place =>
            if chosen = place then item :: part place else part place) = places.flatMap part := by
          apply List.flatMap_congr
          intro other member
          rw [if_neg]
          rintro rfl
          exact absent member
        rw [if_pos rfl, others]
        rfl
      · rw [if_neg same]
        have rest := ih distinct ((List.mem_cons.mp listed).resolve_left same)
        exact (rest.append_left _).trans List.perm_middle

/-- Every item is drawn for exactly one place. -/
theorem drawnItems_perm (positive : 0 < numnum) (items : List UInt32) (draws : Nat) :
    ((List.range numnum).flatMap fun place => world.drawnItems numnum place items draws).Perm
      items := by
  induction items generalizing draws with
  | nil => simp [drawnItems]
  | cons item items ih =>
      simp only [drawnItems]
      have inserted := flatMap_insert List.nodup_range
        (List.mem_range.mpr (Nat.mod_lt (world.rand draws) positive)) item
        fun place => world.drawnItems numnum place items (draws + 1)
      exact inserted.trans ((ih (draws + 1)).cons item)

end Items

section Money

variable (world : RewardWorld)

theorem dropForTask_money (drop : UInt32 × ItemList) (loot : Loot) :
    (world.dropForTask drop loot).money = loot.money := by
  unfold dropForTask
  induction world.unfinishedTask generalizing loot with
  | nil => rfl
  | cons task tasks ih =>
      rw [List.foldl_cons, ih]
      dsimp only
      split_ifs <;> rfl

theorem killMonster_money (roleIDs : List UInt32) (loot : Loot) (group : SenceMonster) :
    (world.killMonster roleIDs loot group).money =
      loot.money + group.num.toUInt32 * (world.monster group.monsterType).money := by
  have dropped (drops : List (UInt32 × ItemList)) (loot : Loot) :
      (drops.foldl (fun loot drop => world.dropForTask drop loot) loot).money = loot.money := by
    induction drops generalizing loot with
    | nil => rfl
    | cons drop drops ih => rw [List.foldl_cons, ih, dropForTask_money]
  exact dropped _ _

/-- The sum of the money may wrap, and then it is smaller. -/
theorem lootOf_money_le (roleIDs : List UInt32) (monsters : List SenceMonster) :
    (world.lootOf roleIDs monsters).money.toNat ≤ totalMoney world monsters := by
  have summed (loot : Loot) : (monsters.foldl (world.killMonster roleIDs) loot).money.toNat ≤
      loot.money.toNat + totalMoney world monsters := by
    induction monsters generalizing loot with
    | nil => simp [totalMoney]
    | cons group monsters ih =>
        have step := ih (world.killMonster roleIDs loot group)
        have product := Nat.mod_le (group.num.toNat * (world.monster group.monsterType).money.toNat)
          4294967296
        rw [killMonster_money, UInt32.toNat_add, UInt32.toNat_mul, UInt16.toNat_toUInt32] at step
        simp only [totalMoney, List.foldl_cons, List.map_cons, List.sum_cons] at step ⊢
        omega
  simpa [lootOf] using summed ⟨0, 0, [], 0⟩

end Money

section Roles

variable (world : RewardWorld) {roleIDs : List UInt32} {roleID : UInt32}

theorem find_self (listed : roleID ∈ roleIDs) : roleIDs.find? (· = roleID) = some roleID := by
  induction roleIDs with
  | nil => cases listed
  | cons first roleIDs ih =>
      by_cases same : first = roleID
      · simp [same]
      · simpa [same] using ih ((List.mem_cons.mp listed).resolve_left (Ne.symm same))

/-- Only a VIP among the winners gets the larger share. -/
theorem vipExtraExpAndMoney_eq (listed : roleID ∈ roleIDs) (values : UInt32 × UInt32) :
    world.vipExtraExpAndMoney (roleIDs.filter fun roleID => world.isVip roleID) roleID values =
      if world.isVip roleID then
        some (vipShare (world.role roleID).vip values.1, vipShare (world.role roleID).vip values.2)
      else none := by
  unfold vipExtraExpAndMoney
  split_ifs with vip
  · rw [find_self (List.mem_filter.mpr ⟨listed, by simpa using vip⟩), Option.map_some]
  · rw [List.find?_eq_none.mpr, Option.map_none]
    intro other member
    have otherVip := (List.mem_filter.mp member).2
    simp only [decide_eq_true_eq] at otherVip ⊢
    rintro rfl
    exact vip otherVip

theorem findtheLev_eq (listed : roleID ∈ roleIDs) :
    world.findtheLev roleIDs roleID = (world.role roleID).level := by
  rw [findtheLev, find_self listed]

/-- The factor five of a divisor loses no level. -/
theorem divisor_ne_zero (listed : roleID ∈ roleIDs) (level : 1 ≤ (world.role roleID).level) :
    (world.findtheLev roleIDs roleID * 5).toNat * roleIDs.length ≠ 0 := by
  have five : (5 : UInt32).toNat = 5 := rfl
  have one : (1 : UInt32).toNat = 1 := rfl
  have positive := UInt32.le_iff_toNat_le.mp level
  rw [one] at positive
  rw [findtheLev_eq world listed, UInt32.toNat_mul, five]
  refine Nat.mul_ne_zero (fun zero => ?_) (Nat.ne_of_gt (List.length_pos_of_mem listed))
  have divides : 2 ^ 32 ∣ (world.role roleID).level.toNat :=
    Nat.Coprime.dvd_of_dvd_mul_right (by decide) (Nat.dvd_of_mod_eq_zero zero)
  exact absurd (Nat.le_of_dvd positive divides)
    (Nat.not_le.mpr (world.role roleID).level.toNat_lt)

theorem told_iff (call : Nat) (info : PKEndInfo) (money exp : UInt32) :
    world.creditsOf call info.roleID money exp info.pkr.items = info.told ↔
      money = info.pkr.money ∧ exp = info.pkr.exp ∧
        world.stored call info.pkr.items = info.pkr.items := by
  simp [creditsOf, PKEndInfo.told]

end Roles

section Single

variable (world : RewardWorld) {roleIDs : List UInt32} (loot : Loot) (record : ArchvPKEndInfo)

/-- The experience that a single winner is credited with. -/
def singleExp (roleID : UInt32) : UInt32 :=
  if world.isVip roleID then vipShare (world.role roleID).vip (castUInt32 loot.expdouble)
  else castUInt32 loot.expdouble

def singleMoney (roleID : UInt32) : UInt32 :=
  if world.isVip roleID then vipShare (world.role roleID).vip loot.money else loot.money

theorem rewardSingle_eq (listed : record.roleID ∈ roleIDs) :
    world.rewardSingle (roleIDs.filter fun roleID => world.isVip roleID) loot record =
      (⟨record.roleID, ⟨1, world.addExpByExpRune record.roleID (world.singleExp loot record.roleID),
          world.singleMoney loot record.roleID, loot.items⟩, { record with live := 1 }⟩,
        world.creditsOf 0 record.roleID (world.singleMoney loot record.roleID)
          (world.singleExp loot record.roleID) loot.items) := by
  unfold rewardSingle singleExp singleMoney
  simp only [vipExtraExpAndMoney_eq world listed]
  split_ifs <;> rfl

/-- The rune leaves no more than one point as it is. -/
theorem addExpByExpRune_eq_iff (roleID exp : UInt32) :
    exp = world.addExpByExpRune roleID exp ↔ ((world.role roleID).expRune = true → exp ≤ 1) := by
  have range := exp.toNat_lt
  have one : (1 : UInt32).toNat = 1 := rfl
  unfold addExpByExpRune
  split_ifs with rune
  · rw [← UInt32.toNat_inj, UInt32.toNat_ofNat', UInt32.le_iff_toNat_le, one]
    have half : exp.toNat * 3 / 2 = exp.toNat + exp.toNat / 2 := by omega
    simp only [rune, true_imp_iff, half]
    omega
  · simp [rune]

end Single

section Shared

variable (world : RewardWorld) {roleIDs : List UInt32} (loot : Loot)

/-- Every record gets the items of its place. -/
theorem rewardAll_eq (roleLev licRoleVip : List UInt32) (places : List (List UInt32)) (place : Nat)
    (records : List ArchvPKEndInfo) :
    world.rewardAll roleLev licRoleVip loot places place records =
      if place + records.length ≤ places.length ∨ records = [] then
        some ((records.zipIdx place).map fun (record, place) =>
          world.rewardShared roleLev licRoleVip loot place (places.getD place []) record)
      else none := by
  induction records generalizing place with
  | nil => simp [rewardAll]
  | cons record records ih =>
      rw [rewardAll, ih]
      by_cases inside : place < places.length
      · have found : places[place]? = some (places.getD place []) := by
          simp [List.getD_eq_getElem?_getD, inside]
        rw [found, Option.bind_some]
        by_cases rest : place + 1 + records.length ≤ places.length ∨ records = []
        · have room : place + (record :: records).length ≤ places.length := by
            rcases rest with room | rfl
            · simp only [List.length_cons]
              omega
            · exact Nat.succ_le_of_lt inside
          rw [if_pos rest, if_pos (.inl room)]
          simp [List.zipIdx_cons]
        · rw [if_neg rest, if_neg]
          · rfl
          · simp only [List.length_cons] at rest ⊢
            rintro (room | listed)
            · exact rest (.inl (by omega))
            · cases listed
      · have absent : places[place]? = none := List.getElem?_eq_none (Nat.le_of_not_lt inside)
        rw [absent, Option.bind_none, if_neg]
        rintro (room | listed)
        · simp only [List.length_cons] at room
          omega
        · cases listed

/-- Without a VIP the whole money is credited, and the share is reported. -/
theorem rewardShared_told_iff {record : ArchvPKEndInfo} (listed : record.roleID ∈ roleIDs)
    (several : 2 ≤ roleIDs.length) (place : Nat) (items : List UInt32) :
    let reward := world.rewardShared roleIDs (roleIDs.filter fun roleID => world.isVip roleID) loot
      place items record
    reward.2 = reward.1.told ↔
      (world.isVip record.roleID ∨ loot.money = 0) ∧ world.stored place items = items := by
  have share : loot.money = UInt32.ofNat (loot.money.toNat / roleIDs.length) ↔ loot.money = 0 := by
    have range := loot.money.toNat_lt
    have zero : (0 : UInt32).toNat = 0 := rfl
    have half : loot.money.toNat / roleIDs.length ≤ loot.money.toNat / 2 :=
      Nat.div_le_div_left several (by decide)
    rw [← UInt32.toNat_inj, ← UInt32.toNat_inj, UInt32.toNat_ofNat', zero,
      Nat.mod_eq_of_lt (by omega)]
    constructor
    · intro same
      omega
    · intro none
      rw [none, Nat.zero_div]
  dsimp only
  unfold rewardShared
  simp only [vipExtraExpAndMoney_eq world listed]
  split_ifs with vip
  · simp [creditsOf, PKEndInfo.told, vip]
  · simp [creditsOf, PKEndInfo.told, vip, share]

theorem rewardShared_roleID (roleLev licRoleVip : List UInt32) (place : Nat) (items : List UInt32)
    (record : ArchvPKEndInfo) :
    (world.rewardShared roleLev licRoleVip loot place items record).1.roleID = record.roleID ∧
      (world.rewardShared roleLev licRoleVip loot place items record).1.pkr.items = items ∧
      (world.rewardShared roleLev licRoleVip loot place items record).2.length = 3 := by
  unfold rewardShared
  dsimp only
  split <;> exact ⟨rfl, rfl, rfl⟩

theorem rewardShared_plain {record : ArchvPKEndInfo} (listed : record.roleID ∈ roleIDs)
    (plain : world.isVip record.roleID ∨ loot.money = 0) (place : Nat) (items : List UInt32) :
    ((world.rewardShared roleIDs (roleIDs.filter fun roleID => world.isVip roleID) loot place items
      record).2.map world.plainMoney).sum = 0 := by
  unfold rewardShared
  simp only [vipExtraExpAndMoney_eq world listed]
  split_ifs with vip
  · simp [creditsOf, plainMoney, vip]
  · simp [creditsOf, plainMoney, plain.resolve_left vip]

/-- The credits of all roles are told exactly when those of each role are. -/
theorem told_all_iff {rewards : List (PKEndInfo × List Credit)}
    (three : ∀ reward ∈ rewards, reward.2.length = 3) :
    rewards.flatMap Prod.snd = (rewards.map Prod.fst).flatMap PKEndInfo.told ↔
      ∀ reward ∈ rewards, reward.2 = reward.1.told := by
  induction rewards with
  | nil => simp
  | cons reward rewards ih =>
      have length : reward.2.length = reward.1.told.length := three reward List.mem_cons_self
      rw [List.flatMap_cons, List.map_cons, List.flatMap_cons, List.forall_mem_cons,
        ← ih fun other member => three other (List.mem_cons_of_mem _ member)]
      exact ⟨fun same => List.append_inj same length, fun same => by rw [same.1, same.2]⟩

end Shared

end RewardWorld

/-- Every winner has one report of what it was credited with. The money of plain roles stays within
that of the monsters, and every dropped item is in one report. -/
structure RewardsFair (world : RewardWorld) (lei : List ArchvPKEndInfo)
    (monsters : List SenceMonster) (rewards : PKRewards) : Prop where
  reported : rewards.lpkei.map PKEndInfo.roleID = winners lei
  credited : rewards.credits =
    killCredits (winners lei) monsters ++ rewards.lpkei.flatMap PKEndInfo.told
  within : (rewards.credits.map world.plainMoney).sum ≤ totalMoney world monsters
  given : (rewards.lpkei.flatMap fun info => info.pkr.items).Perm rewards.dropped

/-- The winners, their levels and the distances to the monsters divide. -/
structure DivisorsNonzero (world : RewardWorld) (roleIDs : List UInt32)
    (monsters : List SenceMonster) : Prop where
  count : roleIDs.length ≠ 0
  levels : ∀ roleID ∈ roleIDs, (world.findtheLev roleIDs roleID * 5).toNat * roleIDs.length ≠ 0
  distances : ∀ group ∈ monsters, world.levelDistance roleIDs group.monsterType ≠ 0

/-- The rewards of a battle are computed without a fault, and they are fair. -/
def PaysFairly (world : RewardWorld) (lei : List ArchvPKEndInfo) (monsters : List SenceMonster) :
    Prop :=
  DivisorsNonzero world (winners lei) monsters ∧
    ∃ rewards, getItemFromPkEnd world (winners lei) lei monsters = some rewards ∧
      RewardsFair world lei monsters rewards

/-- No monster is one level above the average, and the bags have room for the drawn items. A single
winner has no active rune, or hardly any experience to get. At most five winners share, and they are
VIPs, or there is no money. -/
def RewardsPlain (world : RewardWorld) (lei : List ArchvPKEndInfo) (monsters : List SenceMonster) :
    Prop :=
  let roleIDs := winners lei
  let loot := world.lootOf roleIDs monsters
  (∀ group ∈ monsters, world.levelDistance roleIDs group.monsterType ≠ 0) ∧
    if roleIDs.length = 1 then
      (∀ roleID ∈ roleIDs, (world.role roleID).expRune = true →
        world.singleExp loot roleID ≤ 1) ∧ world.stored 0 loot.items = loot.items
    else
      roleIDs.length ≤ 5 ∧ (∀ roleID ∈ roleIDs, world.isVip roleID ∨ loot.money = 0) ∧
        ∀ place < roleIDs.length,
          world.stored place (world.drawnItems roleIDs.length place loot.items loot.draws) =
            world.drawnItems roleIDs.length place loot.items loot.draws

section Cases

variable {world : RewardWorld} {lei : List ArchvPKEndInfo} {monsters : List SenceMonster}

theorem plainMoney_killed (roleIDs : List UInt32) :
    ((killCredits roleIDs monsters).map world.plainMoney).sum = 0 := by
  rw [List.sum_eq_zero_iff_forall_eq_nat]
  intro money member
  obtain ⟨credit, listed, rfl⟩ := List.mem_map.mp member
  obtain ⟨group, -, listed⟩ := List.mem_flatMap.mp listed
  obtain ⟨roleID, -, rfl⟩ := List.mem_map.mp listed
  rfl

/-- The report of a single winner. -/
def singleInfo (world : RewardWorld) (loot : Loot) (record : ArchvPKEndInfo) : PKEndInfo :=
  ⟨record.roleID,
    ⟨1, world.addExpByExpRune record.roleID (world.singleExp loot record.roleID),
      world.singleMoney loot record.roleID, loot.items⟩, { record with live := 1 }⟩

theorem getItemFromPkEnd_single {record : ArchvPKEndInfo}
    (only : lei.filter ArchvPKEndInfo.isWinner = [record]) :
    let loot := world.lootOf [record.roleID] monsters
    getItemFromPkEnd world (winners lei) lei monsters = some
      ⟨[singleInfo world loot record], loot.items, killCredits [record.roleID] monsters ++
        world.creditsOf 0 record.roleID (world.singleMoney loot record.roleID)
          (world.singleExp loot record.roleID) loot.items⟩ := by
  have roles : winners lei = [record.roleID] := by simp [winners, only]
  simp [getItemFromPkEnd, roles, only, world.rewardSingle_eq _ _ (List.mem_singleton_self _),
    singleInfo]

theorem single_fair_iff {record : ArchvPKEndInfo}
    (only : lei.filter ArchvPKEndInfo.isWinner = [record]) :
    (∃ rewards, getItemFromPkEnd world (winners lei) lei monsters = some rewards ∧
      RewardsFair world lei monsters rewards) ↔
    ((world.role record.roleID).expRune = true →
      world.singleExp (world.lootOf [record.roleID] monsters) record.roleID ≤ 1) ∧
      world.stored 0 (world.lootOf [record.roleID] monsters).items =
        (world.lootOf [record.roleID] monsters).items := by
  have roles : winners lei = [record.roleID] := by simp [winners, only]
  have told := world.told_iff 0 (singleInfo world (world.lootOf [record.roleID] monsters) record)
    (world.singleMoney (world.lootOf [record.roleID] monsters) record.roleID)
    (world.singleExp (world.lootOf [record.roleID] monsters) record.roleID)
  simp only [singleInfo, true_and, world.addExpByExpRune_eq_iff] at told
  rw [getItemFromPkEnd_single only, ← told]
  simp only [Option.some.injEq, exists_eq_left']
  constructor
  · intro fair
    have credited := fair.credited
    rw [roles] at credited
    simpa [singleInfo] using credited
  · intro credited
    refine ⟨by simp [singleInfo, roles], ?_, ?_, by simp [singleInfo]⟩
    · simpa [roles, singleInfo] using credited
    · have plain : (world.creditsOf 0 record.roleID
          (world.singleMoney (world.lootOf [record.roleID] monsters) record.roleID)
          (world.singleExp (world.lootOf [record.roleID] monsters) record.roleID)
          (world.lootOf [record.roleID] monsters).items).map world.plainMoney =
          [if world.isVip record.roleID then 0
            else (world.lootOf [record.roleID] monsters).money.toNat, 0, 0] := by
        simp only [RewardWorld.creditsOf, List.map_cons, List.map_nil, RewardWorld.plainMoney,
          RewardWorld.singleMoney]
        split_ifs <;> rfl
      rw [List.map_append, List.sum_append, plainMoney_killed, plain]
      have money := world.lootOf_money_le [record.roleID] monsters
      split_ifs
      · simp
      · simpa using money

/-- The reports and the credits of several winners. -/
def sharedRewards (world : RewardWorld) (lei : List ArchvPKEndInfo) (monsters : List SenceMonster) :
    List (PKEndInfo × List Credit) :=
  let roleIDs := winners lei
  let loot := world.lootOf roleIDs monsters
  (lei.filter ArchvPKEndInfo.isWinner).zipIdx.map fun (record, place) =>
    world.rewardShared roleIDs (roleIDs.filter fun roleID => world.isVip roleID) loot place
      (world.drawnItems roleIDs.length place loot.items loot.draws) record

theorem winners_length : (winners lei).length = (lei.filter ArchvPKEndInfo.isWinner).length :=
  List.length_map _

theorem getItemFromPkEnd_shared (several : 2 ≤ (winners lei).length) :
    getItemFromPkEnd world (winners lei) lei monsters =
      if (winners lei).length ≤ 5 then
        some ⟨(sharedRewards world lei monsters).map Prod.fst,
          (world.lootOf (winners lei) monsters).items,
          killCredits (winners lei) monsters ++
            (sharedRewards world lei monsters).flatMap Prod.snd⟩
      else none := by
  have someone : ¬ (winners lei = [] ∧ monsters ≠ []) := by
    rintro ⟨none, -⟩
    rw [none] at several
    cases several
  have notOne : (winners lei).length ≠ 1 := by omega
  simp only [getItemFromPkEnd, if_neg someone, if_neg notOne]
  have records : (winners lei).length = (lei.filter ArchvPKEndInfo.isWinner).length :=
    winners_length
  by_cases few : (winners lei).length ≤ 5
  · have enough : (winners lei).length ≤ (List.replicate 5 ([] : List UInt32)).length := by
      simpa using few
    obtain ⟨shared, found, length, drawn⟩ := world.shareItems_spec (winners lei).length (by omega)
      enough (world.lootOf (winners lei) monsters).items (world.lootOf (winners lei) monsters).draws
    have room : 0 + (lei.filter ArchvPKEndInfo.isWinner).length ≤ shared.length := by
      rw [length, List.length_replicate, Nat.zero_add, ← records]
      exact few
    rw [found, Option.bind_some, RewardWorld.rewardAll_eq, if_pos (.inl room), if_pos few]
    have same : (lei.filter ArchvPKEndInfo.isWinner).zipIdx.map (fun (record, place) =>
        world.rewardShared (winners lei) ((winners lei).filter fun roleID => world.isVip roleID)
          (world.lootOf (winners lei) monsters) place (shared.getD place []) record) =
        sharedRewards world lei monsters := by
      apply List.map_congr_left
      rintro ⟨record, place⟩ member
      have inside : place < (winners lei).length := by
        rw [records]
        exact (List.getElem?_eq_some_iff.mp (List.mem_zipIdx_iff_getElem?.mp member)).1
      have empty : (List.replicate 5 ([] : List UInt32)).getD place [] = [] := by
        rw [List.getD_eq_getElem?_getD, List.getElem?_replicate]
        split <;> rfl
      dsimp only
      rw [drawn place inside, empty, List.nil_append]
    rw [same, Option.map_some]
  · rw [if_neg few]
    cases found : world.shareItems (winners lei).length
        (world.lootOf (winners lei) monsters).items (world.lootOf (winners lei) monsters).draws
        (List.replicate 5 []) with
    | none => rfl
    | some shared =>
        have length := world.shareItems_length _ found
        rw [List.length_replicate] at length
        rw [Option.bind_some, RewardWorld.rewardAll_eq, if_neg, Option.map_none]
        rintro (room | none)
        · omega
        · rw [none, List.length_nil] at records
          omega

/-- The records with their places. -/
theorem forall_sharedRewards {holds : PKEndInfo × List Credit → Prop} :
    (∀ reward ∈ sharedRewards world lei monsters, holds reward) ↔
      ∀ place record, (lei.filter ArchvPKEndInfo.isWinner)[place]? = some record →
        holds (world.rewardShared (winners lei)
          ((winners lei).filter fun roleID => world.isVip roleID)
          (world.lootOf (winners lei) monsters) place
          (world.drawnItems (winners lei).length place (world.lootOf (winners lei) monsters).items
            (world.lootOf (winners lei) monsters).draws) record) := by
  simp only [sharedRewards, List.forall_mem_map, Prod.forall, List.mk_mem_zipIdx_iff_getElem?]
  exact forall_comm

theorem winner_listed {place : Nat} {record : ArchvPKEndInfo}
    (found : (lei.filter ArchvPKEndInfo.isWinner)[place]? = some record) :
    record.roleID ∈ winners lei :=
  List.mem_map_of_mem (List.mem_of_getElem? found)

theorem sharedRewards_told_iff (several : 2 ≤ (winners lei).length) :
    (∀ reward ∈ sharedRewards world lei monsters, reward.2 = reward.1.told) ↔
      (∀ roleID ∈ winners lei,
        world.isVip roleID ∨ (world.lootOf (winners lei) monsters).money = 0) ∧
      ∀ place < (winners lei).length,
        world.stored place (world.drawnItems (winners lei).length place
          (world.lootOf (winners lei) monsters).items
          (world.lootOf (winners lei) monsters).draws) =
        world.drawnItems (winners lei).length place (world.lootOf (winners lei) monsters).items
          (world.lootOf (winners lei) monsters).draws := by
  rw [forall_sharedRewards]
  constructor
  · intro told
    refine ⟨fun roleID listed => ?_, fun place within => ?_⟩
    · obtain ⟨record, member, rfl⟩ := List.mem_map.mp listed
      obtain ⟨place, found⟩ := List.mem_iff_getElem?.mp member
      exact ((world.rewardShared_told_iff _ listed several place _).mp (told place record found)).1
    · rw [winners_length] at within
      have found := List.getElem?_eq_getElem within
      exact ((world.rewardShared_told_iff _ (winner_listed found) several place _).mp
        (told place _ found)).2
  · rintro ⟨plain, stored⟩ place record found
    have listed := winner_listed found
    have within : place < (winners lei).length := by
      rw [winners_length]
      exact (List.getElem?_eq_some_iff.mp found).1
    exact (world.rewardShared_told_iff _ listed several place _).mpr
      ⟨plain _ listed, stored place within⟩

theorem sharedRewards_reported :
    (sharedRewards world lei monsters).map (fun reward => reward.1.roleID) = winners lei := by
  have names : (sharedRewards world lei monsters).map (fun reward => reward.1.roleID) =
      (lei.filter ArchvPKEndInfo.isWinner).zipIdx.map fun entry => entry.1.roleID := by
    rw [sharedRewards, List.map_map]
    apply List.map_congr_left
    rintro ⟨record, place⟩ -
    exact (world.rewardShared_roleID _ _ _ place _ record).1
  have records := congrArg (List.map ArchvPKEndInfo.roleID)
    (List.zipIdx_map_fst 0 (lei.filter ArchvPKEndInfo.isWinner))
  rw [List.map_map] at records
  exact names.trans records

theorem sharedRewards_given (several : 2 ≤ (winners lei).length) :
    ((sharedRewards world lei monsters).flatMap fun reward => reward.1.pkr.items).Perm
      (world.lootOf (winners lei) monsters).items := by
  have items : ((sharedRewards world lei monsters).flatMap fun reward => reward.1.pkr.items) =
      (List.range (winners lei).length).flatMap fun place =>
        world.drawnItems (winners lei).length place (world.lootOf (winners lei) monsters).items
          (world.lootOf (winners lei) monsters).draws := by
    have places := List.zipIdx_map_snd 0 (lei.filter ArchvPKEndInfo.isWinner)
    rw [← List.range_eq_range', ← winners_length] at places
    rw [← places, List.flatMap_map, sharedRewards, List.flatMap_map]
    apply List.flatMap_congr
    rintro ⟨record, place⟩ -
    exact (world.rewardShared_roleID _ _ _ place _ record).2.1
  rw [items]
  exact world.drawnItems_perm _ (by omega) _ _

theorem sharedRewards_plain (plain : ∀ roleID ∈ winners lei,
    world.isVip roleID ∨ (world.lootOf (winners lei) monsters).money = 0) :
    (((sharedRewards world lei monsters).flatMap Prod.snd).map world.plainMoney).sum = 0 := by
  have each : ∀ reward ∈ sharedRewards world lei monsters,
      (reward.2.map world.plainMoney).sum = 0 := by
    rw [forall_sharedRewards]
    intro place record found
    have listed := winner_listed found
    exact world.rewardShared_plain _ listed (plain _ listed) place _
  generalize sharedRewards world lei monsters = rewards at each ⊢
  induction rewards with
  | nil => rfl
  | cons reward rewards ih =>
      rw [List.flatMap_cons, List.map_append, List.sum_append, each reward List.mem_cons_self,
        ih fun other listed => each other (List.mem_cons_of_mem _ listed)]

theorem shared_fair_iff (several : 2 ≤ (winners lei).length) :
    (∃ rewards, getItemFromPkEnd world (winners lei) lei monsters = some rewards ∧
      RewardsFair world lei monsters rewards) ↔
    (winners lei).length ≤ 5 ∧ ∀ reward ∈ sharedRewards world lei monsters,
      reward.2 = reward.1.told := by
  have three : ∀ reward ∈ sharedRewards world lei monsters, reward.2.length = 3 := by
    rw [forall_sharedRewards]
    intro place record _
    exact (world.rewardShared_roleID _ _ _ place _ record).2.2
  rw [getItemFromPkEnd_shared several]
  split_ifs with few
  · simp only [Option.some.injEq, exists_eq_left', few, true_and]
    rw [← RewardWorld.told_all_iff three]
    constructor
    · intro fair
      exact List.append_cancel_left fair.credited
    · intro told
      have plain := ((sharedRewards_told_iff several).mp
        ((RewardWorld.told_all_iff three).mp told)).1
      refine ⟨?_, congrArg _ told, ?_, ?_⟩
      · rw [List.map_map]
        exact sharedRewards_reported
      · rw [List.map_append, List.sum_append, plainMoney_killed, sharedRewards_plain plain]
        exact Nat.zero_le _
      · rw [List.flatMap_map]
        exact sharedRewards_given several
  · simp [few]

end Cases

/-- The rewards are fair exactly when they are plain. -/
theorem paysFairly_iff (world : RewardWorld) (lei : List ArchvPKEndInfo)
    (monsters : List SenceMonster) (someone : winners lei ≠ [])
    (levels : ∀ roleID ∈ winners lei, 1 ≤ (world.role roleID).level) :
    PaysFairly world lei monsters ↔ RewardsPlain world lei monsters := by
  have count : (winners lei).length ≠ 0 := mt List.length_eq_zero_iff.mp someone
  have divisors : DivisorsNonzero world (winners lei) monsters ↔
      ∀ group ∈ monsters, world.levelDistance (winners lei) group.monsterType ≠ 0 :=
    ⟨DivisorsNonzero.distances, fun distances => ⟨count, fun roleID listed =>
      world.divisor_ne_zero listed (levels roleID listed), distances⟩⟩
  unfold PaysFairly RewardsPlain
  rw [divisors]
  refine and_congr_right fun _ => ?_
  split_ifs with single
  · obtain ⟨record, only⟩ := List.length_eq_one_iff.mp (winners_length.symm.trans single)
    have roles : winners lei = [record.roleID] := by simp [winners, only]
    rw [single_fair_iff only, roles]
    simp
  · rw [shared_fair_iff (by omega), sharedRewards_told_iff (by omega)]

/-- Every role and every monster has level 1, and the monster leaves an item for task 9. -/
def beginners : RewardWorld :=
  ⟨fun _ => ⟨1, 0, false⟩, fun _ => ⟨1, 8, 10, [(9, ⟨500, 100⟩)]⟩, [⟨1, [9]⟩], fun _ => 1,
    fun _ => 0, fun _ items => items⟩

def standing (roleID : UInt32) : ArchvPKEndInfo := ⟨1, 0, roleID, 1, 1, 100, 20⟩

theorem beginners_level {roleIDs : List UInt32} :
    ∀ roleID ∈ roleIDs, 1 ≤ (beginners.role roleID).level :=
  fun _ _ => UInt32.le_refl 1

theorem paysFairly_iff_beginner : PaysFairly beginners [standing 1] [⟨3, 1⟩] :=
  (paysFairly_iff beginners [standing 1] [⟨3, 1⟩] (by decide) beginners_level).mpr
    ⟨by decide +kernel, fun _ _ rune => Bool.noConfusion rune, rfl⟩

/-- Both roles are credited with the whole money. -/
theorem beginners_not_paysFairly :
    ¬ ∀ (world : RewardWorld) (lei : List ArchvPKEndInfo) (monsters : List SenceMonster),
      winners lei ≠ [] → (∀ roleID ∈ winners lei, 1 ≤ (world.role roleID).level) →
        PaysFairly world lei monsters := by
  intro claim
  obtain ⟨-, rewards, found, fair⟩ :=
    claim beginners [standing 1, standing 2] [⟨3, 1⟩] (by decide) beginners_level
  have within := fair.within
  have credited : (((getItemFromPkEnd beginners [1, 2] [standing 1, standing 2] [⟨3, 1⟩]).map
      fun rewards => (rewards.credits.map beginners.plainMoney).sum)) = some 20 := by
    decide +kernel
  rw [show getItemFromPkEnd beginners [1, 2] [standing 1, standing 2] [⟨3, 1⟩] = some rewards from
    found, Option.map_some, Option.some.injEq] at credited
  rw [credited] at within
  exact absurd within (by decide)

end AppSvr.MainServer
