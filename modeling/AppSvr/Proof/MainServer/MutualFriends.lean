/-
This file shows which packets keep the friend relation mutual.
-/

import AppSvr.Construction.MainServer.FriendSvc
import AppSvr.ToMathlib.KeyedTable
import AppSvr.ToMathlib.TransitionSystem

namespace AppSvr.MainServer

open TransitionSystem

/-- A row belongs to an ordered pair of roles. -/
def DBFriend.pair (row : DBFriend) : UInt32 × UInt32 := (row.roleID, row.friendRoleID)

theorem DBFriend.between_iff {first second : UInt32} {row : DBFriend} :
    DBFriend.Between first second row ↔ row.pair = (first, second) := by
  rw [DBFriend.Between, DBFriend.pair, Prod.mk.injEq]

namespace FriendTables

open DBFriend

variable {svc next : FriendTables} {first second left right role : UInt32} {type kind : UInt8}
  {row : DBFriend}

/-- The table relates two roles in one direction. -/
def Related (svc : FriendTables) (first second : UInt32) (type : UInt8) : Prop :=
  ∃ row ∈ svc.friends, Between first second row ∧ row.friendType = type

/-- A role may have this many rows of one type. -/
def limit (svc : FriendTables) (role : UInt32) : Nat :=
  maxFriendNum.toNat + (svc.isVip role).toNat * 10

/-- The rows form a symmetric relation without loops, and every role keeps its limits. -/
structure Mutual (svc : FriendTables) : Prop where
  unique : (svc.friends.map pair).Nodup
  irreflexive : ∀ role type, ¬ svc.Related role role type
  symmetric : ∀ first second type, svc.Related first second type ↔ svc.Related second first type
  limited : ∀ role type, svc.count role type ≤ svc.limit role

/-- Both roles can take one more row of a type. -/
def Room (svc : FriendTables) (first second : UInt32) (type : UInt8) : Prop :=
  svc.count first type < svc.limit first ∧ svc.count second type < svc.limit second

instance (svc : FriendTables) (first second : UInt32) (type : UInt8) :
    Decidable (Room svc first second type) :=
  inferInstanceAs (Decidable (_ ∧ _))

section Reading

theorem select_eq_some (found : svc.select first second = some row) :
    row ∈ svc.friends ∧ Between first second row := by
  refine ⟨List.mem_of_find?_eq_some found, ?_⟩
  simpa using List.find?_some found

theorem select_eq_none_iff :
    svc.select first second = none ↔ ∀ type, ¬ svc.Related first second type := by
  rw [select, List.find?_eq_none]
  constructor
  · rintro missing type ⟨row, member, between, -⟩
    exact missing row member (decide_eq_true between)
  · intro never row member between
    exact never row.friendType ⟨row, member, of_decide_eq_true between, rfl⟩

theorem Related.of_select (found : svc.select first second = some row) :
    svc.Related first second row.friendType := by
  obtain ⟨member, between⟩ := select_eq_some found
  exact ⟨row, member, between, rfl⟩

theorem Mutual.ne (sound : svc.Mutual) (found : svc.select first second = some row) :
    first ≠ second := by
  rintro rfl
  exact sound.irreflexive _ _ (Related.of_select found)

end Reading

section Updating

/-- The statement changes this row or leaves it. -/
def retype (first second : UInt32) (type : UInt8) (row : DBFriend) : DBFriend :=
  if Between first second row then { row with friendType := type } else row

theorem retype_of_between (between : Between first second row) :
    retype first second type row = { row with friendType := type } := if_pos between

theorem retype_of_not (other : ¬ Between first second row) :
    retype first second type row = row := if_neg other

theorem retype_pair : (retype first second type row).pair = row.pair := by
  unfold retype
  split_ifs <;> rfl

theorem update_friends : (svc.update first second type).friends =
    svc.friends.map (retype first second type) := rfl

theorem update_pairs :
    (svc.update first second type).friends.map pair = svc.friends.map pair := by
  rw [update_friends, List.map_map]
  apply List.map_congr_left
  intro row _
  exact retype_pair

theorem related_update_self (related : svc.Related first second kind) {other : UInt8} :
    (svc.update first second type).Related first second other ↔ other = type := by
  constructor
  · rintro ⟨row, member, between, rfl⟩
    rw [update_friends, List.mem_map] at member
    obtain ⟨before, -, rfl⟩ := member
    rw [between_iff, retype_pair, ← between_iff] at between
    rw [retype_of_between between]
  · rintro rfl
    obtain ⟨row, member, between, -⟩ := related
    refine ⟨retype first second other row, List.mem_map_of_mem member, ?_, ?_⟩
    · rw [between_iff, retype_pair]
      exact between_iff.mp between
    · rw [retype_of_between between]

theorem related_update_of_ne (differs : (left, right) ≠ (first, second)) :
    (svc.update first second type).Related left right kind ↔ svc.Related left right kind := by
  have kept : ∀ row, Between left right row → retype first second type row = row := by
    intro row between
    apply retype_of_not
    intro same
    exact differs ((between_iff.mp between).symm.trans (between_iff.mp same))
  constructor
  · rintro ⟨row, member, between, rfl⟩
    rw [update_friends, List.mem_map] at member
    obtain ⟨before, stored, rfl⟩ := member
    rw [between_iff, retype_pair, ← between_iff] at between
    rw [kept before between]
    exact ⟨before, stored, between, rfl⟩
  · rintro ⟨row, member, between, rfl⟩
    exact ⟨row, List.mem_map.mpr ⟨row, member, kept row between⟩, between, rfl⟩

theorem count_update_of_ne (differs : role ≠ first) :
    (svc.update first second type).count role kind = svc.count role kind := by
  rw [count, count, update_friends, List.countP_map]
  apply List.countP_congr
  intro row _
  by_cases between : Between first second row
  · have away : row.roleID ≠ role := fun same => differs (same.symm.trans between.1)
    simp [retype_of_between between, OfType, away]
  · simp [retype_of_not between]

theorem count_update_le (differs : kind ≠ type) :
    (svc.update first second type).count role kind ≤ svc.count role kind := by
  rw [count, count, update_friends, List.countP_map]
  apply List.countP_mono_left
  intro row _
  by_cases between : Between first second row
  · simp [retype_of_between between, OfType, differs.symm]
  · simp [retype_of_not between]

/-- The row of a pair is counted under its new type. -/
theorem count_update_self (distinct : (svc.friends.map pair).Nodup)
    (related : svc.Related first second kind) (differs : kind ≠ type) :
    (svc.update first second type).count first type = svc.count first type + 1 := by
  obtain ⟨row, member, between, rfl⟩ := related
  have changed := KeyedTable.countP_change distinct member
    (fun row => { row with friendType := type }) (fun row => OfType first type row)
  have before : ¬ OfType first type row := fun counted => differs counted.2
  have after : OfType first type { row with friendType := type } := ⟨between.1, rfl⟩
  have same : (fun other => if pair other = pair row then { other with friendType := type }
      else other) = retype first second type := by
    funext other
    simp only [retype, between_iff, between_iff.mp between]
  rw [same] at changed
  simp only [before, after, decide_true, decide_false, ↓reduceIte, Bool.false_eq_true,
    Nat.add_zero] at changed
  exact changed

end Updating

section Writing

theorem insert_eq_some (svc : FriendTables) (quotable : svc.quotable row.friendName = true) :
    svc.insert row = some (svc.append row) := if_pos quotable

theorem insert_eq_none (svc : FriendTables) (quotable : svc.quotable row.friendName = false) :
    svc.insert row = none := if_neg (by simp [quotable])

theorem related_append : (svc.append row).Related left right kind ↔
    svc.Related left right kind ∨ Between left right row ∧ row.friendType = kind := by
  rw [Related, append]
  dsimp only
  simp only [List.mem_append, List.mem_singleton, or_and_right, exists_or, exists_eq_left]
  rfl

theorem count_append : (svc.append row).count role kind =
    svc.count role kind + if OfType role kind row then 1 else 0 := by
  rw [count, append, List.countP_append, List.countP_singleton, count]
  simp only [decide_eq_true_eq]

@[simp] theorem limit_append : (svc.append row).limit role = svc.limit role := rfl

theorem related_delete : (svc.delete first second).Related left right kind ↔
    (left, right) ≠ (first, second) ∧ svc.Related left right kind := by
  constructor
  · rintro ⟨row, member, between, rfl⟩
    obtain ⟨stored, other⟩ := List.mem_filter.mp member
    refine ⟨?_, row, stored, between, rfl⟩
    intro same
    apply of_decide_eq_true other
    rw [between_iff, ← same]
    exact between_iff.mp between
  · rintro ⟨differs, row, stored, between, rfl⟩
    refine ⟨row, List.mem_filter.mpr ⟨stored, decide_eq_true ?_⟩, between, rfl⟩
    intro same
    exact differs ((between_iff.mp between).symm.trans (between_iff.mp same))

theorem count_delete_le : (svc.delete first second).count role kind ≤ svc.count role kind :=
  List.filter_sublist.countP_le

end Writing

section Effects

/-- Deleting both directions needs nothing. -/
theorem Mutual.parted (sound : svc.Mutual) :
    ((svc.delete first second).delete second first).Mutual where
  unique := sound.unique.sublist ((List.filter_sublist.trans List.filter_sublist).map _)
  irreflexive role type related :=
    sound.irreflexive role type (related_delete.mp (related_delete.mp related).2).2
  symmetric left right type := by
    simp only [related_delete, sound.symmetric left right type, Prod.mk.injEq, ne_eq]
    tauto
  limited role type :=
    Nat.le_trans count_delete_le (Nat.le_trans count_delete_le (sound.limited role type))

/-- The first statement leaves the row of the other direction. -/
theorem Mutual.back (sound : svc.Mutual) (found : svc.select first second = some row) :
    (svc.update first second type).Related second first row.friendType := by
  rw [related_update_of_ne]
  · exact (sound.symmetric _ _ _).mp (Related.of_select found)
  · intro same
    exact sound.ne found (Prod.mk.inj same).2

theorem related_reviseBoth (sound : svc.Mutual) (found : svc.select first second = some row) :
    (svc.reviseBoth first second type).Related left right kind ↔
      if (left, right) = (first, second) ∨ (left, right) = (second, first) then kind = type
      else svc.Related left right kind := by
  rw [reviseBoth]
  by_cases backward : (left, right) = (second, first)
  · obtain ⟨rfl, rfl⟩ := Prod.mk.inj backward
    rw [if_pos (Or.inr rfl), related_update_self (sound.back found)]
  · rw [related_update_of_ne backward]
    by_cases forward : (left, right) = (first, second)
    · obtain ⟨rfl, rfl⟩ := Prod.mk.inj forward
      rw [if_pos (Or.inl rfl), related_update_self (Related.of_select found)]
    · rw [related_update_of_ne forward, if_neg (not_or.mpr ⟨forward, backward⟩)]

/-- A new type for both directions needs room for it at both roles. -/
theorem Mutual.revised_iff (sound : svc.Mutual) (found : svc.select first second = some row)
    (differs : row.friendType ≠ type) :
    (svc.reviseBoth first second type).Mutual ↔ svc.Room first second type := by
  have apart := sound.ne found
  have there := Related.of_select found
  have distinct : ((svc.update first second type).friends.map pair).Nodup := by
    rw [update_pairs]
    exact sound.unique
  have firstCount : (svc.reviseBoth first second type).count first type =
      svc.count first type + 1 := by
    rw [reviseBoth, count_update_of_ne apart, count_update_self sound.unique there differs]
  have secondCount : (svc.reviseBoth first second type).count second type =
      svc.count second type + 1 := by
    rw [reviseBoth, count_update_self distinct (sound.back found) differs,
      count_update_of_ne apart.symm]
  constructor
  · intro kept
    have firstLimited := kept.limited first type
    have secondLimited := kept.limited second type
    rw [firstCount] at firstLimited
    rw [secondCount] at secondLimited
    exact ⟨firstLimited, secondLimited⟩
  · intro room
    refine ⟨?_, ?_, ?_, ?_⟩
    · rw [reviseBoth, update_pairs]
      exact distinct
    · intro role kind related
      rw [related_reviseBoth sound found, if_neg] at related
      · exact sound.irreflexive role kind related
      · rintro (same | same)
        · exact apart ((Prod.mk.inj same).1.symm.trans (Prod.mk.inj same).2)
        · exact apart ((Prod.mk.inj same).2.symm.trans (Prod.mk.inj same).1)
    · intro left right kind
      rw [related_reviseBoth sound found, related_reviseBoth sound found,
        sound.symmetric left right kind]
      simp only [Prod.mk.injEq]
      have swap : left = first ∧ right = second ∨ left = second ∧ right = first ↔
          right = first ∧ left = second ∨ right = second ∧ left = first := by tauto
      simp only [swap]
    · intro role kind
      by_cases same : kind = type
      · subst same
        by_cases atFirst : role = first
        · subst atFirst
          rw [firstCount]
          exact room.1
        · by_cases atSecond : role = second
          · subst atSecond
            rw [secondCount]
            exact room.2
          · rw [reviseBoth, count_update_of_ne atSecond, count_update_of_ne atFirst]
            exact sound.limited role kind
      · exact Nat.le_trans (count_update_le same)
          (Nat.le_trans (count_update_le same) (sound.limited role kind))

/-- A row without the row of the other direction breaks the relation. -/
theorem Mutual.not_append (sound : svc.Mutual) (missing : svc.select first second = none)
    (between : Between first second row) : ¬ (svc.append row).Mutual := by
  intro kept
  have there : (svc.append row).Related first second row.friendType :=
    related_append.mpr (Or.inr ⟨between, rfl⟩)
  rcases related_append.mp ((kept.symmetric _ _ _).mp there) with back | ⟨same, -⟩
  · exact select_eq_none_iff.mp missing _ ((sound.symmetric _ _ _).mp back)
  · have loop : first = second := between.1.symm.trans same.1
    subst loop
    exact kept.irreflexive _ _ there

theorem pair_not_mem (missing : svc.select first second = none) :
    (first, second) ∉ svc.friends.map pair := by
  intro member
  obtain ⟨row, stored, same⟩ := List.mem_map.mp member
  exact select_eq_none_iff.mp missing row.friendType ⟨row, stored, between_iff.mpr same, rfl⟩

theorem Mutual.back_none (sound : svc.Mutual) (missing : svc.select first second = none) :
    svc.select second first = none := by
  rw [select_eq_none_iff] at missing ⊢
  intro type related
  exact missing type ((sound.symmetric _ _ _).mp related)

section Joining

variable {there back : DBFriend}

theorem count_joined (thither : Between first second there) (hither : Between second first back)
    (same : back.friendType = there.friendType) :
    ((svc.append there).append back).count role kind = svc.count role kind +
      (if first = role ∧ there.friendType = kind then 1 else 0) +
      (if second = role ∧ there.friendType = kind then 1 else 0) := by
  simp only [count_append, OfType, thither.1, hither.1, same]

theorem related_joined (thither : Between first second there) (hither : Between second first back)
    (same : back.friendType = there.friendType) :
    ((svc.append there).append back).Related left right kind ↔ svc.Related left right kind ∨
      (((left, right) = (first, second) ∨ (left, right) = (second, first)) ∧
        there.friendType = kind) := by
  rw [related_append, related_append, between_iff, between_iff, between_iff.mp thither,
    between_iff.mp hither, same, or_assoc, ← or_and_right]
  simp only [eq_comm]

theorem Mutual.unique_joined (sound : svc.Mutual) (missing : svc.select first second = none)
    (thither : Between first second there) (hither : Between second first back)
    (apart : first ≠ second) : (((svc.append there).append back).friends.map pair).Nodup := by
  rw [append, append, List.append_assoc, List.map_append, List.nodup_append']
  refine ⟨sound.unique, ?_, ?_⟩
  · simp [between_iff.mp thither, between_iff.mp hither, apart]
  · have thereNew := pair_not_mem missing
    have backNew := pair_not_mem (sound.back_none missing)
    rw [← between_iff.mp thither] at thereNew
    rw [← between_iff.mp hither] at backNew
    simp [thereNew, backNew]

/-- The rows of both directions need room at both roles. -/
theorem Mutual.joined_iff (sound : svc.Mutual) (missing : svc.select first second = none)
    (thither : Between first second there) (hither : Between second first back)
    (same : back.friendType = there.friendType) :
    ((svc.append there).append back).Mutual ↔
      first ≠ second ∧ svc.Room first second there.friendType := by
  constructor
  · intro kept
    have apart : first ≠ second := by
      rintro rfl
      apply kept.irreflexive first there.friendType
      exact (related_joined thither hither same).mpr (Or.inr ⟨Or.inl rfl, rfl⟩)
    have firstLimited := kept.limited first there.friendType
    have secondLimited := kept.limited second there.friendType
    rw [count_joined thither hither same] at firstLimited secondLimited
    simp only [and_true, ↓reduceIte, apart, apart.symm] at firstLimited secondLimited
    exact ⟨apart, firstLimited, secondLimited⟩
  · rintro ⟨apart, room⟩
    refine ⟨sound.unique_joined missing thither hither apart, ?_, ?_, ?_⟩
    · intro role kind related
      rcases (related_joined thither hither same).mp related with before | ⟨loop, -⟩
      · exact sound.irreflexive role kind before
      · rcases loop with loop | loop
        · exact apart ((Prod.mk.inj loop).1.symm.trans (Prod.mk.inj loop).2)
        · exact apart ((Prod.mk.inj loop).2.symm.trans (Prod.mk.inj loop).1)
    · intro left right kind
      rw [related_joined thither hither same, related_joined thither hither same,
        sound.symmetric left right kind]
      simp only [Prod.mk.injEq]
      tauto
    · intro role kind
      have before := sound.limited role kind
      rw [count_joined thither hither same]
      by_cases sameType : there.friendType = kind
      · subst sameType
        by_cases atFirst : first = role
        · subst atFirst
          simpa [apart.symm] using Nat.succ_le_of_lt room.1
        · by_cases atSecond : second = role
          · subst atSecond
            simpa [apart] using Nat.succ_le_of_lt room.2
          · simpa [atFirst, atSecond] using before
      · simpa [sameType] using before

end Joining

end Effects

/-- The condition speaks about a request that has passed its checks. -/
def Allows {Target : Type} (checked : Checked Target) (holds : Target → Prop) : Prop :=
  match checked with
  | .refused _ => True
  | .passed target => holds target

instance {Target : Type} (checked : Checked Target) (holds : Target → Prop)
    [DecidablePred holds] : Decidable (Allows checked holds) :=
  match checked with
  | .refused _ => .isTrue trivial
  | .passed target => inferInstanceAs (Decidable (holds target))

/-- A related pair of another type needs room, and an unrelated one meets a condition. -/
def Fits (svc : FriendTables) (first second : UInt32) (type : UInt8) (unrelated : Prop) : Prop :=
  match svc.select first second with
  | some row => row.friendType = type ∨ svc.Room first second type
  | none => unrelated

instance (svc : FriendTables) (first second : UInt32) (type : UInt8) (unrelated : Prop)
    [Decidable unrelated] : Decidable (Fits svc first second type unrelated) :=
  match found : svc.select first second with
  | some row => decidable_of_iff (row.friendType = type ∨ svc.Room first second type)
      (by rw [Fits, found])
  | none => decidable_of_iff unrelated (by rw [Fits, found])

/-- A black-listed role or an enemy has a row already. -/
def AddFits (svc : FriendTables) (roleID : UInt32) (friendName : List UInt8) (friendType : UInt8)
    (target : DBRole × UInt32 × UInt8) : Prop :=
  friendType = 1 ∨ svc.Fits roleID target.2.1 friendType (svc.quotable friendName = false)

instance (svc : FriendTables) (roleID : UInt32) (friendName : List UInt8) (friendType : UInt8)
    (target : DBRole × UInt32 × UInt8) :
    Decidable (AddFits svc roleID friendName friendType target) :=
  inferInstanceAs (Decidable (_ ∨ _))

/-- A new friend is another role, and the own name can be stored. -/
def AgreeFits (svc : FriendTables) (roleID : UInt32) (friendRoleName : List UInt8)
    (target : DBRole × UInt32 × UInt8) : Prop :=
  svc.Fits roleID target.2.1 1 (svc.quotable friendRoleName = true →
    svc.quotable target.1.roleName = true ∧ roleID ≠ target.2.1 ∧ svc.Room roleID target.2.1 1)

instance (svc : FriendTables) (roleID : UInt32) (friendRoleName : List UInt8)
    (target : DBRole × UInt32 × UInt8) : Decidable (AgreeFits svc roleID friendRoleName target) :=
  inferInstanceAs (Decidable (Fits _ _ _ _ (_ → _)))

/-- The packet adds no black-listed role or enemy without a row, no role agrees to itself, no stored
name spoils a statement, and every new row finds room at both roles. -/
def Harmless (svc : FriendTables) (packet : FriendPacket) : Prop :=
  match packet.message with
  | .addFriend (some (friendName, friendType)) =>
      Allows (svc.addFriendTarget packet.online packet.roleID friendName friendType)
        (svc.AddFits packet.roleID friendName friendType)
  | .reviseFriendType (some (friendRoleID, friendType)) =>
      Allows (svc.reviseChecks packet.roleID friendRoleID friendType)
        fun _ => friendType = 1 ∨ svc.Room packet.roleID friendRoleID friendType
  | .agreeFriend (some friendRoleName) =>
      Allows (svc.agreeTarget packet.online packet.roleID friendRoleName)
        (svc.AgreeFits packet.roleID friendRoleName)
  | _ => True

/-- The relation stays mutual, and a refused packet leaves the tables. -/
structure Keeps (svc : FriendTables) (result : UInt32 × FriendTables) : Prop where
  relation : result.2.Mutual
  refusal : result.1 ≠ 0 → result.2 = svc

section Steps

theorem Mutual.keeps (sound : svc.Mutual) (retCode : UInt32) : svc.Keeps (retCode, svc) where
  relation := sound
  refusal _ := rfl

theorem addHostile_keeps_iff (sound : svc.Mutual) (friendName : List UInt8) (proID : UInt8) :
    svc.Keeps (svc.addHostile first second friendName type proID) ↔
      svc.Fits first second type (svc.quotable friendName = false) := by
  unfold addHostile Fits
  cases found : svc.select first second with
  | some row =>
      dsimp only
      split_ifs with same
      · simp only [same, true_or, iff_true]
        exact sound.keeps _
      · have differs : row.friendType ≠ type := fun equal => same equal.symm
        rw [or_iff_right differs, ← sound.revised_iff found differs]
        exact ⟨Keeps.relation, fun kept => ⟨kept, fun refused => absurd rfl refused⟩⟩
  | none =>
      dsimp only
      rw [insert]
      cases quotable : svc.quotable friendName with
      | false => simpa using sound.keeps _
      | true =>
          simp only [reduceIte, Bool.true_eq_false, iff_false]
          intro kept
          exact sound.not_append found ⟨rfl, rfl⟩ kept.relation

/-- A checked request keeps the relation if what follows the checks does. -/
theorem checked_keeps_iff {Target : Type} (sound : svc.Mutual) (checked : Checked Target)
    (act : Target → UInt32 × FriendTables) (holds : Target → Prop)
    (each : ∀ target, checked = .passed target → (svc.Keeps (act target) ↔ holds target)) :
    svc.Keeps (svc.afterChecks checked act) ↔ Allows checked holds := by
  cases checked with
  | refused retCode => exact iff_of_true (sound.keeps retCode) trivial
  | passed target => exact each target rfl

/-- The code zero refuses nothing. -/
theorem accepted_keeps_iff : svc.Keeps (0, next) ↔ next.Mutual :=
  ⟨Keeps.relation, fun kept => ⟨kept, fun refused => absurd rfl refused⟩⟩

theorem processAddFriend_keeps_iff (sound : svc.Mutual) (online : OnlineRoles) (roleID : UInt32)
    (friendName : List UInt8) (friendType : UInt8) :
    svc.Keeps (svc.processAddFriend online roleID (some (friendName, friendType))) ↔
      Allows (svc.addFriendTarget online roleID friendName friendType)
        (svc.AddFits roleID friendName friendType) := by
  apply checked_keeps_iff sound
  rintro ⟨self, friendRoleID, proID⟩ -
  unfold AddFits
  dsimp only
  by_cases friend : friendType = 1
  · simp only [friend, true_or, iff_true]
    exact sound.keeps _
  · rw [if_neg friend, or_iff_right friend]
    exact addHostile_keeps_iff sound friendName self.proID

theorem processDeleteFriend_keeps (sound : svc.Mutual) (roleID : UInt32) (body : Option UInt32) :
    svc.Keeps (svc.processDeleteFriend roleID body) := by
  unfold processDeleteFriend
  cases body with
  | none => exact sound.keeps _
  | some friendRoleID =>
      dsimp only
      cases svc.select roleID friendRoleID with
      | none => exact sound.keeps _
      | some row => exact accepted_keeps_iff.mpr sound.parted

/-- The checks of message 1204 leave only a pair of another type. -/
theorem reviseChecks_passed (passed : svc.reviseChecks first second type = .passed ()) :
    ∃ row, svc.select first second = some row ∧ row.friendType ≠ type := by
  unfold reviseChecks at passed
  split_ifs at passed
  cases found : svc.select first second with
  | none => rw [found] at passed; cases passed
  | some there =>
      cases reverse : svc.select second first with
      | none => rw [found, reverse] at passed; cases passed
      | some back =>
          rw [found, reverse] at passed
          dsimp only at passed
          split_ifs at passed with sameBoth sameType
          exact ⟨there, rfl, sameType⟩

theorem processReviseFriendType_keeps_iff (sound : svc.Mutual) (roleID friendRoleID : UInt32)
    (friendType : UInt8) :
    svc.Keeps (svc.processReviseFriendType roleID (some (friendRoleID, friendType))) ↔
      Allows (svc.reviseChecks roleID friendRoleID friendType)
        fun _ => friendType = 1 ∨ svc.Room roleID friendRoleID friendType := by
  apply checked_keeps_iff sound
  rintro ⟨⟩ passed
  obtain ⟨row, found, differs⟩ := reviseChecks_passed passed
  by_cases friend : friendType = 1
  · simp only [friend, true_or, iff_true]
    exact sound.keeps _
  · rw [if_neg friend, or_iff_right friend, accepted_keeps_iff]
    exact sound.revised_iff found differs

theorem insertBoth_keeps_iff (sound : svc.Mutual) (missing : svc.select first second = none)
    {there back : DBFriend} (thither : Between first second there)
    (hither : Between second first back) (same : back.friendType = there.friendType) :
    svc.Keeps (svc.insertBoth there back) ↔ (svc.quotable there.friendName = true →
      svc.quotable back.friendName = true ∧ first ≠ second ∧
        svc.Room first second there.friendType) := by
  unfold insertBoth
  cases quotable : svc.quotable there.friendName with
  | false =>
      rw [insert_eq_none svc quotable]
      simpa using sound.keeps _
  | true =>
      rw [insert_eq_some svc quotable]
      dsimp only
      cases last : svc.quotable back.friendName with
      | false =>
          rw [insert_eq_none (svc.append there) last]
          simp only [Bool.false_eq_true, false_and, imp_false, not_true_eq_false, iff_false]
          intro kept
          exact sound.not_append missing thither kept.relation
      | true =>
          rw [insert_eq_some (svc.append there) last]
          simp only [true_and, forall_const]
          rw [accepted_keeps_iff]
          exact sound.joined_iff missing thither hither same

theorem processAgreeFriend_keeps_iff (sound : svc.Mutual) (online : OnlineRoles) (roleID : UInt32)
    (friendRoleName : List UInt8) :
    svc.Keeps (svc.processAgreeFriend online roleID (some friendRoleName)) ↔
      Allows (svc.agreeTarget online roleID friendRoleName)
        (svc.AgreeFits roleID friendRoleName) := by
  apply checked_keeps_iff sound
  rintro ⟨self, friendRoleID, proID⟩ -
  unfold AgreeFits Fits
  dsimp only
  cases found : svc.select roleID friendRoleID with
  | none => exact insertBoth_keeps_iff sound found ⟨rfl, rfl⟩ ⟨rfl, rfl⟩ rfl
  | some row =>
      dsimp only
      split_ifs with friend
      · simp only [friend, true_or, iff_true]
        exact sound.keeps _
      · rw [or_iff_right friend, accepted_keeps_iff]
        exact sound.revised_iff found friend

/-- One packet from a mutual relation keeps it exactly if it is harmless. -/
theorem onProcessPacket_keeps_iff (sound : svc.Mutual) (packet : FriendPacket) :
    svc.Keeps (svc.onProcessPacket packet) ↔ svc.Harmless packet := by
  obtain ⟨online, roleID, message⟩ := packet
  cases message with
  | addFriend body =>
      cases body with
      | none => exact iff_of_true (sound.keeps errSystemSerError) trivial
      | some body => exact processAddFriend_keeps_iff sound online roleID body.1 body.2
  | deleteFriend body => exact iff_of_true (processDeleteFriend_keeps sound roleID body) trivial
  | reviseFriendType body =>
      cases body with
      | none => exact iff_of_true (sound.keeps errSystemDbError) trivial
      | some body => exact processReviseFriendType_keeps_iff sound roleID body.1 body.2
  | agreeFriend body =>
      cases body with
      | none => exact iff_of_true (sound.keeps errSystemSerError) trivial
      | some body => exact processAgreeFriend_keeps_iff sound online roleID body

end Steps

/-- In a run from a mutual relation, every state is mutual and every refused packet leaves the
tables exactly if every packet is harmless. -/
theorem run_mutual_iff {start final : FriendTables} {history : History FriendTables FriendPacket}
    (sound : start.Mutual) (run : Run step anyEvent start history final) :
    (final.Mutual ∧ ∀ entry ∈ history, entry.1.Mutual ∧
      ((entry.1.onProcessPacket entry.2).1 ≠ 0 →
        (entry.1.onProcessPacket entry.2).2 = entry.1)) ↔
      ∀ entry ∈ history, entry.1.Harmless entry.2 := by
  induction run with
  | nil => simpa using sound
  | @snoc history state next packet before _ enabled ih =>
      obtain rfl := Option.some.inj enabled
      simp only [List.forall_mem_append, List.forall_mem_singleton]
      constructor
      · rintro ⟨relation, earlier, kept, refusal⟩
        refine ⟨ih.mp ⟨kept, earlier⟩, ?_⟩
        rw [← onProcessPacket_keeps_iff kept]
        exact ⟨relation, refusal⟩
      · rintro ⟨earlier, harmless⟩
        obtain ⟨kept, all⟩ := ih.mpr earlier
        have keeps := (onProcessPacket_keeps_iff kept packet).mpr harmless
        exact ⟨keeps.relation, all, kept, keeps.refusal⟩

/-- Roles 1 and 2 exist, and table `Friend` is empty. -/
def twoRoles : FriendTables where
  role roleID := if roleID = 1 then some ⟨[65], 1, 0⟩ else some ⟨[66], 1, 0⟩
  named name := if name = [65] then .record (1, 1) else if name = [66] then .record (2, 1)
    else .noRecord
  quotable name := 39 ∉ name
  friends := []

theorem twoRoles_mutual : twoRoles.Mutual where
  unique := List.nodup_nil
  irreflexive role type related := by
    obtain ⟨row, member, -⟩ := related
    cases member
  symmetric first second type := by simp [Related, twoRoles]
  limited role type := Nat.zero_le _

def everyone : OnlineRoles := ⟨fun _ => 1, id⟩

instance (svc : FriendTables) : (packet : FriendPacket) → Decidable (svc.Harmless packet)
  | ⟨online, roleID, .addFriend (some (friendName, friendType))⟩ =>
      inferInstanceAs (Decidable (Allows (svc.addFriendTarget online roleID friendName friendType)
        (svc.AddFits roleID friendName friendType)))
  | ⟨_, roleID, .reviseFriendType (some (friendRoleID, friendType))⟩ =>
      inferInstanceAs (Decidable (Allows (svc.reviseChecks roleID friendRoleID friendType)
        fun _ => friendType = 1 ∨ svc.Room roleID friendRoleID friendType))
  | ⟨online, roleID, .agreeFriend (some friendRoleName)⟩ =>
      inferInstanceAs (Decidable (Allows (svc.agreeTarget online roleID friendRoleName)
        (svc.AgreeFits roleID friendRoleName)))
  | ⟨_, _, .addFriend none⟩ | ⟨_, _, .reviseFriendType none⟩ | ⟨_, _, .agreeFriend none⟩
  | ⟨_, _, .deleteFriend _⟩ => .isTrue trivial

/-- Role 1 asks role 2, which agrees, and then the pair becomes hostile and friendly again. -/
theorem run_mutual_iff_four : ∃ history final, Run step anyEvent twoRoles history final ∧
    final.friends = [⟨2, 1, [65], 1, 1⟩, ⟨1, 2, [66], 1, 1⟩] ∧ final.Mutual := by
  obtain ⟨history, final, run, checked⟩ := exists_run_of_replay step anyEvent twoRoles
    [⟨everyone, 1, .addFriend (some ([66], 1))⟩, ⟨everyone, 2, .agreeFriend (some [65])⟩,
      ⟨everyone, 1, .reviseFriendType (some (2, 3))⟩, ⟨everyone, 2, .agreeFriend (some [65])⟩]
    (fun history final => history.all (fun entry => entry.1.Harmless entry.2) &&
      decide (final.friends = [⟨2, 1, [65], 1, 1⟩, ⟨1, 2, [66], 1, 1⟩])) (by decide +kernel)
  rw [Bool.and_eq_true, List.all_eq_true] at checked
  have harmless : ∀ entry ∈ history, entry.1.Harmless entry.2 := by
    intro entry member
    exact of_decide_eq_true (checked.1 entry member)
  exact ⟨history, final, run, of_decide_eq_true checked.2,
    ((run_mutual_iff twoRoles_mutual run).mpr harmless).1⟩

/-- Role 1 puts role 2 on its black list, and role 2 gets no row. -/
theorem run_not_mutual :
    ¬ ∀ (start final : FriendTables) (history : History FriendTables FriendPacket), start.Mutual →
      Run step anyEvent start history final → final.Mutual ∧
      ∀ entry ∈ history, (entry.1.onProcessPacket entry.2).1 ≠ 0 →
        (entry.1.onProcessPacket entry.2).2 = entry.1 := by
  intro claim
  obtain ⟨history, final, run, stored⟩ := exists_run_of_replay step anyEvent twoRoles
    [⟨everyone, 1, .addFriend (some ([66], 2))⟩]
    (fun _ final => final.friends = [⟨1, 2, [66], 2, 1⟩]) (by decide +kernel)
  have friends := of_decide_eq_true stored
  have symmetric := (claim twoRoles final history twoRoles_mutual run).1.symmetric 1 2 2
  have back := symmetric.mp ⟨⟨1, 2, [66], 2, 1⟩, by simp [friends], ⟨rfl, rfl⟩, rfl⟩
  obtain ⟨row, member, between, -⟩ := back
  rw [friends, List.mem_singleton] at member
  subst member
  exact absurd between (by decide)

end FriendTables

end AppSvr.MainServer
