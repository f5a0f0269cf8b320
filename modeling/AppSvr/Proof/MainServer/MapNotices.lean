/-
This file proves which roles of a map receive the notices, and which records they get.
-/

import AppSvr.Construction.MainServer.MapNotices
import Mathlib.Data.List.Induction

namespace AppSvr.MainServer

/-- The records that a role receives from the packets. -/
def received {Record : Type} (id : UInt32) (sent : List (Notice Record)) : List Record :=
  sent.flatMap fun notice =>
    notice.lrid.flatMap fun other => if other = id then notice.records else []

/-- These are the records of the other roles. -/
def otherRecords (roleID : UInt32) (entries : List (UInt32 × ArchvRoute)) :
    List ArchvRoleMoveDesc :=
  (entries.filter fun entry => roleID ≠ entry.1).map fun entry =>
    ⟨entry.1, roleMoveSpeed, entry.2⟩

/-- The role gets the record of every other role exactly once, and nobody else gets a packet. -/
def InformsAlone (mapRole : MapRole) (roleID : UInt32) (sent : List (Notice ArchvRoleMoveDesc)) :
    Prop :=
  (∀ notice ∈ sent, ∀ id ∈ notice.lrid, id = roleID) ∧
    (received roleID sent).Perm (otherRecords roleID mapRole.rows)

section Pages

variable (roleID : UInt32) (size : Nat)

theorem otherRecords_append (first last : List (UInt32 × ArchvRoute)) :
    otherRecords roleID (first ++ last) =
      otherRecords roleID first ++ otherRecords roleID last := by
  rw [otherRecords, List.filter_append, List.map_append]
  rfl

/-- The records grow in every pass. -/
theorem larmd_next (state : Paging) (entry : UInt32 × ArchvRoute) :
    (state.next roleID size entry).larmd = state.larmd ++ otherRecords roleID [entry] := by
  have added : (state.next roleID size entry).larmd = if roleID ≠ entry.1 then
      state.larmd ++ [⟨entry.1, roleMoveSpeed, entry.2⟩] else state.larmd := by
    unfold Paging.next
    dsimp only
    by_cases fills : state.iTmp < rnumPerSend ∧ state.iCount + 1 < size
    · rw [if_pos fills]
    · rw [if_neg fills]
  rw [added]
  by_cases differs : roleID ≠ entry.1
  · rw [if_pos differs]
    simp [otherRecords, differs]
  · rw [if_neg differs]
    simp [otherRecords, differs]

/-- Before the page is full, nothing is sent. -/
theorem foldl_next_filling (entries : List (UInt32 × ArchvRoute)) (lrid : List UInt32)
    (few : entries.length ≤ rnumPerSend) (more : entries.length < size) :
    entries.foldl (Paging.next roleID size) ⟨lrid, [], 0, 0, []⟩ =
      ⟨lrid, otherRecords roleID entries, entries.length, entries.length, []⟩ := by
  induction entries using List.reverseRecOn with
  | nil => rfl
  | append_singleton entries entry ih =>
      rw [List.length_append, List.length_singleton] at few more
      have before := ih (by omega) (by omega)
      have grows := larmd_next roleID size
        ⟨lrid, otherRecords roleID entries, entries.length, entries.length, []⟩ entry
      rw [List.foldl_append, before, List.foldl_cons, List.foldl_nil, otherRecords_append,
        ← grows, List.length_append, List.length_singleton]
      unfold Paging.next
      dsimp only
      rw [if_pos ⟨by omega, more⟩]

/-- A list of receivers that is empty stays empty. -/
theorem next_silent {state : Paging} (nobody : state.lrid = []) (entry : UInt32 × ArchvRoute) :
    (state.next roleID size entry).lrid = [] ∧ ∃ pages : List (Notice ArchvRoleMoveDesc),
      (state.next roleID size entry).sent = state.sent ++ pages ∧
        ∀ page ∈ pages, page.lrid = [] := by
  unfold Paging.next
  dsimp only
  by_cases fills : state.iTmp < rnumPerSend ∧ state.iCount + 1 < size
  · rw [if_pos fills]
    exact ⟨nobody, [], (List.append_nil _).symm, List.forall_mem_nil _⟩
  · rw [if_neg fills]
    exact ⟨rfl, [_], rfl, List.forall_mem_singleton.mpr nobody⟩

/-- After the first page, nobody gets a packet. -/
theorem foldl_next_silent (entries : List (UInt32 × ArchvRoute)) (state : Paging)
    (nobody : state.lrid = []) : ∃ pages : List (Notice ArchvRoleMoveDesc),
      (entries.foldl (Paging.next roleID size) state).sent = state.sent ++ pages ∧
        ∀ page ∈ pages, page.lrid = [] := by
  induction entries generalizing state with
  | nil => exact ⟨[], (List.append_nil _).symm, List.forall_mem_nil _⟩
  | cons entry entries ih =>
      obtain ⟨still, first, sent, silent⟩ := next_silent roleID size nobody entry
      obtain ⟨later, result, silentLater⟩ := ih _ still
      refine ⟨first ++ later, ?_, List.forall_mem_append.mpr ⟨silent, silentLater⟩⟩
      rw [List.foldl_cons, result, sent, List.append_assoc]

/-- Only the first page reaches the role. -/
theorem notifyAllRoleInfo_eq (mapRole : MapRole) (some : mapRole.rows ≠ []) :
    ∃ pages : List (Notice ArchvRoleMoveDesc), notifyAllRoleInfo mapRole roleID =
      ⟨[roleID], otherRecords roleID (mapRole.rows.take (rnumPerSend + 1))⟩ :: pages ∧
        ∀ page ∈ pages, page.lrid = [] := by
  let count := min (mapRole.rows.length - 1) rnumPerSend
  have positive := List.length_pos_iff.mpr some
  have inside : count < mapRole.rows.length := by omega
  have parts : mapRole.rows = mapRole.rows.take count ++
      mapRole.rows[count] :: mapRole.rows.drop (count + 1) := by
    rw [List.getElem_cons_drop, List.take_append_drop]
  have first : mapRole.rows.take (rnumPerSend + 1) =
      mapRole.rows.take count ++ [mapRole.rows[count]] := by
    rw [← List.take_succ_eq_append_getElem inside]
    by_cases many : mapRole.rows.length ≤ rnumPerSend + 1
    · rw [List.take_of_length_le many, List.take_of_length_le (by omega)]
    · have full : count = rnumPerSend := by omega
      rw [full]
  have length : (mapRole.rows.take count).length = count := List.length_take_of_le (Nat.le_of_lt inside)
  have filled := foldl_next_filling roleID mapRole.rows.length (mapRole.rows.take count)
    [roleID] (by omega) (by omega)
  have grows := larmd_next roleID mapRole.rows.length
    ⟨[roleID], otherRecords roleID (mapRole.rows.take count), count, count, []⟩
    mapRole.rows[count]
  rw [length] at filled
  have flushed : Paging.next roleID mapRole.rows.length
      ⟨[roleID], otherRecords roleID (mapRole.rows.take count), count, count, []⟩
      mapRole.rows[count] =
        ⟨[], otherRecords roleID (mapRole.rows.take (rnumPerSend + 1)), count + 1, 0,
          [⟨[roleID], otherRecords roleID (mapRole.rows.take (rnumPerSend + 1))⟩]⟩ := by
    rw [first, otherRecords_append, ← grows]
    unfold Paging.next
    dsimp only
    rw [if_neg (by omega)]
    rfl
  obtain ⟨pages, sent, silent⟩ := foldl_next_silent roleID mapRole.rows.length
    (mapRole.rows.drop (count + 1))
    ⟨[], otherRecords roleID (mapRole.rows.take (rnumPerSend + 1)), count + 1, 0,
      [⟨[roleID], otherRecords roleID (mapRole.rows.take (rnumPerSend + 1))⟩]⟩ rfl
  refine ⟨pages, ?_, silent⟩
  have run : mapRole.rows.foldl (Paging.next roleID mapRole.rows.length)
      ⟨[roleID], [], 0, 0, []⟩ = (mapRole.rows.drop (count + 1)).foldl
        (Paging.next roleID mapRole.rows.length)
        ⟨[], otherRecords roleID (mapRole.rows.take (rnumPerSend + 1)), count + 1, 0,
          [⟨[roleID], otherRecords roleID (mapRole.rows.take (rnumPerSend + 1))⟩]⟩ := by
    conv_lhs => arg 3; rw [parts]
    rw [List.foldl_append, filled, List.foldl_cons, flushed]
  rw [notifyAllRoleInfo, run, sent]
  rfl

end Pages

section Receivers

variable (mapRole : MapRole) (roleID : UInt32)

theorem received_silent {pages : List (Notice ArchvRoleMoveDesc)}
    (silent : ∀ page ∈ pages, page.lrid = []) : received roleID pages = [] := by
  unfold received
  rw [List.flatMap_eq_nil_iff]
  intro page listed
  rw [silent page listed]
  rfl

theorem received_notifyAllRoleInfo : received roleID (notifyAllRoleInfo mapRole roleID) =
    otherRecords roleID (mapRole.rows.take (rnumPerSend + 1)) := by
  by_cases none : mapRole.rows = []
  · rw [notifyAllRoleInfo, none]
    rfl
  · obtain ⟨pages, sent, silent⟩ := notifyAllRoleInfo_eq roleID mapRole none
    have later : received roleID pages = [] := received_silent roleID silent
    rw [sent]
    unfold received at later ⊢
    rw [List.flatMap_cons, later, List.append_nil, List.flatMap_cons, List.flatMap_nil,
      List.append_nil, if_pos rfl]

/-- Nobody else gets a packet. -/
theorem notifyAllRoleInfo_lrid :
    ∀ notice ∈ notifyAllRoleInfo mapRole roleID, ∀ id ∈ notice.lrid, id = roleID := by
  intro notice listed id receives
  by_cases none : mapRole.rows = []
  · rw [notifyAllRoleInfo, none] at listed
    cases listed
  · obtain ⟨pages, sent, silent⟩ := notifyAllRoleInfo_eq roleID mapRole none
    rw [sent] at listed
    rcases List.mem_cons.mp listed with rfl | later
    · exact List.mem_singleton.mp receives
    · rw [silent notice later] at receives
      cases receives

theorem otherRecords_eq_nil_iff (entries : List (UInt32 × ArchvRoute)) :
    otherRecords roleID entries = [] ↔ ∀ entry ∈ entries, entry.1 = roleID := by
  unfold otherRecords
  rw [List.map_eq_nil_iff, List.filter_eq_nil_iff]
  refine forall₂_congr fun entry _ => ?_
  rw [decide_eq_true_eq, not_not]
  exact eq_comm

/-- Only the last role can miss the first page without a loss, when it is the receiver. -/
theorem missing_iff : (∀ entry ∈ mapRole.rows.drop (rnumPerSend + 1), entry.1 = roleID) ↔
    mapRole.rows.length ≤ rnumPerSend + 1 ∨ mapRole.rows.length = rnumPerSend + 2 ∧
      (mapRole.rows.map Prod.fst).getLast? = some roleID := by
  have length := List.length_drop (i := rnumPerSend + 1) (l := mapRole.rows)
  have distinct := mapRole.distinct.sublist
    ((List.drop_sublist (rnumPerSend + 1) mapRole.rows).map Prod.fst)
  have last : rnumPerSend + 1 < mapRole.rows.length →
      ((mapRole.rows.drop (rnumPerSend + 1)).map Prod.fst).getLast? =
        (mapRole.rows.map Prod.fst).getLast? := by
    intro many
    rw [List.map_drop, List.getLast?_drop, List.length_map, if_neg (by omega)]
  cases rest : mapRole.rows.drop (rnumPerSend + 1) with
  | nil =>
      rw [rest, List.length_nil] at length
      exact iff_of_true (List.forall_mem_nil _) (.inl (by omega))
  | cons first others =>
      rw [rest] at length distinct last
      rw [List.length_cons] at length
      cases others with
      | nil =>
          rw [List.length_nil] at length
          have count : mapRole.rows.length = rnumPerSend + 2 := by omega
          have same := last (by omega)
          rw [List.map_cons, List.map_nil, List.getLast?_singleton] at same
          rw [List.forall_mem_singleton, ← same, Option.some.injEq]
          constructor
          · exact fun isLast => .inr ⟨count, isLast⟩
          · rintro (few | ⟨_, isLast⟩)
            · omega
            · exact isLast
      | cons second others =>
          rw [List.length_cons] at length
          refine iff_of_false (fun all => ?_) ?_
          · have one := all first List.mem_cons_self
            have two := all second (List.mem_cons_of_mem _ List.mem_cons_self)
            rw [List.map_cons, List.map_cons, one, two] at distinct
            exact (List.nodup_cons.mp distinct).1 List.mem_cons_self
          · rintro (few | ⟨count, _⟩) <;> omega

theorem informsAlone_iff : InformsAlone mapRole roleID (notifyAllRoleInfo mapRole roleID) ↔
    mapRole.rows.length ≤ rnumPerSend + 1 ∨ mapRole.rows.length = rnumPerSend + 2 ∧
      (mapRole.rows.map Prod.fst).getLast? = some roleID := by
  have parts : otherRecords roleID mapRole.rows =
      otherRecords roleID (mapRole.rows.take (rnumPerSend + 1)) ++
        otherRecords roleID (mapRole.rows.drop (rnumPerSend + 1)) := by
    rw [← otherRecords_append, List.take_append_drop]
  unfold InformsAlone
  rw [and_iff_right (notifyAllRoleInfo_lrid mapRole roleID), received_notifyAllRoleInfo, parts,
    ← missing_iff, ← otherRecords_eq_nil_iff]
  constructor
  · intro same
    have length := same.length_eq
    rw [List.length_append] at length
    exact List.length_eq_zero_iff.mp (by omega)
  · intro none
    rw [none, List.append_nil]

/-- The broadcast goes to all roles. -/
theorem notifyCtStatusBroadcast_lrid (lcs : List ArchvCreatureStatus) :
    (notifyCtStatusBroadcast mapRole lcs).lrid = mapRole.rows.map Prod.fst := by
  have inner (id : UInt32) (lrid : List UInt32) : lcs.foldl (fun lrid status =>
      if 1 = status.creatureFlag ∧ id = status.id then lrid else lrid) lrid = lrid := by
    induction lcs with
    | nil => rfl
    | cons status lcs ih =>
        rw [List.foldl_cons, ite_self]
        exact ih
  have outer (entries : List (UInt32 × ArchvRoute)) (lrid : List UInt32) :
      entries.foldl (fun lrid entry => lcs.foldl (fun lrid status =>
        if 1 = status.creatureFlag ∧ entry.1 = status.id then lrid else lrid) lrid ++
          [entry.1]) lrid = lrid ++ entries.map Prod.fst := by
    induction entries generalizing lrid with
    | nil => exact (List.append_nil lrid).symm
    | cons entry entries ih =>
        rw [List.foldl_cons, ih, inner, List.append_assoc]
        rfl
  exact outer mapRole.rows []

end Receivers

/-- The status of this role changes. -/
def Changed (lcs : List ArchvCreatureStatus) (id : UInt32) : Prop :=
  ∃ status ∈ lcs, status.creatureFlag = 1 ∧ status.id = id

instance (lcs : List ArchvCreatureStatus) (id : UInt32) : Decidable (Changed lcs id) :=
  inferInstanceAs (Decidable (∃ status ∈ lcs, _))

/-- The list of the other roles is complete on a map of at most twenty-one roles, or of twenty-two
when the receiver is the last one. The broadcast leaves nobody out. -/
theorem notices_reach_iff (mapRole : MapRole) (roleID : UInt32) (lcs : List ArchvCreatureStatus) :
    (InformsAlone mapRole roleID (notifyAllRoleInfo mapRole roleID) ↔
      mapRole.rows.length ≤ rnumPerSend + 1 ∨ mapRole.rows.length = rnumPerSend + 2 ∧
        (mapRole.rows.map Prod.fst).getLast? = some roleID) ∧
    ((notifyCtStatusBroadcast mapRole lcs).lrid.Perm
        ((mapRole.rows.map Prod.fst).filter fun id => ¬ Changed lcs id) ↔
      ∀ id ∈ mapRole.rows.map Prod.fst, ¬ Changed lcs id) := by
  refine ⟨informsAlone_iff mapRole roleID, ?_⟩
  rw [notifyCtStatusBroadcast_lrid]
  constructor
  · intro same id listed
    exact of_decide_eq_true (List.mem_filter.mp (same.mem_iff.mp listed)).2
  · intro unchanged
    rw [List.filter_eq_self.mpr fun id listed => decide_eq_true (unchanged id listed)]

/-- A map with twenty-three roles. -/
def crowdedMap : MapRole where
  rows := (List.range 23).map fun index => (UInt32.ofNat (index + 1), ⟨0, []⟩)
  distinct := by decide +kernel

/-- The first role misses the roles behind the first page, and a role learns of its own change. -/
theorem notices_not_reach :
    ¬ (∀ (mapRole : MapRole) (roleID : UInt32), roleID ∈ mapRole.rows.map Prod.fst →
      InformsAlone mapRole roleID (notifyAllRoleInfo mapRole roleID)) ∧
    ¬ ∀ (mapRole : MapRole) (lcs : List ArchvCreatureStatus),
      (notifyCtStatusBroadcast mapRole lcs).lrid.Perm
        ((mapRole.rows.map Prod.fst).filter fun id => ¬ Changed lcs id) := by
  constructor
  · intro claim
    have informs := claim crowdedMap 1 (by decide +kernel)
    rw [informsAlone_iff] at informs
    revert informs
    decide +kernel
  · intro claim
    have length := (claim crowdedMap [⟨1, 0, 1, 2⟩]).length_eq
    revert length
    decide +kernel

end AppSvr.MainServer
