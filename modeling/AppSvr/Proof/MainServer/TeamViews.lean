/-
This file defines parties, which are teams that cannot be malformed, and proves that the functions
of `CoreData` on teams carry out the operations on parties.
-/

import AppSvr.Construction.MainServer.Team
import AppSvr.ToMathlib.Grouping

namespace AppSvr.MainServer

/-- A party has distinct members, and its leader is one of them. -/
@[ext] structure Party where
  leader : UInt32
  members : List UInt32
  distinct : members.Nodup
  leader_mem : leader ∈ members

namespace Party

/-- A new party has its leader only. -/
def found (leader : UInt32) : Party := ⟨leader, [leader], List.nodup_singleton leader, by simp⟩

/-- A stranger joins at the end. -/
def join (party : Party) (roleID : UInt32) (fresh : roleID ∉ party.members) : Party where
  leader := party.leader
  members := party.members ++ [roleID]
  distinct := by
    rw [← List.concat_eq_append]
    exact List.Nodup.concat fresh party.distinct
  leader_mem := List.mem_append_left _ party.leader_mem

/-- A member becomes the leader. -/
def promote (party : Party) (roleID : UInt32) (member : roleID ∈ party.members) : Party where
  leader := roleID
  members := party.members
  distinct := party.distinct
  leader_mem := member

/-- Anybody but the leader can leave. -/
def leave (party : Party) (roleID : UInt32) (other : roleID ≠ party.leader) : Party where
  leader := party.leader
  members := party.members.erase roleID
  distinct := party.distinct.erase roleID
  leader_mem := party.distinct.mem_erase_iff.mpr ⟨other.symm, party.leader_mem⟩

end Party

/-- The status of a role in a party. -/
def statusOf (leader roleID : UInt32) : UInt8 := if roleID = leader then 2 else 1

@[simp] theorem statusOf_self (leader : UInt32) : statusOf leader leader = 2 := if_pos rfl

theorem statusOf_of_ne {leader roleID : UInt32} (other : roleID ≠ leader) :
    statusOf leader roleID = 1 :=
  if_neg other

theorem statusOf_eq_two {leader roleID : UInt32} : statusOf leader roleID = 2 ↔ roleID = leader := by
  unfold statusOf
  split <;> simp_all

/-- The statuses change from the old leader to the new one. -/
theorem statusOf_update (leader roleID : UInt32) :
    Function.update (Function.update (statusOf leader) leader 1) roleID 2 = statusOf roleID := by
  funext other
  simp only [Function.update_apply, statusOf]
  split_ifs <;> rfl

variable (status : UInt32 → UInt8)

/-- The member list of a team with the given statuses. -/
def rows (members : List UInt32) : List TeamRole :=
  members.map fun roleID => ⟨roleID, status roleID⟩

/-- The team shows the party. -/
def Party.team (party : Party) (teamID : UInt32) : Team :=
  ⟨teamID, party.leader, rows (statusOf party.leader) party.members⟩

@[simp] theorem Party.team_teamID (party : Party) (teamID : UInt32) :
    (party.team teamID).teamID = teamID := rfl

@[simp] theorem Party.team_leaderRoleID (party : Party) (teamID : UInt32) :
    (party.team teamID).leaderRoleID = party.leader := rfl

@[simp] theorem rows_ids (members : List UInt32) :
    (rows status members).map TeamRole.roleId = members := by
  simp [rows, Function.comp_def]

theorem rows_congr {status other : UInt32 → UInt8} {members : List UInt32}
    (same : ∀ roleID ∈ members, status roleID = other roleID) :
    rows status members = rows other members := by
  apply List.map_congr_left
  intro roleID member
  rw [same roleID member]

/-- The first row of a role is its only one. -/
theorem setStatus_rows {status : UInt32 → UInt8} {members : List UInt32}
    (distinct : members.Nodup) (roleID : UInt32) (type : UInt8) :
    Team.setStatus roleID type (rows status members) =
      rows (Function.update status roleID type) members := by
  induction members with
  | nil => rfl
  | cons member members ih =>
      obtain ⟨fresh, distinct⟩ := List.nodup_cons.mp distinct
      have others : rows (Function.update status member type) members = rows status members := by
        apply rows_congr
        intro other found
        apply Function.update_of_ne
        rintro rfl
        exact fresh found
      have head (status : UInt32 → UInt8) :
          rows status (member :: members) = ⟨member, status member⟩ :: rows status members := rfl
      rw [head, head, Team.setStatus]
      split
      case isTrue same =>
        obtain rfl : member = roleID := same
        rw [Function.update_self, others]
      case isFalse other =>
        rw [ih distinct, Function.update_of_ne other]

theorem eraseP_rows (members : List UInt32) (roleID : UInt32) :
    (rows status members).eraseP (fun member => member.roleId = roleID) =
      rows status (members.erase roleID) := by
  induction members with
  | nil => rfl
  | cons member members ih =>
      have head (members : List UInt32) :
          rows status (member :: members) = ⟨member, status member⟩ :: rows status members := rfl
      by_cases same : member = roleID
      · rw [head, List.eraseP_cons_of_pos (by simpa using same), same, List.erase_cons_head]
      · rw [head, List.eraseP_cons_of_neg (by simpa using same), ih,
          List.erase_cons_tail (by simpa using same), head]

namespace Party

variable (party : Party) (teamID : UInt32) {roleID : UInt32}

theorem team_addToTeam (fresh : roleID ∉ party.members) :
    (party.team teamID).addToTeam roleID = (party.join roleID fresh).team teamID := by
  have other : roleID ≠ party.leader := by
    rintro rfl
    exact fresh party.leader_mem
  simp [Team.addToTeam, team, join, rows, statusOf_of_ne other]

theorem found_team (leader : UInt32) :
    { (Team.new.addToTeam leader).setLeaderRoleID leader with teamID := teamID } =
      (found leader).team teamID := by
  simp [Team.new, Team.addToTeam, Team.setLeaderRoleID, Team.changeRoleStues, Team.setStatus, team,
    found, rows]

theorem team_outTheTeam (other : roleID ≠ party.leader) :
    (party.team teamID).outTheTeam roleID = (party.leave roleID other).team teamID := by
  simp only [Team.outTheTeam, team, leave, eraseP_rows]

/-- The old leader gets status one before the new leader gets status two. -/
theorem team_changToBeLeader (member : roleID ∈ party.members) (valid : roleID ≠ 0) :
    (party.team teamID).changToBeLeader roleID = (party.promote roleID member).team teamID := by
  have status := statusOf_update party.leader roleID
  simp only [Team.changToBeLeader, if_pos valid, Team.changeRoleStues, Team.setLeaderRoleID, team,
    promote, setStatus_rows party.distinct, status]

/-- The first member that remains follows a leader that has left. -/
theorem team_succeed (member : roleID ∈ party.members) (other : roleID ≠ party.leader)
    (valid : roleID ≠ 0) :
    ((party.team teamID).outTheTeam party.leader).changToBeLeader roleID =
      ((party.promote roleID member).leave party.leader other.symm).team teamID := by
  have status := statusOf_update party.leader roleID
  simp only [Team.changToBeLeader, if_pos valid, Team.changeRoleStues, Team.setLeaderRoleID, team,
    Team.outTheTeam, promote, leave, eraseP_rows, setStatus_rows (party.distinct.erase _), status]

end Party

open Grouping

/-- The role's own view of its team. -/
def TeamMember.view (role : TeamMember) : UInt32 × UInt8 × UInt32 :=
  (role.teamID, role.teamFlag, role.leaderRoleID)

/-- The parties by team. -/
abbrev Parties := UInt32 → Option Party

namespace Parties

def members (teams : Parties) (teamID : UInt32) : Option (List UInt32) :=
  (teams teamID).map Party.members

/-- A role in a team sees the team, its own status, and the leader. -/
def viewOf (teams : Parties) (roleID : UInt32) (entry : Option UInt32) : UInt32 × UInt8 × UInt32 :=
  (entry.bind fun teamID => (teams teamID).map fun party =>
    (teamID, statusOf party.leader roleID, party.leader)).getD (0, 0, 0)

@[simp] theorem members_update (teams : Parties) (teamID : UInt32) (party : Option Party) :
    members (Function.update teams teamID party) =
      Function.update (members teams) teamID (party.map Party.members) := by
  funext other
  by_cases same : other = teamID
  · simp [members, same]
  · simp [members, Function.update_of_ne same]

variable {teams : Parties} {teamID roleID : UInt32} {party : Party}

@[simp] theorem viewOf_none : viewOf teams roleID none = (0, 0, 0) := rfl

theorem viewOf_some (found : teams teamID = some party) :
    viewOf teams roleID (some teamID) = (teamID, statusOf party.leader roleID, party.leader) := by
  simp [viewOf, found]

/-- A change of another team is not seen. -/
theorem viewOf_update_of_ne {entry : Option UInt32} (other : entry ≠ some teamID)
    (changed : Option Party) :
    viewOf (Function.update teams teamID changed) roleID entry = viewOf teams roleID entry := by
  cases entry with
  | none => rfl
  | some current =>
      have different : current ≠ teamID := fun same => other (congrArg some same)
      simp [viewOf, Function.update_of_ne different]

/-- A change that keeps the leader is not seen. -/
theorem viewOf_update_of_leader {entry : Option UInt32} (found : teams teamID = some party)
    {changed : Party} (same : changed.leader = party.leader) :
    viewOf (Function.update teams teamID (some changed)) roleID entry =
      viewOf teams roleID entry := by
  by_cases other : entry = some teamID
  · rw [other, viewOf_some found, viewOf_some (Function.update_self ..), same]
  · exact viewOf_update_of_ne other _

end Parties

namespace TeamCore

section Frames

variable (core : TeamCore) (roleID : UInt32) (change : TeamMember → TeamMember)

@[simp] theorem modifyRole_mapTeam : (core.modifyRole roleID change).mapTeam = core.mapTeam := rfl

@[simp] theorem modifyRole_mapRoleTeam :
    (core.modifyRole roleID change).mapRoleTeam = core.mapRoleTeam := rfl

theorem modifyRole_mapRole (other : UInt32) : (core.modifyRole roleID change).mapRole other =
    if other = roleID then (core.mapRole roleID).map change else core.mapRole other :=
  Function.update_apply ..

@[simp] theorem setTeam_mapTeam (teamID : UInt32) (team : Option Team) :
    (core.setTeam teamID team).mapTeam = Function.update core.mapTeam teamID team := rfl

@[simp] theorem setTeam_mapRoleTeam (teamID : UInt32) (team : Option Team) :
    (core.setTeam teamID team).mapRoleTeam = core.mapRoleTeam := rfl

@[simp] theorem setTeam_mapRole (teamID : UInt32) (team : Option Team) :
    (core.setTeam teamID team).mapRole = core.mapRole := rfl

@[simp] theorem eraseRoleIDTeamID_mapTeam :
    (core.eraseRoleIDTeamID roleID).mapTeam = core.mapTeam := rfl

@[simp] theorem eraseRoleIDTeamID_mapRole :
    (core.eraseRoleIDTeamID roleID).mapRole = core.mapRole := rfl

@[simp] theorem eraseRoleIDTeamID_mapRoleTeam : (core.eraseRoleIDTeamID roleID).mapRoleTeam =
    Function.update core.mapRoleTeam roleID none := rfl

theorem insertRoleTeam_of_none {teamID : UInt32} (free : core.mapRoleTeam roleID = none) :
    core.insertRoleTeam roleID teamID =
      { core with mapRoleTeam := Function.update core.mapRoleTeam roleID (some teamID) } := by
  simp [insertRoleTeam, free]

variable (members : List TeamRole) (leaderID : UInt32)

@[simp] theorem tellLeader_mapTeam :
    (core.tellLeader members leaderID).mapTeam = core.mapTeam := by
  unfold tellLeader
  induction members generalizing core with
  | nil => rfl
  | cons member members ih => exact ih _

@[simp] theorem tellLeader_mapRoleTeam :
    (core.tellLeader members leaderID).mapRoleTeam = core.mapRoleTeam := by
  unfold tellLeader
  induction members generalizing core with
  | nil => rfl
  | cons member members ih => exact ih _

/-- Every member's role stores the leader. -/
theorem tellLeader_mapRole : (core.tellLeader members leaderID).mapRole roleID =
    if roleID ∈ members.map TeamRole.roleId then
      (core.mapRole roleID).map fun role => { role with leaderRoleID := leaderID }
    else core.mapRole roleID := by
  unfold tellLeader
  induction members generalizing core with
  | nil => simp
  | cons member members ih =>
      rw [List.foldl_cons, ih, modifyRole_mapRole]
      by_cases same : roleID = member.roleId
      · simp [same, Function.comp_def]
      · simp [same]

end Frames

/-- The maps show the parties, except that one role may have an old view. -/
structure Shows (core : TeamCore) (teams : Parties) (stale : Option UInt32) : Prop where
  grouping : IsGrouping core.mapRoleTeam teams.members
  mapTeam : ∀ teamID, core.mapTeam teamID = (teams teamID).map fun party => party.team teamID
  view : ∀ roleID role, some roleID ≠ stale → core.mapRole roleID = some role →
    role.view = teams.viewOf roleID (core.mapRoleTeam roleID)
  zero : teams 0 = none

section Operations

variable {core : TeamCore} {teams : Parties} {stale : Option UInt32} {teamID roleID : UInt32}
  {party : Party}

theorem Shows.mapTeam_eq (shows : Shows core teams stale) (found : teams teamID = some party) :
    core.mapTeam teamID = some (party.team teamID) := by
  rw [shows.mapTeam, found, Option.map_some]

theorem Shows.nonzero (shows : Shows core teams stale) (found : teams teamID = some party) :
    teamID ≠ 0 := by
  rintro rfl
  rw [shows.zero] at found
  cases found

theorem members_eq (found : teams teamID = some party) :
    teams.members teamID = some party.members := by
  rw [Parties.members, found, Option.map_some]

/-- The index names the party of a role. -/
theorem Shows.exists_party (shows : Shows core teams stale)
    (indexed : core.mapRoleTeam roleID = some teamID) :
    ∃ party, teams teamID = some party ∧ roleID ∈ party.members := by
  obtain ⟨list, found, member⟩ := (shows.grouping.mem_iff roleID teamID).mp indexed
  obtain ⟨party, inTeams, rfl⟩ := Option.map_eq_some_iff.mp found
  exact ⟨party, inTeams, member⟩

theorem Shows.index_eq (shows : Shows core teams stale) (found : teams teamID = some party)
    (member : roleID ∈ party.members) : core.mapRoleTeam roleID = some teamID :=
  shows.grouping.index_eq (members_eq found) member

theorem Shows.fresh (shows : Shows core teams stale) (free : core.mapRoleTeam roleID = none)
    (found : teams teamID = some party) : roleID ∉ party.members :=
  shows.grouping.notMem free (members_eq found)

/-- The changed map of teams shows the changed party. -/
theorem Shows.mapTeam_update (shows : Shows core teams stale) {changed : Option Party}
    {team : Option Team} (same : team = changed.map fun party => party.team teamID)
    (other : UInt32) : Function.update core.mapTeam teamID team other =
      (Function.update teams teamID changed other).map fun party => party.team other := by
  by_cases sameTeam : other = teamID
  · rw [sameTeam, Function.update_self, Function.update_self, same]
  · rw [Function.update_of_ne sameTeam, Function.update_of_ne sameTeam, shows.mapTeam]

theorem Shows.zero_update (shows : Shows core teams stale) (nonzero : teamID ≠ 0)
    (changed : Option Party) : Function.update teams teamID changed 0 = none := by
  rw [Function.update_of_ne nonzero.symm, shows.zero]

/-- A role without a team joins a party. -/
theorem Shows.addTeamRole (shows : Shows core teams none) (found : teams teamID = some party)
    (free : core.mapRoleTeam roleID = none) :
    Shows (core.addTeamRole teamID roleID).2
      (Function.update teams teamID (some (party.join roleID (shows.fresh free found)))) none := by
  have fresh := shows.fresh free found
  have other : roleID ≠ party.leader := by
    rintro rfl
    exact fresh party.leader_mem
  simp only [TeamCore.addTeamRole, shows.mapTeam_eq found, party.team_addToTeam teamID fresh,
    roleTeamset, Party.team_leaderRoleID]
  rw [insertRoleTeam_of_none _ _ (by simpa using free)]
  refine ⟨?_, ?_, fun member role _ online => ?_, shows.zero_update (shows.nonzero found) _⟩
  · rw [Parties.members_update]
    exact shows.grouping.join free (members_eq found)
  · exact shows.mapTeam_update rfl
  · simp only [modifyRole_mapRoleTeam, setTeam_mapRoleTeam]
    rw [modifyRole_mapRole] at online
    split_ifs at online with same
    · obtain ⟨old, -, rfl⟩ := Option.map_eq_some_iff.mp online
      rw [same, Function.update_self, Parties.viewOf_some (Function.update_self ..)]
      simp [TeamMember.view, Party.join, statusOf_of_ne other]
    · have leader : (party.join roleID fresh).leader = party.leader := rfl
      rw [Function.update_of_ne same, Parties.viewOf_update_of_leader found leader]
      exact shows.view member role (Option.some_ne_none _) online

/-- Two roles without a team found a party under a fresh identifier. -/
theorem Shows.createTeam (shows : Shows core teams none) {leaderRoleID : UInt32}
    (unused : core.mapTeam core.lastTeamID = none) (nonzero : core.lastTeamID ≠ 0)
    (leaderFree : core.mapRoleTeam leaderRoleID = none) (free : core.mapRoleTeam roleID = none)
    (different : roleID ≠ leaderRoleID) :
    Shows (core.createTeam leaderRoleID roleID) (Function.update teams core.lastTeamID
      (some ((Party.found leaderRoleID).join roleID (by simpa [Party.found] using different))))
      none := by
  have fresh : roleID ∉ (Party.found leaderRoleID).members := by
    simpa [Party.found] using different
  have team : { ((Team.new.addToTeam leaderRoleID).setLeaderRoleID leaderRoleID).addToTeam roleID
      with teamID := core.lastTeamID } =
        ((Party.found leaderRoleID).join roleID fresh).team core.lastTeamID := by
    rw [← Party.team_addToTeam, ← Party.found_team]
    rfl
  have noTeam : teams core.lastTeamID = none := by
    rwa [shows.mapTeam, Option.map_eq_none_iff] at unused
  have freeAfter : Function.update core.mapRoleTeam leaderRoleID (some core.lastTeamID) roleID =
      none := by
    rwa [Function.update_of_ne different]
  simp only [TeamCore.createTeam, team, unused, roleTeamset]
  rw [insertRoleTeam_of_none _ leaderRoleID (by simpa using leaderFree),
    insertRoleTeam_of_none _ roleID freeAfter]
  refine ⟨?_, ?_, fun member role _ online => ?_, shows.zero_update nonzero _⟩
  · have empty : teams.members core.lastTeamID = none := by
      rw [Parties.members, noTeam, Option.map_none]
    have alone := (shows.grouping.found empty).join leaderFree (Function.update_self ..)
    have both := alone.join freeAfter (Function.update_self ..)
    rw [Parties.members_update]
    rw [Function.update_idem, Function.update_idem] at both
    exact both
  · exact shows.mapTeam_update rfl
  · simp only [modifyRole_mapRoleTeam, setTeam_mapRoleTeam]
    change (modifyRole _ roleID _).mapRole member = some role at online
    rw [modifyRole_mapRole, modifyRole_mapRole, modifyRole_mapRole] at online
    have seen : Parties.viewOf (Function.update teams core.lastTeamID
        (some ((Party.found leaderRoleID).join roleID fresh))) member (some core.lastTeamID) =
          (core.lastTeamID, statusOf leaderRoleID member, leaderRoleID) :=
      Parties.viewOf_some (Function.update_self ..)
    rcases eq_or_ne member roleID with rfl | notRole
    · rw [if_pos rfl] at online
      obtain ⟨old, -, rfl⟩ := Option.map_eq_some_iff.mp online
      rw [Function.update_self, seen, statusOf_of_ne different]
      rfl
    rw [if_neg notRole] at online
    rw [Function.update_of_ne notRole]
    rcases eq_or_ne member leaderRoleID with rfl | notLeader
    · rw [if_pos rfl] at online
      obtain ⟨old, -, rfl⟩ := Option.map_eq_some_iff.mp online
      rw [Function.update_self, seen, statusOf_self]
      rfl
    · rw [if_neg notLeader] at online
      have elsewhere : core.mapRoleTeam member ≠ some core.lastTeamID := by
        intro indexed
        obtain ⟨party, found, -⟩ := shows.exists_party indexed
        rw [noTeam] at found
        cases found
      rw [Function.update_of_ne notLeader, Parties.viewOf_update_of_ne elsewhere]
      exact shows.view member role (Option.some_ne_none _) online

/-- The team stays when somebody but the leader leaves. -/
theorem Shows.deleteTeamRole_eq (shows : Shows core teams stale)
    (found : teams teamID = some party) (other : roleID ≠ party.leader) :
    (core.deleteTeamRole teamID roleID).2 =
      ((core.setTeam teamID (some ((party.leave roleID other).team teamID))).eraseRoleIDTeamID
        roleID).roleTeamset roleID 0 0 0 := by
  have remains : ((party.leave roleID other).team teamID).listMember.length ≠ 0 := by
    have leader := (party.leave roleID other).leader_mem
    have long := List.length_pos_of_mem leader
    simp only [Party.team, rows, List.length_map]
    omega
  simp only [TeamCore.deleteTeamRole, shows.mapTeam_eq found, party.team_outTheTeam teamID other,
    if_neg remains]

/-- A member leaves a party that keeps its leader. -/
theorem Shows.deleteTeamRole (shows : Shows core teams stale) (found : teams teamID = some party)
    (member : roleID ∈ party.members) (other : roleID ≠ party.leader)
    (own : ∀ role ∈ stale, role = roleID) :
    Shows (core.deleteTeamRole teamID roleID).2
      (Function.update teams teamID (some (party.leave roleID other))) none := by
  rw [shows.deleteTeamRole_eq found other, roleTeamset]
  refine ⟨?_, ?_, fun current role _ online => ?_, shows.zero_update (shows.nonzero found) _⟩
  · rw [Parties.members_update]
    exact shows.grouping.leave (members_eq found) member
  · exact shows.mapTeam_update rfl
  · simp only [modifyRole_mapRoleTeam, eraseRoleIDTeamID_mapRoleTeam, setTeam_mapRoleTeam]
    rw [modifyRole_mapRole] at online
    split_ifs at online with same
    · obtain ⟨old, -, rfl⟩ := Option.map_eq_some_iff.mp online
      rw [same, Function.update_self, Parties.viewOf_none]
      rfl
    · have leader : (party.leave roleID other).leader = party.leader := rfl
      rw [Function.update_of_ne same, Parties.viewOf_update_of_leader found leader]
      exact shows.view current role (fun isStale => same (own current isStale.symm)) online

/-- The last member leaves, and the party ends. -/
theorem Shows.deleteTeamRole_last (shows : Shows core teams none)
    (found : teams teamID = some party) (last : party.members = [roleID]) :
    Shows (core.deleteTeamRole teamID roleID).2 (Function.update teams teamID none) none := by
  have empty : ((party.team teamID).outTheTeam roleID).listMember = [] := by
    simp [Team.outTheTeam, Party.team, last, rows]
  simp only [TeamCore.deleteTeamRole, shows.mapTeam_eq found, empty, List.length_nil, if_true,
    roleTeamset, deleteTeam, modifyRole_mapTeam, eraseRoleIDTeamID_mapTeam, setTeam_mapTeam,
    Function.update_self, List.foldl_nil]
  refine ⟨?_, ?_, fun current role _ online => ?_, shows.zero_update (shows.nonzero found) _⟩
  · have alone : roleID ∈ party.members := by simp [last]
    have left := shows.grouping.leave (members_eq found) alone
    rw [last, List.erase_cons_head] at left
    have ended := left.drop (Function.update_self ..)
    rw [Function.update_idem] at ended
    rw [Parties.members_update]
    exact ended
  · rw [setTeam_mapTeam, modifyRole_mapTeam, eraseRoleIDTeamID_mapTeam, setTeam_mapTeam,
      Function.update_idem]
    exact shows.mapTeam_update rfl
  · simp only [modifyRole_mapRoleTeam, eraseRoleIDTeamID_mapRoleTeam, setTeam_mapRoleTeam]
    rw [setTeam_mapRole, modifyRole_mapRole] at online
    split_ifs at online with same
    · obtain ⟨old, -, rfl⟩ := Option.map_eq_some_iff.mp online
      rw [same, Function.update_self, Parties.viewOf_none]
      rfl
    · have elsewhere : core.mapRoleTeam current ≠ some teamID := by
        intro indexed
        obtain ⟨party', found', member⟩ := shows.exists_party indexed
        rw [found] at found'
        obtain rfl := Option.some.inj found'
        rw [last, List.mem_singleton] at member
        exact same member
      rw [Function.update_of_ne same, Parties.viewOf_update_of_ne elsewhere]
      exact shows.view current role (Option.some_ne_none _) online

/-- The removal of a role without a team changes nothing. -/
theorem Shows.deleteTeamRole_free (shows : Shows core teams none)
    (found : teams teamID = some party) (free : core.mapRoleTeam roleID = none) :
    Shows (core.deleteTeamRole teamID roleID).2 teams none := by
  have absent : (party.team teamID).outTheTeam roleID = party.team teamID := by
    have fresh := shows.fresh free found
    simp [Team.outTheTeam, Party.team, eraseP_rows, List.erase_of_not_mem fresh]
  have remains : (party.team teamID).listMember.length ≠ 0 := by
    have long := List.length_pos_of_mem party.leader_mem
    simp only [Party.team, rows, List.length_map]
    omega
  have sameTeams : Function.update core.mapTeam teamID (some (party.team teamID)) = core.mapTeam := by
    rw [← shows.mapTeam_eq found, Function.update_eq_self]
  have sameIndex : Function.update core.mapRoleTeam roleID none = core.mapRoleTeam := by
    rw [← free, Function.update_eq_self]
  simp only [TeamCore.deleteTeamRole, shows.mapTeam_eq found, absent, if_neg remains, roleTeamset]
  refine ⟨?_, ?_, fun current role _ online => ?_, shows.zero⟩
  · rw [modifyRole_mapRoleTeam, eraseRoleIDTeamID_mapRoleTeam, setTeam_mapRoleTeam, sameIndex]
    exact shows.grouping
  · rw [modifyRole_mapTeam, eraseRoleIDTeamID_mapTeam, setTeam_mapTeam, sameTeams]
    exact shows.mapTeam
  · rw [modifyRole_mapRoleTeam, eraseRoleIDTeamID_mapRoleTeam, setTeam_mapRoleTeam, sameIndex]
    rw [modifyRole_mapRole] at online
    split_ifs at online with same
    · obtain ⟨old, -, rfl⟩ := Option.map_eq_some_iff.mp online
      rw [same, free, Parties.viewOf_none]
      rfl
    · exact shows.view current role (Option.some_ne_none _) online

/-- The team shows its new leader, and every member is told. -/
theorem Shows.changtoBeLeader_eq (shows : Shows core teams stale)
    (found : teams teamID = some party) (member : roleID ∈ party.members)
    (other : roleID ≠ party.leader) (valid : roleID ≠ 0) :
    (core.changtoBeLeader teamID roleID).2 =
      ((core.setTeam teamID (some ((party.promote roleID member).team teamID))).tellLeader
        ((party.promote roleID member).team teamID).listMember roleID).modifyRole roleID
          fun role => { role with teamFlag := 2 } := by
  have others : (party.team teamID).leaderRoleID ≠ roleID := other.symm
  simp only [TeamCore.changtoBeLeader, shows.mapTeam_eq found, if_neg others,
    party.team_changToBeLeader teamID member valid]

/-- A member becomes the leader, and the old leader keeps its view. -/
theorem Shows.changtoBeLeader (shows : Shows core teams none) (found : teams teamID = some party)
    (member : roleID ∈ party.members) (other : roleID ≠ party.leader) (valid : roleID ≠ 0) :
    Shows (core.changtoBeLeader teamID roleID).2
      (Function.update teams teamID (some (party.promote roleID member))) (some party.leader) := by
  rw [shows.changtoBeLeader_eq found member other valid]
  refine ⟨?_, ?_, fun current role notStale online => ?_,
    shows.zero_update (shows.nonzero found) _⟩
  · rw [modifyRole_mapRoleTeam, tellLeader_mapRoleTeam, Parties.members_update]
    have same : Function.update teams.members teamID (some (party.promote roleID member).members) =
        teams.members := by
      rw [← Function.update_eq_self teamID teams.members, members_eq found]
      simp [Party.promote]
    rw [Option.map_some, same]
    exact shows.grouping
  · rw [modifyRole_mapTeam, tellLeader_mapTeam]
    exact shows.mapTeam_update rfl
  · rw [modifyRole_mapRoleTeam, tellLeader_mapRoleTeam, setTeam_mapRoleTeam]
    have told : current ∈ ((party.promote roleID member).team teamID).listMember.map
        TeamRole.roleId ↔ current ∈ party.members := by
      simp [Party.team, Party.promote]
    rw [modifyRole_mapRole, tellLeader_mapRole, tellLeader_mapRole, setTeam_mapRole] at online
    by_cases inParty : current ∈ party.members
    · rw [if_pos (told.mpr inParty)] at online
      rw [shows.index_eq found inParty, Parties.viewOf_some (Function.update_self ..)]
      have notLeader : current ≠ party.leader := fun same => notStale (congrArg some same)
      have before {old : TeamMember} (online : core.mapRole current = some old) :
          old.teamID = teamID ∧ old.teamFlag = 1 := by
        have seen := shows.view current old (Option.some_ne_none _) online
        rw [shows.index_eq found inParty, Parties.viewOf_some found,
          statusOf_of_ne notLeader] at seen
        exact ⟨congrArg Prod.fst seen, congrArg (fun view => view.2.1) seen⟩
      rcases eq_or_ne current roleID with rfl | notRole
      · rw [if_pos rfl, if_pos (told.mpr inParty), Option.map_map] at online
        obtain ⟨old, wasOnline, rfl⟩ := Option.map_eq_some_iff.mp online
        simp [TeamMember.view, Party.promote, (before wasOnline).1]
      · rw [if_neg notRole] at online
        obtain ⟨old, wasOnline, rfl⟩ := Option.map_eq_some_iff.mp online
        simp [TeamMember.view, Party.promote, before wasOnline, statusOf_of_ne notRole]
    · rw [if_neg (mt told.mp inParty)] at online
      have notRole : current ≠ roleID := by
        rintro rfl
        exact inParty member
      rw [if_neg notRole] at online
      have elsewhere : core.mapRoleTeam current ≠ some teamID := by
        intro indexed
        obtain ⟨party', found', member⟩ := shows.exists_party indexed
        rw [found] at found'
        obtain rfl := Option.some.inj found'
        exact inParty member
      rw [Parties.viewOf_update_of_ne elsewhere]
      exact shows.view current role (Option.some_ne_none _) online

end Operations

end TeamCore

end AppSvr.MainServer
