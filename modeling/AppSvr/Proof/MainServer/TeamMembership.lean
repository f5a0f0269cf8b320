/-
This file proves when the team messages keep the member lists, the index, and the roles in step.
-/

import AppSvr.Proof.MainServer.TeamViews
import AppSvr.ToMathlib.TransitionSystem

namespace AppSvr.MainServer
open Grouping TransitionSystem

/-- The identifiers of the members in their order. -/
def Team.memberIDs (team : Team) : List UInt32 := team.listMember.map TeamRole.roleId

@[simp] theorem Party.team_memberIDs (party : Party) (teamID : UInt32) :
    (party.team teamID).memberIDs = party.members :=
  rows_ids ..

namespace TeamCore

/-- The three places that store the membership agree. -/
structure TeamsAgree (core : TeamCore) : Prop where
  indexed : ∀ roleID teamID, core.mapRoleTeam roleID = some teamID ↔
    ∃ team, core.mapTeam teamID = some team ∧ team.memberIDs.count roleID = 1
  once : ∀ teamID team, core.mapTeam teamID = some team → team.memberIDs.Nodup
  filled : ∀ teamID team, core.mapTeam teamID = some team → team.listMember ≠ []
  leader : ∀ teamID team, core.mapTeam teamID = some team → team.leaderRoleID ∈ team.memberIDs
  status : ∀ teamID team, core.mapTeam teamID = some team → ∀ member ∈ team.listMember,
    member.status = 2 ↔ member.roleId = team.leaderRoleID
  stored : ∀ teamID team, core.mapTeam teamID = some team → ∀ member ∈ team.listMember,
    ∀ role, core.mapRole member.roleId = some role →
      role.teamID = teamID ∧ role.teamFlag = member.status ∧ role.leaderRoleID = team.leaderRoleID

/-- The team that the sender of a message leads. -/
def Leads (core : TeamCore) (roleID : UInt32) : Prop :=
  (core.getTeamsFromRoleID roleID).teamID ≠ 0 ∧
    (core.getTeamsFromRoleID roleID).leaderRoleID = roleID

instance (core : TeamCore) (roleID : UInt32) : Decidable (core.Leads roleID) :=
  inferInstanceAs (Decidable (_ ∧ _))

/-- A new team takes two roles and a fresh identifier, no leader hands its team over, only members
are removed, no member changes its status, and the role zero follows no leader. -/
def KeepsTeams (core : TeamCore) : TeamEvent → Prop
  | .answerRequest roleID (some (id, type)) => type = 1 → roleID ≠ 0 →
      core.mapRoleTeam roleID = none → core.mapRoleTeam id = none →
        id ≠ roleID ∧ core.lastTeamID ≠ 0 ∧ core.mapTeam core.lastTeamID = none
  | .changeCaptain roleID (some id) => id ≠ 0 → id ≠ roleID → core.Leads roleID →
      core.mapRole roleID = none ∧ id ∈ (core.getTeamsFromRoleID roleID).memberIDs
  | .captMember roleID (some id) => id ≠ 0 → id ≠ roleID → core.Leads roleID →
      ∀ teamID ∈ core.mapRoleTeam id, teamID = (core.getTeamsFromRoleID roleID).teamID
  | .memberOut roleID => core.Leads roleID →
      ∀ id ∈ ((core.getTeamsFromRoleID roleID).memberIDs.erase roleID).head?, id ≠ 0
  | .backOrleave roleID (some flag) => (core.getTeamsFromRoleID roleID).teamID ≠ 0 →
      (flag = 1 → ¬ core.Leads roleID) ∧ (flag = 2 → core.Leads roleID)
  | .logout roleID => core.mapRole roleID ≠ none → core.Leads roleID →
      ∀ id ∈ ((core.getTeamsFromRoleID roleID).memberIDs.erase roleID).head?, id ≠ 0
  | _ => True

instance (core : TeamCore) (event : TeamEvent) : Decidable (core.KeepsTeams event) :=
  match event with
  | .answerRequest _ (some _) => inferInstanceAs (Decidable (_ → _ → _ → _ → _))
  | .changeCaptain _ (some _) => inferInstanceAs (Decidable (_ → _ → _ → _))
  | .captMember _ (some id) =>
      @forall_prop_decidable _ _ _ fun _ => @forall_prop_decidable _ _ _ fun _ =>
        @forall_prop_decidable _ _ _ fun _ => Option.decidableForallMem (core.mapRoleTeam id)
  | .memberOut roleID => @forall_prop_decidable _ _ _ fun _ => Option.decidableForallMem
      ((core.getTeamsFromRoleID roleID).memberIDs.erase roleID).head?
  | .backOrleave _ (some _) => inferInstanceAs (Decidable (_ → _))
  | .logout roleID => @forall_prop_decidable _ _ _ fun _ => @forall_prop_decidable _ _ _ fun _ =>
      Option.decidableForallMem ((core.getTeamsFromRoleID roleID).memberIDs.erase roleID).head?
  | .requestjoin _ _ | .callMember _ _ | .answerRequest _ none | .changeCaptain _ none
  | .captMember _ none | .backOrleave _ none => inferInstanceAs (Decidable True)

section Handlers

variable {core : TeamCore} {teams : Parties} {roleID id : UInt32}

theorem Shows.teamsAgree (shows : Shows core teams none) : TeamsAgree core := by
  have party {teamID : UInt32} {team : Team} (found : core.mapTeam teamID = some team) :
      ∃ party, teams teamID = some party ∧ team = party.team teamID := by
    rw [shows.mapTeam] at found
    obtain ⟨party, inTeams, rfl⟩ := Option.map_eq_some_iff.mp found
    exact ⟨party, inTeams, rfl⟩
  refine ⟨fun roleID teamID => ⟨fun indexed => ?_, ?_⟩, fun teamID team found => ?_,
    fun teamID team found => ?_, fun teamID team found => ?_,
    fun teamID team found member inTeam => ?_, fun teamID team found member inTeam role online => ?_⟩
  · obtain ⟨party, inTeams, member⟩ := shows.exists_party indexed
    refine ⟨_, shows.mapTeam_eq inTeams, ?_⟩
    rw [Party.team_memberIDs]
    exact List.count_eq_one_of_mem party.distinct member
  · rintro ⟨team, found, once⟩
    obtain ⟨party, inTeams, rfl⟩ := party found
    rw [Party.team_memberIDs] at once
    exact shows.index_eq inTeams (List.count_pos_iff.mp (by omega))
  · obtain ⟨party, inTeams, rfl⟩ := party found
    rw [Party.team_memberIDs]
    exact party.distinct
  · obtain ⟨party, inTeams, rfl⟩ := party found
    have some := party.leader_mem
    intro empty
    have none := party.team_memberIDs teamID
    rw [Team.memberIDs, empty, List.map_nil] at none
    rw [← none] at some
    cases some
  · obtain ⟨party, inTeams, rfl⟩ := party found
    rw [Party.team_memberIDs]
    exact party.leader_mem
  · obtain ⟨party, inTeams, rfl⟩ := party found
    obtain ⟨roleID, -, rfl⟩ := List.mem_map.mp inTeam
    exact statusOf_eq_two
  · obtain ⟨party, inTeams, rfl⟩ := party found
    obtain ⟨roleID, inParty, rfl⟩ := List.mem_map.mp inTeam
    have seen := shows.view roleID role (Option.some_ne_none _) online
    rw [shows.index_eq inTeams inParty, Parties.viewOf_some inTeams] at seen
    simp only [TeamMember.view, Prod.mk.injEq] at seen
    exact seen

theorem getTeams_of_none (free : core.mapRoleTeam roleID = none) :
    core.getTeamsFromRoleID roleID = .new := by
  simp [getTeamsFromRoleID, free]

theorem Shows.getTeams_of_some (shows : Shows core teams none) {teamID : UInt32} {party : Party}
    (indexed : core.mapRoleTeam roleID = some teamID) (found : teams teamID = some party) :
    core.getTeamsFromRoleID roleID = party.team teamID := by
  simp [getTeamsFromRoleID, indexed, shows.mapTeam_eq found]

/-- A role has no team, or its team is a party with that role. -/
theorem Shows.team_cases (shows : Shows core teams none) (roleID : UInt32) :
    (core.mapRoleTeam roleID = none ∧ core.getTeamsFromRoleID roleID = .new) ∨
      ∃ teamID party, core.mapRoleTeam roleID = some teamID ∧ teams teamID = some party ∧
        roleID ∈ party.members ∧ teamID ≠ 0 ∧ core.getTeamsFromRoleID roleID = party.team teamID := by
  cases indexed : core.mapRoleTeam roleID with
  | none => exact .inl ⟨rfl, getTeams_of_none indexed⟩
  | some teamID =>
      obtain ⟨party, found, member⟩ := shows.exists_party indexed
      exact .inr ⟨teamID, party, rfl, found, member, shows.nonzero found,
        shows.getTeams_of_some indexed found⟩

theorem Shows.mapTeam_zero (shows : Shows core teams none) : core.mapTeam 0 = none := by
  rw [shows.mapTeam, shows.zero, Option.map_none]

/-- An accepted invitation joins two roles in one party or changes nothing. -/
theorem Shows.acceptRequest (shows : Shows core teams none)
    (keeps : roleID ≠ 0 → core.mapRoleTeam roleID = none → core.mapRoleTeam id = none →
      id ≠ roleID ∧ core.lastTeamID ≠ 0 ∧ core.mapTeam core.lastTeamID = none) :
    ∃ teams, Shows (core.acceptRequest roleID id).2 teams none := by
  simp only [TeamCore.acceptRequest, apply_ite Prod.snd, ite_self]
  have absent : core.addTeamRole 0 id = (-1, core) := by
    rw [TeamCore.addTeamRole, shows.mapTeam_zero]
  rcases shows.team_cases roleID with
    ⟨free, team1⟩ | ⟨teamID, party, indexed, found, member, nonzero, team1⟩ <;>
  rcases shows.team_cases id with
    ⟨idFree, team⟩ | ⟨other, party', -, found', -, nonzero', team⟩ <;>
  rw [team1, team]
  · rcases eq_or_ne roleID 0 with rfl | valid
    · exact ⟨teams, by simpa [Team.new, absent] using shows⟩
    · obtain ⟨different, fresh, unused⟩ := keeps valid free idFree
      have created := shows.createTeam unused fresh idFree free different.symm
      exact ⟨_, by simpa [Team.new, valid.symm] using created⟩
  · rcases eq_or_ne roleID 0 with rfl | valid
    · exact ⟨teams, by simpa [Team.new, nonzero'] using shows⟩
    · by_cases leader : party'.leader = id
      · have joined := shows.addTeamRole found' free
        refine ⟨Function.update teams other (some (party'.join roleID
          (shows.fresh free found'))), ?_⟩
        simpa [Team.new, valid.symm, nonzero', leader] using joined
      · exact ⟨teams, by simpa [Team.new, valid.symm, nonzero', leader] using shows⟩
  · by_cases leader : party.leader = roleID
    · have joined := shows.addTeamRole found idFree
      refine ⟨Function.update teams teamID (some (party.join id
        (shows.fresh idFree found))), ?_⟩
      simpa [Team.new, leader] using joined
    · exact ⟨teams, by simpa [leader, nonzero] using shows⟩
  · by_cases leader : party.leader = roleID
    · exact ⟨teams, by simpa [leader, nonzero'] using shows⟩
    · exact ⟨teams, by simpa [leader, nonzero] using shows⟩

/-- A sender that leads a team is in it. -/
theorem Shows.leads_cases (shows : Shows core teams none) (leads : core.Leads roleID) :
    ∃ teamID party, core.mapRoleTeam roleID = some teamID ∧ teams teamID = some party ∧
      party.leader = roleID ∧ core.getTeamsFromRoleID roleID = party.team teamID := by
  rcases shows.team_cases roleID with ⟨-, team⟩ | ⟨teamID, party, indexed, found, -, -, team⟩
  · exact absurd (congrArg Team.teamID team) leads.1
  · have leader := leads.2
    rw [team] at leader
    exact ⟨teamID, party, indexed, found, leader, team⟩

/-- A sender that passes the check for leaders leads a team or names the absent team zero. -/
theorem leader_cases (leader : (core.getTeamsFromRoleID roleID).leaderRoleID = roleID) :
    core.Leads roleID ∨ (core.getTeamsFromRoleID roleID).teamID = 0 := by
  by_cases none : (core.getTeamsFromRoleID roleID).teamID = 0
  · exact .inr none
  · exact .inl ⟨none, leader⟩

/-- The view of an offline role may be old. -/
theorem Shows.of_offline (shows : Shows core teams (some roleID))
    (offline : core.mapRole roleID = none) : Shows core teams none where
  grouping := shows.grouping
  mapTeam := shows.mapTeam
  view other role _ online := by
    apply shows.view other role _ online
    rintro same
    obtain rfl := Option.some.inj same
    rw [offline] at online
    cases online
  zero := shows.zero

/-- A new leader leaves an offline role as it is. -/
theorem changtoBeLeader_offline {teamID leaderID : UInt32} (offline : core.mapRole roleID = none) :
    (core.changtoBeLeader teamID leaderID).2.mapRole roleID = none := by
  unfold changtoBeLeader
  split
  · exact offline
  · split
    · exact offline
    · rw [modifyRole_mapRole, tellLeader_mapRole, tellLeader_mapRole, setTeam_mapRole]
      split_ifs with same
      · simp [← same, offline]
      · simp [← same, offline]
      · simp [offline]
      · exact offline

theorem Shows.processChangeCaptain (shows : Shows core teams none)
    (keeps : id ≠ 0 → id ≠ roleID → core.Leads roleID →
      core.mapRole roleID = none ∧ id ∈ (core.getTeamsFromRoleID roleID).memberIDs) :
    ∃ teams, Shows (core.processChangeCaptain roleID (some id)).2 teams none := by
  have absent : core.changtoBeLeader 0 id = (-1, core) := by
    rw [TeamCore.changtoBeLeader, shows.mapTeam_zero]
  simp only [TeamCore.processChangeCaptain, apply_ite Prod.snd, ite_self]
  split_ifs with invalid other
  · exact ⟨teams, shows⟩
  · exact ⟨teams, shows⟩
  obtain ⟨valid, different⟩ := not_or.mp invalid
  rcases leader_cases (not_not.mp other) with leads | none
  · obtain ⟨offline, member⟩ := keeps valid different leads
    obtain ⟨teamID, party, indexed, found, rfl, team⟩ := shows.leads_cases leads
    rw [team, Party.team_memberIDs] at member
    rw [team, Party.team_teamID]
    have changed := shows.changtoBeLeader found member different valid
    exact ⟨_, changed.of_offline (changtoBeLeader_offline offline)⟩
  · rw [none, absent]
    exact ⟨teams, shows⟩

theorem Shows.processCaptMember (shows : Shows core teams none)
    (keeps : id ≠ 0 → id ≠ roleID → core.Leads roleID →
      ∀ teamID ∈ core.mapRoleTeam id, teamID = (core.getTeamsFromRoleID roleID).teamID) :
    ∃ teams, Shows (core.processCaptMember roleID (some id)).2 teams none := by
  have absent : core.deleteTeamRole 0 id = (-1, core) := by
    rw [TeamCore.deleteTeamRole, shows.mapTeam_zero]
  simp only [TeamCore.processCaptMember, apply_ite Prod.snd, ite_self]
  split_ifs with invalid other
  · exact ⟨teams, shows⟩
  · exact ⟨teams, shows⟩
  obtain ⟨valid, different⟩ := not_or.mp invalid
  rcases leader_cases (not_not.mp other) with leads | none
  · have same := keeps valid different leads
    obtain ⟨teamID, party, indexed, found, rfl, team⟩ := shows.leads_cases leads
    rw [team, Party.team_teamID] at same ⊢
    cases current : core.mapRoleTeam id with
    | none => exact ⟨_, shows.deleteTeamRole_free found current⟩
    | some own =>
        obtain rfl := same own current
        obtain ⟨party', found', member⟩ := shows.exists_party current
        rw [found] at found'
        obtain rfl := Option.some.inj found'
        exact ⟨_, shows.deleteTeamRole found member different (by simp)⟩
  · rw [none, absent]
    exact ⟨teams, shows⟩

/-- The first other member is the first one that remains without the leader. -/
theorem successor_team (party : Party) (teamID : UInt32) :
    successor (party.team teamID) party.leader = (party.members.erase party.leader).head?.getD 0 := by
  have first : ((party.team teamID).listMember.find? fun member => member.roleId ≠ party.leader).map
      TeamRole.roleId = (party.members.erase party.leader).head? := by
    rw [party.distinct.erase_eq_filter, List.head?_filter]
    simp [Party.team, rows, List.find?_map, Function.comp_def, bne]
    rfl
  rw [successor, first]
  split
  · rfl
  case isFalse alone =>
    have short : party.members.length ≤ 1 := by
      simpa [Party.team, rows] using alone
    have none : (party.members.erase party.leader).length = 0 := by
      rw [List.length_erase_of_mem party.leader_mem]
      omega
    rw [List.length_eq_zero_iff.mp none]
    rfl

/-- A party without its leader is empty when the leader was alone. -/
theorem members_of_erase {party : Party} (none : (party.members.erase party.leader).head? = none) :
    party.members = [party.leader] := by
  have short := List.length_erase_of_mem party.leader_mem
  rw [List.head?_eq_none_iff.mp none, List.length_nil] at short
  have positive := List.length_pos_of_mem party.leader_mem
  obtain ⟨only, same⟩ := List.length_eq_one_iff.mp (show party.members.length = 1 by omega)
  have leader := party.leader_mem
  rw [same, List.mem_singleton] at leader
  rw [same, leader]

theorem Shows.processMemberOut (shows : Shows core teams none)
    (keeps : core.Leads roleID →
      ∀ id ∈ ((core.getTeamsFromRoleID roleID).memberIDs.erase roleID).head?, id ≠ 0) :
    ∃ teams, Shows (core.processMemberOut roleID).2 teams none := by
  rcases shows.team_cases roleID with
    ⟨-, team⟩ | ⟨teamID, party, indexed, found, member, nonzero, team⟩
  · refine ⟨teams, ?_⟩
    simp only [TeamCore.processMemberOut, team, Team.new, if_true]
    exact shows
  simp only [TeamCore.processMemberOut, team, Party.team_teamID, if_neg nonzero]
  by_cases leader : roleID = party.leader
  · have leads : core.Leads roleID := by
      rw [Leads, team]
      exact ⟨nonzero, leader.symm⟩
    have valid := keeps leads
    rw [team, Party.team_memberIDs, leader] at valid
    rw [leader, successor_team]
    cases next : (party.members.erase party.leader).head? with
    | none =>
        rw [Option.getD_none, if_neg (not_not.mpr rfl)]
        exact ⟨_, shows.deleteTeamRole_last found (members_of_erase next)⟩
    | some id =>
        have remains := List.mem_of_mem_head? next
        have inParty : id ∈ party.members := List.mem_of_mem_erase remains
        have other : id ≠ party.leader := (party.distinct.mem_erase_iff.mp remains).1
        rw [Option.getD_some, if_pos (valid id next)]
        have changed := shows.changtoBeLeader found inParty other (valid id next)
        have remainsIn : party.leader ∈ (party.promote id inParty).members := party.leader_mem
        have left := changed.deleteTeamRole (Function.update_self ..) remainsIn other.symm (by simp)
        exact ⟨_, left⟩
  · have follows : successor (party.team teamID) roleID = 0 := by
      rw [successor, if_neg]
      exact fun both => leader both.1.symm
    rw [follows, if_neg (not_not.mpr rfl)]
    exact ⟨_, shows.deleteTeamRole found member leader (by simp)⟩

/-- The status of a member is written again. -/
theorem Shows.changtoFlag (shows : Shows core teams none) {teamID : UInt32} {party : Party}
    (found : teams teamID = some party) (member : roleID ∈ party.members) :
    Shows (core.changtoFlag teamID roleID (statusOf party.leader roleID)).2 teams none := by
  have same : (party.team teamID).changeRoleStues roleID (statusOf party.leader roleID) =
      party.team teamID := by
    simp only [Team.changeRoleStues, Party.team, setStatus_rows party.distinct,
      Function.update_eq_self]
  have sameTeams : Function.update core.mapTeam teamID (some (party.team teamID)) = core.mapTeam := by
    rw [← shows.mapTeam_eq found, Function.update_eq_self]
  simp only [TeamCore.changtoFlag, shows.mapTeam_eq found, same]
  refine ⟨shows.grouping, ?_, fun current role _ online => ?_, shows.zero⟩
  · rw [setTeam_mapTeam, modifyRole_mapTeam, sameTeams]
    exact shows.mapTeam
  · rw [setTeam_mapRole, modifyRole_mapRole] at online
    rw [setTeam_mapRoleTeam, modifyRole_mapRoleTeam]
    split_ifs at online with isRole
    · obtain ⟨old, wasOnline, rfl⟩ := Option.map_eq_some_iff.mp online
      have seen := shows.view roleID old (Option.some_ne_none _) wasOnline
      rw [shows.index_eq found member, Parties.viewOf_some found] at seen
      rw [isRole, shows.index_eq found member, Parties.viewOf_some found, ← seen]
      simp only [TeamMember.view, Prod.mk.injEq] at seen
      simp [TeamMember.view, seen.2.1]
    · exact shows.view current role (Option.some_ne_none _) online

theorem Shows.processBackOrleave (shows : Shows core teams none) {flag : UInt8}
    (keeps : (core.getTeamsFromRoleID roleID).teamID ≠ 0 →
      (flag = 1 → ¬ core.Leads roleID) ∧ (flag = 2 → core.Leads roleID)) :
    ∃ teams, Shows (core.processBackOrleave roleID (some flag)).2 teams none := by
  refine ⟨teams, ?_⟩
  have absent (type : UInt8) : core.changtoFlag 0 roleID type = (-1, core) := by
    rw [TeamCore.changtoFlag, shows.mapTeam_zero]
  simp only [TeamCore.processBackOrleave]
  rcases shows.team_cases roleID with
    ⟨-, team⟩ | ⟨teamID, party, -, found, member, nonzero, team⟩
  · have none : (core.getTeamsFromRoleID roleID).teamID = 0 := congrArg Team.teamID team
    rw [none, absent, absent]
    split_ifs <;> exact shows
  have written := shows.changtoFlag found member
  have leads : core.Leads roleID ↔ roleID = party.leader := by
    rw [Leads, team]
    exact ⟨fun both => both.2.symm, fun leader => ⟨nonzero, leader.symm⟩⟩
  rw [team, Party.team_teamID] at keeps ⊢
  obtain ⟨follows, isLeader⟩ := keeps nonzero
  split_ifs with one two
  · rwa [statusOf_of_ne fun leader => follows one (leads.mpr leader)] at written
  · rwa [leads.mp (isLeader two), statusOf_self, ← leads.mp (isLeader two)] at written
  · exact shows

theorem modifyRole_offline (offline : core.mapRole roleID = none)
    (change : TeamMember → TeamMember) : core.modifyRole roleID change = core := by
  rw [modifyRole, offline, Option.map_none, ← offline, Function.update_eq_self]

theorem Shows.congr {next : TeamCore} (shows : Shows core teams none)
    (mapRole : next.mapRole = core.mapRole) (mapTeam : next.mapTeam = core.mapTeam)
    (mapRoleTeam : next.mapRoleTeam = core.mapRoleTeam) : Shows next teams none where
  grouping := by rw [mapRoleTeam]; exact shows.grouping
  mapTeam := by rw [mapTeam]; exact shows.mapTeam
  view := by rw [mapRole, mapRoleTeam]; exact shows.view
  zero := shows.zero

/-- The second erasure of a logout finds nothing. -/
theorem Shows.erase_again (shows : Shows core teams none) (free : core.mapRoleTeam roleID = none) :
    Shows (core.eraseRoleIDTeamID roleID) teams none := by
  refine shows.congr rfl rfl ?_
  rw [eraseRoleIDTeamID_mapRoleTeam, ← free, Function.update_eq_self]

/-- A role that follows, or the last one, logs out as it would leave. -/
theorem logoutToTeam_eq_delete {teamID : UInt32} {team : Team}
    (found : core.mapTeam teamID = some team) (offline : core.mapRole roleID = none)
    (simple : team.leaderRoleID ≠ roleID ∨ (team.outTheTeam roleID).listMember = []) :
    (core.logoutToTeam teamID roleID).2 = (core.deleteTeamRole teamID roleID).2 := by
  have gone : ((core.setTeam teamID (some (team.outTheTeam roleID))).eraseRoleIDTeamID
      roleID).mapRole roleID = none := offline
  simp only [logoutToTeam, deleteTeamRole, found, roleTeamset, modifyRole_offline gone]
  cases rest : (team.outTheTeam roleID).listMember with
  | nil => rfl
  | cons member others =>
      rw [rest] at simple
      have follows : roleID ≠ (team.outTheTeam roleID).leaderRoleID :=
        Ne.symm (simple.resolve_right (List.cons_ne_nil _ _))
      simp [follows]

/-- A leader logs out as it would leave, and the first member that remains follows. -/
theorem Shows.logout_leader (shows : Shows core teams none) {teamID : UInt32} {party : Party}
    (found : teams teamID = some party) (offline : core.mapRole party.leader = none)
    (next : (party.members.erase party.leader).head? = some id) (valid : id ≠ 0) :
    ∃ teams, Shows (core.logoutToTeam teamID party.leader).2 teams none := by
  have remains := List.mem_of_mem_head? next
  have inParty : id ∈ party.members := List.mem_of_mem_erase remains
  have other : id ≠ party.leader := (party.distinct.mem_erase_iff.mp remains).1
  have apart : party.leader ≠ (party.promote id inParty).leader := other.symm
  have changed := shows.changtoBeLeader found inParty other valid
  have remainsIn : party.leader ∈ (party.promote id inParty).members := party.leader_mem
  have left := changed.deleteTeamRole (Function.update_self ..) remainsIn apart (by simp)
  have gone : (((core.changtoBeLeader teamID id).2.setTeam teamID (some (((party.promote id
      inParty).leave party.leader apart).team teamID))).eraseRoleIDTeamID party.leader).mapRole
        party.leader = none := changtoBeLeader_offline offline
  rw [changed.deleteTeamRole_eq (Function.update_self ..) apart, roleTeamset,
    modifyRole_offline gone, shows.changtoBeLeader_eq found inParty other valid] at left
  obtain ⟨tail, rest⟩ : ∃ tail, party.members.erase party.leader = id :: tail :=
    List.head?_eq_some_iff.mp next
  have out : (party.team teamID).outTheTeam party.leader =
      ⟨teamID, party.leader, ⟨id, statusOf party.leader id⟩ ::
        rows (statusOf party.leader) tail⟩ := by
    simp only [Team.outTheTeam, Party.team, eraseP_rows, rest]
    rfl
  have follows := party.team_succeed teamID inParty other valid
  rw [out] at follows
  simp only [TeamCore.logoutToTeam, shows.mapTeam_eq found, out, if_true, follows]
  refine ⟨_, left.congr ?_ ?_ ?_⟩
  · funext current
    have stays : current ∈ id :: tail ↔ current ≠ party.leader ∧ current ∈ party.members := by
      rw [← rest, party.distinct.mem_erase_iff]
    have told : current ∈ ((party.promote id inParty).team teamID).listMember.map
        TeamRole.roleId ↔ current ∈ party.members := by
      simp [Party.team, Party.promote]
    have named : current ∈ (⟨id, statusOf party.leader id⟩ ::
        rows (statusOf party.leader) tail).map TeamRole.roleId ↔ current ∈ id :: tail := by
      rw [List.map_cons, rows_ids]
    simp only [tellLeader_mapRole, modifyRole_mapRole, setTeam_mapRole, eraseRoleIDTeamID_mapRole]
    rcases eq_or_ne current id with rfl | notNext
    · rw [if_pos (named.mpr (by simp)), if_pos rfl, if_pos rfl, if_pos (told.mpr inParty),
        Option.map_map, Option.map_map]
      rfl
    rw [if_neg notNext, if_neg notNext]
    rcases eq_or_ne current party.leader with rfl | notLeader
    · rw [offline, Option.map_none, ite_self, ite_self]
    · have same := named.trans (stays.trans ((and_iff_right notLeader).trans told.symm))
      rw [if_congr same rfl rfl]
  · simp
  · simp

/-- An offline member is removed from its party. -/
theorem Shows.logoutToTeam (shows : Shows core teams none) {teamID : UInt32} {party : Party}
    (found : teams teamID = some party) (member : roleID ∈ party.members)
    (offline : core.mapRole roleID = none)
    (keeps : party.leader = roleID → ∀ id ∈ (party.members.erase roleID).head?, id ≠ 0) :
    ∃ teams, Shows (core.logoutToTeam teamID roleID).2 teams none := by
  by_cases leader : party.leader = roleID
  · obtain rfl := leader
    cases next : (party.members.erase party.leader).head? with
    | none =>
        have last := members_of_erase next
        have empty : ((party.team teamID).outTheTeam party.leader).listMember = [] := by
          simp [Team.outTheTeam, Party.team, last, rows]
        rw [logoutToTeam_eq_delete (shows.mapTeam_eq found) offline (.inr empty)]
        exact ⟨_, shows.deleteTeamRole_last found last⟩
    | some id => exact shows.logout_leader found offline next (keeps rfl id next)
  · rw [logoutToTeam_eq_delete (shows.mapTeam_eq found) offline (.inl leader)]
    exact ⟨_, shows.deleteTeamRole found member (Ne.symm leader) (by simp)⟩

/-- The index forgets the role. -/
theorem logoutToTeam_mapRoleTeam {teamID : UInt32} {team : Team}
    (found : core.mapTeam teamID = some team) :
    (core.logoutToTeam teamID roleID).2.mapRoleTeam roleID = none := by
  simp only [logoutToTeam, found]
  cases rest : (team.outTheTeam roleID).listMember with
  | nil => simp [deleteTeam, rest]
  | cons member others =>
      simp only
      split <;> simp

theorem Shows.processRoleLogout (shows : Shows core teams none)
    (keeps : core.mapRole roleID ≠ none → core.Leads roleID →
      ∀ id ∈ ((core.getTeamsFromRoleID roleID).memberIDs.erase roleID).head?, id ≠ 0) :
    ∃ teams, Shows (core.processRoleLogout roleID).2 teams none := by
  cases online : core.mapRole roleID with
  | none => exact ⟨teams, by simpa [TeamCore.processRoleLogout, online] using shows⟩
  | some role =>
      simp only [TeamCore.processRoleLogout, online]
      have seen := shows.view roleID role (Option.some_ne_none _) online
      have left : Shows { core with mapRole := Function.update core.mapRole roleID none } teams
          none := by
        refine ⟨shows.grouping, shows.mapTeam, fun other current _ found => ?_, shows.zero⟩
        simp only [Function.update_apply] at found
        split_ifs at found
        exact shows.view other current (Option.some_ne_none _) found
      rcases shows.team_cases roleID with
        ⟨free, -⟩ | ⟨teamID, party, indexed, found, member, nonzero, team⟩
      · rw [free, Parties.viewOf_none] at seen
        have noTeam : role.teamID = 0 := congrArg Prod.fst seen
        rw [noTeam, if_neg (not_not.mpr rfl)]
        exact ⟨teams, left⟩
      · rw [indexed, Parties.viewOf_some found] at seen
        have named : role.teamID = teamID := congrArg Prod.fst seen
        rw [named, if_pos nonzero]
        obtain ⟨after, removed⟩ := left.logoutToTeam found member (Function.update_self ..) (by
          intro leader
          have leads : core.Leads roleID := by
            rw [Leads, team]
            exact ⟨nonzero, leader⟩
          have valid := keeps (by simp [online]) leads
          rwa [team, Party.team_memberIDs] at valid)
        exact ⟨after, removed.erase_again (logoutToTeam_mapRoleTeam (left.mapTeam_eq found))⟩

end Handlers

/-- No team exists when the server starts, and an online role starts without a team. -/
structure Start (core : TeamCore) : Prop where
  noTeam : ∀ teamID, core.mapTeam teamID = none
  noIndex : ∀ roleID, core.mapRoleTeam roleID = none
  fresh : ∀ roleID role, core.mapRole roleID = some role → role.view = (0, 0, 0)

theorem Start.shows {core : TeamCore} (start : Start core) :
    Shows core (fun _ => none) none where
  grouping := by
    have index : core.mapRoleTeam = fun _ => none := funext start.noIndex
    rw [index]
    exact .empty
  mapTeam := start.noTeam
  view roleID role _ online := by
    rw [start.noIndex, Parties.viewOf_none]
    exact start.fresh roleID role online
  zero := rfl

/-- Every event that keeps the teams keeps them in step. -/
theorem Shows.step {core next : TeamCore} {teams : Parties} (shows : Shows core teams none)
    {event : TeamEvent} (keeps : core.KeepsTeams event) (enabled : core.step event = some next) :
    ∃ teams, Shows next teams none := by
  obtain rfl := Option.some.inj enabled
  cases event with
  | requestjoin roleID body => exact ⟨teams, shows⟩
  | answerRequest roleID body =>
      cases body with
      | none => exact ⟨teams, shows⟩
      | some body =>
          obtain ⟨id, type⟩ := body
          simp only [process, processAnswerRequest]
          split_ifs with accepts
          · exact shows.acceptRequest (keeps accepts)
          · exact ⟨teams, shows⟩
  | changeCaptain roleID body =>
      cases body with
      | none => exact ⟨teams, shows⟩
      | some id => exact shows.processChangeCaptain keeps
  | callMember roleID body => exact ⟨teams, shows⟩
  | captMember roleID body =>
      cases body with
      | none => exact ⟨teams, shows⟩
      | some id => exact shows.processCaptMember keeps
  | memberOut roleID => exact shows.processMemberOut keeps
  | backOrleave roleID body =>
      cases body with
      | none => exact ⟨teams, shows⟩
      | some flag => exact shows.processBackOrleave keeps
  | logout roleID => exact shows.processRoleLogout keeps

/-- Three roles without a team are online. -/
def strangers : TeamCore where
  mapRole roleID := if roleID ∈ [1, 2, 3] then some ⟨roleID, 0, 0, 0⟩ else none
  mapTeam _ := none
  mapRoleTeam _ := none
  lastTeamID := 1

theorem strangers_start : Start strangers where
  noTeam _ := rfl
  noIndex _ := rfl
  fresh roleID role online := by
    simp only [strangers] at online
    split at online
    · obtain rfl := Option.some.inj online
      rfl
    · cases online

end TeamCore

end AppSvr.MainServer
