/-
This file proves when a refused battle request changes nothing, and when no role is in two battles.
-/

import AppSvr.Construction.MainServer.PKSvc
import AppSvr.Proof.MainServer.PKBriefs

namespace AppSvr.MainServer
open TransitionSystem

attribute [ext] PKBriefs

/-- A leader of monsters stands on some map. -/
def Scenes.IsLeader (scenes : Scenes) (creatureID : UInt32) : Prop :=
  ∃ mapID, scenes.mapsenceMonster mapID creatureID ≠ none

namespace PKCore

/-- The registry and the status of every role are the same. -/
structure SameBattles (core next : PKCore) : Prop where
  briefs : next.briefs = core.briefs
  status : ∀ roleID,
    (next.mapRole roleID).map PKRole.status = (core.mapRole roleID).map PKRole.status

variable (scenes : Scenes) (core : PKCore)

/-- A refused request changes neither the registry nor a status. -/
def RefusesCleanly (roleID : UInt32) (body : Option (UInt8 × UInt32)) (iRet : UInt32) : Prop :=
  (core.processPKReq scenes roleID body iRet).1 ≠ 0 →
    SameBattles core (core.processPKReq scenes roleID body iRet).2

/-- The role is offline or in no battle. -/
def Idle (roleID : UInt32) : Prop := ∀ role ∈ core.mapRole roleID, role.status = 1

/-- A request that the checks refuse comes from an unregistered role, and the role that was looked
up last is idle. A request that is refused behind the registration repeats a brief whose other
players are still registered. -/
def Harmless (roleID : UInt32) (body : Option (UInt8 × UInt32)) (iRet : UInt32) : Prop :=
  match core.draft scenes roleID body with
  | .error (_, srcRole) => core.briefs.mapRolePKID roleID = none ∧ core.Idle srcRole
  | .ok (srcRole, pkList) =>
      ((core.processGetRolePtr roleID).status = 1 ∧ iRet = 0) ∨
        ((core.briefs.mapPkInfo roleID = some pkList ∧ core.briefs.mapRolePKID roleID = none ∧
          ∀ player ∈ pkList.players, player ≠ roleID →
            core.briefs.mapRolePKID player = some roleID) ∧ core.Idle srcRole)

/-- No role is listed by two briefs. A leader of monsters is no role. -/
def Solitary : Prop :=
  ∀ roleID, ¬ scenes.IsLeader roleID → ∀ first second firstInfo secondInfo,
    core.briefs.mapPkInfo first = some firstInfo → core.briefs.mapPkInfo second = some secondInfo →
      roleID ∈ firstInfo.players → roleID ∈ secondInfo.players → first = second

/-- A registered request lists only roles that no brief under another identifier lists. -/
def DrawsFree : PKEvent → Prop
  | .processPKReq roleID body _ => ∀ srcRole pkList,
      core.draft scenes roleID body = .ok (srcRole, pkList) →
        ∀ player ∈ pkList.players, ¬ scenes.IsLeader player → ∀ other info, other ≠ roleID →
          core.briefs.mapPkInfo other = some info → player ∉ info.players
  | .processPKEnd _ _ => True
  | .others _ _ => True

section Refusals

variable {scenes : Scenes} {core : PKCore} {roleID : UInt32} {body : Option (UInt8 × UInt32)}

@[simp] theorem setStatus_briefs (status : UInt8) :
    (core.setStatus roleID status).briefs = core.briefs := rfl

theorem setStatus_twice (first second : UInt8) :
    (core.setStatus roleID first).setStatus roleID second = core.setStatus roleID second := by
  simp [setStatus, Function.comp_def]

/-- Resetting an idle role changes no status. -/
theorem setStatus_same_iff (srcRole : UInt32) :
    (∀ other, ((core.setStatus srcRole 1).mapRole other).map PKRole.status =
      (core.mapRole other).map PKRole.status) ↔ core.Idle srcRole := by
  constructor
  · intro same role found
    have status := same srcRole
    rw [Option.mem_def] at found
    simpa [setStatus, found, eq_comm] using status
  · intro idle other
    by_cases same : other = srcRole
    · subst same
      cases found : core.mapRole other with
      | none => simp [setStatus, found]
      | some role => simp [setStatus, found, idle role found]
    · simp [setStatus, same]

/-- The erased entry was absent, and the brief and the other entries were there before. -/
theorem erase_add_eq_iff (briefs : PKBriefs) (pkList : PKBriefList) :
    (briefs.addPKBrif roleID pkList).eraseRolePKID roleID = briefs ↔
      briefs.mapPkInfo roleID = some pkList ∧ briefs.mapRolePKID roleID = none ∧
        ∀ player ∈ pkList.players, player ≠ roleID → briefs.mapRolePKID player = some roleID := by
  constructor
  · intro same
    have infos := congrArg (fun briefs => briefs.mapPkInfo roleID) same
    have entries (player : UInt32) := congrArg (fun briefs => briefs.mapRolePKID player) same
    simp only [PKBriefs.eraseRolePKID, PKBriefs.addPKBrif_mapPkInfo, Function.update_self] at infos
    simp only [PKBriefs.eraseRolePKID, Function.update_apply,
      PKBriefs.addPKBrif_mapRolePKID] at entries
    refine ⟨infos.symm, ?_, ?_⟩
    · simpa using (entries roleID).symm
    · intro player listed other
      simpa [listed, other] using (entries player).symm
  · rintro ⟨info, own, others⟩
    ext1
    · simp [PKBriefs.eraseRolePKID, ← info]
    · funext player
      simp only [PKBriefs.eraseRolePKID, Function.update_apply, PKBriefs.addPKBrif_mapRolePKID]
      split_ifs with same listed
      · rw [same, own]
      · rw [others player listed same]
      · rfl

theorem erase_eq_iff (briefs : PKBriefs) :
    briefs.eraseRolePKID roleID = briefs ↔ briefs.mapRolePKID roleID = none := by
  constructor
  · intro same
    have entry := congrArg (fun briefs => briefs.mapRolePKID roleID) same
    simpa [PKBriefs.eraseRolePKID] using entry.symm
  · intro absent
    ext1
    · rfl
    · simp [PKBriefs.eraseRolePKID, ← absent]

/-- Every refusal of the checks has a code. -/
theorem findTarget_error {srcRole : PKRole} {creatureFlag : UInt8} {creatureID retCode : UInt32}
    (refused : findTarget scenes core srcRole creatureFlag creatureID = .error retCode) :
    retCode ≠ 0 := by
  simp only [findTarget] at refused
  split_ifs at refused
  all_goals
    injection refused with code
    subst code
    decide

theorem draft_error {retCode srcRole : UInt32}
    (refused : core.draft scenes roleID body = .error (retCode, srcRole)) : retCode ≠ 0 := by
  unfold draft at refused
  split at refused
  · injection refused with code
    injection code with code
    subst code
    decide
  · dsimp only at refused
    split_ifs at refused
    case neg =>
      split at refused
      · rename_i target
        injection refused with code
        injection code with code
        rw [← code]
        exact findTarget_error target
      · split at refused
        · injection refused with code
          injection code with code
          subst code
          decide
        · split at refused
          · injection refused with code
            injection code with code
            subst code
            decide
          · cases refused
    all_goals
      injection refused with code
      injection code with code
      subst code
      decide

/-- A request that is refused behind the registration leaves its brief without its own entry. -/
theorem processPKReq_refused (iRet : UInt32) {srcRole : UInt32} {pkList : PKBriefList}
    (drafted : core.draft scenes roleID body = .ok (srcRole, pkList))
    (refused : ¬ ((core.processGetRolePtr roleID).status = 1 ∧ iRet = 0)) :
    (core.processPKReq scenes roleID body iRet).1 ≠ 0 ∧
      (core.processPKReq scenes roleID body iRet).2 =
        { core.setStatus srcRole 1 with
          briefs := (core.briefs.addPKBrif roleID pkList).eraseRolePKID roleID } := by
  have role : (PKCore.processGetRolePtr
      { core with briefs := core.briefs.addPKBrif roleID pkList } roleID) =
        core.processGetRolePtr roleID := rfl
  simp only [processPKReq, drafted, role]
  split_ifs with busy failed
  · exact ⟨(by decide : errAppRoleNotExists ≠ 0), rfl⟩
  · refine ⟨failed, ?_⟩
    simp only [cleanUp, setStatus_twice, setStatus_briefs]
    rfl
  · exact absurd ⟨not_not.mp busy, not_not.mp failed⟩ refused

/-- A refusal is clean exactly when it is harmless. -/
theorem refusesCleanly_iff (iRet : UInt32) :
    RefusesCleanly scenes core roleID body iRet ↔ Harmless scenes core roleID body iRet := by
  unfold RefusesCleanly Harmless
  cases drafted : core.draft scenes roleID body with
  | error refusal =>
      obtain ⟨retCode, srcRole⟩ := refusal
      have code := draft_error drafted
      simp only [processPKReq, drafted, ne_eq, code, not_false_eq_true, true_imp_iff]
      rw [← erase_eq_iff, ← setStatus_same_iff]
      exact ⟨fun same => ⟨same.briefs, same.status⟩, fun same => ⟨same.1, same.2⟩⟩
  | ok accepted =>
      obtain ⟨srcRole, pkList⟩ := accepted
      by_cases begun : (core.processGetRolePtr roleID).status = 1 ∧ iRet = 0
      · have role : (PKCore.processGetRolePtr
            { core with briefs := core.briefs.addPKBrif roleID pkList } roleID) =
              core.processGetRolePtr roleID := rfl
        simp [processPKReq, drafted, role, begun]
      · obtain ⟨code, next⟩ := processPKReq_refused iRet drafted begun
        rw [next]
        dsimp only
        rw [or_iff_right begun, ← erase_add_eq_iff, ← setStatus_same_iff]
        constructor
        · intro clean
          have same := clean code
          exact ⟨same.briefs, same.status⟩
        · intro same _
          exact ⟨same.1, same.2⟩

end Refusals

section Runs

variable {scenes : Scenes} {core next : PKCore}

/-- A request registers its brief, or no brief at all. -/
theorem processPKReq_mapPkInfo (scenes : Scenes) (core : PKCore) (roleID : UInt32)
    (body : Option (UInt8 × UInt32)) (iRet : UInt32) :
    (core.processPKReq scenes roleID body iRet).2.briefs.mapPkInfo =
      match core.draft scenes roleID body with
      | .error _ => core.briefs.mapPkInfo
      | .ok (_, pkList) => Function.update core.briefs.mapPkInfo roleID (some pkList) := by
  unfold processPKReq
  cases core.draft scenes roleID body with
  | error refusal => rfl
  | ok accepted =>
      dsimp only
      split_ifs <;> simp [cleanUp, PKBriefs.eraseRolePKID]

theorem changeCreatureStatus_briefs (core : PKCore) (report : PKEnd) :
    (core.changeCreatureStatus report).briefs = core.briefs := by
  unfold changeCreatureStatus
  induction report.lei generalizing core with
  | nil => rfl
  | cons record records ih =>
      rw [List.foldl_cons, ih]
      split_ifs <;> rfl

/-- A report leaves the registry, or it deletes its own brief. -/
theorem processPKEnd_briefs {world : PKEndWorld} {body : Option PKEnd}
    {result : UInt32 × PKPayment × PKCore}
    (processed : core.processPKEnd scenes world body = some result) :
    result.2.2.briefs = match body with
      | none => core.briefs
      | some report =>
          if world.equipDurabilityLoss 0 report.lei ≠ 0 then core.briefs
          else (core.briefs.deletePkBrif report.pkID).2 := by
  unfold processPKEnd at processed
  cases body with
  | none =>
      obtain rfl := Option.some.inj processed
      rfl
  | some report =>
      obtain ⟨payment, -, rfl⟩ := Option.map_eq_some_iff.mp processed
      dsimp only
      split_ifs
      · rfl
      · exact changeCreatureStatus_briefs _ report

/-- A deletion adds no brief. -/
theorem deletePkBrif_found {briefs : PKBriefs} {pkID other : UInt32} {info : PKBriefList}
    (found : (briefs.deletePkBrif pkID).2.mapPkInfo other = some info) :
    briefs.mapPkInfo other = some info := by
  cases brief : briefs.mapPkInfo pkID with
  | none => rwa [PKBriefs.deletePkBrif_of_none briefs brief] at found
  | some pkinfo =>
      rw [PKBriefs.deletePkBrif_mapPkInfo brief, Function.update_apply] at found
      split_ifs at found
      exact found

theorem Solitary.mono (solitary : Solitary scenes core)
    (kept : ∀ pkID info, next.briefs.mapPkInfo pkID = some info →
      core.briefs.mapPkInfo pkID = some info) : Solitary scenes next := by
  intro roleID role first second firstInfo secondInfo firstFound secondFound
  exact solitary roleID role first second firstInfo secondInfo (kept _ _ firstFound)
    (kept _ _ secondFound)

theorem Solitary.request (solitary : Solitary scenes core) {roleID : UInt32}
    {body : Option (UInt8 × UInt32)} {iRet : UInt32}
    (free : core.DrawsFree scenes (.processPKReq roleID body iRet)) :
    Solitary scenes (core.processPKReq scenes roleID body iRet).2 := by
  have infos := processPKReq_mapPkInfo scenes core roleID body iRet
  cases drafted : core.draft scenes roleID body with
  | error refusal =>
      rw [drafted] at infos
      apply solitary.mono
      intro pkID info found
      rwa [infos] at found
  | ok accepted =>
      obtain ⟨srcRole, pkList⟩ := accepted
      rw [drafted] at infos
      dsimp only at infos
      have unlisted := free srcRole pkList drafted
      intro player role first second firstInfo secondInfo firstFound secondFound inFirst inSecond
      rw [infos, Function.update_apply] at firstFound secondFound
      split_ifs at firstFound secondFound with isFirst isSecond isSecond
      · exact isFirst.trans isSecond.symm
      · obtain rfl := Option.some.inj firstFound
        exact absurd inSecond (unlisted player inFirst role second secondInfo isSecond secondFound)
      · obtain rfl := Option.some.inj secondFound
        exact absurd inFirst (unlisted player inSecond role first firstInfo isFirst firstFound)
      · exact solitary player role first second firstInfo secondInfo firstFound secondFound inFirst
          inSecond

theorem Solitary.step (solitary : Solitary scenes core) {event : PKEvent}
    (free : core.DrawsFree scenes event) (enabled : core.step scenes event = some next) :
    Solitary scenes next := by
  cases event with
  | processPKReq roleID body iRet =>
      obtain rfl := Option.some.inj enabled
      exact solitary.request free
  | processPKEnd world body =>
      obtain ⟨result, processed, rfl⟩ := Option.map_eq_some_iff.mp enabled
      have briefs := processPKEnd_briefs processed
      apply solitary.mono
      intro pkID info found
      rw [briefs] at found
      cases body with
      | none => exact found
      | some report =>
          dsimp only at found
          split_ifs at found
          · exact found
          · exact deletePkBrif_found found
  | others mapRole mapTeam =>
      obtain rfl := Option.some.inj enabled
      exact solitary

end Runs

/-- Refusals are clean exactly when they are harmless, and no role is in two battles while every
registered request draws in free roles. -/
theorem refusals_clean (scenes : Scenes) (core : PKCore) :
    (∀ roleID body iRet,
      RefusesCleanly scenes core roleID body iRet ↔ Harmless scenes core roleID body iRet) ∧
    ∀ start history, start.briefs = .empty →
      Run (step scenes) (DrawsFree scenes) start history core → Solitary scenes core := by
  refine ⟨fun roleID body iRet => refusesCleanly_iff iRet, ?_⟩
  intro start history started reached
  refine reached.invariant (Solitary scenes) ?_ fun _ _ _ solitary free enabled =>
    solitary.step free enabled
  intro roleID _ first second firstInfo secondInfo found
  rw [started] at found
  cases found

/-- Role one and role two are online, and nothing else is there. -/
def duel : PKCore :=
  ⟨.empty, fun roleID => if roleID = 1 ∨ roleID = 2 then some ⟨roleID, 1, 0, 0, 1⟩ else none,
    fun _ => none⟩

def emptyScenes : Scenes := ⟨fun _ _ => none, fun _ _ => 0⟩

/-- Role one attacks role two. -/
theorem refusals_clean_duel : ∃ history core,
    Run (step emptyScenes) (DrawsFree emptyScenes) duel history core ∧
      core.briefs.ifRoleInPK 2 = 1 ∧ Solitary emptyScenes core := by
  have reached : Run (step emptyScenes) (DrawsFree emptyScenes) duel
      [(duel, .processPKReq 1 (some (1, 2)) 0)]
      (duel.processPKReq emptyScenes 1 (some (1, 2)) 0).2 := by
    refine Run.head ?_ rfl .nil
    intro _ _ _ _ _ _ _ _ _ found
    cases found
  exact ⟨_, _, reached, by decide, (refusals_clean _ _).2 _ _ rfl reached⟩

/-- The second request of a role that fights takes the role out of the registry. -/
theorem refusals_not_clean :
    ¬ ((∀ scenes core roleID body iRet, RefusesCleanly scenes core roleID body iRet) ∧
      ∀ scenes start history core, start.briefs = .empty →
        Run (step scenes) anyEvent start history core → Solitary scenes core) := by
  rintro ⟨clean, -⟩
  have same := clean emptyScenes (duel.processPKReq emptyScenes 1 (some (1, 2)) 0).2 1
    (some (1, 2)) 0 (by decide)
  have entry := congrArg (fun briefs => briefs.ifRoleInPK 1) same.briefs
  exact absurd entry (by decide)

end PKCore

end AppSvr.MainServer
