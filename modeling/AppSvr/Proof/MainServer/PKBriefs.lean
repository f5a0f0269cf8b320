/-
This file proves when the registry of the battles names the battle of every role.
-/

import AppSvr.Construction.MainServer.PKBriefs
import AppSvr.ToMathlib.TransitionSystem

namespace AppSvr.MainServer
open TransitionSystem

/-- The brief lists the roles of both sides. -/
def PKBriefList.players (pkinfo : PKBriefList) : List UInt32 := pkinfo.player1 ++ pkinfo.player2

namespace PKBriefs

/-- The call neither registers the role again nor removes it or its battle. -/
def Spares (roleID pkID : UInt32) : BriefCall → Prop
  | .addPKBrif _ pkinfo => roleID ∉ pkinfo.players
  | .deletePkBrif other => other ≠ pkID
  | .eraseRolePKID other => other ≠ roleID

/-- The battle was the last one registered for the role, and neither has been removed. -/
def Registered (history : History PKBriefs BriefCall) (roleID pkID : UInt32) : Prop :=
  ∃ earlier core pkinfo later, history = earlier ++ (core, .addPKBrif pkID pkinfo) :: later ∧
    roleID ∈ pkinfo.players ∧ ∀ entry ∈ later, Spares roleID pkID entry.2

/-- The two maps agree with each other and with the calls so far. -/
structure RegistryAgrees (history : History PKBriefs BriefCall) (core : PKBriefs) : Prop where
  listed : ∀ roleID pkID, core.mapRolePKID roleID = some pkID →
    ∃ pkinfo, core.mapPkInfo pkID = some pkinfo ∧ roleID ∈ pkinfo.players
  found : ∀ roleID pkID, Registered history roleID pkID → core.ifRoleInPK roleID = pkID

/-- A brief that replaces another lists the roles that are still in that battle, and a deleted brief
lists no role that is in another battle. -/
def KeepsRegistry (core : PKBriefs) : BriefCall → Prop
  | .addPKBrif pkID pkinfo => ∀ old ∈ core.mapPkInfo pkID, ∀ roleID ∈ old.players,
      core.mapRolePKID roleID = some pkID → roleID ∈ pkinfo.players
  | .deletePkBrif pkID => ∀ pkinfo ∈ core.mapPkInfo pkID, ∀ roleID ∈ pkinfo.players,
      ∀ other ∈ core.mapRolePKID roleID, other = pkID
  | .eraseRolePKID _ => True

instance (core : PKBriefs) (call : BriefCall) : Decidable (core.KeepsRegistry call) :=
  match call with
  | .addPKBrif pkID pkinfo => decidable_of_iff
      ((core.mapPkInfo pkID).all fun old => old.players.all fun roleID =>
        decide (core.mapRolePKID roleID = some pkID → roleID ∈ pkinfo.players))
      (by simp [KeepsRegistry, Option.all_eq_true, ← imp_iff_not_or])
  | .deletePkBrif pkID => decidable_of_iff
      ((core.mapPkInfo pkID).all fun pkinfo => pkinfo.players.all fun roleID =>
        (core.mapRolePKID roleID).all fun other => decide (other = pkID))
      (by simp [KeepsRegistry, Option.all_eq_true])
  | .eraseRolePKID _ => inferInstanceAs (Decidable True)

section Maps

variable (core : PKBriefs) (entry : Option UInt32) (players : List UInt32)

@[simp] theorem setPKID_mapPkInfo : (setPKID entry core players).mapPkInfo = core.mapPkInfo := by
  unfold setPKID
  induction players generalizing core with
  | nil => rfl
  | cons player players ih => exact ih _

theorem setPKID_mapRolePKID (roleID : UInt32) : (setPKID entry core players).mapRolePKID roleID =
    if roleID ∈ players then entry else core.mapRolePKID roleID := by
  unfold setPKID
  induction players generalizing core with
  | nil => simp
  | cons player players ih =>
      rw [List.foldl_cons, ih]
      by_cases same : roleID = player
      · simp [same]
      · simp [same]

@[simp] theorem addPKBrif_mapPkInfo (pkID : UInt32) (pkinfo : PKBriefList) :
    (core.addPKBrif pkID pkinfo).mapPkInfo =
      Function.update core.mapPkInfo pkID (some pkinfo) := by
  simp [addPKBrif, addRolePKID]

theorem addPKBrif_mapRolePKID (pkID : UInt32) (pkinfo : PKBriefList) (roleID : UInt32) :
    (core.addPKBrif pkID pkinfo).mapRolePKID roleID =
      if roleID ∈ pkinfo.players then some pkID else core.mapRolePKID roleID := by
  simp only [addPKBrif, addRolePKID, setPKID_mapRolePKID, PKBriefList.players, List.mem_append]
  split_ifs <;> simp_all

theorem deletePkBrif_of_none {pkID : UInt32} (absent : core.mapPkInfo pkID = none) :
    (core.deletePkBrif pkID).2 = core := by
  simp [deletePkBrif, absent]

variable {core} {pkID : UInt32} {pkinfo : PKBriefList}

theorem deletePkBrif_mapPkInfo (found : core.mapPkInfo pkID = some pkinfo) :
    (core.deletePkBrif pkID).2.mapPkInfo = Function.update core.mapPkInfo pkID none := by
  simp [deletePkBrif, found, deleterolePKID]

theorem deletePkBrif_mapRolePKID (found : core.mapPkInfo pkID = some pkinfo) (roleID : UInt32) :
    (core.deletePkBrif pkID).2.mapRolePKID roleID =
      if roleID ∈ pkinfo.players then none else core.mapRolePKID roleID := by
  simp only [deletePkBrif, found, deleterolePKID, setPKID_mapRolePKID, PKBriefList.players,
    List.mem_append]
  split_ifs <;> simp_all

end Maps

/-- Every entry of a role names a brief that lists the role. -/
def Listed (core : PKBriefs) : Prop :=
  ∀ roleID pkID, core.mapRolePKID roleID = some pkID →
    ∃ pkinfo, core.mapPkInfo pkID = some pkinfo ∧ roleID ∈ pkinfo.players

section Listed

variable {core : PKBriefs} (listed : core.Listed)
include listed

theorem Listed.add {pkID : UInt32} {pkinfo : PKBriefList}
    (keeps : core.KeepsRegistry (.addPKBrif pkID pkinfo)) :
    (core.addPKBrif pkID pkinfo).Listed := by
  intro roleID other mapped
  rw [addPKBrif_mapRolePKID] at mapped
  rw [addPKBrif_mapPkInfo]
  split_ifs at mapped with lists
  · obtain rfl := Option.some.inj mapped
    exact ⟨pkinfo, Function.update_self .., lists⟩
  · have different : other ≠ pkID := by
      rintro rfl
      obtain ⟨old, found, inside⟩ := listed roleID other mapped
      exact lists (keeps old found roleID inside mapped)
    rw [Function.update_of_ne different]
    exact listed roleID other mapped

theorem Listed.delete (pkID : UInt32) : (core.deletePkBrif pkID).2.Listed := by
  cases brief : core.mapPkInfo pkID with
  | none =>
      rw [deletePkBrif_of_none core brief]
      exact listed
  | some pkinfo =>
      intro roleID other mapped
      rw [deletePkBrif_mapRolePKID brief] at mapped
      split_ifs at mapped with lists
      rw [deletePkBrif_mapPkInfo brief]
      have different : other ≠ pkID := by
        rintro rfl
        obtain ⟨info, found, inside⟩ := listed roleID other mapped
        rw [brief] at found
        obtain rfl := Option.some.inj found
        exact lists inside
      rw [Function.update_of_ne different]
      exact listed roleID other mapped

theorem Listed.erase (roleID : UInt32) : (core.eraseRolePKID roleID).Listed := by
  intro other pkID mapped
  simp only [eraseRolePKID, Function.update_apply] at mapped
  split_ifs at mapped
  exact listed other pkID mapped

end Listed

section Step

variable {history : History PKBriefs BriefCall} {core next : PKBriefs} {call : BriefCall}

/-- The last registration is the current call, or it is an earlier one that the call spares. -/
theorem registered_snoc {roleID pkID : UInt32}
    (registered : Registered (history ++ [(core, call)]) roleID pkID) :
    (∃ pkinfo, call = .addPKBrif pkID pkinfo ∧ roleID ∈ pkinfo.players) ∨
      (Registered history roleID pkID ∧ Spares roleID pkID call) := by
  obtain ⟨earlier, before, pkinfo, later, split, listed, spared⟩ := registered
  rcases List.eq_nil_or_concat' later with rfl | ⟨later, last, rfl⟩
  · obtain ⟨-, last⟩ := List.append_inj' split rfl
    injection last with last
    injection last with _ same
    exact .inl ⟨pkinfo, same, listed⟩
  · rw [← List.cons_append, ← List.append_assoc] at split
    obtain ⟨split, same⟩ := List.append_inj' split rfl
    injection same with same
    refine .inr ⟨⟨earlier, before, pkinfo, later, split, listed, fun entry member => ?_⟩, ?_⟩
    · exact spared entry (List.mem_append_left _ member)
    · have spares := spared last (by simp)
      rwa [← same] at spares

/-- The maps carry this agreement from call to call. -/
structure Agrees (history : History PKBriefs BriefCall) (core : PKBriefs) : Prop where
  listed : core.Listed
  found : ∀ roleID pkID, Registered history roleID pkID → core.mapRolePKID roleID = some pkID

theorem Agrees.registryAgrees (agrees : Agrees history core) : RegistryAgrees history core where
  listed := agrees.listed
  found roleID pkID registered := by rw [ifRoleInPK, agrees.found _ _ registered, Option.getD_some]

variable (agrees : Agrees history core)
include agrees

theorem Agrees.add {pkID : UInt32} {pkinfo : PKBriefList}
    (keeps : core.KeepsRegistry (.addPKBrif pkID pkinfo)) :
    Agrees (history ++ [(core, .addPKBrif pkID pkinfo)]) (core.addPKBrif pkID pkinfo) where
  listed := agrees.listed.add keeps
  found roleID other registered := by
    rw [addPKBrif_mapRolePKID]
    rcases registered_snoc registered with ⟨info, same, lists⟩ | ⟨before, spares⟩
    · injection same with sameID sameInfo
      rw [sameInfo, if_pos lists, sameID]
    · rw [if_neg spares]
      exact agrees.found roleID other before

theorem Agrees.delete {pkID : UInt32} (keeps : core.KeepsRegistry (.deletePkBrif pkID)) :
    Agrees (history ++ [(core, .deletePkBrif pkID)]) (core.deletePkBrif pkID).2 := by
  have earlier {roleID other : UInt32}
      (registered : Registered (history ++ [(core, .deletePkBrif pkID)]) roleID other) :
      core.mapRolePKID roleID = some other ∧ pkID ≠ other := by
    rcases registered_snoc registered with ⟨info, same, -⟩ | ⟨before, spares⟩
    · cases same
    · exact ⟨agrees.found roleID other before, spares⟩
  refine ⟨agrees.listed.delete pkID, fun roleID other registered => ?_⟩
  obtain ⟨mapped, different⟩ := earlier registered
  cases brief : core.mapPkInfo pkID with
  | none => rwa [deletePkBrif_of_none core brief]
  | some pkinfo =>
      rw [deletePkBrif_mapRolePKID brief, if_neg]
      · exact mapped
      · exact fun lists => different (keeps pkinfo brief roleID lists other mapped).symm

theorem Agrees.erase (roleID : UInt32) :
    Agrees (history ++ [(core, .eraseRolePKID roleID)]) (core.eraseRolePKID roleID) where
  listed := agrees.listed.erase roleID
  found other pkID registered := by
    rcases registered_snoc registered with ⟨info, same, -⟩ | ⟨before, spares⟩
    · cases same
    · simp only [eraseRolePKID, Function.update_of_ne (Ne.symm spares)]
      exact agrees.found other pkID before

theorem Agrees.step (keeps : core.KeepsRegistry call) (enabled : core.step call = some next) :
    Agrees (history ++ [(core, call)]) next := by
  cases call with
  | addPKBrif pkID pkinfo =>
      obtain rfl := Option.some.inj enabled
      exact agrees.add keeps
  | deletePkBrif pkID =>
      obtain rfl := Option.some.inj enabled
      exact agrees.delete keeps
  | eraseRolePKID roleID =>
      obtain rfl := Option.some.inj enabled
      exact agrees.erase roleID

end Step

theorem agrees_empty : Agrees [] empty where
  listed _ _ mapped := by cases mapped
  found _ _ registered := by
    obtain ⟨earlier, core, pkinfo, later, split, -⟩ := registered
    simp at split

/-- The registry agrees while no new brief drops a role of its battle and no deleted brief lists a
role of another battle. -/
theorem run_registryAgrees {history : History PKBriefs BriefCall} {core : PKBriefs}
    (reached : Run PKBriefs.step KeepsRegistry empty history core) :
    RegistryAgrees history core := by
  have agrees : Agrees history core := reached.historyInvariant Agrees agrees_empty
    fun _ _ _ _ agrees keeps enabled => agrees.step keeps enabled
  exact agrees.registryAgrees

/-- Role seven fights role nine after its battle with role eight is over. -/
theorem run_registryAgrees_seven : ∃ history core,
    Run PKBriefs.step KeepsRegistry empty history core ∧
      core.ifRoleInPK 7 = 2 ∧ RegistryAgrees history core := by
  obtain ⟨history, core, reached, battle⟩ := exists_run_of_replay PKBriefs.step KeepsRegistry empty
    [.addPKBrif 1 ⟨1, [7], [8]⟩, .deletePkBrif 1, .addPKBrif 2 ⟨2, [7], [9]⟩]
    (fun _ core => core.ifRoleInPK 7 = 2) (by decide +kernel)
  exact ⟨history, core, reached, of_decide_eq_true battle, run_registryAgrees reached⟩

/-- The end of the first battle hides the second battle of role seven. -/
theorem run_not_registryAgrees : ¬ ∀ (history : History PKBriefs BriefCall) (core : PKBriefs),
    Run PKBriefs.step anyEvent empty history core → RegistryAgrees history core := by
  intro claim
  have reached := run_of_replay (show replay PKBriefs.step empty
    [.addPKBrif 1 ⟨1, [7], [8]⟩, .addPKBrif 2 ⟨2, [7], [9]⟩, .deletePkBrif 1] = some _ from rfl)
  have hidden := (claim _ _ reached).found 7 2
    ⟨[_], _, ⟨2, [7], [9]⟩, [(_, .deletePkBrif 1)], rfl, by decide, by simp [Spares]⟩
  exact absurd hidden (by decide)

end PKBriefs

end AppSvr.MainServer
