/-
This file proves that casts are paid, and that the pause of a skill lies between its casts.
-/

import AppSvr.Proof.PkServer.BattleStirs

namespace AppSvr.PkServer
open Relation TransitionSystem

/-- The times at which a role is announced to use a skill. -/
def useTimes (id code : Int) (entries : List (Int × Broadcast)) : List Int :=
  entries.filterMap fun entry =>
    match entry.2 with
    | .skill role type _ _ => if role = id ∧ type = code then some entry.1 else none
    | _ => none

/-- Only the course of time counts. -/
def Event.ticks : Event → Nat
  | .runTime _ _ => 1
  | _ => 0

namespace PKPE

/-- The messages that an event adds. -/
def added (battle : PKPE) (event : Event) : List (Int × Broadcast) :=
  (step battle event).elim [] fun next => next.sent.drop battle.sent.length

/-- The number of ticks so far, and the uses of a skill with their ticks and the times of the server. -/
def castLog (id code : Int) (history : History PKPE Event) : Nat × List (Nat × Int) :=
  history.foldl (fun (ticks, log) (battle, event) => (ticks + event.ticks,
    log ++ (useTimes id code (battle.added event)).map fun time => (ticks + event.ticks, time)))
    (0, [])

section Log

theorem castLog_append (id code : Int) (history : History PKPE Event) (battle : PKPE)
    (event : Event) : castLog id code (history ++ [(battle, event)]) =
      ((castLog id code history).1 + event.ticks, (castLog id code history).2 ++
        (useTimes id code (battle.added event)).map fun time =>
          ((castLog id code history).1 + event.ticks, time)) := by
  unfold castLog
  rw [List.foldl_append]
  rfl

theorem useTimes_append (id code : Int) (first second : List (Int × Broadcast)) :
    useTimes id code (first ++ second) = useTimes id code first ++ useTimes id code second :=
  List.filterMap_append

theorem useTimes_other {id code : Int} {entries : List (Int × Broadcast)}
    (other : ∀ entry ∈ entries, ¬ entry.2.IsSkill) : useTimes id code entries = [] := by
  refine List.filterMap_eq_nil_iff.mpr fun entry member => ?_
  have quiet := other entry member
  split
  · next same =>
      rw [same] at quiet
      exact absurd trivial quiet
  · rfl

end Log

/-- The pause of the skill has passed after the use, or the skill remembers a later one. -/
def Rested (battle : PKPE) (skill : SkillAttr) (ticks : Nat) (use : Nat × Int) : Prop :=
  use.1 + skill.skillCD ≤ ticks ∨
    skill.lastUseTime ≠ 0 ∧ use.1 + uint (battle.fragmentNow - skill.lastUseTime) ≤ ticks

/-- The uses that the server can remember keep the pause. -/
structure Spaced (id code : Int) (ticks : Nat) (log : List (Nat × Int)) (battle : PKPE) : Prop where
  waits : battle.pkState = .ready → log = []
  pairwise : ∀ skill ∈ (battle.role id).skill? code, log.Pairwise fun first second =>
    first.2 ≠ 0 → first.1 + skill.skillCD ≤ second.1
  rested : ∀ skill ∈ (battle.role id).skill? code, ∀ use ∈ log, use.2 ≠ 0 →
    battle.Rested skill ticks use

section Spaced

variable {battle next : PKPE} {id code : Int} {ticks : Nat} {log : List (Nat × Int)}

theorem Spaced.keep (spaced : Spaced id code ticks log battle)
    (pkState : next.pkState = .ready → battle.pkState = .ready)
    (fragmentNow : next.fragmentNow = battle.fragmentNow)
    (skills : ∀ skill ∈ (next.role id).skill? code, (battle.role id).skill? code = some skill) :
    Spaced id code ticks log next := by
  refine ⟨fun ready => spaced.waits (pkState ready), fun skill found => ?_, fun skill found => ?_⟩
  · exact spaced.pairwise skill (skills skill found)
  · unfold Rested
    rw [fragmentNow]
    exact spaced.rested skill (skills skill found)

theorem skill_useSkill (role : RoleState) (code other now : Int) :
    (role.useSkill other now).skill? code = (role.skill? code).map fun skill =>
      if code = other then { skill with lastUseTime := now } else skill := by
  unfold RoleState.skill? RoleState.useSkill
  dsimp only
  induction role.magicAttrb.skillMap with
  | nil => rfl
  | cons entry entries ih =>
      obtain ⟨key, skill⟩ := entry
      simp only [List.map_cons, List.lookup_cons, ih]
      split
      · next same => simp [beq_iff_eq.mp same]
      · rfl

/-- A use of the skill keeps the pause. -/
theorem Spaced.use (spaced : Spaced id code ticks log battle) (begun : battle.pkState ≠ .ready)
    {skill : SkillAttr} (found : (battle.role id).skill? code = some skill)
    (ready : battle.canRevive skill) (targetType : Int) (target : Pos ⊕ Int) :
    Spaced id code ticks (log ++ [(ticks, battle.fragmentNow)])
      ((battle.send (.skill id code targetType target)).modifyRole id fun role =>
        role.useSkill code battle.fragmentNow) := by
  have passed : ∀ use ∈ log, use.2 ≠ 0 → use.1 + skill.skillCD ≤ ticks := by
    intro use member known
    rcases spaced.rested skill found use member known with done | ⟨used, within⟩
    · exact done
    · rcases ready with unused | paused
      · exact absurd unused used
      · omega
  have after : (((battle.send (.skill id code targetType target)).modifyRole id fun role =>
      role.useSkill code battle.fragmentNow).role id).skill? code =
        some { skill with lastUseTime := battle.fragmentNow } := by
    rw [modifyRole_self, skill_useSkill, send_toRoles, found]
    simp
  refine ⟨fun waits => absurd waits begun, fun other same => ?_, fun other same => ?_⟩
  · obtain rfl := Option.some.inj (after.symm.trans same)
    refine List.pairwise_append.mpr ⟨spaced.pairwise skill found, List.pairwise_singleton .., ?_⟩
    intro use member last listed known
    obtain rfl := List.mem_singleton.mp listed
    exact passed use member known
  · obtain rfl := Option.some.inj (after.symm.trans same)
    intro use member known
    rcases List.mem_append.mp member with old | new
    · exact .inl (passed use old known)
    · obtain rfl := List.mem_singleton.mp new
      refine .inr ⟨known, ?_⟩
      simp [uint]

theorem Stir.pkState (step : battle.Stir next) (ready : next.pkState = .ready) :
    battle.pkState = .ready := by
  cases step with
  | aside _ _ _ pkState => exact pkState ready
  | insertRole role => rcases battle.insertRole_cases role with same | ⟨_, same⟩ <;> rwa [same] at ready
  | _ => exact ready

theorem Spaced.stir (spaced : Spaced id code ticks log battle) (begun : battle.pkState ≠ .ready)
    (step : battle.Stir next) : ∃ added, next.sent = battle.sent ++ added ∧
      Spaced id code ticks (log ++ (useTimes id code added).map fun time => (ticks, time)) next := by
  have silent {added : List (Int × Broadcast)} (other : ∀ entry ∈ added, ¬ entry.2.IsSkill)
      (kept : Spaced id code ticks log next) : Spaced id code ticks
        (log ++ (useTimes id code added).map fun time => (ticks, time)) next := by
    rw [useTimes_other other]
    simpa using kept
  cases step with
  | aside roles sent fragmentNow pkState =>
      refine ⟨[], by simp [sent], silent (by simp) (spaced.keep pkState fragmentNow ?_)⟩
      rw [roles]
      exact fun skill found => found
  | send message other =>
      exact ⟨[(battle.fragmentNow, message)], rfl, silent (by simpa using other)
        (spaced.keep (fun ready => ready) rfl fun skill found => found)⟩
  | role changed change calm =>
      refine ⟨[], by simp, silent (by simp) (spaced.keep (fun ready => ready) rfl ?_)⟩
      by_cases same : id = changed
      · subst same
        unfold RoleState.skill?
        rw [modifyRole_self, calm.skillMap]
        exact fun skill found => found
      · rw [modifyRole_of_ne _ _ _ _ same]
        exact fun skill found => found
  | use user used targetType target skill found ready =>
      refine ⟨[(battle.fragmentNow, .skill user used targetType target)], rfl, ?_⟩
      by_cases same : user = id ∧ used = code
      · obtain ⟨rfl, rfl⟩ := same
        simpa [useTimes] using spaced.use begun found ready targetType target
      · have none : useTimes id code [(battle.fragmentNow, .skill user used targetType target)] = [] := by
          simp [useTimes, same]
        rw [none]
        refine (List.append_nil log).symm ▸ spaced.keep (fun ready => ready) rfl ?_
        intro other known
        by_cases own : id = user
        · subst own
          have differs : code ≠ used := fun equal => same ⟨rfl, equal.symm⟩
          rw [modifyRole_self, skill_useSkill, send_toRoles] at known
          simpa [differs] using known
        · rwa [modifyRole_of_ne _ _ _ _ own] at known
  | insertRole role unskilled =>
      rcases battle.insertRole_cases role with same | ⟨_, same⟩
      · rw [same] at silent ⊢
        exact ⟨[], by simp, silent (by simp) spaced⟩
      · rw [same] at silent ⊢
        refine ⟨[], by simp, silent (by simp) (spaced.keep (fun ready => ready) rfl ?_)⟩
        intro skill known
        by_cases new : id = role.roleID
        · subst new
          dsimp only at known
          rw [Function.update_self, RoleState.skill?, unskilled] at known
          cases known
        · dsimp only at known
          rwa [Function.update_of_ne new] at known

theorem Spaced.stirs (spaced : Spaced id code ticks log battle) (begun : battle.pkState ≠ .ready)
    (stirs : battle.Stirs next) : next.pkState ≠ .ready ∧ ∃ added, next.sent = battle.sent ++ added ∧
      Spaced id code ticks (log ++ (useTimes id code added).map fun time => (ticks, time)) next := by
  induction stirs with
  | refl => exact ⟨begun, [], by simp, by simpa [useTimes] using spaced⟩
  | tail _ step ih =>
      obtain ⟨begun, first, sent, spaced⟩ := ih
      obtain ⟨second, sentNow, spaced⟩ := spaced.stir begun step
      refine ⟨fun ready => begun (step.pkState ready), first ++ second, ?_, ?_⟩
      · rw [sentNow, sent, List.append_assoc]
      · rwa [List.append_assoc, ← List.map_append, ← useTimes_append] at spaced

end Spaced

section Runs

variable {battle next : PKPE} {id code : Int} {ticks : Nat} {log : List (Nat × Int)} {event : Event}

/-- A tick brings every use one tick further away. -/
theorem Spaced.tick (spaced : Spaced id code ticks log battle) :
    Spaced id code (ticks + event.ticks) log
      { battle with fragmentNow := event.clock battle.fragmentNow } := by
  refine ⟨spaced.waits, spaced.pairwise, fun skill found use member known => ?_⟩
  have before := spaced.rested skill found use member known
  unfold Rested at before ⊢
  cases event with
  | runTime =>
      simp only [Event.ticks, Event.clock, uint] at before ⊢
      omega
  | _ => exact before

theorem added_eq {added : List (Int × Broadcast)} (enabled : step battle event = some next)
    (sent : next.sent = battle.sent ++ added) : battle.added event = added := by
  simp [PKPE.added, enabled, sent]

theorem Spaced.step (spaced : Spaced id code ticks log battle) (listed : battle.OrdersListed)
    (enabled : step battle event = some next) : Spaced id code (ticks + event.ticks)
      (log ++ (useTimes id code (battle.added event)).map fun time => (ticks + event.ticks, time))
        next := by
  by_cases waits : battle.pkState = .ready
  · obtain ⟨-, -, -, added, sent, other⟩ := step_ready waits enabled
    rw [added_eq enabled sent, useTimes_other other, spaced.waits waits]
    exact ⟨fun _ => rfl, fun _ _ => .nil, fun _ _ _ member => absurd member List.not_mem_nil⟩
  · obtain ⟨-, added, sent, spaced⟩ := spaced.tick.stirs waits (step_stirs listed waits enabled)
    rwa [added_eq enabled sent]

/-- The uses of a skill in a whole battle keep its pause, besides those at the time zero. -/
theorem run_spaced {option : Options} {pkID mapID : Int} {inputs : List (RoleInput × RoleState)}
    {outside : Pos → Bool} {role : Int → RoleState} {start : PKPE}
    (accepted : init option pkID mapID inputs outside role = some start)
    {history : History PKPE Event} (run : Run PKPE.step anyEvent start history battle) (id code : Int) :
    Spaced id code (castLog id code history).1 (castLog id code history).2 battle := by
  have both : battle.OrdersListed ∧
      Spaced id code (castLog id code history).1 (castLog id code history).2 battle := by
    refine run.historyInvariant (fun history battle => battle.OrdersListed ∧
      Spaced id code (castLog id code history).1 (castLog id code history).2 battle) ⟨?_, ?_⟩ ?_
    · unfold OrdersListed
      rw [init_orders accepted]
      exact fun _ member => absurd member List.not_mem_nil
    · exact ⟨fun _ => rfl, fun _ _ => .nil, fun _ _ _ member => absurd member List.not_mem_nil⟩
    · rintro history state event next ⟨listed, spaced⟩ - enabled
      rw [castLog_append]
      exact ⟨listed.step enabled, spaced.step listed enabled⟩
  exact both.2

end Runs

/-- A cast is listed and announced, and the skill remembers it. -/
structure Cast (battle next : PKPE) (id : Int) (skill : SkillAttr) : Prop where
  found : (battle.role id).skill? (battle.role id).currentOrder.type = some skill
  allowed : ¬ 0 < (battle.role id).magicAttrb.limitCounter
  listed : ∃ skillOrder, skillOrder.role = id ∧ skillOrder.order = (battle.role id).currentOrder ∧
    next.skillOrderList = battle.skillOrderList ++ [skillOrder]
  announced : ∃ added, next.sent = battle.sent ++ added ∧
    useTimes id (battle.role id).currentOrder.type added = [battle.fragmentNow]
  used : (next.role id).skill? (battle.role id).currentOrder.type =
    some { skill with lastUseTime := battle.fragmentNow }

/-- The cast costs exactly the mana of the skill. -/
structure Paid (battle next : PKPE) (id : Int) (skill : SkillAttr) : Prop where
  paid : (next.role id).mp = (battle.role id).mp - skill.mp
  solvent : 0 ≤ (next.role id).mp

/-- The call lists no cast. -/
structure NoCast (battle next : PKPE) (id : Int) : Prop where
  listed : next.skillOrderList = battle.skillOrderList
  announced : ∃ added, next.sent = battle.sent ++ added ∧ ∀ entry ∈ added, ¬ entry.2.IsSkill
  skillMap : (next.role id).magicAttrb.skillMap = (battle.role id).magicAttrb.skillMap

/-- A buff takes mana from a role that moves. -/
def Draining (role : RoleState) : Prop :=
  ∃ buff ∈ role.multimapBuff, buff.parentSkill = .nengLiangLiuShi

/-- The parts of an approach. -/
structure MovesOnly (id : Int) (battle next : PKPE) : Prop extends NoCast battle next id where
  skills : (next.role id).multimapBuff.map Buff.parentSkill =
    (battle.role id).multimapBuff.map Buff.parentSkill
  mana : ¬ Draining (battle.role id) → (next.role id).mp = (battle.role id).mp

section Approach

variable {battle next last : PKPE} {id : Int}

theorem draining_iff {role other : RoleState}
    (skills : other.multimapBuff.map Buff.parentSkill = role.multimapBuff.map Buff.parentSkill) :
    Draining other ↔ Draining role := by
  have mem (role : RoleState) : Draining role ↔
      SkillType.nengLiangLiuShi ∈ role.multimapBuff.map Buff.parentSkill := by
    simp [Draining]
  rw [mem, mem, skills]

namespace MovesOnly

theorem of_same (roles : next.toRoles = battle.toRoles)
    (listed : next.skillOrderList = battle.skillOrderList) (added : List (Int × Broadcast))
    (sent : next.sent = battle.sent ++ added) (other : ∀ entry ∈ added, ¬ entry.2.IsSkill) :
    MovesOnly id battle next := by
  refine ⟨⟨listed, ⟨added, sent, other⟩, ?_⟩, ?_, ?_⟩ <;> rw [roles]
  exact fun _ => rfl

theorem refl : MovesOnly id battle battle := of_same rfl rfl [] (List.append_nil _).symm (by simp)

theorem trans (before : MovesOnly id battle next) (after : MovesOnly id next last) :
    MovesOnly id battle last where
  listed := after.listed.trans before.listed
  announced := by
    obtain ⟨first, sent, quiet⟩ := before.announced
    obtain ⟨second, sentNow, quietNow⟩ := after.announced
    refine ⟨first ++ second, by rw [sentNow, sent, List.append_assoc], fun entry member => ?_⟩
    exact (List.mem_append.mp member).elim (quiet entry) (quietNow entry)
  skillMap := after.skillMap.trans before.skillMap
  skills := after.skills.trans before.skills
  mana free := (after.mana ((draining_iff before.skills).not.mpr free)).trans (before.mana free)

section Parts

variable (before : MovesOnly id battle next)
include before

theorem note (call : Call) : MovesOnly id battle (next.note call) :=
  before.trans (of_same rfl rfl [] (List.append_nil _).symm (by simp))

theorem send {message : Broadcast} (other : ¬ message.IsSkill) :
    MovesOnly id battle (next.send message) :=
  before.trans (of_same rfl rfl [(next.fragmentNow, message)] rfl (by simpa using other))

theorem modify {change : RoleState → RoleState}
    (skillMap : (change (next.role id)).magicAttrb.skillMap = (next.role id).magicAttrb.skillMap)
    (skills : (change (next.role id)).multimapBuff.map Buff.parentSkill =
      (next.role id).multimapBuff.map Buff.parentSkill)
    (mana : ¬ Draining (next.role id) → (change (next.role id)).mp = (next.role id).mp) :
    MovesOnly id battle (next.modifyRole id change) := by
  refine before.trans ⟨⟨rfl, ⟨[], by simp, by simp⟩, ?_⟩, ?_, ?_⟩ <;> rw [modifyRole_self]
  · exact skillMap
  · exact skills
  · exact mana

theorem drain : MovesOnly id battle (PKPE.drain id next) := by
  have counted (role : RoleState) (index : Nat) (count : Buff → Int) :
      (role.modifyBuff index fun buff =>
        { buff with runCounter := count buff }).multimapBuff.map Buff.parentSkill =
          role.multimapBuff.map Buff.parentSkill := by
    refine List.ext_getElem? fun place => ?_
    simp only [RoleState.modifyBuff, List.getElem?_map, List.getElem?_modify]
    cases role.multimapBuff[place]? with
    | none => rfl
    | some buff =>
        simp only [Option.map_some]
        split <;> rfl
  refine before.trans (List.foldlRecOn (motive := fun state => MovesOnly id next state) _ _ .refl
    fun state moved index _ => moved.trans ?_)
  unfold drainOne
  split
  · exact .refl
  · next buff found =>
      split
      · exact .refl
      · next drains =>
          split
          · exact MovesOnly.refl.modify rfl
              (counted _ index fun buff => ushort (buff.runCounter + 1)) fun _ => rfl
          · refine (MovesOnly.refl.modify rfl (counted _ index fun _ => 0)
              fun free => absurd ?_ free).send (by simp [Broadcast.IsSkill])
            exact ⟨buff, List.mem_of_getElem? found, not_not.mp drains⟩

theorem crossPos : MovesOnly id battle (PKPE.crossPos id next).2 := by
  have entered (pos next' : Pos) (line : List Pos) :
      MovesOnly id battle ((next.note (.cross next.toRoles id next')).modifyRole id fun role =>
        (role.setMoveLine (pos :: line)).setCurrentPos pos) :=
    (before.note _).modify rfl rfl fun _ => rfl
  unfold PKPE.crossPos
  split
  · dsimp only
    split
    · exact entered _ _ _
    · dsimp only
      exact MovesOnly.modify (entered _ _ _) rfl rfl fun _ => rfl
  · exact before

theorem calculateMoveP : MovesOnly id battle (PKPE.calculateMoveP id next).2 := by
  have moved (mini : Pos) : MovesOnly id battle ((PKPE.drain id next).modifyRole id fun role =>
      role.setCurrentPosMini mini) := before.drain.modify rfl rfl fun _ => rfl
  unfold PKPE.calculateMoveP
  dsimp only
  split
  · exact before
  · split
    · exact before
    · split
      · exact before.drain
      · split
        · exact moved _
        · exact (moved _).crossPos

theorem aStar (startPos endPos : Pos) : MovesOnly id battle (next.aStar id startPos endPos).2 := by
  have noted := before.note (.aStar startPos)
  have found (line : List Pos) (direct : Int) :
      MovesOnly id battle ((next.note (.aStar startPos)).modifyRole id fun role =>
        (role.setMoveLine line).setDirect direct) := noted.modify rfl rfl fun _ => rfl
  unfold PKPE.aStar
  dsimp only
  split
  · exact noted
  · split
    · exact noted
    · exact noted
    · split
      · exact found _ _
      · split
        · exact found _ _
        · exact (found _ _).send (by simp [Broadcast.IsSkill])

theorem approach (goal : Pos) : MovesOnly id battle (PKPE.approach id goal next).2 := by
  unfold PKPE.approach
  split
  · exact before
  · dsimp only
    split
    · exact before.calculateMoveP
    · exact before.calculateMoveP.aStar _ _

end Parts

end MovesOnly

end Approach

section Calls

variable {battle : PKPE} {id : Int}

theorem startSkill_role (skill : SkillAttr) : (startSkill id skill battle).role id =
    ((((battle.role id).addMp (-skill.mp)).useSkill (battle.role id).currentOrder.type
      battle.fragmentNow).setWaitingTime skill.doingTime).setOrderType orderTypeNo := by
  unfold startSkill
  dsimp only
  rw [modifyRole_self, send_toRoles, modifyRole_self]
  rfl

theorem startSkill_cast {skill : SkillAttr}
    (found : (battle.role id).skill? (battle.role id).currentOrder.type = some skill)
    (allowed : ¬ 0 < (battle.role id).magicAttrb.limitCounter) :
    Cast battle (startSkill id skill battle) id skill := by
  refine ⟨found, allowed, ⟨_, rfl, rfl, rfl⟩, ?_, ?_⟩
  · refine ⟨_, (List.append_assoc ..).trans (List.append_assoc ..), ?_⟩
    simp [useTimes, addSkillOrder]
  · have known := skill_useSkill ((battle.role id).addMp (-skill.mp))
      (battle.role id).currentOrder.type (battle.role id).currentOrder.type battle.fragmentNow
    have same : ((battle.role id).addMp (-skill.mp)).skill? (battle.role id).currentOrder.type =
        some skill := found
    rw [startSkill_role]
    refine Eq.trans known ?_
    simp [same]

theorem startSkill_paid {skill : SkillAttr} (stored : (battle.role id).mp ≤ 32767)
    (affordable : skill.mp ≤ (battle.role id).mp) (cost : 0 ≤ skill.mp) :
    Paid battle (startSkill id skill battle) id skill := by
  have mana : ((startSkill id skill battle).role id).mp =
      short ((battle.role id).mp + -skill.mp) := by
    rw [startSkill_role]
    rfl
  unfold short at mana
  constructor <;> omega

/-- A call moves the role at most, or casts a skill that the role can pay. -/
theorem processCSSkill_cases (battle : PKPE) (id : Int) :
    MovesOnly id battle (processCSSkill id battle).2 ∨
      ∃ skill, (processCSSkill id battle).2 = startSkill id skill battle ∧
        (battle.role id).skill? (battle.role id).currentOrder.type = some skill ∧
        ¬ 0 < (battle.role id).magicAttrb.limitCounter ∧ skill.mp ≤ (battle.role id).mp := by
  unfold processCSSkill
  dsimp only
  split
  · exact .inl .refl
  · next allowed =>
      split
      · next skill goal found _ =>
          split
          · exact .inl .refl
          · split
            · exact .inl .refl
            · next rich =>
                split
                · exact .inl (MovesOnly.refl.approach _)
                · exact .inr ⟨skill, rfl, found, allowed, not_lt.mp rich⟩
      · exact .inl .refl

end Calls

/-- A call casts a skill at its price, or changes neither the mana nor the uses of the skills. -/
def PaysForCasts (battle : PKPE) (id : Int) : Prop :=
  let next := (processCSSkill id battle).2
  (NoCast battle next id ∧ (next.role id).mp = (battle.role id).mp) ∨
    ∃ skill, Cast battle next id skill ∧ Paid battle next id skill

/-- A role with a drain may lose mana in an approach, and no price is negative. -/
def PaysOrDrains (battle : PKPE) (id : Int) : Prop :=
  let next := (processCSSkill id battle).2
  (NoCast battle next id ∧
    (¬ Draining (battle.role id) → (next.role id).mp = (battle.role id).mp)) ∨
    ∃ skill, Cast battle next id skill ∧ (0 ≤ skill.mp → Paid battle next id skill)

/-- Every call casts at the price of the skill or casts nothing, and in a whole battle the pause of a
skill lies between any two of its uses, the first of which is not at the time zero. -/
theorem paysOrDrains_run_rests :
    (∀ (battle : PKPE) (id : Int), (battle.role id).mp ≤ 32767 → battle.PaysOrDrains id) ∧
    ∀ (option : Options) (pkID mapID : Int) (inputs : List (RoleInput × RoleState))
      (outside : Pos → Bool) (role : Int → RoleState) (start : PKPE),
      init option pkID mapID inputs outside role = some start →
      ∀ (history : History PKPE Event) (battle : PKPE), Run step anyEvent start history battle →
        ∀ (id code : Int), ∀ skill ∈ (battle.role id).skill? code,
          (castLog id code history).2.Pairwise fun first second =>
            first.2 ≠ 0 → first.1 + skill.skillCD ≤ second.1 := by
  constructor
  · intro battle id stored
    rcases battle.processCSSkill_cases id with moves | ⟨skill, same, found, allowed, affordable⟩
    · exact .inl ⟨moves.toNoCast, moves.mana⟩
    · refine .inr ⟨skill, ?_⟩
      rw [same]
      exact ⟨startSkill_cast found allowed, startSkill_paid stored affordable⟩
  · intro option pkID mapID inputs outside role start accepted history battle run id code
    exact (run_spaced accepted run id code).pairwise

/-- A monster with a skill that pauses for a hundred ticks. -/
def lonelyMonster : RoleInput :=
  { controlID := 2, roleID := 2, level := 1, opposition := 4, roleFlag := 2, roleType := 1
    hpMax := 100, mpMax := 10, hp := 100, mp := 10, speedModBase := 5, currentPos := ⟨10, 10⟩
    direct := 1, attackPowerHignBase := 10, attackPowerLowBase := 10, attackArea := 3
    attackCDTimeBase := 400, attackIngTime := 0, attackBulletMod := 0, attackHitBase := 100
    defenseMissBase := 0, attackCritBase := 0, defenseArmorBase := 0, magicArmorBase := 0
    wisdom := 0, skills := [(236, 1)] }

def lonelyStart : Option PKPE :=
  init ⟨fun _ => true, fun _ => some ⟨0, 0, [0], [100]⟩⟩ 7 1 [(lonelyMonster, default)]
    (fun _ => false) fun _ => default

/-- The monster is told to wait, or to use its skill on itself. -/
def lonelyOrder (type : Int) : UserOrder := ⟨2, 2, ⟨type, 2, default, 2, 0⟩⟩

/-- Two uses of the skill with its pause between them. -/
def lonelyEvents : List Event :=
  [.ready 2, .addOrder (lonelyOrder 236), .processOrders []] ++ List.replicate 100 (.runTime [] []) ++
    [.addOrder (lonelyOrder 236), .processOrders [], .runTime [] []]

/-- The monster keeps the price and the pause of its skill. -/
theorem paysOrDrains_run_rests_lonely :
    PaysOrDrains (empty 7 1 (fun _ => false) fun _ => default) 2 ∧
      ∃ log : List (Nat × Int), log = [(1, 1), (101, 101)] ∧
        log.Pairwise fun first second => first.2 ≠ 0 → first.1 + (100 : Int) ≤ second.1 := by
  refine ⟨paysOrDrains_run_rests.1 _ _ (by decide), ?_⟩
  have replayed : lonelyStart.any (fun start => (replay step start lonelyEvents).any
      fun result => result.1.all (fun entry => anyEvent entry.1 entry.2) &&
        decide ((castLog 2 236 result.1).2 = [(1, 1), (101, 101)] ∧
          (result.2.role 2).skill? 236 = some ⟨1, 0, 0, 0, 100, 101⟩)) := by decide +kernel
  obtain ⟨start, accepted, passes⟩ := (Option.any_eq_true _ _).mp replayed
  obtain ⟨history, battle, reached, final⟩ := exists_run_of_replay step anyEvent start _
    (fun history battle => (castLog 2 236 history).2 = [(1, 1), (101, 101)] ∧
      (battle.role 2).skill? 236 = some ⟨1, 0, 0, 0, 100, 101⟩) passes
  obtain ⟨uses, skill⟩ := of_decide_eq_true final
  exact ⟨_, uses, paysOrDrains_run_rests.2 _ _ _ _ _ _ start accepted history battle reached 2 236
    _ skill⟩

section Wrap

/-- The monster has been told to wait. -/
def lonelyHolds : PKPE :=
  ((lonelyStart.bind fun start => replay step start
    [.ready 2, .addOrder (lonelyOrder orderTypeHold), .processOrders []]).map Prod.snd).getD
      (empty 7 1 (fun _ => false) fun _ => default)

def lonelyAt (now : Int) (calls : List Call) : PKPE :=
  { lonelyHolds with fragmentNow := now, calls := calls }

theorem lonely_begins : ∃ start history, lonelyStart = some start ∧
    Run step anyEvent start history (lonelyAt 0 lonelyHolds.calls) := by
  have replayed : (lonelyStart.bind fun start => replay step start
      [.ready 2, .addOrder (lonelyOrder orderTypeHold), .processOrders []]).isSome := by decide +kernel
  obtain ⟨result, found⟩ := Option.isSome_iff_exists.mp replayed
  obtain ⟨start, accepted, reached⟩ := Option.bind_eq_some_iff.mp found
  have holds : lonelyHolds = result.2 := by
    rw [lonelyHolds, found]
    rfl
  have same : lonelyAt 0 lonelyHolds.calls = result.2 := by
    have now : lonelyHolds.fragmentNow = 0 := by decide +kernel
    rw [← holds, ← now]
    rfl
  exact ⟨start, result.1, accepted, same ▸ run_of_replay reached⟩

theorem lonely_idle (now : Int) (calls : List Call) : ∃ noted,
    step (lonelyAt now calls) (.runTime [] []) = some (lonelyAt (uint (now + 1)) noted) := by
  have alive : ¬ (lonelyHolds.role 2).live = .dead := by decide +kernel
  have monster : ¬ (lonelyHolds.role 2).roleFlag = roleTypePlayer := by decide +kernel
  refine ⟨calls ++ [.runRole (lonelyHolds.role 2) (uint (now + 1))], ?_⟩
  have run : runOne 2 (lonelyAt (uint (now + 1)) calls) =
      lonelyAt (uint (now + 1)) (calls ++ [.runRole (lonelyHolds.role 2) (uint (now + 1))]) := by
    refine (if_neg alive).trans ((if_neg fun late => monster late.2.1).trans ?_)
    rfl
  have whole : step (lonelyAt now calls) (.runTime [] []) =
      finish (calculateSkill (runOne 2 (lonelyAt (uint (now + 1)) calls))) := rfl
  rw [whole, run]
  rfl

theorem lonely_waits (ticks : Nat) (calls : List Call) : ∃ history noted,
    Run step anyEvent (lonelyAt 0 calls) history (lonelyAt (uint ticks) noted) := by
  induction ticks with
  | zero => exact ⟨[], calls, .nil⟩
  | succ ticks ih =>
      obtain ⟨history, noted, run⟩ := ih
      obtain ⟨later, idle⟩ := lonely_idle (uint ticks) noted
      have now : uint (uint ticks + 1) = uint (ticks + 1 : Nat) := by simp [uint]
      exact ⟨_, later, .snoc run trivial (now ▸ idle)⟩

/-- The order for the skill is listed. -/
def listing (battle : PKPE) (calls : List Call) : PKPE :=
  { battle with
    orders := [{ lonelyOrder 236 with
      order := { (lonelyOrder 236).order with orderTime := battle.fragmentNow } }]
    calls := calls }

/-- The monster has got the order for its skill. -/
def ordering (battle : PKPE) (calls : List Call) : PKPE :=
  { battle with
    role := Function.update battle.role 2 { battle.role 2 with
      currentOrder := { (lonelyOrder 236).order with orderTime := battle.fragmentNow } }
    calls := calls }

/-- The battle after the next tick. -/
def casting (battle : PKPE) (calls : List Call) : PKPE :=
  { (step (ordering battle []) (.runTime [] [])).getD battle with calls := calls }

/-- The time is at its end. -/
def lonelyLast : PKPE := lonelyAt 4294967295 []

def lonelyCast : PKPE := casting lonelyLast []

variable (calls : List Call)

theorem lonelyLast_listed :
    step (lonelyAt 4294967295 calls) (.addOrder (lonelyOrder 236)) =
      some (listing lonelyLast calls) := rfl

theorem lonelyLast_ordered : ∃ noted,
    step (listing lonelyLast calls) (.processOrders []) = some (ordering lonelyLast noted) :=
  ⟨_, rfl⟩

theorem lonelyLast_casts : ∃ noted,
    step (ordering lonelyLast calls) (.runTime [] []) = some (casting lonelyLast noted) :=
  ⟨_, rfl⟩

theorem lonelyCast_listed :
    step (casting lonelyLast calls) (.addOrder (lonelyOrder 236)) =
      some (listing lonelyCast calls) := rfl

theorem lonelyCast_ordered : ∃ noted,
    step (listing lonelyCast calls) (.processOrders []) = some (ordering lonelyCast noted) :=
  ⟨_, rfl⟩

theorem lonelyCast_casts : ∃ noted,
    step (ordering lonelyCast calls) (.runTime [] []) = some (casting lonelyCast noted) :=
  ⟨_, rfl⟩

/-- An order for the skill and a tick with its use follow a run. -/
theorem Run.cast {start battle listed ordered next : PKPE} {history : History PKPE Event} {time : Int}
    (run : Run step anyEvent start history battle)
    (lists : step battle (.addOrder (lonelyOrder 236)) = some listed)
    (orders : step listed (.processOrders []) = some ordered)
    (casts : step ordered (.runTime [] []) = some next)
    (uses : useTimes 2 236 (next.sent.drop ordered.sent.length) = [time]) :
    ∃ longer, Run step anyEvent start longer next ∧
      (castLog 2 236 longer).1 = (castLog 2 236 history).1 + 1 ∧
      ∃ before, (castLog 2 236 longer).2 =
        (castLog 2 236 history).2 ++ before ++ [((castLog 2 236 history).1 + 1, time)] := by
  refine ⟨_, ((run.snoc trivial lists).snoc trivial orders).snoc trivial casts, ?_⟩
  have used : ordered.added (.runTime [] []) = next.sent.drop ordered.sent.length := by
    rw [PKPE.added, casts]
    rfl
  simp only [castLog_append, used, uses, List.map_singleton]
  exact ⟨rfl, _, congrArg (· ++ _) (List.append_assoc ..)⟩

/-- The clock of the server is at zero again when the monster uses its skill, and the next tick does
not know of the use. -/
theorem lonely_castsTwice : ∃ start history battle, lonelyStart = some start ∧
    Run step anyEvent start history battle ∧
    (battle.role 2).skill? 236 = some ⟨1, 0, 0, 0, 100, 1⟩ ∧
    ∃ (ticks : Nat) (before between : List (Nat × Int)),
      (castLog 2 236 history).2 = before ++ [(ticks, 0)] ++ between ++ [(ticks + 1, 1)] := by
  have now : uint (4294967295 : Nat) = 4294967295 := by decide
  obtain ⟨start, begins, accepted, begun⟩ := lonely_begins
  obtain ⟨idle, waits, waited⟩ := lonely_waits 4294967295 lonelyHolds.calls
  rw [now] at waited
  obtain ⟨orders, ordered⟩ := lonelyLast_ordered waits
  obtain ⟨casts, cast⟩ := lonelyLast_casts orders
  obtain ⟨first, reached, ticks, before, log⟩ := Run.cast (begun.trans waited)
    (lonelyLast_listed waits) ordered cast (show useTimes 2 236
      ((casting lonelyLast []).sent.drop lonelyLast.sent.length) = [0] by decide +kernel)
  obtain ⟨ordersAgain, orderedAgain⟩ := lonelyCast_ordered casts
  obtain ⟨castsAgain, castAgain⟩ := lonelyCast_casts ordersAgain
  obtain ⟨second, final, -, between, logAgain⟩ := Run.cast reached
    (lonelyCast_listed casts) orderedAgain castAgain (show useTimes 2 236
      ((casting lonelyCast []).sent.drop lonelyCast.sent.length) = [1] by decide +kernel)
  have skill : ((casting lonelyCast []).role 2).skill? 236 = some ⟨1, 0, 0, 0, 100, 1⟩ := by
    decide +kernel
  refine ⟨start, second, _, accepted, final, skill, (castLog 2 236 first).1,
    (castLog 2 236 (begins ++ idle)).2 ++ before, between, ?_⟩
  rw [logAgain, log, ← ticks]

end Wrap

/-- Two players whose skills have this price, the second one with a drain. -/
def pricedStart (mana price : Int) : Option PKPE :=
  init ⟨fun _ => true, fun _ => some ⟨0, 5, [price], [100]⟩⟩ 7 1
    [({ lonelyMonster with
        controlID := 1, roleID := 1, opposition := 1, roleFlag := 1, mpMax := mana, mp := mana
        skills := [(207, 1)] }, default),
      ({ lonelyMonster with currentPos := ⟨10, 11⟩, skills := [(226, 1)] }, default)]
    (fun _ => false) fun _ => default

/-- The first one is told to use its skill far away, after the drain. -/
def drainEvents : List Event :=
  [.ready 1, .addOrder ⟨2, 2, ⟨226, 2, default, 1, 0⟩⟩, .addOrder ⟨1, 1, ⟨207, 1, ⟨30, 10⟩, 0, 0⟩⟩,
    .processOrders []] ++ List.replicate 10 (.runTime [] [])

/-- The first one is told to use its skill at its own place. -/
def priceEvents : List Event :=
  [.ready 1, .addOrder ⟨1, 1, ⟨207, 1, ⟨10, 10⟩, 0, 0⟩⟩, .processOrders []]

/-- The way to the goal of a skill drains mana, a negative price lets the mana pass its greatest
number, and the time zero is taken for no use. -/
theorem priced_not_paid_rested :
    ¬ (∀ start, pricedStart 10 1 = some start → ∀ (history : History PKPE Event) (battle : PKPE),
      Run step anyEvent start history battle → ∀ id, battle.PaysForCasts id) ∧
    ¬ (∀ start, pricedStart 32767 (-1) = some start → ∀ (history : History PKPE Event)
      (battle : PKPE), Run step anyEvent start history battle → ∀ id, battle.PaysForCasts id) ∧
    ¬ ∀ start, lonelyStart = some start → ∀ (history : History PKPE Event) (battle : PKPE),
      Run step anyEvent start history battle → ∀ id code, ∀ skill ∈ (battle.role id).skill? code,
        (castLog id code history).2.Pairwise fun first second =>
          first.1 + skill.skillCD ≤ second.1 := by
  refine ⟨fun claim => ?_, fun claim => ?_, fun claim => ?_⟩
  · have replayed : (pricedStart 10 1).any (fun start => (replay step start drainEvents).any
        fun result => result.1.all (fun entry => anyEvent entry.1 entry.2) &&
          decide ((result.2.role 1).mp = 10 ∧ ((processCSSkill 1 result.2).2.role 1).mp = 9 ∧
            (processCSSkill 1 result.2).2.skillOrderList = [] ∧ result.2.skillOrderList = [])) := by
      decide +kernel
    obtain ⟨start, accepted, passes⟩ := (Option.any_eq_true _ _).mp replayed
    obtain ⟨history, battle, reached, final⟩ := exists_run_of_replay step anyEvent start _
      (fun _ battle => (battle.role 1).mp = 10 ∧ ((processCSSkill 1 battle).2.role 1).mp = 9 ∧
        (processCSSkill 1 battle).2.skillOrderList = [] ∧ battle.skillOrderList = []) passes
    obtain ⟨before, after, listed, unlisted⟩ := of_decide_eq_true final
    rcases claim start accepted history battle reached 1 with ⟨-, same⟩ | ⟨skill, cast, -⟩
    · omega
    · obtain ⟨skillOrder, -, -, added⟩ := cast.listed
      rw [listed, unlisted] at added
      cases added
  · have replayed : (pricedStart 32767 (-1)).any (fun start => (replay step start priceEvents).any
        fun result => result.1.all (fun entry => anyEvent entry.1 entry.2) &&
          decide ((result.2.role 1).mp = 32767 ∧
            ((processCSSkill 1 result.2).2.role 1).mp = -32768)) := by decide +kernel
    obtain ⟨start, accepted, passes⟩ := (Option.any_eq_true _ _).mp replayed
    obtain ⟨history, battle, reached, final⟩ := exists_run_of_replay step anyEvent start _
      (fun _ battle => (battle.role 1).mp = 32767 ∧
        ((processCSSkill 1 battle).2.role 1).mp = -32768) passes
    obtain ⟨before, after⟩ := of_decide_eq_true final
    rcases claim start accepted history battle reached 1 with ⟨-, same⟩ | ⟨skill, -, paid⟩
    · omega
    · have solvent := paid.solvent
      omega
  · obtain ⟨start, history, battle, accepted, reached, skill, ticks, before, between, log⟩ :=
      lonely_castsTwice
    have rests := claim start accepted history battle reached 2 236 _ skill
    rw [log] at rests
    have late := (List.pairwise_append.mp rests).2.2 (ticks, 0)
      (List.mem_append_left _ (List.mem_append_right _ (List.mem_singleton_self _)))
      (ticks + 1, 1) (List.mem_singleton_self _)
    simp only at late
    omega

section Memory

variable {battle next last : PKPE} {event : Event}

/-- The reach and the skills of a role, without the times of their uses. -/
def learned (role : RoleState) : Int × List (Int × SkillAttr) :=
  (role.lasting.1, role.lasting.2.1.map fun entry => (entry.1, { entry.2 with lastUseTime := 0 }))

/-- A battle keeps its roles and what they have learned, and does not wait for them again. -/
structure Keeps (battle next : PKPE) : Prop where
  ids : battle.ids ⊆ next.ids
  learned : ∀ id ∈ battle.ids, learned (next.role id) = learned (battle.role id)
  waits : next.pkState = .ready → battle.pkState = .ready

theorem Keeps.trans (before : battle.Keeps next) (after : next.Keeps last) : battle.Keeps last where
  ids := List.Subset.trans before.ids after.ids
  learned id member := (after.learned id (before.ids member)).trans (before.learned id member)
  waits ready := before.waits (after.waits ready)

theorem learned_modifyRole {user : Int} {change : RoleState → RoleState}
    (same : learned (change (battle.role user)) = learned (battle.role user)) (id : Int) :
    learned ((battle.modifyRole user change).role id) = learned (battle.role id) := by
  by_cases own : id = user
  · rw [own, modifyRole_self, same]
  · rw [modifyRole_of_ne _ _ _ _ own]

theorem learned_useSkill (role : RoleState) (code now : Int) :
    learned (role.useSkill code now) = learned role := by
  simp only [learned, RoleState.lasting, RoleState.useSkill, List.map_map, Prod.mk.injEq, true_and]
  refine List.map_congr_left fun entry _ => ?_
  dsimp only [Function.comp]
  split <;> rfl

theorem Stir.keeps (step : battle.Stir next) : battle.Keeps next := by
  refine ⟨step.ids, fun id member => ?_, step.pkState⟩
  cases step with
  | aside roles => rw [roles]
  | send => rfl
  | role _ _ calm =>
      refine learned_modifyRole ?_ id
      rw [learned, learned, RoleState.lasting, RoleState.lasting, calm.attackArea, calm.skillMap]
  | use => exact learned_modifyRole (learned_useSkill ..) id
  | insertRole role =>
      rcases battle.insertRole_cases role with same | ⟨fresh, same⟩ <;> rw [same]
      have other : id ≠ role.roleID := fun own => fresh (own ▸ member)
      dsimp only
      rw [Function.update_of_ne other]

theorem step_keeps (listed : battle.OrdersListed) (enabled : step battle event = some next) :
    battle.Keeps next := by
  by_cases waits : battle.pkState = .ready
  · obtain ⟨lasting, ids, -⟩ := step_ready waits enabled
    refine ⟨ids ▸ List.Subset.refl _, fun id _ => ?_, fun _ => waits⟩
    rw [learned, lasting, learned]
  · have stirs := step_stirs listed waits enabled
    clear enabled
    induction stirs with
    | refl => exact ⟨List.Subset.refl _, fun _ _ => rfl, id⟩
    | tail _ step ih => exact ih.trans step.keeps

/-- From every moment of a battle on, no role leaves, and none forgets its reach or a skill. Only
roles of the battle wait to cast skills. -/
theorem run_keeps {option : Options} {pkID mapID : Int} {inputs : List (RoleInput × RoleState)}
    {outside : Pos → Bool} {role : Int → RoleState} {start : PKPE}
    (accepted : init option pkID mapID inputs outside role = some start)
    {history later : History PKPE Event} (before : Run step anyEvent start history battle)
    (after : Run step anyEvent battle later next) : battle.Keeps next ∧ next.OrdersListed := by
  have listed : battle.OrdersListed := by
    refine before.invariant OrdersListed ?_ fun _ _ _ listed _ => listed.step
    unfold OrdersListed
    rw [init_orders accepted]
    exact fun _ member => absurd member List.not_mem_nil
  refine after.invariant (fun next => battle.Keeps next ∧ next.OrdersListed)
    ⟨⟨List.Subset.refl _, fun _ _ => rfl, id⟩, listed⟩ ?_
  exact fun _ _ _ kept _ enabled => ⟨kept.1.trans (step_keeps kept.2 enabled), kept.2.step enabled⟩

theorem run_keeps_lonely :
    ∃ start, lonelyStart = some start ∧ start.Keeps (processCSReady 2 start) := by
  obtain ⟨start, accepted⟩ := Option.isSome_iff_exists.mp (by decide +kernel : lonelyStart.isSome)
  have readied : step start (.ready 2) = some _ := rfl
  exact ⟨start, accepted, (run_keeps accepted .nil (.snoc .nil trivial readied)).1⟩

end Memory

end PKPE

end AppSvr.PkServer
