/-
This file proves when a monster attacks a nearest enemy, that it otherwise attacks the enemy it hates
most, and that the hate stays in its range.
-/

import AppSvr.Proof.PkServer.BattleStirs

namespace AppSvr.PkServer
open Relation TransitionSystem

/-- The number of cells between two places along the axes. -/
def Pos.manhattan (a b : Pos) : Int := (b.x - a.x).natAbs + (b.y - a.y).natAbs

namespace PKPE

variable (battle next : PKPE) (id : Int)

def distanceTo (target : Int) : Int := (battle.positionOf id).manhattan (battle.positionOf target)

/-- A living enemy in reach that is not exempt from attacks. -/
structure Prey (target : Int) : Prop where
  member : target ∈ battle.ids
  fights : (battle.role id).Fights (battle.role target)
  exempt : (battle.role target).physicalAttrib.exemptCounter = 0
  inReach : battle.distanceTo id target < (battle.role id).physicalAttrib.attackArea

/-- The order to attack a role now. -/
def attackOrder (target : Int) : RoleOrder :=
  ((battle.role id).setTarget target battle.fragmentNow).currentOrder

/-- The role attacks a nearest prey, or nobody. -/
def AttacksNearest : Prop :=
  (∃ target, battle.Prey id target ∧
    (∀ other, battle.Prey id other → battle.distanceTo id target ≤ battle.distanceTo id other) ∧
      (next.role id).currentOrder = battle.attackOrder id target) ∨
  (∀ target, ¬ battle.Prey id target) ∧ (next.role id).currentOrder.type = orderTypeNo

/-- The sum of the hate against another role. -/
def hatred (other : Int) : Int :=
  (((battle.role id).hatreMap.lookup other).getD HaterInfo.clear).max

/-- A new target lives on another side, and no living enemy is hated more. -/
def AttacksMostHated : Prop :=
  ∀ target, (next.role id).currentOrder = battle.attackOrder id target →
    (next.role id).currentOrder ≠ (battle.role id).currentOrder →
      target ∈ battle.ids ∧ (battle.role id).Fights (battle.role target) ∧
        battle.fragmentNow % 30 = 10 ∧
          ∀ other ∈ battle.ids, (battle.role id).Fights (battle.role other) →
            next.hatred id other ≤ next.hatred id target

/-- A role that cannot move attacks a nearest enemy, and another one the most hated. -/
def TargetsWell : Prop :=
  if 0 < (battle.role id).moveAttrb.limitCounter then
    battle.AttacksNearest (calculateAIAttack id battle) id
  else battle.AttacksMostHated (calculateAIAttack id battle) id

/-- The first role in the order of the numbers that the loop finds in reach. -/
def firstInReach : Option Int :=
  battle.ids.find? fun target =>
    (battle.role id).Fights (battle.role target) ∧
      (battle.role target).physicalAttrib.exemptCounter = 0 ∧
      short (battle.distanceTo id target) < (battle.role id).physicalAttrib.attackArea

/-- No prey with a greater number is closer than the first role in reach. -/
def FirstIsNearest : Prop :=
  0 < (battle.role id).moveAttrb.limitCounter → ∀ first ∈ battle.firstInReach id,
    battle.distanceTo id first < (battle.role id).physicalAttrib.attackArea ∧
      ∀ other, battle.Prey id other → battle.distanceTo id first ≤ battle.distanceTo id other

section Nearest

variable {battle id}

/-- The distance to a prey fits into its variable, or the reach is beyond all of them. -/
theorem Prey.short_lt {target : Int} (prey : battle.Prey id target) :
    short (battle.distanceTo id target) < (battle.role id).physicalAttrib.attackArea := by
  have inReach := prey.inReach
  have nonneg : 0 ≤ battle.distanceTo id target := by
    unfold distanceTo Pos.manhattan
    omega
  unfold short
  omega

theorem attackAround_eq (id : Int) : attackAround id battle =
    match battle.firstInReach id with
    | some target => battle.modifyRole id fun role => role.setTarget target battle.fragmentNow
    | none => battle.modifyRole id fun role =>
        { role with currentOrder := { role.currentOrder with
          type := orderTypeNo, targetRoleID := 0 } } := rfl

theorem attacksNearest_iff (id : Int) : battle.AttacksNearest (attackAround id battle) id ↔
    ∀ first ∈ battle.firstInReach id,
      battle.distanceTo id first < (battle.role id).physicalAttrib.attackArea ∧
        ∀ other, battle.Prey id other →
          battle.distanceTo id first ≤ battle.distanceTo id other := by
  rw [attackAround_eq]
  cases found : battle.firstInReach id with
  | none =>
      refine iff_of_true (.inr ⟨fun target prey => ?_, ?_⟩) fun first listed => ?_
      · have missed := List.find?_eq_none.mp found target prey.member
        simp [prey.fights, prey.exempt, prey.short_lt] at missed
      · rw [modifyRole_self]
      · cases listed
  | some first =>
      have member : first ∈ battle.ids := List.mem_of_find?_eq_some found
      have tested := List.find?_some found
      rw [decide_eq_true_eq] at tested
      have order : ((battle.modifyRole id fun role =>
          role.setTarget first battle.fragmentNow).role id).currentOrder =
            battle.attackOrder id first := by
        rw [modifyRole_self]
        rfl
      simp only [Option.mem_some_iff, forall_eq']
      constructor
      · rintro (⟨target, prey, nearest, same⟩ | ⟨_, idle⟩)
        · have equal : first = target :=
            congrArg RoleOrder.targetRoleID (order.symm.trans same)
          subst equal
          exact ⟨prey.inReach, nearest⟩
        · rw [order] at idle
          cases idle
      · rintro ⟨inReach, nearest⟩
        exact .inl ⟨first, ⟨member, tested.1, tested.2.1, inReach⟩, nearest, order⟩

end Nearest

section Hated

variable {battle next : PKPE} {id : Int}

theorem lookup_modifyHatre {role : RoleState} {target other : Int} (differs : other ≠ target)
    (change : HaterInfo → HaterInfo) :
    (role.modifyHatre target change).hatreMap.lookup other = role.hatreMap.lookup other := by
  unfold RoleState.modifyHatre
  dsimp only
  induction role.hatreMap with
  | nil => rfl
  | cons entry entries ih =>
      obtain ⟨key, info⟩ := entry
      simp only [List.map_cons, List.lookup_cons, ih]
      split
      · next same =>
          have other : key ≠ target := fun equal => differs ((beq_iff_eq.mp same).trans equal)
          rw [if_neg other]
      · rfl

theorem lookup_addHatre {role : RoleState} {target other : Int} (differs : other ≠ target)
    (info : HaterInfo) :
    (role.addHatre target info).hatreMap.lookup other = role.hatreMap.lookup other := by
  unfold RoleState.addHatre
  split
  · simp [List.lookup_append, List.lookup_cons, beq_false_of_ne differs]
  · rfl

/-- The role apart from its hate. -/
def unhating (role : RoleState) : RoleState := { role with hatreMap := [] }

theorem unhating_addHatre (role : RoleState) (target : Int) (info : HaterInfo) :
    unhating (role.addHatre target info) = unhating role := by
  unfold RoleState.addHatre
  split <;> rfl

/-- The state of the loop, with the roles that it has seen. -/
structure Hating (battle : PKPE) (id : Int) (state : (Int × Int) × PKPE) (seen : List Int) :
    Prop where
  ids : state.2.ids = battle.ids
  fragmentNow : state.2.fragmentNow = battle.fragmentNow
  others : ∀ other ≠ id, state.2.role other = battle.role other
  self : unhating (state.2.role id) = unhating (battle.role id)
  greatest : ∀ other ∈ seen, (battle.role id).Fights (battle.role other) →
    state.2.hatred id other ≤ state.1.1
  best : state.1.2 ≠ 0 → state.1.2 ∈ seen ∧ (battle.role id).Fights (battle.role state.1.2) ∧
    state.2.hatred id state.1.2 = state.1.1

variable {state : (Int × Int) × PKPE}

theorem Hating.fights_iff {seen : List Int}
    (hating : Hating battle id state seen) (target : Int) :
    (state.2.role id).Fights (state.2.role target) ↔
      (battle.role id).Fights (battle.role target) := by
  have opposition : (state.2.role id).opposition = (battle.role id).opposition :=
    (congrArg RoleState.opposition hating.self :)
  unfold RoleState.Fights
  by_cases same : target = id
  · simp [same]
  · rw [hating.others target same, opposition]

/-- An enemy is compared after the hate against it is refreshed. -/
theorem hateOne_enemy {target : Int}
    (war : (state.2.role id).Fights (state.2.role target)) : ∃ change info after,
      after = (state.2.modifyRole id fun role =>
        (role.modifyHatre target change).addHatre target info) ∧
      hateOne id state target = (if state.1.1 < after.hatred id target then
        (after.hatred id target, target) else state.1, after) := by
  have same : hateOne id state target = if ¬ (state.2.role id).Fights (state.2.role target) then
      state else _ := rfl
  rw [if_neg (not_not.mpr war)] at same
  exact ⟨_, _, _, rfl, same⟩

/-- A pass of the loop touches the hate against one role only. -/
theorem Hating.step {seen : List Int} {target : Int}
    (hating : Hating battle id state seen) (fresh : target ∉ seen) :
    Hating battle id (hateOne id state target) (seen ++ [target]) := by
  have listed (other : Int) : other ∈ seen ++ [target] ↔ other ∈ seen ∨ other = target := by simp
  by_cases war : (battle.role id).Fights (battle.role target)
  · obtain ⟨change, info, after, hated, same⟩ := hateOne_enemy ((hating.fights_iff target).mpr war)
    rw [same]
    have role : after.role id = ((state.2.role id).modifyHatre target change).addHatre target info := by
      rw [hated, modifyRole_self]
    have kept (other : Int) (differs : other ≠ target) :
        after.hatred id other = state.2.hatred id other := by
      unfold hatred
      rw [role, lookup_addHatre differs, lookup_modifyHatre differs]
    refine ⟨?_, ?_, fun other differs => ?_, ?_, fun other member fights => ?_, fun some => ?_⟩
    · rw [hated]
      exact hating.ids
    · rw [hated]
      exact hating.fragmentNow
    · dsimp only
      rw [hated, modifyRole_of_ne _ _ _ _ differs]
      exact hating.others other differs
    · dsimp only
      rw [role, unhating_addHatre]
      exact hating.self
    · dsimp only
      by_cases equal : other = target
      · subst equal
        split_ifs <;> omega
      · have old := ((listed other).mp member).resolve_right equal
        have bound := hating.greatest other old fights
        rw [kept other equal]
        split_ifs <;> omega
    · dsimp only at some ⊢
      split_ifs at some ⊢
      · exact ⟨(listed target).mpr (.inr rfl), war, rfl⟩
      · obtain ⟨old, fights, best⟩ := hating.best some
        have differs : state.1.2 ≠ target := fun equal => fresh (equal ▸ old)
        exact ⟨(listed _).mpr (.inl old), fights, (kept _ differs).trans best⟩
  · have same : hateOne id state target = state := by
      unfold hateOne
      dsimp only
      rw [if_pos ((hating.fights_iff target).not.mpr war)]
    rw [same]
    refine { hating with greatest := fun other member fights => ?_, best := fun some => ?_ }
    · rcases (listed other).mp member with old | rfl
      · exact hating.greatest other old fights
      · exact absurd fights war
    · obtain ⟨old, fights, best⟩ := hating.best some
      exact ⟨(listed _).mpr (.inl old), fights, best⟩

theorem Hating.foldl {seen ids : List Int}
    (hating : Hating battle id state seen) (nodup : (seen ++ ids).Nodup) :
    Hating battle id (ids.foldl (hateOne id) state) (seen ++ ids) := by
  induction ids generalizing state seen with
  | nil => simpa using hating
  | cons target ids ih =>
      rw [List.append_cons] at nodup ⊢
      have fresh : target ∉ seen := by
        intro member
        have disjoint := List.disjoint_of_nodup_append (List.Nodup.of_append_left nodup)
        exact disjoint member (List.mem_singleton_self target)
      exact ih (hating.step fresh) nodup

theorem attacksMostHated (nodup : battle.ids.Nodup)
    (moves : ¬ 0 < (battle.role id).moveAttrb.limitCounter) :
    battle.AttacksMostHated (calculateAIAttack id battle) id := by
  have none : Hating battle id ((0, 0), battle) [] :=
    ⟨rfl, rfl, fun _ _ => rfl, rfl, fun _ member => absurd member List.not_mem_nil,
      fun some => absurd rfl some⟩
  have hating : Hating battle id (battle.ids.foldl (hateOne id) ((0, 0), battle)) battle.ids :=
    none.foldl (by simpa using nodup)
  intro target ordered changed
  unfold calculateAIAttack at ordered changed ⊢
  rw [if_neg moves] at ordered changed ⊢
  split at ordered
  · next late =>
      rw [if_pos late] at changed
      exact absurd rfl changed
  · next now =>
      rw [if_neg now] at changed ⊢
      generalize battle.ids.foldl (hateOne id) ((0, 0), battle) = state at hating ordered changed ⊢
      obtain ⟨⟨greatest, maxID⟩, hated⟩ := state
      have order : (hated.role id).currentOrder = (battle.role id).currentOrder :=
        (congrArg RoleState.currentOrder hating.self :)
      dsimp only at ordered changed ⊢
      by_cases none : maxID = 0
      · rw [if_pos none, modifyRole_self] at ordered
        have type : orderTypeNo = orderTypeAttackE := congrArg RoleOrder.type ordered
        exact absurd type (by decide)
      · rw [if_neg none] at ordered changed ⊢
        obtain ⟨member, fights, best⟩ := hating.best none
        have kept (other : Int) : (hated.modifyRole id fun role =>
            if role.currentOrder.type = orderTypeNo ∨ role.currentOrder.targetRoleID ≠ maxID then
              role.setTarget maxID hated.fragmentNow
            else role).hatred id other = hated.hatred id other := by
          unfold hatred
          rw [modifyRole_self]
          split <;> rfl
        rw [modifyRole_self] at ordered changed
        split at ordered
        · obtain rfl : maxID = target := congrArg RoleOrder.targetRoleID ordered
          refine ⟨member, fights, not_not.mp now, fun other listed enemy => ?_⟩
          rw [kept, kept, best]
          exact hating.greatest other listed enemy
        · next same =>
            rw [if_neg same] at changed
            exact absurd order changed

end Hated

section Ranges

variable {battle next : PKPE}

/-- The hate of every role is in its range, and the roles that give orders take part. -/
structure HateSound (battle : PKPE) : Prop where
  roles : ∀ id ∈ battle.ids, (battle.role id).Reaching ∧ (battle.role id).HatesInRange
  orders : ∀ skillOrder ∈ battle.skillOrderList, skillOrder.role ∈ battle.ids

theorem HateSound.insertRole (sound : battle.HateSound) {role : RoleState}
    (hatreMap : role.hatreMap = []) (reaching : role.Reaching) :
    (battle.insertRole role).HateSound := by
  rcases battle.insertRole_cases role with same | ⟨fresh, same⟩
  · rwa [same]
  · have member (other : Int) : other ∈ battle.ids.orderedInsert (· ≤ ·) role.roleID ↔
        other = role.roleID ∨ other ∈ battle.ids := List.mem_orderedInsert ..
    rw [same]
    refine ⟨fun other listed => ?_, fun skillOrder listed =>
      (member _).mpr (.inr (sound.orders skillOrder listed))⟩
    dsimp only
    by_cases new : other = role.roleID
    · subst new
      rw [Function.update_self]
      exact ⟨reaching, fun entry listed => absurd listed (hatreMap ▸ List.not_mem_nil)⟩
    · rw [Function.update_of_ne new]
      exact sound.roles other (((member other).mp listed).resolve_left new)

theorem HateSound.stir (sound : battle.HateSound) (step : battle.Stir next) : next.HateSound := by
  refine ⟨?_, step.orders sound.orders⟩
  have modified (id : Int) (change : RoleState → RoleState)
      (kept : (battle.role id).Calm (change (battle.role id))) : ∀ other ∈ battle.ids,
        ((battle.modifyRole id change).role other).Reaching ∧
          ((battle.modifyRole id change).role other).HatesInRange := by
    intro other member
    have before := sound.roles other member
    by_cases same : other = id
    · subst same
      rw [modifyRole_self]
      exact ⟨before.1.trans_eq kept.attackArea.symm, kept.hatreMap before.1 before.2⟩
    · rwa [modifyRole_of_ne _ _ _ _ same]
  cases step with
  | aside roles =>
      rw [roles]
      exact sound.roles
  | send => exact sound.roles
  | role id change calm => exact modified id change calm
  | use id code targetType target skill =>
      intro other member
      have before := sound.roles other member
      by_cases same : other = id
      · subst same
        rw [modifyRole_self]
        exact before
      · rwa [modifyRole_of_ne _ _ _ _ same]
  | insertRole role unskilled hatreMap reaching =>
      refine (sound.insertRole hatreMap ?_).roles
      rcases reaching with reaching | ⟨source, listed, equal⟩
      · exact reaching
      · exact (sound.roles source listed).1.trans_eq equal.symm

theorem HateSound.stirs (sound : battle.HateSound) (stirs : battle.Stirs next) :
    next.HateSound := by
  induction stirs with
  | refl => exact sound
  | tail _ step ih => exact ih.stir step

theorem HateSound.step {event : Event} (sound : battle.HateSound)
    (enabled : step battle event = some next) : next.HateSound := by
  by_cases waits : battle.pkState = .ready
  · obtain ⟨lasting, ids, orders, -⟩ := step_ready waits enabled
    refine ⟨fun id member => ?_, ?_⟩
    · obtain ⟨reaching, hates⟩ := sound.roles id (ids ▸ member)
      have kept : (battle.role id).Calm (next.role id) := .same (lasting id)
      exact ⟨reaching.trans_eq kept.attackArea.symm, kept.hatreMap reaching hates⟩
    · rw [orders, ids]
      exact sound.orders
  · have ticked : HateSound { battle with fragmentNow := event.clock battle.fragmentNow } :=
      ⟨sound.roles, sound.orders⟩
    exact ticked.stirs (step_stirs sound.orders waits enabled)

/-- A role starts without hate, and with the reach of its input. -/
theorem initRole_lasting {option : Options} {pkMapBase : Pos → Bool} {input : RoleInput}
    {memory role : RoleState} (made : initRole option pkMapBase input memory = some role) :
    role.physicalAttrib.attackArea = short input.attackArea ∧ role.hatreMap = [] := by
  unfold initRole at made
  dsimp only at made
  split at made
  · cases made
  · obtain ⟨skills, -, rfl⟩ := Option.map_eq_some_iff.mp made
    exact ⟨rfl, rfl⟩

theorem HateSound.initRoles {option : Options} {inputs : List (RoleInput × RoleState)}
    (sound : battle.HateSound) (reaching : ∀ entry ∈ inputs, -9 ≤ short entry.1.attackArea)
    (made : initRoles option inputs battle = some next) : next.HateSound := by
  induction inputs generalizing battle with
  | nil => exact Option.some.inj made ▸ sound
  | cons entry inputs ih =>
      obtain ⟨input, memory⟩ := entry
      obtain ⟨role, first, rest⟩ := Option.bind_eq_some_iff.mp made
      obtain ⟨area, hates⟩ := initRole_lasting first
      refine ih (sound.insertRole hates ?_)
        (fun other member => reaching other (List.mem_cons_of_mem _ member)) rest
      exact (reaching _ List.mem_cons_self).trans_eq area.symm

theorem init_hateSound {option : Options} {pkID mapID : Int} {outside : Pos → Bool}
    {inputs : List (RoleInput × RoleState)} {role : Int → RoleState}
    (reaching : ∀ entry ∈ inputs, -9 ≤ short entry.1.attackArea)
    (accepted : init option pkID mapID inputs outside role = some battle) : battle.HateSound := by
  unfold init at accepted
  split at accepted
  · obtain ⟨made, roles, rfl⟩ := Option.map_eq_some_iff.mp accepted
    have sound : made.HateSound := HateSound.initRoles
      ⟨fun _ member => absurd member List.not_mem_nil, fun _ member => absurd member List.not_mem_nil⟩
      reaching roles
    exact ⟨sound.roles, sound.orders⟩
  · cases accepted

end Ranges

/-- A role that cannot move targets well exactly when the first enemy in reach is a nearest one. The
other roles always do. The hate stays in its range in every battle without a very negative reach. -/
theorem targetsWell_iff_run_hates (battle : PKPE) (nodup : battle.ids.Nodup) (id : Int) :
    (battle.TargetsWell id ↔ battle.FirstIsNearest id) ∧
    ∀ (option : Options) (pkID mapID : Int) (inputs : List (RoleInput × RoleState))
      (outside : Pos → Bool) (role : Int → RoleState) (start : PKPE),
      init option pkID mapID inputs outside role = some start →
      (∀ entry ∈ inputs, -9 ≤ short entry.1.attackArea) →
      ∀ (history : History PKPE Event) (battle : PKPE), Run step anyEvent start history battle →
        ∀ id ∈ battle.ids, (battle.role id).HatesInRange := by
  constructor
  · unfold TargetsWell FirstIsNearest
    by_cases held : 0 < (battle.role id).moveAttrb.limitCounter
    · rw [if_pos held, calculateAIAttack, if_pos held, attacksNearest_iff]
      exact ⟨fun nearest _ => nearest, fun nearest => nearest held⟩
    · rw [if_neg held]
      exact iff_of_true (attacksMostHated nodup held) fun holds => absurd holds held
  · intro option pkID mapID inputs outside role start accepted reaching history battle run
    have sound : battle.HateSound := run.invariant HateSound (init_hateSound reaching accepted)
      fun _ _ _ sound _ enabled => sound.step enabled
    exact fun id member => (sound.roles id member).2

/-- A monster that cannot move, and two players. The second one is the nearer one. -/
def heldMonster : PKPE :=
  let role (opposition x area limit : Int) : RoleState :=
    { (default : RoleState) with
      opposition := opposition
      moveAttrb := { (default : MoveAttr) with currentPos := ⟨x, 10⟩, limitCounter := limit }
      physicalAttrib := { (default : PhysicalAttr) with attackArea := area } }
  { empty 7 1 (fun _ => false) (fun id =>
      if id = 1 then role 4 10 10 1 else if id = 2 then role 1 15 3 0 else role 1 11 3 0) with
    ids := [1, 2, 3], pkState := .pking }

/-- A player, and a monster with this reach twenty cells away. -/
def sightedMonster (attackArea : Int) : List (RoleInput × RoleState) :=
  let player : RoleInput :=
    { controlID := 1, roleID := 1, level := 1, opposition := 1, roleFlag := 1, roleType := 1
      hpMax := 100, mpMax := 10, hp := 100, mp := 10, speedModBase := 5, currentPos := ⟨10, 10⟩
      direct := 1, attackPowerHignBase := 10, attackPowerLowBase := 10, attackArea := 3
      attackCDTimeBase := 400, attackIngTime := 0, attackBulletMod := 0, attackHitBase := 100
      defenseMissBase := 0, attackCritBase := 0, defenseArmorBase := 0, magicArmorBase := 0
      wisdom := 0, skills := [] }
  [(player, default),
    ({ player with
      controlID := 2, roleID := 2, opposition := 4, roleFlag := 2, attackArea := attackArea
      currentPos := ⟨30, 10⟩ }, default)]

def sightedStart (attackArea : Int) : Option PKPE :=
  init ⟨fun _ => true, fun _ => none⟩ 7 1 (sightedMonster attackArea) (fun _ => false) fun _ => default

/-- The battle begins, and the monster looks around. -/
def tenTicks : List Event := .ready 1 :: List.replicate 10 (.runTime [] [])

/-- The held monster stands as it should for its own enemies, and the hate of the other is small. -/
theorem targetsWell_iff_run_hates_sighted :
    (heldMonster.TargetsWell 2 ↔ heldMonster.FirstIsNearest 2) ∧
      ∃ battle : PKPE, 2 ∈ battle.ids ∧ (battle.role 2).hatreMap ≠ [] ∧
        (battle.role 2).HatesInRange := by
  have held := targetsWell_iff_run_hates heldMonster (by decide) 2
  refine ⟨held.1, ?_⟩
  have replayed : (sightedStart 3).any (fun start => (replay step start tenTicks).any
      fun result => result.1.all (fun entry => anyEvent entry.1 entry.2) &&
        decide (2 ∈ result.2.ids ∧ (result.2.role 2).hatreMap ≠ [])) := by decide +kernel
  obtain ⟨start, accepted, passes⟩ := (Option.any_eq_true _ _).mp replayed
  obtain ⟨history, battle, reached, final⟩ := exists_run_of_replay step anyEvent start _
    (fun _ battle => 2 ∈ battle.ids ∧ (battle.role 2).hatreMap ≠ []) passes
  obtain ⟨member, hates⟩ := of_decide_eq_true final
  exact ⟨battle, member, hates, held.2 _ _ _ _ _ _ start accepted (by decide) history battle reached 2
    member⟩

/-- The held monster attacks the first player in reach, and a reach of the least number makes a hate
above eight. -/
theorem heldMonster_not_targetsWell :
    ¬ (∀ (battle : PKPE) (id : Int), battle.ids.Nodup → battle.TargetsWell id) ∧
    ¬ ∀ start, sightedStart (-32768) = some start → ∀ (history : History PKPE Event)
      (battle : PKPE), Run step anyEvent start history battle →
        ∀ id ∈ battle.ids, (battle.role id).HatesInRange := by
  constructor
  · intro claim
    have well := claim heldMonster 1 (by decide)
    have first : heldMonster.firstInReach 1 = some 2 := by decide
    rw [TargetsWell, if_pos (by decide), calculateAIAttack, if_pos (by decide),
      attacksNearest_iff, first] at well
    have nearest := (well 2 rfl).2 3 ⟨by decide, by decide, by decide, by decide⟩
    exact absurd nearest (by decide)
  · intro claim
    have replayed : (sightedStart (-32768)).any (fun start => (replay step start tenTicks).any
        fun result => result.1.all (fun entry => anyEvent entry.1 entry.2) &&
          decide (2 ∈ result.2.ids ∧
            ∃ entry ∈ (result.2.role 2).hatreMap, entry.2.distance = 32756)) := by decide +kernel
    obtain ⟨start, accepted, passes⟩ := (Option.any_eq_true _ _).mp replayed
    obtain ⟨history, battle, reached, final⟩ := exists_run_of_replay step anyEvent start _
      (fun _ battle => 2 ∈ battle.ids ∧
        ∃ entry ∈ (battle.role 2).hatreMap, entry.2.distance = 32756) passes
    obtain ⟨member, entry, listed, distance⟩ := of_decide_eq_true final
    have range := (claim start accepted history battle reached 2 member entry listed)
      entry.2.distance List.mem_cons_self
    rw [distance] at range
    exact absurd range.2 (by decide)

end PKPE

end AppSvr.PkServer
