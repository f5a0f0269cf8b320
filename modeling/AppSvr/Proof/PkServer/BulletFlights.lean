/-
This file proves when a bullet reaches a target that stands still.
-/

import AppSvr.Proof.PkServer.BulletFrames
import AppSvr.ToMathlib.Orbits

namespace AppSvr.PkServer
open PKPE Orbits

namespace Bullet

/-- One coordinate goes towards the goal. -/
def toward (speed goal pos : Int) : Int :=
  if pos < goal then short (pos + speed) else if goal < pos then short (pos - speed) else pos

variable (goal : Pos) (bullet : Bullet)

def moved : Bullet :=
  { bullet with
    currentPos := ⟨toward bullet.speed goal.x bullet.currentPos.x,
      toward bullet.speed goal.y bullet.currentPos.y⟩ }

def width : Nat := (goal.x - bullet.currentPos.x).natAbs

def height : Nat := (goal.y - bullet.currentPos.y).natAbs

/-- A call keeps a bullet with these changes, or the bullet strikes and nothing is left of it. The
target stands on the goal. -/
def next : Option Bullet :=
  if 0 < bullet.startTime then some { bullet with startTime := bullet.startTime - 1 }
  else if bullet.bulletType = .atkClose ∨ bullet.width goal ≤ 3 ∧ bullet.height goal ≤ 3 then none
  else some (bullet.moved goal)

/-- The bullet before a call. -/
def after (goal : Pos) (bullet : Bullet) : Nat → Option Bullet
  | 0 => some bullet
  | call + 1 => (bullet.after goal call).bind (next goal)

/-- The bullet strikes in this call. -/
def StrikesAt (call : Nat) : Prop :=
  ∃ last, bullet.after goal call = some last ∧ last.next goal = none

/-- The last call in which the bullet can strike, when the calls are counted from zero. -/
def lastCall : Nat :=
  bullet.startTime.toNat + (max (bullet.width goal / bullet.speed.toNat)
    (bullet.height goal / bullet.speed.toNat) + 1)

/-- The coordinates stay in `short int` on the way. -/
structure Flies (goal : Pos) (bullet : Bullet) : Prop where
  onMap : goal.InMap
  speed : 1 ≤ bullet.speed ∧ bullet.speed ≤ 127
  width : bullet.width goal ≤ 127
  height : bullet.height goal ≤ 127

section Flight

variable {goal : Pos} {bullet : Bullet}

theorem Flies.of_inMap (start : bullet.currentPos.InMap) (inside : goal.InMap)
    (speed : 1 ≤ bullet.speed ∧ bullet.speed ≤ 127) : bullet.Flies goal := by
  obtain ⟨left, right, top, bottom⟩ := start
  obtain ⟨left', right', top', bottom'⟩ := id inside
  rw [mapSizeX] at right right'
  rw [mapSizeY] at bottom bottom'
  refine ⟨inside, speed, ?_, ?_⟩
  · rw [Bullet.width]
    omega
  · rw [Bullet.height]
    omega

theorem natAbs_toward {speed goal pos : Int} (bounds : 1 ≤ speed ∧ speed ≤ 127)
    (inside : 0 ≤ goal ∧ goal < 50) (near : (goal - pos).natAbs ≤ 127) :
    (goal - toward speed goal pos).natAbs = shrink speed.toNat (goal - pos).natAbs ∧
      (goal - toward speed goal pos).natAbs ≤ 127 := by
  unfold toward shrink
  have plus : pos < goal → short (pos + speed) = pos + speed := fun _ =>
    short_eq_self (by omega) (by omega)
  have minus : goal < pos → short (pos - speed) = pos - speed := fun _ =>
    short_eq_self (by omega) (by omega)
  split_ifs <;> omega

theorem Flies.positive (flies : bullet.Flies goal) : 0 < bullet.speed.toNat := by
  have := flies.speed
  omega

theorem Flies.moved (flies : bullet.Flies goal) : (bullet.moved goal).Flies goal := by
  obtain ⟨inside, speed, width, height⟩ := flies
  obtain ⟨left, right, top, bottom⟩ := id inside
  rw [mapSizeX] at right
  rw [mapSizeY] at bottom
  exact ⟨inside, speed, (natAbs_toward speed ⟨left, right⟩ width).2,
    (natAbs_toward speed ⟨top, by omega⟩ height).2⟩

/-- Both distances shrink with the steps. -/
theorem Flies.distances (flies : bullet.Flies goal) (steps : Nat) :
    ((Bullet.moved goal)^[steps] bullet).width goal =
        (shrink bullet.speed.toNat)^[steps] (bullet.width goal) ∧
      ((Bullet.moved goal)^[steps] bullet).height goal =
        (shrink bullet.speed.toNat)^[steps] (bullet.height goal) := by
  induction steps generalizing bullet with
  | zero => exact ⟨rfl, rfl⟩
  | succ steps ih =>
      obtain ⟨left, right, top, bottom⟩ := flies.onMap
      rw [mapSizeX] at right
      rw [mapSizeY] at bottom
      obtain ⟨across, down⟩ := ih flies.moved
      have first := (natAbs_toward flies.speed ⟨left, right⟩ flies.width).1
      have second := (natAbs_toward flies.speed ⟨top, by omega⟩ flies.height).1
      rw [Function.iterate_succ_apply, Function.iterate_succ_apply, Function.iterate_succ_apply,
        across, down]
      exact ⟨congrArg _ first, congrArg _ second⟩

theorem after_add (first second : Nat) : bullet.after goal (first + second) =
    (bullet.after goal first).bind (Bullet.after goal · second) := by
  induction second with
  | zero => cases bullet.after goal first <;> rfl
  | succ second ih => rw [← Nat.add_assoc, after, ih, Option.bind_assoc]; rfl

theorem next_of_ready (ready : bullet.startTime = 0) : bullet.next goal =
    if bullet.bulletType = .atkClose ∨ bullet.width goal ≤ 3 ∧ bullet.height goal ≤ 3 then none
    else some (bullet.moved goal) := by
  rw [next, if_neg (by omega)]

/-- The bullet waits first. -/
theorem after_wait (waits : 0 ≤ bullet.startTime) (calls : Nat)
    (early : calls ≤ bullet.startTime.toNat) :
    bullet.after goal calls = some { bullet with startTime := bullet.startTime - calls } := by
  induction calls with
  | zero => simp [after]
  | succ calls ih =>
      have left : 0 < bullet.startTime - calls := by omega
      rw [after, ih (by omega), Option.bind_some, next, if_pos left]
      simp only [Option.some.injEq, Nat.cast_succ]
      congr 1
      omega

/-- A bullet keeps its target. -/
theorem rolePassive_of_after {call : Nat} {last : Bullet}
    (flown : bullet.after goal call = some last) : last.rolePassive = bullet.rolePassive := by
  induction call generalizing last with
  | zero => exact congrArg rolePassive (Option.some.inj flown).symm
  | succ call ih =>
      obtain ⟨before, earlier, step⟩ := Option.bind_eq_some_iff.mp flown
      have same := ih earlier
      rw [next] at step
      split_ifs at step <;> cases Option.some.inj step <;> exact same

/-- A bullet that flies has made full steps. -/
theorem eq_of_after (ready : bullet.startTime = 0) {steps : Nat} {last : Bullet}
    (flown : bullet.after goal steps = some last) :
    last = (moved goal)^[steps] bullet ∧ last.startTime = 0 := by
  induction steps generalizing last with
  | zero =>
      cases Option.some.inj flown
      exact ⟨rfl, ready⟩
  | succ steps ih =>
      obtain ⟨before, earlier, step⟩ := Option.bind_eq_some_iff.mp flown
      obtain ⟨same, still⟩ := ih earlier
      rw [next_of_ready still] at step
      split at step
      case isTrue => exact nomatch step
      case isFalse =>
        cases Option.some.inj step
        rw [Function.iterate_succ_apply', ← same]
        exact ⟨rfl, still⟩

theorem moved_iterate (goal : Pos) (steps : Nat) (bullet : Bullet) :
    ((moved goal)^[steps] bullet).startTime = bullet.startTime ∧
      ((moved goal)^[steps] bullet).bulletType = bullet.bulletType := by
  induction steps with
  | zero => exact ⟨rfl, rfl⟩
  | succ steps ih =>
      rw [Function.iterate_succ_apply']
      exact ih

/-- A bullet flies on while it is not near. -/
theorem after_of_far (ready : bullet.startTime = 0) (far : bullet.bulletType ≠ .atkClose)
    {steps : Nat} (away : ∀ step < steps, ¬ (((moved goal)^[step] bullet).width goal ≤ 3 ∧
      ((moved goal)^[step] bullet).height goal ≤ 3)) :
    bullet.after goal steps = some ((moved goal)^[steps] bullet) := by
  induction steps with
  | zero => rfl
  | succ steps ih =>
      obtain ⟨still, type⟩ := moved_iterate goal steps bullet
      have flying : ¬ (((moved goal)^[steps] bullet).bulletType = .atkClose ∨
          ((moved goal)^[steps] bullet).width goal ≤ 3 ∧
            ((moved goal)^[steps] bullet).height goal ≤ 3) := by
        rw [type]
        exact not_or.mpr ⟨far, away steps (Nat.lt_succ_self _)⟩
      rw [after, ih fun step early => away step (Nat.lt_succ_of_lt early), Option.bind_some,
        next_of_ready (still.trans ready), if_neg flying, Function.iterate_succ_apply']

/-- The bullet after its time to wait. -/
def readied (bullet : Bullet) : Bullet := { bullet with startTime := 0 }

theorem Flies.readied (flies : bullet.Flies goal) : bullet.readied.Flies goal :=
  ⟨flies.onMap, flies.speed, flies.width, flies.height⟩

theorem after_startTime (waits : 0 ≤ bullet.startTime) (more : Nat) :
    bullet.after goal (bullet.startTime.toNat + more) = bullet.readied.after goal more := by
  have ready : bullet.startTime - (bullet.startTime.toNat : Int) = 0 := by omega
  rw [after_add, after_wait waits _ (Nat.le_refl _), ready]
  rfl

/-- No bullet strikes while it waits. -/
theorem StrikesAt.late {call : Nat} (strikes : bullet.StrikesAt goal call)
    (waits : 0 ≤ bullet.startTime) : ∃ more, call = bullet.startTime.toNat + more := by
  refine Nat.exists_eq_add_of_le (Nat.le_of_not_lt fun early => ?_)
  obtain ⟨last, flown, final⟩ := strikes
  rw [after_wait waits call (Nat.le_of_lt early)] at flown
  cases Option.some.inj flown
  have left : 0 < bullet.startTime - call := by omega
  rw [next, if_pos left] at final
  exact nomatch final

section Reach

variable (flies : bullet.Flies goal) (waits : 0 ≤ bullet.startTime)
include flies waits

/-- A bullet that strikes starts beside its target, or both distances shrink together. -/
theorem StrikesAt.meets {call : Nat} (strikes : bullet.StrikesAt goal call) :
    bullet.bulletType = .atkClose ∨
      Meets 3 bullet.speed.toNat (bullet.width goal) (bullet.height goal) := by
  obtain ⟨more, rfl⟩ := strikes.late waits
  obtain ⟨last, flown, final⟩ := strikes
  rw [after_startTime waits] at flown
  obtain ⟨same, still⟩ := eq_of_after rfl flown
  rw [next_of_ready still] at final
  split at final
  case isFalse => exact nomatch final
  case isTrue near =>
    have type : last.bulletType = bullet.bulletType := by
      rw [same]
      exact (moved_iterate goal more bullet.readied).2
    rw [type] at near
    refine near.imp_right fun near => ?_
    obtain ⟨width, height⟩ := flies.readied.distances more
    rw [same, width, height] at near
    exact meets_of_near flies.positive near

/-- The bullet waits, flies the longer way, and needs one call more at most. -/
theorem exists_strikesAt (meets : bullet.bulletType = .atkClose ∨
    Meets 3 bullet.speed.toNat (bullet.width goal) (bullet.height goal)) :
    ∃ call ≤ bullet.lastCall goal, bullet.StrikesAt goal call := by
  by_cases close : bullet.bulletType = .atkClose
  · refine ⟨bullet.startTime.toNat, Nat.le_add_right _ _, bullet.readied,
      after_startTime waits 0, ?_⟩
    exact (next_of_ready rfl).trans (if_pos (Or.inl close))
  · obtain ⟨steps, few, reached⟩ := near_of_meets flies.positive (meets.resolve_left close)
    have near : ((moved goal)^[steps] bullet.readied).width goal ≤ 3 ∧
        ((moved goal)^[steps] bullet.readied).height goal ≤ 3 := by
      rw [(flies.readied.distances steps).1, (flies.readied.distances steps).2]
      exact reached
    have arrives : ∃ step, ((moved goal)^[step] bullet.readied).width goal ≤ 3 ∧
        ((moved goal)^[step] bullet.readied).height goal ≤ 3 := ⟨steps, near⟩
    have soon := Nat.find_min' arrives near
    refine ⟨bullet.startTime.toNat + Nat.find arrives,
      Nat.add_le_add_left (soon.trans few) _, (moved goal)^[Nat.find arrives] bullet.readied,
      ?_, ?_⟩
    · have far : bullet.readied.bulletType ≠ .atkClose := close
      have flown := after_of_far rfl far fun step early => Nat.find_min arrives early
      exact (after_startTime waits _).trans flown
    · have still := (moved_iterate goal (Nat.find arrives) bullet.readied).1
      exact (next_of_ready still).trans (if_pos (Or.inr (Nat.find_spec arrives)))

end Reach

end Flight

end Bullet

namespace PKPE

/-- The target of the bullet lives, and stands on the goal. -/
structure Stands (battle : PKPE) (bullet : Bullet) (goal : Pos) : Prop where
  lives : (battle.role bullet.rolePassive).live ≠ .dead
  position : battle.positionOf bullet.rolePassive = goal

/-- The effect of a bullet. -/
def strike (bullet : Bullet) (battle : PKPE) : PKPE :=
  match bullet.bulletType with
  | .atkClose | .atkRemote => calculateAttackHurt bullet.roleAttack bullet.rolePassive battle
  | .skill .fengBaoZhiChui =>
      skillProcess207Effect (battle.positionOf bullet.rolePassive) bullet.roleAttack bullet.level
        battle
  | .skill .youBu => skillProcess217Effect bullet battle
  | .skill .zuiJiuYunWu =>
      skillProcess223Effect (battle.positionOf bullet.rolePassive)
        (battle.role bullet.roleAttack).opposition bullet.level battle
  | .skill _ => battle

theorem strike_bullets (bullet : Bullet) : KeepsBullets (strike bullet) := by
  intro battle
  unfold strike
  split
  · exact calculateAttackHurt_bullets _ _ battle
  · exact calculateAttackHurt_bullets _ _ battle
  · exact skillProcess207Effect_bullets _ _ _ battle
  · exact skillProcess217Effect_bullets _ battle
  · exact skillProcess223Effect_bullets _ _ _ battle
  · rfl

section Calls

variable {battle : PKPE} {bullet : Bullet} {goal : Pos}

/-- A bullet with a target that stands still is kept, or it strikes. -/
theorem flyBullet_of_stands (stands : battle.Stands bullet goal) : flyBullet battle bullet =
    match bullet.next goal with
    | some next => battle.addBullet next
    | none => strike bullet battle := by
  obtain ⟨lives, rfl⟩ := stands
  unfold flyBullet
  dsimp only
  rw [if_neg lives, Bullet.next]
  split
  · rfl
  · split
    case isTrue close =>
      rw [if_pos (Or.inl close), strike, close]
    case isFalse far =>
      by_cases near : bullet.width (battle.positionOf bullet.rolePassive) ≤ 3 ∧
          bullet.height (battle.positionOf bullet.rolePassive) ≤ 3
      · have inside : ¬ (3 < bullet.width (battle.positionOf bullet.rolePassive) ∨
            3 < bullet.height (battle.positionOf bullet.rolePassive)) := by omega
        rw [if_pos (Or.inr near)]
        refine (if_neg inside).trans ?_
        rw [strike]
        cases type : bullet.bulletType with
        | atkClose => exact absurd type far
        | atkRemote => rfl
        | skill skill => cases skill <;> rfl
      · have outside : 3 < bullet.width (battle.positionOf bullet.rolePassive) ∨
            3 < bullet.height (battle.positionOf bullet.rolePassive) := by omega
        rw [if_neg (not_or.mpr ⟨far, near⟩)]
        exact if_pos outside

/-- A bullet is kept at the end of the list or not at all. -/
theorem flyBullet_extends (battle : PKPE) (bullet : Bullet) :
    ∃ kept, (flyBullet battle bullet).bullets = battle.bullets ++ kept := by
  by_cases dead : (battle.role bullet.rolePassive).live = .dead
  · refine ⟨[], ?_⟩
    unfold flyBullet
    dsimp only
    rw [if_pos dead, List.append_nil]
  · rw [flyBullet_of_stands ⟨dead, rfl⟩]
    split
    · exact ⟨_, rfl⟩
    · exact ⟨[], (strike_bullets bullet battle).trans (List.append_nil _).symm⟩

theorem foldl_flyBullet_extends (back : List Bullet) (battle : PKPE) :
    ∃ kept, (back.foldl flyBullet battle).bullets = battle.bullets ++ kept := by
  induction back generalizing battle with
  | nil => exact ⟨[], (List.append_nil _).symm⟩
  | cons bullet back ih =>
      obtain ⟨first, one⟩ := flyBullet_extends battle bullet
      obtain ⟨rest, more⟩ := ih (flyBullet battle bullet)
      exact ⟨first ++ rest, by rw [List.foldl_cons, more, one, List.append_assoc]⟩

/-- The battle when a call comes to the bullet behind these. -/
def comesTo (battle : PKPE) (front : List Bullet) : PKPE :=
  front.foldl flyBullet { battle with bullets := [] }

theorem calculateBullets_split {front back : List Bullet}
    (listed : battle.bullets = front ++ bullet :: back) :
    calculateBullets battle = back.foldl flyBullet (flyBullet (battle.comesTo front) bullet) := by
  rw [calculateBullets, listed, List.foldl_append, List.foldl_cons]
  rfl

end Calls

section Run

variable (battles : Nat → PKPE) (front : List Bullet) (bullet : Bullet) (goal : Pos)

/-- The bullet before a call, behind the bullets that were in front of it and are kept. -/
def track : Nat → Option (List Bullet × Bullet)
  | 0 => some (front, bullet)
  | call + 1 => (track call).bind fun (front, bullet) =>
      let seen := (battles call).comesTo front
      ((flyBullet seen bullet).bullets.drop seen.bullets.length).head?.map fun next =>
        (seen.bullets, next)

/-- These are the battles before the calls. The bullet is in the list of the first one, between two
calls bullets are only added, and the target stands still until the bullet is gone. -/
structure Course : Prop where
  listed : ∃ back, (battles 0).bullets = front ++ bullet :: back
  grows : ∀ call, ∃ added,
    (battles (call + 1)).bullets = (calculateBullets (battles call)).bullets ++ added
  stands : ∀ call before flying, track battles front bullet call = some (before, flying) →
    ((battles call).comesTo before).Stands flying goal

/-- In this call the bullet takes effect and is removed. -/
def TakesEffect (call : Nat) : Prop :=
  ∃ before flying back, track battles front bullet call = some (before, flying) ∧
    (battles call).bullets = before ++ flying :: back ∧
    flyBullet ((battles call).comesTo before) flying =
      strike flying ((battles call).comesTo before) ∧
    track battles front bullet (call + 1) = none

variable {battles front bullet goal}

/-- What the call keeps of a bullet comes next in the list. -/
theorem kept_of_stands {seen : PKPE} {flying : Bullet} (stands : seen.Stands flying goal) :
    ((flyBullet seen flying).bullets.drop seen.bullets.length).head? = flying.next goal := by
  rw [flyBullet_of_stands stands]
  cases flying.next goal with
  | none =>
      dsimp only
      rw [strike_bullets, List.drop_length]
      rfl
  | some next =>
      dsimp only
      rw [addBullet, List.drop_left]
      rfl

section Followed

variable (course : Course battles front bullet goal)
include course

theorem Course.track_succ {call : Nat} {before : List Bullet} {flying : Bullet}
    (there : track battles front bullet call = some (before, flying)) :
    track battles front bullet (call + 1) = (flying.next goal).map fun next =>
      (((battles call).comesTo before).bullets, next) := by
  rw [track, there, Option.bind_some]
  dsimp only
  rw [kept_of_stands (course.stands call before flying there)]

/-- The calls change the bullet as long as it is there. -/
theorem Course.track_eq (call : Nat) :
    (track battles front bullet call).map Prod.snd = bullet.after goal call := by
  induction call with
  | zero => rfl
  | succ call ih =>
      rw [Bullet.after, ← ih]
      cases there : track battles front bullet call with
      | none => rw [track, there]; rfl
      | some state =>
          obtain ⟨before, flying⟩ := state
          rw [course.track_succ there, Option.map_map]
          exact Option.map_id'

/-- The list holds the bullet as long as it is followed. -/
theorem Course.listed_at {call : Nat} {before : List Bullet} {flying : Bullet}
    (there : track battles front bullet call = some (before, flying)) :
    ∃ back, (battles call).bullets = before ++ flying :: back := by
  induction call generalizing before flying with
  | zero =>
      cases Option.some.inj there
      exact course.listed
  | succ call ih =>
      obtain ⟨⟨earlier, last⟩, known, -⟩ := Option.bind_eq_some_iff.mp there
      obtain ⟨back, listed⟩ := ih known
      rw [course.track_succ known] at there
      obtain ⟨next, kept, same⟩ := Option.map_eq_some_iff.mp there
      cases same
      obtain ⟨added, grown⟩ := course.grows call
      have stands := course.stands call earlier last known
      have flies := flyBullet_of_stands stands
      rw [kept] at flies
      obtain ⟨rest, more⟩ := foldl_flyBullet_extends back
        (((battles call).comesTo earlier).addBullet flying)
      refine ⟨rest ++ added, ?_⟩
      rw [grown, calculateBullets_split listed, flies, more, addBullet]
      simp only [List.append_assoc, List.cons_append, List.nil_append]

/-- The calls strike with the bullet when it has arrived. -/
theorem Course.takesEffect_iff (call : Nat) :
    TakesEffect battles front bullet call ↔ bullet.StrikesAt goal call := by
  have follows := course.track_eq call
  constructor
  · rintro ⟨before, flying, back, there, -, -, gone⟩
    rw [there] at follows
    rw [course.track_succ there] at gone
    exact ⟨flying, follows.symm, Option.map_eq_none_iff.mp gone⟩
  · rintro ⟨flying, flown, final⟩
    rw [flown] at follows
    obtain ⟨⟨before, flying⟩, there, rfl⟩ := Option.map_eq_some_iff.mp follows
    obtain ⟨back, listed⟩ := course.listed_at there
    have stands := course.stands call before flying there
    refine ⟨before, flying, back, there, listed, ?_, ?_⟩
    · rw [flyBullet_of_stands stands, final]
    · rw [course.track_succ there, final]
      rfl

section Reach

variable (start : bullet.currentPos.InMap) (inside : goal.InMap)
  (speed : 1 ≤ bullet.speed ∧ bullet.speed ≤ 127) (waits : 0 ≤ bullet.startTime)
include start inside speed waits

theorem Course.meets {call : Nat} (effect : TakesEffect battles front bullet call) :
    bullet.bulletType = .atkClose ∨
      Meets 3 bullet.speed.toNat (bullet.width goal) (bullet.height goal) :=
  ((course.takesEffect_iff call).mp effect).meets (.of_inMap start inside speed) waits

/-- A bullet reaches its target exactly when it starts beside it or when both distances shrink
together. -/
theorem takesEffect_iff_meets : (∃ call ≤ bullet.lastCall goal,
    TakesEffect battles front bullet call) ↔ bullet.bulletType = .atkClose ∨
      Meets 3 bullet.speed.toNat (bullet.width goal) (bullet.height goal) := by
  constructor
  · rintro ⟨call, -, effect⟩
    exact course.meets start inside speed waits effect
  · intro meets
    obtain ⟨call, early, strikes⟩ :=
      Bullet.exists_strikesAt (.of_inMap start inside speed) waits meets
    exact ⟨call, early, (course.takesEffect_iff call).mpr strikes⟩

end Reach

end Followed

/-- The battle has this bullet only, and nothing else happens. -/
def alone (battle : PKPE) (bullet : Bullet) (goal : Pos) (call : Nat) : PKPE :=
  { battle with bullets := (bullet.after goal call).toList }

section Alone

variable {battle : PKPE} (stands : battle.Stands bullet goal)
include stands

theorem alone_stands {call : Nat} {flying : Bullet} (flown : bullet.after goal call = some flying) :
    ((battle.alone bullet goal call).comesTo []).Stands flying goal := by
  have target := Bullet.rolePassive_of_after flown
  constructor
  · rw [target]
    exact stands.lives
  · rw [target]
    exact stands.position

theorem track_alone (call : Nat) : track (battle.alone bullet goal) [] bullet call =
    (bullet.after goal call).map fun flying => ([], flying) := by
  induction call with
  | zero => rfl
  | succ call ih =>
      rw [track, ih, Bullet.after]
      cases flown : bullet.after goal call with
      | none => rfl
      | some flying =>
          rw [Option.map_some, Option.bind_some]
          dsimp only
          rw [kept_of_stands (alone_stands stands flown), Option.bind_some]
          rfl

theorem course_alone : Course (battle.alone bullet goal) [] bullet goal where
  listed := ⟨[], rfl⟩
  grows call := by
    refine ⟨[], ?_⟩
    rw [List.append_nil, alone, Bullet.after]
    cases flown : bullet.after goal call with
    | none => rw [calculateBullets, alone, flown]; rfl
    | some flying =>
        have listed : (battle.alone bullet goal call).bullets = [] ++ flying :: [] := by
          rw [alone, flown]
          rfl
        rw [calculateBullets_split listed, List.foldl_nil,
          flyBullet_of_stands (alone_stands stands flown), Option.bind_some]
        cases flying.next goal with
        | none => exact (strike_bullets flying _).symm
        | some next => rfl
  stands call before flying there := by
    rw [track_alone stands] at there
    obtain ⟨last, flown, same⟩ := Option.map_eq_some_iff.mp there
    cases same
    exact alone_stands stands flown

end Alone

/-- A role of the battle stands on this cell. -/
def target (goal : Pos) : PKPE :=
  .empty 1 1 (fun _ => true) fun _ => (default : RoleState).setCurrentPos goal

def arrow (speed : Int) (start : Pos) : Bullet := ⟨2, 1, 4, start, speed, .atkRemote, 0⟩

/-- An arrow that is five cells fast meets a target nine columns and eight rows away. -/
theorem takesEffect_iff_meets_arrow : ∃ call ≤ (arrow 5 ⟨10, 10⟩).lastCall ⟨19, 18⟩,
    TakesEffect ((target ⟨19, 18⟩).alone (arrow 5 ⟨10, 10⟩) ⟨19, 18⟩) [] (arrow 5 ⟨10, 10⟩)
      call := by
  have stands : (target ⟨19, 18⟩).Stands (arrow 5 ⟨10, 10⟩) ⟨19, 18⟩ := ⟨by decide, rfl⟩
  have meets : Meets 3 5 9 8 := ⟨2, 2, by decide, by decide, by decide⟩
  exact (takesEffect_iff_meets (course_alone stands) (by decide) (by decide) (by decide)
    (by decide)).mpr (Or.inr meets)

/-- An arrow that is eight cells fast goes back and forth over a target four columns away. -/
theorem never_takesEffect : ¬ ∃ call, TakesEffect
    ((target ⟨14, 10⟩).alone (arrow 8 ⟨10, 10⟩) ⟨14, 10⟩) [] (arrow 8 ⟨10, 10⟩) call := by
  rintro ⟨call, effect⟩
  have stands : (target ⟨14, 10⟩).Stands (arrow 8 ⟨10, 10⟩) ⟨14, 10⟩ := ⟨by decide, rfl⟩
  have meets := (course_alone stands).meets (by decide) (by decide) (by decide) (by decide) effect
  obtain close | ⟨across, -, near, -⟩ := meets
  · exact absurd close (by decide)
  · have width : (arrow 8 ⟨10, 10⟩).width ⟨14, 10⟩ = 4 := rfl
    have speed : (arrow 8 ⟨10, 10⟩).speed.toNat = 8 := rfl
    rw [width, speed, remains] at near
    omega

end Run

end PKPE

end AppSvr.PkServer
