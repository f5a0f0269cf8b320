/-
This file proves which roles the area skills hit.
-/

import AppSvr.Proof.PkServer.BuffRuns
import Mathlib.Algebra.Order.Ring.Abs
import Mathlib.Tactic.Linarith

namespace AppSvr.PkServer

/-- The cell lies in the circle. -/
def Pos.InCircle (centre pos : Pos) (radius : Int) : Prop :=
  (centre.x - pos.x) ^ 2 + (centre.y - pos.y) ^ 2 ≤ radius ^ 2

instance (centre pos : Pos) (radius : Int) : Decidable (centre.InCircle pos radius) :=
  inferInstanceAs (Decidable (_ ≤ _))

/-- The cell lies outside, but the short differences do not. -/
def Pos.Wraps (centre pos : Pos) (radius : Int) : Prop :=
  Near centre pos (radius ^ 2) ∧ ¬ centre.InCircle pos radius

instance (centre pos : Pos) (radius : Int) : Decidable (centre.Wraps pos radius) :=
  inferInstanceAs (Decidable (_ ∧ _))

theorem Pos.InCircle.near {centre pos : Pos} {radius : Int} (inside : centre.InCircle pos radius)
    (small : radius ≤ 7) (nonneg : 0 ≤ radius) : Near centre pos (radius ^ 2) := by
  have square : radius ^ 2 ≤ 7 ^ 2 := pow_le_pow_left₀ nonneg small 2
  have columns : (centre.x - pos.x) ^ 2 ≤ 7 ^ 2 := by
    have rows := sq_nonneg (centre.y - pos.y)
    unfold InCircle at inside
    linarith
  have rows : (centre.y - pos.y) ^ 2 ≤ 7 ^ 2 := by
    have columns := sq_nonneg (centre.x - pos.x)
    unfold InCircle at inside
    linarith
  have column := abs_le_of_sq_le_sq' columns (by decide)
  have row := abs_le_of_sq_le_sq' rows (by decide)
  have sameX : short (centre.x - pos.x) = centre.x - pos.x := by
    unfold short
    omega
  have sameY : short (centre.y - pos.y) = centre.y - pos.y := by
    unfold short
    omega
  unfold Near
  rw [sameX, sameY]
  exact inside

/-- These are the routines of the skills that hit an area, with what they get besides the caster. -/
inductive AreaSkill where
  | skillProcess204Buffer (hurtValue : Int)
  | skillProcess207Effect (targetPos : Pos) (level : Int)
  | skillProcess209Buffer (p209Buffer : Buff)
  | skillProcess210Buffer (index : Nat) (p210Buffer : Buff)
  | skillProcess211 (order : RoleOrder) (level : Int)
  | skillProcess219Effect (tmpBuff : Buff)
  | skillProcess220 (order : RoleOrder) (level : Int)
  | skillProcess221 (order : RoleOrder) (level : Int)
  | skillProcess223Effect (targetPos : Pos) (opposition level : Int)
  | skillProcess229 (order : RoleOrder) (level : Int)

namespace AreaSkill

def run (id : Int) : AreaSkill → PKPE → PKPE
  | skillProcess204Buffer hurtValue => PKPE.skillProcess204Buffer id hurtValue
  | skillProcess207Effect targetPos level => PKPE.skillProcess207Effect targetPos id level
  | skillProcess209Buffer p209Buffer => PKPE.skillProcess209Buffer id p209Buffer
  | skillProcess210Buffer index p210Buffer => PKPE.skillProcess210Buffer id index p210Buffer
  | skillProcess211 order level => PKPE.skillProcess211 id order level
  | skillProcess219Effect tmpBuff => PKPE.skillProcess219Effect id tmpBuff
  | skillProcess220 order level => PKPE.skillProcess220 id order level
  | skillProcess221 order level => PKPE.skillProcess221 id order level
  | skillProcess223Effect targetPos opposition level =>
      PKPE.skillProcess223Effect targetPos opposition level
  | skillProcess229 order level => PKPE.skillProcess229 id order level

section Areas

variable (battle : PKPE) (id : Int)

/-- The radius of three skills grows with the level. -/
def radiusOf (level : Int) : Int := byLevel level 3 [3, 3, 5, 5, 7, 7]

/-- The radius of the stamp. -/
def rangeOf (level : Int) : Int := byLevel level 3 [3, 5, 5, 7, 7, 7]

/-- The counter of `FanJiLuoXuan` goes off. -/
def GoesOff (p210Buffer : Buff) : Prop :=
  10 ≤ p210Buffer.parametar2 ∧ ((battle.rand.1 % 100 : Nat) : Int) ≤ p210Buffer.parametar2

instance (p210Buffer : Buff) : Decidable (GoesOff battle p210Buffer) :=
  inferInstanceAs (Decidable (_ ∧ _))

/-- The cell at which an order aims. -/
def aim (order : RoleOrder) : Option Pos :=
  if order.targetType = 1 then some order.targetPos
  else (battle.find order.targetRoleID).map fun _ => battle.positionOf order.targetRoleID

/-- The end of the spikes of an order. -/
def spikes (order : RoleOrder) (level : Int) : Option Pos :=
  (aim battle order).bind fun tempPos =>
    spikesEnd (battle.positionOf id) tempPos (byLevel level 3 [3, 3, 5, 5, 7, 7])

/-- The cell of a rain of meteors. -/
def rainPos (tmpBuff : Buff) : Pos :=
  ⟨short (tmpBuff.parametar2.tmod mapSizeX), short (tmpBuff.parametar2.tdiv mapSizeX)⟩

/-- The area of a skill. The spikes have a line, and the roar reaches everybody. -/
def Covers (pos : Pos) : AreaSkill → Prop
  | skillProcess204Buffer _ => (battle.positionOf id).InCircle pos 3
  | skillProcess207Effect targetPos _ => targetPos.InCircle pos 3
  | skillProcess209Buffer p209Buffer =>
      (battle.positionOf id).InCircle pos (radiusOf p209Buffer.level)
  | skillProcess210Buffer _ p210Buffer =>
      GoesOff battle p210Buffer ∧ (battle.positionOf id).InCircle pos 3
  | skillProcess211 order level => ∃ endPos ∈ spikes battle id order level,
      pnt2SegmentDistSquare (battle.positionOf id) endPos pos < 4
  | skillProcess219Effect tmpBuff => (rainPos tmpBuff).InCircle pos (radiusOf tmpBuff.level)
  | skillProcess220 _ level => (battle.positionOf id).InCircle pos (rangeOf level)
  | skillProcess221 _ _ => True
  | skillProcess223Effect targetPos _ _ => targetPos.InCircle pos 3
  | skillProcess229 _ level => (battle.positionOf id).InCircle pos (radiusOf level)

/-- The living roles of the side that a skill addresses. -/
def Addresses (passive : RoleState) : AreaSkill → Prop
  | skillProcess221 _ _ => (battle.role id).Helps passive
  | skillProcess223Effect _ opposition _ => passive.live ≠ .dead ∧ passive.opposition ≠ opposition
  | _ => (battle.role id).Fights passive

/-- The role should be hit. -/
def Eligible (skill : AreaSkill) (target : Int) : Prop :=
  skill.Addresses battle id (battle.role target) ∧ ¬ (battle.role target).ExemptFromBad ∧
    skill.Covers battle id (battle.positionOf target)

end Areas

section Hits

variable (battle : PKPE) (id : Int)

/-- The routine lets the role pass its tests. -/
def tests (target : Int) : AreaSkill → Bool
  | skillProcess204Buffer _ => (battle.role id).Strikes (battle.role target) ∧
      Near (battle.positionOf id) (battle.positionOf target) 9
  | skillProcess207Effect targetPos _ => (battle.role id).Curses (battle.role target) ∧
      Near targetPos (battle.positionOf target) 9
  | skillProcess209Buffer p209Buffer => (battle.role id).Fights (battle.role target) ∧
      Near (battle.positionOf id) (battle.positionOf target) (radiusOf p209Buffer.level)
  | skillProcess210Buffer _ p210Buffer => GoesOff battle p210Buffer ∧
      (battle.role id).Curses (battle.role target) ∧
      Near (battle.positionOf id) (battle.positionOf target) 9
  | skillProcess211 order level => (spikes battle id order level).any fun endPos =>
      (battle.role target).opposition ≠ (battle.role id).opposition ∧
        ¬ (battle.role target).ExemptFromBad ∧
        pnt2SegmentDistSquare (battle.positionOf id) endPos (battle.positionOf target) < 4
  | skillProcess219Effect tmpBuff => (battle.role id).Curses (battle.role target) ∧
      (((battle.positionOf target).x - (rainPos tmpBuff).x).natAbs : Int) ≤
        radiusOf tmpBuff.level ∧
      ((battle.positionOf target).y - (rainPos tmpBuff).y).natAbs ≤ 5 ∧
      distSquare (battle.positionOf target) (rainPos tmpBuff) ≤
        radiusOf tmpBuff.level * radiusOf tmpBuff.level
  | skillProcess220 _ level => (battle.role id).Curses (battle.role target) ∧
      Near (battle.positionOf id) (battle.positionOf target) (rangeOf level * rangeOf level)
  | skillProcess221 _ _ => (battle.role id).Helps (battle.role target)
  | skillProcess223Effect targetPos opposition _ => (battle.role target).live ≠ .dead ∧
      (battle.role target).opposition ≠ opposition ∧ ¬ (battle.role target).ExemptFromBad ∧
      Near targetPos (battle.positionOf target) 9
  | skillProcess229 _ level => (battle.role id).Curses (battle.role target) ∧
      Near (battle.positionOf id) (battle.positionOf target) (radiusOf level)

/-- The passes of the loop of a routine. -/
def passes (skill : AreaSkill) : List Int := battle.ids.filter fun target => skill.tests battle id target

/-- The role that a pass hits. -/
def receiver (target : Int) : AreaSkill → Int
  | skillProcess221 _ _ => id
  | _ => target

/-- The roles that get the hurt or the buff. -/
def hits (skill : AreaSkill) : List Int :=
  (skill.passes battle id).map fun target => skill.receiver id target

/-- The state before the loop. -/
def start : AreaSkill → PKPE
  | skillProcess210Buffer index p210Buffer =>
      if GoesOff battle p210Buffer then
        (battle.rand.2.send (.bufferRun id .fanJiLuoXuan p210Buffer.beginTime)).modifyRole id
          fun role => role.modifyBuff index fun buff => { buff with parametar2 := 0 }
      else if 10 ≤ p210Buffer.parametar2 then battle.rand.2
      else battle
  | skillProcess211 order level =>
      if (aim battle order).isSome ∧ spikes battle id order level = none then battle.divideByZero
      else battle
  | _ => battle

/-- One pass of the loop. The rain of meteors has no loop of its own. -/
def pass (target : Int) (battle : PKPE) : AreaSkill → PKPE
  | skillProcess204Buffer hurtValue =>
      PKPE.calculateSkillHurt target (battle.role id).level hurtValue .jianRenFengBao battle
  | skillProcess207Effect _ level =>
      let keepTime := byLevel level 20 [20, 25, 30, 35, 40, 50]
      let hurtValue := byLevel level 100 [100, 200, 300, 400, 500, 600]
      let battle := PKPE.updataBuffer target
        (Buff.new .xuanYun .fengBaoZhiChui level battle.fragmentNow keepTime false true) battle
      PKPE.calculateSkillHurt target (battle.role id).level hurtValue .fengBaoZhiChui battle
  | skillProcess209Buffer p209Buffer =>
      PKPE.calculateSkillHurt target (battle.role id).level (ushort p209Buffer.parametar2)
        .wuGuangZhiDun battle
  | skillProcess210Buffer _ p210Buffer =>
      PKPE.calculateSkillHurt target (battle.role id).level p210Buffer.parametar1 .fanJiLuoXuan
        battle
  | skillProcess211 _ level =>
      let noallTime := byLevel level 10 [10, 15, 20, 25, 30, 40]
      let hurt := byLevel level 100 [100, 150, 200, 250, 300, 500]
      let battle := PKPE.updataBuffer target
        (Buff.new .xuanYun .diCi level battle.fragmentNow noallTime false true) battle
      PKPE.calculateSkillHurt target (battle.role id).level hurt .diCi battle
  | skillProcess219Effect _ => battle
  | skillProcess220 _ level =>
      let lastTime := byLevel level 20 [20, 20, 30, 30, 40, 40]
      let hurt := byLevel level 50 [50, 50, 50, 50, 50, 500]
      let battle := PKPE.updataBuffer target
        (Buff.new .xuanYun .zhanZhengJianTa level battle.fragmentNow lastTime false true) battle
      PKPE.calculateSkillHurt target (battle.role id).level hurt .zhanZhengJianTa battle
  | skillProcess221 _ level =>
      let param1 := byLevel level 5 [5, 10, 15, 20, 25, 30]
      PKPE.updataBuffer id
        { Buff.new .armor .nuHou level battle.fragmentNow 100 true true with
          effecttype := .relative
          parametar1 := ((battle.role target).physicalAttrib.defenseArmorBase *
            param1).tdiv 100 } battle
  | skillProcess223Effect _ _ level =>
      let moveParam : Int := byLevel level (-20) [-20, -25, -30, -35, -40, -45]
      let hitParam : Int := byLevel level (-5) [-5, -10, -15, -20, -25, -30]
      PKPE.updataBuffer target
        { Buff.new .bySkill .zuiJiuYunWu level battle.fragmentNow 60 true true with
          effecttype := .relative
          parametar1 := ((battle.role target).moveAttrb.speedMod * moveParam).tdiv 100
          parametar2 := ((battle.role target).physicalAttrib.attackHit * hitParam).tdiv 100 } battle
  | skillProcess229 _ level =>
      let hurt := byLevel level 100 [100, 200, 250, 350, 400, 600]
      PKPE.calculateSkillHurt target (battle.role id).level hurt .weiKunZhiJian battle

/-- The skill hits the roles one after the other. -/
def hitAll (targets : List Int) (battle : PKPE) : AreaSkill → PKPE
  | skillProcess219Effect tmpBuff =>
      if targets = [] then battle
      else
        PKPE.calculateMultiSkillHurt (targets.map fun target => (target, short tmpBuff.parametar1))
          (battle.role id).level .liuXingHuoYU battle
  | skill => targets.foldl (fun battle target => skill.pass id target battle) battle

/-- The roles that are hit are the eligible ones, and every other role keeps its health and its
buffs. -/
structure HitsExactly (skill : AreaSkill) : Prop where
  hits : ∀ target, target ∈ skill.hits battle id ↔
    target ∈ battle.ids ∧ skill.Eligible battle id target
  others : ∀ other, ¬ (other ∈ battle.ids ∧ skill.Eligible battle id other) →
    ((skill.run id battle).role other).hp = ((skill.start battle id).role other).hp ∧
      ((skill.run id battle).role other).multimapBuff =
        ((skill.start battle id).role other).multimapBuff

/-- The tests of the routine decide about the role as they should. -/
def DecidesWell (target : Int) : AreaSkill → Prop
  | skillProcess204Buffer _ => (battle.role id).Fights (battle.role target) →
      ((battle.positionOf id).InCircle (battle.positionOf target) 3 →
        (0 < (battle.role target).physicalAttrib.exemptCounter ↔
          (battle.role target).ExemptFromBad)) ∧
      (¬ 0 < (battle.role target).physicalAttrib.exemptCounter →
        ¬ (battle.positionOf id).Wraps (battle.positionOf target) 3)
  | skillProcess207Effect targetPos _ => (battle.role id).Curses (battle.role target) →
      ¬ targetPos.Wraps (battle.positionOf target) 3
  | skillProcess209Buffer p209Buffer => (battle.role id).Fights (battle.role target) →
      (Near (battle.positionOf id) (battle.positionOf target) (radiusOf p209Buffer.level) ↔
        ¬ (battle.role target).ExemptFromBad ∧
          (battle.positionOf id).InCircle (battle.positionOf target) (radiusOf p209Buffer.level))
  | skillProcess210Buffer _ p210Buffer => GoesOff battle p210Buffer →
      (battle.role id).Curses (battle.role target) →
        ¬ (battle.positionOf id).Wraps (battle.positionOf target) 3
  | skillProcess211 order level => (battle.role target).live = .dead →
      (battle.role target).opposition ≠ (battle.role id).opposition →
        ¬ (battle.role target).ExemptFromBad →
          ¬ (skillProcess211 order level).Covers battle id (battle.positionOf target)
  | skillProcess219Effect tmpBuff => (battle.role id).Curses (battle.role target) →
      (rainPos tmpBuff).InCircle (battle.positionOf target) (radiusOf tmpBuff.level) →
        ((battle.positionOf target).y - (rainPos tmpBuff).y).natAbs ≤ 5
  | skillProcess220 _ level => (battle.role id).Curses (battle.role target) →
      ¬ (battle.positionOf id).Wraps (battle.positionOf target) (rangeOf level)
  | skillProcess221 _ _ => (battle.role id).Helps (battle.role target) →
      ((battle.role id).live ≠ .dead ∧ ¬ (battle.role id).ExemptFromBad) ∧
        (¬ (battle.role target).ExemptFromBad → target = id)
  | skillProcess223Effect targetPos opposition _ => (battle.role target).live ≠ .dead →
      (battle.role target).opposition ≠ opposition → ¬ (battle.role target).ExemptFromBad →
        ¬ targetPos.Wraps (battle.positionOf target) 3
  | skillProcess229 _ level => (battle.role id).Curses (battle.role target) →
      (Near (battle.positionOf id) (battle.positionOf target) (radiusOf level) ↔
        (battle.positionOf id).InCircle (battle.positionOf target) (radiusOf level))

end Hits

end AreaSkill

namespace PKPE

section Loops

variable {first : PKPE} {id : Int}

/-- A fact that every pass keeps may decide the tests of a loop. -/
theorem foldl_decided {test : PKPE → Int → Bool} {body : Int → PKPE → PKPE} {chosen : Int → Bool}
    (fact : List Int → PKPE → Prop)
    (known : ∀ target rest state, fact (target :: rest) state → test state target = chosen target)
    (kept : ∀ target rest state, fact (target :: rest) state →
      fact rest (if chosen target then body target state else state)) (rest : List Int) :
    ∀ state, fact rest state →
      rest.foldl (fun state target => if test state target then body target state else state)
        state = (rest.filter chosen).foldl (fun state target => body target state) state := by
  induction rest with
  | nil => exact fun _ _ => rfl
  | cons target rest ih =>
      intro state holds
      have next := kept target rest state holds
      rw [List.foldl_cons, known target rest state holds]
      by_cases pass : chosen target = true
      · rw [if_pos pass] at next ⊢
        rw [List.filter_cons_of_pos pass, List.foldl_cons]
        exact ih _ next
      · rw [if_neg pass] at next ⊢
        rw [List.filter_cons_of_neg pass]
        exact ih _ next

/-- A loop whose tests do not depend on the earlier passes hits the roles that pass at its start. -/
theorem forRoles_eq_foldl (test : PKPE → Int → Bool) {body : Int → PKPE → PKPE}
    (watched : Int → Prop) (nodup : first.ids.Nodup)
    (own : ∀ target state other, other ≠ target →
      (body target state).role other = state.role other)
    (unhit : ∀ target, test first target = true → ¬ watched target)
    (stable : ∀ state target, (∀ other, other = target ∨ watched other →
      state.role other = first.role other) → test state target = test first target) :
    first.forRoles (fun target state => if test state target then body target state else state) =
      (first.ids.filter (test first)).foldl (fun state target => body target state) first := by
  refine foldl_decided (fun rest state => rest.Nodup ∧ ∀ other, other ∈ rest ∨ watched other →
    state.role other = first.role other) ?_ ?_ first.ids first ⟨nodup, fun _ _ => rfl⟩
  · intro target rest state holds
    exact stable state target fun other either =>
      holds.2 other (either.imp_left fun equal => List.mem_cons.mpr (.inl equal))
  · intro target rest state ⟨nodup, same⟩
    obtain ⟨fresh, nodup⟩ := List.nodup_cons.mp nodup
    refine ⟨nodup, fun other either => ?_⟩
    have before := same other (either.imp_left (List.mem_cons_of_mem target))
    split
    · next chosen =>
        have differs : other ≠ target := by
          rintro rfl
          exact either.elim fresh (unhit other chosen)
        rw [own target state other differs, before]
    · exact before

/-- A role that no pass hits stays as it was. -/
theorem foldl_of_not_mem {body : Int → PKPE → PKPE} (receiver : Int → Int)
    (own : ∀ target state other, other ≠ receiver target →
      (body target state).role other = state.role other) {other : Int} (targets : List Int) :
    ∀ state : PKPE, other ∉ targets.map receiver →
      (targets.foldl (fun state target => body target state) state).role other =
        state.role other := by
  induction targets with
  | nil => exact fun _ _ => rfl
  | cons target targets ih =>
      intro state free
      rw [List.map_cons, List.mem_cons, not_or] at free
      rw [List.foldl_cons, ih _ free.2, own target state other free.1]

theorem multiHurtOne_of_ne (target : Int × Int) (state : Int × PKPE) {other : Int}
    (differs : other ≠ target.1) :
    (multiHurtOne target state).2.role other = state.2.role other := by
  obtain ⟨deadOpp, battle⟩ := state
  by_cases member : target.1 ∈ battle.ids
  · unfold multiHurtOne
    dsimp only
    rw [if_neg (not_not.mpr member)]
    split
    · rw [send_toRoles, modifyRole_of_ne _ _ _ _ differs, modifyRole_of_ne _ _ _ _ differs]
    · exact modifyRole_of_ne _ _ _ _ differs
  · rw [multiHurtOne_missing _ _ _ member]

theorem calculateMultiSkillHurt_of_not_mem (targets : List (Int × Int)) (attackLevel : Int)
    (effect : SkillType) {other : Int} (free : other ∉ targets.map Prod.fst) :
    (calculateMultiSkillHurt targets attackLevel effect first).role other = first.role other := by
  have struck : ∀ (targets : List (Int × Int)) (state : Int × PKPE),
      other ∉ targets.map Prod.fst →
        (targets.foldl (fun state target => multiHurtOne target state) state).2.role other =
          state.2.role other := by
    intro targets
    induction targets with
    | nil => exact fun _ _ => rfl
    | cons target targets ih =>
        intro state free
        rw [List.map_cons, List.mem_cons, not_or] at free
        rw [List.foldl_cons, ih _ free.2, multiHurtOne_of_ne target state free.1]
  have hurt (targets : List (Int × Int)) (state : Int × PKPE)
      (free : other ∉ targets.map Prod.fst) : (if targets = [] then
        (targets.foldl (fun state target => multiHurtOne target state) state).2
        else (targets.foldl (fun state target => multiHurtOne target state) state).2.send
          (.multiHurt targets effect)).role other = state.2.role other := by
    split
    · exact struck targets state free
    · rw [send_toRoles]
      exact struck targets state free
  have keys (scale : Int × Int → Int) : (targets.map fun target =>
      (target.1, scale target)).map Prod.fst = targets.map Prod.fst := by
    rw [List.map_map]
    rfl
  unfold calculateMultiSkillHurt
  dsimp only
  have free' := keys (fun target => if target.1 ∈ first.ids then
    (first.role target.1).skillHurt attackLevel target.2 else target.2) ▸ free
  split
  · rw [(checkOver_onlyEnds _ _).roles]
    exact hurt _ _ free'
  · exact hurt _ _ free'

end Loops

end PKPE

namespace AreaSkill
open PKPE

section Runs

variable {battle : PKPE} {id : Int}

/-- A pass changes the role that it hits. -/
theorem pass_of_ne (skill : AreaSkill) (target : Int) (state : PKPE) (other : Int)
    (differs : other ≠ skill.receiver id target) :
    (skill.pass id target state).role other = state.role other := by
  have hurt (state : PKPE) (differs : other ≠ target) (attackLevel hurtValue : Int)
      (effect : SkillType) : (PKPE.calculateSkillHurt target attackLevel hurtValue effect
        state).role other = state.role other := loseHp_of_ne _ _ differs
  cases skill with
  | skillProcess204Buffer | skillProcess209Buffer | skillProcess210Buffer | skillProcess229 =>
      exact hurt state differs _ _ _
  | skillProcess207Effect | skillProcess211 | skillProcess220 =>
      exact (hurt _ differs _ _ _).trans (updataBuffer_of_ne differs)
  | skillProcess219Effect => rfl
  | skillProcess221 | skillProcess223Effect => exact updataBuffer_of_ne differs

/-- A role that is not hit stays as it was before the loop. -/
theorem hitAll_of_not_mem (skill : AreaSkill) {other : Int} (targets : List Int)
    (free : other ∉ targets.map fun target => skill.receiver id target) (state : PKPE) :
    (skill.hitAll id targets state).role other = state.role other := by
  have loop := foldl_of_not_mem (fun target => skill.receiver id target) skill.pass_of_ne targets
    state free
  cases skill with
  | skillProcess219Effect tmpBuff =>
      dsimp only [hitAll]
      split
      · rfl
      · refine calculateMultiSkillHurt_of_not_mem _ _ _ ?_
        rw [List.map_map]
        exact free
  | _ => exact loop

theorem onLine_eq (order : RoleOrder) (body : Pos → PKPE → PKPE) :
    battle.onLine order body = (aim battle order).elim battle fun tempPos => body tempPos battle := by
  unfold onLine onTarget aim
  split
  · rfl
  · cases battle.find order.targetRoleID <;> rfl

section Loop

variable {first : PKPE} (nodup : first.ids.Nodup)
include nodup

/-- The caster is not on the side that its skill hits. -/
theorem casterLoop_eq {select : RoleState → RoleState → Bool} {body : Int → PKPE → PKPE}
    (own : ∀ target state other, other ≠ target →
      (body target state).role other = state.role other)
    (enemy : ∀ role passive, select role passive = true → passive.opposition ≠ role.opposition) :
    first.forRoles (fun target state =>
      if select (state.role id) (state.role target) then body target state else state) =
      (first.ids.filter fun target => select (first.role id) (first.role target)).foldl
        (fun state target => body target state) first := by
  refine forRoles_eq_foldl (fun state target => select (state.role id) (state.role target))
    (fun other => other = id) nodup own ?_ ?_
  · rintro target chosen rfl
    exact enemy _ _ chosen rfl
  · intro state target same
    rw [same id (.inr rfl), same target (.inl rfl)]

variable (id) (select : RoleState → RoleState → Bool) (enemy : ∀ role passive,
  select role passive = true → passive.opposition ≠ role.opposition)
include enemy

theorem hurtLoop_eq (hurtValue : Int) (effect : SkillType) :
    forSelected id select (fun target state =>
      calculateSkillHurt target (state.role id).level hurtValue effect state) first =
      (first.ids.filter fun target => select (first.role id) (first.role target)).foldl
        (fun state target => calculateSkillHurt target (state.role id).level hurtValue effect state)
          first :=
  casterLoop_eq nodup (fun _ _ _ differs => loseHp_of_ne _ _ differs) enemy

theorem stunLoop_eq (stun : PKPE → Buff) (hurtValue : Int) (effect : SkillType) :
    forSelected id select (fun target state =>
      calculateSkillHurt target ((updataBuffer target (stun state) state).role id).level hurtValue
        effect (updataBuffer target (stun state) state)) first =
      (first.ids.filter fun target => select (first.role id) (first.role target)).foldl
        (fun state target =>
          calculateSkillHurt target ((updataBuffer target (stun state) state).role id).level
            hurtValue effect (updataBuffer target (stun state) state)) first :=
  casterLoop_eq nodup (fun _ _ _ differs =>
    (loseHp_of_ne _ _ differs).trans (updataBuffer_of_ne differs)) enemy

end Loop

/-- The bad magic of a caster reaches the roles near a place. -/
def cursesNear (place : RoleState → Pos) (bound : Int) (role passive : RoleState) : Bool :=
  role.Curses passive ∧ Near (place role) passive.moveAttrb.currentPos bound

theorem cursesNear_enemy (place : RoleState → Pos) (bound : Int) (role passive : RoleState)
    (chosen : cursesNear place bound role passive = true) : passive.opposition ≠ role.opposition :=
  (of_decide_eq_true chosen).1.1.2

theorem fightsNear_enemy (bound : Int) (role passive : RoleState)
    (chosen : decide (role.Fights passive ∧
      Near role.moveAttrb.currentPos passive.moveAttrb.currentPos bound) = true) :
    passive.opposition ≠ role.opposition :=
  (of_decide_eq_true chosen).1.2

theorem run_209 (nodup : battle.ids.Nodup) (p209Buffer : Buff) :
    (skillProcess209Buffer p209Buffer).run id battle =
      (skillProcess209Buffer p209Buffer).hitAll id
        ((skillProcess209Buffer p209Buffer).passes battle id) battle := by
  refine Eq.trans ?_ (hurtLoop_eq id nodup _ (fightsNear_enemy (radiusOf p209Buffer.level))
    (ushort p209Buffer.parametar2) .wuGuangZhiDun)
  unfold run PKPE.skillProcess209Buffer forSelected
  refine congrArg battle.forRoles (funext fun target => funext fun state => ?_)
  simp only [RoleState.Fights, decide_eq_true_eq, and_assoc, radiusOf]

/-- The counter is reset before the passes, and the passes do not depend on it. -/
theorem run_210 (nodup : battle.ids.Nodup) (index : Nat) (p210Buffer : Buff) :
    (skillProcess210Buffer index p210Buffer).run id battle =
      (skillProcess210Buffer index p210Buffer).hitAll id
        ((skillProcess210Buffer index p210Buffer).passes battle id)
        ((skillProcess210Buffer index p210Buffer).start battle id) := by
  have sameRand : battle.rand.2.toRoles = battle.toRoles := by
    unfold rand
    split <;> rfl
  by_cases goes : GoesOff battle p210Buffer
  · have begun : (skillProcess210Buffer index p210Buffer).start battle id =
        (battle.rand.2.send (.bufferRun id .fanJiLuoXuan p210Buffer.beginTime)).modifyRole id
          fun role => role.modifyBuff index fun buff => { buff with parametar2 := 0 } := if_pos goes
    have runs : (skillProcess210Buffer index p210Buffer).run id battle =
        forSelected id (cursesNear (fun role => role.moveAttrb.currentPos) 9)
          (fun target state => calculateSkillHurt target (state.role id).level
            p210Buffer.parametar1 .fanJiLuoXuan state)
          ((skillProcess210Buffer index p210Buffer).start battle id) := by
      rw [begun]
      exact (if_pos goes.1).trans (if_pos goes.2)
    have ids : ((skillProcess210Buffer index p210Buffer).start battle id).ids = battle.ids := by
      rw [begun]
      show battle.rand.2.ids = battle.ids
      rw [sameRand]
    have calm (other : Int) : ∃ buffs, ((skillProcess210Buffer index p210Buffer).start battle
        id).role other = { battle.role other with multimapBuff := buffs } := by
      rw [begun, ← sameRand]
      by_cases same : other = id
      · subst same
        exact ⟨_, modifyRole_self ..⟩
      · exact ⟨_, modifyRole_of_ne _ _ _ _ same⟩
    rw [runs, hurtLoop_eq id (ids ▸ nodup) _ (cursesNear_enemy _ 9), ids]
    refine congrArg (fun targets => List.foldl _ _ targets)
      (List.filter_congr fun target _ => ?_)
    obtain ⟨first, role⟩ := calm id
    obtain ⟨second, passive⟩ := calm target
    rw [role, passive]
    exact decide_eq_decide.mpr (and_iff_right goes).symm
  · have none : (skillProcess210Buffer index p210Buffer).passes battle id = [] :=
      List.filter_eq_nil_iff.mpr fun target _ chosen => goes (of_decide_eq_true chosen).1
    rw [none]
    by_cases charged : 10 ≤ p210Buffer.parametar2
    · refine ((if_pos charged).trans (if_neg fun drawn => goes ⟨charged, drawn⟩)).trans ?_
      exact ((if_neg goes).trans (if_pos charged)).symm
    · exact (if_neg charged).trans ((if_neg goes).trans (if_neg charged)).symm

theorem run_211 (nodup : battle.ids.Nodup) (order : RoleOrder) (level : Int) :
    (skillProcess211 order level).run id battle =
      (skillProcess211 order level).hitAll id ((skillProcess211 order level).passes battle id)
        ((skillProcess211 order level).start battle id) := by
  have passes (found : spikes battle id order level = none) :
      (skillProcess211 order level).passes battle id = [] :=
    List.filter_eq_nil_iff.mpr fun target _ chosen => by simp [tests, found] at chosen
  show PKPE.skillProcess211 id order level battle = _
  unfold PKPE.skillProcess211
  rw [onLine_eq]
  cases aimed : aim battle order with
  | none =>
      have none : spikes battle id order level = none := by
        rw [spikes, aimed]
        rfl
      have begun : (skillProcess211 order level).start battle id = battle :=
        if_neg fun both => by simp [aimed] at both
      rw [passes none, begun]
      rfl
  | some tempPos =>
      have spiked : spikes battle id order level = spikesEnd (battle.positionOf id) tempPos
          (byLevel level 3 [3, 3, 5, 5, 7, 7]) := by
        rw [spikes, aimed]
        rfl
      dsimp only [Option.elim_some]
      rw [← spiked]
      split
      · next none =>
          have begun : (skillProcess211 order level).start battle id = battle.divideByZero :=
            if_pos ⟨by rw [aimed]; rfl, none⟩
          rw [passes none, begun]
          rfl
      · next endPos found =>
          have begun : (skillProcess211 order level).start battle id = battle :=
            if_neg fun both => by simp [found] at both
          rw [begun]
          refine (stunLoop_eq id nodup _ (fun role passive chosen => ?_) (fun state =>
            Buff.new .xuanYun .diCi level state.fragmentNow
              (byLevel level 10 [10, 15, 20, 25, 30, 40]) false true)
              (byLevel level 100 [100, 150, 200, 250, 300, 500]) .diCi).trans ?_
          · exact (of_decide_eq_true chosen).1
          · refine congrArg (fun targets => List.foldl _ _ targets) (List.filter_congr fun target _ => ?_)
            simp only [tests, found, Option.any_some]
            rfl

theorem run_223 (nodup : battle.ids.Nodup) (targetPos : Pos) (opposition level : Int) :
    (skillProcess223Effect targetPos opposition level).run id battle =
      (skillProcess223Effect targetPos opposition level).hitAll id
        ((skillProcess223Effect targetPos opposition level).passes battle id) battle := by
  refine Eq.trans ?_ (forRoles_eq_foldl (fun state target =>
    (skillProcess223Effect targetPos opposition level).tests state id target) (fun _ => False) nodup
      (fun target state other differs =>
        (skillProcess223Effect targetPos opposition level).pass_of_ne target state other differs)
      (fun _ _ => not_false) fun state target same => ?_)
  · unfold run PKPE.skillProcess223Effect
    refine congrArg battle.forRoles (funext fun target => funext fun state => ?_)
    exact (if_congr decide_eq_true_iff rfl rfl).symm
  · exact decide_eq_decide.mpr (by simp only [positionOf, same target (.inl rfl)])

/-- An armor changes neither the life nor the side of a role. -/
theorem updataBuffer_side (battle : PKPE) {buff : Buff} (armor : buff.type = .armor) (skill : buff.parentSkill = .nuHou)
    (receiver other : Int) :
    ((updataBuffer receiver buff battle).role other).live = (battle.role other).live ∧
      ((updataBuffer receiver buff battle).role other).opposition =
        (battle.role other).opposition := by
  refine ⟨updataBuffer_live (by rw [skill]; decide), ?_⟩
  by_cases same : other = receiver
  · subst same
    have effect (role : RoleState) (check : Option Nat) :
        (role.updataEffect 1 check buff).opposition = role.opposition := by
      have replaced (undo : Buff → RoleState → RoleState) (store : Buff → Buff)
          (kept : ∀ old, (undo old role).opposition = role.opposition) :
          (role.replace check undo store).opposition = role.opposition := by
        unfold RoleState.replace
        split
        · rfl
        · split
          · rfl
          · exact kept _
      unfold RoleState.updataEffect
      rw [armor]
      exact replaced _ _ fun _ => rfl
    have refreshed (state : PKPE) (index : Nat) :
        ((state.refreshed other index buff).role other).opposition =
          (state.role other).opposition := by
      unfold PKPE.refreshed
      rw [sendSkillBuffer_toRoles, modifyRole_self]
      rfl
    have interrupted (state : PKPE) :
        ((state.interrupted other buff).role other).opposition = (state.role other).opposition := by
      unfold PKPE.interrupted
      rw [if_neg (by rw [armor]; decide), sendSkillBuffer_toRoles]
    rw [updataBuffer_eq]
    dsimp only
    split
    · rfl
    · exact refreshed _ _
    · rw [modifyRole_self, effect]
      exact refreshed _ _
    · rw [modifyRole_self, effect]
      exact interrupted _
  · rw [updataBuffer_of_ne same]

theorem run_221 (order : RoleOrder) (level : Int) :
    (skillProcess221 order level).run id battle =
      (skillProcess221 order level).hitAll id ((skillProcess221 order level).passes battle id)
        battle := by
  refine foldl_decided (fun _ state => ∀ other, (state.role other).live = (battle.role other).live ∧
    (state.role other).opposition = (battle.role other).opposition) ?_ ?_ battle.ids battle
      fun _ => ⟨rfl, rfl⟩
  · intro target rest state sides
    refine decide_eq_decide.mpr ?_
    unfold RoleState.Helps
    rw [(sides target).1, (sides target).2, (sides id).2]
  · intro target rest state sides other
    split
    · have kept : (((skillProcess221 order level).pass id target state).role other).live =
          (state.role other).live ∧
          (((skillProcess221 order level).pass id target state).role other).opposition =
            (state.role other).opposition := updataBuffer_side state rfl rfl id other
      exact ⟨kept.1.trans (sides other).1, kept.2.trans (sides other).2⟩
    · exact sides other

variable (id) in
/-- The routine hits the roles of its passes. -/
theorem run_eq (nodup : battle.ids.Nodup) (skill : AreaSkill) : skill.run id battle =
    skill.hitAll id (skill.passes battle id) (skill.start battle id) := by
  cases skill with
  | skillProcess204Buffer hurtValue =>
      refine hurtLoop_eq id nodup (fun role passive => role.Strikes passive ∧
        Near role.moveAttrb.currentPos passive.moveAttrb.currentPos 9) (fun role passive chosen => ?_)
          hurtValue .jianRenFengBao
      exact (of_decide_eq_true chosen).1.1.2
  | skillProcess207Effect targetPos level =>
      exact stunLoop_eq id nodup _ (cursesNear_enemy (fun _ => targetPos) 9) (fun state =>
        Buff.new .xuanYun .fengBaoZhiChui level state.fragmentNow
          (byLevel level 20 [20, 25, 30, 35, 40, 50]) false true)
          (byLevel level 100 [100, 200, 300, 400, 500, 600]) .fengBaoZhiChui
  | skillProcess209Buffer p209Buffer => exact run_209 nodup p209Buffer
  | skillProcess210Buffer index p210Buffer => exact run_210 nodup index p210Buffer
  | skillProcess211 order level => exact run_211 nodup order level
  | skillProcess219Effect tmpBuff => rfl
  | skillProcess220 order level =>
      exact stunLoop_eq id nodup _ (cursesNear_enemy (fun role => role.moveAttrb.currentPos)
        (rangeOf level * rangeOf level)) (fun state =>
        Buff.new .xuanYun .zhanZhengJianTa level state.fragmentNow
          (byLevel level 20 [20, 20, 30, 30, 40, 40]) false true)
          (byLevel level 50 [50, 50, 50, 50, 50, 500]) .zhanZhengJianTa
  | skillProcess221 order level => exact run_221 order level
  | skillProcess223Effect targetPos opposition level =>
      exact run_223 nodup targetPos opposition level
  | skillProcess229 order level =>
      exact hurtLoop_eq id nodup _ (cursesNear_enemy (fun role => role.moveAttrb.currentPos)
        (radiusOf level)) _ .weiKunZhiJian

theorem mem_hits {skill : AreaSkill} (own : ∀ target, skill.receiver id target = target)
    (target : Int) : target ∈ skill.hits battle id ↔
      target ∈ battle.ids ∧ skill.tests battle id target = true := by
  unfold hits
  simp only [own, List.map_id']
  exact List.mem_filter

theorem radius_small (level : Int) : 0 ≤ radiusOf level ∧ radiusOf level ≤ 7 ∧
    0 ≤ rangeOf level ∧ rangeOf level ≤ 7 := by
  have radius := byLevel_mem level (3 : Int) [3, 3, 5, 5, 7, 7]
  have range := byLevel_mem level (3 : Int) [3, 5, 5, 7, 7, 7]
  simp only [List.mem_cons, List.not_mem_nil, or_false] at radius range
  unfold radiusOf rangeOf
  omega

theorem inCircle_iff_distSquare {centre pos : Pos} {radius : Int} :
    centre.InCircle pos radius ↔ distSquare pos centre ≤ radius * radius := by
  unfold Pos.InCircle distSquare
  rw [← neg_sub pos.x, ← neg_sub pos.y, neg_sq, neg_sq, sq radius]

theorem column_of_inCircle {centre pos : Pos} {radius : Int} (inside : centre.InCircle pos radius)
    (nonneg : 0 ≤ radius) : ((pos.x - centre.x).natAbs : Int) ≤ radius := by
  have rows := sq_nonneg (centre.y - pos.y)
  have columns : (centre.x - pos.x) ^ 2 ≤ radius ^ 2 := by
    unfold Pos.InCircle at inside
    linarith
  have column := abs_le_of_sq_le_sq' columns nonneg
  omega

/-- A routine decides about a role as it should exactly in these cases. -/
theorem decidesWell_iff {skill : AreaSkill} (own : ∀ target, skill.receiver id target = target)
    (target : Int) : (skill.tests battle id target = true ↔ skill.Eligible battle id target) ↔
      skill.DecidesWell battle id target := by
  have nine {centre : Pos} : Near centre (battle.positionOf target) 9 ↔
      Near centre (battle.positionOf target) (3 ^ 2) := Iff.rfl
  have near {centre : Pos} {radius : Int} (small : radius ≤ 7) (nonneg : 0 ≤ radius)
      (inside : centre.InCircle (battle.positionOf target) radius) :
      Near centre (battle.positionOf target) (radius ^ 2) := inside.near small nonneg
  have three : (3 : Int) ≤ 7 := by decide
  have nonneg : (0 : Int) ≤ 3 := by decide
  cases skill with
  | skillProcess204Buffer hurtValue =>
      have inside := @near (battle.positionOf id) 3 three nonneg
      simp only [tests, Eligible, DecidesWell, Addresses, Covers, decide_eq_true_eq, nine,
        RoleState.Strikes, Pos.Wraps]
      grind
  | skillProcess207Effect targetPos level =>
      have inside := @near targetPos 3 three nonneg
      simp only [tests, Eligible, DecidesWell, Addresses, Covers, decide_eq_true_eq, nine,
        RoleState.Curses, Pos.Wraps]
      grind
  | skillProcess209Buffer p209Buffer =>
      simp only [tests, Eligible, DecidesWell, Addresses, Covers, decide_eq_true_eq]
      grind
  | skillProcess210Buffer index p210Buffer =>
      have inside := @near (battle.positionOf id) 3 three nonneg
      simp only [tests, Eligible, DecidesWell, Addresses, Covers, decide_eq_true_eq, nine,
        RoleState.Curses, Pos.Wraps]
      grind
  | skillProcess211 order level =>
      simp only [tests, Eligible, DecidesWell, Addresses, Covers, Option.any_eq_true,
        decide_eq_true_eq, RoleState.Fights, Option.mem_def]
      cases spikes battle id order level with
      | none => simp
      | some endPos => 
        simp
        grind
  | skillProcess219Effect tmpBuff =>
      have column := @column_of_inCircle (rainPos tmpBuff) (battle.positionOf target)
        (radiusOf tmpBuff.level)
      have nonneg := (radius_small tmpBuff.level).1
      simp only [tests, Eligible, DecidesWell, Addresses, Covers, decide_eq_true_eq,
        RoleState.Curses, ← inCircle_iff_distSquare]
      grind
  | skillProcess220 order level =>
      have inside := @near (battle.positionOf id) (rangeOf level) (radius_small level).2.2.2
        (radius_small level).2.2.1
      simp only [tests, Eligible, DecidesWell, Addresses, Covers, decide_eq_true_eq, ← sq,
        RoleState.Curses, Pos.Wraps]
      grind
  | skillProcess221 order level => exact absurd (own (id + 1)) (by simp [receiver])
  | skillProcess223Effect targetPos opposition level =>
      have inside := @near targetPos 3 three nonneg
      simp only [tests, Eligible, DecidesWell, Addresses, Covers, decide_eq_true_eq, nine, Pos.Wraps]
      grind
  | skillProcess229 order level =>
      simp only [tests, Eligible, DecidesWell, Addresses, Covers, RoleState.Curses]
      grind

/-- The armor of the helpers goes to the caster. -/
theorem hits_221_iff (member : id ∈ battle.ids) (order : RoleOrder) (level : Int) :
    (∀ target, target ∈ (skillProcess221 order level).hits battle id ↔
      target ∈ battle.ids ∧ (skillProcess221 order level).Eligible battle id target) ↔
    ∀ target ∈ battle.ids, (skillProcess221 order level).DecidesWell battle id target := by
  have hit (target : Int) : target ∈ (skillProcess221 order level).hits battle id ↔
      (∃ helper ∈ battle.ids, (battle.role id).Helps (battle.role helper)) ∧ target = id := by
    simp only [hits, passes, receiver, tests, List.mem_map, List.mem_filter, decide_eq_true_eq]
    constructor
    · rintro ⟨helper, ⟨listed, helps⟩, rfl⟩
      exact ⟨⟨helper, listed, helps⟩, rfl⟩
    · rintro ⟨⟨helper, listed, helps⟩, rfl⟩
      exact ⟨helper, ⟨listed, helps⟩, rfl⟩
  constructor
  · intro exact target listed helps
    have caster := (exact id).mp ((hit id).mpr ⟨⟨target, listed, helps⟩, rfl⟩)
    refine ⟨⟨caster.2.1.1, caster.2.2.1⟩, fun open' => ?_⟩
    exact ((hit target).mp ((exact target).mpr ⟨listed, helps, open', trivial⟩)).2
  · intro well target
    rw [hit]
    constructor
    · rintro ⟨⟨helper, listed, helps⟩, rfl⟩
      have caster := (well helper listed helps).1
      exact ⟨member, ⟨caster.1, rfl⟩, caster.2, trivial⟩
    · rintro ⟨listed, helps, open', -⟩
      exact ⟨⟨target, listed, helps⟩, (well target listed helps).2 open'⟩

end Runs

/-- Every routine applies its hurt or its buff to the roles of its passes. These are the eligible
roles, and the others keep their health and their buffs, exactly when its tests decide well about
every role of the battle. -/
theorem hitsExactly_iff {battle : PKPE} {id : Int} (nodup : battle.ids.Nodup)
    (member : id ∈ battle.ids) (skill : AreaSkill) :
    skill.run id battle =
      skill.hitAll id (skill.passes battle id) (skill.start battle id) ∧
    (skill.HitsExactly battle id ↔ ∀ target ∈ battle.ids, skill.DecidesWell battle id target) := by
  have ran := run_eq id nodup skill
  have hits : (∀ target, target ∈ skill.hits battle id ↔
      target ∈ battle.ids ∧ skill.Eligible battle id target) ↔
        ∀ target ∈ battle.ids, skill.DecidesWell battle id target := by
    have each (own : ∀ target, skill.receiver id target = target) :
        (∀ target, target ∈ skill.hits battle id ↔
          target ∈ battle.ids ∧ skill.Eligible battle id target) ↔
            ∀ target ∈ battle.ids, skill.DecidesWell battle id target := by
      refine forall_congr' fun target => ?_
      rw [mem_hits own, and_congr_right_iff, decidesWell_iff own]
    cases skill with
    | skillProcess221 order level => exact hits_221_iff member order level
    | _ => exact each fun _ => rfl
  refine ⟨ran, fun exact => hits.mp exact.hits, fun well => ⟨hits.mpr well, fun other free => ?_⟩⟩
  have missed : other ∉ skill.hits battle id := fun hit => free ((hits.mpr well other).mp hit)
  rw [ran, skill.hitAll_of_not_mem _ missed]
  exact ⟨rfl, rfl⟩

/-- A caster with an enemy two cells away, an exempt and a dead enemy beside it, a far enemy, and an
ally. -/
def crowdedBattle : PKPE :=
  let role (opposition x y exemptBad : Int) (status : RoleStatus) : RoleState :=
    { (default : RoleState) with
      opposition := opposition
      live := status
      moveAttrb := { (default : MoveAttr) with currentPos := ⟨x, y⟩ }
      magicAttrb := { (default : MagicAttr) with exemptBadCounter := exemptBad } }
  { PKPE.empty 7 1 (fun _ => false) (fun id =>
      if id = 1 then role 1 10 10 0 .live else if id = 2 then role 4 12 10 0 .live
      else if id = 3 then role 4 11 10 1 .live else if id = 4 then role 4 11 10 0 .dead
      else if id = 5 then role 4 10 16 0 .live else role 1 11 11 0 .live) with
    ids := [1, 2, 3, 4, 5, 6], pkState := .pking }

/-- The stamp hits the enemy that is two cells away, and nobody else. -/
theorem hitsExactly_iff_crowded : (skillProcess220 default 1).HitsExactly crowdedBattle 1 := by
  refine (hitsExactly_iff (by decide) (by decide) _).2.mpr fun target listed _ => ?_
  have straight : ∀ target ∈ crowdedBattle.ids,
      ¬ (crowdedBattle.positionOf 1).Wraps (crowdedBattle.positionOf target) 3 := by decide
  exact straight target listed

/-- The storm hurts an exempt enemy, the shield and the arrow miss the enemy two cells away, the
spikes hit the dead one, the meteors miss the enemy six rows away, and the armor of the ally goes to
the caster. -/
theorem crowded_not_hitsExactly :
    ¬ (skillProcess204Buffer 100).HitsExactly crowdedBattle 1 ∧
    ¬ (skillProcess209Buffer (Buff.new .bySkill .wuGuangZhiDun 1 0 50 true true)).HitsExactly
        crowdedBattle 1 ∧
    ¬ (skillProcess211 ⟨211, 1, ⟨13, 10⟩, 0, 0⟩ 1).HitsExactly crowdedBattle 1 ∧
    ¬ (skillProcess219Effect { Buff.new .castSkill .liuXingHuoYU 5 0 50 false true with
        parametar2 := 510 }).HitsExactly crowdedBattle 1 ∧
    ¬ (skillProcess221 default 1).HitsExactly crowdedBattle 1 ∧
    ¬ (skillProcess229 default 1).HitsExactly crowdedBattle 1 := by
  refine ⟨fun exact => ?_, fun exact => ?_, fun exact => ?_, fun exact => ?_, fun exact => ?_,
    fun exact => ?_⟩
  · have exempt := ((exact.hits 3).mp (by decide)).2.2.1
    exact exempt (by decide)
  · refine absurd ((exact.hits 2).mpr ⟨by decide, ?_⟩) (by decide)
    show (crowdedBattle.role 1).Fights (crowdedBattle.role 2) ∧
      ¬ (crowdedBattle.role 2).ExemptFromBad ∧ Pos.InCircle ⟨10, 10⟩ ⟨12, 10⟩ 3
    decide
  · have alive := ((exact.hits 4).mp (by decide +kernel)).2.1.1
    exact alive (by decide)
  · refine absurd ((exact.hits 5).mpr ⟨by decide, ?_⟩) (by decide)
    show (crowdedBattle.role 1).Fights (crowdedBattle.role 5) ∧
      ¬ (crowdedBattle.role 5).ExemptFromBad ∧ Pos.InCircle ⟨10, 10⟩ ⟨10, 16⟩ 7
    decide
  · refine absurd ((exact.hits 6).mpr ⟨by decide, ?_⟩) (by decide)
    show (crowdedBattle.role 1).Helps (crowdedBattle.role 6) ∧
      ¬ (crowdedBattle.role 6).ExemptFromBad ∧ True
    decide
  · refine absurd ((exact.hits 2).mpr ⟨by decide, ?_⟩) (by decide)
    show (crowdedBattle.role 1).Fights (crowdedBattle.role 2) ∧
      ¬ (crowdedBattle.role 2).ExemptFromBad ∧ Pos.InCircle ⟨10, 10⟩ ⟨12, 10⟩ 3
    decide

end AreaSkill

end AppSvr.PkServer
