/-
This file proves that the search for a path ends with a way back to the start, or finds that there is
no way or that every way is too long.
-/

import AppSvr.Proof.PkServer.PathLines
import Mathlib.Data.Finset.Prod

namespace AppSvr.PkServer
open Relation

/-- A role can walk from a cell to the next one. -/
def Pos.Walks (pkMapBase : Pos → Bool) (cell next : Pos) : Prop :=
  cell.Beside next ∧ next.InMap ∧ pkMapBase next = true

/-- The search ends with the done nodes, or with the nodes that wait too far away. -/
inductive SearchEnd where
  | path (nodes : List PosA)
  | noWay (done : List PosA)
  | tooFar (waiting : List PosA)
  deriving DecidableEq, Repr

def SearchEnd.path? : SearchEnd → Option (List PosA)
  | .path nodes => some nodes
  | .noWay _ | .tooFar _ => none

section Search

variable (pkMapBase : Pos → Bool) (startPos endPos : Pos)

/-- The nodes that the current one adds. -/
def newNodes (waiting done : List PosA) (current : PosA) : List PosA :=
  neighbours.filterMap (expand pkMapBase endPos waiting done current)

/-- The current node moves from the waiting list to the done one. -/
def visit (waiting done : List PosA) (current : PosA) : List PosA × List PosA :=
  let all := waiting ++ newNodes pkMapBase endPos waiting done current
  (all.eraseP fun node => node.node = current.node,
    (all.find? fun node => node.node = current.node).toList ++ done)

/-- This is the search with the lists at its end. -/
def searchEnd : Nat → List PosA → List PosA → PosA → Option SearchEnd
  | 0, _, _, _ => none
  | fuel + 1, waiting, done, current =>
      if current.node = endPos then some (.path (current :: done))
      else
        let (rest, done) := visit pkMapBase endPos waiting done current
        if rest = [] then some (.noWay done)
        else
          let next := cheapest current rest
          if 1000 ≤ next.g then some (.tooFar rest) else searchEnd fuel rest done next

theorem searchPath_succ (fuel : Nat) (waiting done : List PosA) (current : PosA) :
    searchPath pkMapBase endPos (fuel + 1) waiting done current =
      if current.node = endPos then some (current :: done)
      else if (visit pkMapBase endPos waiting done current).1 = [] then none
      else if 1000 ≤ (cheapest current (visit pkMapBase endPos waiting done current).1).g then none
      else searchPath pkMapBase endPos fuel (visit pkMapBase endPos waiting done current).1
        (visit pkMapBase endPos waiting done current).2
        (cheapest current (visit pkMapBase endPos waiting done current).1) := rfl

theorem searchPath_eq (fuel : Nat) (waiting done : List PosA) (current : PosA) :
    searchPath pkMapBase endPos fuel waiting done current =
      (searchEnd pkMapBase endPos fuel waiting done current).bind SearchEnd.path? := by
  induction fuel generalizing waiting done current with
  | zero => rfl
  | succ fuel ih =>
      rw [searchPath_succ, searchEnd]
      dsimp only
      split
      · rfl
      · split
        · rfl
        · split
          · rfl
          · exact ih _ _ _

/-- Both lists hold walkable cells once, and no neighbour of a done cell is missing. -/
structure Searches (waiting done : List PosA) : Prop where
  distinct : ((waiting ++ done).map PosA.node).Nodup
  started : startPos ∈ (waiting ++ done).map PosA.node
  cells : ∀ cell ∈ (waiting ++ done).map PosA.node,
    cell = startPos ∨ cell.InMap ∧ pkMapBase cell = true
  closed : ∀ cell ∈ done.map PosA.node, ∀ next, cell.Walks pkMapBase next →
    next ∈ (waiting ++ done).map PosA.node
  passed : endPos ∉ done.map PosA.node

end Search

section Rounds

variable {pkMapBase : Pos → Bool} {startPos endPos : Pos} {waiting done : List PosA}
  {current : PosA}

theorem searches_start : Searches pkMapBase startPos endPos [⟨startPos, startPos, 0, 0⟩] [] where
  distinct := List.nodup_singleton _
  started := List.mem_singleton_self _
  cells := fun _ member => Or.inl (List.mem_singleton.mp member)
  closed := fun _ member => absurd member List.not_mem_nil
  passed := List.not_mem_nil

/-- The offset of a neighbour is one of the list. -/
theorem mem_neighbours {cell next : Pos} (beside : cell.Beside next) :
    ∃ cost, (next.x - cell.x, next.y - cell.y, cost) ∈ neighbours := by
  obtain ⟨differ, nearX, nearY⟩ := beside
  have horizontal : next.x - cell.x = -1 ∨ next.x - cell.x = 0 ∨ next.x - cell.x = 1 := by omega
  have vertical : next.y - cell.y = -1 ∨ next.y - cell.y = 0 ∨ next.y - cell.y = 1 := by omega
  have apart : ¬ (next.x - cell.x = 0 ∧ next.y - cell.y = 0) := fun same =>
    differ (by
      obtain ⟨x, y⟩ := cell
      obtain ⟨nextX, nextY⟩ := next
      simp only [Pos.mk.injEq] at *
      omega)
  obtain x | x | x := horizontal <;> obtain y | y | y := vertical <;> rw [x, y]
  case inr.inl.inr.inl => exact absurd ⟨x, y⟩ apart
  case inl.inr.inl | inr.inl.inl | inr.inl.inr.inr | inr.inr.inr.inl => exact ⟨10, by decide⟩
  all_goals exact ⟨14, by decide⟩

/-- A new node is walkable and in no list. -/
theorem expand_walks {offset : Int × Int × Int} {node : PosA} (member : offset ∈ neighbours)
    (inside : current.node.InMap)
    (new : expand pkMapBase endPos waiting done current offset = some node) :
    (node.node.InMap ∧ pkMapBase node.node = true) ∧
      node.node ∉ (waiting ++ done).map PosA.node ∧
      node.node = ⟨current.node.x + offset.1, current.node.y + offset.2.1⟩ := by
  obtain ⟨fresh, -, walkable, -, place⟩ := expand_spec new
  refine ⟨⟨(expand_leads member new).2.2 inside, walkable⟩, fun listed => ?_, place⟩
  obtain ⟨other, known, same⟩ := List.mem_map.mp listed
  exact absurd same (of_decide_eq_true (List.all_eq_true.mp fresh other known))

/-- The walkable neighbours are in a list after the visit. -/
theorem mem_newNodes {next : Pos} (walks : current.node.Walks pkMapBase next)
    (fresh : next ∉ (waiting ++ done).map PosA.node) :
    next ∈ (newNodes pkMapBase endPos waiting done current).map PosA.node := by
  obtain ⟨beside, inside, walkable⟩ := walks
  obtain ⟨cost, offset⟩ := mem_neighbours beside
  have cell : (⟨current.node.x + (next.x - current.node.x),
      current.node.y + (next.y - current.node.y)⟩ : Pos) = next := by
    obtain ⟨x, y⟩ := next
    simp
  have free : (waiting ++ done).all (fun other => other.node ≠ next) := by
    rw [List.all_eq_true]
    intro other listed
    exact decide_eq_true fun same => fresh (List.mem_map.mpr ⟨other, listed, same⟩)
  have step : stepInside current.node (next.x - current.node.x) (next.y - current.node.y) := by
    obtain ⟨left, right, top, bottom⟩ := inside
    refine ⟨?_, ?_, ?_, ?_⟩ <;> omega
  have new : (expand pkMapBase endPos waiting done current
      (next.x - current.node.x, next.y - current.node.y, cost)).map PosA.node = some next := by
    simp only [expand, cell]
    rw [if_pos ⟨free, step, walkable⟩]
    rfl
  obtain ⟨node, made, same⟩ := Option.map_eq_some_iff.mp new
  exact List.mem_map.mpr ⟨node, List.mem_filterMap.mpr ⟨_, offset, made⟩, same⟩

theorem newNodes_nodup (waiting done : List PosA) (inside : current.node.InMap) :
    ((newNodes pkMapBase endPos waiting done current).map PosA.node).Nodup := by
  have offsets : (neighbours.map fun offset => (offset.1, offset.2.1)).Nodup := by decide
  have cells (listed : List (Int × Int × Int)) (known : listed ⊆ neighbours) :
      ((listed.filterMap (expand pkMapBase endPos waiting done current)).map PosA.node).Sublist
        ((listed.map fun offset => (offset.1, offset.2.1)).map fun offset =>
          ⟨current.node.x + offset.1, current.node.y + offset.2⟩) := by
    induction listed with
    | nil => exact .slnil
    | cons offset listed ih =>
        have rest := ih fun _ member => known (List.mem_cons_of_mem _ member)
        cases new : expand pkMapBase endPos waiting done current offset with
        | none =>
            rw [List.filterMap_cons_none new]
            exact rest.cons _
        | some node =>
            rw [List.filterMap_cons_some new, List.map_cons,
              (expand_walks (known List.mem_cons_self) inside new).2.2]
            exact rest.cons_cons _
  refine (offsets.map ?_).sublist (cells neighbours fun _ member => member)
  intro first second same
  simpa [Prod.ext_iff] using same

variable (pkMapBase endPos done) in
/-- The visited node moves to the done ones. -/
theorem visit_perm (listed : current ∈ waiting) :
    ((visit pkMapBase endPos waiting done current).1 ++
        (visit pkMapBase endPos waiting done current).2).Perm
      (waiting ++ newNodes pkMapBase endPos waiting done current ++ done) ∧
    ∃ visited, visited.node = current.node ∧
      (visit pkMapBase endPos waiting done current).2 = visited :: done := by
  have found : current ∈ waiting ++ newNodes pkMapBase endPos waiting done current :=
    List.mem_append_left _ listed
  obtain ⟨visited, before, after, earlier, same, shape, erased⟩ :=
    List.exists_of_eraseP (p := fun node : PosA => decide (node.node = current.node)) found
      (decide_eq_true rfl)
  have first : (waiting ++ newNodes pkMapBase endPos waiting done current).find?
      (fun node => node.node = current.node) = some visited :=
    List.find?_eq_some_iff_append.mpr ⟨same, before, after, shape, by simpa using earlier⟩
  simp only [visit, first, erased, Option.toList_some, List.singleton_append]
  refine ⟨?_, visited, of_decide_eq_true same, rfl⟩
  rw [shape]
  have behind : (before ++ after ++ visited :: done).Perm (visited :: (before ++ after ++ done)) :=
    List.perm_middle
  exact behind.trans (List.perm_middle.symm.append_right done)

variable (pkMapBase endPos done) in
/-- The cells after a visit are the new ones and the old ones. -/
theorem visited_perm (listed : current ∈ waiting) :
    (((visit pkMapBase endPos waiting done current).1 ++
      (visit pkMapBase endPos waiting done current).2).map PosA.node).Perm
    ((newNodes pkMapBase endPos waiting done current).map PosA.node ++
      (waiting ++ done).map PosA.node) := by
  have moved := (visit_perm pkMapBase endPos done listed).1
  have front : (waiting ++ newNodes pkMapBase endPos waiting done current ++ done).Perm
      (newNodes pkMapBase endPos waiting done current ++ (waiting ++ done)) := by
    rw [← List.append_assoc]
    exact List.perm_append_comm.append_right done
  rw [← List.map_append]
  exact (moved.trans front).map PosA.node

section Invariant

variable (searches : Searches pkMapBase startPos endPos waiting done)
  (startInside : startPos.InMap) (listed : current ∈ waiting)
include searches startInside

theorem Searches.inMap : ∀ cell ∈ (waiting ++ done).map PosA.node, cell.InMap := by
  intro cell member
  obtain rfl | walkable := searches.cells cell member
  · exact startInside
  · exact walkable.1

include listed

theorem Searches.current_inMap : current.node.InMap :=
  searches.inMap startInside _ (List.mem_map_of_mem (List.mem_append_left _ listed))

/-- A visit keeps the lists. -/
theorem Searches.visit (differs : current.node ≠ endPos) :
    Searches pkMapBase startPos endPos (visit pkMapBase endPos waiting done current).1
      (visit pkMapBase endPos waiting done current).2 := by
  have inside := searches.current_inMap startInside listed
  have perm := visited_perm pkMapBase endPos done listed
  obtain ⟨visited, same, shape⟩ :=
    (visit_perm pkMapBase endPos done listed).2
  have old {cell : Pos} (member : cell ∈ (waiting ++ done).map PosA.node) :
      cell ∈ ((AppSvr.PkServer.visit pkMapBase endPos waiting done current).1 ++
        (AppSvr.PkServer.visit pkMapBase endPos waiting done current).2).map PosA.node :=
    perm.mem_iff.mpr (List.mem_append_right _ member)
  constructor
  case distinct =>
    rw [perm.nodup_iff, List.nodup_append]
    refine ⟨newNodes_nodup waiting done inside, searches.distinct, ?_⟩
    intro cell new other known
    obtain ⟨node, member, rfl⟩ := List.mem_map.mp new
    obtain ⟨offset, neighbour, made⟩ := List.mem_filterMap.mp member
    exact fun equal => (expand_walks neighbour inside made).2.1 (equal ▸ known)
  case started => exact old searches.started
  case cells =>
    intro cell member
    obtain new | known := List.mem_append.mp (perm.mem_iff.mp member)
    · obtain ⟨node, listed, rfl⟩ := List.mem_map.mp new
      obtain ⟨offset, neighbour, made⟩ := List.mem_filterMap.mp listed
      exact Or.inr (expand_walks neighbour inside made).1
    · exact searches.cells cell known
  case closed =>
    intro cell member next walks
    rw [shape, List.map_cons] at member
    obtain rfl | known := List.mem_cons.mp member
    · by_cases fresh : next ∈ (waiting ++ done).map PosA.node
      · exact old fresh
      · rw [same] at walks
        exact perm.mem_iff.mpr (List.mem_append_left _ (mem_newNodes walks fresh))
    · exact old (searches.closed cell known next walks)
  case passed =>
    rw [shape, List.map_cons, List.mem_cons, same]
    rintro (here | earlier)
    · exact differs here.symm
    · exact searches.passed earlier

end Invariant

/-- Fifty columns of twenty-nine cells. -/
theorem length_le_of_inMap {cells : List Pos} (distinct : cells.Nodup)
    (inside : ∀ cell ∈ cells, cell.InMap) : cells.length ≤ 50 * 29 := by
  have numbers : (cells.map fun cell => (cell.x.toNat, cell.y.toNat)).Nodup := by
    refine distinct.map_on fun first firstListed second secondListed same => ?_
    obtain ⟨left, -, top, -⟩ := inside first firstListed
    obtain ⟨left', -, top', -⟩ := inside second secondListed
    obtain ⟨x, y⟩ := first
    obtain ⟨x', y'⟩ := second
    simp only [Prod.mk.injEq, Pos.mk.injEq] at *
    omega
  have within : (cells.map fun cell => (cell.x.toNat, cell.y.toNat)).toFinset ⊆
      Finset.range 50 ×ˢ Finset.range 29 := by
    intro number member
    obtain ⟨cell, listed, rfl⟩ := List.mem_map.mp (List.mem_toFinset.mp member)
    obtain ⟨left, right, top, bottom⟩ := inside cell listed
    rw [mapSizeX] at right
    rw [mapSizeY] at bottom
    rw [Finset.mem_product, Finset.mem_range, Finset.mem_range]
    dsimp only
    omega
  have count := Finset.card_le_card within
  rwa [List.toFinset_card_of_nodup numbers, List.length_map, Finset.card_product,
    Finset.card_range, Finset.card_range] at count

/-- The done cells fill the map at most, so the search ends. -/
theorem searchEnd_isSome (startInside : startPos.InMap) {fuel : Nat}
    (searches : Searches pkMapBase startPos endPos waiting done) (listed : current ∈ waiting)
    (enough : 50 * 29 < fuel + done.length) :
    (searchEnd pkMapBase endPos fuel waiting done current).isSome := by
  induction fuel generalizing waiting done current with
  | zero =>
      have few := length_le_of_inMap searches.distinct (searches.inMap startInside)
      rw [List.length_map, List.length_append] at few
      omega
  | succ fuel ih =>
      rw [searchEnd]
      dsimp only
      split
      case isTrue => rfl
      case isFalse differs =>
        obtain ⟨visited, -, shape⟩ :=
          (visit_perm pkMapBase endPos done listed).2
        split
        case isTrue => rfl
        case isFalse more =>
          split
          case isTrue => rfl
          case isFalse =>
            refine ih (searches.visit startInside listed differs) (cheapest_mem more) ?_
            rw [shape, List.length_cons]
            omega

/-- The end of the search. -/
def SearchEnd.Right (pkMapBase : Pos → Bool) (startPos endPos : Pos) : SearchEnd → Prop
  | .path nodes => (nodes.map PosA.node).Nodup ∧ nodes.head?.map PosA.node = some endPos ∧
      ∀ cell ∈ nodes.map PosA.node, cell = startPos ∨ cell.InMap ∧ pkMapBase cell = true
  | .noWay _ => ¬ ReflTransGen (Pos.Walks pkMapBase) startPos endPos
  | .tooFar waiting => ∀ node ∈ waiting, 1000 ≤ node.g

theorem Searches.path_right (searches : Searches pkMapBase startPos endPos waiting done)
    (listed : current ∈ waiting) (reached : current.node = endPos) :
    (SearchEnd.path (current :: done)).Right pkMapBase startPos endPos := by
  have distinct := searches.distinct
  rw [List.map_append, List.nodup_append] at distinct
  refine ⟨?_, congrArg some reached, ?_⟩
  · rw [List.map_cons, List.nodup_cons]
    exact ⟨fun again => distinct.2.2 _ (List.mem_map_of_mem listed) _ again rfl, distinct.2.1⟩
  · intro cell member
    refine searches.cells cell ?_
    rw [List.map_cons] at member
    rw [List.map_append]
    obtain rfl | earlier := List.mem_cons.mp member
    · exact List.mem_append_left _ (List.mem_map_of_mem listed)
    · exact List.mem_append_right _ earlier

/-- Without a waiting node the done cells are all that a role can reach. -/
theorem Searches.noWay_right (searches : Searches pkMapBase startPos endPos [] done) :
    ¬ ReflTransGen (Pos.Walks pkMapBase) startPos endPos := by
  intro way
  have reached {cell : Pos} (walk : ReflTransGen (Pos.Walks pkMapBase) startPos cell) :
      cell ∈ done.map PosA.node := by
    induction walk with
    | refl => exact searches.started
    | tail _ walks ih => exact searches.closed _ ih _ walks
  exact searches.passed (reached way)

theorem foldl_cheapest_le (nodes : List PosA) (best : PosA) :
    (nodes.foldl (fun best node => if node.g ≤ best.g then node else best) best).g ≤ best.g ∧
      ∀ node ∈ nodes,
        (nodes.foldl (fun best node => if node.g ≤ best.g then node else best) best).g ≤
          node.g := by
  induction nodes generalizing best with
  | nil => exact ⟨Int.le_refl _, fun _ member => absurd member List.not_mem_nil⟩
  | cons first nodes ih =>
      rw [List.foldl_cons]
      obtain ⟨least, others⟩ := ih (if first.g ≤ best.g then first else best)
      have chosen : (if first.g ≤ best.g then first else best).g ≤ best.g ∧
          (if first.g ≤ best.g then first else best).g ≤ first.g := by
        split <;> constructor <;> omega
      refine ⟨Int.le_trans least chosen.1, fun node member => ?_⟩
      obtain rfl | later := List.mem_cons.mp member
      · exact Int.le_trans least chosen.2
      · exact others node later

theorem searchEnd_right (startInside : startPos.InMap) {fuel : Nat}
    (searches : Searches pkMapBase startPos endPos waiting done) (listed : current ∈ waiting)
    {ending : SearchEnd}
    (ends : searchEnd pkMapBase endPos fuel waiting done current = some ending) :
    ending.Right pkMapBase startPos endPos := by
  induction fuel generalizing waiting done current with
  | zero => cases ends
  | succ fuel ih =>
      rw [searchEnd] at ends
      dsimp only at ends
      split at ends
      case isTrue reached =>
        cases Option.some.inj ends
        exact searches.path_right listed reached
      case isFalse differs =>
        have next := searches.visit startInside listed differs
        split at ends
        case isTrue empty =>
          cases Option.some.inj ends
          rw [empty] at next
          exact next.noWay_right
        case isFalse more =>
          split at ends
          case isTrue far =>
            cases Option.some.inj ends
            intro node member
            exact Int.le_trans far ((foldl_cheapest_le _ _).2 node member)
          case isFalse => exact ih next (cheapest_mem more) ends

end Rounds

/-- The way back consists of nodes of the list. -/
theorem followBack_picks (pos : PosA) (older : List PosA) (line : List Pos) :
    ∃ picked : List PosA, picked.Sublist older ∧
      (followBack pos older line).1 = (picked.map PosA.node).reverse ++ line := by
  induction older generalizing pos line with
  | nil => exact ⟨[], .slnil, rfl⟩
  | cons pre older ih =>
      cases older with
      | nil =>
          rw [followBack]
          split
          · exact ⟨[], List.nil_sublist _, rfl⟩
          · exact ⟨[pre], .refl _, rfl⟩
      | cons next older =>
          rw [followBack]
          split
          · obtain ⟨picked, sublist, same⟩ := ih pre (pre.node :: line)
            exact ⟨pre :: picked, sublist.cons_cons pre, by rw [same]; simp⟩
          · obtain ⟨picked, sublist, same⟩ := ih pos line
            exact ⟨picked, sublist.cons pre, same⟩

/-- The line leads over different walkable cells from the start to the end, in this direction. -/
structure PathFound (pkMapBase : Pos → Bool) (startPos endPos : Pos) (line : List Pos)
    (direct : Int) : Prop where
  start : line.head? = some startPos
  finish : line.getLast? = some endPos
  chain : line.IsChain Pos.Beside
  walkable : ∀ cell ∈ line.tail, cell.InMap ∧ pkMapBase cell = true
  distinct : line.Nodup
  direct : ∃ next, line.tail.head? = some next ∧ direct = getDirect next startPos

section Found

variable {pkMapBase : Pos → Bool} {startPos endPos : Pos} {nodes : List PosA}

/-- The nodes of a path give its line. -/
theorem pathFound_of_nodes {fuel : Nat} (differ : startPos ≠ endPos)
    (found : searchPath pkMapBase endPos fuel [⟨startPos, startPos, 0, 0⟩] []
      ⟨startPos, startPos, 0, 0⟩ = some nodes)
    (right : (SearchEnd.path nodes).Right pkMapBase startPos endPos) :
    ∃ last older line direct, nodes = last :: older ∧
      followBack last older [last.node] = (line, some direct) ∧ direct ≠ 0 ∧
      PathFound pkMapBase startPos endPos line direct := by
  obtain ⟨distinct, finish, cells⟩ := right
  obtain rfl | ⟨last, older, rfl, follows, rooted⟩ := searchPath_start _ found
  · exact absurd (Option.some.inj finish) differ
  obtain ⟨next, rest, back, chain⟩ := followBack_spec [] follows rooted (.singleton _)
  obtain ⟨picked, sublist, same⟩ := followBack_picks last older [last.node]
  rw [back] at same
  have beside := chain.imp fun _ _ leads => leads.1
  have line : startPos :: next :: rest = ((last :: picked).map PosA.node).reverse := by
    rw [List.map_cons, List.reverse_cons]
    exact same
  have once : (startPos :: next :: rest).Nodup := by
    rw [line, List.nodup_reverse]
    exact distinct.sublist ((sublist.cons_cons last).map PosA.node)
  refine ⟨last, older, _, _, rfl, back, getDirect_ne (List.isChain_cons_cons.mp beside).1, ?_⟩
  constructor
  case start => rfl
  case finish =>
    rw [line, List.getLast?_reverse]
    exact finish
  case chain => exact beside
  case walkable =>
    intro cell member
    have listed : cell ∈ ((last :: picked).map PosA.node).reverse :=
      line ▸ List.mem_cons_of_mem _ member
    have known := ((sublist.cons_cons last).map PosA.node).subset (List.mem_reverse.mp listed)
    obtain rfl | walkable := cells cell known
    · exact absurd member (List.nodup_cons.mp once).1
    · exact walkable
  case distinct => exact once
  case direct => exact ⟨next, rfl, rfl⟩

end Found

namespace PKPE

/-- The search ends, with a path or with a reason for having none. -/
def FindsPath (battle : PKPE) (id : Int) (startPos endPos : Pos) : Prop :=
  ∃ ending, searchEnd battle.pkMapBase endPos searchFuel [⟨startPos, startPos, 0, 0⟩] []
      ⟨startPos, startPos, 0, 0⟩ = some ending ∧
    ((battle.aStar id startPos endPos).1 = 0 ∧
        PathFound battle.pkMapBase startPos endPos
          ((battle.aStar id startPos endPos).2.role id).moveAttrb.moveLine
          ((battle.aStar id startPos endPos).2.role id).moveAttrb.direct ∨
      (battle.aStar id startPos endPos).1 = -1 ∧
        (battle.aStar id startPos endPos).2.role id = battle.role id ∧
        (¬ ReflTransGen (Pos.Walks battle.pkMapBase) startPos endPos ∨
          ∃ waiting, ending = .tooFar waiting ∧ ∀ node ∈ waiting, 1000 ≤ node.g))

section Result

variable (battle : PKPE) (id : Int) {startPos endPos : Pos}

theorem aStar_of_none (endInside : endPos.InMap) (walkable : battle.pkMapBase endPos = true)
    (found : searchPath battle.pkMapBase endPos searchFuel [⟨startPos, startPos, 0, 0⟩] []
      ⟨startPos, startPos, 0, 0⟩ = none) :
    battle.aStar id startPos endPos = (-1, battle.note (.aStar startPos)) := by
  unfold aStar
  simp only [note_pkMapBase, endInside, not_true_eq_false, if_false, walkable, if_true, found]

/-- A walkable goal on the map is reached, or there is no near way to it. -/
theorem aStar_findsPath (startInside : startPos.InMap) (endInside : endPos.InMap)
    (walkable : battle.pkMapBase endPos = true) (differ : startPos ≠ endPos) :
    battle.FindsPath id startPos endPos := by
  have searches : Searches battle.pkMapBase startPos endPos [⟨startPos, startPos, 0, 0⟩] [] :=
    searches_start
  have listed := List.mem_singleton_self (⟨startPos, startPos, 0, 0⟩ : PosA)
  have terminates : (searchEnd battle.pkMapBase endPos searchFuel [⟨startPos, startPos, 0, 0⟩] []
      ⟨startPos, startPos, 0, 0⟩).isSome := searchEnd_isSome startInside searches listed (by decide)
  obtain ⟨ending, ends⟩ := Option.isSome_iff_exists.mp terminates
  have right := searchEnd_right startInside searches listed ends
  have found := searchPath_eq battle.pkMapBase endPos searchFuel [⟨startPos, startPos, 0, 0⟩] []
    ⟨startPos, startPos, 0, 0⟩
  rw [ends] at found
  refine ⟨ending, ends, ?_⟩
  cases ending with
  | path nodes =>
      obtain ⟨last, older, line, direct, rfl, back, turns, path⟩ :=
        pathFound_of_nodes differ found right
      obtain ⟨points, known⟩ :=
        Option.isSome_iff_exists.mp (turnPoints_isSome direct path.chain)
      have goal : battle.goal id endPos = endPos := if_pos walkable
      rw [aStar_of_search endInside (goal.symm ▸ found) back
        (fun zero => turns (Option.some.inj zero)) known]
      refine Or.inl ⟨rfl, ?_⟩
      rw [send_toRoles, modifyRole_self]
      exact path
  | noWay done =>
      rw [aStar_of_none battle id endInside walkable found]
      exact Or.inr ⟨rfl, rfl, Or.inl right⟩
  | tooFar waiting =>
      rw [aStar_of_none battle id endInside walkable found]
      exact Or.inr ⟨rfl, rfl, Or.inr ⟨waiting, rfl, right⟩⟩

end Result

/-- On an empty map a role reaches a cell three columns away. -/
theorem aStar_findsPath_near : PKPE.FindsPath
    { PKPE.empty 1 1 (fun _ => true) (fun _ => default) with pkMapBase := fun _ => true } 7
    ⟨0, 0⟩ ⟨3, 2⟩ :=
  aStar_findsPath _ 7 (by decide) (by decide) rfl (by decide)

end PKPE

end AppSvr.PkServer
