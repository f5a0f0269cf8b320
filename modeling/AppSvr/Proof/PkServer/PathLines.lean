/-
This file proves that a path leads over neighbouring cells of the map.
-/

import AppSvr.Proof.PkServer.Transitions

namespace AppSvr.PkServer

/-- The step stays on the map. -/
def Pos.Leads (cell next : Pos) : Prop := cell.Beside next ∧ (cell.InMap → next.InMap)

theorem getDirect_ne {cell next : Pos} (beside : cell.Beside next) : getDirect next cell ≠ 0 := by
  obtain ⟨differ, _⟩ := beside
  obtain ⟨x, y⟩ := cell
  obtain ⟨nextX, nextY⟩ := next
  simp only [ne_eq, Pos.mk.injEq] at differ
  unfold getDirect
  dsimp only
  split_ifs <;> first | decide | omega

/-- A step leads to the node from its parent. -/
def PosA.Follows (node : PosA) (older : List PosA) : Prop :=
  ∃ parent ∈ older, node.nodeParent = parent.node ∧ parent.node.Leads node.node

/-- Every done node has an older parent up to the start. -/
def Rooted (startPos : Pos) : List PosA → Prop
  | [] => False
  | [first] => first.node = startPos
  | node :: next :: older => node.Follows (next :: older) ∧ Rooted startPos (next :: older)

section Search

variable {pkMapBase other : Pos → Bool} {startPos endPos : Pos} {waiting done : List PosA}
  {current : PosA}

theorem stepInside_leads {pos : Pos} {dx dy cost : Int} (member : (dx, dy, cost) ∈ neighbours)
    (inside : stepInside pos dx dy) : pos.Leads ⟨pos.x + dx, pos.y + dy⟩ := by
  obtain ⟨x, y⟩ := pos
  simp only [neighbours, List.mem_cons, Prod.mk.injEq, List.not_mem_nil, or_false] at member
  simp only [stepInside, mapSizeX, mapSizeY] at inside
  simp only [Pos.Leads, Pos.Beside, Pos.InMap, mapSizeX, mapSizeY, ne_eq, Pos.mk.injEq]
  omega

/-- A new node stands one step from the current one, on a walkable cell that no list has. -/
theorem expand_spec {offset : Int × Int × Int} {node : PosA}
    (new : expand pkMapBase endPos waiting done current offset = some node) :
    (waiting ++ done).all (fun other => other.node ≠ node.node) = true ∧
      stepInside current.node offset.1 offset.2.1 ∧ pkMapBase node.node = true ∧
      node.nodeParent = current.node ∧
      node.node = ⟨current.node.x + offset.1, current.node.y + offset.2.1⟩ := by
  obtain ⟨dx, dy, cost⟩ := offset
  simp only [expand] at new
  split at new
  · next open_ =>
      rw [Option.some.injEq] at new
      subst new
      exact ⟨open_.1, open_.2.1, open_.2.2, rfl, rfl⟩
  · simp at new

/-- A new node is a neighbour of the current one. -/
theorem expand_leads {offset : Int × Int × Int} {node : PosA} (member : offset ∈ neighbours)
    (new : expand pkMapBase endPos waiting done current offset = some node) :
    node.nodeParent = current.node ∧ current.node.Leads node.node := by
  obtain ⟨-, inside, -, parent, place⟩ := expand_spec new
  refine ⟨parent, ?_⟩
  rw [place]
  exact stepInside_leads member inside

theorem cheapest_mem (rest : waiting ≠ []) : cheapest current waiting ∈ waiting := by
  have fold (nodes : List PosA) (best : PosA) :
      nodes.foldl (fun best node => if node.g ≤ best.g then node else best) best = best ∨
        nodes.foldl (fun best node => if node.g ≤ best.g then node else best) best ∈ nodes := by
    induction nodes generalizing best with
    | nil => exact .inl rfl
    | cons node nodes ih =>
        rw [List.foldl_cons]
        rcases ih (if node.g ≤ best.g then node else best) with same | member
        · rw [same]
          split
          · exact .inr (by simp)
          · exact .inl rfl
        · exact .inr (List.mem_cons_of_mem _ member)
  obtain ⟨first, others, rfl⟩ := List.exists_cons_of_ne_nil rest
  rcases fold (first :: others) ((first :: others).headD current) with same | member
  · unfold cheapest
    rw [same]
    simp
  · exact member

theorem PosA.Follows.mono {node : PosA} {older newer : List PosA} (follows : node.Follows older)
    (more : older ⊆ newer) : node.Follows newer := by
  obtain ⟨parent, member, same⟩ := follows
  exact ⟨parent, more member, same⟩

/-- The nodes of the lists after the visit of the current node. -/
theorem mem_visited {node : PosA}
    (member : node ∈ waiting ++ neighbours.filterMap
      (expand pkMapBase endPos waiting done current)) :
    node ∈ waiting ∨ node.nodeParent = current.node ∧ current.node.Leads node.node := by
  rcases List.mem_append.mp member with old | new
  · exact .inl old
  · obtain ⟨offset, listed, same⟩ := List.mem_filterMap.mp new
    exact .inr (expand_leads listed same)

/-- The visited node is the current one. -/
theorem find_visited (pkMapBase : Pos → Bool) (endPos : Pos) (done : List PosA)
    (listed : current ∈ waiting) :
    ∃ visited ∈ waiting, visited.node = current.node ∧
      (waiting ++ neighbours.filterMap (expand pkMapBase endPos waiting done current)).find?
        (fun node => node.node = current.node) = some visited := by
  cases found : waiting.find? fun node => node.node = current.node with
  | none =>
      have none := List.find?_eq_none.mp found current listed
      simp at none
  | some visited =>
      refine ⟨visited, List.mem_of_find?_eq_some found, by simpa using List.find?_some found, ?_⟩
      rw [List.find?_append, found]
      rfl

/-- Every node that waits follows a done one. -/
theorem searchPath_rooted (fuel : Nat) {path : List PosA} (rooted : Rooted startPos done)
    (follows : ∀ node ∈ waiting, node.Follows done) (listed : current ∈ waiting)
    (found : searchPath pkMapBase endPos fuel waiting done current = some path) :
    ∃ last older, path = last :: older ∧ last.Follows older ∧ Rooted startPos older := by
  induction fuel generalizing waiting done current with
  | zero => simp [searchPath] at found
  | succ fuel ih =>
      simp only [searchPath] at found
      split at found
      · rw [Option.some.injEq] at found
        exact ⟨current, done, found.symm, follows current listed, rooted⟩
      · obtain ⟨visited, member, same, first⟩ :=
          find_visited pkMapBase endPos done listed
        rw [first] at found
        simp only [Option.toList_some, List.singleton_append] at found
        split at found
        · simp at found
        · next rest =>
            split at found
            · simp at found
            · refine ih ?_ ?_ (cheapest_mem rest) found
              · obtain ⟨next, older, rfl⟩ : ∃ next older, done = next :: older := by
                  cases done with
                  | nil => exact absurd rooted id
                  | cons next older => exact ⟨next, older, rfl⟩
                exact ⟨follows visited member, rooted⟩
              · intro node listed
                rcases mem_visited (List.mem_of_mem_eraseP listed) with old | ⟨parent, leads⟩
                · exact (follows node old).mono (List.subset_cons_self ..)
                · exact ⟨visited, by simp, parent.trans same.symm, same ▸ leads⟩

/-- A search that starts at a cell visits this cell first. -/
theorem searchPath_start (fuel : Nat) {first : PosA} {path : List PosA}
    (found : searchPath pkMapBase endPos fuel [first] [] first = some path) :
    path = [first] ∨ ∃ last older, path = last :: older ∧ last.Follows older ∧
      Rooted first.node older := by
  cases fuel with
  | zero => simp [searchPath] at found
  | succ fuel =>
      simp only [searchPath] at found
      split at found
      · rw [Option.some.injEq] at found
        exact .inl found.symm
      · simp only [List.cons_append, List.nil_append, List.find?_cons, decide_true,
          Option.toList_some, List.append_nil, List.eraseP_cons, cond_true] at found
        split at found
        · simp at found
        · next rest =>
            split at found
            · simp at found
            · have rooted : Rooted first.node [first] := rfl
              refine .inr (searchPath_rooted fuel rooted ?_ (cheapest_mem rest) found)
              intro node listed
              obtain ⟨offset, member, new⟩ := List.mem_filterMap.mp listed
              obtain ⟨parent, leads⟩ := expand_leads member new
              exact ⟨first, by simp, parent, leads⟩

end Search

section Lines

variable {startPos : Pos} {pos : PosA} {older : List PosA} {line : List Pos}

/-- The way back ends at the start of the search. -/
theorem followBack_spec (others : List Pos) (follows : pos.Follows older)
    (rooted : Rooted startPos older) (chain : (pos.node :: others).IsChain Pos.Leads) :
    ∃ next rest, followBack pos older (pos.node :: others) =
        (startPos :: next :: rest, some (getDirect next startPos)) ∧
      (startPos :: next :: rest).IsChain Pos.Leads := by
  induction older generalizing pos others with
  | nil => exact absurd rooted id
  | cons pre older ih =>
      obtain ⟨parent, member, same, leads⟩ := follows
      cases older with
      | nil =>
          obtain rfl := List.mem_singleton.mp member
          obtain rfl : parent.node = startPos := rooted
          refine ⟨pos.node, others, ?_, .cons_cons leads chain⟩
          simp only [followBack]
          rw [if_neg (getDirect_ne leads.1)]
      | cons next older =>
          simp only [followBack]
          split
          · next found =>
              have next : pre.node.Leads pos.node := by rwa [← found, same]
              exact ih (pos.node :: others) rooted.1 rooted.2 (.cons_cons next chain)
          · next differs =>
              refine ih others ?_ rooted.2 chain
              rcases List.mem_cons.mp member with rfl | listed
              · exact absurd same differs
              · exact ⟨parent, listed, same, leads⟩

/-- The line of neighbours has no equal cells in a row. -/
theorem turnPoints_isSome (direct : Int) (chain : line.IsChain Pos.Beside) :
    (turnPoints direct line).isSome := by
  induction line generalizing direct with
  | nil => rfl
  | cons cell line ih =>
      cases line with
      | nil => rfl
      | cons next line =>
          obtain ⟨beside, chain⟩ := List.isChain_cons_cons.mp chain
          simp only [turnPoints]
          rw [if_neg (getDirect_ne beside)]
          split
          · exact ih _ chain
          · rw [Option.isSome_map]
            exact ih _ chain

theorem inMap_of_leads {cell : Pos} (chain : (cell :: line).IsChain Pos.Leads)
    (start : cell.InMap) : ∀ other ∈ cell :: line, other.InMap := by
  induction line generalizing cell with
  | nil => simpa using start
  | cons next line ih =>
      obtain ⟨leads, chain⟩ := List.isChain_cons_cons.mp chain
      intro other member
      rcases List.mem_cons.mp member with rfl | member
      · exact start
      · exact ih chain (leads.2 start) other member

theorem Walk.of_leads {next : Pos}
    (chain : (startPos :: next :: line).IsChain Pos.Leads) :
    Walk startPos (getDirect next startPos) (startPos :: next :: line) where
  start := rfl
  chain := chain.imp fun _ _ leads => leads.1
  leads _ second := by
    rw [List.getElem?_cons_succ, List.getElem?_cons_zero, Option.some.injEq] at second
    rw [second]
  inside := inMap_of_leads chain

/-- The way back from a path, whatever the direction of a role that does not leave its cell. -/
theorem followBack_of_search {pkMapBase : Pos → Bool} {endPos : Pos} {fuel : Nat} {last : PosA}
    (search : searchPath pkMapBase endPos fuel [⟨startPos, startPos, 0, 0⟩] []
      ⟨startPos, startPos, 0, 0⟩ = some (last :: older)) :
    ∃ line direct, followBack last older [last.node] = (startPos :: line, direct) ∧
      direct ≠ some 0 ∧ ∀ still, Walk startPos (direct.getD still) (startPos :: line) := by
  obtain single | ⟨last', older', same, follows, rooted⟩ := searchPath_start _ search
  · cases single
    exact ⟨[], none, rfl, by simp, fun still => ⟨rfl, .singleton _, by simp, by simp⟩⟩
  · cases same
    obtain ⟨next, rest, back, chain⟩ := followBack_spec [] follows rooted (.singleton _)
    have walk := Walk.of_leads chain
    have turns := getDirect_ne (List.isChain_cons_cons.mp walk.chain).1
    exact ⟨_, _, back, fun zero => turns (Option.some.inj zero), fun _ => walk⟩

end Lines

namespace PKPE

variable (battle : PKPE) (id : Int) (startPos endPos : Pos)

/-- The cell to which the search leads. -/
def goal : Pos :=
  if battle.pkMapBase endPos then endPos
  else getEmptyPos battle.pkMapBase endPos (battle.role id).moveAttrb.direct

variable {battle id startPos endPos}

/-- A call on the map ends with the line of its search. -/
theorem aStar_of_search (inside : endPos.InMap) {last : PosA} {older : List PosA}
    (search : searchPath battle.pkMapBase (battle.goal id endPos) searchFuel
      [⟨startPos, startPos, 0, 0⟩] [] ⟨startPos, startPos, 0, 0⟩ = some (last :: older))
    {line turns : List Pos} {direct : Option Int}
    (back : followBack last older [last.node] = (line, direct)) (known : direct ≠ some 0)
    (turned : turnPoints (direct.getD (battle.role id).moveAttrb.direct) line = some turns) :
    battle.aStar id startPos endPos =
      (0, ((battle.note (.aStar startPos)).modifyRole id fun role =>
        (role.setMoveLine line).setDirect (direct.getD role.moveAttrb.direct)).send (.move id
          (battle.role id).moveAttrb.currentPosMini (line.take 1 ++ turns))) := by
  unfold aStar
  dsimp only
  rw [if_neg (Decidable.not_not.mpr inside)]
  split
  case h_1 missing => cases missing.symm.trans search
  case h_2 empty => cases empty.symm.trans search
  case h_3 other others path =>
    cases Option.some.inj (path.symm.trans search)
    simp only [back, known, if_false]
    have same : turnPoints (direct.getD ((battle.note (.aStar startPos)).role id).moveAttrb.direct)
      line = some turns := turned
    simp only [same]
    rfl

variable (battle id startPos endPos)

/-- A call fails, or it has found a path on the map. -/
theorem aStar_fails_or_search :
    (∃ result, battle.aStar id startPos endPos = (result, battle.note (.aStar startPos)) ∧
      result ≠ 0) ∨
    endPos.InMap ∧ ∃ last older, searchPath battle.pkMapBase (battle.goal id endPos) searchFuel
      [⟨startPos, startPos, 0, 0⟩] [] ⟨startPos, startPos, 0, 0⟩ = some (last :: older) := by
  unfold aStar
  dsimp only
  split
  · exact .inl ⟨-1, rfl, by decide⟩
  · next inside =>
    split
    · exact .inl ⟨-1, rfl, by decide⟩
    · exact .inl ⟨-1, rfl, by decide⟩
    · next last older search => exact .inr ⟨Decidable.not_not.mp inside, last, older, search⟩

end PKPE

end AppSvr.PkServer
