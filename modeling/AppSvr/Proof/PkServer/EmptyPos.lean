/-
This file proves which free cell the search around a role finds.
-/

import AppSvr.Proof.PkServer.MovePackets
import AppSvr.ToMathlib.TruncatedRays

namespace AppSvr.PkServer

section Reads

variable (pkMapBase : Pos → Bool)

/-- These cells of the map are read by `searchAhead`. -/
def searchAheadReads (offset : Int × Int) : Nat → Pos → List Pos
  | 0, _ => []
  | remaining + 1, pos =>
      let next := pos.shift offset.1 offset.2
      if ¬ next.InMap then []
      else if pkMapBase next then [next]
      else next :: searchAheadReads offset remaining next

/-- The loops read the cells of the map until one is free. -/
def ringReads : List Pos → List Pos
  | [] => []
  | pos :: cells =>
      if ¬ pos.InMap then ringReads cells
      else if pkMapBase pos then [pos]
      else pos :: ringReads cells

/-- These cells of the map are read by `getEmptyPos`. -/
def getEmptyPosReads (curr : Pos) (direct : Int) : List Pos :=
  let offset := directOffset direct
  searchAheadReads pkMapBase offset 3 curr ++
    match searchAhead pkMapBase offset 3 curr with
    | some _ => []
    | none => ringReads pkMapBase ([1, 2, 3, 4].flatMap (ring curr))

end Reads

section Traces

variable {pkMapBase other : Pos → Bool}

theorem searchAheadReads_inMap (offset : Int × Int) (remaining : Nat) (pos : Pos) :
    ∀ cell ∈ searchAheadReads pkMapBase offset remaining pos, cell.InMap := by
  induction remaining generalizing pos with
  | zero => exact fun cell read => absurd read List.not_mem_nil
  | succ remaining ih =>
      intro cell read
      unfold searchAheadReads at read
      dsimp only at read
      split at read
      · cases read
      · next inside =>
          split at read
          · rw [List.mem_singleton.mp read]
            exact Decidable.not_not.mp inside
          · rcases List.mem_cons.mp read with rfl | later
            · exact Decidable.not_not.mp inside
            · exact ih _ cell later

theorem ringReads_inMap (cells : List Pos) : ∀ cell ∈ ringReads pkMapBase cells, cell.InMap := by
  induction cells with
  | nil => exact fun cell read => absurd read List.not_mem_nil
  | cons pos cells ih =>
      intro cell read
      unfold ringReads at read
      split at read
      · exact ih cell read
      · next inside =>
          split at read
          · rw [List.mem_singleton.mp read]
            exact Decidable.not_not.mp inside
          · rcases List.mem_cons.mp read with rfl | later
            · exact Decidable.not_not.mp inside
            · exact ih cell later

/-- The search never reads outside of the map. -/
theorem getEmptyPosReads_inMap (curr : Pos) (direct : Int) :
    ∀ cell ∈ getEmptyPosReads pkMapBase curr direct, cell.InMap := by
  intro cell read
  unfold getEmptyPosReads at read
  rcases List.mem_append.mp read with ahead | around
  · exact searchAheadReads_inMap _ _ _ cell ahead
  · split at around
    · cases around
    · exact ringReads_inMap _ cell around

theorem searchAhead_congr_reads (offset : Int × Int) (remaining : Nat) (pos : Pos)
    (agrees : ∀ cell ∈ searchAheadReads pkMapBase offset remaining pos,
      other cell = pkMapBase cell) :
    searchAhead other offset remaining pos = searchAhead pkMapBase offset remaining pos := by
  induction remaining generalizing pos with
  | zero => rfl
  | succ remaining ih =>
      unfold searchAheadReads at agrees
      unfold searchAhead
      dsimp only at agrees ⊢
      by_cases inside : (pos.shift offset.1 offset.2).InMap
      · rw [if_neg (not_not_intro inside)] at agrees
        rw [if_neg (not_not_intro inside), if_neg (not_not_intro inside)]
        by_cases free : pkMapBase (pos.shift offset.1 offset.2) = true
        · rw [if_pos free] at agrees
          rw [agrees _ (List.mem_singleton_self _)]
          rw [if_pos free, if_pos free]
        · rw [if_neg free] at agrees
          rw [agrees _ List.mem_cons_self, if_neg free, if_neg free]
          exact ih _ fun cell read => agrees cell (List.mem_cons_of_mem _ read)
      · rw [if_pos inside, if_pos inside]

theorem find?_congr_reads (cells : List Pos)
    (agrees : ∀ cell ∈ ringReads pkMapBase cells, other cell = pkMapBase cell) :
    cells.find? (fun pos => decide pos.InMap && other pos) =
      cells.find? fun pos => decide pos.InMap && pkMapBase pos := by
  induction cells with
  | nil => rfl
  | cons pos cells ih =>
      unfold ringReads at agrees
      rw [List.find?_cons, List.find?_cons]
      by_cases inside : pos.InMap
      · rw [if_neg (not_not_intro inside)] at agrees
        by_cases free : pkMapBase pos = true
        · rw [if_pos free] at agrees
          rw [agrees _ (List.mem_singleton_self _), free, decide_eq_true inside]
          rfl
        · rw [if_neg free] at agrees
          rw [agrees _ List.mem_cons_self, Bool.eq_false_iff.mpr free, decide_eq_true inside]
          exact ih fun cell read => agrees cell (List.mem_cons_of_mem _ read)
      · rw [if_pos inside] at agrees
        rw [decide_eq_false inside]
        exact ih agrees

/-- The result depends on these cells only. -/
theorem getEmptyPos_congr_reads (curr : Pos) (direct : Int)
    (agrees : ∀ cell ∈ getEmptyPosReads pkMapBase curr direct, other cell = pkMapBase cell) :
    getEmptyPos other curr direct = getEmptyPos pkMapBase curr direct := by
  have ahead := searchAhead_congr_reads (directOffset direct) 3 curr fun cell read =>
    agrees cell (List.mem_append_left _ read)
  unfold getEmptyPos
  rw [ahead]
  cases found : searchAhead pkMapBase (directOffset direct) 3 curr with
  | some pos => rfl
  | none =>
      dsimp only
      rw [find?_congr_reads]
      intro cell read
      refine agrees cell (List.mem_append_right _ ?_)
      rw [found]
      exact read

end Traces

section Cells

variable {curr : Pos}

theorem mem_around {center circle value : Int} (positive : 0 ≤ circle) :
    value ∈ around center circle ↔ center - circle ≤ value ∧ value ≤ center + circle := by
  have listed : value ∈ around center circle ↔
      ∃ index : Nat, index < (2 * circle + 1).toNat ∧ center - circle + index = value := by
    simp [around]
  rw [listed]
  constructor
  · rintro ⟨index, small, rfl⟩
    omega
  · intro between
    exact ⟨(value - (center - circle)).toNat, by omega, by omega⟩

theorem mem_ring (cell : Pos) (size : Nat) :
    cell ∈ ring curr size ↔ cell ≠ curr ∧ curr.steps cell ≤ size := by
  obtain ⟨x, y⟩ := cell
  have positive : (0 : Int) ≤ size := Int.natCast_nonneg size
  have apart : (⟨x, y⟩ : Pos) ≠ curr ↔ ¬ (x = curr.x ∧ y = curr.y) := by
    cases curr
    rw [ne_eq, Pos.mk.injEq]
  unfold ring Pos.steps
  simp only [List.mem_flatMap, List.mem_filterMap, mem_around positive]
  rw [apart]
  constructor
  · rintro ⟨column, nearX, row, nearY, same⟩
    split at same
    · cases same
    · next differs =>
        cases same
        exact ⟨differs, by omega⟩
  · rintro ⟨differs, near⟩
    refine ⟨x, by omega, y, by omega, ?_⟩
    rw [if_neg differs]

theorem directOffset_isStep {direct : Int} (known : 1 ≤ direct ∧ direct ≤ 8) :
    IsStep (directOffset direct) := by
  obtain rfl | rfl | rfl | rfl | rfl | rfl | rfl | rfl : direct = 1 ∨ direct = 2 ∨ direct = 3 ∨
    direct = 4 ∨ direct = 5 ∨ direct = 6 ∨ direct = 7 ∨ direct = 8 := by omega
  all_goals exact ⟨by decide, by decide, by decide⟩

/-- Behind the edge no cell of the ray is on the map. -/
theorem along_outside {offset : Int × Int} (step : IsStep offset) (inside : curr.InMap)
    (outside : ¬ (curr.along offset 1).InMap) (count : Nat) :
    ¬ (curr.along offset (count + 1)).InMap := by
  obtain ⟨x, y⟩ := offset
  obtain ⟨_, nearX, nearY⟩ := step
  unfold Pos.InMap Pos.along at *
  dsimp only at *
  rw [Nat.cast_add, Int.add_mul, Int.add_mul]
  obtain rfl | rfl | rfl : x = -1 ∨ x = 0 ∨ x = 1 := by omega
  all_goals
    obtain rfl | rfl | rfl : y = -1 ∨ y = 0 ∨ y = 1 := by omega
    all_goals omega

theorem shift_eq_along {offset : Int × Int} (step : IsStep offset) (inside : curr.InMap) :
    curr.shift offset.1 offset.2 = curr.along offset 1 := by
  obtain ⟨_, nearX, nearY⟩ := step
  unfold Pos.InMap mapSizeX mapSizeY at inside
  unfold Pos.shift Pos.along short
  rw [Nat.cast_one, Int.one_mul, Int.one_mul, Pos.mk.injEq]
  omega

variable {pkMapBase : Pos → Bool}

/-- A cell of the map that can be walked on. -/
def freeCell (pkMapBase : Pos → Bool) (pos : Pos) : Bool := decide pos.InMap && pkMapBase pos

theorem freeCell_iff (pos : Pos) : freeCell pkMapBase pos ↔ pos.InMap ∧ pkMapBase pos := by
  unfold freeCell
  rw [Bool.and_eq_true, decide_eq_true_eq]

/-- The cells ahead are tried in their order. -/
theorem searchAhead_eq_find? {offset : Int × Int} (step : IsStep offset) (remaining : Nat)
    (inside : curr.InMap) : searchAhead pkMapBase offset remaining curr =
      (curr.ray offset remaining).find? (freeCell pkMapBase) := by
  induction remaining generalizing curr with
  | zero => rfl
  | succ remaining ih =>
      unfold searchAhead
      dsimp only
      rw [shift_eq_along step inside]
      by_cases next : (curr.along offset 1).InMap
      · rw [if_neg (not_not_intro next), ray_cons, List.find?_cons, ih next]
        unfold freeCell
        rw [decide_eq_true next, Bool.true_and]
        cases pkMapBase (curr.along offset 1) <;> rfl
      · rw [if_pos next]
        symm
        rw [List.find?_eq_none]
        intro cell member free
        obtain ⟨index, _, rfl⟩ := List.mem_map.mp member
        exact along_outside step inside next index ((freeCell_iff _).mp free).1

/-- The cells ahead come before the rings. -/
theorem getEmptyPos_eq {direct : Int} (known : 1 ≤ direct ∧ direct ≤ 8) (inside : curr.InMap) :
    getEmptyPos pkMapBase curr direct =
      (((curr.ray (directOffset direct) 3).find? (freeCell pkMapBase)).or
        (GrowingRings.search (fun size => ring curr size) (freeCell pkMapBase) 1 4)).getD curr := by
  unfold getEmptyPos
  rw [searchAhead_eq_find? (directOffset_isStep known) 3 inside]
  cases (curr.ray (directOffset direct) 3).find? (freeCell pkMapBase) with
  | some pos => rfl
  | none => rfl

theorem find?_ray {offset : Int × Int} {reach : Nat} {free : Pos → Bool} {found : Pos}
    (ahead : (curr.ray offset reach).find? free = some found) :
    ∃ count, 1 ≤ count ∧ count ≤ reach ∧ found = curr.along offset count ∧ free found ∧
      ∀ nearer, 1 ≤ nearer → nearer < count → ¬ free (curr.along offset nearer) := by
  obtain ⟨isFree, index, small, same, before⟩ := List.find?_eq_some_iff_getElem.mp ahead
  have reached : index < reach := by
    rwa [Pos.ray, List.length_map, List.length_range] at small
  refine ⟨index + 1, by omega, by omega, ?_, isFree, fun nearer first less => ?_⟩
  · rw [← same]
    simp [Pos.ray]
  · have blocked := before (nearer - 1) (by omega)
    simp only [Pos.ray, List.getElem_map, List.getElem_range, Nat.sub_add_cancel first] at blocked
    simpa using blocked

end Cells

/-- The claim is about these cells. -/
structure Pos.Candidate (pkMapBase : Pos → Bool) (curr cell : Pos) : Prop where
  inMap : cell.InMap
  free : pkMapBase cell
  differs : cell ≠ curr
  near : curr.steps cell ≤ 4

section Choice

variable {pkMapBase : Pos → Bool} {curr cell : Pos} {direct : Int}

theorem Pos.Candidate.freeCell (candidate : curr.Candidate pkMapBase cell) :
    freeCell pkMapBase cell := (freeCell_iff cell).mpr ⟨candidate.inMap, candidate.free⟩

theorem candidate_along {offset : Int × Int} (step : IsStep offset) {count : Nat}
    (positive : 1 ≤ count) (small : count ≤ 3) (free : freeCell pkMapBase (curr.along offset count)) :
    curr.Candidate pkMapBase (curr.along offset count) := by
  obtain ⟨inMap, walkable⟩ := (freeCell_iff _).mp free
  have radius : curr.steps (curr.along offset count) = count := steps_along step count
  refine ⟨inMap, walkable, fun same => ?_, by omega⟩
  rw [same] at radius
  unfold Pos.steps at radius
  omega

/-- The result is ahead, or a nearest cell around, or the given cell when there is no other. -/
theorem getEmptyPos_cases (inside : curr.InMap) (known : 1 ≤ direct ∧ direct ≤ 8) :
    let found := getEmptyPos pkMapBase curr direct
    let ahead := curr.along (directOffset direct)
    (∃ count, 1 ≤ count ∧ count ≤ 3 ∧ found = ahead count ∧ curr.Candidate pkMapBase found ∧
      ∀ nearer, 1 ≤ nearer → nearer < count → ¬ curr.Candidate pkMapBase (ahead nearer)) ∨
    (∀ count, 1 ≤ count → count ≤ 3 → ¬ curr.Candidate pkMapBase (ahead count)) ∧
      (curr.Candidate pkMapBase found ∧
          (∀ cell, curr.Candidate pkMapBase cell → curr.steps found ≤ curr.steps cell) ∨
        found = curr ∧ ∀ cell, ¬ curr.Candidate pkMapBase cell) := by
  intro found ahead
  have step := directOffset_isStep known
  have result : found = _ := getEmptyPos_eq known inside
  have radius {cell : Pos} (differs : cell ≠ curr) : 1 ≤ curr.steps cell := by
    obtain ⟨x, y⟩ := cell
    obtain ⟨currX, currY⟩ := curr
    rw [ne_eq, Pos.mk.injEq] at differs
    unfold Pos.steps
    dsimp only
    omega
  cases straight : (curr.ray (directOffset direct) 3).find? (freeCell pkMapBase) with
  | some pos =>
      rw [straight, Option.some_or, Option.getD_some] at result
      obtain ⟨count, positive, small, same, free, before⟩ := find?_ray straight
      refine .inl ⟨count, positive, small, result.trans same, ?_, fun nearer first less other =>
        before nearer first less other.freeCell⟩
      rw [result, same]
      exact candidate_along step positive small (same ▸ free)
  | none =>
      rw [straight, Option.none_or] at result
      refine .inr ⟨fun count positive small candidate => ?_, ?_⟩
      · refine List.find?_eq_none.mp straight _ ?_ candidate.freeCell
        refine List.mem_map.mpr ⟨count - 1, List.mem_range.mpr (by omega), ?_⟩
        rw [Nat.sub_add_cancel positive]
      · cases around : GrowingRings.search (fun size => ring curr size) (freeCell pkMapBase) 1 4 with
        | some pos =>
            rw [around, Option.getD_some] at result
            obtain ⟨free, differs, small, least⟩ := GrowingRings.search_eq_some mem_ring around
            obtain ⟨inMap, walkable⟩ := (freeCell_iff pos).mp free
            refine .inl ⟨result ▸ ⟨inMap, walkable, differs, by omega⟩, fun cell candidate => ?_⟩
            have bound := least cell candidate.freeCell candidate.differs
            have positive := radius candidate.differs
            rw [result]
            omega
        | none =>
            rw [around, Option.getD_none] at result
            refine .inr ⟨result, fun cell candidate => ?_⟩
            have near := candidate.near
            exact GrowingRings.search_eq_none mem_ring around candidate.differs (by omega)
              (by decide) candidate.freeCell

/-- A free cell within four steps is found whenever there is one. The nearest of the three cells
straight ahead comes first, and then a nearest cell around. -/
theorem getEmptyPos_chooses (pkMapBase : Pos → Bool) (inside : curr.InMap)
    (known : 1 ≤ direct ∧ direct ≤ 8) :
    let found := getEmptyPos pkMapBase curr direct
    let ahead := curr.along (directOffset direct)
    ((∃ cell, curr.Candidate pkMapBase cell) → curr.Candidate pkMapBase found) ∧
    ((¬ ∃ cell, curr.Candidate pkMapBase cell) → found = curr) ∧
    (∀ count, 1 ≤ count → count ≤ 3 → curr.Candidate pkMapBase (ahead count) →
      ∃ nearest, 1 ≤ nearest ∧ nearest ≤ count ∧ found = ahead nearest) ∧
    ((∀ count, 1 ≤ count → count ≤ 3 → ¬ curr.Candidate pkMapBase (ahead count)) →
      ∀ cell, curr.Candidate pkMapBase cell → curr.steps found ≤ curr.steps cell) ∧
    (∀ count, 1 ≤ count → count ≤ 3 → curr.Candidate pkMapBase (ahead count) →
      (∀ cell, curr.Candidate pkMapBase cell → curr.steps (ahead count) ≤ curr.steps cell) →
        found = ahead count) ∧
    (∀ cell ∈ getEmptyPosReads pkMapBase curr direct, cell.InMap) ∧
    ∀ other : Pos → Bool,
      (∀ cell ∈ getEmptyPosReads pkMapBase curr direct, other cell = pkMapBase cell) →
        getEmptyPos other curr direct = found := by
  intro found ahead
  have radius (count : Nat) : curr.steps (ahead count) = count :=
    steps_along (directOffset_isStep known) count
  have nearest : ∀ count, 1 ≤ count → count ≤ 3 → curr.Candidate pkMapBase (ahead count) →
      ∃ nearest, 1 ≤ nearest ∧ nearest ≤ count ∧ found = ahead nearest ∧
        curr.Candidate pkMapBase found := by
    intro count positive small candidate
    rcases getEmptyPos_cases inside known with ⟨first, least, _, same, isCandidate, before⟩ | around
    · refine ⟨first, least, Nat.not_lt.mp fun less => before count positive less candidate, same,
        isCandidate⟩
    · exact absurd candidate (around.1 count positive small)
  refine ⟨?_, ?_, ?_, ?_, ?_, getEmptyPosReads_inMap curr direct, fun other agrees =>
    getEmptyPos_congr_reads curr direct agrees⟩
  · rintro ⟨cell, candidate⟩
    rcases getEmptyPos_cases inside known with ⟨_, _, _, _, isCandidate, _⟩ | ⟨_, isCandidate | none⟩
    · exact isCandidate
    · exact isCandidate.1
    · exact absurd candidate (none.2 cell)
  · intro none
    rcases getEmptyPos_cases inside known with ⟨_, _, _, _, isCandidate, _⟩ | ⟨_, isCandidate | same⟩
    · exact absurd ⟨_, isCandidate⟩ none
    · exact absurd ⟨_, isCandidate.1⟩ none
    · exact same.1
  · intro count positive small candidate
    obtain ⟨first, least, less, same, _⟩ := nearest count positive small candidate
    exact ⟨first, least, less, same⟩
  · intro blocked cell candidate
    rcases getEmptyPos_cases inside known with ⟨count, least, small, same, isCandidate, _⟩ |
      ⟨_, isCandidate | none⟩
    · rw [same] at isCandidate
      exact absurd isCandidate (blocked count least small)
    · exact isCandidate.2 cell candidate
    · exact absurd candidate (none.2 cell)
  · intro count positive small candidate least
    obtain ⟨first, _, less, same, isCandidate⟩ := nearest count positive small candidate
    have bound := least found isCandidate
    rw [same, radius, radius] at bound
    rw [same, Nat.le_antisymm less bound]

end Choice

/-- The first cell ahead is free. -/
theorem getEmptyPos_chooses_east : getEmptyPos (fun _ => true) ⟨10, 10⟩ 3 = ⟨11, 10⟩ := by
  have inside : Pos.InMap ⟨10, 10⟩ := by decide
  have known : (1 : Int) ≤ 3 ∧ (3 : Int) ≤ 8 := by decide
  have choice := getEmptyPos_chooses (fun _ => true) inside known
  obtain ⟨nearest, positive, small, same⟩ := choice.2.2.1 1 (by decide) (by decide)
    ⟨by decide, rfl, by decide, by decide⟩
  obtain rfl : nearest = 1 := Nat.le_antisymm small positive
  exact same

/-- A cell beside the role is nearer than the free cell ahead. -/
theorem getEmptyPos_not_nearest :
    ¬ ∀ (pkMapBase : Pos → Bool) (curr : Pos) (direct : Int), curr.InMap → 1 ≤ direct ∧ direct ≤ 8 →
      ∀ cell, curr.Candidate pkMapBase cell →
        curr.steps (getEmptyPos pkMapBase curr direct) ≤ curr.steps cell := by
  intro claim
  have bound := claim (fun pos => decide (pos = ⟨12, 10⟩ ∨ pos = ⟨10, 11⟩)) ⟨10, 10⟩ 3 (by decide)
    (by decide) ⟨10, 11⟩ ⟨by decide, by decide, by decide, by decide⟩
  revert bound
  decide +kernel

end AppSvr.PkServer
