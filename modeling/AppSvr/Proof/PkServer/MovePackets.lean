/-
This file proves when the clients can follow a line from the points of its packet.
-/

import AppSvr.Construction.PkServer.MovePacket
import AppSvr.Proof.PkServer.PathSearch

namespace AppSvr.PkServer

namespace Pos

/-- A client goes straight or diagonally towards a point. -/
def towards (cell goal : Pos) : Pos :=
  ⟨cell.x + (goal.x - cell.x).sign, cell.y + (goal.y - cell.y).sign⟩

/-- The cells behind the first one. -/
def walkTo (goal : Pos) : Nat → Pos → List Pos
  | 0, _ => []
  | steps + 1, cell => cell.towards goal :: walkTo goal steps (cell.towards goal)

def steps (cell goal : Pos) : Nat := max (goal.x - cell.x).natAbs (goal.y - cell.y).natAbs

/-- The cells behind the first one on the way from point to point. -/
def walkAll : Pos → List Pos → List Pos
  | _, [] => []
  | cell, goal :: points => goal.walkTo (cell.steps goal) cell ++ goal.walkAll points

/-- The cells on the way from point to point. -/
def walkPoints : List Pos → List Pos
  | [] => []
  | first :: points => first :: first.walkAll points

/-- The cell that lies some steps of an offset behind another one. -/
def along (cell : Pos) (offset : Int × Int) (count : Nat) : Pos :=
  ⟨cell.x + count * offset.1, cell.y + count * offset.2⟩

/-- The cells up to this one. -/
def ray (cell : Pos) (offset : Int × Int) (count : Nat) : List Pos :=
  (List.range count).map fun index => cell.along offset (index + 1)

end Pos

section Walking

variable {cell next : Pos} {direct : Int}

variable (offset : Int × Int) {line points : List Pos}

theorem along_zero : cell.along offset 0 = cell := by simp [Pos.along]

theorem along_along (first second : Nat) :
    (cell.along offset first).along offset second = cell.along offset (first + second) := by
  simp only [Pos.along, Pos.mk.injEq, Int.natCast_add, Int.add_mul]
  omega

theorem ray_succ (count : Nat) :
    cell.ray offset (count + 1) = cell.ray offset count ++ [cell.along offset (count + 1)] := by
  rw [Pos.ray, List.range_succ, List.map_append]
  rfl

theorem ray_cons (count : Nat) : cell.ray offset (count + 1) =
      cell.along offset 1 :: (cell.along offset 1).ray offset count := by
  rw [Pos.ray, List.range_succ_eq_map, List.map_cons, List.map_map, Pos.ray]
  refine congrArg _ (List.map_congr_left fun index _ => ?_)
  rw [along_along, Nat.add_comm 1 (index + 1)]
  rfl

/-- Each of the eight directions is a step. -/
def IsStep : Prop :=
  offset ≠ (0, 0) ∧ offset.1.natAbs ≤ 1 ∧ offset.2.natAbs ≤ 1

/-- The direction to a neighbour is the offset to it. -/
theorem directOffset_getDirect (beside : cell.Beside next) :
    directOffset (getDirect next cell) = (next.x - cell.x, next.y - cell.y) := by
  obtain ⟨differ, nearX, nearY⟩ := beside
  have apart : ¬ (cell.x = next.x ∧ cell.y = next.y) := fun same => differ (by
    cases cell
    cases next
    simpa using same)
  unfold getDirect
  split_ifs <;> change ((_ : Int), (_ : Int)) = _ <;> rw [Prod.mk.injEq] <;> omega

theorem along_getDirect (beside : cell.Beside next) :
    cell.along (directOffset (getDirect next cell)) 1 = next := by
  rw [directOffset_getDirect beside, Pos.along]
  cases next
  simp

theorem isStep_getDirect (beside : cell.Beside next) :
    IsStep (directOffset (getDirect next cell)) := by
  rw [directOffset_getDirect beside]
  obtain ⟨differ, nearX, nearY⟩ := beside
  refine ⟨fun same => differ ?_, by omega, by omega⟩
  cases cell
  cases next
  simp only [Prod.mk.injEq] at same
  simp only [Pos.mk.injEq]
  omega

theorem sign_mul_step {factor : Int} (near : factor.natAbs ≤ 1) (count : Nat) :
    ((count + 1 : Nat) * factor).sign = factor := by
  rw [Int.sign_mul, Int.sign_natCast_of_ne_zero (Nat.succ_ne_zero count), Int.one_mul]
  obtain rfl | rfl | rfl : factor = -1 ∨ factor = 0 ∨ factor = 1 := by omega
  all_goals rfl

theorem steps_along {offset : Int × Int} (step : IsStep offset) (count : Nat) :
    cell.steps (cell.along offset count) = count := by
  obtain ⟨x, y⟩ := offset
  obtain ⟨differ, nearX, nearY⟩ := step
  have moves : x.natAbs = 1 ∨ y.natAbs = 1 := by
    by_contra still
    exact differ (by
      simp only [Prod.mk.injEq]
      omega)
  have coordinates (start move : Int) :
      (start + count * move - start).natAbs = count * move.natAbs := by
    rw [add_sub_cancel_left, Int.natAbs_mul, Int.natAbs_natCast]
  rw [Pos.steps, Pos.along, coordinates, coordinates]
  have width : count * x.natAbs ≤ count * 1 := Nat.mul_le_mul_left _ nearX
  have height : count * y.natAbs ≤ count * 1 := Nat.mul_le_mul_left _ nearY
  dsimp only
  obtain one | one := moves <;> rw [one] at * <;> omega

/-- A walk to a point straight ahead passes the cells up to it. -/
theorem walkTo_along {offset : Int × Int} (step : IsStep offset) (count : Nat) (cell : Pos) :
    (cell.along offset count).walkTo count cell = cell.ray offset count := by
  induction count generalizing cell with
  | zero => rfl
  | succ count ih =>
      have first : cell.towards (cell.along offset (count + 1)) = cell.along offset 1 := by
        simp only [Pos.towards, Pos.along, add_sub_cancel_left, sign_mul_step step.2.1,
          sign_mul_step step.2.2, Nat.cast_one, Int.one_mul]
      rw [Pos.walkTo, first, ray_cons, Nat.add_comm count 1, ← along_along, ih]

theorem walkTo_ahead {point : Pos} {offset : Int × Int} {count : Nat}
    (ahead : cell = point.along offset count) (step : 0 < count → IsStep offset) :
    cell.walkTo (point.steps cell) point = point.ray offset count := by
  obtain rfl | some := Nat.eq_zero_or_pos count
  · rw [ahead, along_zero]
    simp [Pos.steps, Pos.walkTo, Pos.ray]
  · rw [ahead, steps_along (step some), walkTo_along (step some)]

/-- The points of the rest of a line lead over the rest, when the first cell lies ahead of the last
point. -/
theorem walkAll_turnPoints {point : Pos} {count : Nat} (chain : (cell :: line).IsChain Pos.Beside)
    (ahead : cell = point.along (directOffset direct) count)
    (step : 0 < count → IsStep (directOffset direct))
    (turns : turnPoints direct (cell :: line) = some points) :
    point.walkAll points = point.ray (directOffset direct) count ++ line := by
  induction line generalizing cell direct points point count with
  | nil =>
      cases Option.some.inj turns
      rw [Pos.walkAll, walkTo_ahead ahead step]
      rfl
  | cons next line ih =>
      obtain ⟨beside, chain⟩ := List.isChain_cons_cons.mp chain
      have forward := along_getDirect beside
      have isStep := isStep_getDirect beside
      rw [turnPoints, if_neg (getDirect_ne beside)] at turns
      split at turns
      case isTrue same =>
        rw [same] at forward isStep
        rw [ahead, along_along] at forward
        rw [ih chain forward.symm (fun _ => isStep) turns, ray_succ, forward, List.append_assoc]
        rfl
      case isFalse turn =>
        obtain ⟨later, known, rfl⟩ := Option.map_eq_some_iff.mp turns
        rw [Pos.walkAll, walkTo_ahead ahead step,
          ih chain forward.symm (fun _ => isStep) known, ray_succ, forward]
        rfl

/-- The points of a line lead over its cells. -/
theorem walkPoints_turnPoints (chain : (cell :: line).IsChain Pos.Beside)
    (turns : turnPoints direct (cell :: line) = some points) :
    Pos.walkPoints (cell :: points) = cell :: line := by
  have here : cell = cell.along (directOffset direct) 0 := (along_zero _).symm
  have ahead := walkAll_turnPoints chain here (fun none => absurd none (Nat.lt_irrefl 0)) turns
  rw [Pos.walkPoints, ahead]
  rfl

/-- The number of cells at which a line changes its direction, when it starts with this one. -/
def changes : Int → List Pos → Nat
  | direct, pos :: next :: line =>
      (if getDirect next pos = direct then 0 else 1) + changes (getDirect next pos) (next :: line)
  | _, _ => 0

/-- Each change of direction is a point, and so is the last cell. -/
theorem length_turnPoints (turns : turnPoints direct (cell :: line) = some points) :
    points.length = changes direct (cell :: line) + 1 := by
  induction line generalizing cell direct points with
  | nil =>
      cases Option.some.inj turns
      rfl
  | cons next line ih =>
      rw [turnPoints] at turns
      rw [changes]
      split at turns
      case isTrue => cases turns
      case isFalse =>
        split at turns
        case isTrue same => rw [ih turns, if_pos same, same, Nat.zero_add]
        case isFalse differs =>
          obtain ⟨later, known, rfl⟩ := Option.map_eq_some_iff.mp turns
          rw [List.length_cons, ih known, if_neg differs, Nat.add_comm 1]

end Walking

section Packet

/-- A coordinate is a `short int`. -/
def IsShort (value : Int) : Prop := -32768 ≤ value ∧ value ≤ 32767

def Pos.IsShort (pos : Pos) : Prop := PkServer.IsShort pos.x ∧ PkServer.IsShort pos.y

instance (pos : Pos) : Decidable pos.IsShort :=
  inferInstanceAs (Decidable ((_ ∧ _) ∧ (_ ∧ _)))

/-- A client reads a number from its memory. -/
def readShort (bytes : List UInt8) : Int := short (LittleEndian.decode bytes)

def readPoints : Nat → List UInt8 → List Pos
  | 0, _ => []
  | count + 1, bytes =>
      ⟨readShort (bytes.take 2), readShort ((bytes.drop 2).take 2)⟩ ::
        readPoints count (bytes.drop 4)

/-- The length in the header. -/
def packetLength (packet : List UInt8) : Nat := LittleEndian.decode (packet.take 2)

/-- The points behind their number. -/
def packetPoints (packet : List UInt8) : List Pos :=
  readPoints (readShort ((packet.drop 27).take 2)).toNat (packet.drop 29)

theorem memory_length (width : Nat) (value : Int) : (memory width value).length = width :=
  LittleEndian.encode_length _ _

theorem readShort_memory {value : Int} (small : IsShort value) :
    readShort (memory 2 value) = value := by
  have bounds : (value % 65536).toNat < 256 ^ 2 := by omega
  have same : LittleEndian.decode (memory 2 value) = (value % 65536).toNat :=
    LittleEndian.decode_encode_of_lt bounds
  rw [readShort, same]
  unfold short IsShort at *
  omega

/-- The memory of a point. -/
def Pos.bytes (pos : Pos) : List UInt8 := memory 2 pos.x ++ memory 2 pos.y

theorem readPoints_bytes {points : List Pos} (shorts : ∀ pos ∈ points, pos.IsShort) :
    readPoints points.length (points.flatMap Pos.bytes) = points := by
  induction points with
  | nil => rfl
  | cons pos points ih =>
      have first := shorts pos List.mem_cons_self
      have width (value : Int) : (memory 2 value).length = 2 := memory_length 2 value
      have left : ((pos :: points).flatMap Pos.bytes).take 2 = memory 2 pos.x := by
        rw [List.flatMap_cons, Pos.bytes, List.append_assoc]
        exact List.take_left' (width _)
      have later : ((pos :: points).flatMap Pos.bytes).drop 2 =
          memory 2 pos.y ++ points.flatMap Pos.bytes := by
        rw [List.flatMap_cons, Pos.bytes, List.append_assoc]
        exact List.drop_left' (width _)
      have rest : ((pos :: points).flatMap Pos.bytes).drop 4 = points.flatMap Pos.bytes := by
        rw [List.flatMap_cons]
        exact List.drop_left' (by rw [Pos.bytes, List.length_append, width, width])
      rw [List.length_cons, readPoints, left, later, rest, List.take_left' (width _),
        readShort_memory first.1, readShort_memory first.2,
        ih fun other member => shorts other (List.mem_cons_of_mem _ member)]

namespace MoveBuff

/-- The buffer after these points. -/
def holding (points : List Pos) : MoveBuff :=
  ⟨points.flatMap Pos.bytes, 29 + 4 * points.length, points.length⟩

theorem put_holding (points : List Pos) (pos : Pos) :
    (holding points).put pos =
      if points.length < 56 then some (holding (points ++ [pos])) else none := by
  rw [put]
  by_cases fits : points.length < 56
  · rw [if_pos fits, if_neg (by rw [holding]; dsimp only; omega)]
    have counted : short (29 + 4 * points.length + 4) = 29 + 4 * (points.length + 1 : Nat) := by
      rw [short_eq_self] <;> omega
    have turned : short (points.length + 1) = (points.length + 1 : Nat) := by
      rw [short_eq_self] <;> omega
    simp only [holding, counted, turned, List.flatMap_append, List.flatMap_singleton,
      List.length_append, List.length_singleton]
    rfl
  · rw [if_neg fits, if_pos (by rw [holding]; dsimp only; omega)]

/-- The loop writes the turns while the buffer lasts. -/
theorem compress_holding {direct : Int} {line turns : List Pos}
    (known : turnPoints direct line = some turns) (points : List Pos) (few : points.length ≤ 56) :
    compress direct line (holding points) =
      if points.length + turns.length ≤ 56 then some (holding (points ++ turns)) else none := by
  induction line generalizing direct turns points with
  | nil =>
      cases Option.some.inj known
      rw [List.append_nil]
      exact (if_pos few).symm
  | cons pos line ih =>
      cases line with
      | nil =>
          cases Option.some.inj known
          exact put_holding points pos
      | cons next line =>
          rw [turnPoints] at known
          rw [compress]
          split at known
          case isTrue => cases known
          case isFalse apart =>
            rw [if_neg apart]
            split at known
            case isTrue same =>
              rw [if_pos same]
              exact ih known points few
            case isFalse differs =>
              obtain ⟨later, turned, rfl⟩ := Option.map_eq_some_iff.mp known
              rw [if_neg differs, put_holding]
              by_cases fits : points.length < 56
              · have longer : (points ++ [pos]).length = points.length + 1 := by simp
                rw [if_pos fits, Option.bind_some, ih turned _ (by omega), longer,
                  List.append_assoc, List.length_cons, Nat.add_assoc, Nat.add_comm 1]
                rfl
              · rw [if_neg fits, if_neg (by rw [List.length_cons]; omega)]
                rfl

end MoveBuff

section Fields

variable {srvReq uiUniqID controlID id now direct : Int} {mini : Pos} {line turns : List Pos}
  {first : Pos}

theorem movePacket_eq (known : turnPoints direct (first :: line) = some turns) :
    movePacket srvReq uiUniqID controlID id now mini direct (first :: line) =
      if (first :: turns).length ≤ 56 then
        some (pkgHead (29 + 4 * (first :: turns).length) srvReq 103 uiUniqID controlID ++
          moveBytes id now mini (MoveBuff.holding (first :: turns)))
      else none := by
  have begins : MoveBuff.start.put first = some (MoveBuff.holding [first]) :=
    MoveBuff.put_holding [] first
  rw [movePacket, begins, Option.bind_some, MoveBuff.compress_holding known _ (by simp)]
  have longer : [first].length + turns.length = (first :: turns).length := Nat.add_comm _ _
  rw [longer]
  split <;> rfl

theorem length_flatMap_bytes (points : List Pos) :
    (points.flatMap Pos.bytes).length = 4 * points.length := by
  have width (pos : Pos) : pos.bytes.length = 4 := by
    rw [Pos.bytes, List.length_append, memory_length, memory_length]
  rw [List.length_flatMap, List.map_congr_left fun pos _ => width pos, List.map_const',
    List.sum_replicate_nat, Nat.mul_comm]

/-- The clients read the length and the points of a packet. -/
theorem packet_reads {points : List Pos} (few : points.length ≤ 56)
    (shorts : ∀ pos ∈ points, pos.IsShort) :
    let packet := pkgHead (29 + 4 * points.length) srvReq 103 uiUniqID controlID ++
      moveBytes id now mini (MoveBuff.holding points)
    packetLength packet = packet.length ∧ packetPoints packet = points := by
  let front := pkgHead (29 + 4 * points.length) srvReq 103 uiUniqID controlID ++
    (memory 4 id ++ memory 4 now ++ memory 2 mini.x ++ memory 2 mini.y)
  have shape : pkgHead (29 + 4 * points.length) srvReq 103 uiUniqID controlID ++
      moveBytes id now mini (MoveBuff.holding points) =
        front ++ (memory 2 points.length ++ points.flatMap Pos.bytes) := by
    simp only [front, moveBytes, MoveBuff.holding, List.append_assoc]
  have width : front.length = 27 := by
    simp only [front, pkgHead, List.length_append, memory_length]
  have count : (memory 2 (points.length : Int)).length = 2 := memory_length _ _
  have longer : (front ++ (memory 2 points.length ++ points.flatMap Pos.bytes)).length =
      29 + 4 * points.length := by
    rw [List.length_append, width, List.length_append, count, length_flatMap_bytes]
    omega
  dsimp only
  rw [shape]
  constructor
  · have begins : (front ++ (memory 2 points.length ++ points.flatMap Pos.bytes)).take 2 =
        memory 2 (29 + 4 * points.length) := by
      simp only [front, pkgHead, List.append_assoc]
      exact List.take_left' (memory_length _ _)
    have small : ((29 + 4 * points.length : Int) % 256 ^ 2).toNat < 256 ^ 2 := by omega
    have read : LittleEndian.decode (memory 2 (29 + 4 * points.length)) =
        ((29 + 4 * points.length : Int) % 256 ^ 2).toNat :=
      LittleEndian.decode_encode_of_lt small
    rw [packetLength, begins, read, longer]
    omega
  · have turned : readShort (memory 2 points.length) = points.length :=
      readShort_memory ⟨by omega, by omega⟩
    have behind : (front ++ (memory 2 points.length ++ points.flatMap Pos.bytes)).drop 29 =
        points.flatMap Pos.bytes := by
      rw [← List.append_assoc]
      exact List.drop_left' (by rw [List.length_append, width, count])
    rw [packetPoints, List.drop_left' width, List.take_left' count, behind, turned,
      Int.toNat_natCast, readPoints_bytes shorts]

end Fields

/-- The points of a line are cells of it. -/
theorem turnPoints_subset {direct : Int} {line turns : List Pos}
    (known : turnPoints direct line = some turns) : turns ⊆ line := by
  induction line generalizing direct turns with
  | nil =>
      cases Option.some.inj known
      exact List.Subset.refl _
  | cons pos line ih =>
      cases line with
      | nil =>
          cases Option.some.inj known
          exact List.Subset.refl _
      | cons next line =>
          rw [turnPoints] at known
          split at known
          case isTrue => cases known
          case isFalse =>
            split at known
            case isTrue => exact fun pos member => List.mem_cons_of_mem _ (ih known member)
            case isFalse =>
              obtain ⟨later, turned, rfl⟩ := Option.map_eq_some_iff.mp known
              exact List.cons_subset_cons _ (ih turned)

/-- The clients find the whole line in a packet. -/
structure Describes (packet : List UInt8) (line : List Pos) : Prop where
  length : packetLength packet = packet.length
  line : Pos.walkPoints (packetPoints packet) = line

section Sent

variable {srvReq uiUniqID controlID id now direct : Int} {mini first : Pos} {line turns : List Pos}
  (turned : turnPoints direct (first :: line) = some turns)
include turned

/-- The buffer lasts for 56 points. -/
theorem movePacket_isSome_iff :
    (movePacket srvReq uiUniqID controlID id now mini direct (first :: line)).isSome ↔
      changes direct (first :: line) ≤ 54 := by
  have count : (first :: turns).length = changes direct (first :: line) + 2 := by
    rw [List.length_cons, length_turnPoints turned]
  rw [movePacket_eq turned, count]
  by_cases few : changes direct (first :: line) + 2 ≤ 56
  · rw [if_pos few]
    exact iff_of_true rfl (by omega)
  · rw [if_neg few]
    exact iff_of_false nofun (by omega)

/-- The points of a packet are the turns. -/
theorem movePacket_describes (chain : (first :: line).IsChain Pos.Beside)
    (shorts : ∀ pos ∈ first :: line, pos.IsShort) {packet : List UInt8}
    (sent : movePacket srvReq uiUniqID controlID id now mini direct (first :: line) =
      some packet) :
    Describes packet (first :: line) ∧ packetPoints packet = first :: turns := by
  have cells : ∀ pos ∈ first :: turns, pos.IsShort := by
    intro pos member
    obtain rfl | later := List.mem_cons.mp member
    · exact shorts pos List.mem_cons_self
    · exact shorts pos (turnPoints_subset turned later)
  rw [movePacket_eq turned] at sent
  split at sent
  case isFalse => cases sent
  case isTrue few =>
    cases Option.some.inj sent
    obtain ⟨length, points⟩ := packet_reads few cells
    refine ⟨⟨length, ?_⟩, points⟩
    rw [points]
    exact walkPoints_turnPoints chain turned

end Sent

end Packet

section Found

variable {pkMapBase : Pos → Bool} {endPos : Pos} {waiting done : List PosA} {current : PosA}

/-- What every step of the search keeps holds of its path. -/
theorem searchPath_forall {kept : Pos → Prop}
    (step : ∀ pos offset, offset ∈ neighbours → stepInside pos offset.1 offset.2.1 → kept pos →
      kept ⟨pos.x + offset.1, pos.y + offset.2.1⟩) (fuel : Nat) {path : List PosA}
    (before : ∀ node ∈ waiting ++ done, kept node.node) (listed : current ∈ waiting)
    (found : searchPath pkMapBase endPos fuel waiting done current = some path) :
    ∀ node ∈ path, kept node.node := by
  induction fuel generalizing waiting done current with
  | zero => cases found
  | succ fuel ih =>
      rw [searchPath_succ] at found
      split at found
      case isTrue =>
        cases Option.some.inj found
        intro node member
        refine before node ?_
        obtain rfl | earlier := List.mem_cons.mp member
        · exact List.mem_append_left _ listed
        · exact List.mem_append_right _ earlier
      case isFalse =>
        split at found
        case isTrue => cases found
        case isFalse more =>
          split at found
          case isTrue => cases found
          case isFalse =>
            refine ih (fun node member => ?_) (cheapest_mem more) found
            obtain old | new := List.mem_append.mp ((visit_perm _ _ _ listed).1.mem_iff.mp member)
            · obtain old | new := List.mem_append.mp old
              · exact before node (List.mem_append_left _ old)
              · obtain ⟨offset, neighbour, made⟩ := List.mem_filterMap.mp new
                obtain ⟨-, inside, -, -, same⟩ := expand_spec made
                rw [same]
                have known := before current (List.mem_append_left _ listed)
                exact step _ offset neighbour inside known
            · exact before node (List.mem_append_right _ new)

/-- The coordinates of a path do not leave `short int`. -/
theorem searchPath_isShort {startPos : Pos} (startShort : startPos.IsShort) {path : List PosA}
    {fuel : Nat} (found : searchPath pkMapBase endPos fuel [⟨startPos, startPos, 0, 0⟩] []
      ⟨startPos, startPos, 0, 0⟩ = some path) : ∀ node ∈ path, node.node.IsShort := by
  refine searchPath_forall ?_ fuel ?_ (List.mem_singleton_self _) found
  · rintro ⟨x, y⟩ ⟨dx, dy, cost⟩ neighbour inside small
    simp only [neighbours, List.mem_cons, Prod.mk.injEq, List.not_mem_nil, or_false] at neighbour
    simp only [stepInside, mapSizeX, mapSizeY] at inside
    simp only [Pos.IsShort, IsShort] at small ⊢
    omega
  · intro node member
    rw [List.append_nil, List.mem_singleton] at member
    rw [member]
    exact startShort

end Found

namespace PKPE

variable (battle : PKPE) (id : Int) (startPos endPos : Pos)

/-- The line that the search finds, and its first direction. -/
def foundLine : List Pos × Int :=
  match searchPath battle.pkMapBase (battle.goal id endPos) searchFuel
      [⟨startPos, startPos, 0, 0⟩] [] ⟨startPos, startPos, 0, 0⟩ with
  | none | some [] => ([], 0)
  | some (last :: done) =>
      let (line, direct) := followBack last done [last.node]
      (line, direct.getD (battle.role id).moveAttrb.direct)

/-- The role gets a line, and the clients find this line in the packet. -/
def DescribesPath : Prop :=
  let after := (battle.aStar id startPos endPos).2
  let moveAttrb := (after.role id).moveAttrb
  ∀ srvReq uiUniqID controlID : Int, ∃ packet,
    movePacket srvReq uiUniqID controlID id battle.fragmentNow moveAttrb.currentPosMini
        moveAttrb.direct moveAttrb.moveLine = some packet ∧
      Describes packet moveAttrb.moveLine ∧
      after.sent = battle.sent ++
        [(battle.fragmentNow, .move id moveAttrb.currentPosMini (packetPoints packet))]

variable {battle id startPos endPos}

/-- A call that succeeds sends the turns of the line. -/
theorem aStar_found (found : (battle.aStar id startPos endPos).1 = 0)
    (startShort : startPos.IsShort) : ∃ line direct turns,
      battle.foundLine id startPos endPos = (startPos :: line, direct) ∧
      turnPoints direct (startPos :: line) = some turns ∧
      (startPos :: line).IsChain Pos.Beside ∧ (∀ cell ∈ startPos :: line, cell.IsShort) ∧
      battle.aStar id startPos endPos =
        (0, ((battle.note (.aStar startPos)).modifyRole id fun role =>
          (role.setMoveLine (startPos :: line)).setDirect direct).send (.move id
            (battle.role id).moveAttrb.currentPosMini (startPos :: turns))) := by
  obtain ⟨result, failed, other⟩ | ⟨inside, last, older, search⟩ :=
    battle.aStar_fails_or_search id startPos endPos
  · rw [failed] at found
    exact absurd found other
  obtain ⟨line, direct, back, known, walk⟩ := followBack_of_search search
  have chain := (walk 0).chain
  obtain ⟨turns, turned⟩ := Option.isSome_iff_exists.mp
    (turnPoints_isSome (direct.getD (battle.role id).moveAttrb.direct) chain)
  refine ⟨line, _, turns, ?_, turned, chain, ?_, ?_⟩
  · rw [foundLine, search]
    dsimp only
    rw [back]
  · intro cell member
    obtain ⟨picked, sublist, same⟩ := followBack_picks last older [last.node]
    rw [back] at same
    dsimp only at same
    have shorts := searchPath_isShort startShort search
    rw [same] at member
    obtain early | final := List.mem_append.mp member
    · obtain ⟨node, listed, rfl⟩ := List.mem_map.mp (List.mem_reverse.mp early)
      exact shorts node (List.mem_cons_of_mem _ (sublist.subset listed))
    · rw [List.mem_singleton.mp final]
      exact shorts last List.mem_cons_self
  · rw [aStar_of_search inside search back known turned]
    rfl

/-- A call succeeds when the search finds a line. -/
theorem aStar_of_foundLine (inside : endPos.InMap)
    (line : (battle.foundLine id startPos endPos).1 ≠ []) :
    (battle.aStar id startPos endPos).1 = 0 := by
  rw [foundLine] at line
  split at line
  case h_1 => exact absurd rfl line
  case h_2 => exact absurd rfl line
  case h_3 last older search =>
    obtain ⟨line, direct, back, known, walk⟩ := followBack_of_search search
    obtain ⟨turns, turned⟩ := Option.isSome_iff_exists.mp
      (turnPoints_isSome (direct.getD (battle.role id).moveAttrb.direct) (walk 0).chain)
    rw [aStar_of_search inside search back known turned]

section Described

variable (startShort : startPos.IsShort) (found : (battle.aStar id startPos endPos).1 = 0)
include startShort found

theorem DescribesPath.changes_le (describes : battle.DescribesPath id startPos endPos) :
    changes (battle.foundLine id startPos endPos).2 (battle.foundLine id startPos endPos).1 ≤
      54 := by
  obtain ⟨line, direct, turns, same, turned, chain, shorts, result⟩ := aStar_found found startShort
  rw [DescribesPath, result] at describes
  dsimp only at describes
  rw [send_toRoles, modifyRole_self] at describes
  obtain ⟨packet, sent, -⟩ := describes 0 0 0
  rw [same]
  exact (movePacket_isSome_iff turned).mp (Option.isSome_iff_exists.mpr ⟨packet, sent⟩)

end Described

/-- A battle without roles on a map with these cells. -/
def onMap (pkMapBase : Pos → Bool) : PKPE :=
  { PKPE.empty 1 1 (fun _ => true) (fun _ => default) with pkMapBase := pkMapBase }

/-- The way turns at every cell but one of the first fifty-seven ones. -/
def zigzag (pos : Pos) : Bool := pos.y = pos.x % 2 ∨ 2 ≤ pos.y ∧ pos.x = 49 - pos.y % 2

end PKPE

end AppSvr.PkServer
