/-
This file proves which chains of reads report every truncated input.
-/

import AppSvr.Proof.BaseServer.Progress

namespace AppSvr.BaseServer.Archive
open LittleEndian

def remainderFixed (width : Nat) (input : List UInt8) : Option (List UInt8) :=
  if input.length < width then none else some (input.drop width)

def remainderCounted (follow : Nat → List UInt8 → Option (List UInt8)) (input : List UInt8) :
    Option (List UInt8) :=
  if input.length < 2 then none else follow (decode (input.take 2)) (input.drop 2)

def repeated (remainder : List UInt8 → Option (List UInt8)) :
    Nat → List UInt8 → Option (List UInt8)
  | 0, input => some input
  | size + 1, input => (remainder input).bind (repeated remainder size)

mutual

/-- A complete input has these bytes behind the object, and a truncated one has no remainder. -/
def remainder : Archive → List UInt8 → Option (List UInt8)
  | .fixed type, input => remainderFixed type.fixed.width input
  | .string, input => remainderCounted remainderFixed input
  | .list element, input => remainderCounted (repeated (remainder element)) input
  | .record entries, input => remainderEntries entries input

def remainderEntries : List Archive → List UInt8 → Option (List UInt8)
  | [], input => some input
  | entry :: entries, input => (remainder entry input).bind (remainderEntries entries)

end

mutual

/-- A complete object has at least this many bytes. -/
def least : Archive → Nat
  | .fixed type => type.fixed.width
  | .string => 2
  | .list _ => 2
  | .record entries => leastEntries entries

def leastEntries : List Archive → Nat
  | [] => 0
  | entry :: entries => least entry + leastEntries entries

end

mutual

/-- A load can stop with an error in front of this many unread bytes. -/
def canLeave : Archive → Nat → Bool
  | .fixed type, left => left < type.fixed.width
  | .string, left => left < 65535
  | .list element, left => left < 2 || canLeave element left
  | .record entries, left => canLeaveEntries entries left

def canLeaveEntries : List Archive → Nat → Bool
  | [], _ => false
  | entry :: entries, left => canLeave entry left || canLeaveEntries entries left

end

/-- The columns of a record are skipped after an error. -/
def guarded : Archive → Bool
  | .record _ => true
  | _ => false

mutual

/-- A load can miss bytes, end without an error, and leave this many unread bytes. -/
def masks : Archive → Nat → Bool
  | .fixed _, _ => false
  | .string, _ => false
  | .list element, left =>
      masks element left || (!guarded element && canLeave element (least element + left))
  | .record entries, left => masksEntries entries left

def masksEntries : List Archive → Nat → Bool
  | [], _ => false
  | entry :: entries, left =>
      masks entry (leastEntries entries + left) || masksEntries entries left

end

/-- The chain can miss bytes and end without an error: an error is cleared inside a read, or by the
unguarded reads behind it. -/
def unreported : List Archive → Bool
  | [] => false
  | archive :: chain =>
      masks archive (leastEntries chain) ||
        (match chain.dropWhile guarded with
          | [] => false
          | later => canLeave archive (leastEntries later)) ||
        unreported chain

section Monotone

mutual

/-- A load that can leave many bytes can leave fewer. -/
theorem canLeave_mono (archive : Archive) {left less : Nat} (fewer : less ≤ left)
    (leaves : canLeave archive left = true) : canLeave archive less = true := by
  match archive with
  | .fixed type =>
      simp only [canLeave, decide_eq_true_eq] at leaves ⊢
      omega
  | .string =>
      simp only [canLeave, decide_eq_true_eq] at leaves ⊢
      omega
  | .list element =>
      simp only [canLeave, Bool.or_eq_true, decide_eq_true_eq] at leaves ⊢
      exact leaves.imp (by omega) (canLeave_mono element fewer)
  | .record entries => exact canLeaveEntries_mono entries fewer leaves

theorem canLeaveEntries_mono (entries : List Archive) {left less : Nat} (fewer : less ≤ left)
    (leaves : canLeaveEntries entries left = true) : canLeaveEntries entries less = true := by
  match entries with
  | [] => cases leaves
  | entry :: entries =>
      simp only [canLeaveEntries, Bool.or_eq_true] at leaves ⊢
      exact leaves.imp (canLeave_mono entry fewer) (canLeaveEntries_mono entries fewer)

end

mutual

theorem masks_mono (archive : Archive) {left less : Nat} (fewer : less ≤ left)
    (masked : masks archive left = true) : masks archive less = true := by
  match archive with
  | .fixed type => cases masked
  | .string => cases masked
  | .list element =>
      simp only [masks, Bool.or_eq_true, Bool.and_eq_true] at masked ⊢
      exact masked.imp (masks_mono element fewer)
        (And.imp_right (canLeave_mono element (Nat.add_le_add_left fewer _)))
  | .record entries => exact masksEntries_mono entries fewer masked

theorem masksEntries_mono (entries : List Archive) {left less : Nat} (fewer : less ≤ left)
    (masked : masksEntries entries left = true) : masksEntries entries less = true := by
  match entries with
  | [] => cases masked
  | entry :: entries =>
      simp only [masksEntries, Bool.or_eq_true] at masked ⊢
      exact masked.imp (masks_mono entry (Nat.add_le_add_left fewer _))
        (masksEntries_mono entries fewer)

end

end Monotone

/-- A read that starts without an error completes, stops with an error, or misses bytes and hides
it. -/
inductive Outcome (leaves masks : Nat → Bool) (least : Nat) (input : List UInt8) :
    Option (List UInt8) → Progress → Prop where
  | complete {rest : List UInt8} (enough : least + rest.length ≤ input.length) :
      Outcome leaves masks least input (some rest) ⟨rest, false⟩
  | stopped {rest : List UInt8} (left : leaves rest.length = true) :
      Outcome leaves masks least input none ⟨rest, true⟩
  | hidden {rest : List UInt8} (left : masks rest.length = true) :
      Outcome leaves masks least input none ⟨rest, false⟩

/-- A read after an error is skipped or starts again. -/
theorem scan_failed (archive : Archive) (unread : List UInt8) :
    scan archive ⟨unread, true⟩ =
      if guarded archive then ⟨unread, true⟩ else scan archive ⟨unread, false⟩ := by
  cases archive with
  | fixed type => rfl
  | string => rfl
  | list element => rfl
  | record entries =>
      rw [scan, guarded, if_pos rfl]
      induction entries with
      | nil => rfl
      | cons entry entries ih => rw [scanEntries, if_pos rfl, ih]

section Sound

/-- The items of a list keep an error, unless an unguarded item starts again. -/
theorem iterate_outcome {element : Archive}
    (scans : ∀ input, Outcome (canLeave element) (masks element) (least element) input
      (remainder element input) (scan element ⟨input, false⟩)) (size : Nat) :
    (∀ input, Outcome (canLeave element) (masks (.list element)) 0 input
      (repeated (remainder element) size input) ((scan element)^[size] ⟨input, false⟩)) ∧
    (∀ input, canLeave element input.length = true →
      Outcome (canLeave element) (masks (.list element)) 0 input none
        ((scan element)^[size] ⟨input, true⟩)) ∧
    (∀ input, masks (.list element) input.length = true →
      Outcome (canLeave element) (masks (.list element)) 0 input none
        ((scan element)^[size] ⟨input, false⟩)) := by
  have ofElement {left : Nat} (masked : masks element left = true) :
      masks (.list element) left = true := by
    rw [masks, masked, Bool.true_or]
  induction size with
  | zero => exact ⟨fun input => .complete (by omega), fun input => .stopped, fun input => .hidden⟩
  | succ size ih =>
      obtain ⟨fresh, stopped, hidden⟩ := ih
      have weaken {input : List UInt8} {longer : List UInt8} {progress : Progress}
          (outcome : Outcome (canLeave element) (masks (.list element)) 0 input none progress) :
          Outcome (canLeave element) (masks (.list element)) 0 longer none progress := by
        cases outcome with
        | stopped left => exact .stopped left
        | hidden left => exact .hidden left
      have restart (input : List UInt8)
          (afterwards : ∀ rest : List UInt8, least element + rest.length ≤ input.length →
            masks (.list element) rest.length = true) :
          Outcome (canLeave element) (masks (.list element)) 0 input none
            ((scan element)^[size] (scan element ⟨input, false⟩)) := by
        have step := scans input
        generalize remainder element input = result at step
        generalize scan element ⟨input, false⟩ = progress at step
        cases step with
        | complete enough => exact weaken (hidden _ (afterwards _ enough))
        | stopped left => exact weaken (stopped _ left)
        | hidden left => exact weaken (hidden _ (ofElement left))
      refine ⟨fun input => ?_, fun input leaves => ?_, fun input masked => ?_⟩
      · rw [Function.iterate_succ_apply, repeated]
        have step := scans input
        generalize remainder element input = result at step
        generalize scan element ⟨input, false⟩ = progress at step
        cases step with
        | @complete rest enough =>
            have later := fresh rest
            rw [Option.bind_some]
            generalize repeated (remainder element) size rest = result at later
            generalize (scan element)^[size] ⟨rest, false⟩ = progress at later
            cases later with
            | complete bound => exact .complete (by omega)
            | stopped left => exact .stopped left
            | hidden left => exact .hidden left
        | stopped left => exact weaken (stopped _ left)
        | hidden left => exact weaken (hidden _ (ofElement left))
      · rw [Function.iterate_succ_apply, scan_failed]
        by_cases skip : guarded element = true
        · rw [if_pos skip]
          exact stopped input leaves
        · rw [if_neg skip]
          refine restart input fun rest enough => ?_
          rw [masks, Bool.or_eq_true, Bool.and_eq_true]
          exact .inr ⟨by simpa using skip, canLeave_mono element enough leaves⟩
      · rw [Function.iterate_succ_apply]
        exact restart input fun rest enough => masks_mono (.list element) (by omega) masked

theorem scanCounted_outcome {leaves masks : Nat → Bool} {input : List UInt8}
    {follow : Nat → List UInt8 → Progress} {remains : Nat → List UInt8 → Option (List UInt8)}
    (short : ∀ left, left < 2 → leaves left = true)
    (follows : ∀ size unread, Outcome leaves masks 0 unread (remains size unread)
      (follow size unread)) :
    Outcome leaves masks 2 input (remainderCounted remains input)
      (scanCounted follow ⟨input, false⟩) := by
  rw [remainderCounted, scanCounted]
  by_cases few : input.length < 2
  · rw [if_pos few, if_pos (by exact few)]
    exact .stopped (short _ few)
  · rw [if_neg few, if_neg (by exact few)]
    have step := follows (decode (input.take 2)) (input.drop 2)
    generalize remains (decode (input.take 2)) (input.drop 2) = result at step
    dsimp only
    generalize follow (decode (input.take 2)) (input.drop 2) = progress at step
    cases step with
    | complete enough =>
        rw [List.length_drop] at enough
        exact .complete (by omega)
    | stopped left => exact .stopped left
    | hidden left => exact .hidden left

/-- A string stops in front of fewer bytes than its sixteen-bit length. -/
theorem scanString_outcome (input : List UInt8) :
    Outcome (canLeave .string) (masks .string) (least .string) input (remainder .string input)
      (scan .string ⟨input, false⟩) := by
  rw [remainder, scan, scanString, remainderCounted, scanCounted]
  by_cases few : input.length < 2
  · rw [if_pos few, if_pos (by exact few)]
    refine .stopped ?_
    rw [canLeave, decide_eq_true_eq]
    show input.length < 65535
    omega
  · rw [if_neg few, if_neg (by exact few), remainderFixed, scanFixed]
    have header : (input.take 2).length = 2 := by
      rw [List.length_take]
      omega
    have bound := decode_lt (input.take 2)
    rw [header] at bound
    have rest : (input.drop 2).length + 2 = input.length := by
      rw [List.length_drop]
      omega
    by_cases short : (input.drop 2).length < decode (input.take 2)
    · rw [if_pos short, if_pos (by exact short)]
      refine .stopped ?_
      rw [canLeave, decide_eq_true_eq]
      show (input.drop 2).length < 65535
      omega
    · rw [if_neg short, if_neg (by exact short)]
      refine .complete ?_
      rw [least, List.length_drop]
      omega

mutual

/-- Every read ends in one of the three outcomes. -/
theorem scan_outcome (archive : Archive) (input : List UInt8) :
    Outcome (canLeave archive) (masks archive) (least archive) input (remainder archive input)
      (scan archive ⟨input, false⟩) := by
  match archive with
  | .fixed type =>
      rw [remainder, scan, remainderFixed, scanFixed]
      by_cases short : input.length < type.fixed.width
      · rw [if_pos short, if_pos (by exact short)]
        exact .stopped (by rwa [canLeave, decide_eq_true_eq])
      · rw [if_neg short, if_neg (by exact short)]
        refine .complete ?_
        rw [least, List.length_drop]
        omega
  | .string => exact scanString_outcome input
  | .list element =>
      rw [least, remainder, scan, scanList]
      refine scanCounted_outcome (fun left few => ?_) fun size unread => ?_
      · rw [canLeave, Bool.or_eq_true, decide_eq_true_eq]
        exact .inl few
      · have items := (iterate_outcome (scan_outcome element) size).1 unread
        generalize repeated (remainder element) size unread = result at items
        generalize (scan element)^[size] ⟨unread, false⟩ = progress at items
        cases items with
        | complete enough => exact .complete enough
        | stopped left =>
            refine .stopped ?_
            rw [canLeave, left, Bool.or_true]
        | hidden left => exact .hidden left
  | .record entries => exact scanEntries_outcome entries input

theorem scanEntries_outcome (entries : List Archive) (input : List UInt8) :
    Outcome (canLeaveEntries entries) (masksEntries entries) (leastEntries entries) input
      (remainderEntries entries input) (scanEntries entries ⟨input, false⟩) := by
  match entries with
  | [] => exact .complete (by rw [leastEntries]; omega)
  | entry :: entries =>
      have first := scan_outcome entry input
      rw [remainderEntries, scanEntries, if_neg Bool.false_ne_true]
      generalize remainder entry input = result at first
      generalize scan entry ⟨input, false⟩ = progress at first
      cases first with
      | @complete rest enough =>
          have later := scanEntries_outcome entries rest
          rw [Option.bind_some]
          generalize remainderEntries entries rest = result at later
          generalize scanEntries entries ⟨rest, false⟩ = progress at later
          cases later with
          | complete bound => exact .complete (by rw [leastEntries]; omega)
          | stopped left => exact .stopped (by rw [canLeaveEntries, left, Bool.or_true])
          | hidden left => exact .hidden (by rw [masksEntries, left, Bool.or_true])
      | @stopped rest left =>
          have skipped := scan_failed (.record entries) rest
          rw [guarded, if_pos rfl, scan] at skipped
          rw [skipped]
          exact .stopped (by rw [canLeaveEntries, left, Bool.true_or])
      | @hidden rest left =>
          have later := scanEntries_outcome entries rest
          rw [Option.bind_none]
          generalize remainderEntries entries rest = result at later
          generalize scanEntries entries ⟨rest, false⟩ = progress at later
          cases later with
          | complete bound =>
              have masked := masks_mono entry bound left
              exact .hidden (by rw [masksEntries, masked, Bool.true_or])
          | stopped left => exact .stopped (by rw [canLeaveEntries, left, Bool.or_true])
          | hidden left => exact .hidden (by rw [masksEntries, left, Bool.or_true])

end

/-- The reads behind an error clear it only with enough unread bytes. -/
def clears (chain : List Archive) (unread left : Nat) : Prop :=
  chain.dropWhile guarded ≠ [] ∧ leastEntries (chain.dropWhile guarded) + left ≤ unread

theorem unreported_cons {archive : Archive} {chain : List Archive} :
    unreported (archive :: chain) = true ↔ masks archive (leastEntries chain) = true ∨
      (chain.dropWhile guarded ≠ [] ∧
        canLeave archive (leastEntries (chain.dropWhile guarded)) = true) ∨
      unreported chain = true := by
  rw [unreported, Bool.or_eq_true, Bool.or_eq_true, or_assoc]
  cases chain.dropWhile guarded <;> simp

mutual

/-- A chain that ends without an error read everything, or it is one of the unreported chains. -/
theorem scanChain_clear (chain : List Archive) (input left : List UInt8)
    (clear : scanChain chain ⟨input, false⟩ = ⟨left, false⟩) :
    (remainderEntries chain input = some left ∧ leastEntries chain + left.length ≤ input.length) ∨
      unreported chain = true := by
  match chain with
  | [] =>
      obtain rfl : input = left := by simpa [scanChain] using clear
      exact .inl ⟨rfl, by rw [leastEntries]; omega⟩
  | archive :: chain =>
      have first := scan_outcome archive input
      rw [scanChain, List.foldl_cons] at clear
      rw [remainderEntries, leastEntries, unreported_cons]
      generalize remainder archive input = result at first
      generalize scan archive ⟨input, false⟩ = progress at first clear
      cases first with
      | @complete rest enough =>
          rcases scanChain_clear chain rest left clear with ⟨remains, bound⟩ | bad
          · exact .inl ⟨by rwa [Option.bind_some], by omega⟩
          · exact .inr (.inr (.inr bad))
      | @stopped rest leaves =>
          rcases scanChain_recover chain rest left clear with ⟨later, bound⟩ | bad
          · exact .inr (.inr (.inl ⟨later, canLeave_mono archive (by omega) leaves⟩))
          · exact .inr (.inr (.inr bad))
      | @hidden rest masked =>
          rcases scanChain_clear chain rest left clear with ⟨remains, bound⟩ | bad
          · exact .inr (.inl (masks_mono archive (by omega) masked))
          · exact .inr (.inr (.inr bad))

theorem scanChain_recover (chain : List Archive) (input left : List UInt8)
    (clear : scanChain chain ⟨input, true⟩ = ⟨left, false⟩) :
    clears chain input.length left.length ∨ unreported chain = true := by
  match chain with
  | [] => simp [scanChain] at clear
  | archive :: chain =>
      rw [scanChain, List.foldl_cons, scan_failed] at clear
      rw [clears, unreported_cons]
      by_cases skip : guarded archive = true
      · rw [if_pos skip] at clear
        rw [List.dropWhile_cons_of_pos skip]
        rcases scanChain_recover chain input left clear with recovers | bad
        · exact .inl recovers
        · exact .inr (.inr (.inr bad))
      · rw [if_neg skip] at clear
        rw [List.dropWhile_cons_of_neg skip, leastEntries]
        have first := scan_outcome archive input
        generalize remainder archive input = result at first
        generalize scan archive ⟨input, false⟩ = progress at first clear
        cases first with
        | @complete rest enough =>
            rcases scanChain_clear chain rest left clear with ⟨remains, bound⟩ | bad
            · exact .inl ⟨by simp, by omega⟩
            · exact .inr (.inr (.inr bad))
        | @stopped rest leaves =>
            rcases scanChain_recover chain rest left clear with ⟨later, bound⟩ | bad
            · exact .inr (.inr (.inl ⟨later, canLeave_mono archive (by omega) leaves⟩))
            · exact .inr (.inr (.inr bad))
        | @hidden rest masked =>
            rcases scanChain_clear chain rest left clear with ⟨remains, bound⟩ | bad
            · exact .inr (.inl (masks_mono archive (by omega) masked))
            · exact .inr (.inr (.inr bad))

end

end Sound

section Complete

/-- Zero bytes are the shortest complete input. -/
def zeros (length : Nat) : List UInt8 := List.replicate length 0

theorem zeros_add (first second : Nat) : zeros (first + second) = zeros first ++ zeros second :=
  List.replicate_add first second 0

@[simp] theorem zeros_length (length : Nat) : (zeros length).length = length :=
  List.length_replicate

section Headers

variable (low high : UInt8) (rest : List UInt8)

theorem scan_string_header : scan .string ⟨low :: high :: rest, false⟩ =
    scanFixed (decode [low, high]) ⟨rest, false⟩ := by
  rw [scan, scanString, scanCounted, if_neg (by simp)]
  rfl

theorem remainder_string_header :
    remainder .string (low :: high :: rest) = remainderFixed (decode [low, high]) rest := by
  rw [remainder, remainderCounted, if_neg (by simp)]
  rfl

theorem scan_list_header (element : Archive) :
    scan (.list element) ⟨low :: high :: rest, false⟩ =
      (scan element)^[decode [low, high]] ⟨rest, false⟩ := by
  rw [scan, scanList, scanCounted, if_neg (by simp)]
  rfl

theorem remainder_list_header (element : Archive) :
    remainder (.list element) (low :: high :: rest) =
      repeated (remainder element) (decode [low, high]) rest := by
  rw [remainder, remainderCounted, if_neg (by simp)]
  rfl

end Headers

/-- A read of the least zero bytes completes in front of the rest. -/
def Finishes (scan : Progress → Progress) (remainder : List UInt8 → Option (List UInt8))
    (least : Nat) : Prop :=
  ∀ rest, scan ⟨zeros least ++ rest, false⟩ = ⟨rest, false⟩ ∧
    remainder (zeros least ++ rest) = some rest

/-- Some truncated input ends with this error state in front of `left` zero bytes. -/
def Misses (scan : Progress → Progress) (remainder : List UInt8 → Option (List UInt8))
    (left : Nat) (failed : Bool) : Prop :=
  ∃ front, scan ⟨front ++ zeros left, false⟩ = ⟨zeros left, failed⟩ ∧
    remainder (front ++ zeros left) = none

theorem fixed_finishes (width : Nat) (rest : List UInt8) :
    scanFixed width ⟨zeros width ++ rest, false⟩ = ⟨rest, false⟩ ∧
      remainderFixed width (zeros width ++ rest) = some rest := by
  have enough : ¬ (zeros width ++ rest).length < width := by
    rw [List.length_append, zeros_length]
    omega
  have dropped : (zeros width ++ rest).drop width = rest :=
    List.drop_left' (zeros_length width)
  rw [scanFixed, remainderFixed, if_neg (by exact enough), if_neg enough]
  dsimp only
  rw [dropped]
  exact ⟨rfl, rfl⟩

mutual

theorem finishes (archive : Archive) :
    Finishes (scan archive) (remainder archive) (least archive) := by
  match archive with
  | .fixed type => exact fixed_finishes type.fixed.width
  | .string =>
      exact fun rest => ⟨scan_string_header 0 0 rest, remainder_string_header 0 0 rest⟩
  | .list element =>
      exact fun rest => ⟨scan_list_header 0 0 rest element, remainder_list_header 0 0 rest element⟩
  | .record entries => exact finishesEntries entries

theorem finishesEntries (entries : List Archive) :
    Finishes (scanEntries entries) (remainderEntries entries) (leastEntries entries) := by
  match entries with
  | [] => exact fun rest => ⟨rfl, rfl⟩
  | entry :: entries =>
      intro rest
      have first := finishes entry (zeros (leastEntries entries) ++ rest)
      have later := finishesEntries entries rest
      rw [leastEntries, zeros_add, List.append_assoc, scanEntries, remainderEntries,
        if_neg Bool.false_ne_true, first.1, first.2, later.1, Option.bind_some, later.2]
      exact ⟨rfl, rfl⟩

end

mutual

/-- Every length that a load can leave is left by some truncated input. -/
theorem misses_of_canLeave (archive : Archive) {left : Nat}
    (leaves : canLeave archive left = true) :
    Misses (scan archive) (remainder archive) left true := by
  match archive with
  | .fixed type =>
      rw [canLeave, decide_eq_true_eq] at leaves
      refine ⟨[], ?_, ?_⟩
      · rw [List.nil_append, scan, scanFixed, if_pos (by rwa [zeros_length])]
      · rw [List.nil_append, remainder, remainderFixed, if_pos (by rwa [zeros_length])]
  | .string =>
      rw [canLeave, decide_eq_true_eq] at leaves
      have longest : decode [255, 255] = 65535 := by decide
      refine ⟨[255, 255], ?_, ?_⟩
      · exact (scan_string_header 255 255 (zeros left)).trans
          (by rw [longest, scanFixed, if_pos (by rwa [zeros_length])])
      · exact (remainder_string_header 255 255 (zeros left)).trans
          (by rw [longest, remainderFixed, if_pos (by rwa [zeros_length])])
  | .list element =>
      rw [canLeave, Bool.or_eq_true, decide_eq_true_eq] at leaves
      rcases leaves with few | leaves
      · refine ⟨[], ?_, ?_⟩
        · rw [List.nil_append, scan, scanList, scanCounted, if_pos (by rwa [zeros_length])]
        · rw [List.nil_append, remainder, remainderCounted, if_pos (by rwa [zeros_length])]
      · obtain ⟨front, scans, remains⟩ := misses_of_canLeave element leaves
        refine ⟨1 :: 0 :: front, ?_, ?_⟩
        · exact (scan_list_header 1 0 (front ++ zeros left) element).trans scans
        · refine (remainder_list_header 1 0 (front ++ zeros left) element).trans ?_
          show (remainder element (front ++ zeros left)).bind _ = none
          rw [remains, Option.bind_none]
  | .record entries => exact missesEntries_of_canLeave entries leaves

theorem missesEntries_of_canLeave (entries : List Archive) {left : Nat}
    (leaves : canLeaveEntries entries left = true) :
    Misses (scanEntries entries) (remainderEntries entries) left true := by
  match entries with
  | [] => cases leaves
  | entry :: entries =>
      rw [canLeaveEntries, Bool.or_eq_true] at leaves
      rcases leaves with leaves | leaves
      · obtain ⟨front, scans, remains⟩ := misses_of_canLeave entry leaves
        refine ⟨front, ?_, ?_⟩
        · have skipped := scan_failed (.record entries) (zeros left)
          rw [guarded, if_pos rfl, scan] at skipped
          rw [scanEntries, if_neg Bool.false_ne_true, scans, skipped]
        · rw [remainderEntries, remains, Option.bind_none]
      · obtain ⟨front, scans, remains⟩ := missesEntries_of_canLeave entries leaves
        have first := finishes entry (front ++ zeros left)
        refine ⟨zeros (least entry) ++ front, ?_, ?_⟩
        · rw [List.append_assoc, scanEntries, if_neg Bool.false_ne_true, first.1, scans]
        · rw [List.append_assoc, remainderEntries, first.2, Option.bind_some, remains]

end

mutual

/-- Every masked length is left by some truncated input without an error. -/
theorem misses_of_masks (archive : Archive) {left : Nat} (masked : masks archive left = true) :
    Misses (scan archive) (remainder archive) left false := by
  match archive with
  | .fixed type => cases masked
  | .string => cases masked
  | .list element =>
      rw [masks, Bool.or_eq_true, Bool.and_eq_true, Bool.not_eq_true'] at masked
      rcases masked with masked | ⟨unguarded, leaves⟩
      · obtain ⟨front, scans, remains⟩ := misses_of_masks element masked
        refine ⟨1 :: 0 :: front, ?_, ?_⟩
        · exact (scan_list_header 1 0 (front ++ zeros left) element).trans scans
        · refine (remainder_list_header 1 0 (front ++ zeros left) element).trans ?_
          show (remainder element (front ++ zeros left)).bind _ = none
          rw [remains, Option.bind_none]
      · -- The second item is read from the bytes that the first one could not use.
        obtain ⟨front, scans, remains⟩ := misses_of_canLeave element leaves
        have second := (finishes element (zeros left)).1
        rw [zeros_add] at scans remains
        refine ⟨2 :: 0 :: (front ++ zeros (least element)), ?_, ?_⟩
        · refine (scan_list_header 2 0 _ element).trans ?_
          show scan element (scan element ⟨front ++ zeros (least element) ++ zeros left, false⟩) = _
          rw [List.append_assoc, scans, scan_failed, unguarded, if_neg Bool.false_ne_true, second]
        · refine (remainder_list_header 2 0 _ element).trans ?_
          show (remainder element (front ++ zeros (least element) ++ zeros left)).bind _ = none
          rw [List.append_assoc, remains, Option.bind_none]
  | .record entries => exact missesEntries_of_masks entries masked

theorem missesEntries_of_masks (entries : List Archive) {left : Nat}
    (masked : masksEntries entries left = true) :
    Misses (scanEntries entries) (remainderEntries entries) left false := by
  match entries with
  | [] => cases masked
  | entry :: entries =>
      rw [masksEntries, Bool.or_eq_true] at masked
      rcases masked with masked | masked
      · obtain ⟨front, scans, remains⟩ := misses_of_masks entry masked
        have later := (finishesEntries entries (zeros left)).1
        rw [zeros_add] at scans remains
        refine ⟨front ++ zeros (leastEntries entries), ?_, ?_⟩
        · rw [List.append_assoc, scanEntries, if_neg Bool.false_ne_true, scans, later]
        · rw [List.append_assoc, remainderEntries, remains, Option.bind_none]
      · obtain ⟨front, scans, remains⟩ := missesEntries_of_masks entries masked
        have first := finishes entry (front ++ zeros left)
        refine ⟨zeros (least entry) ++ front, ?_, ?_⟩
        · rw [List.append_assoc, scanEntries, if_neg Bool.false_ne_true, first.1, scans]
        · rw [List.append_assoc, remainderEntries, first.2, Option.bind_some, remains]

end

theorem scanChain_finishes (chain : List Archive) (rest : List UInt8) :
    scanChain chain ⟨zeros (leastEntries chain) ++ rest, false⟩ = ⟨rest, false⟩ := by
  induction chain with
  | nil => rfl
  | cons archive chain ih =>
      have first := (finishes archive (zeros (leastEntries chain) ++ rest)).1
      rw [leastEntries, zeros_add, List.append_assoc, scanChain, List.foldl_cons, first]
      exact ih

/-- The first unguarded read behind an error starts again. -/
theorem scanChain_failed {chain : List Archive} (later : chain.dropWhile guarded ≠ [])
    (unread : List UInt8) :
    scanChain chain ⟨unread, true⟩ = scanChain (chain.dropWhile guarded) ⟨unread, false⟩ := by
  induction chain with
  | nil => exact absurd rfl later
  | cons archive chain ih =>
      rw [scanChain, List.foldl_cons, scan_failed]
      by_cases skip : guarded archive = true
      · rw [List.dropWhile_cons_of_pos skip] at later ⊢
        rw [if_pos skip]
        exact ih later
      · rw [List.dropWhile_cons_of_neg skip, if_neg skip]
        rfl

/-- Every unreported chain has a truncated input that leaves no error. -/
theorem exists_unreported {chain : List Archive} (bad : unreported chain = true) :
    ∃ input left, scanChain chain ⟨input, false⟩ = ⟨left, false⟩ ∧
      remainderEntries chain input = none := by
  induction chain with
  | nil => cases bad
  | cons archive chain ih =>
      rcases unreported_cons.mp bad with masked | ⟨later, leaves⟩ | bad
      · obtain ⟨front, scans, remains⟩ := misses_of_masks archive masked
        have rest := scanChain_finishes chain []
        rw [List.append_nil] at rest
        refine ⟨front ++ zeros (leastEntries chain), [], ?_, ?_⟩
        · rw [scanChain, List.foldl_cons, scans]
          exact rest
        · rw [remainderEntries, remains, Option.bind_none]
      · obtain ⟨front, scans, remains⟩ := misses_of_canLeave archive leaves
        have rest := scanChain_finishes (chain.dropWhile guarded) []
        rw [List.append_nil, ← scanChain_failed later] at rest
        refine ⟨front ++ zeros (leastEntries (chain.dropWhile guarded)), [], ?_, ?_⟩
        · rw [scanChain, List.foldl_cons, scans]
          exact rest
        · rw [remainderEntries, remains, Option.bind_none]
      · obtain ⟨input, left, scans, remains⟩ := ih bad
        have first := finishes archive input
        refine ⟨zeros (least archive) ++ input, left, ?_, ?_⟩
        · rw [scanChain, List.foldl_cons, first.1]
          exact scans
        · rw [remainderEntries, first.2, Option.bind_some, remains]

end Complete

section Values

/-- The object has a list that is not inside another list. -/
def direct : Archive → Bool
  | .fixed _ => false
  | .string => false
  | .list _ => true
  | .record entries => directEntries entries
where
  directEntries : List Archive → Bool
    | [] => false
    | entry :: entries => direct entry || directEntries entries

mutual

/-- No list has items with lists. -/
def separable : Archive → Bool
  | .fixed _ => true
  | .string => true
  | .list element => !direct element && separable element
  | .record entries => separableEntries entries

def separableEntries : List Archive → Bool
  | [] => true
  | entry :: entries => separable entry && separableEntries entries

end

theorem smallList_nil {Item : Type} {small : Item → Prop} : SmallList small [] :=
  ⟨by simp, fun _ member => absurd member List.not_mem_nil⟩

mutual

theorem small_fresh (archive : Archive) : Small archive (fresh archive) := by
  match archive with
  | .fixed type => trivial
  | .string => exact ⟨by decide, fun _ _ => trivial⟩
  | .list element => exact smallList_nil
  | .record entries => exact smallEntries_fresh entries

theorem smallEntries_fresh (entries : List Archive) :
    SmallEntries entries (freshEntries entries) := by
  match entries with
  | [] => trivial
  | entry :: entries => exact ⟨small_fresh entry, smallEntries_fresh entries⟩

end

/-- One item is a small list. -/
theorem smallList_single {Item : Type} {small : Item → Prop} {item : Item} (ofItem : small item) :
    SmallList small [item] :=
  ⟨by simp, fun other member => List.mem_singleton.mp member ▸ ofItem⟩

theorem smallList_pair {Item : Type} {small : Item → Prop} {first second : Item}
    (ofFirst : small first) (ofSecond : small second) : SmallList small [first, second] := by
  refine ⟨by simp, fun other member => ?_⟩
  rcases List.mem_pair.mp member with rfl | rfl
  · exact ofFirst
  · exact ofSecond

mutual

/-- Objects without a direct list are bare, and the other types have an object that is not. -/
theorem bare_iff (archive : Archive) :
    (∀ value, Small archive value → Bare archive value) ↔ direct archive = false := by
  match archive with
  | .fixed type => exact ⟨fun _ => rfl, fun _ _ _ => trivial⟩
  | .string => exact ⟨fun _ => rfl, fun _ _ _ => trivial⟩
  | .list element =>
      constructor
      · intro all
        have empty : ([fresh element] : List element.Value) = [] :=
          all _ (smallList_single (small_fresh element))
        cases empty
      · intro none
        cases none
  | .record entries => exact bareEntries_iff entries

theorem bareEntries_iff (entries : List Archive) :
    (∀ value, SmallEntries entries value → BareEntries entries value) ↔
      direct.directEntries entries = false := by
  match entries with
  | [] => exact ⟨fun _ => rfl, fun _ _ _ => trivial⟩
  | entry :: entries =>
      rw [direct.directEntries, Bool.or_eq_false_iff, ← bare_iff entry, ← bareEntries_iff entries]
      constructor
      · intro all
        refine ⟨fun value small => ?_, fun value small => ?_⟩
        · exact (all (value, freshEntries entries) ⟨small, smallEntries_fresh entries⟩).1
        · exact (all (fresh entry, value) ⟨small_fresh entry, small⟩).2
      · rintro ⟨first, rest⟩ value small
        exact ⟨first value.1 small.1, rest value.2 small.2⟩

end

mutual

/-- Every small value is separate exactly when the type is separable. -/
theorem separate_iff (archive : Archive) :
    (∀ value, Small archive value → Separate archive value) ↔ separable archive = true := by
  match archive with
  | .fixed type => exact ⟨fun _ => rfl, fun _ _ _ => trivial⟩
  | .string => exact ⟨fun _ => rfl, fun _ _ _ => trivial⟩
  | .list element =>
      rw [separable, Bool.and_eq_true, Bool.not_eq_true', ← separate_iff element,
        ← bare_iff element]
      constructor
      · intro all
        refine ⟨fun item small => ?_, fun item small => ?_⟩
        · exact (all [item, fresh element] (smallList_pair small (small_fresh element))).2 item
            (List.mem_singleton_self item)
        · exact (all [item] (smallList_single small)).1 item (List.mem_singleton_self item)
      · rintro ⟨bare, separate⟩ items small
        exact ⟨fun item member => separate item (small.2 item member),
          fun item member => bare item (small.2 item (List.dropLast_subset _ member))⟩
  | .record entries => exact separateEntries_iff entries

theorem separateEntries_iff (entries : List Archive) :
    (∀ value, SmallEntries entries value → SeparateEntries entries value) ↔
      separableEntries entries = true := by
  match entries with
  | [] => exact ⟨fun _ => rfl, fun _ _ _ => trivial⟩
  | entry :: entries =>
      rw [separableEntries, Bool.and_eq_true, ← separate_iff entry, ← separateEntries_iff entries]
      constructor
      · intro all
        refine ⟨fun value small => ?_, fun value small => ?_⟩
        · exact (all (value, freshEntries entries) ⟨small, smallEntries_fresh entries⟩).1
        · exact (all (fresh entry, value) ⟨small_fresh entry, small⟩).2
      · rintro ⟨first, rest⟩ value small
        exact ⟨first value.1 small.1, rest value.2 small.2⟩

end

/-- A chain of reads consumes the encodings of its values. -/
theorem loadChain_encoded (chain : List Archive) (values : Values chain)
    (small : SmallEntries chain values) (objects : Values chain) (serializer : Serializer)
    (rest : List UInt8) (ok : serializer.iError = 0)
    (unread : serializer.buffer.unread = entriesBytes chain values ++ rest) :
    loadChain chain objects serializer = (overlayEntries chain objects values,
      ⟨serializer.buffer.advance (entriesBytes chain values) rest, 0⟩) := by
  induction chain generalizing serializer with
  | nil =>
      obtain ⟨buffer, iError⟩ := serializer
      have same : buffer.advance [] rest = buffer :=
        DataBuffer.advance_nil (by simpa [entriesBytes] using unread)
      cases ok
      rw [loadChain, overlayEntries, entriesBytes, same]
      rfl
  | cons archive chain ih =>
      rw [entriesBytes, List.append_assoc] at unread
      have first := load_encoded archive values.1 small.1 objects.1 serializer _ ok unread
      rw [loadChain, first]
      dsimp only
      rw [ih values.2 small.2 objects.2 _ rfl rfl]
      simp [entriesBytes, overlayEntries]

end Values

/-- If the handler sees no error, every read obtained its bytes, and the loaded values are the ones
that the sender encoded. -/
def Reported (chain : List Archive) (objects : Values chain) (buffer : DataBuffer) : Prop :=
  let loaded := loadChain chain objects (.new buffer)
  loaded.2.getErrorCode = 0 →
    remainderEntries chain buffer.unread ≠ none ∧
    ∀ values rest, SmallEntries chain values →
      buffer.unread = entriesBytes chain values ++ rest → loaded.1 = values

/-- A chain of reads into fresh locals reports every input exactly when no read behind a failed one
can clear its error and no list has items with lists. -/
theorem chain_reported_iff (chain : List Archive) :
    (∀ objects buffer, BareEntries chain objects → Reported chain objects buffer) ↔
      unreported chain = false ∧ separableEntries chain = true := by
  have progress (objects : Values chain) (buffer : DataBuffer) :
      (loadChain chain objects (.new buffer)).2.progress =
        scanChain chain ⟨buffer.unread, false⟩ := by
    rw [loadChain_progress]
    rfl
  constructor
  · intro all
    constructor
    · by_contra bad
      rw [Bool.not_eq_false] at bad
      obtain ⟨input, left, scans, remains⟩ := exists_unreported bad
      have ended := progress (freshEntries chain) ⟨0, [], input⟩
      rw [scans] at ended
      have clear := congrArg Progress.failed ended
      refine (all (freshEntries chain) ⟨0, [], input⟩ (bareEntries_fresh chain) ?_).1 remains
      simpa [Serializer.progress, Serializer.getErrorCode] using clear
    · refine (separateEntries_iff chain).mp fun values small => ?_
      have loaded := loadChain_encoded chain values small (freshEntries chain)
        (.new ⟨0, [], entriesBytes chain values⟩) [] rfl (List.append_nil _).symm
      have reported := all (freshEntries chain) ⟨0, [], entriesBytes chain values⟩
        (bareEntries_fresh chain)
      rw [Reported, loaded] at reported
      have restored := (reported rfl).2 values [] small (List.append_nil _).symm
      exact ((overlayEntries_eq_iff chain _ values).mp restored).2
  · rintro ⟨good, separable⟩ objects buffer bare ok
    constructor
    · have clear : scanChain chain ⟨buffer.unread, false⟩ =
          ⟨(loadChain chain objects (.new buffer)).2.buffer.unread, false⟩ := by
        rw [← progress objects, Serializer.progress]
        simpa [Serializer.getErrorCode] using ok
      rcases scanChain_clear chain _ _ clear with ⟨remains, -⟩ | bad
      · rw [remains]
        exact Option.some_ne_none _
      · rw [good] at bad
        cases bad
    · intro values rest small unread
      rw [loadChain_encoded chain values small objects (.new buffer) rest rfl unread]
      exact (overlayEntries_eq_iff chain objects values).mpr
        ⟨bare, (separateEntries_iff chain).mpr separable values small⟩

/-- This is the chain of the handler that sells an item: a cell, a number, and an option byte. -/
def sellChain : List Archive := [.fixed .uInt16, .fixed .uInt16, .fixed .byte]

/-- The number is cut after one byte, which the option byte takes. -/
theorem sellChain_not_reported :
    ¬ Reported sellChain (freshEntries sellChain) ⟨64, [], [1, 0, 1]⟩ := by
  intro reported
  exact (reported (by decide)).1 (by decide)

/-- Three fields of the same width report every truncation. -/
example : unreported [.fixed .uInt32, .fixed .uInt32, .fixed .uInt32] = false := by decide

end AppSvr.BaseServer.Archive
