/-
This file proves which lines of a configuration file are read as they are written.
-/

import AppSvr.Construction.BaseCommon.IniFile

namespace AppSvr.BaseCommon
open StdString

/-- The text has no blank at its ends, and it is not empty. -/
structure Tight (text : List Char) : Prop where
  full : text ≠ []
  first : ∀ letter ∈ text.head?, isBlank letter = false
  last : ∀ letter ∈ text.getLast?, isBlank letter = false

theorem Tight.of_ends {text : List Char} (full : text ≠ [])
    (first : text.head?.all fun letter => !isBlank letter)
    (last : text.getLast?.all fun letter => !isBlank letter) : Tight text where
  full := full
  first := fun letter member => by simpa [Option.mem_def.mp member] using first
  last := fun letter member => by simpa [Option.mem_def.mp member] using last

/-- A comment stands behind one blank. -/
structure IniComment where
  blank : Char
  text : List Char
  isBlank : isBlank blank
  marked : ['#'] <+: text ∨ ['/', '/'] <+: text

theorem IniComment.sharp (comment : IniComment) : ∃ mark letters,
    comment.text = mark :: letters ∧ BaseCommon.isBlank mark = false := by
  rcases comment.marked with ⟨rest, same⟩ | ⟨rest, same⟩
  · exact ⟨'#', rest, same.symm, by decide⟩
  · exact ⟨'/', '/' :: rest, same.symm, by decide⟩

def IniComment.tail (comment : IniComment) : List Char := comment.blank :: comment.text

/-- The part of a line up to the blanks behind its equals sign. -/
structure IniFront where
  lead : List Char
  key : List Char
  mid : List Char
  gap : List Char
  leadBlank : ∀ letter ∈ lead, isBlank letter
  midBlank : ∀ letter ∈ mid, isBlank letter
  gapBlank : ∀ letter ∈ gap, isBlank letter
  keyTight : Tight key
  keyPlain : '=' ∉ key

def IniFront.text (front : IniFront) (rest : List Char) : List Char :=
  front.lead ++ front.key ++ front.mid ++ '=' :: (front.gap ++ rest)

/-- A line with a value. -/
structure IniLine extends IniFront where
  value : List Char
  comment : Option IniComment
  valueTight : Tight value
  valuePlain : ∀ mark ∈ commentMarks, ¬ mark <:+: value
  valueOpen : ∀ front middle back, value ≠ front ++ '[' :: (middle ++ ']' :: back)

/-- The comment of a line with the blank in front of it. -/
def commentTail (comment : Option IniComment) : List Char :=
  match comment with
  | none => []
  | some comment => comment.tail

/-- What follows the blanks behind the equals sign. -/
def IniLine.body (line : IniLine) : List Char := line.value ++ commentTail line.comment

def IniLine.strini (line : IniLine) : List Char := line.text line.body

section Parts

variable {front text rest : List Char}

theorem findIdx?_none (blanks : ∀ letter ∈ front, isBlank letter) :
    front.findIdx? (fun letter => !isBlank letter) = none :=
  List.findIdx?_eq_none_iff.mpr fun letter member => by rw [blanks letter member]; rfl

theorem findIdx?_blanks (blanks : ∀ letter ∈ front, isBlank letter) (full : text ≠ [])
    (sharp : ∀ letter ∈ text.head?, isBlank letter = false) :
    (front ++ text).findIdx? (fun letter => !isBlank letter) = some front.length := by
  obtain ⟨letter, letters, rfl⟩ := List.exists_cons_of_ne_nil full
  rw [List.findIdx?_append, findIdx?_none blanks, List.findIdx?_cons, sharp letter rfl]
  simp

/-- The text up to its last letter that is no blank. -/
theorem findLast_cases (text : List Char) :
    match findLast (fun letter => !isBlank letter) text with
    | some position =>
        text.take (position + 1) = text.rdropWhile isBlank ∧ text.rdropWhile isBlank ≠ []
    | none => text.rdropWhile isBlank = [] := by
  have last := findLast_eq (fun letter => !isBlank letter) text
  have same : (fun letter => !!isBlank letter) = isBlank := by
    funext letter
    exact Bool.not_not _
  rwa [same] at last

theorem findLast_none (blanks : ∀ letter ∈ rest, isBlank letter) :
    findLast (fun letter => !isBlank letter) rest = none := by
  have last := findLast_cases rest
  cases found : findLast (fun letter => !isBlank letter) rest with
  | none => rfl
  | some position =>
      rw [found] at last
      exact absurd (List.rdropWhile_eq_nil_iff.mpr blanks) last.2

theorem findLast_blanks (text : List Char) (blanks : ∀ letter ∈ rest, isBlank letter) :
    findLast (fun letter => !isBlank letter) (text ++ rest) =
      findLast (fun letter => !isBlank letter) text := by
  rw [findLast_append, findLast_none blanks]

theorem findLast_tight (tight : Tight text) :
    findLast (fun letter => !isBlank letter) text = some (text.length - 1) := by
  have shape := List.dropLast_append_getLast tight.full
  have sharp := tight.last _ (List.getLast?_eq_some_getLast tight.full)
  rw [← shape, findLast_append]
  simp [findLast, sharp]

/-- The blanks around the key are left out. -/
theorem keyOf_eq (front : List Char) (blanks : ∀ letter ∈ front, isBlank letter)
    (tight : Tight text) (behind : ∀ letter ∈ rest, isBlank letter) :
    keyOf (front ++ text ++ rest) = some text := by
  have positive := List.length_pos_iff.mpr tight.full
  have sharp : ∀ letter ∈ (text ++ rest).head?, isBlank letter = false := by
    rw [List.head?_append_of_ne_nil _ tight.full]
    exact tight.first
  unfold keyOf
  rw [findLast_blanks _ behind, findLast_append, findLast_tight tight, List.append_assoc,
    findIdx?_blanks blanks (by simp [tight.full]) sharp]
  dsimp only
  have length : front.length + (text.length - 1) - front.length + 1 = text.length := by omega
  rw [length, substr, List.drop_left, List.take_left]

/-- The blanks in front shift all marks. -/
theorem findComment_append (front text : List Char) :
    findComment front.length (front ++ text) =
      (findComment 0 text).map (· + front.length) := by
  unfold findComment findFrom
  rw [List.drop_left, List.drop_zero]
  unfold commentMarks
  simp only [List.findSome?_cons, List.findSome?_nil]
  cases find "\t#".toList text with
  | some position => rfl
  | none =>
      cases find " #".toList text with
      | some position => rfl
      | none =>
          cases find "\t//".toList text with
          | some position => rfl
          | none =>
              cases find " //".toList text with
              | some position => rfl
              | none => rfl

/-- The rest of the line up to the place where it is cut. -/
def cutBody (gap body : List Char) : List Char :=
  match findComment 0 body with
  | none => body
  | some position => body.take (position - gap.length)

/-- The last blanks of the cut text are left out. -/
theorem valueOf_eq {gap body : List Char} (blanks : ∀ letter ∈ gap, isBlank letter)
    (full : body ≠ []) (sharp : ∀ letter ∈ body.head?, isBlank letter = false) :
    valueOf (gap ++ body) =
      let value := (cutBody gap body).rdropWhile isBlank
      if value = [] then none else some value := by
  have read {front text : List Char} (blank : ∀ letter ∈ front, isBlank letter)
      (whole : text ≠ [] → front = gap) :
      (match findLast (fun letter => !isBlank letter) (front ++ text) with
        | none => none
        | some last =>
            some (substr (front ++ text) gap.length (last - gap.length + 1))) =
        if text.rdropWhile isBlank = [] then none else some (text.rdropWhile isBlank) := by
    have last := findLast_cases text
    rw [findLast_append]
    cases found : findLast (fun letter => !isBlank letter) text with
    | none =>
        rw [found] at last
        rw [findLast_none blank, if_pos last]
    | some position =>
        rw [found] at last
        have letters : text ≠ [] := by
          rintro rfl
          cases found
        have length : front.length + position - gap.length + 1 = position + 1 := by
          rw [whole letters]
          omega
        dsimp only
        rw [if_neg last.2, length, substr, ← whole letters, List.drop_left, last.1]
  unfold valueOf
  rw [findIdx?_blanks blanks full sharp]
  dsimp only
  rw [findComment_append]
  unfold cutBody
  cases findComment 0 body with
  | none => exact read blanks fun _ => rfl
  | some position =>
      rw [Option.map_some]
      dsimp only
      rw [substr, List.drop_zero, Nat.add_sub_cancel, List.take_append]
      refine read (fun letter member => blanks letter (List.mem_of_mem_take member)) fun long => ?_
      refine List.take_of_length_le (Nat.not_lt.mp fun short => long ?_)
      rw [Nat.sub_eq_zero_of_le (Nat.le_of_lt short), List.take_zero]

theorem valueOf_blank {gap : List Char} (blanks : ∀ letter ∈ gap, isBlank letter) :
    valueOf gap = none := by
  unfold valueOf
  rw [findIdx?_none blanks]

/-- Only blanks may follow the value. -/
theorem rdropWhile_append_iff {value : List Char} (tight : Tight value) (rest : List Char) :
    (value ++ rest).rdropWhile isBlank = value ↔ ∀ letter ∈ rest, isBlank letter := by
  constructor
  · intro same letter member
    have parts : (value ++ rest).rdropWhile isBlank ++ (value ++ rest).rtakeWhile isBlank =
      value ++ rest := List.rdropWhile_append_rtakeWhile
    rw [same] at parts
    have taken := List.append_cancel_left parts
    rw [← taken] at member
    exact List.mem_rtakeWhile_imp member
  · intro blanks
    induction rest using List.reverseRecOn with
    | nil =>
        rw [List.append_nil, List.rdropWhile_eq_self_iff]
        intro full
        rw [tight.last _ (List.getLast?_eq_some_getLast full)]
        decide
    | append_singleton rest letter ih =>
        rw [← List.append_assoc, List.rdropWhile_concat_pos _ _ _ (blanks letter (by simp))]
        exact ih fun other member => blanks other (List.mem_append_left _ member)

end Parts

/-- After the line, the reader finds the value under the section and the key. -/
def Stores (sect key value strini : List Char) : Prop :=
  ∀ map, let after := (AnalyzeIni.mk sect map).apply strini
    after.map = Function.update map (mapKey sect key) (some value) ∧
      readIni after.map sect key = (0, value)

def StoresNothing (sect strini : List Char) : Prop :=
  ∀ map, ((AnalyzeIni.mk sect map).apply strini).map = map

section Lines

variable {sect : List Char}

theorem apply_section {strini strsect : List Char} (brackets : sectionOf strini = some strsect)
    (state : AnalyzeIni) : (state.apply strini).map = state.map := by
  unfold AnalyzeIni.apply
  rw [brackets]

variable (front : IniFront)

/-- A line of this form is split at its equals sign. -/
theorem apply_text (rest : List Char) (named : sect ≠ [])
    (plain : sectionOf (front.text rest) = none) (map : List Char → Option (List Char)) :
    (AnalyzeIni.mk sect map).apply (front.text rest) =
      match valueOf (front.gap ++ rest) with
      | none => ⟨sect, map⟩
      | some value => ⟨sect, Function.update map (mapKey sect front.key) (some value)⟩ := by
  have noEquals : ∀ letter ∈ front.lead ++ front.key ++ front.mid, letter ≠ '=' := by
    rintro letter member rfl
    rw [List.mem_append, List.mem_append] at member
    rcases member with (lead | key) | mid
    · exact absurd (front.leadBlank _ lead) (by decide)
    · exact front.keyPlain key
    · exact absurd (front.midBlank _ mid) (by decide)
  have position : (front.text rest).findIdx? (· = '=') =
      some (front.lead ++ front.key ++ front.mid).length := by
    have skipped : (front.lead ++ front.key ++ front.mid).findIdx? (· = '=') = none :=
      List.findIdx?_eq_none_iff.mpr fun letter member => decide_eq_false (noEquals letter member)
    rw [IniFront.text, List.findIdx?_append, skipped, List.findIdx?_cons]
    simp
  have key : keyOf (substr (front.text rest) 0 (front.lead ++ front.key ++ front.mid).length) =
      some front.key := by
    rw [substr, List.drop_zero, IniFront.text, List.take_left]
    exact keyOf_eq front.lead front.leadBlank front.keyTight front.midBlank
  have value : (front.text rest).drop ((front.lead ++ front.key ++ front.mid).length + 1) =
      front.gap ++ rest := by
    rw [IniFront.text, List.drop_append, List.drop_eq_nil_of_le (Nat.le_succ _),
      Nat.add_sub_cancel_left]
    rfl
  unfold AnalyzeIni.apply
  rw [plain, position]
  dsimp only
  refine (if_neg named).trans ?_
  rewrite [key, value]
  rfl

theorem stores_iff_value (rest value : List Char) (named : sect ≠ []) :
    Stores sect front.key value (front.text rest) ↔
      sectionOf (front.text rest) = none ∧ valueOf (front.gap ++ rest) = some value := by
  constructor
  · intro stores
    have stored := congrFun (stores fun _ => none).1 (mapKey sect front.key)
    rw [Function.update_self] at stored
    cases brackets : sectionOf (front.text rest) with
    | some strsect =>
        rw [apply_section brackets] at stored
        cases stored
    | none =>
        rw [apply_text front rest named brackets] at stored
        cases read : valueOf (front.gap ++ rest) with
        | none =>
            rw [read] at stored
            cases stored
        | some other =>
            rw [read] at stored
            dsimp only at stored
            rw [Function.update_self] at stored
            exact ⟨rfl, stored⟩
  · rintro ⟨plain, read⟩ map
    dsimp only
    rw [apply_text front rest named plain, read]
    refine ⟨rfl, ?_⟩
    dsimp only [readIni]
    rw [Function.update_self]

theorem storesNothing_iff_value (rest : List Char) (named : sect ≠ []) :
    StoresNothing sect (front.text rest) ↔
      sectionOf (front.text rest) ≠ none ∨ valueOf (front.gap ++ rest) = none := by
  by_cases brackets : sectionOf (front.text rest) = none
  · constructor
    · intro nothing
      have kept := congrFun (nothing fun _ => none) (mapKey sect front.key)
      rw [apply_text front rest named brackets] at kept
      cases read : valueOf (front.gap ++ rest) with
      | none => exact .inr rfl
      | some value =>
          rw [read] at kept
          dsimp only at kept
          rw [Function.update_self] at kept
          cases kept
    · rintro (other | read) map
      · exact absurd brackets other
      · rw [apply_text front rest named brackets, read]
  · obtain ⟨strsect, named⟩ := Option.ne_none_iff_exists'.mp brackets
    exact iff_of_true (fun map => apply_section named _) (.inl brackets)

theorem findComment_eq_none_iff (text : List Char) :
    findComment 0 text = none ↔ ∀ mark ∈ commentMarks, ¬ mark <:+: text := by
  unfold findComment
  rw [List.findSome?_eq_none_iff]
  refine forall₂_congr fun mark listed => ?_
  have letters : mark ≠ [] := by
    rintro rfl
    revert listed
    decide
  rw [findFrom, List.drop_zero, Option.map_eq_none_iff, find_eq_none_iff letters]

/-- A comment brings its own mark. -/
theorem findComment_comment (value : List Char) (comment : IniComment) :
    ∃ position, findComment 0 (value ++ comment.tail) = some position := by
  refine Option.ne_none_iff_exists'.mp fun unmarked => ?_
  have absent := (findComment_eq_none_iff _).mp unmarked
  have blank : comment.blank = ' ' ∨ comment.blank = '\t' := by
    simpa [isBlank] using comment.isBlank
  rcases comment.marked with ⟨rest, same⟩ | ⟨rest, same⟩
  · refine absent [comment.blank, '#'] ?_ ⟨value, rest, ?_⟩
    · rcases blank with blank | blank <;> rw [blank] <;> decide
    · rw [IniComment.tail, ← same, List.append_assoc]
      rfl
  · refine absent [comment.blank, '/', '/'] ?_ ⟨value, rest, ?_⟩
    · rcases blank with blank | blank <;> rw [blank] <;> decide
    · rw [IniComment.tail, ← same, List.append_assoc]
      rfl

/-- The value stays whole when at most its blank is kept of the comment. -/
theorem rdropWhile_take_iff {value : List Char} (tight : Tight value) (comment : IniComment)
    (count : Nat) : ((value ++ comment.tail).take count).rdropWhile isBlank = value ↔
      count = value.length ∨ count = value.length + 1 := by
  obtain ⟨mark, letters, text, sharp⟩ := comment.sharp
  by_cases short : count < value.length
  · refine iff_of_false (fun same => ?_) (by omega)
    have cut := (List.rdropWhile_prefix (p := isBlank)
      (l := (value ++ comment.tail).take count)).length_le
    rw [same, List.length_take] at cut
    omega
  · rw [List.take_append, List.take_of_length_le (Nat.not_lt.mp short), rdropWhile_append_iff tight,
      IniComment.tail, text]
    obtain none | one | ⟨more, many⟩ : count - value.length = 0 ∨ count - value.length = 1 ∨
        ∃ more, count - value.length = more + 2 := by
      by_cases two : 2 ≤ count - value.length
      · exact .inr (.inr ⟨count - value.length - 2, by omega⟩)
      · omega
    · rw [none]
      exact iff_of_true (List.forall_mem_nil _) (by omega)
    · rw [one]
      exact iff_of_true (List.forall_mem_singleton.mpr comment.isBlank) (by omega)
    · rw [many]
      refine iff_of_false (fun blanks => ?_) (by omega)
      have isMark := blanks mark (by simp)
      rw [sharp] at isMark
      cases isMark

/-- The value is found when the line is cut behind it, or behind the blank that follows it. -/
theorem cutBody_iff (line : IniLine) :
    (cutBody line.gap line.body).rdropWhile isBlank = line.value ↔
      line.comment = none ∨ ∃ position, findComment 0 line.body = some position ∧
        (position = line.gap.length + line.value.length ∨
          position = line.gap.length + line.value.length + 1) := by
  have positive := List.length_pos_iff.mpr line.valueTight.full
  unfold IniLine.body cutBody
  cases behind : line.comment with
  | none =>
      have whole := (rdropWhile_append_iff line.valueTight []).mpr (List.forall_mem_nil _)
      rw [List.append_nil] at whole
      rw [commentTail, List.append_nil, (findComment_eq_none_iff _).mpr line.valuePlain]
      exact iff_of_true whole (.inl rfl)
  | some comment =>
      obtain ⟨position, marked⟩ := findComment_comment line.value comment
      rw [commentTail, marked]
      dsimp only
      rw [rdropWhile_take_iff line.valueTight]
      constructor
      · intro count
        exact .inr ⟨position, rfl, by omega⟩
      · rintro (none | ⟨other, same, count⟩)
        · cases none
        · rw [Option.some.injEq] at same
          omega

/-- The comment becomes the value, unless a second mark cuts it off. -/
theorem valueOf_comment_iff (comment : IniComment) : valueOf (front.gap ++ comment.tail) = none ↔
      ∃ position, findComment 0 comment.text = some position ∧
        position ≤ front.gap.length + 1 := by
  have blanks : ∀ letter ∈ front.gap ++ [comment.blank], isBlank letter :=
    List.forall_mem_append.mpr ⟨front.gapBlank, List.forall_mem_singleton.mpr comment.isBlank⟩
  obtain ⟨mark, letters, text, sharp⟩ := comment.sharp
  have head : ∀ letter ∈ comment.text.head?, isBlank letter = false := by
    rw [text]
    rintro letter ⟨⟩
    exact sharp
  have empty {cut : List Char} (prefixed : cut <+: comment.text) :
      cut.rdropWhile isBlank = [] ↔ cut = [] := by
    rw [List.rdropWhile_eq_nil_iff]
    constructor
    · intro all
      cases cut with
      | nil => rfl
      | cons letter cut =>
          rw [text] at prefixed
          have same := (List.cons_prefix_cons.mp prefixed).1
          have blank := all letter List.mem_cons_self
          rw [same, sharp] at blank
          cases blank
    · rintro rfl
      exact List.forall_mem_nil _
  have value := valueOf_eq blanks (by simp [text]) head
  have shape : front.gap ++ comment.tail = front.gap ++ [comment.blank] ++ comment.text := by
    rw [List.append_assoc]
    rfl
  rw [shape, value]
  dsimp only
  unfold cutBody
  cases findComment 0 comment.text with
  | none =>
      dsimp only
      rw [if_neg fun none => ?_]
      · exact iff_of_false (by simp) (by simp)
      · have letters := (empty List.prefix_rfl).mp none
        rw [text] at letters
        cases letters
  | some position =>
      dsimp only
      have short : (comment.text.take (position - (front.gap ++ [comment.blank]).length)).rdropWhile
          isBlank = [] ↔ position ≤ front.gap.length + 1 := by
        rw [empty (List.take_prefix _ _), List.take_eq_nil_iff, text, List.length_append,
          List.length_singleton]
        simp
        omega
      by_cases few : position ≤ front.gap.length + 1
      · rw [if_pos (short.mpr few)]
        exact iff_of_true rfl ⟨position, rfl, few⟩
      · rw [if_neg fun none => few (short.mp none)]
        refine iff_of_false (by simp) ?_
        rintro ⟨other, same, bound⟩
        rw [Option.some.injEq] at same
        exact few (same ▸ bound)

end Lines

/-- A line stores its value when the cut keeps it whole, and a blank value stores nothing when no
comment stands in its place. -/
theorem lines_read_iff (line : IniLine) (front : IniFront) (comment : Option IniComment)
    {sect : List Char} (named : sect ≠ []) :
    (Stores sect line.key line.value line.strini ↔
      sectionOf line.strini = none ∧
        (line.comment = none ∨ ∃ position, findComment 0 line.body = some position ∧
          (position = line.gap.length + line.value.length ∨
            position = line.gap.length + line.value.length + 1))) ∧
    (StoresNothing sect (front.text (commentTail comment)) ↔
      sectionOf (front.text (commentTail comment)) ≠ none ∨
        ∀ text ∈ comment.map IniComment.text, ∃ position,
          findComment 0 text = some position ∧ position ≤ front.gap.length + 1) := by
  constructor
  · have head : ∀ letter ∈ line.body.head?, isBlank letter = false := by
      rw [IniLine.body, List.head?_append_of_ne_nil _ line.valueTight.full]
      exact line.valueTight.first
    have full : line.body ≠ [] := by
      rw [IniLine.body]
      simp [line.valueTight.full]
    rw [IniLine.strini, stores_iff_value line.toIniFront line.body line.value named,
      valueOf_eq line.gapBlank full head, ← cutBody_iff]
    refine and_congr_right fun _ => ?_
    dsimp only
    constructor
    · intro value
      split at value
      · cases value
      · exact Option.some.inj value
    · intro value
      rw [value, if_neg line.valueTight.full]
  · rw [storesNothing_iff_value front _ named]
    refine or_congr_right ?_
    cases comment with
    | none =>
        rw [commentTail, List.append_nil, valueOf_blank front.gapBlank]
        exact iff_of_true rfl (by simp)
    | some comment =>
        rw [commentTail, valueOf_comment_iff]
        simp

section Examples

def portFront (gap : List Char) (blanks : ∀ letter ∈ gap, isBlank letter) : IniFront where
  lead := []
  key := "PORT".toList
  mid := []
  gap := gap
  leadBlank := List.forall_mem_nil _
  midBlank := List.forall_mem_nil _
  gapBlank := blanks
  keyTight := .of_ends (by decide) (by decide) (by decide)
  keyPlain := by decide

def portComment : IniComment where
  blank := ' '
  text := "# port".toList
  isBlank := rfl
  marked := .inl ⟨_, rfl⟩

def portLine (gap : List Char) (blanks : ∀ letter ∈ gap, isBlank letter)
    (comment : Option IniComment) : IniLine where
  toIniFront := portFront gap blanks
  value := "80".toList
  comment := comment
  valueTight := .of_ends (by decide) (by decide) (by decide)
  valuePlain := by decide
  valueOpen := by
    intro front middle back same
    have bracket : '[' ∈ "80".toList := by
      rw [same]
      simp
    exact absurd bracket (by decide)

/-- The line `PORT = 80` is read as it is written. -/
theorem lines_read_plain :
    Stores "net".toList "PORT".toList "80".toList "PORT= 80".toList ∧
      StoresNothing "net".toList "PORT= ".toList := by
  have blanks : ∀ letter ∈ [' '], isBlank letter := List.forall_mem_singleton.mpr rfl
  have inside : "net".toList ≠ [] := by decide
  have read := lines_read_iff (portLine [' '] blanks none) (portFront [' '] blanks) none inside
  exact ⟨read.1.mpr ⟨rfl, .inl rfl⟩, read.2.mpr (.inr fun text member => by cases member)⟩

/-- With a comment, a blank behind the equals sign costs a letter of the value, and a comment behind
a blank value is stored. -/
theorem lines_not_read :
    ¬ (∀ (line : IniLine) (sect : List Char), sect ≠ [] →
        Stores sect line.key line.value line.strini) ∧
      ¬ (∀ (front : IniFront) (comment : Option IniComment) (sect : List Char), sect ≠ [] →
        StoresNothing sect (front.text (commentTail comment))) := by
  have blanks : ∀ letter ∈ [' '], isBlank letter := List.forall_mem_singleton.mpr rfl
  constructor
  · intro stores
    have stored := (stores (portLine [' '] blanks portComment) "net".toList (by decide)
      fun _ => none).2
    clear stores
    cases stored
  · intro nothing
    have kept := congrFun (nothing (portFront [] (List.forall_mem_nil _)) portComment
      "net".toList (by decide) fun _ => none) (mapKey "net".toList "PORT".toList)
    clear nothing
    cases kept

end Examples

end AppSvr.BaseCommon
