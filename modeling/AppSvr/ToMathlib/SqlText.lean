/-
This file reads the text of a statement as bytes, string literals and comments, and proves when a
text that is printed from pieces is read as these pieces.
-/

import Mathlib.Algebra.Ring.Nat
import Mathlib.Data.List.Basic
import Mathlib.Data.List.TakeWhile

namespace AppSvr.SqlText

/-- A literal keeps its quote and the value that its bytes denote. -/
inductive Lexeme where
  | byte (value : UInt8)
  | literal (quote : UInt8) (value : List UInt8)
  | comment
  deriving DecidableEq, Repr

/-- The reader is outside of all literals, inside a literal or inside a comment. A mode without a
choice consumes the second byte of a pair. -/
inductive Mode where
  | plain
  | literal (quote : UInt8)
  | escape (quote : UInt8)
  | doubled (quote : UInt8)
  | line
  | star
  | block
  | slash
  deriving DecidableEq, Repr

/-- The escapes of a percent sign and of an underscore keep their backslash. -/
def unescape (byte : UInt8) : List UInt8 :=
  if byte = 48 then [0]
  else if byte = 98 then [8]
  else if byte = 110 then [10]
  else if byte = 114 then [13]
  else if byte = 116 then [9]
  else if byte = 90 then [26]
  else if byte = 37 ∨ byte = 95 then [92, byte]
  else [byte]

/-- The denoted bytes are put in front of what is already read of a literal. -/
def grow (value : List UInt8) : List Lexeme → List Lexeme
  | .literal quote later :: rest => .literal quote (value ++ later) :: rest
  | lexemes => lexemes

/-- A number sign, and two dashes before a blank or a control byte, open a comment up to the end of
the line. -/
def OpensLine (byte : UInt8) (rest : List UInt8) : Prop :=
  byte = 35 ∨ byte = 45 ∧ rest.head? = some 45 ∧ ∀ next ∈ rest.tail.head?, next ≤ 32 ∨ next = 127

instance (byte : UInt8) (rest : List UInt8) : Decidable (OpensLine byte rest) :=
  inferInstanceAs (Decidable (_ ∨ _))

/-- A slash and a star open a comment unless an exclamation mark follows. -/
def OpensBlock (byte : UInt8) (rest : List UInt8) : Prop :=
  byte = 47 ∧ rest.head? = some 42 ∧ rest.tail.head? ≠ some 33

instance (byte : UInt8) (rest : List UInt8) : Decidable (OpensBlock byte rest) :=
  inferInstanceAs (Decidable (_ ∧ _))

/-- The shortest text that is read as this has so many bytes. -/
def size : List Lexeme → Nat
  | [] => 0
  | .byte _ :: rest => size rest + 1
  | .literal _ value :: rest => value.length + size rest + 2
  | .comment :: rest => size rest

/-- This many bytes of a pending lexeme are consumed before the mode is entered. -/
def Mode.consumed : Mode → Nat
  | literal _ | doubled _ => 1
  | escape _ => 2
  | _ => 0

/-- A text with an open literal has no reading. -/
def lex : Mode → List UInt8 → Option (List Lexeme)
  | .plain, [] => some []
  | .line, [] => some [.comment]
  | _, [] => none
  | .plain, byte :: rest =>
      if byte = 39 ∨ byte = 34 ∨ byte = 96 then lex (.literal byte) rest
      else if OpensLine byte rest then lex .line rest
      else if OpensBlock byte rest then lex .star rest
      else (lex .plain rest).map (.byte byte :: ·)
  | .literal quote, byte :: rest =>
      if byte = 92 ∧ quote ≠ 96 then lex (.escape quote) rest
      else if byte = quote then
        if rest.head? = some quote then lex (.doubled quote) rest
        else (lex .plain rest).map (.literal quote [] :: ·)
      else (lex (.literal quote) rest).map (grow [byte])
  | .escape quote, byte :: rest =>
      (lex (.literal quote) rest).map (grow (unescape byte))
  | .doubled quote, _ :: rest => (lex (.literal quote) rest).map (grow [quote])
  | .line, byte :: rest =>
      if byte = 10 then (lex .plain rest).map (.comment :: ·) else lex .line rest
  | .star, _ :: rest => lex .block rest
  | .block, byte :: rest =>
      if byte = 42 ∧ rest.head? = some 47 then lex .slash rest else lex .block rest
  | .slash, _ :: rest => (lex .plain rest).map (.comment :: ·)

/-- The formats hold ASCII letters only. -/
def ascii (text : String) : List UInt8 := text.toUTF8.data.toList

/-- `%s` prints the bytes in front of the first zero. -/
def cString (value : List UInt8) : List UInt8 := value.takeWhile (· ≠ 0)

/-- `%d` prints the decimal digits behind a sign. -/
def decimal (value : Int) : List UInt8 :=
  (if value < 0 then [45] else []) ++
    (Nat.toDigits 10 value.natAbs).map fun digit => digit.val.toUInt8

/-- A format is text, a printed number or a printed string between quotes. -/
inductive Piece where
  | text (bytes : List UInt8)
  | number (value : Int)
  | literal (value : List UInt8)
  deriving DecidableEq, Repr

namespace Piece

def print : Piece → List UInt8
  | text bytes => bytes
  | number value => decimal value
  | literal value => 39 :: (cString value ++ [39])

/-- The piece should be read like this. -/
def lexemes : Piece → List Lexeme
  | text bytes => bytes.map .byte
  | number value => (decimal value).map .byte
  | literal value => [.literal 39 value]

/-- The quotes around a string belong to the format. -/
def formatLength : Piece → Nat
  | text bytes => bytes.length
  | number _ => 0
  | literal _ => 2

def number? : Piece → Option Int
  | number value => some value
  | _ => none

def literal? : Piece → Option (List UInt8)
  | literal value => some value
  | _ => none

end Piece

def print (pieces : List Piece) : List UInt8 := pieces.flatMap Piece.print

def lexemes (pieces : List Piece) : List Lexeme := pieces.flatMap Piece.lexemes

@[simp] theorem print_cons (piece : Piece) (pieces : List Piece) :
    print (piece :: pieces) = piece.print ++ print pieces := rfl

@[simp] theorem lexemes_cons (piece : Piece) (pieces : List Piece) :
    lexemes (piece :: pieces) = piece.lexemes ++ lexemes pieces := rfl

def formatLength (pieces : List Piece) : Nat := (pieces.map Piece.formatLength).sum

def numbers (pieces : List Piece) : List Int := pieces.filterMap Piece.number?

def literals (pieces : List Piece) : List (List UInt8) := pieces.filterMap Piece.literal?

section Pieces

variable (bytes value : List UInt8) (number : Int) (pieces : List Piece)

@[simp] theorem formatLength_text :
    formatLength (.text bytes :: pieces) = bytes.length + formatLength pieces := rfl

@[simp] theorem formatLength_number :
    formatLength (.number number :: pieces) = 0 + formatLength pieces := rfl

@[simp] theorem formatLength_literal :
    formatLength (.literal value :: pieces) = 2 + formatLength pieces := rfl

@[simp] theorem numbers_text : numbers (.text bytes :: pieces) = numbers pieces := rfl

@[simp] theorem numbers_number : numbers (.number number :: pieces) = number :: numbers pieces :=
  rfl

@[simp] theorem numbers_literal : numbers (.literal value :: pieces) = numbers pieces := rfl

@[simp] theorem literals_text : literals (.text bytes :: pieces) = literals pieces := rfl

@[simp] theorem literals_number : literals (.number number :: pieces) = literals pieces := rfl

@[simp] theorem literals_literal :
    literals (.literal value :: pieces) = value :: literals pieces := rfl

end Pieces

theorem print_length (pieces : List Piece) :
    (print pieces).length = formatLength pieces +
      ((numbers pieces).map fun value => (decimal value).length).sum +
        ((literals pieces).map fun value => (cString value).length).sum := by
  induction pieces with
  | nil => rfl
  | cons piece pieces ih =>
      rw [print_cons, List.length_append, ih]
      cases piece with
      | text bytes =>
          simp only [Piece.print, formatLength_text, numbers_text, literals_text]
          omega
      | number value =>
          simp only [Piece.print, formatLength_number, numbers_number, literals_number,
            List.map_cons, List.sum_cons]
          omega
      | literal value =>
          simp only [Piece.print, formatLength_literal, numbers_literal, literals_literal,
            List.map_cons, List.sum_cons, List.length_cons, List.length_append, List.length_nil]
          omega

/-- A number below a power of ten has few digits. -/
theorem decimal_length_le {value digits : Nat} (positive : 0 < digits)
    (below : value < 10 ^ digits) : (decimal value).length ≤ digits := by
  have unsigned : ¬ ((value : Int) < 0) := by omega
  rw [decimal, if_neg unsigned, List.nil_append, List.length_map, Int.natAbs_natCast]
  exact (Nat.length_toDigits_le_iff (by decide) positive).mpr below

theorem decimal_int32_length_le (value : Int32) : (decimal value.toInt).length ≤ 11 := by
  have low := Int32.le_toInt value
  have high := Int32.toInt_lt value
  have digits : (Nat.toDigits 10 value.toInt.natAbs).length ≤ 10 :=
    (Nat.length_toDigits_le_iff (by decide) (by decide)).mpr (by omega)
  rw [decimal, List.length_append, List.length_map]
  split_ifs <;> simp only [List.length_cons, List.length_nil] <;> omega

/-- These bytes mean themselves between two quotes. -/
def Verbatim : List UInt8 → Prop
  | [] => True
  | 92 :: byte :: rest => (byte = 37 ∨ byte = 95) ∧ Verbatim rest
  | byte :: rest => byte ≠ 0 ∧ byte ≠ 39 ∧ byte ≠ 92 ∧ Verbatim rest

/-- These bytes open no literal and no comment. -/
def Quiet (bytes : List UInt8) : Prop := ∀ byte ∈ bytes, byte ∉ [0, 34, 35, 39, 45, 47, 96]

instance (bytes : List UInt8) : Decidable (Quiet bytes) :=
  inferInstanceAs (Decidable (∀ byte ∈ bytes, _))

/-- The text is quiet and stands between every two literals. -/
def Formed : List Piece → Prop
  | [] => True
  | .text bytes :: rest => Quiet bytes ∧ Formed rest
  | .number _ :: rest => Formed rest
  | .literal _ :: .text bytes :: rest => bytes ≠ [] ∧ Quiet bytes ∧ Formed rest
  | .literal _ :: rest => rest = []

section Reading

variable {bytes rest raw value : List UInt8} {byte quote : UInt8} {lexed more : List Lexeme}

theorem map_append_eq_some {first : List Lexeme} {later : Option (List Lexeme)} :
    later.map (first ++ ·) = some (first ++ more) ↔ later = some more := by
  cases later <;> simp

theorem map_cons_eq_some {first : Lexeme} {later : Option (List Lexeme)} :
    later.map (first :: ·) = some (first :: more) ↔ later = some more := by
  cases later <;> simp

/-- A byte that opens nothing is read as itself. -/
theorem lex_byte (unquoted : byte ∉ [34, 39, 96]) (line : ¬ OpensLine byte rest)
    (block : ¬ OpensBlock byte rest) :
    lex .plain (byte :: rest) = (lex .plain rest).map (.byte byte :: ·) := by
  have quoteless : ¬ (byte = 39 ∨ byte = 34 ∨ byte = 96) := by
    simp only [List.mem_cons, List.not_mem_nil, or_false] at unquoted
    tauto
  rw [lex, if_neg quoteless, if_neg line, if_neg block]

theorem lex_quiet (quiet : Quiet bytes) :
    lex .plain (bytes ++ rest) = (lex .plain rest).map (bytes.map .byte ++ ·) := by
  induction bytes with
  | nil => simp
  | cons byte bytes ih =>
      have harmless := quiet byte List.mem_cons_self
      simp only [List.mem_cons, List.not_mem_nil, or_false, not_or] at harmless
      have later : Quiet bytes := fun other member => quiet other (List.mem_cons_of_mem _ member)
      rw [List.cons_append, lex_byte (by simp [harmless]) (by simp [OpensLine, harmless])
        (by simp [OpensBlock, harmless]), ih later, Option.map_map]
      rfl

/-- A printed digit lies between the bytes of zero and nine. -/
theorem digits_range (number : Nat) :
    ∀ byte ∈ (Nat.toDigits 10 number).map fun digit => digit.val.toUInt8,
      48 ≤ byte ∧ byte ≤ 57 := by
  intro byte member
  obtain ⟨digit, printed, rfl⟩ := List.mem_map.mp member
  have range := Nat.isDigit_of_mem_toDigits (by decide) (by decide) printed
  simp only [Char.isDigit, Bool.and_eq_true, decide_eq_true_eq, ge_iff_le, UInt32.le_iff_toNat_le]
    at range
  simp only [UInt8.le_iff_toNat_le, UInt32.toNat_toUInt8]
  have zero : '0'.val.toNat = 48 := rfl
  have nine : '9'.val.toNat = 57 := rfl
  have low : (48 : UInt8).toNat = 48 := rfl
  have high : (57 : UInt8).toNat = 57 := rfl
  omega

theorem lex_decimal (number : Int) :
    lex .plain (decimal number ++ rest) =
      (lex .plain rest).map ((decimal number).map .byte ++ ·) := by
  have quiet : Quiet ((Nat.toDigits 10 number.natAbs).map fun digit => digit.val.toUInt8) := by
    intro byte member
    have range := digits_range _ byte member
    intro special
    simp only [List.mem_cons, List.not_mem_nil, or_false] at special
    rcases special with rfl | rfl | rfl | rfl | rfl | rfl | rfl <;> exact absurd range (by decide)
  unfold decimal
  split_ifs with negative
  · have signed : ¬ OpensLine 45 ((Nat.toDigits 10 number.natAbs).map
        (fun digit => digit.val.toUInt8) ++ rest) := by
      rintro (sign | ⟨-, second, -⟩)
      · exact absurd sign (by decide)
      · cases digits : (Nat.toDigits 10 number.natAbs).map fun digit => digit.val.toUInt8 with
        | nil => exact Nat.toDigits_ne_nil (List.map_eq_nil_iff.mp digits)
        | cons first others =>
            rw [digits] at second
            have range := digits_range number.natAbs first (by rw [digits]; simp)
            obtain rfl := Option.some.inj second
            exact absurd range (by decide)
    rw [List.append_assoc, List.singleton_append, lex_byte (by decide) signed
      (by simp [OpensBlock]), lex_quiet quiet, Option.map_map]
    rfl
  · rw [List.nil_append, lex_quiet quiet]

/-- A verbatim literal is read up to its closing quote. -/
theorem lex_verbatim (verbatim : Verbatim value) (closed : rest.head? ≠ some 39) :
    lex (.literal 39) (value ++ 39 :: rest) =
      (lex .plain rest).map (.literal 39 value :: ·) := by
  fun_induction Verbatim value with
  | case1 =>
      rw [List.nil_append, lex, if_neg (by decide), if_pos rfl, if_neg closed]
  | case2 byte value ih =>
      obtain ⟨escape, later⟩ := verbatim
      have kept : unescape byte = [92, byte] := by
        rcases escape with rfl | rfl <;> rfl
      rw [List.cons_append, List.cons_append, lex, if_pos (by decide), lex, ih later, kept,
        Option.map_map]
      rfl
  | case3 byte value _ ih =>
      obtain ⟨-, unquoted, unescaped, later⟩ := verbatim
      rw [List.cons_append, lex, if_neg (by simp [unescaped]), if_neg unquoted, ih later,
        Option.map_map]
      rfl

theorem verbatim_cons (unescaped : byte ≠ 92) :
    Verbatim (byte :: rest) ↔ byte ≠ 0 ∧ byte ≠ 39 ∧ Verbatim rest := by
  rw [Verbatim.eq_3 byte rest fun _ _ same => absurd same unescaped]
  simp [unescaped]

theorem unescape_length (byte : UInt8) : (unescape byte).length ≤ 2 ∧
    ((unescape byte).length = 2 → byte = 37 ∨ byte = 95) := by
  unfold unescape
  split_ifs with h0 h1 h2 h3 h4 h5 special <;> simp_all

/-- A literal that is read denotes no more bytes than it has, and only a verbatim one denotes as
many. -/
theorem lex_literal {text : List UInt8} (read : lex (.literal 39) text = some lexed) :
    ∃ raw value more after, lexed = .literal 39 value :: more ∧ text = raw ++ 39 :: after ∧
      lex .plain after = some more ∧ value.length ≤ raw.length ∧
        (value.length = raw.length → 0 ∉ raw → Verbatim raw) := by
  induction length : text.length using Nat.strongRecOn generalizing text lexed with
  | _ _ ih =>
    subst length
    cases text with
    | nil => cases read
    | cons byte text =>
        rw [lex] at read
        split_ifs at read with escape quote doubled
        · cases text with
          | nil => cases read
          | cons next text =>
              obtain ⟨later, readLater, rfl⟩ := Option.map_eq_some_iff.mp read
              obtain ⟨raw, value, more, after, rfl, rfl, rest, shorter, verbatim⟩ :=
                ih _ (by simp only [List.length_cons]; omega) readLater rfl
              obtain ⟨atMost, exact_⟩ := unescape_length next
              refine ⟨92 :: next :: raw, unescape next ++ value, more, after, rfl, ?_, rest, ?_, ?_⟩
              · rw [escape.1]
                rfl
              · simp only [List.length_append, List.length_cons]
                omega
              · simp only [List.length_append, List.length_cons, List.mem_cons, not_or]
                intro same zero
                exact ⟨exact_ (by omega), verbatim (by omega) zero.2.2⟩
        · cases text with
          | nil => cases read
          | cons next text =>
              obtain ⟨later, readLater, rfl⟩ := Option.map_eq_some_iff.mp read
              obtain ⟨raw, value, more, after, rfl, rfl, rest, shorter, -⟩ :=
                ih _ (by simp only [List.length_cons]; omega) readLater rfl
              obtain rfl : next = 39 := Option.some.inj doubled
              refine ⟨39 :: 39 :: raw, 39 :: value, more, after, rfl, ?_, rest, ?_, ?_⟩
              · rw [quote]
                rfl
              · simp only [List.length_cons]
                omega
              · simp only [List.length_cons]
                omega
        · obtain ⟨more, rest, rfl⟩ := Option.map_eq_some_iff.mp read
          exact ⟨[], [], more, text, rfl, by rw [quote]; rfl, rest, Nat.le_refl 0, fun _ _ => trivial⟩
        · obtain ⟨later, readLater, rfl⟩ := Option.map_eq_some_iff.mp read
          obtain ⟨raw, value, more, after, rfl, rfl, rest, shorter, verbatim⟩ :=
            ih _ (by simp) readLater rfl
          have unescaped : byte ≠ 92 := by simpa using escape
          refine ⟨byte :: raw, byte :: value, more, after, rfl, rfl, rest, ?_, ?_⟩
          · simp only [List.length_cons]
            omega
          · simp only [List.length_cons, List.mem_cons, not_or, verbatim_cons unescaped]
            intro same zero
            exact ⟨Ne.symm zero.1, quote, verbatim (by omega) zero.2⟩

theorem size_grow_le (value : List UInt8) (lexed : List Lexeme) :
    size (grow value lexed) ≤ value.length + size lexed := by
  match lexed with
  | [] => exact Nat.zero_le _
  | .byte _ :: _ | .comment :: _ => exact Nat.le_add_left _ _
  | .literal _ later :: rest =>
      simp only [grow, size, List.length_append]
      omega

theorem size_bytes (bytes : List UInt8) (lexed : List Lexeme) :
    size (bytes.map .byte ++ lexed) = bytes.length + size lexed := by
  induction bytes with
  | nil => simp
  | cons byte bytes ih =>
      simp only [List.map_cons, List.cons_append, size, ih, List.length_cons]
      omega

/-- A text is at least as long as what it is read as. -/
theorem size_le_length {mode : Mode} {text : List UInt8} (read : lex mode text = some lexed) :
    size lexed ≤ text.length + mode.consumed := by
  fun_induction lex mode text generalizing lexed with
  | case1 | case2 =>
      obtain rfl := Option.some.inj read
      exact Nat.zero_le _
  | case3 => cases read
  | case4 _ _ _ ih | case8 _ _ _ _ ih | case9 _ _ _ _ ih =>
      have later := ih read
      simp only [Mode.consumed, List.length_cons] at later ⊢
      omega
  | case5 _ _ _ _ ih | case6 _ _ _ _ _ ih | case15 _ _ _ ih | case16 _ _ ih | case17 _ _ _ ih
  | case18 _ _ _ ih =>
      have later := ih read
      simp only [Mode.consumed, List.length_cons] at later ⊢
      omega
  | case7 _ _ _ _ _ ih | case10 _ _ _ _ ih | case14 _ ih | case19 _ _ ih =>
      obtain ⟨later, readLater, rfl⟩ := Option.map_eq_some_iff.mp read
      have atMost := ih readLater
      simp only [Mode.consumed, List.length_cons, size, List.length_nil] at atMost ⊢
      omega
  | case11 _ byte _ _ _ ih | case13 byte _ _ ih =>
      obtain ⟨later, readLater, rfl⟩ := Option.map_eq_some_iff.mp read
      have atMost := ih readLater
      have grown := size_grow_le [byte] later
      simp only [Mode.consumed, List.length_cons, List.length_nil] at atMost grown ⊢
      omega
  | case12 _ byte _ ih =>
      obtain ⟨later, readLater, rfl⟩ := Option.map_eq_some_iff.mp read
      have atMost := ih readLater
      have grown := size_grow_le (unescape byte) later
      have short := (unescape_length byte).1
      simp only [Mode.consumed, List.length_cons] at atMost ⊢
      omega

theorem cString_isPrefix (value : List UInt8) : cString value <+: value := List.takeWhile_prefix _

/-- No quote follows the quote that ends a literal. -/
theorem Formed.closed {pieces : List Piece} (formed : Formed (.literal value :: pieces)) :
    (print pieces).head? ≠ some 39 ∧ Formed pieces := by
  match pieces with
  | [] => exact ⟨by simp [print], trivial⟩
  | .text [] :: _ => exact absurd rfl formed.1
  | .text (byte :: bytes) :: rest =>
      have quiet := formed.2.1 byte List.mem_cons_self
      simp only [List.mem_cons, List.not_mem_nil, or_false, not_or] at quiet
      refine ⟨?_, formed.2⟩
      rw [print_cons, Piece.print, List.cons_append, List.head?_cons]
      simp [quiet]
  | .number _ :: _ | .literal _ :: _ => cases formed

theorem zero_notMem_cString (value : List UInt8) : 0 ∉ cString value := by
  intro zero
  have kept := List.mem_takeWhile_imp zero
  exact absurd kept (by decide)

theorem cString_of_notMem (zero : 0 ∉ value) : cString value = value := by
  apply List.takeWhile_eq_self_iff.mpr
  intro byte member
  apply decide_eq_true
  rintro rfl
  exact zero member

theorem Verbatim.zero_notMem (verbatim : Verbatim value) : 0 ∉ value := by
  fun_induction Verbatim value with
  | case1 => exact List.not_mem_nil
  | case2 byte value ih =>
      obtain ⟨escape, later⟩ := verbatim
      simp only [List.mem_cons, not_or]
      refine ⟨by decide, ?_, ih later⟩
      rcases escape with rfl | rfl <;> decide
  | case3 byte value _ ih =>
      obtain ⟨nonzero, -, -, later⟩ := verbatim
      simp only [List.mem_cons, not_or]
      exact ⟨nonzero.symm, ih later⟩

/-- A printed text is no longer than the shortest text that is read like this. -/
theorem print_length_le (pieces : List Piece) : (print pieces).length ≤ size (lexemes pieces) := by
  induction pieces with
  | nil => exact Nat.le_refl 0
  | cons piece pieces ih =>
      rw [print_cons, lexemes_cons, List.length_append]
      cases piece with
      | text bytes =>
          rw [Piece.print, Piece.lexemes, size_bytes]
          omega
      | number value =>
          rw [Piece.print, Piece.lexemes, size_bytes]
          omega
      | literal value =>
          have cut := (cString_isPrefix value).length_le
          simp only [Piece.print, Piece.lexemes, List.singleton_append, size, List.length_cons,
            List.length_append, List.length_nil]
          omega

/-- A printed text is read as its pieces exactly when all its literals are verbatim. -/
theorem lex_print_iff {pieces : List Piece} (formed : Formed pieces) :
    lex .plain (print pieces) = some (lexemes pieces) ↔
      ∀ value ∈ literals pieces, Verbatim value := by
  induction pieces with
  | nil => simp [print, lexemes, literals, lex]
  | cons piece pieces ih =>
      rw [print_cons, lexemes_cons]
      cases piece with
      | text bytes =>
          rw [Piece.print, Piece.lexemes, lex_quiet formed.1, map_append_eq_some]
          simpa using ih formed.2
      | number value =>
          rw [Piece.print, Piece.lexemes, lex_decimal, map_append_eq_some]
          simpa using ih formed
      | literal value =>
          obtain ⟨closed, later⟩ := formed.closed
          have opened : lex .plain (Piece.print (.literal value) ++ print pieces) =
              lex (.literal 39) (cString value ++ 39 :: print pieces) := by
            rw [Piece.print, List.cons_append, lex, if_pos (.inl rfl), List.append_assoc]
            rfl
          rw [opened, Piece.lexemes, List.singleton_append]
          constructor
          · intro read
            obtain ⟨raw, denoted, more, after, same, text, rest, shorter, verbatim⟩ :=
              lex_literal read
            simp only [List.cons.injEq, Lexeme.literal.injEq, true_and] at same
            obtain ⟨rfl, rfl⟩ := same
            -- No text is left over, so the closing quote is the printed one.
            have lengths := congrArg List.length text
            have left := size_le_length rest
            have printed := print_length_le pieces
            have cut := (cString_isPrefix value).length_le
            simp only [List.length_append, List.length_cons, Mode.consumed] at lengths left
            obtain ⟨rfl, following⟩ := List.append_inj text (by omega)
            obtain rfl := (List.cons.inj following).2
            have whole := (cString_isPrefix value).eq_of_length (by omega)
            rw [whole] at verbatim
            intro other member
            rcases List.mem_cons.mp member with own | tail
            · cases own
              apply verbatim rfl
              rw [← whole]
              exact zero_notMem_cString value
            · exact (ih later).mp rest other tail
          · intro verbatim
            have own := verbatim value List.mem_cons_self
            rw [cString_of_notMem own.zero_notMem, lex_verbatim own closed, map_cons_eq_some]
            exact (ih later).mpr fun other member => verbatim other (List.mem_cons_of_mem _ member)

end Reading

end AppSvr.SqlText
