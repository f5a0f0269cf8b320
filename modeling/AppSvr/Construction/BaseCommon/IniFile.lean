/-
This file defines the reader of the configuration files. The servers and the battle server have one
copy of it each, with the same statements.
-/

import AppSvr.ToMathlib.StdString

namespace AppSvr.BaseCommon
open StdString

def isBlank (letter : Char) : Bool := letter = ' ' || letter = '\t'

def middleString : List Char := "_____***_______".toList

/-- A comment begins with one of these. They are searched in this order. -/
def commentMarks : List (List Char) :=
  ["\t#".toList, " #".toList, "\t//".toList, " //".toList]

/-- The first of the marks that is found behind the start. -/
def findComment (start : Nat) (text : List Char) : Option Nat :=
  commentMarks.findSome? fun mark => findFrom mark start text

/-- A line with brackets names a section. A bracket that is closed first counts, too. -/
def sectionOf (strini : List Char) : Option (List Char) :=
  match strini.findIdx? (· = '['), findLast (· = ']') strini with
  | some first, some last =>
      if first ≠ last + 1 then
        -- A negative length is a very large one.
        if last < first then some (strini.drop (first + 1))
        else some (substr strini (first + 1) (last - first - 1))
      else none
  | _, _ => none

/-- The name in front of the equals sign. -/
def keyOf (strtmp1 : List Char) : Option (List Char) :=
  match strtmp1.findIdx? (fun letter => !isBlank letter),
      findLast (fun letter => !isBlank letter) strtmp1 with
  | some first, some last => some (substr strtmp1 first (last - first + 1))
  | _, _ => none

/-- The text is cut at a length that is counted from its first letter. -/
def valueOf (strtmp2 : List Char) : Option (List Char) :=
  match strtmp2.findIdx? (fun letter => !isBlank letter) with
  | none => none
  | some first =>
      let cut :=
        match findComment first strtmp2 with
        | some last => substr strtmp2 0 (last - first)
        | none => strtmp2
      match findLast (fun letter => !isBlank letter) cut with
      | none => none
      | some last => some (substr cut first (last - first + 1))

/-- These are the members of `analyzeini`. -/
structure AnalyzeIni where
  strsect : List Char
  map : List Char → Option (List Char)

def mapKey (psect pkey : List Char) : List Char := psect ++ middleString ++ pkey

/-- This is `operator()` for one line. -/
def AnalyzeIni.apply (state : AnalyzeIni) (strini : List Char) : AnalyzeIni :=
  match sectionOf strini with
  | some strsect => { state with strsect := strsect }
  | none =>
      if state.strsect = [] then state
      else
        match strini.findIdx? (· = '=') with
        | none => state
        | some first =>
            match keyOf (substr strini 0 first) with
            | none => state
            | some strkey =>
                match valueOf (strini.drop (first + 1)) with
                | none => state
                | some value =>
                    { state with
                      map := Function.update state.map (mapKey state.strsect strkey) (some value) }

/-- This is `IniFile::read` with its result and its output. -/
def readIni (map : List Char → Option (List Char)) (psect pkey : List Char) : Int × List Char :=
  match map (mapKey psect pkey) with
  | none => (-1, [])
  | some value => (0, value)

end AppSvr.BaseCommon
