import AzcRepair.Scripted.Shell.Pattern
import AzcRepair.Scripted.Shell.Tool

/-!
# Searching lines

Regular expressions without groups, which choose lines and replace parts of them.

A part of the scripted shell, which stands in for other programs when a recorded run is evaluated
(`Scripted/Shell`); the program itself has no shell.
-/

namespace AzcRepair.Scripted.Shell

/-- A part of a regular expression: what it matches, and how often. -/
structure Repeat where
  wild : Wild
  least : Nat := 1
  /-- It may match more often than once. -/
  isMany : Bool := false
  deriving DecidableEq, Repr

/-- A regular expression: repeated characters, possibly bound to the begin or the end of a line. -/
structure Regex where
  atBegin : Bool
  atEnd : Bool
  parts : List Repeat
  deriving DecidableEq, Repr

namespace Regex

/-- The repetition that a sign asks for. Only the star is one in a basic expression. -/
def repetition? (extended : Bool) : List Char → Option ((Nat × Bool) × List Char)
  | '*' :: rest => some ((0, true), rest)
  | '+' :: rest => if extended then some ((1, true), rest) else none
  | '?' :: rest => if extended then some ((0, false), rest) else none
  | '\\' :: '+' :: rest => if extended then none else some ((1, true), rest)
  | '\\' :: '?' :: rest => if extended then none else some ((0, false), rest)
  | _ => none

/-- A single character of an expression, and what follows it. -/
def wild? : List Char → Option (Wild × List Char)
  | [] => none
  | '.' :: rest => some (.any, rest)
  | '\\' :: c :: rest => some (.exactly c, rest)
  | '[' :: rest =>
    let negated := rest.head? = some '^'
    let inside := (if negated then rest.tail else rest).map fun c => (c, false)
    match Wild.readRanges (inside.length + 1) true inside with
    | some (ranges, rest) => some (.oneOf negated ranges, rest.map (·.1))
    | none => some (.exactly '[', rest)
  | c :: rest => some (.exactly c, rest)

/-- The parts of an expression, and whether it is bound to the end of a line. -/
def readParts (extended : Bool) : Nat → List Char → List Repeat × Bool
  | 0, _ => ([], false)
  | _, [] => ([], false)
  | _, ['$'] => ([], true)
  | fuel + 1, text =>
    match wild? text with
    | none => ([], false)
    | some (wild, rest) =>
      match repetition? extended rest with
      | some ((least, isMany), rest) =>
        let (parts, atEnd) := readParts extended fuel rest
        (⟨wild, least, isMany⟩ :: parts, atEnd)
      | none =>
        let (parts, atEnd) := readParts extended fuel rest
        (⟨wild, 1, false⟩ :: parts, atEnd)

def read (extended : Bool) (text : List Char) : Regex :=
  let atBegin := text.head? = some '^'
  let (parts, atEnd) := readParts extended (text.length + 1) (if atBegin then text.tail else text)
  ⟨atBegin, atEnd, parts⟩

/-- The expression that matches only a text itself. -/
def exactly (text : List Char) : Regex :=
  ⟨false, false, text.map fun c => { wild := .exactly c }⟩

/-- How many characters the parts match at the begin of a text, as many as they can. -/
def matchHere (atEnd : Bool) : Nat → List Repeat → List Char → Option Nat
  | 0, _, _ => none
  | _, [], text => if atEnd && !text.isEmpty then none else some 0
  | fuel + 1, part :: rest, text =>
    let more : Option Nat := match text with
      | c :: text =>
        if part.wild.accepts c then
          let left := if part.isMany then { part with least := part.least - 1 } :: rest else rest
          (matchHere atEnd fuel left text).map (· + 1)
        else none
      | [] => none
    -- taking one more character is tried first, which makes the match as long as it can be
    more.or (if part.least = 0 then matchHere atEnd fuel rest text else none)

/-- Where an expression matches first: how many characters stand in front, and how many match. The
first place counts before the length. -/
def find (regex : Regex) (text : List Char) : Option (Nat × Nat) :=
  let starts := if regex.atBegin then [0] else List.range (text.length + 1)
  starts.findSome? fun start =>
    (matchHere regex.atEnd (text.length + regex.parts.length + 2) regex.parts
      (text.drop start)).map fun length => (start, length)

/-- A replacement, in which an ampersand stands for what matched. -/
def filled (found : List Char) : List Char → List Char
  | [] => []
  | '\\' :: c :: rest => (if c = 'n' then '\n' else c) :: filled found rest
  | '&' :: rest => found ++ filled found rest
  | c :: rest => c :: filled found rest

/-- Replaces the first match, or all of them. -/
def replace (regex : Regex) (replacement : List Char) (all : Bool) : Nat → List Char → List Char
  | 0, text => text
  | fuel + 1, text =>
    match regex.find text with
    | none => text
    | some (start, length) =>
      let begun := text.take start ++ filled ((text.drop start).take length) replacement
      let rest := text.drop (start + length)
      if !all then begun ++ rest
      -- an empty match moves on by a character, so that it is not found again
      else if length = 0 then
        match rest with
        | c :: rest => begun ++ c :: replace regex replacement all fuel rest
        | [] => begun
      else if regex.atBegin then begun ++ rest
      else begun ++ replace regex replacement all fuel rest

end Regex

namespace Tool

def grep (arguments : List String) : Tool Unit := do
  let flags := flags arguments
  let (given, arguments) := takeOption 'e' arguments
  let asked := operands arguments
  let (pattern, files) := match given with
    | some pattern => (pattern, asked)
    | none => (asked.headD "", asked.tail)
  let lower (text : List Char) := if flags.contains 'i' then text.map Char.toLower else text
  let choices := if flags.contains 'E' then pattern.toList.splitOn '|' else [pattern.toList]
  let expressions := choices.map fun choice =>
    if flags.contains 'F' then Regex.exactly (lower choice)
    else Regex.read (flags.contains 'E') (lower choice)
  let isWanted (line : List UInt8) : Bool :=
    let text := lower (textOf line).toList
    (expressions.any fun regex =>
      match regex.find text with
      | some (_, length) => !flags.contains 'x' || length = text.length
      | none => false) != flags.contains 'v'
  let mut found := false
  for file in (if files.isEmpty then ["-"] else files) do
    match ← read file with
    | .error error => complain ("grep: " ++ file ++ ": " ++ shortMessage error)
    | .ok data =>
      let wanted := (lines data).zipIdx.filter fun line => isWanted line.1
      found := found || !wanted.isEmpty
      let heading := if 1 < files.length then file ++ ":" else ""
      if flags.contains 'q' then pure ()
      else if flags.contains 'l' then
        if !wanted.isEmpty then print (file ++ "\n")
      else if flags.contains 'c' then print (heading ++ Text.decimal wanted.length ++ "\n")
      else
        for (line, place) in wanted do
          let number := if flags.contains 'n' then Text.decimal (place + 1) ++ ":" else ""
          print (heading ++ number)
          write (line ++ [10])
  if (← get).code = 0 then endWith (if found then 0 else 1) else endWith 2

/-- What a script of `sed` does with a line. -/
inductive Edit where
  | replace (regex : Regex) (replacement : List Char) (all : Bool)
  | drop
  | print
  deriving DecidableEq, Repr

/-- The lines that an edit is for: all, some by their numbers, the last one, or those that match. -/
inductive Address where
  | all
  | lines (first last : Nat)
  | last
  | matching (regex : Regex)
  deriving DecidableEq, Repr

/-- An edit and the lines that it is for. -/
structure Instruction where
  address : Address
  edit : Edit
  deriving DecidableEq, Repr

/-- The address in front of an edit, and the edit. -/
def readAddress (extended : Bool) (script : List Char) : Address × List Char :=
  match script with
  | '$' :: rest => (.last, rest)
  | '/' :: rest =>
    let regex := rest.takeWhile (· ≠ '/')
    (.matching (Regex.read extended regex), rest.drop (regex.length + 1))
  | script =>
    let digits := script.takeWhile Char.isDigit
    if digits.isEmpty then (.all, script)
    else
      let first := Text.natOfDigits digits
      match script.drop digits.length with
      | ',' :: rest =>
        let more := rest.takeWhile Char.isDigit
        (.lines first (Text.natOfDigits more), rest.drop more.length)
      | rest => (.lines first first, rest)

/-- The text in front of a delimiter that no backslash quotes, and what follows. -/
def upTo (delimiter : Char) : List Char → List Char × List Char
  | [] => ([], [])
  | '\\' :: c :: rest =>
    let (text, after) := upTo delimiter rest
    (if c = delimiter then (c :: text, after) else ('\\' :: c :: text, after))
  | c :: rest =>
    if c = delimiter then ([], rest)
    else
      let (text, after) := upTo delimiter rest
      (c :: text, after)

/-- The edit at the begin of a script, and what follows it. -/
def readEdit? (extended : Bool) : List Char → Option (Edit × List Char)
  | 's' :: delimiter :: rest =>
    let (pattern, rest) := upTo delimiter rest
    let (replacement, rest) := upTo delimiter rest
    let flags := rest.takeWhile (· ≠ ';')
    some (.replace (Regex.read extended pattern) replacement (flags.contains 'g'),
      rest.drop flags.length)
  | 'd' :: rest => some (.drop, rest)
  | 'p' :: rest => some (.print, rest)
  | _ => none

def readInstructions? (extended : Bool) : Nat → List Char → Option (List Instruction)
  | 0, _ => none
  | fuel + 1, script => do
    let (address, rest) := readAddress extended (script.dropWhile (· = ' '))
    let (edit, rest) ← readEdit? extended rest
    match rest with
    | [] => return [⟨address, edit⟩]
    | ';' :: rest => return ⟨address, edit⟩ :: (← readInstructions? extended fuel rest)
    | _ => none

def Address.applies (address : Address) (number count : Nat) (text : List Char) : Bool :=
  match address with
  | .all => true
  | .lines low high => low ≤ number && number ≤ high
  | .last => number = count
  | .matching regex => (regex.find text).isSome

/-- The text of a line after the edits, how often it is printed early, and whether it is kept. -/
def editLine (number count : Nat) (text : List Char) : List Instruction →
    List (List Char) × Option (List Char)
  | [] => ([], some text)
  | instruction :: rest =>
    if !instruction.address.applies number count text then editLine number count text rest
    else
      match instruction.edit with
      | .drop => ([], none)
      -- the line is printed as it is now; later edits change only what is kept
      | .print =>
        let (early, kept) := editLine number count text rest
        (text :: early, kept)
      | .replace regex replacement all =>
        editLine number count (regex.replace replacement all (text.length + 1) text) rest

def sed (arguments : List String) : Tool Unit := do
  let flags := flags arguments
  let extended := flags.contains 'E' || flags.contains 'r'
  let (given, arguments) := takeOption 'e' arguments
  let asked := operands arguments
  let (script, files) := match given with
    | some script => (script, asked)
    | none => (asked.headD "", asked.tail)
  match readInstructions? extended (script.length + 1) script.toList with
  | none => complain ("sed: -e expression #1, char " ++ Text.decimal script.length ++
      ": unknown command")
  | some instructions =>
    let all := lines (← readAll "sed: can't read " files)
    for (line, place) in all.zipIdx do
      let (early, kept) :=
        editLine (place + 1) all.length (textOf line).toList instructions
      let shown := early ++ if flags.contains 'n' then [] else kept.toList
      for text in shown do print (String.ofList text ++ "\n")

/-- The tool for searching that has the name. -/
def forSearch? (name : String) : Option (List String → Tool Unit) :=
  match name with
  | "grep" => some grep
  | "sed" => some sed
  | _ => none

end Tool

end AzcRepair.Scripted.Shell
