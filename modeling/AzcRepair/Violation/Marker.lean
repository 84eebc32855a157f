import AzcRepair.Text.Blank
import AzcRepair.Text.Digit
import AzcRepair.Text.Word
import AzcRepair.Violation

/-!
# Violation markers

A line reports a violation when it holds a marker: the letters `AZC` in either case, at a word
boundary, then four decimal digits and a colon. The leftmost marker of a line counts.

* `Marker.at?` reads a marker at the start of a text.
* `Marker.leftmost` finds the first one that starts at a word boundary.
* `Marker.message` cleans what follows it: the bracketed project that the build appends to a line is
  removed, and so are the blanks around the rest.
-/

namespace AzcRepair.Violation

/-- A marker found in a line. -/
structure Marker where
  /-- The seven characters of the code, as written. -/
  code : List Char
  /-- What follows the colon. -/
  rest : List Char
  deriving DecidableEq, Repr

namespace Marker

/-- Reads a marker at the start of a text: the letters in either case, four decimal digits of any
script, and a colon. -/
def at? : List Char → Option Marker
  | a :: z :: c :: d₁ :: d₂ :: d₃ :: d₄ :: colon :: rest =>
    if a.toUpper = 'A' ∧ z.toUpper = 'Z' ∧ c.toUpper = 'C' ∧ colon = ':' ∧
        [d₁, d₂, d₃, d₄].all Text.isDecimalDigit then
      some ⟨[a, z, c, d₁, d₂, d₃, d₄], rest⟩
    else none
  | _ => none

/-- The leftmost marker; `inWord` says that a word character stands before the text. -/
def leftmostFrom (inWord : Bool) : List Char → Option Marker
  | [] => none
  | c :: rest =>
    -- a marker may not begin within a word
    match if inWord then none else at? (c :: rest) with
    | some marker => some marker
    | none => leftmostFrom (Text.isWord c) rest

def leftmost (line : List Char) : Option Marker :=
  leftmostFrom false line

/-- How the file name of a project ends. -/
def projectExtension : List Char :=
  ".csproj".toList

def isBracket (c : Char) : Bool :=
  c = '[' || c = ']'

/-- What stands before a bracketed project at the very end of the text, if there is one. The
brackets hold no bracket themselves. -/
def beforeProject? (text : List Char) : Option (List Char) :=
  -- the project is at the end, so it is looked for from there
  match text.reverse with
  | ']' :: back =>
    match back.dropWhile (!isBracket ·) with
    | '[' :: before =>
      if projectExtension.reverse.isPrefixOf (back.takeWhile (!isBracket ·)) then
        some before.reverse
      else none
    | _ => none
  | _ => none

/-- The message of a marker: the text after it without its project and without outer blanks. -/
def message (marker : Marker) : List Char :=
  let text := Text.trim marker.rest
  match beforeProject? text with
  -- blanks in front of the project go with it
  | some before => Text.trim before
  | none => text

def violation (marker : Marker) : Violation :=
  .ofCode (String.ofList marker.code) (String.ofList marker.message)

end Marker

end AzcRepair.Violation
