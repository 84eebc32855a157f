/-!
# Patterns

A pattern matches names. A star stands for any text, a question mark for any character and brackets
for one of several characters, all of them only where they are not quoted.

A part of the scripted shell, which stands in for other programs when a recorded run is evaluated
(`Scripted/Shell`); the program itself has no shell.
-/

namespace AzcRepair.Scripted.Shell

/-- A character of a word, and whether it was quoted. -/
abbrev WordChar := Char × Bool

inductive Wild where
  | exactly (c : Char)
  | any
  | many
  /-- One of the characters in the ranges, or one that is in none of them. -/
  | oneOf (negated : Bool) (ranges : List (Char × Char))
  deriving DecidableEq, Repr

namespace Wild

def classRanges (name : String) : List (Char × Char) :=
  match name with
  | "digit" => [('0', '9')]
  | "upper" => [('A', 'Z')]
  | "lower" => [('a', 'z')]
  | "alpha" => [('A', 'Z'), ('a', 'z')]
  | "alnum" => [('0', '9'), ('A', 'Z'), ('a', 'z')]
  | "xdigit" => [('0', '9'), ('A', 'F'), ('a', 'f')]
  | "space" => [('\t', '\r'), (' ', ' ')]
  | "blank" => [('\t', '\t'), (' ', ' ')]
  | "punct" => [('!', '/'), (':', '@'), ('[', '`'), ('\x7b', '~')]
  | "cntrl" => [('\x00', '\x1f'), ('\x7f', '\x7f')]
  | _ => []

/-- The ranges between brackets, and what follows the closing one. A bracket that comes first does
not close. -/
def readRanges : Nat → (first : Bool) → List WordChar →
    Option (List (Char × Char) × List WordChar)
  | 0, _, _ => none
  | _, _, [] => none
  | fuel + 1, first, (c, quoted) :: rest =>
    -- a bracket closes unless it is quoted or comes first
    if c = ']' && !quoted && !first then some ([], rest)
    else
      let more (ranges : List (Char × Char)) (rest : List WordChar) :=
        (readRanges fuel false rest).map fun (others, rest) => (ranges ++ others, rest)
      match rest with
      | (':', _) :: inside =>
        let name := inside.takeWhile (·.1 ≠ ':')
        match c, inside.drop name.length with
        | '[', _ :: (']', _) :: rest => more (classRanges (String.ofList (name.map (·.1)))) rest
        | _, _ => more [(c, c)] rest
      | ('-', _) :: (last, false) :: others =>
        if last = ']' then more [(c, c)] rest else more [(c, last)] others
      | ('-', _) :: (last, true) :: others => more [(c, last)] others
      | _ => more [(c, c)] rest

def ofWord : Nat → List WordChar → List Wild
  | 0, _ => []
  | _, [] => []
  | fuel + 1, ('*', false) :: rest => many :: ofWord fuel rest
  | fuel + 1, ('?', false) :: rest => any :: ofWord fuel rest
  | fuel + 1, ('[', false) :: rest =>
    let negated := match rest with
      | (c, false) :: _ => c = '!' || c = '^'
      | _ => false
    match readRanges (rest.length + 1) true (if negated then rest.tail else rest) with
    | some (ranges, rest) => oneOf negated ranges :: ofWord fuel rest
    -- brackets that do not close stand for themselves
    | none => exactly '[' :: ofWord fuel rest
  | fuel + 1, (c, _) :: rest => exactly c :: ofWord fuel rest

/-- The part of a pattern matches the character. -/
def accepts (wild : Wild) (c : Char) : Bool :=
  match wild with
  | exactly d => c = d
  | any | many => true
  | oneOf negated ranges => (ranges.any fun range => range.1 ≤ c && c ≤ range.2) != negated

/-- A pattern matches the whole of a text. -/
def fits : List Wild → List Char → Bool
  | [], text => text.isEmpty
  | many :: pattern, [] => fits pattern []
  | many :: pattern, c :: text => fits pattern (c :: text) || fits (many :: pattern) text
  | _ :: _, [] => false
  | wild :: pattern, c :: text => wild.accepts c && fits pattern text
termination_by pattern text => pattern.length + text.length

end Wild

def patternFits (pattern : List WordChar) (text : List Char) : Bool :=
  Wild.fits (Wild.ofWord (pattern.length + 1) pattern) text

/-- The word is more than a name. -/
def isPattern (word : List WordChar) : Bool :=
  (Wild.ofWord (word.length + 1) word).any fun
    | .exactly _ => false
    | _ => true

/-- A text without the begin of it that matches a pattern, the shortest one or the longest one. -/
def trimFront (longest : Bool) (pattern : List WordChar) (text : List Char) : List Char :=
  let lengths := List.range (text.length + 1)
  match (if longest then lengths.reverse else lengths).find? fun n =>
      patternFits pattern (text.take n) with
  | some n => text.drop n
  | none => text

/-- A text without the end of it that matches a pattern, the shortest one or the longest one. -/
def trimBack (longest : Bool) (pattern : List WordChar) (text : List Char) : List Char :=
  let lengths := List.range (text.length + 1)
  match (if longest then lengths else lengths.reverse).find? fun n =>
      patternFits pattern (text.drop n) with
  | some n => text.take n
  | none => text

end AzcRepair.Scripted.Shell
