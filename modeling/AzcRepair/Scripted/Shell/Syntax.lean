/-!
# Scripts

The form of a shell script. A word is a list of pieces, some of which stand for themselves and some
for a value that is known only when the script runs; commands are joined, repeated and chosen.

A part of the scripted shell, which stands in for other programs when a recorded run is evaluated
(`Scripted/Shell`); the program itself has no shell.
-/

namespace AzcRepair.Scripted.Shell

mutual

/-- A piece of a word. Its value is split into several words unless it is quoted. -/
inductive Piece where
  /-- A character that stands for itself. -/
  | char (c : Char) (quoted : Bool)
  /-- Quotes, which make a word even when nothing is in them. -/
  | quotes
  | parameter (name : String) (use : Use) (quoted : Bool)
  /-- What a script writes. -/
  | output (script : List Char) (quoted : Bool)
  /-- The value of an arithmetic expression. -/
  | number (expression : List Piece) (quoted : Bool)

/-- What is made of the value of a parameter. Where it may be missing, `orEmpty` says that an empty
value counts as missing too. -/
inductive Use where
  | value
  | length
  /-- The word stands in for a missing value. -/
  | default (orEmpty : Bool) (word : List Piece)
  /-- The same, and the parameter gets that value. -/
  | assign (orEmpty : Bool) (word : List Piece)
  /-- A missing value ends the script with the word. -/
  | demand (orEmpty : Bool) (word : List Piece)
  /-- The word stands in for a value that is not missing. -/
  | alternative (orEmpty : Bool) (word : List Piece)
  /-- The value without what matches at its begin. -/
  | trimFront (longest : Bool) (pattern : List Piece)
  /-- The value without what matches at its end. -/
  | trimBack (longest : Bool) (pattern : List Piece)

end

abbrev Word := List Piece

/-- How a file is opened. -/
inductive Mode where
  | read
  | write
  | append
  deriving DecidableEq, Repr

/-- Where a stream of a command comes from or goes to. -/
inductive Redirection where
  | file (stream : Nat) (mode : Mode) (target : Word)
  /-- The stream is where another one is. -/
  | duplicate (stream : Nat) (source : Word)
  /-- The stream reads a text of the script. -/
  | document (stream : Nat) (text : Word)

inductive Command where
  | nothing
  | simple (line : Nat) (assignments : List (String × Word)) (words : List Word)
    (redirections : List Redirection)
  | redirected (line : Nat) (body : Command) (redirections : List Redirection)
  /-- Commands each of which reads what the one before it writes. -/
  | pipeline (stages : List Command)
  | negation (body : Command)
  /-- The second command is run when the first one succeeds. -/
  | both (first second : Command)
  /-- The second command is run when the first one fails. -/
  | either (first second : Command)
  | sequence (first second : Command)
  | subshell (body : Command)
  | conditional (test whenTrue whenFalse : Command)
  /-- The body is repeated as long as the test succeeds, or until it does. -/
  | loop (isUntil : Bool) (test body : Command)
  /-- The body is run for each word, or for each argument of the script. -/
  | each (name : String) (words : Option (List Word)) (body : Command)
  /-- The first branch is run one of whose patterns matches the word. -/
  | choice (line : Nat) (word : Word) (branches : List (List Word × Command))
  | definition (name : String) (body : Command)

end AzcRepair.Scripted.Shell
