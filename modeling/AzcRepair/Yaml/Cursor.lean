/-!
# Places in a YAML text

A cursor is what is left of a text, with the line and the column it begins at. The character behind
the end reads as zero, which no text may hold.
-/

namespace AzcRepair.Yaml

/-- Why a text is no YAML. -/
inductive Problem where
  | controlCharacter
  | scan (text : String)
  | shape (text : String)
  | unknownAnchor (name : String)
  | tooDeep
  | severalDocuments
  | noMapping
  | wrongTag
  deriving DecidableEq, Repr

def Problem.message : Problem → String
  | controlCharacter => "control characters are not allowed"
  | scan text => text
  | shape text => text
  | unknownAnchor name => "unknown anchor " ++ name
  | tooDeep => "recursion limit exceeded"
  | severalDocuments => "deserializing from YAML containing more than one document is not supported"
  | noMapping => "invalid type, expected a map"
  | wrongTag => "invalid value for its tag"

/-- What stands for the end of a text. No allowed character equals it, so it cannot be taken for
one. -/
def endMark : Char := '\x00'

def orderMark : Char := '\ufeff'

def isBreak (c : Char) : Bool :=
  c = '\n' || c = '\r' || c = '\u0085' || c = '\u2028' || c = '\u2029'

def isBlank (c : Char) : Bool :=
  c = ' ' || c = '\t'

/-- A line end or the end of the text. -/
def isBreakOrEnd (c : Char) : Bool :=
  isBreak c || c = endMark

/-- A blank, a line end or the end of the text. -/
def isGap (c : Char) : Bool :=
  isBlank c || isBreakOrEnd c

/-- A letter, a digit, an underscore or a hyphen. -/
def isNameChar (c : Char) : Bool :=
  c.isAlphanum || c = '_' || c = '-'

/-- A character that a text may hold. -/
def isAllowed (c : Char) : Bool :=
  let n := c.toNat
  n = 0x9 || n = 0xA || n = 0xD || (0x20 ≤ n && n ≤ 0x7E) || n = 0x85 || (0xA0 ≤ n && n ≤ 0xD7FF) ||
    (0xE000 ≤ n && n ≤ 0xFFFD) || 0x10000 ≤ n

structure Cursor where
  rest : List Char
  /-- The number of bytes before the place. -/
  index : Nat
  line : Nat
  column : Nat
  deriving DecidableEq, Repr

namespace Cursor

def start (text : List Char) : Cursor :=
  ⟨text, 0, 0, 0⟩

/-- The character so many places ahead. Behind the end it is the end mark, which keeps the scanner
free of case distinctions on what is left. -/
def peek (cursor : Cursor) (ahead : Nat) : Char :=
  cursor.rest.getD ahead endMark

def head (cursor : Cursor) : Char :=
  cursor.peek 0

/-- Passes over a character that ends no line. -/
def skip (cursor : Cursor) : Cursor :=
  match cursor.rest with
  | [] => cursor
  | c :: rest =>
    { cursor with rest := rest, index := cursor.index + c.utf8Size, column := cursor.column + 1 }

/-- Passes over some characters that end no line. -/
def skipBy (cursor : Cursor) : Nat → Cursor
  | 0 => cursor
  | count + 1 => cursor.skip.skipBy count

/-- Passes over a line end, if there is one. -/
def skipBreak (cursor : Cursor) : Cursor :=
  match cursor.rest with
  -- the two characters are one line end
  | '\r' :: '\n' :: rest => ⟨rest, cursor.index + 2, cursor.line + 1, 0⟩
  | c :: rest =>
    if isBreak c then ⟨rest, cursor.index + c.utf8Size, cursor.line + 1, 0⟩ else cursor
  | [] => cursor

/-- What a line end stands for in a scalar. -/
def breakText (cursor : Cursor) : List Char :=
  let c := cursor.head
  if c = '\n' || c = '\r' || c = '\u0085' then ['\n'] else if isBreak c then [c] else []

/-- Passes over characters as long as they have a property and end no line. -/
def skipWhile (p : Char → Bool) (cursor : Cursor) : Cursor :=
  let count := (cursor.rest.takeWhile fun c => p c && !isBreak c).length
  cursor.skipBy count

def startsWith (cursor : Cursor) (chars : List Char) : Bool :=
  chars.isPrefixOf cursor.rest

/-- Three hyphens or three points at the beginning of a line, with a gap behind them. They end
even a scalar, so every reader of words asks for them first. -/
def isAtDocumentMark (cursor : Cursor) : Bool :=
  cursor.column = 0 && (cursor.startsWith ['-', '-', '-'] || cursor.startsWith ['.', '.', '.']) &&
    isGap (cursor.peek 3)

end Cursor

end AzcRepair.Yaml
