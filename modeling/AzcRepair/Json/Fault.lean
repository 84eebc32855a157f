import AzcRepair.Text.Numeral

/-!
# Faults of JSON texts

A fault is the first place where a text leaves the grammar: what was wrong and where the reader
stood. Lines count from one. The column is the number of bytes since the last line feed, up to and
including the byte the reader stood at.
-/

namespace AzcRepair.Json

/-- What is wrong with a JSON text. -/
inductive Cause where
  | endInValue
  | endInArray
  | endInObject
  | endInString
  | expectedColon
  | expectedCommaOrBracket
  | expectedCommaOrBrace
  | expectedWord
  | expectedValue
  | invalidEscape
  | invalidNumber
  | numberOutOfRange
  | controlCharacter
  | keyMustBeString
  | loneSurrogate
  | trailingComma
  | trailingCharacters
  | cutSurrogate
  | tooDeep
  deriving DecidableEq, Repr

def Cause.message : Cause → String
  | endInValue => "EOF while parsing a value"
  | endInArray => "EOF while parsing a list"
  | endInObject => "EOF while parsing an object"
  | endInString => "EOF while parsing a string"
  | expectedColon => "expected `:`"
  | expectedCommaOrBracket => "expected `,` or `]`"
  | expectedCommaOrBrace => "expected `,` or `\x7d`"
  | expectedWord => "expected ident"
  | expectedValue => "expected value"
  | invalidEscape => "invalid escape"
  | invalidNumber => "invalid number"
  | numberOutOfRange => "number out of range"
  | controlCharacter => "control character (\\u0000-\\u001F) found while parsing a string"
  | keyMustBeString => "key must be a string"
  | loneSurrogate => "lone leading surrogate in hex escape"
  | trailingComma => "trailing comma"
  | trailingCharacters => "trailing characters"
  | cutSurrogate => "unexpected end of hex escape"
  | tooDeep => "recursion limit exceeded"

def byteCount (text : List Char) : Nat :=
  text.foldr (fun c n => c.utf8Size + n) 0

/-- A cause, and how many bytes of the text lie behind the place where the reader stopped. -/
structure Fault where
  cause : Cause
  left : Nat
  deriving DecidableEq, Repr

/-- Stops `past` bytes into the rest of the text. Counting what is left, and not what was read,
lets the readers work on bare lists of characters. -/
def Fault.at (cause : Cause) (rest : List Char) (past : Nat) : Fault :=
  ⟨cause, byteCount rest - past⟩

structure Position where
  line : Nat
  column : Nat
  deriving DecidableEq, Repr

/-- The position after the first `offset` bytes of a text. -/
def Position.after (offset : Nat) (text : List Char) : Position :=
  go 1 offset offset text
where
  /-- `column` bytes lie between the start of this line and the offset, `left` between the next
  character and the offset. -/
  go (line column left : Nat) : List Char → Position
    | [] => ⟨line, column⟩
    | c :: rest =>
      -- the offset lies inside this character or in front of it
      if left < c.utf8Size then ⟨line, column⟩
      else if c = '\n' then go (line + 1) (left - c.utf8Size) (left - c.utf8Size) rest
      else go line column (left - c.utf8Size) rest

def Fault.message (fault : Fault) (text : List Char) : String :=
  let position := Position.after (byteCount text - fault.left) text
  fault.cause.message ++ " at line " ++ Text.decimal position.line ++ " column " ++
    Text.decimal position.column

end AzcRepair.Json
