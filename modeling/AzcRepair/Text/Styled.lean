import AzcRepair.Text.Utf8

/-!
# Styled text

A text for a terminal may hold sequences that set its style or its title. `unstyled` is what is left
to read: the sequences and all control characters but blanks are dropped. A sequence begins with an
escape, and how it ends depends on its kind; a blank or a character beyond ASCII breaks it off.
-/

namespace AzcRepair.Text

/-- What the bytes of a text belong to. -/
inductive Styling where
  /-- The text itself. -/
  | text
  /-- An escape was read. -/
  | escape
  /-- A sequence that ends with its first byte beyond the punctuation. -/
  | short
  /-- A sequence that ends with a letter. -/
  | control
  /-- A title, which ends with a bell. -/
  | title
  /-- A string, which lasts to the next escape. -/
  | string
  deriving DecidableEq, Repr

namespace Styling

/-- What follows a byte, when that does not belong to the text. -/
def next (state : Styling) (byte : UInt8) : Styling :=
  -- these two break off any sequence, and an escape begins a new one at once
  if byte = 0x18 || byte = 0x1A then text
  else if byte = 0x1B then escape
  else
    match state with
    | text => text
    | escape =>
      if byte = 0x5B then control
      else if byte = 0x5D then title
      else if [0x50, 0x58, 0x5E, 0x5F].contains byte then string
      else if 0x20 ≤ byte && byte ≤ 0x2F then short
      else if 0x30 ≤ byte && byte ≤ 0x7E then text
      else escape
    | short => if 0x30 ≤ byte && byte ≤ 0x7E then text else short
    | control => if 0x40 ≤ byte && byte ≤ 0x7E then text else control
    | title => if byte = 0x07 then text else title
    | string => string

/-- The byte is a line end or another blank that is no space. -/
def isBlankByte (byte : UInt8) : Bool :=
  byte = 0x09 || byte = 0x0A || byte = 0x0C || byte = 0x0D

/-- The byte is to be read. Bytes that go on with a character always are. -/
def shows (state : Styling) (byte : UInt8) : Bool :=
  (0x80 ≤ byte && byte ≤ 0xBF) ||
    match state with
    | text => (0x20 ≤ byte && byte ≠ 0x7F) || isBlankByte byte
    | escape | short | control => isBlankByte byte
    | title | string => false

end Styling

def shownBytes : Styling → List UInt8 → List UInt8
  | _, [] => []
  | state, byte :: rest =>
    -- a byte that shows ends the sequence it stands in
    if state.shows byte then byte :: shownBytes .text rest else shownBytes (state.next byte) rest

/-- A text without what is meant for the terminal. -/
def unstyled (text : String) : String :=
  String.ofList (decodeFrom none (shownBytes .text text.toUTF8.data.toList))

/-- A text set off from those around it. -/
def setOff (text : String) : String :=
  "\x1b[33m" ++ text ++ "\x1b[0m"

end AzcRepair.Text
