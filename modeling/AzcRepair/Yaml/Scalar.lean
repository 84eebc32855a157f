import AzcRepair.Text.Numeral
import AzcRepair.Yaml.Cursor

/-!
# YAML scalars

A scalar is plain, quoted or a block. Plain and quoted scalars may run over several lines; a single
line end between words then stands for a space, and of several the first is dropped. A block keeps
its line ends or folds them, and drops or keeps those at its end.
-/

namespace AzcRepair.Yaml

/-! ### Gaps

What lies between two words of a scalar of several lines. Blanks count only as long as the line
goes on: those in front of a line end and those that indent the next line are dropped. -/

/-- Blanks and line ends between two words. -/
structure Gap where
  /-- The blanks, as long as no line has ended. -/
  blanks : List Char := []
  /-- A line has ended. -/
  isBroken : Bool := false
  /-- The first line end. -/
  first : List Char := []
  /-- The further line ends. -/
  others : List Char := []
  deriving DecidableEq, Repr

/-- What line ends between two words stand for. -/
def foldBreaks (first others : List Char) : List Char :=
  if first.head? = some '\n' then (if others.isEmpty then [' '] else others) else first ++ others

def Gap.text (gap : Gap) : List Char :=
  if gap.isBroken then foldBreaks gap.first gap.others else gap.blanks

def Gap.addBreak (gap : Gap) (text : List Char) : Gap :=
  if gap.isBroken then { gap with others := gap.others ++ text }
  else { gap with blanks := [], isBroken := true, first := text }

/-- Reads a gap. Where there is a least column, a tab in front of it is refused. -/
def readGap (least : Option Nat) : Nat → Gap → Cursor → Except Problem (Gap × Cursor)
  | 0, gap, cursor => .ok (gap, cursor)
  | fuel + 1, gap, cursor =>
    let c := cursor.head
    if isBlank c then
      if gap.isBroken then
        if c = '\t' && least.any (cursor.column < ·) then
          .error (.scan "found a tab character that violates indentation")
        else readGap least fuel gap cursor.skip
      else readGap least fuel { gap with blanks := gap.blanks ++ [c] } cursor.skip
    else if isBreak c then readGap least fuel (gap.addBreak cursor.breakText) cursor.skipBreak
    else .ok (gap, cursor)

/-! ### Plain scalars

A plain scalar has no mark at either end. It goes on as long as what follows can be nothing else:
up to a comment, a colon with a gap behind it, a document mark, or a line that lies too far left,
and inside brackets also up to anything that could close or separate an item. -/

/-- A flow indicator ends a plain scalar inside a flow collection. -/
def isFlowIndicator (c : Char) : Bool :=
  [',', '[', ']', '\x7b', '\x7d'].contains c

/-- Reads the rest of a word of a plain scalar. -/
def readWord (inFlow : Bool) : Nat → Cursor → Except Problem (List Char × Cursor)
  | 0, cursor => .ok ([], cursor)
  | fuel + 1, cursor =>
    let c := cursor.head
    let next := cursor.peek 1
    if isGap c then .ok ([], cursor)
    -- inside brackets a colon in front of an indicator is neither text nor the end of a key
    else if inFlow && c = ':' && (isFlowIndicator next || next = '?') then
      .error (.scan "found unexpected ':'")
    else if (c = ':' && isGap next) || (inFlow && isFlowIndicator c) then .ok ([], cursor)
    else (readWord inFlow fuel cursor.skip).map fun (word, cursor) => (c :: word, cursor)

structure Read where
  text : List Char
  /-- A line ended behind it. -/
  endedLine : Bool
  cursor : Cursor
  deriving DecidableEq, Repr

/-- Reads the words of a plain scalar, which may go on at columns from `least` on. -/
def readPlain (inFlow : Bool) (least : Nat) : Nat → List Char → Gap → Cursor → Except Problem Read
  | 0, text, gap, cursor => .ok ⟨text, gap.isBroken, cursor⟩
  | fuel + 1, text, gap, cursor =>
    if cursor.isAtDocumentMark || cursor.head = '#' then .ok ⟨text, gap.isBroken, cursor⟩
    else
      match readWord inFlow (cursor.rest.length + 1) cursor with
      | .error problem => .error problem
      | .ok ([], cursor) => .ok ⟨text, gap.isBroken, cursor⟩
      | .ok (word, cursor) =>
        let text := text ++ gap.text ++ word
        let c := cursor.head
        if !(isBlank c || isBreak c) then .ok ⟨text, false, cursor⟩
        else
          match readGap (some least) (cursor.rest.length + 1) {} cursor with
          | .error problem => .error problem
          | .ok (gap, cursor) =>
            -- the line belongs to what holds the scalar
            if !inFlow && cursor.column < least then .ok ⟨text, gap.isBroken, cursor⟩
            else readPlain inFlow least fuel text gap cursor

/-! ### Quoted scalars

Single quotes know one escape, the doubled quote; double quotes know the escapes by letter and by
code point, and an escaped line end, which joins two lines without a space. Indentation plays no
part in either of them. -/

def shortEscape? : Char → Option Char
  | '0' => some '\x00'
  | 'a' => some '\x07'
  | 'b' => some '\x08'
  | 't' | '\t' => some '\t'
  | 'n' => some '\n'
  | 'v' => some '\x0b'
  | 'f' => some '\x0c'
  | 'r' => some '\r'
  | 'e' => some '\x1b'
  | ' ' => some ' '
  | '"' => some '"'
  | '/' => some '/'
  | '\\' => some '\\'
  | 'N' => some '\u0085'
  | '_' => some '\u00a0'
  | 'L' => some '\u2028'
  | 'P' => some '\u2029'
  | _ => none

/-- The number of digits of an escape by code point. -/
def codeLength? : Char → Option Nat
  | 'x' => some 2
  | 'u' => some 4
  | 'U' => some 8
  | _ => none

/-- The character with a code point of so many digits, if there is one. A half of a surrogate pair
is no character. -/
def charOfHex? (digits : List Char) (length : Nat) : Option Char := do
  if digits.length < length then none
  let value ← digits.foldlM (fun n c => (Text.hexValue? c).map (n * 16 + ·)) 0
  if h : value.isValidChar then some ⟨value.toUInt32, by
    have : value < 4294967296 := by
      rcases h with h | h <;> omega
    simpa [UInt32.isValidChar, Nat.toUInt32, Nat.mod_eq_of_lt this] using h⟩
  else none

def readEscape (cursor : Cursor) : Except Problem (Char × Cursor) :=
  let c := cursor.head
  match shortEscape? c, codeLength? c with
  | some value, _ => .ok (value, cursor.skip)
  | none, some length =>
    match charOfHex? (cursor.skip.rest.take length) length with
    | some value => .ok (value, cursor.skip.skipBy length)
    | none => .error (.scan "found invalid Unicode character escape code")
  | none, none => .error (.scan "found unknown escape character")

/-- Reads the rest of a word of a quoted scalar; an escaped line end behind it begins a gap. -/
def readQuotedWord (isSingle : Bool) : Nat → Cursor → Except Problem (List Char × Gap × Cursor)
  | 0, cursor => .ok ([], {}, cursor)
  | fuel + 1, cursor =>
    let c := cursor.head
    let next := cursor.peek 1
    if isGap c then .ok ([], {}, cursor)
    else if isSingle && c = '\'' && next = '\'' then
      (readQuotedWord isSingle fuel (cursor.skipBy 2)).map fun (word, read) => ('\'' :: word, read)
    else if c = (if isSingle then '\'' else '"') then .ok ([], {}, cursor)
    else if !isSingle && c = '\\' && isBreak next then
      -- the gap is broken already, and by nothing: the line end itself leaves no text
      .ok ([], { isBroken := true }, cursor.skip.skipBreak)
    else if !isSingle && c = '\\' then
      match readEscape cursor.skip with
      | .error problem => .error problem
      | .ok (value, cursor) =>
        (readQuotedWord isSingle fuel cursor).map fun (word, read) => (value :: word, read)
    else (readQuotedWord isSingle fuel cursor.skip).map fun (word, read) => (c :: word, read)

/-- Reads a quoted scalar behind its opening quote. -/
def readQuoted (isSingle : Bool) : Nat → List Char → Cursor → Except Problem (List Char × Cursor)
  | 0, _, _ => .error (.scan "found unexpected end of stream")
  | fuel + 1, text, cursor =>
    if cursor.isAtDocumentMark then .error (.scan "found unexpected document indicator")
    else if cursor.head = endMark then .error (.scan "found unexpected end of stream")
    else
      match readQuotedWord isSingle (cursor.rest.length + 1) cursor with
      | .error problem => .error problem
      | .ok (word, gap, cursor) =>
        if cursor.head = (if isSingle then '\'' else '"') then .ok (text ++ word, cursor.skip)
        else
          match readGap none (cursor.rest.length + 1) gap cursor with
          | .error problem => .error problem
          | .ok (gap, cursor) => readQuoted isSingle fuel (text ++ word ++ gap.text) cursor

/-! ### Blocks

A block keeps the form of its lines. Its indentation is given in the header or taken from its
first line that is not empty; a line end between two lines that are not indented further is folded
into a space, unless the block is a literal one. What stays of the line ends at its end is up to
the chomping. -/

/-- What happens to the line ends at the end of a block. -/
inductive Chomping where
  /-- The first one stays. -/
  | clip
  /-- None stays. -/
  | strip
  /-- All stay. -/
  | keep
  deriving DecidableEq, Repr

structure BlockHeader where
  chomping : Chomping
  /-- The indentation of the block, seen from what holds it. -/
  increment : Option Nat
  deriving DecidableEq, Repr

def chomping? : Char → Option Chomping
  | '+' => some .keep
  | '-' => some .strip
  | _ => none

def readIncrement (cursor : Cursor) : Except Problem (Option Nat × Cursor) :=
  let c := cursor.head
  if c = '0' then .error (.scan "found an indentation indicator equal to 0")
  else if c.isDigit then .ok (some (Text.digitValue c), cursor.skip)
  else .ok (none, cursor)

/-- Reads the header of a block behind its first character. -/
def readBlockHeader (cursor : Cursor) : Except Problem (BlockHeader × Cursor) := do
  match chomping? cursor.head with
  | some chomping =>
    let (increment, cursor) ← readIncrement cursor.skip
    return (⟨chomping, increment⟩, cursor)
  | none =>
    match ← readIncrement cursor with
    | (none, cursor) => return (⟨.clip, none⟩, cursor)
    | (some increment, cursor) =>
      match chomping? cursor.head with
      | some chomping => return (⟨chomping, some increment⟩, cursor.skip)
      | none => return (⟨.clip, some increment⟩, cursor)

def skipComment (cursor : Cursor) : Cursor :=
  let cursor := cursor.skipWhile isBlank
  if cursor.head = '#' then cursor.skipWhile fun _ => true else cursor

/-- Line ends in front of a line of a block. -/
structure BlockBreaks where
  text : List Char
  /-- The largest column that an indentation reached. -/
  widest : Nat
  cursor : Cursor
  deriving DecidableEq, Repr

/-- Reads the indentation in front of a line and the empty lines before it. The indentation of the
block is not known in the beginning. -/
def readBlockBreaks (indent : Option Nat) : Nat → List Char → Nat → Cursor →
    Except Problem BlockBreaks
  | 0, text, widest, cursor => .ok ⟨text, widest, cursor⟩
  | fuel + 1, text, widest, cursor =>
    let isInside := fun (cursor : Cursor) => indent.all (cursor.column < ·)
    let spaces := (cursor.rest.takeWhile (· = ' ')).length
    -- as long as the indentation is not known, every space may belong to it
    let count := match indent with
      | none => spaces
      | some indent => min spaces (indent - cursor.column)
    let cursor := cursor.skipBy count
    let widest := max widest cursor.column
    if isInside cursor && cursor.head = '\t' then
      .error (.scan "found a tab character where an indentation space is expected")
    else if isBreak cursor.head then
      readBlockBreaks indent fuel (text ++ cursor.breakText) widest cursor.skipBreak
    else .ok ⟨text, widest, cursor⟩

/-- What was read of a block. -/
structure BlockText where
  text : List Char
  /-- The end of the last line. -/
  last : List Char
  /-- The empty lines after it. -/
  others : List Char
  /-- The last line begins with a blank. -/
  isSpaced : Bool
  cursor : Cursor
  deriving DecidableEq, Repr

/-- Reads the lines of a block, all at the column `indent`. A line that lies further left ends the
block; one that lies further right keeps its blanks, which exempts it from folding. -/
def readBlockLines (isLiteral : Bool) (indent : Nat) : Nat → BlockText → Except Problem BlockText
  | 0, block => .ok block
  | fuel + 1, block =>
    let cursor := block.cursor
    if cursor.column ≠ indent || cursor.head = endMark then .ok block
    else
      let isSpaced := isBlank cursor.head
      let isFolded := !isLiteral && block.last.head? = some '\n' && !block.isSpaced && !isSpaced
      -- a folded line end is a space only when no empty line stands for it
      let glue := if isFolded then (if block.others.isEmpty then [' '] else []) else block.last
      let line := cursor.rest.takeWhile (!isBreakOrEnd ·)
      let cursor := cursor.skipBy line.length
      match readBlockBreaks (some indent) (cursor.rest.length + 1) [] 0 cursor.skipBreak with
      | .error problem => .error problem
      | .ok breaks =>
        readBlockLines isLiteral indent fuel
          ⟨block.text ++ glue ++ block.others ++ line, cursor.breakText, breaks.text, isSpaced,
            breaks.cursor⟩

/-- Reads a block behind its first character; `parent` is the indentation of what holds it. -/
def readBlock (isLiteral : Bool) (parent : Int) (cursor : Cursor) :
    Except Problem (List Char × Cursor) := do
  let (header, cursor) ← readBlockHeader cursor
  let cursor := skipComment cursor
  unless isBreakOrEnd cursor.head do
    throw (.scan "did not find expected comment or line break")
  let cursor := cursor.skipBreak
  let given := header.increment.map fun n => if 0 ≤ parent then parent.toNat + n else n
  let breaks ← readBlockBreaks given (cursor.rest.length + 1) [] 0 cursor
  -- the widest line so far sets the indentation, at least one column inside the parent
  let indent := given.getD (max breaks.widest (max (parent + 1).toNat 1))
  let block ← readBlockLines isLiteral indent (breaks.cursor.rest.length + 1)
    ⟨[], [], breaks.text, false, breaks.cursor⟩
  let tail := match header.chomping with
    | .clip => block.last
    | .strip => []
    | .keep => block.last ++ block.others
  return (block.text ++ tail, block.cursor)

end AzcRepair.Yaml
