import AzcRepair.Yaml.Scalar

/-!
# YAML tokens

A text is cut into tokens. Indentation becomes tokens too: the first entry of a block collection
opens it, and a line that begins further left closes it. That something is a key shows only at its
colon, so the place of a possible key is remembered, and its token goes in front of what follows.
-/

namespace AzcRepair.Yaml

/-- The octets that a tag or a part of one stands for. Escapes may make them no text. -/
abbrev Octets := List UInt8

def octets (text : String) : Octets :=
  text.toUTF8.data.toList

/-- What a tag of one's own begins with: an exclamation mark. -/
def ownMark : UInt8 := 0x21

/-- What the tags of nulls, truth values and other common values begin with. -/
def commonStem : String := "tag:yaml.org,2002:"

inductive Token where
  | version
  /-- What a tag handle stands for. -/
  | handle (name : String) (stem : Octets)
  | documentStart
  | documentEnd
  | blockSequence
  | blockMapping
  | blockEnd
  | flowSequence
  | flowSequenceEnd
  | flowMapping
  | flowMappingEnd
  | blockEntry
  | flowEntry
  | key
  | value
  | reference (name : String)
  | anchor (name : String)
  | tag (handle : String) (suffix : Octets)
  | scalar (text : String) (isPlain : Bool)
  deriving DecidableEq, Repr, Inhabited

/-- A key that is one only if a colon follows. -/
structure PendingKey where
  /-- It begins a line of a block mapping, so the colon has to follow. -/
  isRequired : Bool
  /-- The number of tokens before it. -/
  place : Nat
  index : Nat
  line : Nat
  column : Nat
  deriving DecidableEq, Repr

structure Scanner where
  cursor : Cursor
  tokens : Array Token := #[]
  /-- The column of the innermost block collection. -/
  indent : Int := -1
  /-- The columns of those around it. -/
  outer : List Int := []
  /-- A key may begin here. -/
  keysAllowed : Bool := true
  /-- The pending key of each open flow collection and of the block around them. -/
  keys : List (Option PendingKey) := [none]

namespace Scanner

/-- What a step of the tokenizer gives. -/
abbrev Step := Except Problem Scanner

def problem {α : Type} (text : String) : Except Problem α :=
  .error (.scan text)

def inFlow (scanner : Scanner) : Bool :=
  1 < scanner.keys.length

def push (scanner : Scanner) (token : Token) : Scanner :=
  { scanner with tokens := scanner.tokens.push token }

def moveTo (scanner : Scanner) (cursor : Cursor) : Scanner :=
  { scanner with cursor := cursor }

def allowKeys (scanner : Scanner) (allowed : Bool) : Scanner :=
  { scanner with keysAllowed := allowed }

/-! ### Pending keys

A key is recognised only by the colon behind it, so every place at which one may begin is kept
until the colon comes or can no longer come: on the next line, or more than 1024 bytes further on.
Giving up a key is a problem only where the indentation leaves no other reading. -/

def longestKey : Nat := 1024

/-- A pending key that can no longer be one. -/
def isStale (cursor : Cursor) (key : PendingKey) : Bool :=
  key.line < cursor.line || key.index + longestKey < cursor.index

/-- Gives up pending keys that can no longer be any. -/
def dropStaleKeys (scanner : Scanner) : Step :=
  -- a required key begins a line of a mapping, which cannot be anything but an entry
  let isMissed (key : PendingKey) := isStale scanner.cursor key && key.isRequired
  if scanner.keys.any fun key => key.any isMissed then
    problem "could not find expected ':'"
  else .ok { scanner with
    keys := scanner.keys.map fun key => key.filter fun key => !isStale scanner.cursor key }

def dropKey (scanner : Scanner) : Step :=
  match scanner.keys with
  | some key :: rest =>
    if key.isRequired then problem "could not find expected ':'"
    else .ok { scanner with keys := none :: rest }
  | _ => .ok scanner

def saveKey (scanner : Scanner) : Step :=
  if !scanner.keysAllowed then .ok scanner
  else do
    let scanner ← scanner.dropKey
    let cursor := scanner.cursor
    let key : PendingKey := {
      isRequired := !scanner.inFlow && scanner.indent = cursor.column
      place := scanner.tokens.size
      index := cursor.index, line := cursor.line, column := cursor.column }
    return { scanner with keys := some key :: scanner.keys.tail }

/-! ### Indentation

Block collections have no brackets. The column of their first entry opens them, and the columns of
those that are open are kept on a stack; a token that lies further left closes all that lie
further right. Inside brackets indentation counts for nothing. -/

/-- Opens a block collection at a column that lies further right, in front of the token at a place.
-/
def roll (scanner : Scanner) (column place : Nat) (token : Token) : Scanner :=
  if scanner.inFlow || (column : Int) ≤ scanner.indent then scanner
  else { scanner with
    indent := column
    outer := scanner.indent :: scanner.outer
    tokens := scanner.tokens.insertIdxIfInBounds place token }

/-- Closes the block collections that lie further right. -/
def unrollFrom (column : Int) : Int → List Int → Array Token → Int × List Int × Array Token
  | indent, [], tokens => (indent, [], tokens)
  | indent, next :: outer, tokens =>
    if column < indent then unrollFrom column next outer (tokens.push .blockEnd)
    else (indent, next :: outer, tokens)

/-- Closes the block collections that lie further right than a column. -/
def unroll (scanner : Scanner) (column : Int) : Scanner :=
  if scanner.inFlow then scanner
  else
    let (indent, outer, tokens) := unrollFrom column scanner.indent scanner.outer scanner.tokens
    { scanner with indent := indent, outer := outer, tokens := tokens }

/-! ### Between tokens

Gaps carry no token, but they decide whether a key may begin: at the beginning of a line it may,
unless the line lies inside brackets. -/

/-- Passes over a byte order mark that begins a line. It takes up a column. -/
def skipOrderMark (cursor : Cursor) : Cursor :=
  if cursor.column = 0 && cursor.head = orderMark then cursor.skip else cursor

/-- Passes over blanks, comments and line ends. A tab does not count as indentation. -/
def skipToToken : Nat → Scanner → Scanner
  | 0, scanner => scanner
  | fuel + 1, scanner =>
    -- a tab may not stand where the next token would count as indented by it
    let cursor := (skipOrderMark scanner.cursor).skipWhile fun c =>
      c = ' ' || ((scanner.inFlow || !scanner.keysAllowed) && c = '\t')
    let cursor := if cursor.head = '#' then cursor.skipWhile fun _ => true else cursor
    if isBreak cursor.head then
      skipToToken fuel { scanner with
        cursor := cursor.skipBreak, keysAllowed := scanner.keysAllowed || !scanner.inFlow }
    else scanner.moveTo cursor

/-! ### Directives, anchors and tags

Tags and the addresses of directives are read octet by octet, for their escapes name octets and
not characters. Only the common handles and those of a directive stand for something; that is
looked up when the nodes are read. -/

/-- Reads a name of letters, digits, underscores and hyphens. -/
def readName (cursor : Cursor) : String × Cursor :=
  let name := cursor.rest.takeWhile isNameChar
  (String.ofList name, cursor.skipBy name.length)

/-- Reads the line of a directive to its end. -/
def endDirective (cursor : Cursor) : Except Problem Cursor :=
  let cursor := skipComment cursor
  if isBreakOrEnd cursor.head then .ok cursor.skipBreak
  else problem "did not find expected comment or line break"

/-- A character of an address; some only count between angle brackets. -/
def isAddressChar (isVerbatim : Bool) (c : Char) : Bool :=
  isNameChar c || [';', '/', '?', ':', '@', '&', '=', '+', '$', '.', '%', '!', '~', '*', '\'', '(',
    ')'].contains c || (isVerbatim && [',', '[', ']'].contains c)

/-- The octet of an escape: a percent sign and two hexadecimal digits. -/
def escapedOctet? (cursor : Cursor) : Option UInt8 := do
  let '%' :: high :: low :: _ := cursor.rest | none
  return UInt8.ofNat ((← Text.hexValue? high) * 16 + (← Text.hexValue? low))

/-- How many octets follow the first one of a character. -/
def trailingCount? (leading : UInt8) : Option Nat :=
  if leading < 0x80 then some 0
  else if leading &&& 0xE0 = 0xC0 then some 1
  else if leading &&& 0xF0 = 0xE0 then some 2
  else if leading &&& 0xF8 = 0xF0 then some 3
  else none

/-- Reads an address, in whose middle `trailing` octets of a character may be missing; escapes have
to stand for them. -/
def readOctets (isVerbatim : Bool) : Nat → (trailing : Nat) → Cursor →
    Except Problem (Octets × Cursor)
  | 0, _, cursor => .ok ([], cursor)
  | fuel + 1, trailing, cursor =>
    let c := cursor.head
    let push (octet : UInt8) (read : Except Problem (Octets × Cursor)) :=
      read.map fun (octets, cursor) => (octet :: octets, cursor)
    if trailing = 0 && !isAddressChar isVerbatim c then .ok ([], cursor)
    else if trailing = 0 && c ≠ '%' then
      push (UInt8.ofNat c.toNat) (readOctets isVerbatim fuel 0 cursor.skip)
    else
      match trailing, escapedOctet? cursor with
      | _, none => problem "did not find URI escaped octet"
      | 0, some octet =>
        match trailingCount? octet with
        | some count => push octet (readOctets isVerbatim fuel count (cursor.skipBy 3))
        | none => problem "found an incorrect leading UTF-8 octet"
      | left + 1, some octet =>
        if octet &&& 0xC0 = 0x80 then
          push octet (readOctets isVerbatim fuel left (cursor.skipBy 3))
        else problem "found an incorrect trailing UTF-8 octet"

def readAddress (isVerbatim : Bool) (cursor : Cursor) : Except Problem (Octets × Cursor) :=
  readOctets isVerbatim (cursor.rest.length + 1) 0 cursor

/-- Reads a handle: exclamation marks around a name, or a single one. -/
def readHandle (cursor : Cursor) : Except Problem (String × Cursor) :=
  if cursor.head ≠ '!' then problem "did not find expected '!'"
  else
    let (name, cursor) := readName cursor.skip
    if cursor.head = '!' then .ok ("!" ++ name ++ "!", cursor.skip) else .ok ("!" ++ name, cursor)

/-- Reads one of the two numbers of a version, which has at most nine digits. -/
def readVersionPart (cursor : Cursor) : Except Problem (Nat × Cursor) :=
  let digits := cursor.rest.takeWhile Char.isDigit
  if digits.isEmpty then problem "did not find expected version number"
  else if 9 < digits.length then problem "found extremely long version number"
  else .ok (Text.natOfDigits digits, cursor.skipBy digits.length)

def readDirective (cursor : Cursor) : Except Problem (Token × Cursor) := do
  let (name, cursor) := readName cursor
  unless isGap cursor.head do problem "found unexpected non-alphabetical character"
  let cursor := cursor.skipWhile isBlank
  match name with
  | "YAML" =>
    let (major, cursor) ← readVersionPart cursor
    unless cursor.head = '.' do problem "did not find expected digit or '.' character"
    let (minor, cursor) ← readVersionPart cursor.skip
    unless major = 1 && (minor = 1 || minor = 2) do problem "found incompatible YAML document"
    return (.version, ← endDirective cursor)
  | "TAG" =>
    let (handle, cursor) ← readHandle cursor
    unless handle = "!" || handle.endsWith "!" do problem "did not find expected '!'"
    unless isBlank cursor.head do problem "did not find expected whitespace"
    let (stem, cursor) ← readAddress true (cursor.skipWhile isBlank)
    if stem.isEmpty then problem "did not find expected tag URI"
    unless isGap cursor.head do problem "did not find expected whitespace or line break"
    return (.handle handle stem, ← endDirective cursor)
  | _ => problem "found unknown directive name"

/-- Reads the name of an anchor or a reference. -/
def readAnchorName (cursor : Cursor) : Except Problem (String × Cursor) :=
  let (name, cursor) := readName cursor
  let c := cursor.head
  if name.isEmpty || !(isGap c || ['?', ':', ',', ']', '\x7d', '%', '@', '\x60'].contains c) then
    problem "did not find expected alphabetic or numeric character"
  else .ok (name, cursor)

/-- Reads a tag at its exclamation mark. A lone exclamation mark is a whole tag. -/
def readTag (inFlow : Bool) (cursor : Cursor) : Except Problem (Token × Cursor) := do
  let (token, cursor) ← if cursor.peek 1 = '<' then do
      let (address, cursor) ← readAddress true (cursor.skipBy 2)
      if address.isEmpty then problem "did not find expected tag URI"
      else if cursor.head = '>' then pure (Token.tag "" address, cursor.skip)
      else problem "did not find the expected '>'"
    else do
      -- a handle needs two exclamation marks; after a single one the whole rest is the suffix
      let (handle, afterHandle) ← readHandle cursor
      if handle.length > 1 && handle.endsWith "!" then
        let (suffix, cursor) ← readAddress false afterHandle
        if suffix.isEmpty then problem "did not find expected tag URI"
        else pure (Token.tag handle suffix, cursor)
      else
        let (suffix, cursor) ← readAddress false cursor.skip
        pure (if suffix.isEmpty then Token.tag "" [ownMark] else Token.tag "!" suffix, cursor)
  if isGap cursor.head || (inFlow && cursor.head = ',') then return (token, cursor)
  problem "did not find expected whitespace or line break"

/-! ### Steps

One step for every kind of token. Each one first settles the pending key, then says whether a key
may begin after it, then adds the token. The order matters, for settling a key can fail. -/

/-- Ends the text: all block collections are closed. -/
def finish (scanner : Scanner) : Step := do
  let scanner ← (scanner.unroll (-1)).dropKey
  return scanner.allowKeys false

def takeDirective (scanner : Scanner) : Step := do
  let scanner ← (scanner.unroll (-1)).dropKey
  let (token, cursor) ← readDirective scanner.cursor.skip
  return ((scanner.allowKeys false).push token).moveTo cursor

def takeDocumentMark (scanner : Scanner) (token : Token) : Step := do
  let scanner ← (scanner.unroll (-1)).dropKey
  return ((scanner.allowKeys false).push token).moveTo (scanner.cursor.skipBy 3)

def openFlow (scanner : Scanner) (token : Token) : Step := do
  let scanner ← scanner.saveKey
  return { (scanner.push token).moveTo scanner.cursor.skip with
    keys := none :: scanner.keys, keysAllowed := true }

def closeFlow (scanner : Scanner) (token : Token) : Step := do
  let scanner ← scanner.dropKey
  let keys := if scanner.inFlow then scanner.keys.tail else scanner.keys
  return { (scanner.push token).moveTo scanner.cursor.skip with keys := keys, keysAllowed := false }

def takeFlowEntry (scanner : Scanner) : Step := do
  let scanner ← scanner.dropKey
  return ((scanner.allowKeys true).push .flowEntry).moveTo scanner.cursor.skip

/-- Opens a block collection here unless one is open. -/
def rollHere (scanner : Scanner) (token : Token) : Scanner :=
  scanner.roll scanner.cursor.column scanner.tokens.size token

def takeBlockEntry (scanner : Scanner) : Step := do
  if !scanner.inFlow && !scanner.keysAllowed then
    problem "block sequence entries are not allowed in this context"
  let scanner ← (scanner.rollHere .blockSequence).dropKey
  return ((scanner.allowKeys true).push .blockEntry).moveTo scanner.cursor.skip

/-- Takes the question mark of an explicit key. -/
def takeKey (scanner : Scanner) : Step := do
  if !scanner.inFlow && !scanner.keysAllowed then
    problem "mapping keys are not allowed in this context"
  let scanner ← (scanner.rollHere .blockMapping).dropKey
  return ((scanner.allowKeys (!scanner.inFlow)).push .key).moveTo scanner.cursor.skip

/-- Takes the colon of a value; what was a possible key becomes one. -/
def takeValue (scanner : Scanner) : Step :=
  match scanner.keys with
  | some key :: rest =>
    let scanner := { scanner with
      keys := none :: rest
      keysAllowed := false
      -- the token of the key goes in front of all that was read since the key began
      tokens := scanner.tokens.insertIdxIfInBounds key.place .key }
    let scanner := scanner.roll key.column key.place .blockMapping
    .ok ((scanner.push .value).moveTo scanner.cursor.skip)
  | _ =>
    if scanner.inFlow then .ok ((scanner.push .value).moveTo scanner.cursor.skip |>.allowKeys false)
    else if !scanner.keysAllowed then problem "mapping values are not allowed in this context"
    else
      let scanner := (scanner.rollHere .blockMapping).push .value
      .ok (scanner.moveTo scanner.cursor.skip |>.allowKeys true)

def takeAnchor (scanner : Scanner) (token : String → Token) : Step := do
  let scanner ← scanner.saveKey
  let (name, cursor) ← readAnchorName scanner.cursor.skip
  return ((scanner.allowKeys false).push (token name)).moveTo cursor

def takeTag (scanner : Scanner) : Step := do
  let scanner ← scanner.saveKey
  let (token, cursor) ← readTag scanner.inFlow scanner.cursor
  return ((scanner.allowKeys false).push token).moveTo cursor

def takeBlock (scanner : Scanner) (isLiteral : Bool) : Step := do
  let scanner ← scanner.dropKey
  let (text, cursor) ← readBlock isLiteral scanner.indent scanner.cursor.skip
  return ((scanner.allowKeys true).push (.scalar (String.ofList text) false)).moveTo cursor

def takeQuoted (scanner : Scanner) (isSingle : Bool) : Step := do
  let scanner ← scanner.saveKey
  let cursor := scanner.cursor.skip
  let (text, cursor) ← readQuoted isSingle (cursor.rest.length + 1) [] cursor
  return ((scanner.allowKeys false).push (.scalar (String.ofList text) false)).moveTo cursor

def takePlain (scanner : Scanner) : Step := do
  let scanner ← scanner.saveKey
  let cursor := scanner.cursor
  let least := (scanner.indent + 1).toNat
  let read ← readPlain scanner.inFlow least (cursor.rest.length + 1) [] {} cursor
  return ((scanner.allowKeys read.endedLine).push (.scalar (String.ofList read.text) true)).moveTo
    read.cursor

/-- A character that begins no plain scalar, at least not in front of a blank. -/
def isIndicator (c : Char) : Bool :=
  ['-', '?', ':', ',', '[', ']', '\x7b', '\x7d', '#', '&', '*', '!', '|', '>', '\'', '"', '%', '@',
    '\x60'].contains c

/-- A plain scalar may begin here. The hyphen, the question mark and the colon begin one too when
no gap follows them, the last two only outside of brackets. -/
def isAtPlain (scanner : Scanner) : Bool :=
  let c := scanner.cursor.head
  let next := scanner.cursor.peek 1
  !(isGap c || isIndicator c) || (c = '-' && !isBlank next) ||
    (!scanner.inFlow && (c = '?' || c = ':') && !isGap next)

/-- Takes the next token; nothing is left at the end of the text. -/
def take (scanner : Scanner) : Except Problem (Option Scanner) := do
  let scanner := skipToToken (scanner.cursor.rest.length + 1) scanner
  let scanner ← scanner.dropStaleKeys
  let cursor := scanner.cursor
  let scanner := scanner.unroll cursor.column
  let c := cursor.head
  let next := cursor.peek 1
  if c = endMark then return none
  if cursor.column = 0 && c = '%' then return some (← scanner.takeDirective)
  if cursor.isAtDocumentMark then
    return some (← scanner.takeDocumentMark (if c = '-' then .documentStart else .documentEnd))
  match c with
  | '[' => return some (← scanner.openFlow .flowSequence)
  | '\x7b' => return some (← scanner.openFlow .flowMapping)
  | ']' => return some (← scanner.closeFlow .flowSequenceEnd)
  | '\x7d' => return some (← scanner.closeFlow .flowMappingEnd)
  | ',' => return some (← scanner.takeFlowEntry)
  | '*' => return some (← scanner.takeAnchor .reference)
  | '&' => return some (← scanner.takeAnchor .anchor)
  | '!' => return some (← scanner.takeTag)
  | '\'' => return some (← scanner.takeQuoted true)
  | '"' => return some (← scanner.takeQuoted false)
  | _ =>
    if c = '-' && isGap next then return some (← scanner.takeBlockEntry)
    if c = '?' && (scanner.inFlow || isGap next) then return some (← scanner.takeKey)
    if c = ':' && (scanner.inFlow || isGap next) then return some (← scanner.takeValue)
    if c = '|' && !scanner.inFlow then return some (← scanner.takeBlock true)
    if c = '>' && !scanner.inFlow then return some (← scanner.takeBlock false)
    if scanner.isAtPlain then return some (← scanner.takePlain)
    problem "found character that cannot start any token"

/-- Takes all tokens of a text. The end is reached once nothing but a gap is left, and closes what
is still open. -/
def takeAll : Nat → Scanner → Except Problem (Array Token)
  | 0, scanner => return (← scanner.finish).tokens
  | fuel + 1, scanner => do
    -- kept apart from `take`, which gives no scanner back at the end of the text
    let skipped := skipToToken (scanner.cursor.rest.length + 1) scanner
    match ← scanner.take with
    | some scanner => takeAll fuel scanner
    | none => return (← skipped.finish).tokens

end Scanner

/-- The tokens of a text. A character that no text may hold is refused before anything is read. -/
def Token.ofText (text : String) : Except Problem (List Token) :=
  let chars := text.toList
  if !chars.all isAllowed then .error .controlCharacter
  else
    (Scanner.takeAll (2 * chars.length + 2) { cursor := .start chars }).map Array.toList

end AzcRepair.Yaml
