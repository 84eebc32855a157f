import AzcRepair.Json.Number
import AzcRepair.Json.Text

/-!
# Reading JSON texts

A reader takes one value from the front of a text and returns what is left. Blanks are the space,
the tab, the carriage return and the line feed. A strict reader refuses the 128th open container,
numbers beyond the range of doubles and lone surrogates; a lenient one passes over them, and takes
an object whose names have no value for unreadable.

* `Json.read` reads a whole text.
* `Json.readAnything` is the lenient form of it.
-/

namespace AzcRepair.Json

def isSpace (c : Char) : Bool :=
  c = ' ' || c = '\t' || c = '\n' || c = '\r'

def skipSpace (text : List Char) : List Char :=
  text.dropWhile isSpace

/-- The number of containers that may be open at once. -/
def maxDepth : Nat := 127

/-- Reads the rest of one of the words `null`, `true` and `false`. -/
def readWord (value : Json) : List Char → List Char → Except Fault (Json × List Char)
  | [], text => .ok (value, text)
  | _ :: _, [] => .error (.at .endInValue [] 0)
  | expected :: word, c :: text =>
    if c = expected then readWord value word text else .error (.at .expectedWord (c :: text) 1)

/-- Reads the name of a member behind its opening quote. -/
def readName (strict : Bool) (text : List Char) : Except Fault (Option String × List Char) :=
  (readString strict text).map fun (chars, rest) => (chars.map String.ofList, rest)

/-- Members in the order of the text, when every name has a value. -/
abbrev Members := Option (List (String × Json))

def Members.push (name : Option String) (value : Json) (members : Members) : Members := do
  return (← name, value) :: (← members)

def ofMembers : Members → Json
  | some members => .object members
  | none => .unreadable

def readColon (text : List Char) : Except Fault (List Char) :=
  match skipSpace text with
  | ':' :: rest => .ok rest
  | [] => .error (.at .endInObject [] 0)
  | rest => .error (.at .expectedColon rest 1)

mutual

/-- Reads a value; `depth` more containers may be opened. The fuel goes down with every call and
never runs out before the text does, as every second call reads at least one character. -/
def readValue (strict : Bool) : Nat → Nat → List Char → Except Fault (Json × List Char)
  | 0, _, _ => .error (.at .endInValue [] 0)
  | fuel + 1, depth, text =>
    match skipSpace text with
    | [] => .error (.at .endInValue [] 0)
    | 'n' :: rest => readWord .null ['u', 'l', 'l'] rest
    | 't' :: rest => readWord (.bool true) ['r', 'u', 'e'] rest
    | 'f' :: rest => readWord (.bool false) ['a', 'l', 's', 'e'] rest
    | '"' :: rest =>
      (readString strict rest).map fun (chars, rest) =>
        (match chars with | some chars => .string (String.ofList chars) | none => .unreadable, rest)
    | '[' :: rest =>
      -- the bracket itself is where the reader stops, whatever follows it
      if strict && depth == 0 then .error (.at .tooDeep ('[' :: rest) 1)
      else
        match skipSpace rest with
        | [] => .error (.at .endInArray [] 0)
        | ']' :: rest => .ok (.array [], rest)
        | rest =>
          (readItems strict fuel (depth - 1) rest).map fun (items, rest) => (.array items, rest)
    | '\x7b' :: rest =>
      if strict && depth == 0 then .error (.at .tooDeep ('\x7b' :: rest) 1)
      else
        match skipSpace rest with
        | [] => .error (.at .endInObject [] 0)
        | '\x7d' :: rest => .ok (.object [], rest)
        | '"' :: rest =>
          (readMembers strict fuel (depth - 1) rest).map fun (members, rest) =>
            (ofMembers members, rest)
        | rest => .error (.at .keyMustBeString rest 1)
    | '-' :: rest => readNumber strict true rest
    | c :: rest =>
      if c.isDigit then readNumber strict false (c :: rest)
      else .error (.at .expectedValue (c :: rest) 1)

/-- Reads at least one item, up to the closing bracket. -/
def readItems (strict : Bool) : Nat → Nat → List Char → Except Fault (List Json × List Char)
  | 0, _, _ => .error (.at .endInArray [] 0)
  | fuel + 1, depth, text =>
    match readValue strict fuel depth text with
    | .error fault => .error fault
    | .ok (item, rest) =>
      match skipSpace rest with
      | [] => .error (.at .endInArray [] 0)
      | ']' :: rest => .ok ([item], rest)
      | ',' :: rest =>
        match skipSpace rest with
        | [] => .error (.at .endInValue [] 0)
        -- a bracket behind a comma has a fault of its own; any other text is read as an item
        | ']' :: rest => .error (.at .trailingComma (']' :: rest) 1)
        | rest =>
          (readItems strict fuel depth rest).map fun (items, rest) => (item :: items, rest)
      | rest => .error (.at .expectedCommaOrBracket rest 1)

/-- Reads at least one member, the first one behind its opening quote, up to the closing brace. -/
def readMembers (strict : Bool) :
    Nat → Nat → List Char → Except Fault (Members × List Char)
  | 0, _, _ => .error (.at .endInObject [] 0)
  | fuel + 1, depth, text =>
    match readName strict text with
    | .error fault => .error fault
    | .ok (name, rest) =>
      match readColon rest with
      | .error fault => .error fault
      | .ok rest =>
        match readValue strict fuel depth rest with
        | .error fault => .error fault
        | .ok (value, rest) =>
          match skipSpace rest with
          | [] => .error (.at .endInObject [] 0)
          | '\x7d' :: rest => .ok (Members.push name value (some []), rest)
          | ',' :: rest =>
            match skipSpace rest with
            | [] => .error (.at .endInValue [] 0)
            | '"' :: rest =>
              (readMembers strict fuel depth rest).map fun (members, rest) =>
                (members.push name value, rest)
            | '\x7d' :: rest => .error (.at .trailingComma ('\x7d' :: rest) 1)
            | rest => .error (.at .keyMustBeString rest 1)
          | rest => .error (.at .expectedCommaOrBrace rest 1)

end

/-- Reads a text that holds one value and nothing else. Blanks on both sides do not count. -/
def readWith (strict : Bool) (text : List Char) : Except Fault Json :=
  match readValue strict (2 * text.length + 1) maxDepth text with
  | .error fault => .error fault
  | .ok (value, rest) =>
    match skipSpace rest with
    | [] => .ok value
    | rest => .error (.at .trailingCharacters rest 1)

def read (text : String) : Except Fault Json :=
  readWith true text.toList

/-- Reads a text leniently: what no one asks for may be unreadable. -/
def readAnything (text : String) : Option Json :=
  (readWith false text.toList).toOption

end AzcRepair.Json
