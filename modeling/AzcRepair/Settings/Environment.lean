import AzcRepair.Settings.Layer
import AzcRepair.Text.Blank
import AzcRepair.Text.Float
import AzcRepair.Text.Letters
import AzcRepair.Text.Replace
import AzcRepair.Yaml.Scalar

/-!
# Settings from the environment

A variable whose name begins with `AZC_FIXER_` sets the key that the rest of the name spells, with
two underscores between the names of sections. All variables are one layer: they are laid over one
another before they meet other settings. The value of a variable is a truth value, a number, a
quoted string, a list in brackets or entries in braces when all of it can be read as one, and the
plain text otherwise.
-/

namespace AzcRepair.Settings.Environment

/-! ### Names

A name is read without regard to case, in the prefix as in the keys: what is compared with the
names of settings is the rest of it in lower case. A name with an empty key in it, as from two
underscores at the end, sets nothing at all. -/

/-- What the names begin with, in any case. -/
def namePrefix : String := "AZC_FIXER_"

/-- The path of keys that a name spells. -/
def keys? (name : String) : Option (List String) :=
  let name := (Text.trimmed name).toList
  let (start, rest) := name.splitAt namePrefix.length
  if start.map Char.toLower ≠ namePrefix.toList.map Char.toLower then none
  else
    -- a dot in a name separates keys as well, for the underscores are only turned into dots
    let path := Text.trimmed (Text.replaceAll "__" "." (Text.lowerAscii (String.ofList rest)))
    let keys := (path.toList.splitOn '.').map String.ofList
    if keys.contains "" then none else some keys

/-! ### Values

Every variable is first read by a small grammar of its own and only kept as text when that fails.
So a text that happens to look like a number or a truth value is not a text any more when it meets
its setting, and no setting of text takes it; quotes around it keep it one. Fuel bounds the
nesting: every step of the readers spends some, and twice the length of the text is enough for all
of them. -/

def isSpace (c : Char) : Bool :=
  c = ' ' || c = '\t' || c = '\n' || c = '\x0c' || c = '\r'

/-- What separates the values of a list or of entries, and their brackets. -/
def isSeparator (c : Char) : Bool :=
  [',', '\x7b', '\x7d', '[', ']'].contains c

/-- A character of a key that needs no quotes. -/
def isKeyChar (c : Char) : Bool :=
  c.isAlphanum || c = '_' || c = '-'

def skipSpaces (text : List Char) : List Char :=
  text.dropWhile isSpace

/-- The texts behind the quote that ends a string and inside of it; a backslash hides a quote. -/
def splitQuoted : List Char → Option (List Char × List Char)
  | [] => none
  | '"' :: rest => some ([], rest)
  -- the pair stays as it is: what it stands for is found when the whole inside is known
  | '\\' :: c :: rest => (splitQuoted rest).map fun (inner, rest) => ('\\' :: c :: inner, rest)
  | c :: rest => (splitQuoted rest).map fun (inner, rest) => (c :: inner, rest)

def shortEscape? : Char → Option Char
  | '"' => some '"'
  | '\\' => some '\\'
  | 'b' => some '\x08'
  | 'f' => some '\x0c'
  | 'n' => some '\n'
  | 'r' => some '\r'
  | 't' => some '\t'
  | _ => none

/-- The character that stands for itself in a string. -/
def isPlainChar (c : Char) : Bool :=
  c = '\t' || (' ' ≤ c && c ≠ '\x7f')

def unescape? : Nat → List Char → Option (List Char)
  | 0, _ => none
  | _ + 1, [] => some []
  | fuel + 1, '\\' :: c :: rest =>
    match shortEscape? c with
    | some value => (unescape? fuel rest).map (value :: ·)
    | none =>
      let length := if c = 'u' then some 4 else if c = 'U' then some 8 else none
      length.bind fun length => do
        let value ← Yaml.charOfHex? (rest.take length) length
        return value :: (← unescape? fuel (rest.drop length))
  | fuel + 1, c :: rest =>
    if c ≠ '\\' && isPlainChar c then (unescape? fuel rest).map (c :: ·) else none

def quoted? (text : List Char) : Option (String × List Char) := do
  let (inner, rest) ← splitQuoted text
  return (String.ofList (← unescape? (inner.length + 1) inner), rest)

/-- The whole number of a text that fits 64 bits, with or without a sign. -/
def whole? (text : List Char) : Option Int :=
  let (isNegative, digits) := Text.splitSign text
  if digits.isEmpty || !digits.all Char.isDigit then none
  else
    let n := Text.natOfDigits digits
    -- without a sign up to 64 bits, with a minus sign only what 63 bits and a sign hold
    if isNegative then (if Int64.minValue.toInt ≤ -(n : Int) then some (-(n : Int)) else none)
    else if n < UInt64.size then some n else none

/-- The value of a text without quotes and brackets. -/
def ofWord (text : List Char) : Json :=
  -- only a point makes a decimal: a text such as `1e5` is neither and stays a string
  let number := if text.contains '.' then Text.Decimal.read? text else none
  match number, whole? text with
  | some number, _ => .decimal number.mantissa number.exponent
  | none, some n => .integer n
  | none, none => .string (String.ofList text)

/-- A key, quoted or not, and what follows it. -/
def key? (text : List Char) : Option (String × List Char) :=
  match text with
  | '"' :: rest => quoted? rest
  | text =>
    let name := text.takeWhile isKeyChar
    if name.isEmpty then none else some (String.ofList name, text.dropWhile isKeyChar)

mutual

/-- Reads a value and the blanks around it. -/
def value? : Nat → List Char → Option (Json × List Char)
  | 0, _ => none
  | fuel + 1, text => do
    let (value, rest) ← match skipSpaces text with
      | 't' :: 'r' :: 'u' :: 'e' :: rest => some (.bool true, rest)
      | 'f' :: 'a' :: 'l' :: 's' :: 'e' :: rest => some (.bool false, rest)
      | '\x7b' :: rest => do
        let (members, rest) ← entries? fuel rest
        some (.object (Json.lastOfEach members), rest)
      | '[' :: rest => do
        let (items, rest) ← items? fuel rest
        some (.array items, rest)
      | '"' :: rest => do
        let (text, rest) ← quoted? rest
        some (.string text, rest)
      -- single quotes hold exactly one character
      | '\'' :: c :: '\'' :: rest => some (.string (String.singleton c), rest)
      | '\'' :: _ => none
      | text =>
        some (ofWord (Text.trim (text.takeWhile (!isSeparator ·))), text.dropWhile (!isSeparator ·))
    return (value, skipSpaces rest)

/-- Reads values up to the bracket that closes them. -/
def items? : Nat → List Char → Option (List Json × List Char)
  | 0, _ => none
  | _ + 1, ']' :: rest => some ([], rest)
  | fuel + 1, text => do
    let (item, rest) ← value? fuel text
    match rest with
    | ',' :: rest =>
      let (items, rest) ← items? fuel rest
      return (item :: items, rest)
    | ']' :: rest => return ([item], rest)
    | _ => none

/-- Reads keys and values up to the brace that closes them. -/
def entries? : Nat → List Char → Option (List (String × Json) × List Char)
  | 0, _ => none
  | _ + 1, '\x7d' :: rest => some ([], rest)
  | fuel + 1, text => do
    let (key, rest) ← key? (skipSpaces text)
    let '=' :: rest := skipSpaces rest | none
    let (value, rest) ← value? fuel rest
    match rest with
    | ',' :: rest =>
      let (members, rest) ← entries? fuel rest
      return ((key, value) :: members, rest)
    | '\x7d' :: rest => return ([(key, value)], rest)
    | _ => none

end

/-- The value of a variable. A text that the grammar does not take as a whole, rest included, is
kept as it is. -/
def ofText (text : String) : Json :=
  match value? (2 * text.length + 2) text.toList with
  | some (value, []) => value
  | _ => .string text

/-- What the variables of an environment set, the later ones over the earlier ones. -/
def layer (environment : List (String × String)) : Json :=
  (environment.filterMap fun (name, text) =>
    (keys? name).map fun keys => Json.nest keys (ofText text)).foldl overlay (.object [])

end AzcRepair.Settings.Environment
