import AzcRepair.Json
import AzcRepair.Text.Float
import AzcRepair.Yaml.Node

/-!
# Values of YAML texts

A settings text is a mapping whose scalars are read by the core schema: a plain scalar is a null, a
truth value or a number when it looks like one, and a string otherwise. A tag of the common family
asks for one of these, and every other tag of a handle makes a string. A tag of one's own names the
key under which its value lies, with dots between the names of sections.
-/

namespace AzcRepair.Yaml

/-! ### Plain scalars

What an unquoted scalar stands for is decided by its look, in a fixed order: null, truth value,
whole number, decimal number, text. Digits behind a leading zero are left a text, whatever value
they would have. -/

def isNullText (text : String) : Bool :=
  ["null", "Null", "NULL", "~"].contains text

def boolOfText? (text : String) : Option Bool :=
  if ["true", "True", "TRUE"].contains text then some true
  else if ["false", "False", "FALSE"].contains text then some false
  else none

/-- The value of digits to a base, at least one. -/
def natOfBase? (base : Nat) (digits : List Char) : Option Nat :=
  if digits.isEmpty then none
  else digits.foldlM (fun n c => do
    let digit ← Text.hexValue? c
    if digit < base then some (n * base + digit) else none) 0

/-- Two or more digits of which the first is zero: an identifier and no number. -/
def isZeroLed (digits : List Char) : Bool :=
  match digits with
  | '0' :: rest => !rest.isEmpty && rest.all Char.isDigit
  | _ => false

/-- The whole number of a text without its sign. -/
def natOfText? : List Char → Option Nat
  | '0' :: 'x' :: digits => natOfBase? 16 digits
  | '0' :: 'o' :: digits => natOfBase? 8 digits
  | '0' :: 'b' :: digits => natOfBase? 2 digits
  | digits => if isZeroLed digits then none else natOfBase? 10 digits

/-- A whole number that 128 bits hold; one that 64 bits hold is an integer. -/
def ofWhole? (n : Int) : Option Json :=
  if Int64.minValue.toInt ≤ n ∧ n < UInt64.size then some (.integer n)
  else if -170141183460469231731687303715884105728 ≤ n ∧ n ≤ 340282366920938463463374607431768211455
  then some (.decimal n 0)
  else none

def intOfText? (text : String) : Option Json := do
  let (isNegative, digits) := Text.splitSign text.toList
  let n ← natOfText? digits
  ofWhole? (if isNegative then -(n : Int) else n)

/-- The texts of what is no finite number. -/
def nonFiniteTexts : List String :=
  [".inf", ".Inf", ".INF", "+.inf", "+.Inf", "+.INF", "-.inf", "-.Inf", "-.INF", ".nan", ".NaN",
    ".NAN"]

def floatOfText? (text : String) : Option Json :=
  if nonFiniteTexts.contains text then some .unreadable
  else
    ((Text.Decimal.read? text.toList).filter (·.isFinite)).map fun number =>
      .decimal number.mantissa number.exponent

def ofPlain (text : String) : Json :=
  if text.isEmpty || isNullText text then .null
  else
    match boolOfText? text, intOfText? text with
    | some value, _ => .bool value
    | none, some number => number
    | none, none =>
      if isZeroLed (Text.splitSign text.toList).2 then .string text
      else (floatOfText? text).getD (.string text)

/-! ### Tags

A tag of the common family makes its scalar a value of that type or refuses it. A tag of one's own
is no type: its name is a path of keys, and the value is put below them. -/

/-- The tag is one of one's own. -/
def isOwnTag (tag : Octets) : Bool :=
  tag.head? = some ownMark

/-- The name of a tag of one's own, when it is a text: what follows the exclamation mark, or the
mark itself. -/
def ownName? (tag : Octets) : Option String :=
  if isOwnTag tag then
    String.fromUTF8? ⟨(if tag.length = 1 then tag else tag.tail).toArray⟩
  else none

/-- The keys of a name with dots between them. An empty key ends them. -/
def keysOfName (name : String) : List String :=
  ((name.toList.splitOn '.').map String.ofList).takeWhile (· ≠ "")

/-- Puts a value under the keys of its tag, when the tag is one of one's own. -/
def putUnder (tag : Option Octets) (value : Json) : Json :=
  match tag.bind ownName? with
  | some name => Json.nest (keysOfName name) value
  | none => value

/-- The value of a scalar without a tag. -/
def ofUntagged (text : String) (isPlain : Bool) : Json :=
  if isPlain then ofPlain text else .string text

/-- The value that the tag of the common family asks for. -/
def ofCommon? (kind text : String) : Option Json :=
  match kind with
  | "bool" => (boolOfText? text).map .bool
  | "int" => intOfText? text
  | "float" => floatOfText? text
  | "null" => if isNullText text then some .null else none
  | _ => some (.string text)

def ofScalar (tag : Option Octets) (text : String) (isPlain : Bool) : Except Problem Json :=
  match tag with
  | none => .ok (ofUntagged text isPlain)
  | some tag =>
    if isOwnTag tag then .ok (putUnder tag (ofUntagged text isPlain))
    else
      let kind := ["bool", "int", "float", "null"].find? fun kind =>
        tag = octets (commonStem ++ kind)
      match ofCommon? (kind.getD "str") text with
      | some value => .ok value
      | none => .error .wrongTag

/-! ### Documents

The tree becomes a value by following references. A reference is followed anew wherever it stands,
which can make a small text large; the depth and the number of references are bounded for that
reason. -/

/-- How many collections may lie inside one another. -/
def deepest : Nat := 128

/-- How many references are followed for every part of a document. -/
def referencesPerPart : Nat := 100

/-- Following references, a bounded number of times. -/
abbrev Following := StateT Nat (Except Problem)

namespace Document

/-- The node that a reference stands for; any other node stands for itself. -/
def follow (document : Document) : Node → Following Node
  | .reference number => do
    -- each reference that is followed spends one of the budget, also one that was followed before
    match ← get, document.target? number with
    | left + 1, some node =>
      set left
      return node
    | _, _ => throw .tooDeep
  | node => return node

def keyText (document : Document) (key : Node) : Following String := do
  match ← document.follow key with
  | .scalar _ text _ => return text
  | _ => throw .noMapping

/-- The value of a mapping, whose keys are strings; of equal ones the last counts. -/
def mappingValue (document : Document) (value : Node → Following Json)
    (entries : List (Node × Node)) : Following Json := do
  let members ← entries.mapM fun entry => do
    return (← document.keyText entry.1, ← value entry.2)
  return .object (Json.lastOfEach members)

def value (document : Document) : Nat → Node → Following Json
  | 0, node => do
    match ← document.follow node with
    | .scalar tag text isPlain => ofScalar tag text isPlain
    | _ => throw .tooDeep
  | depth + 1, node => do
    match ← document.follow node with
    | .scalar tag text isPlain => ofScalar tag text isPlain
    | .sequence tag items =>
      return putUnder tag (.array (← items.mapM (document.value depth)))
    | .mapping tag entries =>
      return putUnder tag (← document.mappingValue (document.value depth) entries)
    -- a node that was followed is no reference any more
    | .reference _ => throw .tooDeep

/-- The mapping that a document holds; an empty document holds an empty one. -/
def mapping (document : Document) : Except Problem Json :=
  match document.root with
  | .mapping _ entries =>
    (document.mappingValue (document.value (deepest - 1)) entries).run'
      (referencesPerPart * document.size)
  -- an empty file, or one with comments only, says nothing
  | .scalar _ "" true => .ok (.object [])
  | _ => .error .noMapping

end Document

def mappingOfText (text : String) : Except Problem Json := do
  (← Document.ofText text).mapping

end AzcRepair.Yaml
