/-!
# Structured data

`Json` is the value behind a JSON text, and the value of a setting before it has a type. Whole
numbers that fit 64 bits are integers, every other number is a decimal. Members of an object keep
the order and the repetitions of the text.
-/

namespace AzcRepair

inductive Json where
  | null
  | bool (value : Bool)
  /-- A whole number, written without a point or an exponent, that fits 64 bits. -/
  | integer (value : Int)
  /-- Any other number: `mantissa * 10 ^ exponent`. -/
  | decimal (mantissa : Int) (exponent : Int)
  | string (value : String)
  | array (items : List Json)
  | object (members : List (String × Json))
  /-- A string with half of a surrogate pair, an object with such a name, or a number beyond the
  range of doubles. A lenient reader passes over it, and it fits no type. -/
  | unreadable
  deriving Repr, Inhabited

namespace Json

/-- The value of the last member with a name, for a text may name a member more than once. -/
def last? (name : String) (members : List (String × Json)) : Option Json :=
  (members.reverse.find? (·.1 == name)).map (·.2)

/-- The member of that name, when the value is an object. Of several, the last counts. -/
def member? (name : String) : Json → Option Json
  | object members => last? name members
  | _ => none

def isObject : Json → Bool
  | object _ => true
  | _ => false

/-- A value below a path of keys, the outermost key first. An empty path leaves the value as it
is. -/
def nest (path : List String) (value : Json) : Json :=
  path.foldr (fun key value => object [(key, value)]) value

def string? : Json → Option String
  | string value => some value
  | _ => none

/-- Keeps the last of several members with one name. Those that stay keep their order, which is
the order of their last mentions. -/
def lastOfEach : List (String × Json) → List (String × Json)
  | [] => []
  | m :: rest => if rest.any (·.1 == m.1) then lastOfEach rest else m :: lastOfEach rest

mutual

/-- Drops every member that a later one of the same name replaces, at every depth. -/
def collapse : Json → Json
  | array items => array (collapseItems items)
  | object members => object (lastOfEach (collapseMembers members))
  | other => other

def collapseItems : List Json → List Json
  | [] => []
  | item :: rest => collapse item :: collapseItems rest

/-- `collapse` on the value of each member. -/
def collapseMembers : List (String × Json) → List (String × Json)
  | [] => []
  | m :: rest => (m.1, collapse m.2) :: collapseMembers rest

end

end Json

end AzcRepair
