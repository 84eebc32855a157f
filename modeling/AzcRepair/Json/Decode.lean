import AzcRepair.Json

/-!
# Typed reading of structured values

A record is written as an object, whose members may come in any order and whose unknown members are
passed over, or as an array of its fields in declaration order. Naming a field twice is an error,
also when the second name is an alias. An array may leave out trailing fields only when they have a
default, and has no more items than the record has fields.

* `fields?` finds what a value says about each field of a record.
* `Field.required`, `Field.optional`, `Field.orDefault` turn that into a typed field.
-/

namespace AzcRepair.Json

/-- What a value says about a field. -/
inductive Field where
  /-- The field is written. -/
  | given (value : Json)
  /-- An object does not name the field. -/
  | absent
  /-- An array ends before the field. -/
  | cut
  deriving Repr

namespace Field

def required {α : Type} (decode : Json → Option α) : Field → Option α
  | given value => decode value
  | _ => none

/-- The field may be missing and then has this value. -/
def orDefault {α : Type} (default : α) (decode : Json → Option α) : Field → Option α
  | given value => decode value
  | _ => some default

/-- The field may be null or left out of an object. -/
def optional {α : Type} (decode : Json → Option α) : Field → Option (Option α)
  | given .null => some none
  | given value => (decode value).map some
  | absent => some none
  -- an array has to go on to an optional field: leaving it out is told apart from a null there
  | cut => none

/-- The field may be null or missing. -/
def nullable {α : Type} (decode : Json → Option α) : Field → Option (Option α)
  | given .null => some none
  | given value => (decode value).map some
  | _ => some none

end Field

/-- The single member under one of the names of a field. Two members under its names are refused,
be the names the same or one the alias of the other. -/
def namedField? (members : List (String × Json)) (names : List String) : Option Field :=
  match members.filter fun m => names.contains m.1 with
  | [] => some .absent
  | [m] => some (.given m.2)
  | _ => none

/-- The fields of a record written as an array. More items than fields are refused; fewer leave
the last fields cut, and it is up to the type of the field whether it can be. -/
def listedFields? : List (List String) → List Json → Option (List Field)
  | [], [] => some []
  | [], _ :: _ => none
  | _ :: names, [] => (listedFields? names []).map (.cut :: ·)
  | _ :: names, item :: items => (listedFields? names items).map (.given item :: ·)

/-- What a value says about each field of a record, given the names of every field. -/
def fields? (names : List (List String)) : Json → Option (List Field)
  | object members => names.mapM (namedField? members)
  | array items => listedFields? names items
  | _ => none

/-- What a value says about each field of a record whose fields have one name each. -/
def record? (names : List String) : Json → Option (List Field) :=
  fields? (names.map ([·]))

def bool? : Json → Option Bool
  | bool value => some value
  | _ => none

/-- A whole number without a sign that 32 bits hold. Neither a decimal nor the text of a number
counts as one. -/
def word32? : Json → Option UInt32
  | integer (.ofNat n) => if n < UInt32.size then some (UInt32.ofNat n) else none
  | _ => none

/-- A whole number without a sign that 64 bits hold, under the same conditions. -/
def word64? : Json → Option UInt64
  | integer (.ofNat n) => if n < UInt64.size then some (UInt64.ofNat n) else none
  | _ => none

/-- A whole number of 63 bits and a sign. -/
def signed64? : Json → Option Int
  | integer n => if Int64.minValue.toInt ≤ n ∧ n ≤ Int64.maxValue.toInt then some n else none
  | _ => none

def list? {α : Type} (decode : Json → Option α) : Json → Option (List α)
  | array items => items.mapM decode
  | _ => none

def ofWord32 (n : UInt32) : Json :=
  integer n.toNat

def ofWord64 (n : UInt64) : Json :=
  integer n.toNat

def ofText? : Option String → Json
  | some text => string text
  | none => null

theorem word32?_ofWord32 (n : UInt32) : word32? (ofWord32 n) = some n := by
  have h := n.toNat_lt
  simp [word32?, ofWord32, UInt32.size, h]

end AzcRepair.Json
