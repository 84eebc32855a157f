import AzcRepair.Json
import AzcRepair.Json.Text
import AzcRepair.Text.Numeral

/-!
# Writing JSON texts

`Json.render` is the compact form: no blanks between tokens, members in their order.
-/

namespace AzcRepair.Json

/-- The digits of a whole number with its sign. -/
def signedDigits : Int → List Char
  | .ofNat n => Text.digits n
  | .negSucc n => '-' :: Text.digits (n + 1)

mutual

/-- The compact form of a value. What has no value is written as a null, as a double beyond its
range would be. -/
def write : Json → List Char
  | null => ['n', 'u', 'l', 'l']
  | bool true => ['t', 'r', 'u', 'e']
  | bool false => ['f', 'a', 'l', 's', 'e']
  | integer n => signedDigits n
  | decimal mantissa exponent => signedDigits mantissa ++ 'e' :: signedDigits exponent
  | string s => quoted s.toList
  | array [] => ['[', ']']
  | array (item :: items) => '[' :: (write item ++ writeItems items)
  | object [] => ['\x7b', '\x7d']
  -- the first member is written here, so that the helper can put a comma before each further one
  | object (m :: members) =>
    '\x7b' :: (quoted m.1.toList ++ ':' :: (write m.2 ++ writeMembers members))
  | unreadable => ['n', 'u', 'l', 'l']

/-- The further items of an array and its closing bracket. -/
def writeItems : List Json → List Char
  | [] => [']']
  | item :: items => ',' :: (write item ++ writeItems items)

/-- The further members of an object and its closing brace. -/
def writeMembers : List (String × Json) → List Char
  | [] => ['\x7d']
  | m :: members =>
    ',' :: (quoted m.1.toList ++ ':' :: (write m.2 ++ writeMembers members))

end

def render (value : Json) : String :=
  String.ofList value.write

end AzcRepair.Json
