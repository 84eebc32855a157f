/-!
# The last balanced block of a text

An answer may surround its JSON object with prose. The object is found from the end: the last
closing brace ends it, and the nearest position before it where the braces balance starts it. Braces
after the last closing one do not matter.

* `openings`, `closings` count the braces of a text.
* `blockBack` walks a reversed text and counts.
* `lastBlock?` is the block itself.
-/

namespace AzcRepair.Contract

def openBrace : Char := '\x7b'

def closeBrace : Char := '\x7d'

def openings (text : List Char) : Nat :=
  text.count openBrace

def closings (text : List Char) : Nat :=
  text.count closeBrace

/-- Walks backwards while `depth` closing braces wait for their partners, and collects the block in
front of `block`. -/
def blockBack (depth : Nat) (block : List Char) : List Char → Option (List Char)
  | [] => none
  | c :: before =>
    if c = closeBrace then blockBack (depth + 1) (c :: block) before
    else if c = openBrace then
      -- the partner of the last closing brace
      if depth = 1 then some (c :: block) else blockBack (depth - 1) (c :: block) before
    else blockBack depth (c :: block) before

/-- The last balanced block of a text. -/
def lastBlock? (text : List Char) : Option (List Char) :=
  match text.reverse.dropWhile (· ≠ closeBrace) with
  | [] => none
  -- one closing brace waits for its partner
  | close :: before => blockBack 1 [close] before

end AzcRepair.Contract
