/-!
# Paths

A path is a text whose parts are separated by slashes. Joining does not tidy anything: an absolute
right side replaces the left one, and a slash is put between the two only when it is missing. Parts
that are empty or a single dot do not count as names.
-/

namespace AzcRepair

/-- A path of the file system, as written. -/
structure Path where
  text : String
  deriving DecidableEq, Repr, Inhabited

namespace Path

/-- The path starts at the root of the file system. -/
def isAbsolute (path : Path) : Bool :=
  path.text.toList.head? == some '/'

/-- Joins two paths as texts. Nothing is tidied: two dots stay where they are, and an absolute
path replaces what it is joined to. -/
def join (base path : Path) : Path :=
  if path.isAbsolute || base.text.isEmpty then path
  else if base.text.toList.getLast? == some '/' then ⟨base.text ++ path.text⟩
  else ⟨base.text ++ "/" ++ path.text⟩

instance : HDiv Path String Path where
  hDiv base name := base.join ⟨name⟩

def pieces (path : Path) : List String :=
  (path.text.toList.splitOn '/').map String.ofList

/-- A piece that does not lead on: an empty one or a single dot. -/
def isIdle (piece : String) : Bool :=
  piece = "" || piece = "."

def names (path : Path) : List String :=
  path.pieces.filter (!isIdle ·)

/-- The pieces that are walked along, which includes single dots. -/
def steps (path : Path) : List String :=
  path.pieces.filter (· ≠ "")

/-- The last name, unless the path ends in the parent directory or names nothing. -/
def fileName? (path : Path) : Option String :=
  match path.names.getLast? with
  | some ".." => none
  | last => last

/-- What follows the last dot of a file name, when something stands before that dot. -/
def extensionOf? (name : String) : Option String :=
  let back := name.toList.reverse
  match back.dropWhile (· ≠ '.') with
  -- the dot and at least one character before it
  | _ :: _ :: _ => some (String.ofList (back.takeWhile (· ≠ '.')).reverse)
  | _ => none

/-- The path begins with a single dot, which stands for the directory that it is seen from. -/
def beginsHere (path : Path) : Bool :=
  path.pieces.head? = some "."

/-- The path without its last part, when it has one besides the root. Pieces that do not lead on go
with the part before them. -/
def parent? (path : Path) : Option Path :=
  match path.pieces.reverse.dropWhile isIdle with
  | [] => if path.beginsHere then some ⟨""⟩ else none
  -- the last part is dropped; if idle pieces stand before it, they go too
  | _ :: back =>
    match back.dropWhile isIdle with
    | [] => some ⟨if path.isAbsolute then "/" else if path.beginsHere then "." else ""⟩
    | back => some ⟨"/".intercalate back.reverse⟩

/-- The path and some of the paths above it, nearest first. -/
def ancestorsWithin : Nat → Path → List Path
  | 0, path => [path]
  | count + 1, path =>
    -- the count only bounds the recursion; a path has no more parents than characters
    path :: match path.parent? with
      | some parent => parent.ancestorsWithin count
      | none => []

/-- The path and all paths above it, nearest first. -/
def ancestors (path : Path) : List Path :=
  path.ancestorsWithin path.text.length

theorem join_of_isAbsolute {base path : Path} (h : path.isAbsolute = true) :
    base.join path = path := by
  simp [join, h]

end Path

end AzcRepair
