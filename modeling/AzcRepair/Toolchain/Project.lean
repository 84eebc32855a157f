import AzcRepair.Disk

/-!
# Looking for a project file

The generated project is the first file with the project extension below a directory: the files of a
directory come before those of its subdirectories, and both are taken by name.
-/

namespace AzcRepair.Toolchain

/-- Something looked up on the disk, which may refuse. -/
abbrev Lookup (α : Type) := ExceptT OsError (Procedure Disk.Call Disk.Answer) α

/-- How deep a search goes. A path has at most 4096 bytes, so nothing lies deeper. -/
def searchDepth : Nat := 4096

/-- The first file with the extension among some paths. -/
def firstFile (extension : String) : List Path → Lookup (Option Path)
  | [] => return none
  | path :: rest => do
    let isFile ← ExceptT.lift (Disk.ask (.isFile path))
    if isFile && path.fileName?.bind Path.extensionOf? == some extension then return some path
    firstFile extension rest

def firstFound (search : Path → Lookup (Option Path)) : List Path → Lookup (Option Path)
  | [] => return none
  | path :: rest => do
    match ← search path with
    | some found => return some found
    | none => firstFound search rest

/-- The paths of the entries of a directory, by name. -/
def entries (dir : Path) (names : List String) : List Path :=
  -- the disk names them in no particular order
  (names.mergeSort fun a b => decide (a ≤ b)).map fun name => dir / name

/-- Searches a directory; `depth` more levels may be entered. What is no directory holds nothing,
and a directory that cannot be read ends the search with the refusal. -/
def findWithin (extension : String) : Nat → Path → Lookup (Option Path)
  | 0, _ => return none
  | depth + 1, dir => do
    let isDirectory ← ExceptT.lift (Disk.ask (.isDirectory dir))
    if !isDirectory then return none
    let names ← ExceptT.mk (Disk.ask (.list dir))
    -- the files of the directory itself come before anything in its subdirectories
    match ← firstFile extension (entries dir names) with
    | some found => return some found
    | none => firstFound (findWithin extension depth) (entries dir names)

/-- The first file with an extension below a directory. -/
def findFirst (extension : String) (dir : Path) : Lookup (Option Path) :=
  findWithin extension searchDepth dir

end AzcRepair.Toolchain
