import AzcRepair.FileTree

/-!
# Planting and listing

A directory of a file tree can be filled from a list of files, and the files below it can be listed
in the order of their paths.

The program uses neither. This is how the file tree of a recorded run is set up before the run, and
how what the run left in it is compared with the record.
-/

namespace AzcRepair

/-- The entries of an archive in the order of their paths. -/
def FileContent.entries : FileContent → List (String × ByteArray)
  | archive entries => entries.mergeSort fun a b => a.1 ≤ b.1
  | bytes _ => []

namespace FileTree

/-- A tree with a directory and the given files below it. Directories on the way are made; no
content stands for an empty directory. -/
def plant (base : Route) (files : List (String × Option ByteArray)) : FileTree :=
  files.foldl (fun tree file =>
    tree.put (base ++ (Path.mk file.1).names) (match file.2 with
      | some data => .file (.bytes data)
      | none => .directory []))
    (empty.put base (.directory []))

/-- The files below a directory, by the path from there. -/
def files (tree : FileTree) (base : Route) : List (String × FileContent) :=
  let there := (tree.root.get? base).getD (.directory [])
  (there.descendants.filterMap fun entry =>
    match entry.2 with
    | .file content => some ("/".intercalate entry.1, content)
    | .directory _ => none).mergeSort fun a b => a.1 ≤ b.1

end FileTree

end AzcRepair
