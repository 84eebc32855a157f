import AzcRepair.Disk

/-!
# File trees

A file tree is a file system held as a value: files, and directories with named entries.
`FileTree.perform` answers the requests of `Disk`. Paths are walked step by step; every step has to
start from a directory, also one to a dot. What is done with a path that leads nowhere depends on
how it ends: only a name can be given to something new.
-/

namespace AzcRepair

/-- What a file holds. -/
inductive FileContent where
  | bytes (data : ByteArray)
  /-- A compressed archive: the path and the bytes of each entry; directories end in a slash. -/
  | archive (entries : List (String × ByteArray))

namespace FileContent

def ofText (text : String) : FileContent :=
  .bytes text.toUTF8

/-- The bytes, as far as they are known. -/
def data : FileContent → ByteArray
  | bytes data => data
  | archive _ => ByteArray.empty

end FileContent

/-- A file, or a directory and what is in it. -/
inductive FileNode where
  | file (content : FileContent)
  | directory (entries : List (String × FileNode))

abbrev Route := List String

namespace FileNode

def entries : FileNode → List (String × FileNode)
  | directory entries => entries
  | file _ => []

/-- What is under a name of a directory. -/
def child? (node : FileNode) (name : String) : Option FileNode :=
  node.entries.lookup name

def get? : FileNode → Route → Option FileNode
  | node, [] => some node
  | node, name :: rest => (node.child? name).bind fun child => child.get? rest

/-- Entries with a node under a name, in place of what was there. -/
def setEntry (name : String) (node : FileNode) :
    List (String × FileNode) → List (String × FileNode)
  | [] => [(name, node)]
  | (other, there) :: rest =>
    if name == other then (name, node) :: rest else (other, there) :: setEntry name node rest

/-- Puts a node at a route. What is missing on the way becomes a directory. -/
def put : FileNode → Route → FileNode → FileNode
  | _, [], new => new
  | node, name :: rest, new =>
    directory (setEntry name (((node.child? name).getD (directory [])).put rest new) node.entries)

/-- Takes away what is at a route. -/
def erase : FileNode → Route → FileNode
  | node, [] => node
  | node, [name] => directory (node.entries.filter (·.1 ≠ name))
  | node, name :: rest =>
    match node.child? name with
    | some child => directory (setEntry name (child.erase rest) node.entries)
    | none => node

mutual

/-- Everything below a directory: the names that lead there, and the node. -/
def descendants : FileNode → List (Route × FileNode)
  | file _ => []
  | directory entries => descendantsOf entries

def descendantsOf : List (String × FileNode) → List (Route × FileNode)
  | [] => []
  | (name, node) :: rest =>
    ([name], node) :: ((node.descendants.map fun n => (name :: n.1, n.2)) ++ descendantsOf rest)

end

theorem lookup_setEntry (name : String) (node : FileNode) (entries : List (String × FileNode)) :
    (setEntry name node entries).lookup name = some node := by
  induction entries with
  | nil => simp [setEntry]
  | cons entry rest ih =>
    obtain ⟨other, there⟩ := entry
    by_cases h : name == other
    · simp [setEntry, h]
    · simp [setEntry, h, List.lookup_cons, ih]

/-- What is put at a route is there. -/
theorem get?_put (node new : FileNode) (route : Route) :
    (node.put route new).get? route = some new := by
  induction route generalizing node with
  | nil => rfl
  | cons name rest ih => simp [put, get?, child?, entries, lookup_setEntry, ih]

end FileNode

/-- A file system as a value: what is in its root. -/
structure FileTree where
  entries : List (String × FileNode)

namespace FileTree

def empty : FileTree := ⟨[]⟩

def root (tree : FileTree) : FileNode :=
  .directory tree.entries

def put (tree : FileTree) (route : Route) (node : FileNode) : FileTree :=
  ⟨(tree.root.put route node).entries⟩

def putFile (tree : FileTree) (route : Route) (content : FileContent) : FileTree :=
  tree.put route (.file content)

/-- Takes away what is at a route. -/
def erase (tree : FileTree) (route : Route) : FileTree :=
  ⟨(tree.root.erase route).entries⟩

/-! ### Walking

A path is resolved as the system does it: from the root or from the working directory, one step
after the other. Two dots lead back to the directory that was walked from, so the names that were
walked along are kept. -/

/-- Longest name that a file may have, in bytes. -/
def maxNameLength : Nat := 255

/-- Longest path that may be asked for, in bytes. -/
def maxPathLength : Nat := 4095

/-- Names from the root and what is there, the last one first. -/
abbrev Trail := List (String × Option FileNode)

/-- What is at the end of a trail. -/
def last? (tree : FileTree) (trail : Trail) : Option FileNode :=
  match trail with
  | [] => some tree.root
  | (_, node) :: _ => node

def trail (tree : FileTree) (route : Route) : Trail :=
  route.foldl (fun trail name =>
    (name, (tree.last? trail).bind fun node => node.child? name) :: trail) []

/-- Walks on along the steps of a path; there need not be anything at the last one. A step needs a
directory to start from, so a name behind a file, or behind nothing, is refused. -/
def walk (tree : FileTree) : Trail → List String → Except OsError Trail
  | trail, [] => .ok trail
  | trail, step :: rest =>
    match tree.last? trail with
    | none => .error .notFound
    | some (.file _) => .error .notADirectory
    | some (.directory entries) =>
      -- a dot stays where it is, but only in a directory
      if step = "." then walk tree trail rest
      -- above the root is the root
      else if step = ".." then walk tree trail.tail rest
      else if maxNameLength < step.utf8ByteSize then .error .nameTooLong
      else walk tree ((step, entries.lookup step) :: trail) rest

/-- Where a path leads. -/
structure Place where
  route : Route
  /-- What is there. -/
  node? : Option FileNode
  /-- The path ends in a name. -/
  isNamed : Bool
  /-- A slash follows the last name. -/
  endsInSlash : Bool

/-- The place that a path leads to, seen from the directory `cwd`. -/
def resolve (tree : FileTree) (cwd : Route) (path : Path) : Except OsError Place :=
  if path.text.contains '\x00' then .error .nulByte
  else if path.text.isEmpty then .error .notFound
  else if maxPathLength < path.text.utf8ByteSize then .error .nameTooLong
  else do
    let steps := path.steps
    let trail ← tree.walk (tree.trail (if path.isAbsolute then [] else cwd)) steps
    return {
      route := (trail.map (·.1)).reverse
      node? := tree.last? trail
      isNamed := steps.getLast?.any fun step => step ≠ "." && step ≠ ".."
      endsInSlash := path.text.endsWith "/" }

/-- The node that a path leads to. A slash at its end asks for a directory. -/
def find (tree : FileTree) (cwd : Route) (path : Path) : Except OsError FileNode := do
  let place ← tree.resolve cwd path
  match place.node? with
  -- a path that ends in a slash asks for a directory
  | some (.file content) => if place.endsInSlash then throw .notADirectory else return .file content
  | some node => return node
  | none => throw .notFound

/-- The route to a directory, and what is in it. -/
def findDirectory (tree : FileTree) (cwd : Route) (path : Path) :
    Except OsError (Route × List (String × FileNode)) := do
  let place ← tree.resolve cwd path
  match place.node? with
  | some (.directory entries) => return (place.route, entries)
  | some (.file _) => throw .notADirectory
  | none => throw .notFound

/-! ### Reading and writing

Every operation resolves its path first and then looks at what is there. Refusals are those of the
system, and where several apply, the one that it checks first. -/

/-- The bytes of the file at a path. -/
def readBytes (tree : FileTree) (cwd : Route) (path : Path) : Except OsError ByteArray := do
  match ← tree.find cwd path with
  | .file content => return content.data
  | .directory _ => throw .isADirectory

/-- The text of the file at a path. -/
def readText (tree : FileTree) (cwd : Route) (path : Path) : Except OsError String := do
  match String.fromUTF8? (← tree.readBytes cwd path) with
  | some text => return text
  | none => throw .notText

/-- Replaces the content of the file at a path. -/
def write (tree : FileTree) (cwd : Route) (path : Path) (content : FileContent) :
    Except OsError FileTree := do
  let place ← tree.resolve cwd path
  if !place.isNamed || place.endsInSlash then throw .isADirectory
  match place.node? with
  | some (.directory _) => throw .isADirectory
  -- a file is replaced, and a name that is free is given to a new one
  | _ => return tree.putFile place.route content

/-- Makes an empty file at a path where nothing is. -/
def createNew (tree : FileTree) (cwd : Route) (path : Path) : Except OsError FileTree := do
  let place ← tree.resolve cwd path
  -- dots and the root are always there
  if !place.isNamed then throw .alreadyExists
  if place.endsInSlash then throw .isADirectory
  match place.node? with
  | some _ => throw .alreadyExists
  | none => return tree.putFile place.route (.bytes ByteArray.empty)

def makeDirectory (tree : FileTree) (cwd : Route) (path : Path) : Except OsError FileTree := do
  let place ← tree.resolve cwd path
  match place.node? with
  | some _ => throw .alreadyExists
  | none => return tree.put place.route (.directory [])

def isDirectory (tree : FileTree) (cwd : Route) (path : Path) : Bool :=
  match tree.find cwd path with
  | .ok (.directory _) => true
  | _ => false

/-- There is a regular file at the path. -/
def isFile (tree : FileTree) (cwd : Route) (path : Path) : Bool :=
  match tree.find cwd path with
  | .ok (.file _) => true
  | _ => false

/-- Makes a directory, after those above it if need be. One that is there already is as good. -/
def makeDirectoriesAlong (cwd : Route) (tree : FileTree) : List Path → Except OsError FileTree
  | [] => .error (.other "failed to create whole tree")
  | path :: above =>
    if path.text.isEmpty then .ok tree
    else
      -- another process may have made it in the meantime, which is as good
      let settle (tree : FileTree) (error : OsError) : Except OsError FileTree :=
        if tree.isDirectory cwd path then .ok tree else .error error
      match tree.makeDirectory cwd path with
      | .ok tree => .ok tree
      -- the directory above is missing: it is made first, and then this one is tried again
      | .error .notFound =>
        match makeDirectoriesAlong cwd tree above with
        | .error error => .error error
        | .ok tree =>
          match tree.makeDirectory cwd path with
          | .ok tree => .ok tree
          | .error error => settle tree error
      | .error error => settle tree error

/-- Makes a directory and every directory above it. -/
def makeDirectories (tree : FileTree) (cwd : Route) (path : Path) : Except OsError FileTree :=
  makeDirectoriesAlong cwd tree path.ancestors

/-! ### Archives and copies

Both read and write in one operation, and it can be seen which of the two comes first: when an
archive lies in the directory that it is made of, and when a file is copied onto itself. -/

/-- The entries of an archive of a directory, put below the name `top`. -/
def archiveEntries (top : String) (directory : FileNode) : List (String × ByteArray) :=
  (top ++ "/", ByteArray.empty) :: directory.descendants.map fun n =>
    let name := "/".intercalate (top :: n.1)
    match n.2 with
    | .file content => (name, content.data)
    | .directory _ => (name ++ "/", ByteArray.empty)

/-- What a compressed archive begins with: the mark of the format and of its method, no flags, no
time, no hints and an unknown system. -/
def archiveHeader : ByteArray :=
  ⟨#[0x1f, 0x8b, 8, 0, 0, 0, 0, 0, 0, 0xff]⟩

/-- Fills the file at a path with an archive of a directory. The header of the archive is written
before the files are read, which shows when the archive lies in that directory. When there is no
such directory, the archive stays empty. -/
def archive (tree : FileTree) (cwd : Route) (path directory : Path) :
    Except OsError Unit × FileTree :=
  let fill (content : FileContent) : Except OsError FileTree := tree.write cwd path content
  match tree.findDirectory cwd directory with
  -- the file was made before the directory was looked for
  | .error error => (.error error, (fill (.archive [])).toOption.getD tree)
  | .ok (route, _) =>
    match fill (.bytes archiveHeader) with
    | .error error => (.error error, tree)
    | .ok begun =>
      -- what is read now includes the archive itself, with its header, if it lies there
      let entries := archiveEntries "src" ((begun.root.get? route).getD (.directory []))
      (.ok (), (fill (.archive entries)).toOption.getD begun)

/-- Copies a regular file. The target is emptied before the source is read, so a file that is copied
onto itself ends up empty. -/
def copy (tree : FileTree) (cwd : Route) (source target : Path) : Except OsError FileTree := do
  match ← tree.find cwd source with
  | .directory _ => throw .notARegularFile
  | .file content =>
    let emptied ← tree.write cwd target (.bytes ByteArray.empty)
    -- a file that was copied onto itself has just been emptied
    if (← tree.resolve cwd source).route = (← tree.resolve cwd target).route then return emptied
    tree.write cwd target content

/-! ### Requests

A file tree answers what a program asks of the disk. A request that is refused leaves the tree as
it was, except for an archive, whose file was already opened. -/

/-- An update that leaves the tree alone when it is refused. -/
def attempt (tree : FileTree) (update : Except OsError FileTree) : Except OsError Unit × FileTree :=
  match update with
  | .ok tree => (.ok (), tree)
  | .error error => (.error error, tree)

def perform (cwd : Route) (tree : FileTree) : (call : Disk.Call) → Disk.Answer call × FileTree
  | .present path => ((tree.find cwd path).toOption.isSome, tree)
  | .isFile path => (tree.isFile cwd path, tree)
  | .isDirectory path => (tree.isDirectory cwd path, tree)
  | .list path => ((tree.findDirectory cwd path).map fun found => found.2.map (·.1), tree)
  | .readText path => (tree.readText cwd path, tree)
  | .readBytes path => (tree.readBytes cwd path, tree)
  | .write path text => tree.attempt (tree.write cwd path (.ofText text))
  | .makeDirectories path => tree.attempt (tree.makeDirectories cwd path)
  | .createNew path => tree.attempt (tree.createNew cwd path)
  | .archive path directory => tree.archive cwd path directory
  | .copy source target => tree.attempt (tree.copy cwd source target)

end FileTree

end AzcRepair
