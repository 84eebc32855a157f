import AzcRepair.Scripted.Shell.Tool

/-!
# Tools for files

Tools that list, make, move and remove files and directories.

A part of the scripted shell, which stands in for other programs when a recorded run is evaluated
(`Scripted/Shell`); the program itself has no shell.
-/

namespace AzcRepair.Scripted.Shell.Tool

/-- The last name of a path, as a tool sees it. -/
def baseName (path : String) : String :=
  match (Path.mk path).steps.getLast? with
  | some name => name
  | none => if path.startsWith "/" then "/" else ""

def directoryName (path : String) : String :=
  let back := path.toList.reverse.dropWhile (· = '/')
  let above := (back.dropWhile (· ≠ '/')).dropWhile (· = '/')
  if above.isEmpty then if path.startsWith "/" then "/" else "."
  else String.ofList above.reverse

/-- A text filled up with blanks in front. -/
def padLeft (width : Nat) (text : String) : String :=
  String.ofList (List.replicate (width - text.length) ' ') ++ text

/-- Puts files one after the other. The lines may be numbered. -/
def cat (arguments : List String) : Tool Unit := do
  let files := operands arguments
  let numbers := (flags arguments).contains 'n'
  let mut count := 0
  for file in (if files.isEmpty then ["-"] else files) do
    match ← read file with
    | .ok data =>
      if numbers then
        for line in data.splitBy fun a _ => a ≠ 10 do
          count := count + 1
          print (padLeft 6 (Text.decimal count) ++ "\t")
          write line
      else write data
    | .error error => complain ("cat: " ++ file ++ ": " ++ shortMessage error)

/-- The names of a directory that are listed, in order. -/
def listed (flags : List Char) (entries : List (String × FileNode)) : List String :=
  let shown := (entries.map (·.1)).filter fun name =>
    flags.contains 'a' || flags.contains 'A' || !name.startsWith "."
  (if flags.contains 'a' then [".", ".."] else []) ++ shown.mergeSort fun a b => decide (a ≤ b)

/-- Lists directories. Files come first; several operands have headings. -/
def ls (arguments : List String) : Tool Unit := do
  let flags := flags arguments
  let asked := (operands arguments).mergeSort fun a b => decide (a ≤ b)
  let asked := if asked.isEmpty then ["."] else asked
  let bench ← get
  let find (path : String) := bench.tree.find bench.cwd ⟨path⟩
  for path in asked do
    if let .error error := find path then
      complain ("ls: cannot access " ++ inQuotes path ++ ": " ++ shortMessage error)
      endWith 2
  let found := asked.filterMap fun path => (find path).toOption.map fun node => (path, node)
  let isPlain (node : FileNode) : Bool := flags.contains 'd' ||
    match node with
    | .file _ => true
    | .directory _ => false
  let plain := found.filter fun entry => isPlain entry.2
  for (path, _) in plain do print (path ++ "\n")
  let directories := found.filter fun entry => !isPlain entry.2
  for ((path, node), place) in directories.zipIdx do
    if 1 < asked.length then
      print ((if place = 0 && plain.isEmpty then "" else "\n") ++ path ++ ":\n")
    for name in listed flags node.entries do print (name ++ "\n")

def mkdir (arguments : List String) : Tool Unit := do
  for path in operands arguments do
    let refusal ← update fun tree cwd =>
      if (flags arguments).contains 'p' then tree.makeDirectories cwd ⟨path⟩
      else tree.makeDirectory cwd ⟨path⟩
    if let some error := refusal then
      complain ("mkdir: cannot create directory " ++ inQuotes path ++ ": " ++ shortMessage error)

def touch (arguments : List String) : Tool Unit := do
  for path in operands arguments do
    let refusal ← update fun tree cwd =>
      match tree.find cwd ⟨path⟩ with
      | .ok _ => .ok tree
      | .error _ => tree.createNew cwd ⟨path⟩
    if let some error := refusal then
      complain ("touch: cannot touch " ++ inQuotes path ++ ": " ++ shortMessage error)

/-- Removes files, and directories when told to. -/
def rm (arguments : List String) : Tool Unit := do
  let flags := flags arguments
  let removesAll := flags.contains 'r' || flags.contains 'R'
  for path in operands arguments do
    let refusal ← update fun tree cwd => do
      match ← tree.find cwd ⟨path⟩ with
      | .directory _ => if !removesAll then throw .isADirectory
      | .file _ => pure ()
      return tree.erase (← tree.resolve cwd ⟨path⟩).route
    match refusal with
    | none => pure ()
    | some error =>
      -- with the flag only what is missing is passed over in silence, not a directory
      if !flags.contains 'f' || error = .isADirectory then
        complain ("rm: cannot remove " ++ inQuotes path ++ ": " ++ shortMessage error)

def rmdir (arguments : List String) : Tool Unit := do
  for path in operands arguments do
    let refusal ← update fun tree cwd => do
      let (route, entries) ← tree.findDirectory cwd ⟨path⟩
      if !entries.isEmpty then throw (.other "Directory not empty (os error 39)")
      return tree.erase route
    if let some error := refusal then
      complain ("rmdir: failed to remove " ++ inQuotes path ++ ": " ++ shortMessage error)

/-- Puts what is at a path also at another one, or below it when that is a directory. -/
def place (name : String) (removes copiesAll : Bool) (source target : String) : Tool Unit := do
  let bench ← get
  match bench.tree.find bench.cwd ⟨source⟩ with
  | .error error =>
    complain (name ++ ": cannot stat " ++ inQuotes source ++ ": " ++ shortMessage error)
  | .ok (.directory entries) =>
    if !removes && !copiesAll then
      complain ("cp: -r not specified; omitting directory " ++ inQuotes source)
    else settle (.directory entries)
  | .ok node => settle node
where
  /-- Puts a node where it belongs. -/
  settle (node : FileNode) : Tool Unit := do
    let refusal ← update fun tree cwd => do
      let path := if tree.isDirectory cwd ⟨target⟩ then
          (Path.mk target / baseName source).text
        else target
      let goal ← tree.resolve cwd ⟨path⟩
      let start ← tree.resolve cwd ⟨source⟩
      -- a file that is put where it lies would otherwise be erased first
      if goal.route = start.route then return tree
      return (if removes then tree.erase start.route else tree).put goal.route node
    if let some error := refusal then
      complain (name ++ ": cannot create regular file " ++ inQuotes target ++ ": " ++
        shortMessage error)

/-- Copies or moves all operands but the last one to that one. -/
def placeAll (name : String) (removes : Bool) (arguments : List String) : Tool Unit := do
  let flags := flags arguments
  let copiesAll := flags.contains 'r' || flags.contains 'R' || flags.contains 'a'
  match (operands arguments).reverse with
  | [] => misused name "missing file operand"
  | [only] => misused name ("missing destination file operand after " ++ inQuotes only)
  | target :: sources =>
    let bench ← get
    if 1 < sources.length && !bench.tree.isDirectory bench.cwd ⟨target⟩ then
      complain (name ++ ": target " ++ inQuotes target ++ ": No such file or directory")
    else
      for source in sources.reverse do place name removes copiesAll source target

def tee (arguments : List String) : Tool Unit := do
  let data ← readInput
  write data
  for path in operands arguments do
    let refusal ← update fun tree cwd =>
      let before := if (flags arguments).contains 'a' then
          ((tree.readBytes cwd ⟨path⟩).toOption.getD .empty).data
        else #[]
      tree.write cwd ⟨path⟩ (.bytes ⟨before ++ data.toArray⟩)
    if let some error := refusal then complain ("tee: " ++ path ++ ": " ++ shortMessage error)

/-- Writes the last name of a path, without an ending. -/
def basename (arguments : List String) : Tool Unit := do
  match operands arguments with
  | [] => misused "basename" "missing operand"
  | path :: rest =>
    let name := baseName path
    let ending := rest.headD ""
    print ((if name.endsWith ending && name ≠ ending then
        String.ofList (name.toList.take (name.length - ending.length))
      else name) ++ "\n")

def dirname (arguments : List String) : Tool Unit := do
  for path in operands arguments do print (directoryName path ++ "\n")

/-- Changes nothing about files, which have to be there. -/
def chmod (arguments : List String) : Tool Unit := do
  for path in (operands arguments).tail do
    let bench ← get
    if let .error error := bench.tree.find bench.cwd ⟨path⟩ then
      complain ("chmod: cannot access " ++ inQuotes path ++ ": " ++ shortMessage error)

/-- A tool that has to be given an operand. -/
def needingOperand (name missing : String) (tool : List String → Tool Unit)
    (arguments : List String) : Tool Unit :=
  if (operands arguments).isEmpty then misused name missing else tool arguments

/-- The tool for files that has the name. -/
def forFiles? (name : String) : Option (List String → Tool Unit) :=
  match name with
  | "cat" => some cat
  | "ls" => some ls
  | "mkdir" => some (needingOperand name "missing operand" mkdir)
  | "touch" => some (needingOperand name "missing file operand" touch)
  | "rm" => some fun arguments =>
    if (flags arguments).contains 'f' then rm arguments
    else needingOperand name "missing operand" rm arguments
  | "rmdir" => some (needingOperand name "missing operand" rmdir)
  | "cp" => some (placeAll "cp" false)
  | "mv" => some (placeAll "mv" true)
  | "tee" => some tee
  | "basename" => some basename
  | "dirname" => some (needingOperand name "missing operand" dirname)
  | "chmod" => some chmod
  | _ => none

end AzcRepair.Scripted.Shell.Tool
