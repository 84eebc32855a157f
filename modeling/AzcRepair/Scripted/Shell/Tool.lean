import AzcRepair.Scripted.Shell.State

/-!
# Tools

What the small programs have in common that a script starts: they see the file tree and their input,
write output and complaints, and say how they ended.

A part of the scripted shell, which stands in for other programs when a recorded run is evaluated
(`Scripted/Shell`); the program itself has no shell.
-/

namespace AzcRepair.Scripted.Shell

/-- What a tool sees and leaves behind. -/
structure Bench where
  tree : FileTree
  cwd : Route
  input : List UInt8
  out : ByteArray := .empty
  err : ByteArray := .empty
  code : Nat := 0

abbrev Tool (α : Type) := StateM Bench α

namespace Tool

def write (data : List UInt8) : Tool Unit :=
  modify fun bench => { bench with out := addBytes bench.out data }

def print (text : String) : Tool Unit :=
  write (bytes text)

def complain (text : String) : Tool Unit :=
  modify fun bench =>
    { bench with err := addBytes bench.err (bytes (text ++ "\n")), code := max 1 bench.code }

/-- Writes a complaint about the arguments; the tool fails. -/
def misused (name text : String) : Tool Unit := do
  complain (name ++ ": " ++ text)
  complain ("Try '" ++ name ++ " --help' for more information.")

def endWith (code : Nat) : Tool Unit :=
  modify fun bench => { bench with code := code }

def readInput : Tool (List UInt8) := do
  let bench ← get
  set { bench with input := [] }
  return bench.input

/-- As many zeros as anybody asks for. -/
def zeroCount : Nat := 200000

/-- The bytes of a file, or of the input for a dash. Reading the input uses it up, so a second
dash reads nothing. -/
def read (file : String) : Tool (Except OsError (List UInt8)) := do
  if file = "-" || file = "/dev/stdin" then return .ok (← readInput)
  else if file = "/dev/null" then return .ok []
  else if file = "/dev/zero" then return .ok (List.replicate zeroCount 0)
  else
    let bench ← get
    return (bench.tree.readBytes bench.cwd ⟨file⟩).map (·.data.toList)

/-- Changes the tree, or says why not. -/
def update (change : FileTree → Route → Except OsError FileTree) :
    Tool (Option OsError) := do
  let bench ← get
  match change bench.tree bench.cwd with
  | .ok tree => set { bench with tree := tree }; return none
  | .error error => return some error

def inQuotes (name : String) : String :=
  "'" ++ name ++ "'"

def isOption (argument : String) : Bool :=
  argument.startsWith "-" && argument ≠ "-"

/-- The arguments that are no options. After two dashes there are none. -/
def operands : List String → List String
  | [] => []
  | argument :: rest =>
    if argument = "--" then rest
    else if isOption argument then operands rest
    else argument :: operands rest

def flags (arguments : List String) : List Char :=
  ((arguments.takeWhile (· ≠ "--")).filter fun a => isOption a && !a.startsWith "--").flatMap
    fun a => a.toList.tail

/-- The value of an option that is a letter, and the other arguments. The value stands behind the
letter or is the next argument. -/
def takeOption (letter : Char) : List String → Option String × List String
  | [] => (none, [])
  | argument :: rest =>
    match argument.toList with
    | '-' :: c :: value =>
      if c = letter then
        -- nothing behind the letter: the next argument is the value, if there is one
        if value.isEmpty then (rest.head?, rest.tail) else (some (String.ofList value), rest)
      else
        let (found, others) := takeOption letter rest
        (found, argument :: others)
    | _ =>
      let (found, others) := takeOption letter rest
      (found, argument :: others)

/-- The lines of bytes, without their ends. Bytes behind the last end are a line too. -/
def lines (data : List UInt8) : List (List UInt8) :=
  let pieces := data.splitOn 10
  if pieces.getLast? = some [] then pieces.dropLast else pieces

def unlines (lines : List (List UInt8)) : List UInt8 :=
  lines.flatMap (· ++ [10])

/-- The bytes of several files together, or of the input when there are none. A complaint begins
with the text given. -/
def readAll (complaint : String) (files : List String) : Tool (List UInt8) := do
  let contents ← (if files.isEmpty then ["-"] else files).mapM fun file => do
    match ← read file with
    | .ok data => return data
    | .error error =>
      complain (complaint ++ file ++ ": " ++ shortMessage error)
      return []
  return contents.flatten

end Tool

end AzcRepair.Scripted.Shell
