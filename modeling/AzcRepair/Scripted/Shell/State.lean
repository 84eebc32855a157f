import AzcRepair.Execution
import AzcRepair.FileTree
import AzcRepair.Scripted.Shell.Syntax

/-!
# The state of a shell

What a running script sees and changes: the file tree, its variables, where its streams come from
and go to, and what was written so far.

A part of the scripted shell, which stands in for other programs when a recorded run is evaluated
(`Scripted/Shell`); the program itself has no shell.
-/

namespace AzcRepair.Scripted.Shell

/-- Where an output stream goes. -/
inductive Sink where
  /-- One of the texts that are being written. -/
  | text (index : Nat)
  | file (route : Route)
  | nowhere
  deriving DecidableEq, Repr

structure Variable where
  name : String
  value : String
  /-- Programs that the shell starts see it. -/
  isExported : Bool
  /-- It keeps its value. -/
  isFixed : Bool := false
  deriving DecidableEq, Repr

structure State where
  tree : FileTree
  cwd : Route
  /-- What the script is called. -/
  name : String := "sh"
  arguments : List String := []
  bindings : List Variable := []
  functions : List (String × Command) := []
  /-- Scripts to be run at an event. -/
  traps : List (String × List Char) := []
  /-- Scripts whose event has come. -/
  due : List (List Char) := []
  /-- What is still to be read. -/
  input : List UInt8 := []
  sinks : List (Nat × Sink) := [(1, .text 0), (2, .text 1)]
  /-- What was written: the output, the errors, and then what is being kept for a command. -/
  texts : Array ByteArray := #[.empty, .empty]
  /-- How the last command ended. -/
  status : Nat := 0
  /-- How the last script ended whose output is a part of the current command. -/
  substituted : Option Nat := none
  line : Nat := 1
  /-- Letters of the options that are set. -/
  options : List Char := []
  /-- How many repetitions the current command is in. -/
  loops : Nat := 0
  /-- What the variables of the current function were before. -/
  hidden : List (String × Option Variable) := []
  /-- What the current commands are a part of besides the script. -/
  part : String := ""

/-- Why the commands behind the current one are not run. -/
inductive Jump where
  /-- The shell ends. -/
  | ends (status : Execution.Status)
  /-- That many repetitions are left. -/
  | leaves (loops : Nat)
  /-- All but the outermost of that many repetitions are left, and that one goes on. -/
  | resumes (loops : Nat)
  /-- A function ends. -/
  | returns
  deriving DecidableEq, Repr

abbrev Act (α : Type) := ExceptT Jump (StateM State) α

/-- The number that stands for the shell itself. -/
def ownNumber : String := "4242"

def bytes (text : String) : List UInt8 :=
  text.toUTF8.data.toList

def addBytes (first : ByteArray) (second : List UInt8) : ByteArray :=
  second.foldl ByteArray.push first

def textOf (data : List UInt8) : String :=
  Text.decodeLossy ⟨data.toArray⟩

def routeText (route : Route) : String :=
  "/" ++ "/".intercalate route

/-- The wording of a refusal of the file system, without its number. -/
def shortMessage (error : OsError) : String :=
  String.ofList ((error.message.toList.reverse.dropWhile (· ≠ '(')).drop 2).reverse

namespace State

/-- Sends bytes to a sink. What is sent to a file that is no more is lost. -/
def send (state : State) (sink : Sink) (data : List UInt8) : State :=
  match sink with
  | .text index => { state with texts := state.texts.modify index (addBytes · data) }
  -- the file is looked up anew, for a script may have removed or replaced it meanwhile
  | .file route =>
    match state.tree.root.get? route with
    | some (.file content) =>
      { state with tree := state.tree.putFile route (.bytes (addBytes content.data data)) }
    | _ => state
  | .nowhere => state

def write (state : State) (stream : Nat) (data : List UInt8) : State :=
  match state.sinks.lookup stream with
  | some sink => state.send sink data
  | none => state

def valueOf? (state : State) (name : String) : Option String :=
  if name = "PWD" then some (routeText state.cwd)
  else (state.bindings.find? (·.name = name)).map (·.value)

def assign (state : State) (name value : String) : State :=
  if state.bindings.any (·.name = name) then
    { state with bindings := state.bindings.map fun v =>
        if v.name = name then { v with value := value } else v }
  else
    { state with
      bindings := state.bindings ++ [⟨name, value, state.options.contains 'a', false⟩] }

def unassign (state : State) (name : String) : State :=
  { state with bindings := state.bindings.filter (·.name ≠ name) }

def isFixed (state : State) (name : String) : Bool :=
  state.bindings.any fun v => v.name = name && v.isFixed

/-- The variable keeps its value from now on. -/
def fix (state : State) (name : String) : State :=
  { state with bindings := state.bindings.map fun v =>
      if v.name = name then { v with isFixed := true } else v }

/-- A variable that is another one until the current function ends. -/
def hide (state : State) (name : String) : State :=
  { state with hidden := (name, state.bindings.find? (·.name = name)) :: state.hidden }

/-- Variables are again what they were before. -/
def reveal (state : State) : State :=
  { state with
    bindings := state.hidden.foldl (fun bindings entry =>
      bindings.filter (·.name ≠ entry.1) ++ entry.2.toList) state.bindings
    hidden := [] }

/-- Shows a variable to the programs that the shell starts. -/
def exportVariable (state : State) (name : String) : State :=
  { state with bindings := state.bindings.map fun v =>
      if v.name = name then { v with isExported := true } else v }

/-- The characters that separate words in a value. -/
def separators (state : State) : List Char :=
  match state.valueOf? "IFS" with
  | some text => text.toList
  | none => [' ', '\t', '\n']

end State

def complain (text : String) : Act Unit :=
  modify fun state => state.write 2
    (bytes (state.name ++ ": " ++ Text.decimal state.line ++ ": " ++ state.part ++ text ++ "\n"))

def fail {α : Type} (text : String) : Act α := do
  complain text
  throw (.ends (.exited 2))

/-- Gives a variable a value unless it keeps its own. -/
def assignOrFail (name value : String) : Act Unit := do
  if (← get).isFixed name then fail (name ++ ": is read only")
  modify fun state => state.assign name value

def setStatus (code : Nat) : Act Unit :=
  modify fun state => { state with status := code }

/-- The value of a parameter: an argument, something about the shell, or a variable. -/
def State.parameter? (state : State) (name : String) : Option String :=
  match name.toList with
  | ['@'] | ['*'] =>
    if state.arguments.isEmpty then none else some (" ".intercalate state.arguments)
  | ['#'] => some (Text.decimal state.arguments.length)
  | ['?'] => some (Text.decimal state.status)
  | ['$'] => some ownNumber
  | ['-'] => some (String.ofList state.options)
  | ['!'] => none
  | c :: rest =>
    if c.isDigit then
      match Text.natOfDigits (c :: rest) with
      | 0 => some state.name
      | n + 1 => state.arguments[n]?
    else state.valueOf? name
  | [] => none

end AzcRepair.Scripted.Shell
