import AzcRepair.Scripted.Shell.Condition
import AzcRepair.Scripted.Shell.Printing

/-!
# Commands of the shell itself

Commands that change the shell or ask it something. Each says how it ended.

A part of the scripted shell, which stands in for other programs when a recorded run is evaluated
(`Scripted/Shell`); the program itself has no shell.
-/

namespace AzcRepair.Scripted.Shell

/-- The number that a text has to be. -/
def countOrFail (command text : String) : Act Nat := do
  if !text.isEmpty && text.toList.all Char.isDigit then return Text.natOfDigits text.toList
  else fail (command ++ ": Illegal number: " ++ text)

/-- The name and the value of an argument such as `name=value`. -/
def nameAndValue (argument : String) : String × Option String :=
  let name := argument.toList.takeWhile (· ≠ '=')
  match argument.toList.drop name.length with
  | _ :: value => (String.ofList name, some (String.ofList value))
  | [] => (argument, none)

namespace Builtin

def print (data : List UInt8) : Act Unit :=
  modify fun state => state.write 1 data

def cd (arguments : List String) : Act Unit := do
  let state ← get
  let isBack := arguments.head? = some "-"
  let asked := if isBack then (state.valueOf? "OLDPWD").getD "" else arguments.headD "/"
  match state.tree.findDirectory state.cwd ⟨if asked.isEmpty then "." else asked⟩ with
  | .ok (route, _) =>
    set ({ state with cwd := route }.assign "OLDPWD" (routeText state.cwd))
    if isBack then print (bytes (routeText route ++ "\n"))
    setStatus 0
  | .error _ =>
    complain ("cd: can't cd to " ++ asked)
    setStatus 2

def exit (arguments : List String) : Act Unit := do
  match arguments with
  | [] => throw (.ends (.exited (UInt8.ofNat (← get).status)))
  | code :: _ => throw (.ends (.exited (UInt8.ofNat (← countOrFail "exit" code))))

def return_ (arguments : List String) : Act Unit := do
  if let code :: _ := arguments then setStatus (← countOrFail "return" code)
  throw .returns

/-- Leaves repetitions, or goes on with one. -/
def leave (name : String) (jump : Nat → Jump) (arguments : List String) : Act Unit := do
  let count ← match arguments with
    | [] => pure 1
    | count :: _ => countOrFail name count
  setStatus 0
  let loops := (← get).loops
  -- outside of repetitions the command does nothing, and a count is cut to those that there are
  if 0 < loops then throw (jump (min count loops))

/-- Options in a word are set or taken back. -/
def setOptions (isOn : Bool) (letters : List Char) : Act Unit :=
  modify fun state =>
    { state with
      options := if isOn then (state.options ++ letters).eraseDups
        else state.options.filter fun c => !letters.contains c }

def set_ : List String → Act Unit
  | [] => setStatus 0
  | "--" :: rest => do
    modify fun state => { state with arguments := rest }
    setStatus 0
  | "-o" :: name :: rest => option true name rest
  | "+o" :: name :: rest => option false name rest
  | word :: rest => do
    match word.toList with
    | '-' :: letters =>
      setOptions true letters
      set_ rest
    | '+' :: letters =>
      setOptions false letters
      set_ rest
    | _ =>
      modify fun state => { state with arguments := word :: rest }
      setStatus 0
where
  /-- An option that is given by its name. -/
  option (isOn : Bool) (name : String) (rest : List String) : Act Unit := do
    match [("errexit", 'e'), ("nounset", 'u'), ("xtrace", 'x'), ("noglob", 'f'),
        ("allexport", 'a'), ("verbose", 'v'), ("noexec", 'n')].lookup name with
    | some letter =>
      setOptions isOn [letter]
      set_ rest
    | none => fail ("set: Illegal option -o " ++ name)

def shift (arguments : List String) : Act Unit := do
  let count ← match arguments with
    | [] => pure 1
    | count :: _ => countOrFail "shift" count
  let state ← get
  if state.arguments.length < count then fail "shift: can't shift that many"
  set { state with arguments := state.arguments.drop count }
  setStatus 0

/-- Gives variables values, after or before something else is done to them. The commands that
export, fix and hide variables are this one with their own step. -/
def declare (before after : State → String → State) (arguments : List String) : Act Unit := do
  for argument in arguments.filter fun a => !a.startsWith "-" do
    let (name, value) := nameAndValue argument
    modify fun state => before state name
    if let some value := value then assignOrFail name value
    modify fun state => after state name
  setStatus 0

def unset (arguments : List String) : Act Unit := do
  let isFunction := arguments.head? = some "-f"
  for name in arguments.filter fun a => !a.startsWith "-" do
    modify fun state =>
      if isFunction then { state with functions := state.functions.filter (·.1 ≠ name) }
      else state.unassign name
  setStatus 0

def cutWord (separators line : List Char) : List Char × List Char :=
  let isBlank (c : Char) : Bool := separators.contains c && [' ', '\t', '\n'].contains c
  let word := line.takeWhile fun c => !separators.contains c
  let rest := (line.drop word.length).dropWhile isBlank
  match rest with
  -- one separator that is no blank ends the word, together with the blanks on both of its sides
  | c :: after =>
    if separators.contains c && !isBlank c then (word, after.dropWhile isBlank) else (word, rest)
  | [] => (word, [])

/-- Gives the words of a line to variables; the last one gets all that is left. -/
def assignWords (separators : List Char) : List String → List Char → State → State
  | [], _, state => state
  | [name], line, state =>
    let isBlank (c : Char) : Bool := separators.contains c && [' ', '\t', '\n'].contains c
    state.assign name (String.ofList (line.reverse.dropWhile isBlank).reverse)
  | name :: rest, line, state =>
    let (word, after) := cutWord separators line
    assignWords separators rest after (state.assign name (String.ofList word))

/-- Reads a line into variables. It fails when the input ends first. -/
def read (arguments : List String) : Act Unit := do
  let state ← get
  let line := state.input.takeWhile (· ≠ 10)
  let rest := state.input.drop line.length
  let separators := state.separators
  let text := (textOf line).toList.dropWhile fun c =>
    separators.contains c && [' ', '\t'].contains c
  let text := if arguments.contains "-r" then text else text.filter (· ≠ '\\')
  let names := arguments.filter fun a => !a.startsWith "-"
  set (assignWords separators names text { state with input := rest.tail })
  -- the line is assigned also when the input ends within it
  setStatus (if rest.isEmpty then 1 else 0)

/-- The number of a signal given by its number or name. -/
def signal? (text : String) : Option Nat :=
  if !text.isEmpty && text.toList.all Char.isDigit then some (Text.natOfDigits text.toList)
  else
    let name := if text.startsWith "SIG" then text else "SIG" ++ text
    (Execution.Status.signalNames.idxOf? name).map (· + 1)

/-- The name under which a trap for a signal is kept. -/
def trapName (signal : String) : String :=
  match signal? signal with
  | some 0 => "EXIT"
  | some number =>
    match Execution.Status.signalNames[number - 1]? with
    | some name => String.ofList (name.toList.drop 3)
    | none => signal
  | none => signal

def harmlessSignals : List Nat := [0, 17, 18, 23, 28]

/-- Sends a signal to the shell. A trap may stand in for the end. -/
def sendSignal (number : Nat) : Act Unit := do
  match (← get).traps.lookup (trapName (Text.decimal number)) with
  | some script =>
    -- no trap can stand in for this one
    if number = 9 then throw (.ends (.killed number))
    modify fun state => { state with due := state.due ++ [script] }
    setStatus 0
  | none =>
    if harmlessSignals.contains number then setStatus 0
    else throw (.ends (.killed number))

def kill (arguments : List String) : Act Unit := do
  let option := arguments.headD ""
  let (which, processes) :=
    if option = "-s" then (arguments.getD 1 "", arguments.drop 2)
    else if option.startsWith "-" then (String.ofList option.toList.tail, arguments.tail)
    else ("TERM", arguments)
  match (signal? which).filter (· ≤ 64) with
  | none =>
    complain ("kill: Illegal option -" ++ String.ofList (which.toList.take 1))
    setStatus 2
  | some number =>
    for process in processes do
      if process = ownNumber then sendSignal number
      else
        discard (countOrFail "kill" process)
        complain "kill: No such process\n"
        setStatus 1

def trap (arguments : List String) : Act Unit := do
  match arguments with
  | script :: events =>
    modify fun state =>
      let others := state.traps.filter fun trap => !(events.map trapName).contains trap.1
      { state with
        traps := others ++
          if script = "-" then [] else events.map fun event => (trapName event, script.toList) }
    setStatus 0
  | [] => setStatus 0

def printf (arguments : List String) : Act Unit := do
  match if arguments.head? = some "--" then arguments.tail else arguments with
  | [] =>
    complain "printf: usage: printf format [arg ...]"
    setStatus 2
  | format :: arguments =>
    let written := formatAll format (arguments.length + 1) arguments
    print written.bytes
    for complaint in written.complaints do complain ("printf: " ++ complaint)
    setStatus (if written.complaints.isEmpty then 0 else if written.isLast then 2 else 1)

/-- Decides a condition. Between brackets the closing one has to be there. -/
def test (name : String) (arguments : List String) : Act Unit := do
  let state ← get
  let judge (arguments : List String) : Act Unit :=
    match Condition.judge ⟨state.tree, state.cwd⟩ arguments with
    | .ok answer => setStatus (if answer then 0 else 1)
    | .error reason => do
      complain (name ++ ": " ++ reason)
      setStatus 2
  if name = "[" then
    if arguments.getLast? = some "]" then judge arguments.dropLast
    else
      complain "[: missing ]"
      setStatus 2
  else judge arguments

end Builtin

/-- Commands that end the shell when they cannot be carried out. -/
def specialCommands : List String :=
  [":", ".", "break", "continue", "eval", "exec", "exit", "export", "readonly", "return", "set",
    "shift", "times", "trap", "unset"]

/-- The command of the shell that has the name. -/
def builtin? (name : String) : Option (List String → Act Unit) :=
  match name with
  | ":" | "true" | "wait" | "hash" | "times" | "ulimit" | "alias" => some fun _ => setStatus 0
  | "umask" => some fun _ => do
    Builtin.print (bytes "0022\n")
    setStatus 0
  | "false" => some fun _ => setStatus 1
  | "cd" => some Builtin.cd
  | "pwd" => some fun _ => do
    Builtin.print (bytes (routeText (← get).cwd ++ "\n"))
    setStatus 0
  | "echo" => some fun arguments => do
    Builtin.print (echo arguments)
    setStatus 0
  | "printf" => some Builtin.printf
  | "exit" => some Builtin.exit
  | "return" => some Builtin.return_
  | "break" => some (Builtin.leave "break" .leaves)
  | "continue" => some (Builtin.leave "continue" .resumes)
  | "set" => some Builtin.set_
  | "shift" => some Builtin.shift
  | "export" => some (Builtin.declare (fun state _ => state) State.exportVariable)
  | "readonly" => some (Builtin.declare (fun state _ => state) State.fix)
  | "local" => some (Builtin.declare State.hide fun state _ => state)
  | "unset" => some Builtin.unset
  | "read" => some Builtin.read
  | "kill" => some Builtin.kill
  | "trap" => some Builtin.trap
  | "test" => some (Builtin.test "test")
  | "[" => some (Builtin.test "[")
  | _ => none

end AzcRepair.Scripted.Shell
