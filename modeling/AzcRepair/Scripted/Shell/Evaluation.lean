import AzcRepair.Scripted.Shell.Builtin
import AzcRepair.Scripted.Shell.Expansion
import AzcRepair.Scripted.Shell.Reader
import AzcRepair.Scripted.Shell.Tool.Files
import AzcRepair.Scripted.Shell.Tool.Filters
import AzcRepair.Scripted.Shell.Tool.Search

/-!
# Running scripts

Commands are run one after the other; each finds what those before it left behind. Fuel bounds how
deep commands are nested and how often they are repeated, so that every script comes to an end.

A part of the scripted shell, which stands in for other programs when a recorded run is evaluated
(`Scripted/Shell`); the program itself has no shell.
-/

namespace AzcRepair.Scripted.Shell

/-! ### Streams

Output goes to sinks, which several streams may share; input is one text for the whole shell. A
redirection holds for one command: the sinks are put back afterwards, while input that was read
stays read unless the command had an input of its own. -/

/-- The wording of a file that cannot be opened. -/
def openComplaint (writes : Bool) (path : String) (error : OsError) : String :=
  let missing := error = .notFound || error = .notADirectory
  "cannot " ++ (if writes then "create " else "open ") ++ path ++ ": " ++
    if !missing then shortMessage error
    else if writes then "Directory nonexistent"
    else "No such file"

/-- Where an output stream goes that is given by a path. -/
def sinkAt (state : State) (appends : Bool) (path : String) :
    Except OsError (FileTree × Sink) := do
  let current (stream : Nat) : Sink := (state.sinks.lookup stream).getD .nowhere
  match path with
  | "/dev/null" => return (state.tree, .nowhere)
  | "/dev/stdout" => return (state.tree, current 1)
  | "/dev/stderr" => return (state.tree, current 2)
  | _ =>
    let tree ← if appends && state.tree.isFile state.cwd ⟨path⟩ then .ok state.tree
      else state.tree.write state.cwd ⟨path⟩ (.bytes .empty)
    return (tree, .file (← tree.resolve state.cwd ⟨path⟩).route)

/-- Puts a stream somewhere else. Reports what cannot be opened. -/
def redirect (capture : List Char → Act (List UInt8)) (redirection : Redirection) :
    Act (Option String) := do
  match redirection with
  | .document _ text =>
    let text ← expandText capture text
    modify fun state => { state with input := bytes text }
    return none
  | .duplicate stream source =>
    let source ← expandText capture source
    let state ← get
    match source.toList with
    | ['-'] =>
      set { state with sinks := state.sinks.filter (·.1 ≠ stream) }
      return none
    | [c] =>
      if !c.isDigit then return some "Bad fd number"
      match state.sinks.lookup (Text.digitValue c), Text.digitValue c with
      | some sink, _ =>
        set { state with sinks := (stream, sink) :: state.sinks.filter (·.1 ≠ stream) }
        return none
      | none, 0 => return none
      | none, _ => return some (source ++ ": Bad file descriptor")
    | _ => return some "Bad fd number"
  | .file stream mode target =>
    let path ← expandText capture target
    let state ← get
    if mode = .read then
      if path = "/dev/null" then
        set { state with input := [] }
        return none
      else if path = "/dev/stdin" then return none
      else
        match state.tree.readBytes state.cwd ⟨path⟩ with
        | .ok data =>
          set { state with input := data.data.toList }
          return none
        | .error error => return some (openComplaint false path error)
    else
      match sinkAt state (mode = .append) path with
      | .ok (tree, sink) =>
        set { state with
          tree := tree, sinks := (stream, sink) :: state.sinks.filter (·.1 ≠ stream) }
        return none
      | .error error => return some (openComplaint true path error)

def redirectAll (capture : List Char → Act (List UInt8)) :
    List Redirection → Act (Option String)
  | [] => return none
  | first :: rest => do
    match ← redirect capture first with
    | none => redirectAll capture rest
    | some complaint => return some complaint

def Redirection.feeds : Redirection → Bool
  | .document .. => true
  | .file _ mode _ => mode = .read
  | .duplicate .. => false

/-- Does something, after which the streams are as they were. Input that was read stays read. -/
def keepingStreams {α : Type} (feeds : Bool) (act : Act α) : Act α :=
  ExceptT.mk fun state =>
    let (result, after) := act.run state
    (result, { after with
      sinks := state.sinks, input := if feeds then state.input else after.input })

/-- Runs something with redirections. What cannot be opened keeps it from being run. -/
def redirecting (capture : List Char → Act (List UInt8)) (redirections : List Redirection)
    (isSpecial : Bool) (act : Act Unit) : Act Unit :=
  if redirections.isEmpty then act
  else
    keepingStreams (redirections.any Redirection.feeds) do
      match ← redirectAll capture redirections with
      | none => act
      | some complaint =>
        -- a special command takes the shell with it
        if isSpecial then fail complaint
        else
          complain complaint
          setStatus 2

/-! ### Parts of a shell

What surrounds a command and decides what stays of its effects. A subshell keeps the files and the
streams and loses the rest, a function gives back its arguments and its own variables, and a
repetition takes the jumps that are meant for it. Each is a wrapper around an action, so the
commands below need not say what is put back. -/

def endOf (state : State) : Except Jump Unit → Execution.Status
  | .error (.ends status) => status
  | _ => .exited (UInt8.ofNat state.status)

/-- Runs something in a shell of its own, of which only the files and what was read and written
stay. A signal to the shell itself ends also that. -/
def inSubshell (act : Act Unit) : Act Unit :=
  ExceptT.mk fun state =>
    let (result, after) := act.run { state with traps := state.traps.filter (·.2.isEmpty) }
    let kept := { state with
      tree := after.tree, input := after.input, texts := after.texts }
    match endOf after result with
    | .exited code => (.ok (), { kept with status := code.toNat })
    | .killed signal => (.error (.ends (.killed signal)), kept)

/-- Runs something in a shell of its own and keeps what it writes. -/
def captured (act : Act Unit) : Act (List UInt8) :=
  ExceptT.mk fun state =>
    let index := state.texts.size
    let (result, after) := (inSubshell act).run { state with
      texts := state.texts.push .empty
      sinks := (1, .text index) :: state.sinks.filter (·.1 ≠ 1) }
    let written := (after.texts.getD index .empty).data.toList
    -- the text that was kept for this command is the last one, whatever it ran
    let after := { after with texts := after.texts.pop, sinks := state.sinks }
    (result.map fun _ => written,
      { after with substituted := some after.status, status := state.status })

/-- Runs something with an input of its own. -/
def feeding (input : List UInt8) (act : Act Unit) : Act Unit := do
  modify fun state => { state with input := input }
  keepingStreams false act

def runTool (tool : Tool Unit) : Act Unit := do
  let state ← get
  let ((), bench) := tool.run { tree := state.tree, cwd := state.cwd, input := state.input }
  set ({ state with tree := bench.tree, input := bench.input, status := bench.code }
    |>.write 1 bench.out.data.toList |>.write 2 bench.err.data.toList)

/-- What `echo` writes when it is a program: escapes only count when an option says so. -/
def plainEcho (arguments : List String) : Tool Unit := do
  let options := arguments.takeWhile fun a =>
    1 < a.length && a.startsWith "-" && a.toList.tail.all ['n', 'e', 'E'].contains
  let letters := options.flatMap fun a => a.toList.tail
  let text := " ".intercalate (arguments.drop options.length)
  let written : Written :=
    if (letters.filter (· ≠ 'n')).getLast? = some 'e' then unescapeText text
    else { bytes := bytes text }
  Tool.write (written.bytes ++ if letters.contains 'n' || written.isLast then [] else [10])

def tool? (name : String) (arguments : List String) : Option (Tool Unit) :=
  match name with
  | "sleep" => some (pure ())
  | "echo" => some (plainEcho arguments)
  | _ =>
    ((Tool.forFiles? name).or ((Tool.forLines? name).or (Tool.forSearch? name))).map (· arguments)

def programDirectories : List String := ["/usr/bin/", "/bin/"]

/-- The name of a program without the directory that it is in. -/
def programName (program : String) : String :=
  match programDirectories.find? fun dir => program.startsWith dir with
  | some dir => String.ofList (program.toList.drop dir.length)
  | none => program

def shellNames : List String := ["sh", "dash", "bash"]

def isProgram (name : String) : Bool :=
  !name.contains '/' &&
    (shellNames.contains name || (tool? name []).isSome ||
      ["printf", "true", "false", "pwd", "test", "[", "kill", "env"].contains name)

def maxRepeats : Nat := 20000

/-- Repeats something as long as it says so. -/
def iterate (step : Act Bool) : Nat → Act Unit
  | 0 => pure ()
  | count + 1 => ExceptT.mk fun state =>
    match step.run state with
    | (.ok true, state) => (iterate step count).run state
    | (.ok false, state) => (.ok (), state)
    | (.error jump, state) => (.error jump, state)

/-- Runs the body of a repetition once; says whether the repetition goes on. -/
def oneRound (body : Act Unit) : Act Bool :=
  tryCatch (body *> pure true) fun
    -- a jump over several repetitions is handed on with one repetition less
    | .leaves count => if count ≤ 1 then pure false else throw (.leaves (count - 1))
    | .resumes count => if count ≤ 1 then pure true else throw (.resumes (count - 1))
    | jump => throw jump

/-- Runs one round of a repetition that a test allows. -/
def loopRound (test : Act Unit) (isUntil : Bool) (body : Act Unit) : Act Bool := do
  let before := (← get).status
  test
  if ((← get).status = 0) = isUntil then
    setStatus before
    return false
  else oneRound body

/-- Runs a round for each item until one ends the repetition. -/
def eachRound (round : String → Act Bool) : List String → Act Unit
  | [] => pure ()
  | item :: rest => do
    if ← round item then eachRound round rest

/-- Does something as a part of one more repetition. -/
def inLoop (act : Act Unit) : Act Unit :=
  ExceptT.mk fun state =>
    let (result, after) := act.run { state with loops := state.loops + 1 }
    (result, { after with loops := state.loops })

/-- Does something as the part of a script that has a name. -/
def inPart (part : String) (act : Act Unit) : Act Unit :=
  ExceptT.mk fun state =>
    let (result, after) := act.run { state with part := part }
    (result, { after with part := state.part })

/-- Does something as a function, with arguments and variables of its own. -/
def inFunction (arguments : List String) (act : Act Unit) : Act Unit :=
  ExceptT.mk fun state =>
    let (result, after) := act.run { state with arguments := arguments, hidden := [], loops := 0 }
    (result, { after.reveal with
      arguments := state.arguments, hidden := state.hidden, loops := state.loops })

/-- Runs the body of a function or a file, which may end before its last command. -/
def untilReturn (body : Act Unit) : Act Unit :=
  tryCatch body fun
    | .returns => pure ()
    | jump => throw jump

/-- Does something at the end of a shell unless that is killed. -/
def finishing (last act : Act Unit) : Act Unit := do
  let ended ← tryCatch (act *> pure (none : Option UInt8)) fun
    | .ends (.exited code) => pure (some code)
    | jump => throw jump
  -- the last script sees the status that the shell ends with
  if let some code := ended then setStatus code.toNat
  last
  if let some code := ended then throw (.ends (.exited code))

/-- Complains that there is no such program, or that it cannot be run. -/
def missing (program : String) : Act Unit := do
  let state ← get
  if program.isEmpty then
    complain ": Permission denied"
    setStatus 127
  else if program.contains '/' && (state.tree.find state.cwd ⟨program⟩).toOption.isSome then
    complain (program ++ ": Permission denied")
    setStatus 126
  else
    complain (program ++ ": not found")
    setStatus 127

/-- Ends the shell after a failure when it is told to. -/
def checkFailure (tested : Bool) : Act Unit := do
  let state ← get
  if state.status ≠ 0 && !tested && state.options.contains 'e' then
    throw (.ends (.exited (UInt8.ofNat state.status)))

/-- Writes the words of a command when the shell is told to. -/
def showCommand (words : List String) : Act Unit := do
  if (← get).options.contains 'x' then
    modify fun state => state.write 2 (bytes ("+ " ++ " ".intercalate words ++ "\n"))

def describe (arguments : List String) : Act Unit := do
  let state ← get
  for name in arguments do
    if (builtin? name).isSome || (state.functions.lookup name).isSome then
      Builtin.print (bytes (name ++ "\n"))
      setStatus 0
    else if isProgram name then
      Builtin.print (bytes ("/usr/bin/" ++ name ++ "\n"))
      setStatus 0
    else setStatus 127

/-- Says what kind of thing a name stands for. -/
def classify (arguments : List String) : Act Unit := do
  let state ← get
  setStatus 0
  for name in arguments do
    let say (text : String) : Act Unit := Builtin.print (bytes (name ++ text ++ "\n"))
    if reservedWords.contains name then say " is a shell keyword"
    else if (state.functions.lookup name).isSome then say " is a shell function"
    else if specialCommands.contains name then say " is a special shell builtin"
    else if (builtin? name).isSome then say " is a shell builtin"
    else if isProgram name then say (" is /usr/bin/" ++ name)
    else
      say ": not found"
      setStatus 127

/-- What a shell says about a program that was ended by a signal. -/
def killedText (signal : Nat) : String :=
  match [(1, "Hangup"), (3, "Quit"), (4, "Illegal instruction"), (6, "Aborted"), (7, "Bus error"),
      (8, "Floating point exception"), (9, "Killed"), (10, "User defined signal 1"),
      (11, "Segmentation fault"), (12, "User defined signal 2"), (14, "Alarm clock"),
      (15, "Terminated")].lookup signal with
  | some name => name ++ "\n"
  | none => ""

/-- What a shell is started with. -/
structure Invocation where
  options : List Char := []
  name : String := "sh"
  arguments : List String := []
  script : List Char := []

/-- The complaint of a shell about how it was started. -/
def startComplaint (text : String) : Act Unit := do
  modify fun state => state.write 2 (bytes ("sh: 0: " ++ text ++ "\n"))
  throw (.ends (.exited 2))

/-- How a shell is started by arguments. -/
def invocation : List Char → List String → Act Invocation
  | options, [] => fromOperands options []
  | options, argument :: rest => do
    match argument.toList with
    | '-' :: '-' :: _ =>
      if argument = "--" then fromOperands options rest
      else
        startComplaint "Illegal option --"
        return {}
    | '-' :: letter :: letters =>
      match (letter :: letters).find? fun c => !"acefnuvxsilmbhCVEI".contains c with
      | some c =>
        startComplaint ("Illegal option -" ++ String.ofList [c])
        return {}
      | none => invocation (options ++ letter :: letters) rest
    | _ => fromOperands options (argument :: rest)
where
  /-- The script is an operand or in the file that one names. -/
  fromOperands (options : List Char) (operands : List String) : Act Invocation := do
    if options.contains 'c' then
      match operands with
      | [] =>
        startComplaint "-c requires an argument"
        return {}
      | script :: rest =>
        return ⟨options.filter (· ≠ 'c'), rest.headD "sh", rest.tail, script.toList⟩
    else
      match operands with
      | [] =>
        let script := (textOf (← get).input).toList
        modify fun state => { state with input := [] }
        return { options := options, script := script }
      | file :: rest =>
        let state ← get
        match state.tree.readBytes state.cwd ⟨file⟩ with
        | .ok script => return ⟨options, file, rest, (Text.decodeLossy script).toList⟩
        | .error _ =>
          startComplaint ("cannot open " ++ file ++ ": No such file")
          return {}

/-- The text that arguments say when the script is missing. -/
def invoke (arguments : List String) : Act Invocation := do
  let found ← invocation [] arguments
  if found.options.contains 'c' then
    startComplaint "-c requires an argument"
  return found

/-- A shell that is started by another one, or by nobody. -/
def State.begin (state : State) (start : Invocation) : State :=
  { state with
    name := start.name, arguments := start.arguments, options := start.options
    bindings := state.bindings.filter (·.isExported)
    functions := [], traps := [], due := [], status := 0, line := 1
    loops := 0, hidden := [], part := "" }

/-! ### Commands

The commands call one another, through functions, scripts and traps as well, which is why they are
one recursion with fuel. A command whose success is tested by the one around it may fail without
ending a shell that is set to end at failures; that is what the flag handed down says. -/

mutual

/-- Runs a command. When its success is tested, failing does not end the shell. -/
def eval : Nat → (tested : Bool) → Command → Act Unit
  | 0, _, _ => setStatus 2
  | fuel + 1, tested, command => do
    let capture := fun script => captured (runScript fuel script)
    match command with
    | .nothing => setStatus 0
    | .simple line assignments words redirections =>
      modify fun state => { state with line := line, substituted := none }
      evalSimple fuel assignments words redirections
      runDue fuel
      checkFailure tested
    | .redirected line body redirections =>
      modify fun state => { state with line := line }
      redirecting capture redirections false (eval fuel tested body)
      checkFailure tested
    | .pipeline stages =>
      evalStages fuel stages
      checkFailure tested
    | .negation body =>
      eval fuel true body
      setStatus (if (← get).status = 0 then 1 else 0)
    -- the first command is tested; the second one is tested only if the whole is
    | .both first second =>
      eval fuel true first
      if (← get).status = 0 then eval fuel tested second
    | .either first second =>
      eval fuel true first
      if (← get).status ≠ 0 then eval fuel tested second
    | .sequence first second =>
      eval fuel tested first
      eval fuel tested second
    | .subshell body =>
      inSubshell (finishing (runExitTrap fuel) (eval fuel tested body))
      checkFailure tested
    | .conditional test whenTrue whenFalse =>
      eval fuel true test
      if (← get).status = 0 then eval fuel tested whenTrue else eval fuel tested whenFalse
    | .loop isUntil test body =>
      setStatus 0
      inLoop <|
        iterate (loopRound (eval fuel true test) isUntil (eval fuel tested body)) maxRepeats
    | .each name words body =>
      let items ← match words with
        | some words => expandWords capture words
        | none => pure (← get).arguments
      setStatus 0
      inLoop <| eachRound (fun item => do
        assignOrFail name item
        oneRound (eval fuel tested body)) items
    | .choice line word branches =>
      modify fun state => { state with line := line }
      let text ← expandText capture word
      setStatus 0
      evalBranches fuel tested text branches
    | .definition name body =>
      modify fun state =>
        { state with functions := (name, body) :: state.functions.filter (·.1 ≠ name) }
      setStatus 0

def evalSimple : Nat → List (String × Word) → List Word → List Redirection → Act Unit
  | 0, _, _, _ => setStatus 2
  | fuel + 1, assignments, words, redirections => do
    let capture := fun script => captured (runScript fuel script)
    let assignAll (exports : Bool) : Act Unit := assignments.forM fun (name, word) => do
      let value ← expandText capture word
      showCommand [name ++ "=" ++ value]
      assignOrFail name value
      if exports then modify fun state => state.exportVariable name
    match ← expandWords capture words with
    | [] =>
      redirecting capture redirections false do
        assignAll false
        -- without a command the status is that of the last substitution
        setStatus ((← get).substituted.getD 0)
    | name :: arguments =>
      showCommand (name :: arguments)
      let isSpecial := specialCommands.contains name
      if name = "exec" then
        match ← redirectAll capture redirections, arguments with
        | some complaint, _ => fail complaint
        | none, [] => setStatus 0
        | none, program :: rest =>
          inPart "exec: " (start fuel program rest)
          throw (.ends (.exited (UInt8.ofNat (← get).status)))
      else
        let before := (← get).bindings
        redirecting capture redirections isSpecial do
          assignAll true
          call fuel name arguments
        -- assignments in front of a command are undone, but those in front of a special one last
        if !isSpecial && !assignments.isEmpty then
          modify fun state => { state with bindings := before }

/-- Runs what a name stands for: a function, a command of the shell, or a program. -/
def call : Nat → String → List String → Act Unit
  | 0, _, _ => setStatus 2
  | fuel + 1, name, arguments => do
    let state ← get
    match name, state.functions.lookup name, builtin? name with
    | "eval", _, _ =>
      setStatus 0
      inPart "eval: " (runScript fuel (" ".intercalate arguments).toList)
    | "type", _, _ => classify arguments
    | "command", _, _ =>
      match arguments with
      | "-v" :: names => describe names
      | program :: rest => call fuel program rest
      | [] => setStatus 0
    | ".", _, _ =>
      let file := arguments.headD ""
      match state.tree.readBytes state.cwd ⟨file⟩ with
      | .ok script =>
        inPart (file ++ ": ") (untilReturn (runScript fuel (Text.decodeLossy script).toList))
      | .error _ => fail (".: cannot open " ++ file ++ ": No such file")
    | _, some body, _ => inFunction arguments (untilReturn (eval fuel false body))
    | _, none, some command => command arguments
    | _, none, none => start fuel name arguments

def start : Nat → String → List String → Act Unit
  | 0, _, _ => setStatus 2
  | fuel + 1, program, arguments => do
    let name := programName program
    let state ← get
    if shellNames.contains name then
      let inner : Act Unit := do
        let begun ← invoke arguments
        modify fun state => state.begin begun
        finishing (runExitTrap fuel) (runScript fuel begun.script)
      let (result, after) := inner.run state
      let kept := { state with tree := after.tree, input := after.input, texts := after.texts }
      match endOf after result with
      | .exited code => set { kept with status := code.toNat }
      | .killed signal =>
        set ({ kept with status := 128 + signal }.write 2 (bytes (killedText signal)))
    else if name = "env" then
      match arguments.dropWhile fun a => a.contains '=' || a.startsWith "-" with
      | [] =>
        for v in state.bindings.filter (·.isExported) do
          Builtin.print (bytes (v.name ++ "=" ++ v.value ++ "\n"))
        setStatus 0
      | program :: rest =>
        if !isProgram (programName program) then
          modify fun state => state.write 2
            (bytes ("env: '" ++ program ++ "': No such file or directory\n"))
          setStatus 127
        else inSubshell do
          for argument in arguments.takeWhile fun a => a.contains '=' || a.startsWith "-" do
            let (name, value) := nameAndValue argument
            modify fun state => (state.assign name (value.getD "")).exportVariable name
          start fuel program rest
    else
      match tool? name arguments, builtin? name with
      | some tool, _ => runTool tool
      | none, some command =>
        if isProgram name then command arguments
        else missing program
      | none, none => missing program

/-- Runs the stages of a pipeline, each in a shell of its own. -/
def evalStages : Nat → List Command → Act Unit
  | 0, _ => setStatus 2
  | _, [] => pure ()
  | fuel + 1, [last] => inSubshell (eval fuel false last)
  | fuel + 1, first :: rest => do
    let before := (← get).input
    -- the stages run one after the other, each with all that the one before it wrote
    let written ← captured (eval fuel false first)
    feeding written (evalStages fuel rest)
    modify fun state => { state with input := if before.isEmpty then [] else state.input }

/-- Runs the first branch that matches a text. -/
def evalBranches : Nat → Bool → String → List (List Word × Command) → Act Unit
  | 0, _, _, _ => setStatus 2
  | _, _, _, [] => pure ()
  | fuel + 1, tested, text, (patterns, body) :: rest => do
    let capture := fun script => captured (runScript fuel script)
    let atoms ← patterns.mapM (expandPieces capture)
    if atoms.any fun pattern => patternFits (joined pattern) text.toList then
      eval fuel tested body
    else evalBranches fuel tested text rest

def runScript : Nat → List Char → Act Unit
  | 0, _ => setStatus 2
  | fuel + 1, script => runLines fuel (tokensOf script)

/-- Runs lines. One that cannot be read ends the shell. -/
def runLines : Nat → List Lexeme → Act Unit
  | 0, _ => setStatus 2
  | fuel + 1, lexemes => do
    match readLine lexemes with
    | .error fault =>
      modify fun state => { state with line := fault.line }
      fail ("Syntax error: " ++ fault.complaint)
    | .ok (none, _) => pure ()
    | .ok (some command, rest) =>
      -- a jump out of a repetition that is not there has no effect
      tryCatch (eval fuel false command) fun
        | .leaves _ | .resumes _ => pure ()
        | jump => throw jump
      runLines fuel rest

/-- Runs the scripts whose event has come, in the order of the events. They leave the status as it
was, and an event that comes meanwhile is served after them. -/
def runDue : Nat → Act Unit
  | 0 => pure ()
  | fuel + 1 => do
    match (← get).due with
    | [] => pure ()
    | script :: rest =>
      let status := (← get).status
      modify fun state => { state with due := rest }
      runScript fuel script
      setStatus status
      runDue fuel

/-- Runs the script that is kept for the end of the shell. -/
def runExitTrap : Nat → Act Unit
  | 0 => pure ()
  | fuel + 1 => do
    match (← get).traps.lookup "EXIT" with
    | none => pure ()
    | some script =>
      let status := (← get).status
      modify fun state => { state with traps := state.traps.filter (·.1 ≠ "EXIT") }
      runScript fuel script
      setStatus status

end

end AzcRepair.Scripted.Shell
