import AzcRepair.Scripted.Shell.Evaluation

/-!
# A scripted shell

A command interpreter over a file tree, which stands in for the programs that a toolchain runs. It
knows the shell language and the usual small tools, and refuses what cannot be started as a system
does.

The shell and the modules below it are no part of the program. The program starts other programs and
reads what they write (`Execution`), whatever these programs are; in recorded runs they are small
scripts, and the shell is what carries those out when such a run is evaluated. No theorem about the
program speaks of it.
-/

namespace AzcRepair.Scripted.Shell

/-- Bounds how deep the commands of a script are nested, and how many lines it has. -/
def fuel : Nat := 3000

def resultOf (status : Execution.Status) (state : State) : Execution.Result :=
  ⟨status, state.texts.getD 0 .empty, state.texts.getD 1 .empty⟩

def startRoute (cwd : Route) (tree : FileTree) : Option Path → Except OsError Route
  | none => .ok cwd
  | some dir => (tree.findDirectory cwd dir).map (·.1)

/-- Paths of every system at which there is something that is no program. -/
def systemPaths : List String :=
  ["/", "/bin", "/usr", "/usr/bin", "/etc", "/etc/passwd", "/dev", "/dev/null", "/home", "/lib",
    "/proc", "/root", "/sbin", "/tmp", "/var"]

/-- Why a program cannot be started from a directory. A name without a slash is looked up among the
programs; a path leads to a file, and no file of the tree may be run. -/
def obstacle? (cwd : Route) (tree : FileTree) (program : String) : Option OsError :=
  if isProgram (programName program) then none
  else if program.contains '/' then
    -- these paths lie outside of the tree, and none of them is a program
    if systemPaths.contains program then some .permissionDenied
    else
      match tree.find cwd ⟨program⟩ with
      | .ok _ => some .permissionDenied
      | .error error => some error
  else if program = "." || program = ".." then some .permissionDenied
  else if FileTree.maxNameLength < program.utf8ByteSize then some .nameTooLong
  else some .notFound

/-- The command has a character of code zero, which no program can be given. -/
def holdsNul (command : Execution.Command) : Bool :=
  command.program.contains '\x00' || command.arguments.any (·.contains '\x00') ||
    command.dir.any (·.text.contains '\x00')

def runProgram (state : State) (name : String) (arguments : List String) :
    Execution.Result × FileTree :=
  let act : Act Unit :=
    if shellNames.contains name then do
      let begun ← invoke arguments
      modify fun state => state.begin begun
      finishing (runExitTrap fuel) (runScript fuel begun.script)
    else start fuel name arguments
  let (result, after) := act.run state
  (resultOf (endOf after result) after, after.tree)

def run (cwd : Route) (tree : FileTree) (command : Execution.Command) :
    Except OsError Execution.Result × FileTree :=
  -- refused before anything is looked up, as the call that starts a program would
  if holdsNul command then (.error .nulArgument, tree)
  else
    match startRoute cwd tree command.dir with
    | .error error => (.error error, tree)
    | .ok route =>
      match obstacle? route tree command.program with
      | some error => (.error error, tree)
      | none =>
        let (result, tree) :=
          runProgram { tree := tree, cwd := route } (programName command.program) command.arguments
        (.ok result, tree)

end AzcRepair.Scripted.Shell
