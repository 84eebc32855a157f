import AzcRepair.Program
import AzcRepair.Scripted.Shell

/-!
# A scripted machine

The surroundings of the program as a value: a file tree, the scripted shell in place of other
programs, and a console that keeps what was written to it. It has no network, and nobody interrupts
it.

This is no part of the program but a place to run it: with a machine, what the program does from its
arguments to its exit status can be evaluated and compared with a recorded run. Nothing is assumed of
it elsewhere, and no theorem about the program speaks of it.
-/

namespace AzcRepair.Scripted

/-- A machine and what was written to its console. -/
structure Machine where
  tree : FileTree
  workingDirectory : Route
  /-- The instant at which the machine was started. -/
  start : Instant
  /-- Milliseconds that were waited. -/
  waited : Nat := 0
  out : String := ""
  err : String := ""
  log : List (Logging.Format × Logging.Entry) := []

namespace Machine

def disk (call : Disk.Call) : StateM Machine (Disk.Answer call) := fun machine =>
  let (answer, tree) := machine.tree.perform machine.workingDirectory call
  (answer, { machine with tree := tree })

/-- Starts a program: the scripted shell carries it out on the file tree of the machine, whose
working directory is the one it starts in unless the command names another. -/
def execute (command : Execution.Command) : StateM Machine (Except OsError Execution.Result) :=
  fun machine =>
    let (result, tree) := Shell.run machine.workingDirectory machine.tree command
    (result, { machine with tree := tree })

def answerTools :
    (call : AzcRepair.Toolchain.Tools.Call) → StateM Machine (AzcRepair.Toolchain.Tools.Answer call)
  | .run command => execute command
  | .disk call => disk call

def answer : (call : Program.Call) → StateM Machine (Program.Answer call)
  | .disk call => disk call
  | .execute command => execute command
  -- every request fails in the same way, so a run that needs the worker ends at its first call
  | .send address _ _ => pure (.error (Http.Address.unreachable address))
  | .clock => fun machine =>
    (Instant.ofMillis (machine.start.toMillis + machine.waited), machine)
  | .freshSuffix => pure "00000000"
  | .pause ms => modify fun machine => { machine with waited := machine.waited + ms }
  | .cancelled => pure false
  | .log format entry =>
    modify fun machine => { machine with log := machine.log ++ [(format, entry)] }
  | .print text => modify fun machine => { machine with out := machine.out ++ text }
  | .printError text => modify fun machine => { machine with err := machine.err ++ text }

def run (start : Program.Start) : StateM Machine UInt8 :=
  (Program.run start).handle answer

end Machine

end AzcRepair.Scripted
