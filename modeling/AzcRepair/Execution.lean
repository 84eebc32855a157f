import AzcRepair.Disk
import AzcRepair.Text.Numeral
import AzcRepair.Text.Utf8

/-!
# Running other programs

A command names a program, its arguments and the directory it starts in. What it leaves behind is
how it ended and what it wrote; or it cannot be started at all.
-/

namespace AzcRepair.Execution

structure Command where
  program : String
  arguments : List String
  /-- The directory it starts in, unless it is that of the caller. -/
  dir : Option Path
  deriving DecidableEq, Repr

/-- How a program ended. -/
inductive Status where
  | exited (code : UInt8)
  /-- Ended by a signal. -/
  | killed (signal : Nat)
  deriving DecidableEq, Repr

namespace Status

def isSuccess : Status → Bool
  | exited code => code = 0
  | killed _ => false

/-- The names of the signals, the first of which has the number one. -/
def signalNames : List String :=
  ["SIGHUP", "SIGINT", "SIGQUIT", "SIGILL", "SIGTRAP", "SIGABRT", "SIGBUS", "SIGFPE", "SIGKILL",
    "SIGUSR1", "SIGSEGV", "SIGUSR2", "SIGPIPE", "SIGALRM", "SIGTERM", "SIGSTKFLT", "SIGCHLD",
    "SIGCONT", "SIGSTOP", "SIGTSTP", "SIGTTIN", "SIGTTOU", "SIGURG", "SIGXCPU", "SIGXFSZ",
    "SIGVTALRM", "SIGPROF", "SIGWINCH", "SIGIO", "SIGPWR", "SIGSYS"]

def message : Status → String
  | exited code => "exit status: " ++ Text.decimal code.toNat
  | killed signal =>
    "signal: " ++ Text.decimal signal ++
      -- real-time signals have no name
      match signalNames[signal - 1]? with
      | some name => " (" ++ name ++ ")"
      | none => ""

end Status

/-- What a program left behind. -/
structure Result where
  status : Status
  stdout : ByteArray
  stderr : ByteArray

def Result.outText (result : Result) : String :=
  Text.decodeLossy result.stdout

def Result.errText (result : Result) : String :=
  Text.decodeLossy result.stderr

end AzcRepair.Execution
