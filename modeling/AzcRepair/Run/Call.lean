import AzcRepair.Calendar
import AzcRepair.Contract.Reply
import AzcRepair.Toolchain
import AzcRepair.Worker.Service
import AzcRepair.Workspace

/-!
# The world of a run

A run deals with the toolchain, the worker, the file system, the clock and a switch that asks it to
stop. `Run.Call` lists what it may ask of them, `Run.Failure` how a run can fail.
-/

namespace AzcRepair.Run

/-- A request of a run to the world around it. What depends on the time, on chance or on other
processes is asked for, so that a run is determined by the answers. -/
inductive Call where
  | compile
  /-- Put the build templates over the generated project. -/
  | prepareArtifacts
  | build
  | worker (call : Worker.Call)
  | disk (call : Disk.Call)
  /-- The present instant. -/
  | clock
  /-- Eight characters that no other index name has. -/
  | freshSuffix
  /-- Wait so many milliseconds. -/
  | pause (ms : Nat)
  /-- Has the run been asked to stop? -/
  | cancelled
  deriving DecidableEq, Repr

@[reducible] def Answer : Call → Type
  | .compile => Except Toolchain.Failure String
  | .prepareArtifacts => Except Toolchain.Failure Unit
  | .build => Except Toolchain.Failure Toolchain.BuildOutput
  | .worker call => call.Answer
  | .disk call => Disk.Answer call
  | .clock => Instant
  | .freshSuffix => String
  | .pause _ => Unit
  | .cancelled => Bool

abbrev Act (α : Type) := Procedure Call Answer α

def ask (call : Call) : Act (Answer call) :=
  Procedure.ask call

def askWorker (call : Worker.Call) : Act call.Answer :=
  ask (.worker call)

/-- What the worker was dealt with for. -/
inductive Phase where
  /-- Checking the connection and opening the session. -/
  | sessionSetup
  /-- Remedying the violations. -/
  | remediation
  /-- Repairing a fix that does not compile. -/
  | compileRecovery
  deriving DecidableEq, Repr

def Phase.name : Phase → String
  | sessionSetup => "session-setup"
  | remediation => "remediation"
  | compileRecovery => "compile-recovery"

def Phase.ofName? (name : String) : Option Phase :=
  [sessionSetup, remediation, compileRecovery].find? (·.name == name)

/-- Why the program breaks off on the spot. Nothing handles a panic: whatever is under way stays
undone, and the process ends. -/
inductive Panic where
  /-- A sum that its type does not hold. -/
  | addOverflow
  deriving DecidableEq, Repr

namespace Panic

def message : Panic → String
  | addOverflow => "attempt to add with overflow"

/-- A sum of counters. Sums are checked: one that 32 bits do not hold is a panic. -/
def add (count more : UInt32) : Except Panic UInt32 :=
  -- the sum is taken in `Nat`, where it cannot wrap
  if count.toNat + more.toNat < UInt32.size then .ok (count + more) else .error .addOverflow

end Panic

/-- Why a run failed. A failure of the worker and a refused contract name the phase of the run
that they came from; the toolchain and the workspace need none, as their failures say what was
done. -/
inductive Failure where
  | toolchain (failure : Toolchain.Failure)
  | contract (phase : Phase) (refusal : Contract.Refusal)
  | worker (phase : Phase) (failure : Worker.Failure)
  | workspace (failure : Workspace.Failure)
  /-- The run did not fail but was broken off: it has neither an outcome nor an error to report. -/
  | panic (cause : Panic)
  deriving DecidableEq, Repr

namespace Failure

def message : Failure → String
  | toolchain failure => "Build error: " ++ failure.message
  | contract phase refusal =>
    "Invalid worker contract during " ++ phase.name ++ ": " ++ refusal.message
  | worker phase failure => "Worker failure during " ++ phase.name ++ ": " ++ failure.message
  | workspace failure => failure.message
  | panic cause => cause.message

/-- The wording and then that of each cause. -/
def chain (failure : Failure) : List String :=
  -- only wrapped failures have causes of their own
  failure.message :: match failure with
    | toolchain failure => failure.chain
    | contract _ refusal => refusal.chain
    | worker _ failure => failure.chain
    | workspace failure => [failure.error.message]
    | panic _ => []

end Failure

/-- A part of a run that may fail. -/
abbrev Attempt (α : Type) := ExceptT Failure Act α

/-- Something that cannot fail, as a part that may. -/
def always {α : Type} (act : Act α) : Attempt α :=
  ExceptT.lift act

/-- Takes the outcome of something, with its own kind of failure, into the run. -/
def orFail {ε α : Type} (wrap : ε → Failure) (act : Act (Except ε α)) : Attempt α :=
  ExceptT.mk (act >>= fun
    -- values pass through, failures are wrapped
    | .ok value => pure (.ok value)
    | .error failure => pure (.error (wrap failure)))

/-- Something done with the files of the workspace, as a part of a run. -/
def onDisk {α : Type} (action : Workspace.Action α) : Attempt α :=
  orFail .workspace (Procedure.embed Call.disk (fun _ answer => answer) action.run)

end AzcRepair.Run
