import AzcRepair.Conversation
import AzcRepair.Outcome
import AzcRepair.Violation.Extract

/-!
# Runs

A run repeats passes until a build reports no violation. A pass compiles and builds; when violations
are left and the budget allows it, an iteration follows: the sources are archived, a session is
opened, the worker is asked for a fix, the fix is applied and compiled, and as long as it does not
compile the worker is asked to repair it. The session of an iteration is closed before the iteration
ends, whatever happens in it.

A request to stop is heeded only between passes.
-/

namespace AzcRepair

/-- What a run works with. -/
structure Run where
  workspace : Workspace
  conversation : Conversation := {}
  registry : Registry := .builtin
  /-- The standing instructions for the worker. -/
  instructions : String := Request.workerInstructions
  maxIterations : UInt32 := 5
  maxRecoveryAttempts : UInt32 := 3
  repeats : Violation.Repeats := .firstOccurrence
  purgeOnStart : Bool := true

namespace Run

open Worker (Session)

def ofSettings (settings : Settings) : Run where
  workspace := .ofLayout settings.workspace
  conversation := .ofSettings settings.worker
  maxIterations := settings.convergence.maxIterations
  maxRecoveryAttempts := settings.convergence.maxRecoveryAttempts
  repeats := .ofDedup settings.build.dedupViolations
  purgeOnStart := settings.worker.purgeOnStart

/-- Compiles the sources; a blank answer means that they compile. -/
def compile : Attempt String :=
  orFail .toolchain (ask .compile)

/-- What the first half of a pass finds. -/
inductive Finding where
  /-- The sources do not compile. -/
  | broken (diagnostics : String)
  /-- The sources were built and these violations were reported. -/
  | built (violations : List Violation)

/-- Compiles, builds and keeps the logs of the build. The logs are written before anything is made
of the violations, so they tell of the latest build even when the run ends here. -/
def inspect (run : Run) : Attempt Finding := do
  -- a blank answer of the compiler is one without errors
  let diagnostics ← compile
  if !Text.isBlankText diagnostics then return .broken diagnostics
  orFail .toolchain (ask .prepareArtifacts)
  let output ← orFail .toolchain (ask .build)
  discard (onDisk (run.workspace.persistBuildLog output.rawLog))
  let violations := Violation.extract run.repeats output.rawLog
  -- the instant names the snapshot, and nothing else depends on it
  let now ← always (ask .clock)
  discard (onDisk (run.workspace.persistViolations (Violation.log violations) now))
  return .built violations

/-- Applies the contract in an answer of the worker. -/
def apply (run : Run) (phase : Phase) (answer : String) : Attempt Unit := do
  match Contract.ofReply answer with
  | .error refusal => throw (.contract phase refusal)
  | .ok contract => onDisk (run.workspace.writeTarget contract.updatedContent)

/-- Sends a request and applies the answer. -/
def exchange (run : Run) (session : Session) (phase : Phase) (request : Request) :
    Attempt Unit := do
  let answer ← orFail (.worker phase) (run.conversation.dispatch session request)
  run.apply phase answer

/-- Compiles the fix and has it repaired until it compiles; `left` more repairs may be asked for. What
is reported when none is left is the count of the repairs (`recoverFrom_eq`). -/
def recover (run : Run) (session : Session) (iteration : UInt32) : Nat → Attempt (Option Outcome)
  | 0 => do
    let diagnostics ← compile
    if Text.isBlankText diagnostics then return none
    return some (.recoveryExhausted iteration run.maxRecoveryAttempts diagnostics)
  -- as long as a repair is left, what the compiler says goes back to the worker
  | left + 1 => do
    let diagnostics ← compile
    if Text.isBlankText diagnostics then return none
    run.exchange session .compileRecovery (.recovery diagnostics)
    run.recover session iteration left

def contextRequest (run : Run) (violations : List Violation) : Attempt Request := do
  let main ← onDisk run.workspace.readMain
  let target ← onDisk run.workspace.readTarget
  return .context main target (Violation.log violations)

/-- What is done within the session of an iteration. The context goes first and expects no answer;
the request for a fix follows it in the same conversation, so the worker has read both when it
answers. -/
def remediate (run : Run) (session : Session) (iteration : UInt32) (violations : List Violation) :
    Attempt (Option Outcome) := do
  let context ← run.contextRequest violations
  discard (orFail (.worker .remediation) (Conversation.post session context))
  run.exchange session .remediation (.remediation violations run.registry)
  run.recover session iteration run.maxRecoveryAttempts.toNat

/-- One iteration. It gives an outcome when it ends the run. The session is closed when the fix
was made, when it could not be made and when something failed; only an interrupted process leaves
it open. -/
def iterate (run : Run) (iteration : UInt32) (violations : List Violation) :
    Attempt (Option Outcome) := do
  let now ← always (ask .clock)
  -- the sources are archived before the worker is asked for anything
  discard (onDisk (run.workspace.createBackup iteration now))
  -- two layers: counting the setups may be a panic, and the setups may fail
  let opened ← orFail .panic
    (run.conversation.openSession run.instructions run.workspace.artifacts)
  let session ← orFail (.worker .sessionSetup) (return opened)
  -- from here on the session is open, so nothing may leave before it is closed
  let result ← always (run.remediate session iteration violations).run
  always (Conversation.closeSession session)
  match result with
  | .ok outcome => return outcome
  | .error failure => throw failure

/-- The number of the iteration that a pass may lead to. It is counted before the pass does anything,
whether or not there will be an iteration. -/
def count (progress : Progress) : Attempt UInt32 :=
  orFail .panic (return Panic.add progress.index 1)

/-- Passes until the run ends; `left` more iterations may be made. Some are left exactly as long as
the progress has budget (`passesFrom_eq`). -/
def passes (run : Run) (progress : Progress) : Nat → Attempt Outcome
  -- the budget is used up: this build is looked at, and no iteration follows it
  | 0 => do
    if ← always (ask .cancelled) then return .cancelled progress.index
    discard (count progress)
    match ← run.inspect with
    | .broken diagnostics => return .compileFailed diagnostics
    | .built [] => return .converged progress.index
    | .built violations => return .maxIterationsReached violations
  | left + 1 => do
    if ← always (ask .cancelled) then return .cancelled progress.index
    let iteration ← count progress
    match ← run.inspect with
    | .broken diagnostics => return .compileFailed diagnostics
    | .built [] => return .converged progress.index
    | .built violations =>
      -- an iteration that gives no outcome leads to the next pass
      match ← run.iterate iteration violations with
      | some outcome => return outcome
      | none => run.passes progress.advance left

/-- A whole run: the sources must be there and the worker must answer before anything is changed.
What earlier runs left with the service is deleted first, as far as that succeeds. -/
def start (run : Run) : Attempt Outcome := do
  onDisk run.workspace.ensureSources
  orFail (.worker .sessionSetup) (askWorker .checkConnection)
  -- a purge never fails a run
  if run.purgeOnStart then always Conversation.purgeStale
  run.passes (.start run.maxIterations) run.maxIterations.toNat

end Run

end AzcRepair
