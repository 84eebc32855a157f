import AzcRepair.Logging
import AzcRepair.Settings
import AzcRepair.Text.Blank

/-!
# Checking settings

Settings are refused for the first problem in a fixed order: endpoint, model, token settings, paths,
bounds, log names, retries.
-/

namespace AzcRepair.Settings

inductive Problem where
  | missingEndpoint
  | emptyModel
  | missingApiKey
  | emptyCliProgram
  | emptyWorkspaceRoot
  | emptyTargetFile
  | invalidMaxIterations (value : UInt32)
  | invalidMaxRecoveryAttempts (value : UInt32)
  | invalidMaxPollAttempts (value : UInt32)
  | invalidPollInterval (value : UInt64)
  | invalidLogLevel (name : String)
  | invalidLogFormat (name : String)
  | invalidRotation (name : String)
  | invalidMaxRetries (value : UInt32)
  | invalidBackoff (initial max : UInt64)
  deriving DecidableEq, Repr

/-- The wording of a problem, with the value that was refused where there is one. A problem of a
number names its setting without the section. -/
def Problem.message : Problem → String
  | missingEndpoint => "worker.endpoint must be set (e.g. AZC_FIXER_WORKER__ENDPOINT)"
  | emptyModel => "worker.model cannot be empty"
  | missingApiKey => "worker.auth.method is api_key but worker.api_key is not set"
  | emptyCliProgram => "worker.auth.cli_program cannot be empty"
  | emptyWorkspaceRoot => "workspace.root cannot be empty"
  | emptyTargetFile => "workspace.target_file cannot be empty"
  | invalidMaxIterations value => atLeastOne "max_iterations" value.toNat
  | invalidMaxRecoveryAttempts value => atLeastOne "max_recovery_attempts" value.toNat
  | invalidMaxPollAttempts value => atLeastOne "max_poll_attempts" value.toNat
  | invalidPollInterval value => atLeastOne "poll_interval_secs" value.toNat
  | invalidLogLevel name =>
    "Invalid log level: " ++ name ++ ". Must be one of: trace, debug, info, warn, error"
  | invalidLogFormat name => "Invalid log format: " ++ name ++ ". Must be one of: json, pretty"
  | invalidRotation name =>
    "Invalid log rotation: " ++ name ++ ". Must be one of: daily, hourly, never"
  | invalidMaxRetries value =>
    "Invalid max_retries: " ++ Text.decimal value.toNat ++ ". Cannot be 0"
  | invalidBackoff initial max =>
    "Invalid backoff configuration: initial_backoff_ms (" ++ Text.decimal initial.toNat ++
      ") must be less than max_backoff_ms (" ++ Text.decimal max.toNat ++ ")"
where
  /-- A number that must not be zero. -/
  atLeastOne (name : String) (value : Nat) : String :=
    "Invalid " ++ name ++ ": " ++ Text.decimal value ++ ". Must be at least 1"

/-- The key, when there is one that is not blank. -/
def Worker.usableKey? (worker : Worker) : Option String :=
  worker.apiKey.filter fun key => !Text.isBlankText key

/-- One entry of the list of checks. Since they follow one another in `Except`, the first
condition that fails decides which problem is reported. -/
def ensure (condition : Bool) (problem : Problem) : Except Problem Unit :=
  if condition then .ok () else .error problem

/-- Refuses settings for the first of the problems in the order in which they are looked for.
Settings that pass are used as they are: nothing is corrected here. -/
def check (settings : Settings) : Except Problem Unit := do
  let worker := settings.worker
  ensure (!Text.isBlankText worker.endpoint) .missingEndpoint
  ensure (!Text.isBlankText worker.model) .emptyModel
  -- with a key at hand nothing is asked of the token settings, whatever the method says
  let keyed := worker.usableKey?.isSome
  ensure (keyed || worker.auth.method ≠ .apiKey) .missingApiKey
  ensure (keyed || worker.auth.method = .apiKey || !Text.isBlankText worker.auth.cliProgram)
    .emptyCliProgram
  -- of the texts that must be there the root is the only one that may be blank
  ensure (!settings.workspace.root.text.isEmpty) .emptyWorkspaceRoot
  ensure (!Text.isBlankText settings.workspace.targetFile) .emptyTargetFile
  let limits := settings.convergence
  ensure (limits.maxIterations ≠ 0) (.invalidMaxIterations limits.maxIterations)
  ensure (limits.maxRecoveryAttempts ≠ 0) (.invalidMaxRecoveryAttempts limits.maxRecoveryAttempts)
  ensure (worker.maxPollAttempts ≠ 0) (.invalidMaxPollAttempts worker.maxPollAttempts)
  ensure (worker.pollIntervalSecs ≠ 0) (.invalidPollInterval worker.pollIntervalSecs)
  let log := settings.logging
  ensure (Logging.Level.ofName? log.level).isSome (.invalidLogLevel log.level)
  ensure (Logging.Format.ofName? log.format).isSome (.invalidLogFormat log.format)
  ensure (Logging.Rotation.ofName? log.rotation).isSome (.invalidRotation log.rotation)
  let retry := worker.retry
  ensure (retry.maxRetries ≠ 0) (.invalidMaxRetries retry.maxRetries)
  -- strict: a first wait that is already the largest is refused
  ensure (retry.initialBackoffMs < retry.maxBackoffMs)
    (.invalidBackoff retry.initialBackoffMs retry.maxBackoffMs)

end AzcRepair.Settings
