import AzcRepair.Access.Expiry
import AzcRepair.Access.Token
import AzcRepair.Execution
import AzcRepair.Json.Decode
import AzcRepair.Json.Reader

/-!
# Tokens from the command line tool

The tool prints a JSON object with the token and its expiry. Newer versions give the expiry in Unix
seconds, older ones only as a wall-clock time; the seconds count when they denote an instant.
-/

namespace AzcRepair.Access

/-- Why there is no token. -/
inductive Failure where
  /-- The tool cannot be started. -/
  | notStarted (program : String) (error : OsError)
  /-- The tool failed. -/
  | failed (program : String) (status : Execution.Status) (stderr : String)
  /-- The tool printed something else. -/
  | unreadable (detail : String)
  /-- The token has no expiry, or none that denotes an instant. -/
  | noExpiry
  deriving DecidableEq, Repr

def Failure.message : Failure → String
  | notStarted program error => "failed to run `" ++ program ++ "`: " ++ error.message
  | failed program status stderr =>
    "`" ++ program ++ "` exited with " ++ status.message ++ ": " ++ Text.trimmed stderr
  | unreadable detail => "unreadable CLI token output: " ++ detail
  | noExpiry => "CLI token output has no expiry"

/-- The output of the tool. -/
structure CliOutput where
  secret : String
  /-- Unix seconds. -/
  seconds : Option Int
  /-- A wall-clock time. -/
  time : Option String
  deriving DecidableEq, Repr

namespace CliOutput

def ofJson? (value : Json) : Option CliOutput := do
  let [secret, seconds, time] ← value.record? ["accessToken", "expires_on", "expiresOn"] | none
  return {
    secret := ← secret.required Json.string?
    seconds := ← seconds.nullable Json.signed64?
    time := ← time.nullable Json.string? }

/-- When the token expires. Seconds that no calendar can show are as good as none, and the
wall-clock time is read then; a time that cannot be read is no expiry. -/
def expiry? (output : CliOutput) : Option Instant :=
  match output.seconds.filter isRepresentable with
  | some seconds => some ⟨seconds, 0⟩
  | none => output.time.bind readInstant

def token (output : CliOutput) : Except Failure Token :=
  match output.expiry? with
  | some expires => .ok ⟨output.secret, expires⟩
  | none => .error .noExpiry

/-- What does not fit, when a text is no output of the tool. -/
def misfit (text : String) : String :=
  match Json.read text with
  | .error fault => fault.message text.toList
  -- the text is JSON, but not an object with a token
  | .ok _ => "not an access token"

/-- The token in a text that the tool printed. -/
def read (text : String) : Except Failure Token :=
  match (Json.readAnything text).bind ofJson? with
  | some output => output.token
  | none => .error (.unreadable (misfit text))

end CliOutput

/-- The command that asks the tool for a token. -/
def cliCommand (program resource : String) : Execution.Command where
  program := program
  arguments := ["account", "get-access-token", "--output", "json", "--resource", resource]
  dir := none

/-- The token from what the command left behind. What it printed is looked at only when it
succeeded; else what it wrote on the error stream is reported. -/
def ofExecution (program : String) : Except OsError Execution.Result → Except Failure Token
  | .error error => .error (.notStarted program error)
  | .ok result =>
    if result.status.isSuccess then CliOutput.read result.outText
    else .error (.failed program result.status result.errText)

end AzcRepair.Access
