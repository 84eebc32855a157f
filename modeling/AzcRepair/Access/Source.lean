import AzcRepair.Access.CliOutput
import AzcRepair.Settings.Check

/-!
# Sources of tokens

Tokens come from a key in the settings or from the command line tool; the settings say from which.
-/

namespace AzcRepair.Access

/-- Where tokens come from. -/
inductive Source where
  /-- A key that never expires. -/
  | key (secret : String)
  /-- The command line tool. -/
  | cli (program resource : String)
  deriving DecidableEq, Repr

namespace Source

def name : Source → String
  | key _ => "api_key"
  | cli .. => "azure_cli"

def noKeyMessage : String :=
  "worker.auth.method is api_key but no api_key is set"

/-- The source that the settings ask for, unless it is a key and there is none. -/
def ofSettings? (worker : Settings.Worker) : Option Source :=
  match worker.auth.method, worker.usableKey? with
  -- the tool is asked when the settings say so, or when there is no key to use
  | .azureCli, _ | .auto, none => some (.cli worker.auth.cliProgram worker.auth.resource)
  | .apiKey, some secret | .auto, some secret => some (.key secret)
  -- a key was asked for and none is given, which checking the settings refuses
  | .apiKey, none => none

def fetch {M : Type → Type} [Monad M]
    (run : Execution.Command → M (Except OsError Execution.Result)) :
    Source → M (Except Failure Token)
  | key secret => return .ok (.lasting secret)
  | cli program resource => return ofExecution program (← run (cliCommand program resource))

end Source

end AzcRepair.Access
