import AzcRepair.Disk
import AzcRepair.Settings.Check
import AzcRepair.Settings.Environment
import AzcRepair.Settings.Layer
import AzcRepair.Yaml.Value

/-!
# Loading settings

The settings of a project lie in two files of its settings directory, the second for what is local
to a machine, and in the environment. Later places go before earlier ones, and what is found is
checked. A file that is not there says nothing.
-/

namespace AzcRepair.Settings

/-- Why what was written cannot be read as settings. -/
inductive Unfit where
  /-- A file cannot be read. -/
  | file (path : Path) (error : OsError)
  /-- A file holds no settings text. -/
  | text (path : Path) (problem : Yaml.Problem)
  /-- A value does not have the type of its setting. -/
  | value
  deriving DecidableEq, Repr

def Unfit.message : Unfit → String
  | file _ error => error.message
  | text path problem => problem.message ++ " in " ++ path.text
  | value => "invalid type of a setting"

/-- Why there are no settings. -/
inductive LoadFailure where
  /-- The project's settings cannot be read. -/
  | project (cause : Unfit)
  /-- The settings of a single file cannot be read. -/
  | single (path : Path) (cause : Unfit)
  | invalid (problem : Problem)
  deriving DecidableEq, Repr

namespace LoadFailure

/-- The wording of a failure, without what it comes from. -/
def message : LoadFailure → String
  | project _ => "Failed to extract configuration from figment"
  | single path _ => "Failed to load config from " ++ path.text
  | invalid problem => problem.message

def chain : LoadFailure → List String
  | failure@(project cause) | failure@(single _ cause) => [failure.message, cause.message]
  | failure@(invalid _) => [failure.message]

end LoadFailure

/-- Reading from disk that may find what does not fit. -/
abbrev Loading := ExceptT Unfit (Procedure Disk.Call Disk.Answer)

namespace Loading

def ask (call : Disk.Call) : Loading (Disk.Answer call) :=
  ExceptT.lift (Disk.ask call)

/-- The first of some paths at which there is a file. A directory of that name does not count, and
what lies behind the first file is not asked for. -/
def firstFile : List Path → Loading (Option Path)
  | [] => return none
  | path :: rest => do
    if ← ask (.isFile path) then return some path
    firstFile rest

/-- The places at which a file is looked for: a relative path counts from the working directory and
from those above it. -/
def places (workingDirectory path : Path) : List Path :=
  if path.isAbsolute then [path] else workingDirectory.ancestors.map (·.join path)

/-- What the file at a path says, as one layer of settings. A file that is nowhere to be found
gives an empty layer, while one that is found but cannot be read or understood ends the loading.
-/
def layer (workingDirectory path : Path) : Loading Json := do
  match ← firstFile (places workingDirectory path) with
  | none => return .object []
  | some found =>
    match ← ask (.readText found) with
    | .error error => throw (.file found error)
    | .ok text =>
      match Yaml.mappingOfText text with
      | .error problem => throw (.text found problem)
      | .ok value => return value

end Loading

/-- The settings of layers, which must be usable. -/
def ofLayers (failure : Unfit → LoadFailure) (layers : Except Unfit (List Json)) :
    Except LoadFailure Settings :=
  match layers.map ofLayers? with
  | .error cause => .error (failure cause)
  | .ok none => .error (failure .value)
  -- values are checked only once all layers are joined, so a lower layer may hold what a later
  -- one mends
  | .ok (some settings) => (settings.check.mapError .invalid).map fun _ => settings

/-- Where a project keeps its settings. The directory is looked for by way of its files, from the
working directory upwards. -/
def directory : Path := ⟨".azc-fixer"⟩

/-- Loads the settings in a directory and the environment. -/
def load (workingDirectory directory : Path) (environment : List (String × String)) :
    Procedure Disk.Call Disk.Answer (Except LoadFailure Settings) := do
  let files : Loading (List Json) := do
    let shared ← Loading.layer workingDirectory (directory / "config.yaml")
    let own ← Loading.layer workingDirectory (directory / "local.yaml")
    -- the order is that of precedence: what comes later is laid over what comes before
    return [shared, own, Environment.layer environment]
  return ofLayers .project (← files.run)

def loadFile (workingDirectory path : Path) :
    Procedure Disk.Call Disk.Answer (Except LoadFailure Settings) := do
  let file : Loading (List Json) := do return [← Loading.layer workingDirectory path]
  return ofLayers (.single path) (← file.run)

end AzcRepair.Settings
