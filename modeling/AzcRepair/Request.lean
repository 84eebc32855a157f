import AzcRepair.Strategy.Instruction
import AzcRepair.Violation

/-!
# Requests to the worker

The texts that are posted into a session: the context that opens it, the remediation request for the
violations of a build, and the recovery request for a fix that does not compile. Every request that
expects an answer ends with the same mandate on the form of the answer.
-/

namespace AzcRepair

/-- What a request asks the worker to do. -/
inductive Request.Kind where
  /-- Take note of the inputs. -/
  | context
  /-- Remedy the violations of a build. -/
  | remediation
  /-- Repair a fix that does not compile. -/
  | compileRecovery
  deriving DecidableEq, Repr

def Request.Kind.name : Request.Kind → String
  | context => "context"
  | remediation => "remediation"
  | compileRecovery => "compile_recovery"

def Request.Kind.ofName? (name : String) : Option Request.Kind :=
  [context, remediation, compileRecovery].find? (·.name == name)

/-- A message for the worker. The kind is for the logs of the program; the worker sees the body
alone. -/
structure Request where
  kind : Request.Kind
  body : String
  deriving DecidableEq, Repr

namespace Request

/-- The member of an answer that holds the corrected file. -/
def contentMember : String :=
  "updatedContent"

def preamble : String :=
  "Fix every AZC analyzer violation listed below by editing client.tsp. " ++
    "Use the file search tool to consult main.tsp and the current client.tsp."

/-- The form of the answer: one JSON object with the whole file. -/
def mandate : String :=
  "Respond with a single JSON object and nothing else. It must contain an \"analysis\" object " ++
    "and a \"" ++ contentMember ++
    "\" string holding the complete corrected client.tsp content, not a diff or an excerpt."

/-- The instructions for a violation, one for each strategy of its code. -/
def fragments (registry : Registry) (violation : Violation) : List String :=
  (registry.strategiesFor violation.code).map (·.instruction violation.message)

/-- All instructions for a list of violations, in order. -/
def allFragments (registry : Registry) (violations : List Violation) : List String :=
  violations.flatMap (fragments registry)

/-- Asks for a remedy of every violation that some strategy is for. -/
def remediation (violations : List Violation) (registry : Registry) : Request where
  kind := .remediation
  body := preamble ++ "\n\n" ++
    -- a violation that no strategy is for adds nothing
    String.join ((allFragments registry violations).map (· ++ "\n\n")) ++ mandate

/-- Asks for a repair of a fix that made the compiler complain. -/
def recovery (diagnostics : String) : Request where
  kind := .compileRecovery
  body := "The client.tsp you returned does not compile. The TypeSpec compiler reported:\n\n" ++
    -- blank lines at the end would stand between the fences
    "```\n" ++ Text.trimmedEnd diagnostics ++ "\n```\n\n" ++
    "Correct client.tsp so it compiles cleanly while keeping every AZC fix you already made.\n\n" ++
    mandate

/-- A heading and a text between two delimiter lines. The text is put in as it is, also when it
holds a delimiter line itself. -/
def delimited (heading delimiter text : String) : String :=
  "### " ++ heading ++ "\n===" ++ delimiter ++ "_START===\n" ++ text ++ "\n===" ++ delimiter ++
    "_END===\n"

/-- Opens a session with the main file, the target file and the violation log. -/
def context (main target log : String) : Request where
  kind := .context
  body := "Inputs for this session.\n\n" ++
    delimited "main.tsp (read-only)" "MAIN_TSP" main ++ "\n" ++
    delimited "client.tsp (current)" "CLIENT_TSP" target ++ "\n" ++
    delimited "AZC violation log" "AZC_LOG" log

/-- The standing instructions for the worker, which say what it is to do and in which form it
answers. They are posted once, when its agent is made. -/
def workerInstructions : String :=
  "You are an Azure SDK engineer and TypeSpec author. You make generated .NET client libraries " ++
  "comply with the Azure SDK design guidelines enforced by the AZC analyzers.\n\n" ++
  "## Objective\n" ++
  "Given main.tsp, client.tsp and an AZC violation log, resolve every violation by customizing " ++
  "client.tsp and return the complete corrected file.\n\n" ++
  "## Rules\n" ++
  "- Never modify main.tsp; every customization goes into client.tsp.\n" ++
  "- Keep existing client.tsp content unless a fix requires changing it.\n" ++
  "- Use TypeSpec 1.0+ syntax; the result must compile without errors.\n" ++
  "- Rename with `@@clientName(Target, \"NewName\", \"csharp\");` where Target is the type as " ++
  "declared in main.tsp.\n" ++
  "- Every reference in client.tsp must resolve against main.tsp.\n\n" ++
  "## Output\n" ++
  "Return only this JSON object:\n" ++
  "\x7b\n" ++
  "  \"analysis\": \x7b\n" ++
  "    \"total_errors\": <number>,\n" ++
  "    \"error_types_found\": [\"AZC0012\", ...],\n" ++
  "    \"items_requiring_fixes\": [\"ModelA\", ...]\n" ++
  "  \x7d,\n" ++
  "  \"fixes\": \x7b\n" ++
  "    \"renames\": [\x7b \"original\": \"Disk\", \"fixed\": \"ComputeDisk\", \"reason\": " ++
  "\"AZC0012: added service prefix\" \x7d],\n" ++
  "    \"reference_updates\": [\x7b \"location\": \"line 42\", \"original\": \"DiskOptions\", " ++
  "\"fixed\": \"ComputeDiskOptions\", \"reason\": \"follow rename\" \x7d],\n" ++
  "    \"structural_additions\": [\x7b \"type\": \"using\", \"location\": \"top of file\", " ++
  "\"reason\": \"needed by @@clientName\" \x7d]\n" ++
  "  \x7d,\n" ++
  "  \"" ++ contentMember ++ "\": \"<complete client.tsp content>\"\n" ++
  "\x7d"

/-- Fragments of a joined list are the joined fragments. -/
theorem allFragments_append (registry : Registry) (first second : List Violation) :
    allFragments registry (first ++ second) =
      allFragments registry first ++ allFragments registry second := by
  simp [allFragments]

/-- A violation that no strategy is for contributes nothing. -/
theorem fragments_eq_nil {registry : Registry} {violation : Violation}
    (h : registry.canHandle violation.code = false) : fragments registry violation = [] := by
  simp [fragments, Registry.canHandle_eq_false_iff.1 h]

end Request

end AzcRepair
