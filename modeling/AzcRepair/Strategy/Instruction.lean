import AzcRepair.Strategy

/-!
# Instructions

An instruction asks the worker to remedy one violation. It names the code, repeats the message and
then gives the guidance of the strategy: the rule, the action and a worked example.
-/

namespace AzcRepair.Strategy

def paragraph (lines : List String) : String :=
  String.join (lines.map (· ++ "\n"))

/-- Guidance for a suffix that model names must not have, with a name that breaks the rule and one
that keeps it. -/
def suffixGuidance (rule bad good : String) : String :=
  paragraph [
    "**Rule**: " ++ rule,
    "**Action**: Add a @@clientName decorator in client.tsp that renames the model for C# to a " ++
      "name without the forbidden suffix, reflecting what the model represents.",
    "",
    "**Example**:",
    "```ts",
    "@@clientName(" ++ bad ++ ", \"" ++ good ++ "\", \"csharp\");",
    "```"]

/-- Rule, action and example of a strategy. -/
def guidance : Strategy → String
  | azc0012 => paragraph [
    "**Rule**: Single-word model names are too generic and risk colliding with BCL or other " ++
      "libraries.",
    "**Action**: Prefix each such model with the main resource or service name defined in " ++
      "main.tsp. Use the primary model or the last segment of the namespace in main.tsp as the " ++
      "prefix.",
    "",
    "**Steps**:",
    "- Load main.tsp and extract the namespace or main model name.",
    "- Use the last segment of the namespace or the main model as the prefix.",
    "- For each generic single-word model (e.g. 'Wrapper'), add or update its @@clientName " ++
      "decorator in client.tsp so the name is descriptive and unique.",
    "",
    "**Example**:",
    "If main.tsp defines:",
    "```ts",
    "namespace Azure.ResourceManager.Compute;",
    "model ComputeDisk ...",
    "```",
    "Then:",
    "```ts",
    "// BAD:",
    "@@clientName(Wrapper, \"Wrapper\", \"csharp\");",
    "",
    "// GOOD:",
    "@@clientName(Wrapper, \"ComputeWrapper\", \"csharp\");",
    "```",
    "",
    "- Ensure the final client.tsp remains valid TypeSpec 1.0+ syntax."]
  | azc0030 => suffixGuidance
      ("Model names must not end with `Request`, `Response` or `Options`; those suffixes are " ++
        "reserved for protocol-level types.")
      "DiskOptions" "DiskProperties"
  | azc0031 => suffixGuidance
      ("Model names must not end with `Definition` unless the model is itself a definition " ++
        "resource.")
      "RoleDefinition" "RoleDefinitionProperties"
  | azc0032 => suffixGuidance
      "Model names must not end with `Data`; that suffix is reserved for resource data types."
      "DiskData" "DiskInfo"
  | azc0033 => suffixGuidance
      ("Model names must not end with `Operation`; that suffix is reserved for long-running " ++
        "operation types.")
      "BackupOperation" "BackupOperationInfo"
  | azc0034 => paragraph [
    "**Rule**: Type names must not collide with well-known types from the BCL or shared Azure " ++
      "SDK libraries.",
    "**Action**: Rename the conflicting model for C# with a service-specific prefix using " ++
      "@@clientName in client.tsp.",
    "",
    "**Example**:",
    "```ts",
    "// BAD: conflicts with System.Threading.Tasks.Task",
    "@@clientName(Task, \"Task\", \"csharp\");",
    "",
    "// GOOD:",
    "@@clientName(Task, \"ComputeTask\", \"csharp\");",
    "```"]

/-- What is asked of the worker for one violation with this message. -/
def instruction (strategy : Strategy) (message : String) : String :=
  "#### Fix " ++ strategy.code ++ "\nError: " ++ Text.trimmed message ++ "\n\n" ++ strategy.guidance

end AzcRepair.Strategy
