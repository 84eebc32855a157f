import AzcRepair.Json.Decode
import AzcRepair.Path

/-!
# Settings

Everything that can be configured, by section, with the value that holds when nothing is said. Every
section reads a structured value and can be written as one; what a value leaves out keeps its
default.
-/

namespace AzcRepair

namespace Settings

/-- Where things lie. Relative paths start at the root. -/
structure Layout where
  root : Path := ⟨"."⟩
  /-- The directory of the sources that may be changed. -/
  sourceDir : Path := ⟨"src"⟩
  /-- The file that the worker rewrites, seen from the source directory. -/
  targetFile : String := "client.tsp"
  /-- The main specification, seen from the source directory; never changed. -/
  mainFile : String := "main.tsp"
  /-- The directory of the build templates. -/
  helperDir : Path := ⟨"helper"⟩
  /-- The directory of the generated project. -/
  outputDir : Path := ⟨"final-output"⟩
  logDir : Path := ⟨"log"⟩
  backupDir : Path := ⟨"backups"⟩
  /-- The project template that replaces the generated project file. -/
  projectTemplate : String := "Azure.ResourceManager.csproj"
  /-- The package feed configuration that is put next to the project file. -/
  feedConfig : String := "Nuget.config"
  deriving DecidableEq, Repr

/-- The programs that compile and build. -/
structure Commands where
  compileProgram : String := "npx"
  /-- `{output_dir}` stands for the output directory. -/
  compileArgs : List String := ["tsp", "compile", "./src", "--output-dir", "\x7boutput_dir\x7d"]
  buildProgram : String := "dotnet"
  buildArgs : List String := ["build", "--no-incremental"]
  deriving DecidableEq, Repr

/-- How bearer tokens are obtained. -/
inductive AuthMethod where
  /-- The key when there is one, else the command line tool. -/
  | auto
  | apiKey
  | azureCli
  deriving DecidableEq, Repr

structure Auth where
  method : AuthMethod := .auto
  /-- The command line tool that hands out tokens. -/
  cliProgram : String := "az"
  /-- What the token is asked for. -/
  resource : String := "https://ai.azure.com"
  /-- Seconds before its expiry at which a token is replaced. -/
  refreshMargin : UInt32 := 300
  deriving DecidableEq, Repr

/-- Settings of retries after transient failures. -/
structure Retry where
  maxRetries : UInt32 := 3
  initialBackoffMs : UInt64 := 2000
  maxBackoffMs : UInt64 := 60000
  deriving DecidableEq, Repr

structure Worker where
  endpoint : String := ""
  apiVersion : String := "v1"
  apiKey : Option String := none
  auth : Auth := {}
  model : String := "gpt-4o"
  agentName : String := "AZC Fixer"
  pollIntervalSecs : UInt64 := 5
  maxPollAttempts : UInt32 := 60
  indexDelaySecs : UInt64 := 10
  sessionRetries : UInt32 := 2
  timeoutSecs : UInt64 := 120
  purgeOnStart : Bool := true
  retry : Retry := {}
  deriving DecidableEq, Repr

structure Limits where
  maxIterations : UInt32 := 5
  maxRecoveryAttempts : UInt32 := 3
  deriving DecidableEq, Repr

structure Build where
  dedupViolations : Bool := true
  deriving DecidableEq, Repr

structure Log where
  level : String := "info"
  format : String := "pretty"
  dir : Option Path := none
  rotation : String := "daily"
  deriving DecidableEq, Repr

end Settings

structure Settings where
  workspace : Settings.Layout := {}
  toolchain : Settings.Commands := {}
  worker : Settings.Worker := {}
  convergence : Settings.Limits := {}
  build : Settings.Build := {}
  logging : Settings.Log := {}
  deriving DecidableEq, Repr

namespace Settings

open Json (Field)

/-- The path that a value names, when the value is a text. A path is kept as it was written:
nothing is resolved or tidied until it is used. -/
def path? (value : Json) : Option Path :=
  value.string?.map Path.mk

namespace Layout

def resolve (layout : Layout) (path : Path) : Path :=
  if path.isAbsolute then path else layout.root.join path

/-- The directory whose files the compiler reads, under the root unless it is given as an absolute
path. -/
def sourcePath (layout : Layout) : Path :=
  layout.resolve layout.sourceDir

/-- The one file that a repair may write. The name is joined to the source directory as it stands,
so a name that leads out of that directory leads out of it here as well. -/
def targetPath (layout : Layout) : Path :=
  layout.sourcePath.join ⟨layout.targetFile⟩

/-- The specification that the worker only reads; it is joined to the source directory like the
target. -/
def mainPath (layout : Layout) : Path :=
  layout.sourcePath.join ⟨layout.mainFile⟩

/-- The names of the fields in the order of their declaration, which is also the order of the
items when a record is written as an array. The same holds for the names of every other section.
-/
def fieldNames : List String :=
  ["root", "source_dir", "target_file", "main_file", "helper_dir", "output_dir", "log_dir",
    "backup_dir", "csproj_template", "nuget_config"]

def ofJson? (value : Json) : Option Layout := do
  let [root, source, target, main, helper, output, log, backup, template, feed] ←
    value.record? fieldNames | none
  -- the defaults are those of the record itself, so they are written in one place only
  let default : Layout := {}
  return {
    root := ← root.orDefault default.root path?
    sourceDir := ← source.orDefault default.sourceDir path?
    targetFile := ← target.orDefault default.targetFile Json.string?
    mainFile := ← main.orDefault default.mainFile Json.string?
    helperDir := ← helper.orDefault default.helperDir path?
    outputDir := ← output.orDefault default.outputDir path?
    logDir := ← log.orDefault default.logDir path?
    backupDir := ← backup.orDefault default.backupDir path?
    projectTemplate := ← template.orDefault default.projectTemplate Json.string?
    feedConfig := ← feed.orDefault default.feedConfig Json.string? }

def toJson (layout : Layout) : Json :=
  .object [("root", .string layout.root.text), ("source_dir", .string layout.sourceDir.text),
    ("target_file", .string layout.targetFile), ("main_file", .string layout.mainFile),
    ("helper_dir", .string layout.helperDir.text), ("output_dir", .string layout.outputDir.text),
    ("log_dir", .string layout.logDir.text), ("backup_dir", .string layout.backupDir.text),
    ("csproj_template", .string layout.projectTemplate),
    ("nuget_config", .string layout.feedConfig)]

end Layout

namespace Commands

def fieldNames : List String :=
  ["compile_program", "compile_args", "build_program", "build_args"]

def ofJson? (value : Json) : Option Commands := do
  let [compile, compileArgs, build, buildArgs] ← value.record? fieldNames | none
  let default : Commands := {}
  return {
    compileProgram := ← compile.orDefault default.compileProgram Json.string?
    compileArgs := ← compileArgs.orDefault default.compileArgs (Json.list? Json.string?)
    buildProgram := ← build.orDefault default.buildProgram Json.string?
    buildArgs := ← buildArgs.orDefault default.buildArgs (Json.list? Json.string?) }

def toJson (commands : Commands) : Json :=
  .object [("compile_program", .string commands.compileProgram),
    ("compile_args", .array (commands.compileArgs.map .string)),
    ("build_program", .string commands.buildProgram),
    ("build_args", .array (commands.buildArgs.map .string))]

end Commands

namespace AuthMethod

def name : AuthMethod → String
  | auto => "auto"
  | apiKey => "api_key"
  | azureCli => "azure_cli"

def ofName? (name : String) : Option AuthMethod :=
  [auto, apiKey, azureCli].find? (·.name == name)

/-- A method from its structured form: its name, or an object with its name and null. -/
def ofJson? : Json → Option AuthMethod
  | .string name => ofName? name
  | .object [(name, .null)] => ofName? name
  | _ => none

end AuthMethod

namespace Auth

def fieldNames : List String :=
  ["method", "cli_program", "resource", "refresh_margin_secs"]

def ofJson? (value : Json) : Option Auth := do
  let [method, program, resource, margin] ← value.record? fieldNames | none
  let default : Auth := {}
  return {
    method := ← method.orDefault default.method AuthMethod.ofJson?
    cliProgram := ← program.orDefault default.cliProgram Json.string?
    resource := ← resource.orDefault default.resource Json.string?
    refreshMargin := ← margin.orDefault default.refreshMargin Json.word32? }

def toJson (auth : Auth) : Json :=
  .object [("method", .string auth.method.name), ("cli_program", .string auth.cliProgram),
    ("resource", .string auth.resource), ("refresh_margin_secs", .ofWord32 auth.refreshMargin)]

end Auth

namespace Retry

def fieldNames : List String :=
  ["max_retries", "initial_backoff_ms", "max_backoff_ms"]

def ofJson? (value : Json) : Option Retry := do
  let [retries, initial, max] ← value.record? fieldNames | none
  let default : Retry := {}
  return {
    maxRetries := ← retries.orDefault default.maxRetries Json.word32?
    initialBackoffMs := ← initial.orDefault default.initialBackoffMs Json.word64?
    maxBackoffMs := ← max.orDefault default.maxBackoffMs Json.word64? }

def toJson (retry : Retry) : Json :=
  .object [("max_retries", .ofWord32 retry.maxRetries),
    ("initial_backoff_ms", .ofWord64 retry.initialBackoffMs),
    ("max_backoff_ms", .ofWord64 retry.maxBackoffMs)]

end Retry

namespace Worker

def fieldNames : List String :=
  ["endpoint", "api_version", "api_key", "auth", "model", "agent_name", "poll_interval_secs",
    "max_poll_attempts", "index_delay_secs", "session_retries", "timeout_secs", "purge_on_start",
    "retry"]

/-- Worker settings from their structured form. The key has no default: an array must not end before
it. -/
def ofJson? (value : Json) : Option Worker := do
  let [endpoint, version, key, auth, model, agent, interval, polls, delay, retries, timeout, purge,
      retry] ← value.record? fieldNames | none
  let default : Worker := {}
  return {
    endpoint := ← endpoint.orDefault default.endpoint Json.string?
    apiVersion := ← version.orDefault default.apiVersion Json.string?
    apiKey := ← key.optional Json.string?
    auth := ← auth.orDefault default.auth Auth.ofJson?
    model := ← model.orDefault default.model Json.string?
    agentName := ← agent.orDefault default.agentName Json.string?
    pollIntervalSecs := ← interval.orDefault default.pollIntervalSecs Json.word64?
    maxPollAttempts := ← polls.orDefault default.maxPollAttempts Json.word32?
    indexDelaySecs := ← delay.orDefault default.indexDelaySecs Json.word64?
    sessionRetries := ← retries.orDefault default.sessionRetries Json.word32?
    timeoutSecs := ← timeout.orDefault default.timeoutSecs Json.word64?
    purgeOnStart := ← purge.orDefault default.purgeOnStart Json.bool?
    retry := ← retry.orDefault default.retry Retry.ofJson? }

/-- The structured form of worker settings; a missing key is left out. -/
def toJson (worker : Worker) : Json :=
  .object ([("endpoint", .string worker.endpoint), ("api_version", .string worker.apiVersion)] ++
    -- an absent key is left out: written as a null it would take the key of a lower layer back
    (worker.apiKey.map fun key => ("api_key", Json.string key)).toList ++
    [("auth", worker.auth.toJson), ("model", .string worker.model),
      ("agent_name", .string worker.agentName),
      ("poll_interval_secs", .ofWord64 worker.pollIntervalSecs),
      ("max_poll_attempts", .ofWord32 worker.maxPollAttempts),
      ("index_delay_secs", .ofWord64 worker.indexDelaySecs),
      ("session_retries", .ofWord32 worker.sessionRetries),
      ("timeout_secs", .ofWord64 worker.timeoutSecs),
      ("purge_on_start", .bool worker.purgeOnStart), ("retry", worker.retry.toJson)])

end Worker

namespace Limits

def fieldNames : List String :=
  ["max_iterations", "max_recovery_attempts"]

def ofJson? (value : Json) : Option Limits := do
  let [iterations, attempts] ← value.record? fieldNames | none
  let default : Limits := {}
  return {
    maxIterations := ← iterations.orDefault default.maxIterations Json.word32?
    maxRecoveryAttempts := ← attempts.orDefault default.maxRecoveryAttempts Json.word32? }

def toJson (limits : Limits) : Json :=
  .object [("max_iterations", .ofWord32 limits.maxIterations),
    ("max_recovery_attempts", .ofWord32 limits.maxRecoveryAttempts)]

end Limits

namespace Build

def fieldNames : List String :=
  ["dedup_violations"]

def ofJson? (value : Json) : Option Build := do
  let [dedup] ← value.record? fieldNames | none
  let default : Build := {}
  return { dedupViolations := ← dedup.orDefault default.dedupViolations Json.bool? }

def toJson (build : Build) : Json :=
  .object [("dedup_violations", .bool build.dedupViolations)]

end Build

namespace Log

def fieldNames : List String :=
  ["level", "format", "log_dir", "rotation"]

/-- Log settings from their structured form. The directory has no default: an array must not end
before it. -/
def ofJson? (value : Json) : Option Log := do
  let [level, format, dir, rotation] ← value.record? fieldNames | none
  let default : Log := {}
  return {
    level := ← level.orDefault default.level Json.string?
    format := ← format.orDefault default.format Json.string?
    dir := ← dir.optional path?
    rotation := ← rotation.orDefault default.rotation Json.string? }

/-- The structured form of log settings; a missing directory is left out. -/
def toJson (log : Log) : Json :=
  .object ([("level", .string log.level), ("format", .string log.format)] ++
    (log.dir.map fun dir => ("log_dir", Json.string dir.text)).toList ++
    [("rotation", .string log.rotation)])

end Log

def fieldNames : List String :=
  ["workspace", "toolchain", "worker", "convergence", "build", "logging"]

def ofJson? (value : Json) : Option Settings := do
  let [workspace, toolchain, worker, convergence, build, logging] ←
    value.record? fieldNames | none
  return {
    workspace := ← workspace.orDefault {} Layout.ofJson?
    toolchain := ← toolchain.orDefault {} Commands.ofJson?
    worker := ← worker.orDefault {} Worker.ofJson?
    convergence := ← convergence.orDefault {} Limits.ofJson?
    build := ← build.orDefault {} Build.ofJson?
    logging := ← logging.orDefault {} Log.ofJson? }

def toJson (settings : Settings) : Json :=
  .object [("workspace", settings.workspace.toJson), ("toolchain", settings.toolchain.toJson),
    ("worker", settings.worker.toJson), ("convergence", settings.convergence.toJson),
    ("build", settings.build.toJson), ("logging", settings.logging.toJson)]

end Settings

end AzcRepair
