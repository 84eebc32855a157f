import AzcRepair.Execution
import AzcRepair.Settings
import AzcRepair.Text.Blank
import AzcRepair.Text.Replace
import AzcRepair.Toolchain
import AzcRepair.Toolchain.Project

/-!
# The tools of the toolchain

Compiling runs the compiler in the root of the workspace. Building runs the build program in the
directory of the generated project, over which the build templates are put first.
-/

namespace AzcRepair.Toolchain

/-- Programs and directories of the toolchain. -/
structure Tools where
  /-- Where the compiler starts. -/
  root : Path
  /-- Where it puts the generated project. -/
  outputDir : Path
  /-- Where the build templates are. -/
  helperDir : Path
  projectTemplate : String
  feedConfig : String
  commands : Settings.Commands
  deriving DecidableEq, Repr

namespace Tools

def ofSettings (layout : Settings.Layout) (commands : Settings.Commands) : Tools where
  root := layout.root
  -- the directories are joined to the root here, once
  outputDir := layout.resolve layout.outputDir
  helperDir := layout.resolve layout.helperDir
  projectTemplate := layout.projectTemplate
  feedConfig := layout.feedConfig
  commands := commands

/-- What the tools ask of the world. -/
inductive Call where
  | run (command : Execution.Command)
  | disk (call : Disk.Call)
  deriving DecidableEq, Repr

@[reducible] def Answer : Call → Type
  | .run _ => Except OsError Execution.Result
  | .disk call => Disk.Answer call

/-- A part of what the tools do. -/
abbrev Act (α : Type) := ExceptT Failure (Procedure Call Answer) α

def askDisk (call : Disk.Call) : Act (Disk.Answer call) :=
  ExceptT.lift (Procedure.ask (Call.disk call))

/-- Runs a program; that it cannot be started is a failure. -/
def run (program : String) (arguments : List String) (dir : Path) : Act Execution.Result :=
  ExceptT.mk (Procedure.ask (Call.run ⟨program, arguments, some dir⟩) >>= fun
    | .ok result => pure (.ok result)
    | .error error => pure (.error (.spawn program error)))

/-- Takes a refusal of the disk as a failure of the toolchain. -/
def orIo {α : Type} (result : Except OsError α) : Act α :=
  match result with
  | .ok value => return value
  | .error error => throw (.io error)

def projectExtension : String := "csproj"

/-- What stands for the output directory in the arguments of the compiler. -/
def outputPlaceholder : String := "\x7boutput_dir\x7d"

def compileArguments (tools : Tools) : List String :=
  tools.commands.compileArgs.map (Text.replaceAll outputPlaceholder tools.outputDir.text)

/-- Both output streams, as far as they are not blank. -/
def joinOutput (stdout stderr : String) : String :=
  if Text.isBlankText stdout then stderr
  else if Text.isBlankText stderr then stdout
  else stdout ++ "\n" ++ stderr

/-- Compiles the sources. The answer is empty when they compile, and never blank when they do not.
-/
def compile (tools : Tools) : Act String := do
  let result ← run tools.commands.compileProgram tools.compileArguments tools.root
  if result.status.isSuccess then return ""
  let diagnostics := joinOutput result.outText result.errText
  -- a compiler that fails without a word must not look like one that succeeded
  if Text.isBlankText diagnostics then
    return tools.commands.compileProgram ++ " exited with " ++ result.status.message
  return diagnostics

/-- The generated project: the first file with the extension below the output directory. It is
looked for again each time, since every compilation may generate another one. -/
def project (tools : Tools) : Act Path := do
  let search := Procedure.embed Call.disk (fun _ answer => answer)
    (findFirst projectExtension tools.outputDir).run
  match ← orIo (← ExceptT.lift search) with
  | some path => return path
  | none => throw (.projectNotFound tools.outputDir)

def projectDir (tools : Tools) (project : Path) : Path :=
  project.parent?.getD tools.outputDir

/-- Puts the package feed next to the generated project and the project template over it. -/
def prepareArtifacts (tools : Tools) : Act Unit := do
  let project ← tools.project
  let feed := tools.helperDir / tools.feedConfig
  unless ← askDisk (.present feed) do throw (.templateMissing feed)
  orIo (← askDisk (.copy feed (tools.projectDir project / tools.feedConfig)))
  -- the feed comes first, so it is there even when the template is missing
  let template := tools.helperDir / tools.projectTemplate
  match ← askDisk (.readText template) with
  | .error _ => throw (.templateMissing template)
  | .ok text => orIo (← askDisk (.write project text))

/-- Builds the generated project. A build that fails is not a failure of the toolchain, for
violations are errors to it; its output is what counts. -/
def build (tools : Tools) : Act BuildOutput := do
  let project ← tools.project
  let result ← run tools.commands.buildProgram tools.commands.buildArgs (tools.projectDir project)
  return ⟨result.outText ++ "\n" ++ result.errText, result.status.isSuccess⟩

end Tools

end AzcRepair.Toolchain
