import AzcRepair.Calendar
import AzcRepair.Disk
import AzcRepair.Settings
import AzcRepair.Worker.Session

/-!
# The workspace

Where the files of a run lie, and what the run does with them: it checks the sources, reads the main
and the target file, replaces the target file, keeps the logs of the latest build, and archives the
sources. Archives are written once: a file that is already there is never replaced by one.
-/

namespace AzcRepair

/-- The paths of a workspace. They are joined from the settings once, at the start of a run, and
are used as they are: nothing tidies them or checks where they lead. -/
structure Workspace where
  sourceDir : Path
  targetFile : Path
  mainFile : Path
  logDir : Path
  backupDir : Path
  deriving DecidableEq, Repr

namespace Workspace

def ofLayout (layout : Settings.Layout) : Workspace where
  sourceDir := layout.sourcePath
  targetFile := layout.targetPath
  mainFile := layout.mainPath
  logDir := layout.resolve layout.logDir
  backupDir := layout.resolve layout.backupDir

def violationLog (workspace : Workspace) : Path :=
  workspace.logDir / "azc-errors.txt"

/-- The copy of the violation log that is kept for an instant. -/
def violationSnapshot (workspace : Workspace) (now : Instant) : Path :=
  workspace.logDir / ("azc-errors-" ++ now.stamp ++ ".txt")

def buildLog (workspace : Workspace) : Path :=
  workspace.logDir / "build-output.log"

def backupFile (workspace : Workspace) (iteration : UInt32) (now : Instant) : Path :=
  workspace.backupDir / ("iteration-" ++ Text.decimal iteration.toNat ++ "-src-backup-" ++
    now.stamp ++ ".tar.gz")

/-- The files that every session works on. -/
def artifacts (workspace : Workspace) : List Worker.Artifact :=
  -- the worker sees a file under its last name alone
  [workspace.mainFile, workspace.targetFile, workspace.violationLog].map fun path =>
    ⟨path.fileName?.getD "", path⟩

/-- The operating system refused something at a path. -/
structure Failure where
  path : Path
  error : OsError
  deriving DecidableEq, Repr

def Failure.message (failure : Failure) : String :=
  "I/O error at " ++ failure.path.text ++ ": " ++ failure.error.message

/-- Something done with the files of a workspace. -/
abbrev Action (α : Type) := ExceptT Failure (Procedure Disk.Call Disk.Answer) α

/-- Asks the file system and blames a refusal on the path. -/
def blame {α : Type} (path : Path) (request : Procedure Disk.Call Disk.Answer (Except OsError α)) :
    Action α :=
  ExceptT.mk (request >>= fun
    | .ok value => pure (.ok value)
    | .error error => pure (.error ⟨path, error⟩))

def present (path : Path) : Action Bool :=
  ExceptT.lift (Disk.ask (.present path))

def readText (path : Path) : Action String :=
  blame path (Disk.ask (.readText path))

def write (path : Path) (text : String) : Action Unit :=
  blame path (Disk.ask (.write path text))

/-- Makes a directory unless it is there. -/
def makeDirectories (path : Path) : Action Unit :=
  blame path (Disk.ask (.makeDirectories path))

/-- Refuses to start without the source directory and the target file. -/
def ensureSources (workspace : Workspace) : Action Unit := do
  -- the directory is asked for first, so its absence is the one that is reported
  unless ← present workspace.sourceDir do
    throw ⟨workspace.sourceDir, .other "not found"⟩
  unless ← present workspace.targetFile do
    throw ⟨workspace.targetFile, .other "not found"⟩

def readTarget (workspace : Workspace) : Action String :=
  readText workspace.targetFile

def readMain (workspace : Workspace) : Action String :=
  readText workspace.mainFile

def writeTarget (workspace : Workspace) (text : String) : Action Unit :=
  write workspace.targetFile text

/-- Replaces the violation log and keeps a copy of it under the instant. The log is always that of
the latest build, while the copies of earlier builds stay. -/
def persistViolations (workspace : Workspace) (text : String) (now : Instant) : Action Path := do
  makeDirectories workspace.logDir
  write workspace.violationLog text
  write (workspace.violationSnapshot now) text
  return workspace.violationLog

def persistBuildLog (workspace : Workspace) (text : String) : Action Path := do
  makeDirectories workspace.logDir
  write workspace.buildLog text
  return workspace.buildLog

/-- An archive of the sources. -/
structure Backup where
  path : Path
  iteration : UInt32
  time : Instant
  deriving DecidableEq, Repr

/-- Archives the sources in a file that must not exist yet. The file is made first and filled
afterwards, so an archive that fails leaves a file that is empty or cut short. -/
def createBackup (workspace : Workspace) (iteration : UInt32) (now : Instant) : Action Backup := do
  makeDirectories workspace.backupDir
  let path := workspace.backupFile iteration now
  -- two backups of one iteration and millisecond have one name, and the second is refused
  blame path (Disk.ask (.createNew path))
  blame path (Disk.ask (.archive path workspace.sourceDir))
  return ⟨path, iteration, now⟩

end Workspace

end AzcRepair
