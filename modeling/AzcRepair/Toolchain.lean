import AzcRepair.Disk

/-!
# The build toolchain

What compiling and building give, and how they can fail. That the sources do not compile is no
failure: the diagnostics are the answer.
-/

namespace AzcRepair.Toolchain

/-- A failure of the toolchain itself. -/
inductive Failure where
  /-- The program cannot be started. -/
  | spawn (program : String) (error : OsError)
  | projectNotFound (dir : Path)
  | templateMissing (path : Path)
  | io (error : OsError)
  deriving DecidableEq, Repr

def Failure.message : Failure → String
  | spawn program error => "Failed to spawn `" ++ program ++ "`: " ++ error.message
  | projectNotFound dir => "No generated project file found under " ++ dir.text
  | templateMissing path => "Build template missing: " ++ path.text
  | io error => "Toolchain I/O error: " ++ error.message

/-- The wording and then that of each cause. -/
def Failure.chain (failure : Failure) : List String :=
  failure.message :: match failure with
    | spawn _ error | io error => [error.message]
    | _ => []

/-- What a build leaves behind. -/
structure BuildOutput where
  /-- Both output streams. -/
  rawLog : String
  /-- The build says that it succeeded; violations are errors to it. -/
  success : Bool
  deriving DecidableEq, Repr

end AzcRepair.Toolchain
