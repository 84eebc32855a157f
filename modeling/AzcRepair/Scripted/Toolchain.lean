import AzcRepair.Text.Blank
import AzcRepair.Toolchain

/-!
# A scripted toolchain

A toolchain that gives queued answers. When there are none left, everything compiles and builds
without a violation.

It stands in for `Toolchain/Tools` where a run is to be tried out without other programs. A run knows
its toolchain only by its answers, so what is proved of every run holds with this one too.
-/

namespace AzcRepair.Scripted

/-- The answers to come, and how often each tool was used. -/
structure Toolchain where
  /-- Diagnostics of the next compilations. -/
  compiles : List String := []
  /-- Logs of the next builds. -/
  builds : List String := []
  /-- The build program cannot be started. -/
  failsToBuild : Bool := false
  compileCalls : Nat := 0
  prepareCalls : Nat := 0
  buildCalls : Nat := 0
  deriving DecidableEq, Repr

namespace Toolchain

open AzcRepair.Toolchain (Failure BuildOutput)

/-- The log of a build without queued answer. -/
def cleanLog : String :=
  "Build succeeded.\n    0 Warning(s)\n    0 Error(s)"

def mentions (word : List Char) : List Char → Bool
  | [] => word.isEmpty
  | c :: rest => word.isPrefixOf (c :: rest) || mentions word rest

def compile (toolchain : Toolchain) : Except Failure String × Toolchain :=
  (.ok (toolchain.compiles.headD ""), { toolchain with
    compiles := toolchain.compiles.tail, compileCalls := toolchain.compileCalls + 1 })

def prepareArtifacts (toolchain : Toolchain) : Except Failure Unit × Toolchain :=
  (.ok (), { toolchain with prepareCalls := toolchain.prepareCalls + 1 })

/-- Builds. A build succeeds when its log mentions no error. -/
def build (toolchain : Toolchain) : Except Failure BuildOutput × Toolchain :=
  let toolchain := { toolchain with buildCalls := toolchain.buildCalls + 1 }
  if toolchain.failsToBuild then
    (.error (.spawn "dotnet" (.other "dotnet not found")), toolchain)
  else
    let log := toolchain.builds.headD cleanLog
    (.ok ⟨log, !mentions "error".toList log.toList⟩,
      { toolchain with builds := toolchain.builds.tail })

end Toolchain

end AzcRepair.Scripted
