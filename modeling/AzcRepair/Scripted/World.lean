import AzcRepair.FileTree
import AzcRepair.Run
import AzcRepair.Scripted.Toolchain
import AzcRepair.Scripted.Worker

/-!
# A scripted world

The world of a run, made of a file tree, a scripted toolchain and a scripted worker. Time passes
only in waits. Every request to the toolchain and the worker is recorded with its time; a plan makes
single requests fail and asks the run to stop at a given compilation.

This is no part of the program but a place for its runs: in it a whole run can be evaluated and
compared with a recorded one. What is proved of runs holds in every world, not in this one alone.
-/

namespace AzcRepair.Scripted

/-- The name under which a request is recorded, if it is one to the toolchain or the worker. -/
def recordedName? : Run.Call → Option String
  | .compile => some "compile"
  | .prepareArtifacts => some "prepare_artifacts"
  | .build => some "build"
  | .worker call => some call.name
  | _ => none

/-- What goes wrong, and when. Requests of one name are counted from one. -/
structure Plan where
  toolchainFault : (name : String) → (count : Nat) → Option Toolchain.Failure := fun _ _ => none
  workerFault : (name : String) → (count : Nat) → Option Worker.Failure := fun _ _ => none
  /-- The compilation during which the run is asked to stop. -/
  cancelAt : Option Nat := none
  /-- What every build says about its success, whatever its log says. -/
  success : Option Bool := none

structure World where
  tree : FileTree
  workingDirectory : Route
  /-- The instant at which the world begins. -/
  start : Instant
  toolchain : Toolchain := {}
  worker : Worker := {}
  /-- Milliseconds that the run waited. -/
  waited : Nat := 0
  /-- How often the clock was read; it moves on by a millisecond each time. -/
  readings : Nat := 0
  /-- The recorded requests and their times. -/
  record : List (Nat × Run.Call) := []
  cancelled : Bool := false

namespace World

/-- How often requests of a name were made. -/
def count (world : World) (name : String) : Nat :=
  (world.record.filter fun entry => recordedName? entry.2 = some name).length

/-- The world in which the next run begins. -/
def restart (world : World) (cancelled : Bool) : World :=
  { world with waited := 0, record := [], cancelled := cancelled }

def note (call : Run.Call) (world : World) : World :=
  { world with record := world.record ++ [(world.waited, call)] }

/-- Uses the toolchain unless the plan makes it fail. The request is on record by then, so the
first one of its name has the count one, and a failure leaves the answers to come as they are. -/
def useToolchain {α : Type} (plan : Plan) (name : String)
    (use : Toolchain → Except AzcRepair.Toolchain.Failure α × Toolchain) (world : World) :
    Except AzcRepair.Toolchain.Failure α × World :=
  match plan.toolchainFault name (world.count name) with
  | some failure => (.error failure, world)
  | none =>
    let (result, toolchain) := use world.toolchain
    (result, { world with toolchain := toolchain })

/-- Compiles; the plan may have the run asked to stop meanwhile. -/
def compile (plan : Plan) (world : World) :
    Except AzcRepair.Toolchain.Failure String × World :=
  let stops := plan.cancelAt = some (world.count "compile")
  useToolchain plan "compile" Toolchain.compile
    { world with cancelled := world.cancelled || stops }

/-- Builds; the plan may say how the build went. -/
def build (plan : Plan) (world : World) :
    Except AzcRepair.Toolchain.Failure AzcRepair.Toolchain.BuildOutput × World :=
  let (result, world) := useToolchain plan "build" Toolchain.build world
  (result.map fun output => { output with success := plan.success.getD output.success }, world)

/-- Uses the worker unless the plan makes it fail. A request that fails does not reach the worker:
no id is made up for it, and no job moves on. -/
def useWorker (plan : Plan) (call : AzcRepair.Worker.Call) (world : World) : call.Answer × World :=
  match plan.workerFault call.name (world.count call.name) with
  | some failure => (.error failure, world)
  | none =>
    let (answer, worker) := world.worker.perform call
    (answer, { world with worker := worker })

def answer (plan : Plan) : (call : Run.Call) → StateM World (Run.Answer call)
  | .compile => fun world => (world.note .compile).compile plan
  | .prepareArtifacts => fun world =>
    (world.note .prepareArtifacts).useToolchain plan "prepare_artifacts" Toolchain.prepareArtifacts
  | .build => fun world => (world.note .build).build plan
  | .worker call => fun world => (world.note (.worker call)).useWorker plan call
  | .disk call => fun world =>
    let (answer, tree) := world.tree.perform world.workingDirectory call
    (answer, { world with tree := tree })
  | .clock => fun world =>
    -- every reading gives another instant, and so names made from the time differ
    (Instant.ofMillis (world.start.toMillis + world.readings),
      { world with readings := world.readings + 1 })
  | .freshSuffix => fun world => ("00000000", world)
  | .pause ms => fun world => ((), { world with waited := world.waited + ms })
  | .cancelled => fun world => (world.cancelled, world)

def run (plan : Plan) (run : Run) : StateM World (Except Run.Failure Outcome) :=
  run.start.run.handle (answer plan)

end World

end AzcRepair.Scripted
