import AzcRepair.Json.Decode
import AzcRepair.Violation

/-!
# Outcomes

How a run ended, when it ended without a failure. The structured form of an outcome is an object
whose `outcome` member names the kind.
-/

namespace AzcRepair

/-- How a run ended. -/
inductive Outcome where
  /-- A build reported no violation. -/
  | converged (iterations : UInt32)
  /-- The budget is used up and there are violations left. -/
  | maxIterationsReached (remaining : List Violation)
  /-- The sources did not compile at the start of an iteration. -/
  | compileFailed (diagnostics : String)
  /-- A fix could not be made to compile. -/
  | recoveryExhausted (iteration attempts : UInt32) (diagnostics : String)
  /-- The run was told to stop. -/
  | cancelled (iterationsCompleted : UInt32)
  deriving DecidableEq, Repr

/-- How far a run has come. -/
structure Progress where
  /-- The number of iterations done. -/
  index : UInt32
  maxIterations : UInt32
  converged : Bool
  deriving DecidableEq, Repr

namespace Progress

def start (maxIterations : UInt32) : Progress :=
  ⟨0, maxIterations, false⟩

/-- The number of the current iteration, counted from one. A run counts it with checked sums, and never
gets to one that 32 bits do not hold. -/
def number (progress : Progress) : UInt32 :=
  progress.index + 1

def hasBudget (progress : Progress) : Bool :=
  !progress.converged && progress.index < progress.maxIterations

def advance (progress : Progress) : Progress :=
  { progress with index := progress.index + 1 }

def converge (progress : Progress) : Progress :=
  { progress with converged := true }

end Progress

def Violation.toJson (violation : Violation) : Json :=
  .object [("code", .string violation.code), ("message", .string violation.message)]

/-- A violation from its structured form; the code is taken as it is. -/
def Violation.ofJson? (value : Json) : Option Violation := do
  let [code, message] ← value.fields? [["code"], ["message"]] | none
  return ⟨← code.required Json.string?, ← message.required Json.string?⟩

namespace Outcome

def tag : String := "outcome"

def isConverged : Outcome → Bool
  | converged _ => true
  | _ => false

def label : Outcome → String
  | converged _ => "converged"
  | maxIterationsReached _ => "max_iterations_reached"
  | compileFailed _ => "compile_failed"
  | recoveryExhausted .. => "recovery_exhausted"
  | cancelled _ => "cancelled"

def toJson (outcome : Outcome) : Json :=
  .object ((tag, .string outcome.label) :: match outcome with
    | converged iterations => [("iterations", .ofWord32 iterations)]
    -- the violations are listed in the order in which the build reported them
    | maxIterationsReached remaining =>
      [("remaining", .array (remaining.map Violation.toJson))]
    | compileFailed diagnostics => [("diagnostics", .string diagnostics)]
    | recoveryExhausted iteration attempts diagnostics =>
      [("iteration", .ofWord32 iteration), ("attempts", .ofWord32 attempts),
        ("diagnostics", .string diagnostics)]
    | cancelled iterations => [("iterations_completed", .ofWord32 iterations)])

/-- An outcome of a kind from the rest of its structured form. Fields that are not known are
passed over, and a field that is missing or of another type makes the whole unreadable. -/
def ofKind? (kind : String) (rest : Json) : Option Outcome := do
  match kind with
  | "converged" =>
    let [iterations] ← rest.fields? [["iterations"]] | none
    return .converged (← iterations.required Json.word32?)
  | "max_iterations_reached" =>
    let [remaining] ← rest.fields? [["remaining"]] | none
    return .maxIterationsReached (← remaining.required (Json.list? Violation.ofJson?))
  | "compile_failed" =>
    let [diagnostics] ← rest.fields? [["diagnostics"]] | none
    return .compileFailed (← diagnostics.required Json.string?)
  | "recovery_exhausted" =>
    let [iteration, attempts, diagnostics] ←
      rest.fields? [["iteration"], ["attempts"], ["diagnostics"]] | none
    return .recoveryExhausted (← iteration.required Json.word32?)
      (← attempts.required Json.word32?) (← diagnostics.required Json.string?)
  | "cancelled" =>
    let [iterations] ← rest.fields? [["iterations_completed"]] | none
    return .cancelled (← iterations.required Json.word32?)
  | _ => none

/-- An outcome from its structured form. The kind may stand anywhere in an object, once; an array
has it as its first item. -/
def ofJson? : Json → Option Outcome
  | .object members => do
    -- a kind that is named twice is refused, like any field
    let [kind] := members.filter (·.1 == tag) | none
    ofKind? (← kind.2.string?) (.object (members.filter (·.1 != tag)))
  | .array (kind :: rest) => do ofKind? (← kind.string?) (.array rest)
  | _ => none

end Outcome

end AzcRepair
