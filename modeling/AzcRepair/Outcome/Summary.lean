import AzcRepair.Outcome
import AzcRepair.Text.Blank
import AzcRepair.Text.Numeral
import AzcRepair.Text.Table

/-!
# Summaries

What a finished run says at its end, and the status that the program exits with.
-/

namespace AzcRepair.Outcome

/-- The exit status: zero only for a run without violations at its end. -/
def exitStatus (outcome : Outcome) : UInt8 :=
  if outcome.isConverged then 0 else 2

/-- The table of the violations that are left. -/
def remainingTable (violations : List Violation) : Text.Table where
  heading := ["CODE", "MESSAGE"]
  rows := violations.map fun violation => [violation.code, violation.message]

def summary : Outcome → String
  | converged iterations =>
    "Converged after " ++ Text.decimal iterations.toNat ++ " iteration(s): no AZC violations left."
  | maxIterationsReached remaining =>
    "Iteration budget exhausted with " ++ Text.decimal remaining.length ++
      " violation(s) remaining:\n" ++ (remainingTable remaining).render
  | compileFailed diagnostics =>
    "TypeSpec compilation failed before remediation:\n" ++ Text.trimmedEnd diagnostics
  | recoveryExhausted iteration attempts diagnostics =>
    "Iteration " ++ Text.decimal iteration.toNat ++ ": fix still fails to compile after " ++
      Text.decimal attempts.toNat ++ " recovery attempt(s):\n" ++ Text.trimmedEnd diagnostics
  | cancelled iterations =>
    "Cancelled after " ++ Text.decimal iterations.toNat ++ " completed iteration(s)."

end AzcRepair.Outcome
