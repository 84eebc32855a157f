import AzcRepair.Disk
import AzcRepair.Procedure

/-!
# Interrupts

The first interrupt asks the run to stop at its next boundary, the second one ends the program at
once. When interrupts cannot be listened for, the watch is over.
-/

namespace AzcRepair.Interrupt

/-- What the watch asks of the world. -/
inductive Call where
  /-- Wait for the next interrupt. -/
  | next
  /-- Ask the run to stop. -/
  | requestStop
  deriving DecidableEq, Repr

@[reducible] def Answer : Call → Type
  | .next => Except OsError Unit
  | .requestStop => Unit

/-- Watches for two interrupts and says whether the program has to end at once. -/
def watch : Procedure Call Answer Bool := do
  match ← Procedure.ask Call.next with
  -- no handler could be installed, so no interrupt will be seen
  | .error _ => return false
  | .ok () =>
    -- from now on the run ends at its next boundary
    Procedure.ask Call.requestStop
    match ← Procedure.ask Call.next with
    | .error _ => return false
    | .ok () => return true

/-- The exit status of a program ended by an interrupt. -/
def exitStatus : UInt8 := 130

end AzcRepair.Interrupt
