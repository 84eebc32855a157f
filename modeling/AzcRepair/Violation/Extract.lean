import AzcRepair.Text.Lines
import AzcRepair.Violation.Marker

/-!
# Extraction of violations from build output

Every line of the output that holds a marker is a report. Reports keep the order of their lines, and
lines without a marker are passed over, so any text has a list of violations, possibly empty.
-/

namespace AzcRepair.Violation

/-- A line with a marker, trimmed, and the violation it reports. -/
structure Report where
  /-- The line without its outer blanks. -/
  line : List Char
  /-- What it reports. -/
  violation : Violation
  deriving DecidableEq, Repr

def Report.ofLine? (line : List Char) : Option Report :=
  (Marker.leftmost (Text.trim line)).map fun marker => ⟨Text.trim line, marker.violation⟩

/-- The reports of a build output in line order. -/
def reports (output : List Char) : List Report :=
  (Text.lines output).filterMap Report.ofLine?

/-- Keeps a report unless its line is in `seen` or equals that of an earlier one. -/
def withoutRepeats (seen : List (List Char)) : List Report → List Report
  | [] => []
  | report :: others =>
    if report.line ∈ seen then withoutRepeats seen others
    -- the line of a report that is kept counts as seen from now on
    else report :: withoutRepeats (report.line :: seen) others

/-- The violations of a build output, in the order of its lines. Repeats are told by their lines,
not by what they report: two lines with different places and one message are two violations. -/
def extract (repeats : Repeats) (output : String) : List Violation :=
  let found := reports output.toList
  match repeats with
  | .keepAll => found.map (·.violation)
  | .firstOccurrence => (withoutRepeats [] found).map (·.violation)

end AzcRepair.Violation
