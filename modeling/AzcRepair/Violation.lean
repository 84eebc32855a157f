import AzcRepair.Text.Letters

/-!
# Analyzer violations

A violation is one finding of the analyzers: the code of the rule in upper case and a message. The
violation log is the text form of a list of them, one line each.
-/

namespace AzcRepair

/-- One finding reported by a build. -/
structure Violation where
  /-- Code of the rule, such as `AZC0012`. -/
  code : String
  /-- What the analyzer said after the code. -/
  message : String
  deriving DecidableEq, Repr, Inhabited

namespace Violation

/-- A finding whose code may come in any case. -/
def ofCode (code message : String) : Violation :=
  ⟨Text.upperAscii code, message⟩

/-- The line of a violation in the log, without its ending. -/
def line (v : Violation) : String :=
  v.code ++ ": " ++ v.message

/-- The violation log: every violation on a line of its own, in order. It has the form of a build
output, so the violations can be found in it again. -/
def log (violations : List Violation) : String :=
  String.join (violations.map fun v => v.line ++ "\n")

@[simp] theorem toList_line (v : Violation) :
    v.line.toList = v.code.toList ++ ':' :: ' ' :: v.message.toList := by
  simp [line, String.toList_append, List.append_assoc]

@[simp] theorem log_nil : log [] = "" := rfl

/-- How repeated identical lines are treated. -/
inductive Repeats where
  /-- Only the first of several identical lines counts. -/
  | firstOccurrence
  /-- Every line counts. -/
  | keepAll
  deriving DecidableEq, Repr, Inhabited

def Repeats.name : Repeats → String
  | firstOccurrence => "first_occurrence"
  | keepAll => "keep_all"

def Repeats.ofName? (name : String) : Option Repeats :=
  [firstOccurrence, keepAll].find? (·.name == name)

def Repeats.ofDedup (dedup : Bool) : Repeats :=
  if dedup then .firstOccurrence else .keepAll

end Violation

end AzcRepair
