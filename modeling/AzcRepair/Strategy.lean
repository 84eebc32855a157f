import AzcRepair.Text.Blank
import AzcRepair.Text.Letters

/-!
# Remediation strategies

A strategy knows one analyzer code and what to ask of the worker for it. A registry is a list of
strategies; more than one of them may answer for a code, and their order is kept.
-/

namespace AzcRepair

/-- A remedy for one analyzer code. -/
inductive Strategy where
  /-- Single-word type names are too generic. -/
  | azc0012
  /-- Names that end in `Request`, `Response` or `Options`. -/
  | azc0030
  /-- Names that end in `Definition`. -/
  | azc0031
  /-- Names that end in `Data`. -/
  | azc0032
  /-- Names that end in `Operation`. -/
  | azc0033
  /-- Names that collide with a well-known type. -/
  | azc0034
  deriving DecidableEq, Repr

namespace Strategy

def all : List Strategy :=
  [azc0012, azc0030, azc0031, azc0032, azc0033, azc0034]

def code : Strategy → String
  | azc0012 => "AZC0012"
  | azc0030 => "AZC0030"
  | azc0031 => "AZC0031"
  | azc0032 => "AZC0032"
  | azc0033 => "AZC0033"
  | azc0034 => "AZC0034"

/-- The strategy is for this code, in any case and with any blanks around it. Codes that were
extracted are bare and in upper case; a strategy may be asked for others as well. -/
def handles (strategy : Strategy) (code : String) : Bool :=
  Text.sameIgnoringCase strategy.code (Text.trimmed code)

def ofCode? (code : String) : Option Strategy :=
  all.find? (·.code == code)

end Strategy

/-- The strategies in use, in registration order; a strategy may be registered twice. -/
structure Registry where
  strategies : List Strategy
  deriving DecidableEq, Repr

namespace Registry

def builtin : Registry :=
  ⟨Strategy.all⟩

/-- The strategies for a code, in registration order. -/
def strategiesFor (registry : Registry) (code : String) : List Strategy :=
  -- all of them answer, so a strategy that is registered twice is asked twice
  registry.strategies.filter (·.handles code)

def canHandle (registry : Registry) (code : String) : Bool :=
  registry.strategies.any (·.handles code)

def codes (registry : Registry) : List String :=
  registry.strategies.map (·.code)

theorem canHandle_eq_false_iff {registry : Registry} {code : String} :
    registry.canHandle code = false ↔ registry.strategiesFor code = [] := by
  simp [canHandle, strategiesFor, List.filter_eq_nil_iff]

end Registry

end AzcRepair
