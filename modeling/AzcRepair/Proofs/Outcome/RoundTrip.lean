import AzcRepair.Json.Reader
import AzcRepair.Outcome
import AzcRepair.Proofs.Json.Decode
import AzcRepair.Proofs.Json.RoundTrip

/-!
# Outcomes and their texts

An outcome is recorded as the text of an object that names its kind first. What is recorded is read
back, whatever characters the diagnostics and the violations hold, so no two outcomes share a text.
-/

namespace AzcRepair

open Json (Exact exact_array_map list?_map)

namespace Violation

theorem ofJson?_toJson (violation : Violation) : ofJson? violation.toJson = some violation :=
  rfl

theorem exact_toJson (violation : Violation) : Exact 1 violation.toJson := by
  simp [toJson]

end Violation

namespace Outcome

/-- The recorded form of an outcome. -/
def text (outcome : Outcome) : String :=
  outcome.toJson.render

/-- The outcome that a record stands for. -/
def ofText? (text : String) : Option Outcome :=
  (Json.read text).toOption.bind ofJson?

/-- The members of the structured form behind its kind. -/
def details (outcome : Outcome) : List (String × Json) :=
  match outcome.toJson with
  | .object (_ :: members) => members
  | _ => []

/-- The kind comes first. -/
theorem toJson_eq (outcome : Outcome) :
    outcome.toJson = .object ((tag, .string outcome.label) :: outcome.details) := by
  cases outcome <;> rfl

/-- No other member is named like the kind. -/
theorem ofJson?_toJson_eq (outcome : Outcome) :
    ofJson? outcome.toJson = ofKind? outcome.label (.object outcome.details) := by
  cases outcome <;> rfl

theorem ofKind?_details (outcome : Outcome) :
    ofKind? outcome.label (.object outcome.details) = some outcome := by
  -- the fields of each kind are read by their names, in the order in which they are written
  cases outcome with
  | converged iterations =>
    show (Json.word32? (.ofWord32 iterations)).bind _ = _
    rw [Json.word32?_ofWord32]
    rfl
  | maxIterationsReached remaining =>
    show (Json.list? Violation.ofJson? (.array (remaining.map Violation.toJson))).bind _ = _
    rw [list?_map fun violation _ => violation.ofJson?_toJson]
    rfl
  | compileFailed diagnostics => rfl
  | recoveryExhausted iteration attempts diagnostics =>
    show (Json.word32? (.ofWord32 iteration)).bind _ = _
    rw [Json.word32?_ofWord32]
    show (Json.word32? (.ofWord32 attempts)).bind _ = _
    rw [Json.word32?_ofWord32]
    rfl
  | cancelled iterations =>
    show (Json.word32? (.ofWord32 iterations)).bind _ = _
    rw [Json.word32?_ofWord32]
    rfl

/-- An outcome comes back from its structured form. -/
theorem ofJson?_toJson (outcome : Outcome) : ofJson? outcome.toJson = some outcome := by
  rw [ofJson?_toJson_eq, ofKind?_details]

theorem exact_toJson (outcome : Outcome) : Exact 3 outcome.toJson := by
  have violations (remaining : List Violation) :
      Exact 2 (.array (remaining.map Violation.toJson)) := exact_array_map Violation.exact_toJson
  cases outcome <;> simp [toJson, violations]

theorem read_text (outcome : Outcome) : Json.read outcome.text = .ok outcome.toJson :=
  Json.read_render (outcome.exact_toJson.mono (by decide))

theorem ofText?_text (outcome : Outcome) : ofText? outcome.text = some outcome := by
  rw [ofText?, read_text]
  exact outcome.ofJson?_toJson

/-- **Records are faithful.** The text of an outcome is that of an object which names the kind of
the outcome first, the outcome is read back from it, and different outcomes have different texts. -/
theorem record_faithful (outcome : Outcome) :
    Json.read outcome.text = .ok (.object (("outcome", .string outcome.label) :: outcome.details)) ∧
    ofText? outcome.text = some outcome ∧
    ∀ other : Outcome, outcome.text = other.text ↔ outcome = other := by
  refine ⟨?_, outcome.ofText?_text, fun other => ⟨fun same => ?_, congrArg text⟩⟩
  · rw [read_text, toJson_eq]
    rfl
  · have read := outcome.ofText?_text
    -- two outcomes with one text are both what is read from it
    rw [same, other.ofText?_text] at read
    exact (Option.some.inj read).symm

end Outcome

end AzcRepair
