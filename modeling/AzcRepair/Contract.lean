import AzcRepair.Json.Decode
import AzcRepair.Request

/-!
# Fix contracts

A fix contract is what the worker hands back: an analysis, a report of the changes made, and the
complete corrected file. Analysis and report are informational; the corrected file is what counts.
Both sections have older member names that are read as well.
-/

namespace AzcRepair

/-- What the worker found. -/
structure Analysis where
  totalErrors : UInt32
  errorTypesFound : List String
  itemsRequiringFixes : List String
  deriving DecidableEq, Repr

/-- A model renamed by the worker. -/
structure Rename where
  original : Option String
  fixed : Option String
  reason : Option String
  deriving DecidableEq, Repr

/-- A reference that follows a renamed model. -/
structure ReferenceUpdate where
  location : Option String
  original : Option String
  fixed : Option String
  reason : Option String
  deriving DecidableEq, Repr

/-- A piece of structure that the worker put in. -/
structure StructuralAddition where
  kind : Option String
  location : Option String
  reason : Option String
  deriving DecidableEq, Repr

/-- The changes that the worker reports. -/
structure Fixes where
  renames : List Rename
  referenceUpdates : List ReferenceUpdate
  structuralAdditions : List StructuralAddition
  deriving DecidableEq, Repr

/-- The answer of the worker to a request. -/
structure Contract where
  analysis : Analysis
  fixes : Fixes
  /-- The complete corrected file. -/
  updatedContent : String
  deriving DecidableEq, Repr

namespace Analysis

def empty : Analysis := ⟨0, [], []⟩

instance : Inhabited Analysis := ⟨empty⟩

def ofJson? (value : Json) : Option Analysis := do
  let [total, types, items] ← value.fields?
    [["total_errors", "total_azc_errors"], ["error_types_found"],
      ["items_requiring_fixes", "models_requiring_fixes"]] | none
  return {
    totalErrors := ← total.orDefault 0 Json.word32?
    errorTypesFound := ← types.orDefault [] (Json.list? Json.string?)
    itemsRequiringFixes := ← items.orDefault [] (Json.list? Json.string?) }

def toJson (analysis : Analysis) : Json :=
  .object [("total_errors", .ofWord32 analysis.totalErrors),
    ("error_types_found", .array (analysis.errorTypesFound.map .string)),
    ("items_requiring_fixes", .array (analysis.itemsRequiringFixes.map .string))]

end Analysis

namespace Rename

def ofJson? (value : Json) : Option Rename := do
  let [original, fixed, reason] ← value.fields? [["original"], ["fixed"], ["reason"]] | none
  return {
    original := ← original.nullable Json.string?
    fixed := ← fixed.nullable Json.string?
    reason := ← reason.nullable Json.string? }

def toJson (rename : Rename) : Json :=
  .object [("original", .ofText? rename.original), ("fixed", .ofText? rename.fixed),
    ("reason", .ofText? rename.reason)]

end Rename

namespace ReferenceUpdate

def ofJson? (value : Json) : Option ReferenceUpdate := do
  let [location, original, fixed, reason] ←
    value.fields? [["location"], ["original"], ["fixed"], ["reason"]] | none
  return {
    location := ← location.nullable Json.string?
    original := ← original.nullable Json.string?
    fixed := ← fixed.nullable Json.string?
    reason := ← reason.nullable Json.string? }

def toJson (update : ReferenceUpdate) : Json :=
  .object [("location", .ofText? update.location), ("original", .ofText? update.original),
    ("fixed", .ofText? update.fixed), ("reason", .ofText? update.reason)]

end ReferenceUpdate

namespace StructuralAddition

def ofJson? (value : Json) : Option StructuralAddition := do
  let [kind, location, reason] ← value.fields? [["type"], ["location"], ["reason"]] | none
  return {
    kind := ← kind.nullable Json.string?
    location := ← location.nullable Json.string?
    reason := ← reason.nullable Json.string? }

def toJson (addition : StructuralAddition) : Json :=
  .object [("type", .ofText? addition.kind), ("location", .ofText? addition.location),
    ("reason", .ofText? addition.reason)]

end StructuralAddition

namespace Fixes

def empty : Fixes := ⟨[], [], []⟩

instance : Inhabited Fixes := ⟨empty⟩

def ofJson? (value : Json) : Option Fixes := do
  let [renames, updates, additions] ← value.fields?
    [["renames", "model_renames"], ["reference_updates"], ["structural_additions"]] | none
  return {
    renames := ← renames.orDefault [] (Json.list? Rename.ofJson?)
    referenceUpdates := ← updates.orDefault [] (Json.list? ReferenceUpdate.ofJson?)
    structuralAdditions := ← additions.orDefault [] (Json.list? StructuralAddition.ofJson?) }

def toJson (fixes : Fixes) : Json :=
  .object [("renames", .array (fixes.renames.map Rename.toJson)),
    ("reference_updates", .array (fixes.referenceUpdates.map ReferenceUpdate.toJson)),
    ("structural_additions", .array (fixes.structuralAdditions.map StructuralAddition.toJson))]

end Fixes

namespace Contract

/-- A contract from its structured form; the corrected file may be blank. -/
def ofJson? (value : Json) : Option Contract := do
  let [analysis, fixes, content] ←
    value.fields? [["analysis"], ["fixes"], [Request.contentMember]] | none
  return {
    analysis := ← analysis.required Analysis.ofJson?
    fixes := ← fixes.orDefault .empty Fixes.ofJson?
    updatedContent := ← content.required Json.string? }

def toJson (contract : Contract) : Json :=
  .object [("analysis", contract.analysis.toJson), ("fixes", contract.fixes.toJson),
    (Request.contentMember, .string contract.updatedContent)]

/-- The number of changes that the worker reports. -/
def changeCount (contract : Contract) : Nat :=
  contract.fixes.renames.length + contract.fixes.referenceUpdates.length +
    contract.fixes.structuralAdditions.length

end Contract

end AzcRepair
