import AzcRepair.Contract.Reply
import AzcRepair.Proofs.Json.Decode
import AzcRepair.Proofs.Json.RoundTrip

/-!
# Contracts and their texts

A contract comes back from its structured form, and from its text, with every section as it was.
-/

namespace AzcRepair

open Json (collapse_object collapse_map list?_map list?_map_string nullable_ofText? Exact
  exact_array_map)

/-! ## Structured forms

Every record is read back from its own structured form. A member that is missing in the record is
written as null and read as missing again, so nothing depends on which members there are. -/

theorem Rename.ofJson?_toJson (rename : Rename) : ofJson? rename.toJson = some rename := by
  have fields : rename.toJson.fields? [["original"], ["fixed"], ["reason"]] =
      some [.given (.ofText? rename.original), .given (.ofText? rename.fixed),
        .given (.ofText? rename.reason)] := rfl
  simp only [ofJson?, fields, nullable_ofText?, Option.bind_eq_bind, Option.bind_some]
  rfl

theorem ReferenceUpdate.ofJson?_toJson (update : ReferenceUpdate) :
    ofJson? update.toJson = some update := by
  have fields : update.toJson.fields? [["location"], ["original"], ["fixed"], ["reason"]] =
      some [.given (.ofText? update.location), .given (.ofText? update.original),
        .given (.ofText? update.fixed), .given (.ofText? update.reason)] := rfl
  simp only [ofJson?, fields, nullable_ofText?, Option.bind_eq_bind, Option.bind_some]
  rfl

theorem StructuralAddition.ofJson?_toJson (addition : StructuralAddition) :
    ofJson? addition.toJson = some addition := by
  have fields : addition.toJson.fields? [["type"], ["location"], ["reason"]] =
      some [.given (.ofText? addition.kind), .given (.ofText? addition.location),
        .given (.ofText? addition.reason)] := rfl
  simp only [ofJson?, fields, nullable_ofText?, Option.bind_eq_bind, Option.bind_some]
  rfl

theorem Analysis.ofJson?_toJson (analysis : Analysis) : ofJson? analysis.toJson = some analysis := by
  have fields : analysis.toJson.fields? [["total_errors", "total_azc_errors"],
        ["error_types_found"], ["items_requiring_fixes", "models_requiring_fixes"]] =
      some [.given (.ofWord32 analysis.totalErrors),
        .given (.array (analysis.errorTypesFound.map .string)),
        .given (.array (analysis.itemsRequiringFixes.map .string))] := rfl
  simp only [ofJson?, fields, Json.Field.orDefault, Json.word32?_ofWord32, list?_map_string,
    Option.bind_eq_bind, Option.bind_some]
  rfl

theorem Fixes.ofJson?_toJson (fixes : Fixes) : ofJson? fixes.toJson = some fixes := by
  have fields : fixes.toJson.fields?
        [["renames", "model_renames"], ["reference_updates"], ["structural_additions"]] =
      some [.given (.array (fixes.renames.map Rename.toJson)),
        .given (.array (fixes.referenceUpdates.map ReferenceUpdate.toJson)),
        .given (.array (fixes.structuralAdditions.map StructuralAddition.toJson))] := rfl
  -- each of the three lists is read item by item, by the law for its items
  simp only [ofJson?, fields, Json.Field.orDefault, Option.bind_eq_bind, Option.bind_some,
    list?_map fun rename _ => Rename.ofJson?_toJson rename,
    list?_map fun update _ => ReferenceUpdate.ofJson?_toJson update,
    list?_map fun addition _ => StructuralAddition.ofJson?_toJson addition]
  rfl

namespace Contract

/-- A contract whose corrected file is not blank is accepted as it is. -/
theorem ofMembers_toJson (contract : Contract)
    (content : Text.isBlankText contract.updatedContent = false) :
    ofMembers contract.toJson = .ok contract := by
  have fixes : (contract.toJson.member? "fixes").bind Fixes.ofJson? = some contract.fixes :=
    Fixes.ofJson?_toJson contract.fixes
  have analysis : requiredMember "analysis" contract.toJson = .ok contract.analysis.toJson := rfl
  have file : requiredMember Request.contentMember contract.toJson =
      .ok (.string contract.updatedContent) := rfl
  have object : contract.toJson.isObject = true := rfl
  -- the checks are met in the order in which they are made: the two members, the form, the
  -- content
  have examined : contract.analysis.toJson.isObject = true := rfl
  simp [ofMembers, analysis, file, fixes, object, examined, Json.string?, content,
    Analysis.ofJson?_toJson, bind, Except.bind, pure, Except.pure]

/-! ## Texts

A contract is written with four levels of containers at the most, which is far within what the
reader takes, and none of its names stands twice. So the text is read back as the value that it
was made of. -/

theorem exact_toJson (contract : Contract) : Exact 4 contract.toJson := by
  have rename (rename : Rename) : Exact 1 rename.toJson := by simp [Rename.toJson]
  have update (update : ReferenceUpdate) : Exact 1 update.toJson := by
    simp [ReferenceUpdate.toJson]
  have addition (addition : StructuralAddition) : Exact 1 addition.toJson := by
    simp [StructuralAddition.toJson]
  have fixes : Exact 3 contract.fixes.toJson := by
    simp [Fixes.toJson, exact_array_map rename, exact_array_map update, exact_array_map addition]
  have analysis : Exact 2 contract.analysis.toJson := by
    simp [Analysis.toJson, exact_array_map Exact.string]
  simp [toJson, fixes, analysis.mono (show 2 ≤ 3 by decide)]

theorem collapse_toJson (contract : Contract) : contract.toJson.collapse = contract.toJson := by
  have rename (rename : Rename) : rename.toJson.collapse = rename.toJson :=
    collapse_object (by simp) (by simp)
  have update (update : ReferenceUpdate) : update.toJson.collapse = update.toJson :=
    collapse_object (by simp) (by simp)
  have addition (addition : StructuralAddition) : addition.toJson.collapse = addition.toJson :=
    collapse_object (by simp) (by simp)
  have texts (texts : List String) :
      (Json.array (texts.map .string)).collapse = .array (texts.map .string) :=
    collapse_map fun text _ => Json.collapse_string text
  have fixes : contract.fixes.toJson.collapse = contract.fixes.toJson :=
    collapse_object (by simp) (by
      simp [collapse_map fun item _ => rename item, collapse_map fun item _ => update item,
        collapse_map fun item _ => addition item])
  have analysis : contract.analysis.toJson.collapse = contract.analysis.toJson :=
    collapse_object (by simp) (by simp [texts])
  exact collapse_object (by simp [Request.contentMember]) (by simp [fixes, analysis])

theorem ofReply_of_block {contract : Contract} {reply : String}
    (content : Text.isBlankText contract.updatedContent = false)
    (found : block reply = .ok contract.toJson.render) : ofReply reply = .ok contract := by
  have whole := Json.read_render ((exact_toJson contract).mono (show 4 ≤ Json.maxDepth by decide))
  simp only [ofReply, found, bind, Except.bind, whole]
  rw [collapse_toJson, ofMembers_toJson contract content]

end Contract

end AzcRepair
