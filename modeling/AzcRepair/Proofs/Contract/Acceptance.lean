import AzcRepair.Proofs.Contract.Recovery
import AzcRepair.Proofs.Json.Limits
import AzcRepair.Proofs.Json.Members

/-!
# What decides a contract

Two members decide whether a reply is accepted: that `analysis` is an object, and what the corrected
file is. Whatever else the object holds, and whatever is in the analysis, neither rejects the reply
nor changes the file. A section that does not fit its shape is empty as a whole, and the other one
is not affected by it.

* `verdict` — what the two members decide.
* `Section` — what becomes of a section.
* `Judged` — what becomes of a reply whose block is such a value.
* `members_decide` — what becomes of every reply whose block is JSON.
* `members_decide_nested` — a reply that is refused for the depth of its analysis alone.
-/

namespace AzcRepair.Contract

open Json (AllTexts Exact Within allTexts_record balanced_write maxDepth write_object)

/-! ## The specification

What the two members decide is written as a function of three questions: is there an analysis, is
it an object, and which string is the content. The order in which they are asked is that in which
a reply is refused. Nothing in it mentions the sections, so they cannot matter to the verdict. -/

/-- What the two members decide: the file, or why the reply is refused. Of the analysis it counts
whether it is an object, and of the content which string it is. -/
def verdict :
    (analysis : Option Bool) → (content : Option (Option String)) → Except Refusal String
  | none, _ => .error (.missingField "analysis")
  | some false, _ => .error (.wrongType "analysis" "an object")
  | some true, none => .error (.missingField Request.contentMember)
  | some true, some none => .error (.wrongType Request.contentMember "a string")
  | some true, some (some text) =>
    if Text.isBlankText text then .error .emptyContent else .ok text

def analysisKind (value : Json) : Option Bool :=
  (value.member? "analysis").map Json.isObject

def contentText (value : Json) : Option (Option String) :=
  (value.member? Request.contentMember).map Json.string?

/-- The analysis is an object, and the content a string that is not blank. -/
def Usable (value : Json) : Prop :=
  (∃ members, value.member? "analysis" = some (.object members)) ∧
    ∃ text, value.member? Request.contentMember = some (.string text) ∧
      Text.isBlankText text = false

/-- A section that fits its shape is what it was decoded to; any other one is empty as a whole. -/
inductive Section {α : Type} (decode : Json → Option α) (empty : α) : Option Json → α → Prop
  | fits {value : Json} {decoded : α} (fits : decode value.collapse = some decoded) :
    Section decode empty (some value) decoded
  | odd {value : Json} (odd : decode value.collapse = none) :
    Section decode empty (some value) empty
  | absent : Section decode empty none empty

/-- What becomes of a reply whose block is this value. -/
structure Judged (reply : String) (value : Json) : Prop where
  object : value.isObject = true
  decided : (ofReply reply).map (·.updatedContent) =
    verdict (analysisKind value) (contentText value)
  accepted : (∃ contract, ofReply reply = .ok contract) ↔ Usable value
  examined : ∀ contract, ofReply reply = .ok contract →
    Section Analysis.ofJson? .empty (value.member? "analysis") contract.analysis
  reported : ∀ contract, ofReply reply = .ok contract →
    Section Fixes.ofJson? .empty (value.member? "fixes") contract.fixes

/-! ## Members

Here the value is taken apart. An object with a name that stands twice is read as if only the last
one were there, and the members that decide are those of the object after this. The two sections
are decoded apart from each other, and a section that cannot be decoded is replaced by an empty
one. -/

variable {value : Json}

/-- What is decoded from a section, or the empty one. -/
def decodedOr {α : Type} (decode : Json → Option α) (empty : α) (found : Option Json) : α :=
  ((found.map Json.collapse).bind decode).getD empty

theorem section_decodedOr {α : Type} (decode : Json → Option α) (empty : α)
    (found : Option Json) : Section decode empty found (decodedOr decode empty found) := by
  cases found with
  | none => exact .absent
  | some value =>
    rw [decodedOr, Option.map_some, Option.bind_some]
    cases decoded : decode value.collapse with
    | none => exact .odd decoded
    | some result => exact .fits decoded

/-- The contract of an object: the file that two members decide, with the sections. -/
theorem ofMembers_collapse (object : value.isObject = true) :
    ofMembers value.collapse =
      (verdict (analysisKind value) (contentText value)).map fun text =>
        { analysis := decodedOr Analysis.ofJson? .empty (value.member? "analysis")
          fixes := decodedOr Fixes.ofJson? .empty (value.member? "fixes")
          updatedContent := text } := by
  simp only [ofMembers, requiredMember, analysisKind, contentText, Json.isObject_collapse, object,
    Json.member?_collapse, bind, Except.bind]
  -- one case for each outcome, in the order in which the members are looked at
  cases value.member? "analysis" with
  | none => rfl
  | some analysis =>
    simp only [Option.map_some, Json.isObject_collapse]
    cases analysis.isObject with
    | false => rfl
    | true =>
      cases value.member? Request.contentMember with
      | none => rfl
      | some content =>
        simp only [Option.map_some, Json.string?_collapse]
        cases content.string? with
        | none => rfl
        | some text =>
          simp only [verdict]
          cases Text.isBlankText text with
          | true => rfl
          | false => rfl

theorem verdict_eq_ok_iff {analysis : Option Bool} {content : Option (Option String)}
    {text : String} : verdict analysis content = .ok text ↔
      analysis = some true ∧ content = some (some text) ∧ Text.isBlankText text = false := by
  unfold verdict
  split
  -- the only case with a string at hand; the others refuse before they look at it
  case h_5 other =>
    cases blank : Text.isBlankText other with
    | true =>
      simp only [if_true, reduceCtorEq, Option.some.injEq, true_and, false_iff]
      rintro ⟨rfl, full⟩
      exact absurd (full.symm.trans blank) Bool.false_ne_true
    | false =>
      simp only [Bool.false_eq_true, if_false, Except.ok.injEq, Option.some.injEq, true_and]
      constructor
      · rintro rfl
        exact ⟨rfl, blank⟩
      · exact And.left
  all_goals simp

theorem analysisKind_eq_true_iff : analysisKind value = some true ↔
    ∃ members, value.member? "analysis" = some (.object members) := by
  rw [analysisKind, Option.map_eq_some_iff]
  constructor
  · rintro ⟨analysis, given, object⟩
    cases analysis with
    | object members => exact ⟨members, given⟩
    | _ => cases object
  · rintro ⟨members, given⟩
    exact ⟨_, given, rfl⟩

/-- The content is a string exactly when the member that is to hold the file is one. -/
theorem contentText_eq_iff {text : String} :
    contentText value = some (some text) ↔
      value.member? Request.contentMember = some (.string text) := by
  rw [contentText, Option.map_eq_some_iff]
  constructor
  · rintro ⟨content, given, file⟩
    cases content with
    | string other =>
      cases file
      exact given
    | _ => cases file
  · intro given
    exact ⟨_, given, rfl⟩

/-- The two members decide for a file exactly when the value can be used. -/
theorem exists_verdict_iff :
    (∃ text, verdict (analysisKind value) (contentText value) = .ok text) ↔ Usable value := by
  simp only [verdict_eq_ok_iff, analysisKind_eq_true_iff, contentText_eq_iff, Usable,
    exists_and_left]

/-! ## Replies

A reply is judged when its block is read. What is read from a block is an object, since a block
begins with a brace, and so the question what becomes of a block that is no object does not arise.
-/

variable {reply found : String}

theorem blockBack_starts {depth : Nat} {passed before block : List Char}
    (searched : blockBack depth passed before = some block) :
    ∃ rest, block = openBrace :: rest := by
  -- the walk ends in one place only, and there it has just taken an opening brace
  fun_induction blockBack depth passed before
  case case1 => cases searched
  case case3 =>
    cases searched
    exact ⟨_, rfl⟩
  case case2 ih | case4 ih | case5 ih => exact ih searched

theorem block_starts (searched : block reply = .ok found) :
    ∃ rest, found.toList = openBrace :: rest := by
  have inside := block_eq_ok_iff.mp searched
  unfold lastBlock? at inside
  split at inside
  · cases inside
  · exact blockBack_starts inside

theorem ofReply_of_read {text : String} {value : Json} (searched : block reply = .ok text)
    (read : Json.read text = .ok value) : ofReply reply = ofMembers value.collapse := by
  simp only [ofReply, searched, bind, Except.bind, read]

theorem exists_of_map_eq_ok {ε α β : Type} {result : Except ε α} {f : α → β} {image : β}
    (taken : result.map f = .ok image) : ∃ value, result = .ok value ∧ f value = image := by
  cases result with
  | error failure => cases taken
  | ok value => exact ⟨value, rfl, Except.ok.inj taken⟩

/-- What is decided about an object is decided about the reply that holds it. -/
theorem judged_of_eq (object : value.isObject = true)
    (whole : ofReply reply = ofMembers value.collapse) : Judged reply value := by
  rw [ofMembers_collapse object] at whole
  have decided : (ofReply reply).map (·.updatedContent) =
      verdict (analysisKind value) (contentText value) := by
    rw [whole]
    cases verdict (analysisKind value) (contentText value) <;> rfl
  have accepted {contract : Contract} (taken : ofReply reply = .ok contract) :
      contract.analysis = decodedOr Analysis.ofJson? .empty (value.member? "analysis") ∧
        contract.fixes = decodedOr Fixes.ofJson? .empty (value.member? "fixes") := by
    rw [whole] at taken
    obtain ⟨text, -, rfl⟩ := exists_of_map_eq_ok taken
    exact ⟨rfl, rfl⟩
  -- the verdict, read in both directions, and the two sections
  refine ⟨object, decided, ?_, fun contract taken => ?_, fun contract taken => ?_⟩
  · rw [← exists_verdict_iff, ← decided]
    constructor
    · rintro ⟨contract, taken⟩
      exact ⟨contract.updatedContent, by rw [taken]; rfl⟩
    · rintro ⟨text, taken⟩
      obtain ⟨contract, taken, -⟩ := exists_of_map_eq_ok taken
      exact ⟨contract, taken⟩
  · rw [(accepted taken).1]
    exact section_decodedOr ..
  · rw [(accepted taken).2]
    exact section_decodedOr ..

/-- A reply is judged when its block is read. -/
theorem judged (searched : block reply = .ok found) (read : Json.read found = .ok value) :
    Judged reply value := by
  obtain ⟨given, within⟩ := Json.read_eq_ok_iff.mp read
  obtain ⟨rest, starts⟩ := block_starts searched
  obtain ⟨members, rfl⟩ := Json.exists_members_of_brace starts given within
  exact judged_of_eq rfl (ofReply_of_read searched read)

theorem malformed_of_not_read {fault : Json.Fault} (searched : block reply = .ok found)
    (read : Json.read found = .error fault) :
    ofReply reply = .error (.malformed fault found.toList) := by
  simp only [ofReply, searched, bind, Except.bind, read]
  rfl

/-- The two members are never the reason to refuse a reply for its form as a whole. -/
theorem verdict_ne_response (analysis : Option Bool) (content : Option (Option String))
    (expected : String) : verdict analysis content ≠ .error (.wrongType "response" expected) := by
  unfold verdict
  split
  case h_5 text => cases Text.isBlankText text <;> simp
  all_goals simp [Request.contentMember]

/-- No reply is refused for a block that is no object. -/
theorem ofReply_ne_response (reply expected : String) :
    ofReply reply ≠ .error (.wrongType "response" expected) := by
  intro refused
  -- there is no block, or it is not read, or it is an object that the two members decide
  cases searched : block reply with
  | error refusal =>
    simp only [ofReply, searched, bind, Except.bind, Except.error.injEq] at refused
    subst refused
    unfold block at searched
    split at searched <;> cases searched
  | ok found =>
    cases read : Json.read found with
    | error fault =>
      rw [malformed_of_not_read searched read] at refused
      cases refused
    | ok value =>
      have decided := (judged searched read).decided
      rw [refused] at decided
      exact verdict_ne_response _ _ expected decided.symm

/-- **Two members decide a contract.** When the block of a reply is JSON within the limits of the
reader, it is an object, the reply is judged by its `analysis` and its content alone, and each
section is what it was decoded to or empty; so two such replies that agree on these members are
accepted with the same file or refused for the same reason. JSON beyond the limits is refused as
malformed. -/
theorem members_decide :
    (∀ (reply found : String) (value : Json), block reply = .ok found →
      Json.readAnything found = some value →
        (Within maxDepth value → Judged reply value) ∧
        (¬ Within maxDepth value →
          ∃ fault, ofReply reply = .error (.malformed fault found.toList))) ∧
      (∀ reply expected : String, ofReply reply ≠ .error (.wrongType "response" expected)) ∧
      ∀ (reply other found otherFound : String) (value otherValue : Json),
        block reply = .ok found → Json.readAnything found = some value →
        Within maxDepth value →
        block other = .ok otherFound → Json.readAnything otherFound = some otherValue →
        Within maxDepth otherValue →
        analysisKind value = analysisKind otherValue →
        contentText value = contentText otherValue →
          (ofReply reply).map (·.updatedContent) = (ofReply other).map (·.updatedContent) := by
  have read {found : String} {value : Json} (given : Json.readAnything found = some value)
      (within : Within maxDepth value) : Json.read found = .ok value :=
    Json.read_eq_ok_iff.mpr ⟨given, within⟩
  refine ⟨fun reply found value searched given => ⟨fun within => ?_, fun beyond => ?_⟩,
    ofReply_ne_response, fun reply other found otherFound value otherValue searched given within
      searched' given' within' analysis content => ?_⟩
  · exact judged searched (read given within)
  · cases refused : Json.read found with
    | error fault => exact ⟨fault, malformed_of_not_read searched refused⟩
    | ok taken =>
      -- what the strict reader takes is the value, so it would be within the limits
      obtain ⟨same, within⟩ := Json.read_eq_ok_iff.mp refused
      rw [given] at same
      cases same
      exact absurd within beyond
  · rw [(judged searched (read given within)).decided,
      (judged searched' (read given' within')).decided, analysis, content]

/-! ## Odd values and deep ones

Two values show that the sections do not matter, and a third one shows that the limits of the
reader do: a text may open 127 containers at once, and the next one makes it unreadable. That is a
property of the reader and not of the contract, which is why the theorem names it as a condition.
-/

/-- An analysis with a negative count, and fixes that are no record. -/
def oddValue : Json :=
  .object [("analysis", .object [("total_errors", .integer (-1))]), ("fixes", .string "none"),
    (Request.contentMember, .string " x ")]

def plainValue : Json :=
  .object [(Request.contentMember, .string " x "), ("analysis", .object [])]

theorem read_oddValue : Json.read oddValue.render = .ok oddValue := by
  have exact : Exact 2 oddValue := by
    simp [oddValue, Exact.integer (show Json.Fits (-1) from ⟨by decide, by decide⟩)]
  exact Json.read_render (exact.mono (by decide))

theorem read_plainValue : Json.read plainValue.render = .ok plainValue := by
  have exact : Exact 2 plainValue := by simp [plainValue]
  exact Json.read_render (exact.mono (by decide))

/-- Arrays, one in the other; the innermost is empty. -/
def nested : Nat → Json
  | 0 => .array []
  | inner + 1 => .array [nested inner]

/-- 128 containers are open at once: the object, its analysis and the arrays in that. -/
def deepValue : Json :=
  .object [("analysis", .object [("a", nested 125)]), (Request.contentMember, .string "x")]

theorem exact_nested (inner : Nat) : Exact (inner + 1) (nested inner) := by
  induction inner with
  | zero => exact .array (List.forall_mem_nil _)
  | succ inner ih => exact .array (List.forall_mem_singleton.mpr ih)

theorem allTexts_nested (inner : Nat) : AllTexts Balanced (nested inner) := by
  induction inner with
  | zero => exact .array (List.forall_mem_nil _)
  | succ inner ih => exact .array (List.forall_mem_singleton.mpr ih)

theorem lt_of_within_nested {inner depth : Nat} (within : Within depth (nested inner)) :
    inner < depth := by
  induction inner generalizing depth with
  | zero =>
    cases within
    exact Nat.succ_pos _
  | succ inner ih =>
    cases within with
    | array each => exact Nat.succ_lt_succ (ih (List.forall_mem_singleton.mp each))

theorem readAnything_deepValue : Json.readAnything deepValue.render = some deepValue := by
  have exact : Exact 128 deepValue := by simp [deepValue, exact_nested]
  exact Json.readAnything_render exact

theorem not_within_deepValue : ¬ Within maxDepth deepValue := by
  have member {depth : Nat} {m : String × Json} {members : List (String × Json)}
      (within : Within (depth + 1) (.object members)) (mem : m ∈ members) : Within depth m.2 := by
    cases within with
    | object each => exact each m mem
  intro within
  have analysis : Within 126 (.object [("a", nested 125)]) := member within List.mem_cons_self
  exact absurd (lt_of_within_nested (member analysis List.mem_cons_self)) (by decide)

/-- The text of an object is a block when the braces of each of its strings balance. -/
theorem block_render {members : List (String × Json)}
    (texts : AllTexts Balanced (.object members)) :
    block (Json.object members).render = .ok (Json.object members).render := by
  obtain ⟨inner, shape, balanced⟩ := write_object members
  have text : (Json.object members).render.toList = openBrace :: (inner ++ [closeBrace]) := by
    rw [Json.render, String.toList_ofList, shape]
  have plain : closeBrace ∉ "".toList := List.not_mem_nil
  cases texts with
  | object names each =>
    have isBlock : IsBlock (Json.object members).render.toList := by
      rw [text]
      exact (balanced fun m mem => ⟨names m mem, balanced_write (each m mem)⟩).isBlock
    have found := (block_part_iff text "" plain).mpr isBlock
    rwa [String.empty_append, String.append_empty] at found

/-- The deep value is found in its text, so it is the reader that refuses it. -/
theorem block_deepValue : block deepValue.render = .ok deepValue.render := by
  have analysis : AllTexts Balanced (.object [("a", nested 125)]) :=
    allTexts_record ["a"] (by decide) rfl (List.forall_mem_singleton.mpr (allTexts_nested 125))
  have content : AllTexts Balanced (.string "x") := .string (BraceFree.balanced (by decide))
  exact block_render (allTexts_record ["analysis", Request.contentMember] (by decide) rfl
    (List.forall_mem_cons.mpr ⟨analysis, List.forall_mem_singleton.mpr content⟩))

/-- A negative count and fixes of another shape change nothing about the file, and a reply that
opens too many containers is malformed. -/
theorem members_decide_odd :
    Judged ("Done: " ++ oddValue.render) oddValue ∧
      (ofReply ("Done: " ++ oddValue.render)).map (·.updatedContent) =
        (ofReply plainValue.render).map (·.updatedContent) ∧
      ∃ fault, ofReply deepValue.render = .error (.malformed fault deepValue.render.toList) := by
  obtain ⟨judges, -, compares⟩ := members_decide
  have odd : block ("Done: " ++ oddValue.render) = .ok oddValue.render :=
    block_eq_ok_iff.mpr (by decide +kernel)
  have plain : block plainValue.render = .ok plainValue.render :=
    block_eq_ok_iff.mpr (by decide +kernel)
  obtain ⟨given, within⟩ := Json.read_eq_ok_iff.mp read_oddValue
  obtain ⟨given', within'⟩ := Json.read_eq_ok_iff.mp read_plainValue
  exact ⟨(judges _ _ _ odd given).1 within,
    compares _ _ _ _ _ _ odd given within plain given' within' rfl rfl,
    (judges _ _ _ block_deepValue readAnything_deepValue).2 not_within_deepValue⟩

/-- Without the limits of the reader, a value that can be used would not be refused. -/
theorem members_decide_nested :
    ¬ ∀ (reply found : String) (value : Json), block reply = .ok found →
      Json.readAnything found = some value →
        ((∃ contract, ofReply reply = .ok contract) ↔ Usable value) := by
  intro decides
  have usable : Usable deepValue := ⟨⟨_, rfl⟩, "x", rfl, by decide⟩
  obtain ⟨contract, accepted⟩ :=
    (decides _ _ _ block_deepValue readAnything_deepValue).mpr usable
  cases refused : Json.read deepValue.render with
  | error fault =>
    rw [malformed_of_not_read block_deepValue refused] at accepted
    cases accepted
  | ok other =>
    obtain ⟨same, within⟩ := Json.read_eq_ok_iff.mp refused
    rw [readAnything_deepValue] at same
    cases same
    exact not_within_deepValue within

end AzcRepair.Contract
