import AzcRepair.Proofs.Violation.Findings
import AzcRepair.Request

/-!
# From a build output to a request

What a remediation request asks for, told from the lines of the build output. Every line that is kept
is answered by the strategies of its code, in registration order, and by nothing else.

* `Strategy.IsFor` — a strategy is for a code as it was written; `Strategy.handles_iff` says that the
  strategies of a violation are those.
* `Strategy.instruction_eq` — an instruction carries its message between two fixed texts.
* `instructionsFor` — the instructions for a finding; `fragments_violation` says that these are the
  fragments of its violation.
* `allFragments_filter` — violations that no strategy is for may be dropped.
* `remediation_composed` — the request for a build output.
-/

namespace AzcRepair

open Violation (Finding IsCode IsUpperCode Kept Repeats)

namespace Strategy

/-! ## Strategies of a code

A registry compares codes without regard to case, and after trimming. A code that was extracted is
in upper case and has no blanks, so the comparison comes down to equality. -/

/-- The strategy is for this code of a line, in whatever case the code is written. -/
def IsFor (strategy : Strategy) (code : List Char) : Prop :=
  strategy.code.toList = code.map Char.toUpper

instance (strategy : Strategy) (code : List Char) : Decidable (strategy.IsFor code) :=
  inferInstanceAs (Decidable (_ = _))

theorem isUpperCode_code (strategy : Strategy) : IsUpperCode strategy.code.toList := by
  have hcut : strategy.code.toList = 'A' :: 'Z' :: 'C' :: strategy.code.toList.drop 3 := by
    cases strategy <;> decide
  have hlength : (strategy.code.toList.drop 3).length = 4 := by cases strategy <;> decide
  have hdigits : (strategy.code.toList.drop 3).all Text.isDecimalDigit = true := by
    -- the codes are seven characters each, so all of this is computed
    cases strategy <;> decide +kernel
  exact ⟨_, hcut, hlength, List.all_eq_true.mp hdigits⟩

theorem trim_of_isCode {code : List Char} (h : IsCode code) : Text.trim code = code := by
  have hstart : Text.trimStart code = code :=
    Text.trimStart_of_head fun c hc => h.not_blank (List.mem_of_mem_head? hc)
  have hend : Text.trimEnd code = code :=
    Text.trimEnd_of_last fun c hc => h.not_blank (List.mem_of_mem_getLast? hc)
  rw [Text.trim, hstart, hend]

/-- The strategies of a violation are for the code of its line. -/
theorem handles_iff {strategy : Strategy} {code : List Char} (h : IsCode code) :
    strategy.handles (String.ofList (code.map Char.toUpper)) = true ↔ strategy.IsFor code := by
  have hupper : IsUpperCode (code.map Char.toUpper) := h.upper
  unfold handles Text.sameIgnoringCase IsFor
  rw [beq_iff_eq, ← String.toList_inj, Text.toList_lowerAscii, Text.toList_lowerAscii,
    Text.toList_trimmed, String.toList_ofList, trim_of_isCode hupper.isCode,
    strategy.isUpperCode_code.lower_inj hupper]

/-! ## Instructions

An instruction is built around the message, which it trims. The message of a finding is already
trimmed. -/

/-- What stands in front of the message in an instruction. -/
def opening (strategy : Strategy) : String :=
  "#### Fix " ++ strategy.code ++ "\nError: "

/-- What stands behind the message. -/
def closing (strategy : Strategy) : String :=
  "\n\n" ++ strategy.guidance

/-- An instruction carries a trimmed message as it is, between two texts of the strategy. -/
theorem instruction_eq (strategy : Strategy) {message : List Char}
    (htrim : Text.trim message = message) :
    strategy.instruction (String.ofList message) =
      strategy.opening ++ String.ofList message ++ strategy.closing := by
  unfold instruction opening closing Text.trimmed
  rw [String.toList_ofList, htrim]
  exact String.append_assoc

end Strategy

namespace Request

/-! ## Instructions for a finding

A finding is what the regular expressions take from one line, a violation what is made of it. The
request is composed of violations; these lemmas tell the same of findings, so that the result can
be read off the lines. -/

/-- The instructions for a finding: one for each registered strategy of its code, in registration
order, with its message. -/
def instructionsFor (registry : Registry) (finding : Finding) : List String :=
  (registry.strategies.filter (·.IsFor finding.marker.code)).map fun strategy =>
    strategy.opening ++ String.ofList finding.message ++ strategy.closing

/-- The fragments of a violation are the instructions for the finding that it was made of. -/
theorem fragments_violation (registry : Registry) {line : List Char} {finding : Finding}
    (h : finding.Of line) :
    fragments registry finding.violation = instructionsFor registry finding := by
  have hstrategies : registry.strategiesFor finding.violation.code =
      registry.strategies.filter (·.IsFor finding.marker.code) := by
    apply List.filter_congr
    intro strategy _
    rw [Bool.eq_iff_iff, decide_eq_true_iff]
    exact Strategy.handles_iff h.isCode
  rw [fragments, instructionsFor, hstrategies]
  apply List.map_congr_left
  intro strategy _
  exact strategy.instruction_eq h.trimmed

theorem allFragments_findings (registry : Registry) {repeats : Repeats}
    {seen lines : List (List Char)} {findings : List Finding}
    (h : Kept repeats seen lines findings) :
    allFragments registry (findings.map (·.violation)) =
      findings.flatMap (instructionsFor registry) := by
  -- fragment by fragment, since every finding that is kept is one of a line
  have heach : findings.map (fun finding => fragments registry finding.violation) =
      findings.map (instructionsFor registry) := by
    apply List.map_congr_left
    intro finding hfinding
    obtain ⟨line, -, hof⟩ := h.of_mem hfinding
    exact fragments_violation registry hof
  rw [allFragments, List.flatMap_map, List.flatMap_def, heach, List.flatMap_def]

/-! ## Violations that no strategy is for

A violation with no strategy has no fragments, so a list may be thinned before it is composed. -/

/-- Of the violations that no strategy is for, any may be dropped. -/
theorem allFragments_filter (registry : Registry) (keep : Violation → Bool)
    (violations : List Violation) :
    allFragments registry (violations.filter fun v => registry.canHandle v.code || keep v) =
      allFragments registry violations := by
  induction violations with
  | nil => rfl
  | cons violation others ih =>
    have hcons (rest : List Violation) : allFragments registry (violation :: rest) =
        fragments registry violation ++ allFragments registry rest := List.flatMap_cons
    rw [hcons, ← ih]
    -- a dropped violation has no strategy, hence no fragments
    cases hkept : registry.canHandle violation.code || keep violation with
    | true => rw [List.filter_cons_of_pos (by simpa using hkept), hcons]
    | false =>
      have hunhandled : registry.canHandle violation.code = false :=
        (Bool.or_eq_false_iff.mp hkept).1
      rw [List.filter_cons_of_neg (by simp [hkept]), fragments_eq_nil hunhandled, List.nil_append]

/-- **From a build output to a request.** The lines of a build output that are kept, under either
policy, are determined, and each has a leftmost marker and a cleaned message. The body of the request
for the violations that are extracted is the preamble, then for each of these lines in order, and for
each registered strategy of its code in registration order, one instruction with this message, then
the mandate. Violations that no strategy is for may be dropped from a list, some or all, without a
change to the request. The fragments of two lists together are those of the first and then those of
the second. -/
theorem remediation_composed :
    (∀ (output : String) (repeats : Repeats) (registry : Registry), ∃ lines findings,
        Text.Lines output.toList lines ∧
        (∀ others, Kept repeats [] lines others ↔ others = findings) ∧
        (remediation (Violation.extract repeats output) registry).body =
          preamble ++ "\n\n" ++ String.join
            ((findings.flatMap (instructionsFor registry)).map (· ++ "\n\n")) ++ mandate) ∧
      (∀ (violations : List Violation) (registry : Registry) (keep : Violation → Bool),
        remediation (violations.filter fun v => registry.canHandle v.code || keep v) registry =
          remediation violations registry) ∧
      ∀ (first second : List Violation) (registry : Registry),
        allFragments registry (first ++ second) =
          allFragments registry first ++ allFragments registry second := by
  refine ⟨?_, ?_, ?_⟩
  · intro output repeats registry
    obtain ⟨findings, hkept, hextract⟩ := Violation.exists_kept repeats output
    refine ⟨Text.lines output.toList, findings, Text.lines_spec _, ?_, ?_⟩
    · intro others
      exact ⟨fun h => hkept.unique h, fun h => h ▸ hkept⟩
    · rw [hextract, remediation, allFragments_findings registry hkept]
  · intro violations registry keep
    rw [remediation, allFragments_filter, ← remediation]
  · intro first second registry
    exact allFragments_append registry first second

end Request

end AzcRepair
