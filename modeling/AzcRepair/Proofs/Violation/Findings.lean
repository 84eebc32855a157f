import AzcRepair.Proofs.Violation.Message

/-!
# The lines that are kept

Which lines of a build output make a violation, and which violation each of them makes, said without
the functions that extract them. A line makes one when a marker stands in it, and, where repeats are
dropped, when no line above it is the same but for its outer blanks.

* `Finding`, `Finding.Of` — a marker and its message; they are those of a line. `Finding.of_iff` says
  that this is what the search finds.
* `Kept` — the findings of lines, in their order; `Kept.unique` says that they are determined.
* `exists_kept` — what is extracted are the violations of the findings.
-/

namespace AzcRepair.Violation

/-- A marker in a line, and the message that remains of what follows it. -/
structure Finding where
  marker : Marker
  message : List Char

namespace Finding

/-- The marker is the leftmost one of the line, and the message is cleaned. -/
structure Of (line : List Char) (finding : Finding) : Prop where
  leftmost : ∃ before, finding.marker.StandsIn false line before ∧
    ∀ (other : Marker) (earlier : List Char), other.StandsIn false line earlier →
      before.length ≤ earlier.length
  cleaned : Marker.Cleaned finding.marker.rest finding.message

/-- The violation of a finding: its code is put into upper case. -/
def violation (finding : Finding) : Violation :=
  ⟨String.ofList (finding.marker.code.map Char.toUpper), String.ofList finding.message⟩

variable {line : List Char} {finding : Finding}

/-- Two markers at one place of a line are the same. -/
theorem eq_of_standsIn {one other : Marker} {before earlier : List Char}
    (hone : one.StandsIn false line before) (hother : other.StandsIn false line earlier)
    (hlength : before.length = earlier.length) : one = other := by
  obtain ⟨code, rest⟩ := one
  obtain ⟨code', rest'⟩ := other
  have hseven {code : List Char} (h : IsCode code) : code.length = 7 := by
    obtain ⟨a, z, c, digits, rfl, -, -, -, hfour, -⟩ := h
    simp [hfour]
  have hparts := hone.parts.symm.trans hother.parts
  obtain ⟨-, hmarkers⟩ := List.append_inj hparts hlength
  obtain ⟨hcode, hrest⟩ := List.append_inj hmarkers
    ((hseven hone.code).trans (hseven hother.code).symm)
  obtain rfl : code = code' := hcode
  obtain rfl : rest = rest' := (List.cons.inj hrest).2
  rfl

/-- The search finds the marker of a finding, and the message is the one that is taken. -/
theorem of_iff : finding.Of line ↔
    Marker.leftmost line = some finding.marker ∧ finding.message = finding.marker.message := by
  constructor
  · intro h
    obtain ⟨before, hstands, hfirst⟩ := h.leftmost
    refine ⟨?_, Marker.cleaned_iff.mp h.cleaned⟩
    -- a leftmost marker is found, and there is only one at its place
    cases hfound : Marker.leftmost line with
    | none => exact absurd ⟨finding.marker, before, hstands⟩ (leftmost_eq_none_iff.mp hfound)
    | some marker =>
      obtain ⟨earlier, hother, hearliest⟩ := Marker.leftmostFrom_eq_some hfound
      have hlength : earlier.length = before.length :=
        Nat.le_antisymm (hearliest _ _ hstands) (hfirst _ _ hother)
      rw [eq_of_standsIn hother hstands hlength]
  · intro h
    obtain ⟨hfound, hmessage⟩ := h
    exact ⟨Marker.leftmostFrom_eq_some hfound, Marker.cleaned_iff.mpr hmessage⟩

theorem Of.isCode (h : finding.Of line) : IsCode finding.marker.code := by
  obtain ⟨before, hstands, -⟩ := h.leftmost
  exact hstands.code

theorem Of.trimmed (h : finding.Of line) : Text.trim finding.message = finding.message := by
  rw [(of_iff.mp h).2, Marker.trim_message]

theorem Of.marked (h : finding.Of line) : Marked line := by
  obtain ⟨before, hstands, -⟩ := h.leftmost
  exact ⟨finding.marker, before, hstands⟩

theorem Of.unique {other : Finding} (h : finding.Of line) (h' : other.Of line) : other = finding := by
  obtain ⟨marker, message⟩ := finding
  obtain ⟨marker', message'⟩ := other
  obtain ⟨hmarker, hmessage⟩ := of_iff.mp h
  obtain ⟨hmarker', hmessage'⟩ := of_iff.mp h'
  obtain rfl := Option.some.inj (hmarker.symm.trans hmarker')
  rw [show message' = message from hmessage'.trans hmessage.symm]

/-- What a line reports is the violation of its finding. -/
theorem Of.ofLine? (h : finding.Of (Text.trim line)) :
    Report.ofLine? line = some ⟨Text.trim line, finding.violation⟩ := by
  obtain ⟨hmarker, hmessage⟩ := of_iff.mp h
  rw [Report.ofLine?, hmarker, Option.map_some, violation, hmessage, Marker.violation, ofCode,
    Text.upperAscii, String.toList_ofList]

end Finding

/-- The findings of lines in their order. Lines are compared without their outer blanks, and where
repeats are dropped, a line that was `seen` makes no finding. -/
inductive Kept (repeats : Repeats) :
    List (List Char) → List (List Char) → List Finding → Prop
  | nil {seen : List (List Char)} : Kept repeats seen [] []
  | silent {seen lines : List (List Char)} {line : List Char} {findings : List Finding}
      (unmarked : ¬ Marked (Text.trim line)) (more : Kept repeats seen lines findings) :
      Kept repeats seen (line :: lines) findings
  | repeated {seen lines : List (List Char)} {line : List Char} {findings : List Finding}
      (drops : repeats = .firstOccurrence) (again : Text.trim line ∈ seen)
      (more : Kept repeats seen lines findings) : Kept repeats seen (line :: lines) findings
  | found {seen lines : List (List Char)} {line : List Char} {finding : Finding}
      {findings : List Finding} (new : repeats = .firstOccurrence → Text.trim line ∉ seen)
      (here : finding.Of (Text.trim line))
      (more : Kept repeats (Text.trim line :: seen) lines findings) :
      Kept repeats seen (line :: lines) (finding :: findings)

variable {repeats : Repeats} {seen lines : List (List Char)} {findings : List Finding}

theorem Kept.unique {others : List Finding} (h : Kept repeats seen lines findings)
    (h' : Kept repeats seen lines others) : others = findings := by
  -- each line leads to the same case in both, for the cases exclude one another
  induction h generalizing others with
  | nil =>
    cases h'
    rfl
  | silent unmarked _ ih =>
    cases h' with
    | silent _ more => exact ih more
    | repeated _ _ more => exact ih more
    | found _ here _ => exact absurd here.marked unmarked
  | repeated drops again _ ih =>
    cases h' with
    | silent _ more => exact ih more
    | repeated _ _ more => exact ih more
    | found new _ _ => exact absurd again (new drops)
  | found new here _ ih =>
    cases h' with
    | silent unmarked _ => exact absurd here.marked unmarked
    | repeated drops again _ => exact absurd again (new drops)
    | found _ here' more => rw [here.unique here', ih more]

theorem Kept.of_mem (h : Kept repeats seen lines findings) {finding : Finding}
    (hmem : finding ∈ findings) : ∃ line ∈ lines, finding.Of (Text.trim line) := by
  induction h with
  | nil => cases hmem
  | silent _ _ ih | repeated _ _ _ ih =>
    obtain ⟨line, hline, hof⟩ := ih hmem
    exact ⟨line, List.mem_cons_of_mem _ hline, hof⟩
  | found _ here _ ih =>
    rcases List.mem_cons.mp hmem with rfl | hmem
    · exact ⟨_, List.mem_cons_self, here⟩
    · obtain ⟨line, hline, hof⟩ := ih hmem
      exact ⟨line, List.mem_cons_of_mem _ hline, hof⟩

/-! ## What is extracted

The extraction first collects the reports of all lines and then drops repeats. `Kept` does both in
one pass over the lines, and the induction is on these. -/

/-- The reports that a policy leaves, where some lines were seen before. -/
def select (repeats : Repeats) (seen : List (List Char)) (found : List Report) : List Report :=
  match repeats with
  | .keepAll => found
  | .firstOccurrence => withoutRepeats seen found

theorem extract_eq (repeats : Repeats) (output : String) :
    extract repeats output = (select repeats [] (reports output.toList)).map (·.violation) := by
  cases repeats <;> rfl

theorem select_cons_of_seen {report : Report} (drops : repeats = .firstOccurrence)
    (again : report.line ∈ seen) (others : List Report) :
    select repeats seen (report :: others) = select repeats seen others := by
  subst drops
  rw [select, select, withoutRepeats, if_pos again]

theorem select_cons_of_new {report : Report} (new : repeats = .firstOccurrence → report.line ∉ seen)
    (others : List Report) : select repeats seen (report :: others) =
      report :: select repeats (report.line :: seen) others := by
  cases repeats with
  | keepAll => rfl
  | firstOccurrence => rw [select, select, withoutRepeats, if_neg (new rfl)]

/-- Lines have findings, and what is selected from their reports are the violations of these. -/
theorem exists_kept_select (repeats : Repeats) (seen lines : List (List Char)) :
    ∃ findings, Kept repeats seen lines findings ∧
      (select repeats seen (lines.filterMap Report.ofLine?)).map (·.violation) =
        findings.map (·.violation) := by
  induction lines generalizing seen with
  | nil => exact ⟨[], .nil, by cases repeats <;> rfl⟩
  | cons line lines ih =>
    cases hmarker : Marker.leftmost (Text.trim line) with
    | none =>
      have hpassed : Report.ofLine? line = none := by rw [Report.ofLine?, hmarker]; rfl
      obtain ⟨findings, hkept, hsame⟩ := ih seen
      rw [List.filterMap_cons_none hpassed]
      exact ⟨findings, .silent (leftmost_eq_none_iff.mp hmarker) hkept, hsame⟩
    | some marker =>
      have hof : Finding.Of (Text.trim line) ⟨marker, marker.message⟩ :=
        Finding.of_iff.mpr ⟨hmarker, rfl⟩
      rw [List.filterMap_cons_some hof.ofLine?]
      -- the policy drops exactly the lines that were seen
      by_cases hrepeated : repeats = .firstOccurrence ∧ Text.trim line ∈ seen
      · obtain ⟨hdrops, hagain⟩ := hrepeated
        obtain ⟨findings, hkept, hsame⟩ := ih seen
        rw [select_cons_of_seen hdrops hagain]
        exact ⟨findings, .repeated hdrops hagain hkept, hsame⟩
      · have hnew : repeats = .firstOccurrence → Text.trim line ∉ seen :=
          fun hdrops hagain => hrepeated ⟨hdrops, hagain⟩
        obtain ⟨findings, hkept, hsame⟩ := ih (Text.trim line :: seen)
        rw [select_cons_of_new hnew, List.map_cons, hsame]
        exact ⟨_, .found hnew hof hkept, rfl⟩

/-- What is extracted from a build output are the violations of its findings. -/
theorem exists_kept (repeats : Repeats) (output : String) :
    ∃ findings, Kept repeats [] (Text.lines output.toList) findings ∧
      extract repeats output = findings.map (·.violation) := by
  obtain ⟨findings, hkept, hsame⟩ := exists_kept_select repeats [] (Text.lines output.toList)
  exact ⟨findings, hkept, by rw [extract_eq, reports, hsame]⟩

end AzcRepair.Violation
