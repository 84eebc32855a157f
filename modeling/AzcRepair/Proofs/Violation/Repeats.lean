import AzcRepair.Proofs.Violation.Findings
import AzcRepair.Proofs.Violation.Log
import Mathlib.Data.List.Induction

/-!
# Repeated lines

What is left of the reports of a build output when repeated lines are dropped, said from left to
right: a further report is dropped exactly when its line is that of a report before it. Reports of
one line are the same, so no violation is lost, and a text that comes again adds nothing.

* `Reports` — the reports of lines; `reports_iff` says that they are the ones that are found.
* `Thinned` — the reports without those of repeated lines; `thinned_iff` says that they are the ones
  that are kept.
* `withoutRepeats_append` — what is kept of reports that go on: the lines before count as seen.
* `repeats_dropped` — the two policies side by side, and outputs that are repeated as a whole.
-/

namespace AzcRepair.Violation

/-! ## Reports of lines

Each line reports at most once, and what it reports depends on the line alone. -/

/-- The report of a line: the line without its outer blanks, and the violation that is found in it.
-/
structure Report.Of (line : List Char) (report : Report) : Prop where
  trimmed : report.line = Text.trim line
  found : ∃ finding : Finding, finding.Of (Text.trim line) ∧ report.violation = finding.violation

/-- The reports of lines in their order: one for every line in which a marker stands. -/
inductive Reports : List (List Char) → List Report → Prop
  | nil : Reports [] []
  | reported {line : List Char} {lines : List (List Char)} {report : Report} {found : List Report}
    (here : report.Of line) (more : Reports lines found) : Reports (line :: lines) (report :: found)
  | silent {line : List Char} {lines : List (List Char)} {found : List Report}
    (unmarked : ¬ Marked (Text.trim line)) (more : Reports lines found) :
    Reports (line :: lines) found

variable {report : Report} {found kept : List Report} {seen : List (List Char)}

theorem Report.of_iff {line : List Char} : report.Of line ↔ Report.ofLine? line = some report := by
  constructor
  · rintro ⟨hline, finding, hof, hviolation⟩
    rw [hof.ofLine?, ← hline, ← hviolation]
  · intro h
    obtain ⟨marker, hmarker, rfl⟩ := Option.map_eq_some_iff.mp h
    have hof : Finding.Of (Text.trim line) ⟨marker, marker.message⟩ :=
      Finding.of_iff.mpr ⟨hmarker, rfl⟩
    have hsame := hof.ofLine?
    rw [h] at hsame
    exact ⟨rfl, _, hof, congrArg Report.violation (Option.some.inj hsame)⟩

/-- The reports that are found are those of the lines. -/
theorem reports_iff {lines : List (List Char)} :
    Reports lines found ↔ found = lines.filterMap Report.ofLine? := by
  constructor
  · intro h
    induction h with
    | nil => rfl
    | reported here _ ih => rw [List.filterMap_cons_some (Report.of_iff.mp here), ← ih]
    | silent unmarked _ ih =>
      have hpassed := (ofLine?_eq_none_iff _).mpr (mt (marked_trim _).mpr unmarked)
      rw [List.filterMap_cons_none hpassed, ← ih]
  · rintro rfl
    induction lines with
    | nil => exact .nil
    | cons line lines ih =>
      cases hline : Report.ofLine? line with
      | none =>
        have hunmarked := (ofLine?_eq_none_iff line).mp hline
        rw [List.filterMap_cons_none hline]
        exact .silent (mt (marked_trim line).mp hunmarked) ih
      | some report =>
        rw [List.filterMap_cons_some hline]
        exact .reported (Report.of_iff.mpr hline) ih

/-! ## Lines that were seen

Dropping repeats carries the lines that were seen along from left to right. Only which lines these
are matters. -/

/-- The lines of reports. -/
def linesOf (found : List Report) : List (List Char) :=
  found.map (·.line)

/-- It does not matter in which order lines were seen, nor how often. -/
theorem withoutRepeats_congr {one other : List (List Char)}
    (h : ∀ line, line ∈ one ↔ line ∈ other) (found : List Report) :
    withoutRepeats one found = withoutRepeats other found := by
  induction found generalizing one other with
  | nil => rfl
  | cons report others ih =>
    by_cases hseen : report.line ∈ one
    · rw [withoutRepeats, withoutRepeats, if_pos hseen, if_pos ((h _).mp hseen), ih h]
    · have hadd : ∀ line, line ∈ report.line :: one ↔ line ∈ report.line :: other := by
        intro line
        rw [List.mem_cons, List.mem_cons, h line]
      rw [withoutRepeats, withoutRepeats, if_neg hseen, if_neg (mt (h _).mpr hseen), ih hadd]

/-- What is kept of reports that go on: the lines of the first ones count as seen. -/
theorem withoutRepeats_append (seen : List (List Char)) (first second : List Report) :
    withoutRepeats seen (first ++ second) =
      withoutRepeats seen first ++ withoutRepeats (seen ++ linesOf first) second := by
  induction first generalizing seen with
  | nil =>
    rw [List.nil_append, linesOf, List.map_nil, List.append_nil]
    rfl
  | cons report first ih =>
    rw [List.cons_append, withoutRepeats, withoutRepeats]
    -- the first report is dropped or kept, and its line counts as seen either way
    by_cases hseen : report.line ∈ seen
    · rw [if_pos hseen, if_pos hseen, ih]
      congr 1
      apply withoutRepeats_congr
      intro line
      -- the line of the report that is dropped is among those that were seen
      simp only [linesOf, List.map_cons, List.mem_append, List.mem_cons]
      constructor
      · rintro (h | h)
        · exact .inl h
        · exact .inr (.inr h)
      · rintro (h | rfl | h)
        · exact .inl h
        · exact .inl hseen
        · exact .inr h
    · rw [if_neg hseen, if_neg hseen, ih, List.cons_append]
      congr 2
      apply withoutRepeats_congr
      intro line
      simp only [linesOf, List.map_cons, List.mem_append, List.mem_cons, or_left_comm]

theorem withoutRepeats_of_seen (h : ∀ line ∈ linesOf found, line ∈ seen) :
    withoutRepeats seen found = [] := by
  induction found with
  | nil => rfl
  | cons report others ih =>
    obtain ⟨hfirst, hothers⟩ := List.forall_mem_cons.mp h
    rw [withoutRepeats, if_pos hfirst, ih hothers]

/-! ## What is kept

`Thinned` grows at the end, where it is easy to say what came before; the search goes from the
front. `withoutRepeats_concat` connects the two. -/

/-- The reports without those of repeated lines: a further report is dropped exactly when its line
is that of a report before it. -/
inductive Thinned : List Report → List Report → Prop
  | nil : Thinned [] []
  | first {found kept : List Report} {report : Report} (new : report.line ∉ linesOf found)
    (before : Thinned found kept) : Thinned (found ++ [report]) (kept ++ [report])
  | again {found kept : List Report} {report : Report} (repeated : report.line ∈ linesOf found)
    (before : Thinned found kept) : Thinned (found ++ [report]) kept

theorem withoutRepeats_concat (found : List Report) (report : Report) :
    withoutRepeats [] (found ++ [report]) =
      withoutRepeats [] found ++ if report.line ∈ linesOf found then [] else [report] := by
  rw [withoutRepeats_append, List.nil_append]
  rfl

/-- The reports that are kept are those without repeated lines. -/
theorem thinned_iff : Thinned found kept ↔ kept = withoutRepeats [] found := by
  constructor
  · intro h
    induction h with
    | nil => rfl
    | first new _ ih => rw [withoutRepeats_concat, if_neg new, ← ih]
    | again repeated _ ih => rw [withoutRepeats_concat, if_pos repeated, List.append_nil, ← ih]
  · rintro rfl
    -- the induction is on the last report, as in the definition
    induction found using List.reverseRecOn with
    | nil => exact .nil
    | append_singleton found report ih =>
      rw [withoutRepeats_concat]
      split
      · next repeated =>
        rw [List.append_nil]
        exact .again repeated ih
      · next new => exact .first new ih

theorem Thinned.sublist (h : Thinned found kept) : kept.Sublist found := by
  induction h with
  | nil => exact .slnil
  | first _ _ ih => exact ih.append (.refl _)
  | again _ _ ih => exact ih.trans (List.sublist_append_left _ _)

theorem Thinned.mem_linesOf_iff (h : Thinned found kept) (line : List Char) :
    line ∈ linesOf kept ↔ line ∈ linesOf found := by
  have hconcat (reports : List Report) (report : Report) :
      linesOf (reports ++ [report]) = linesOf reports ++ [report.line] := List.map_append
  induction h with
  | nil => exact Iff.rfl
  | first _ _ ih => simp only [hconcat, List.mem_append, ih]
  | again repeated _ ih =>
    rw [hconcat, List.mem_append, List.mem_singleton, or_iff_left_of_imp]
    · exact ih
    · rintro rfl
      exact repeated

/-- Every violation is still there, because lines that are the same report the same. -/
theorem Thinned.mem_violations_iff {lines : List (List Char)} (h : Thinned found kept)
    (hfound : Reports lines found) (violation : Violation) :
    violation ∈ kept.map (·.violation) ↔ violation ∈ found.map (·.violation) := by
  have hlines : ∀ report ∈ found, ∃ line, Report.ofLine? line = some report := by
    rw [reports_iff.mp hfound]
    intro report hreport
    obtain ⟨line, -, hline⟩ := List.mem_filterMap.mp hreport
    exact ⟨line, hline⟩
  constructor
  · intro hkept
    exact (h.sublist.map _).subset hkept
  · intro hall
    obtain ⟨report, hreport, rfl⟩ := List.mem_map.mp hall
    have hline : report.line ∈ linesOf kept :=
      (h.mem_linesOf_iff _).mpr (List.mem_map_of_mem hreport)
    obtain ⟨other, hother, hsame⟩ := List.mem_map.mp hline
    obtain ⟨line, hof⟩ := hlines report hreport
    obtain ⟨line', hof'⟩ := hlines other (h.sublist.subset hother)
    rw [violation_eq_of_line hof hof' hsame.symm]
    exact List.mem_map_of_mem hother

/-! ## Outputs that are repeated

A second copy of an output reports nothing but lines that were seen in the first. -/

/-- Copies of a text, one below the other, have the reports of the text as often. -/
theorem reports_copies (raw : String) (k : Nat) :
    reports ("\n".intercalate (List.replicate (k + 1) raw)).toList =
      (List.replicate (k + 1) (reports raw.toList)).flatten := by
  induction k with
  | zero => simp
  | succ k ih =>
    rw [List.replicate_succ] at ih
    rw [List.replicate_succ, List.replicate_succ, String.intercalate_cons_cons,
      List.replicate_succ, List.flatten_cons, ← ih, String.append_assoc, String.toList_append,
      String.toList_append]
    exact reports_append _ _

/-- Reports that come again are all dropped. -/
theorem withoutRepeats_copies (found : List Report) (k : Nat) :
    withoutRepeats [] (List.replicate (k + 1) found).flatten = withoutRepeats [] found := by
  have hseen : ∀ line ∈ linesOf (List.replicate k found).flatten, line ∈ [] ++ linesOf found := by
    intro line hline
    obtain ⟨report, hreport, rfl⟩ := List.mem_map.mp hline
    obtain ⟨copy, hcopy, hin⟩ := List.mem_flatten.mp hreport
    rw [List.eq_of_mem_replicate hcopy] at hin
    exact List.mem_map_of_mem hin
  rw [List.replicate_succ, List.flatten_cons, withoutRepeats_append, withoutRepeats_of_seen hseen,
    List.append_nil]

/-- **Dropping repeated lines keeps the first of them, and nothing else is lost.** With repeats kept
the violations of a build output are those of its reports, and without repeats those of the reports
whose line, without its outer blanks, is that of no report before. They stand in the same order,
they are the same violations, and there are none under one policy exactly when there are none under
the other. An output that is repeated as a whole, one copy below the other, has no more of them. -/
theorem repeats_dropped :
    (∀ raw : String, ∃ lines found kept, Text.Lines raw.toList lines ∧ Reports lines found ∧
        Thinned found kept ∧ extract .keepAll raw = found.map (·.violation) ∧
        extract .firstOccurrence raw = kept.map (·.violation)) ∧
      (∀ raw : String, (extract .firstOccurrence raw).Sublist (extract .keepAll raw) ∧
        (∀ violation, violation ∈ extract .firstOccurrence raw ↔
          violation ∈ extract .keepAll raw) ∧
        (extract .firstOccurrence raw = [] ↔ extract .keepAll raw = [])) ∧
      ∀ (raw : String) (k : Nat),
        extract .firstOccurrence ("\n".intercalate (List.replicate (k + 1) raw)) =
          extract .firstOccurrence raw := by
  have hpolicies (raw : String) : ∃ lines found kept, Text.Lines raw.toList lines ∧
      Reports lines found ∧ Thinned found kept ∧
      extract .keepAll raw = found.map (·.violation) ∧
      extract .firstOccurrence raw = kept.map (·.violation) :=
    ⟨_, _, _, Text.lines_spec raw.toList, reports_iff.mpr rfl, thinned_iff.mpr rfl, rfl, rfl⟩
  refine ⟨hpolicies, fun raw => ?_, fun raw k => ?_⟩
  · obtain ⟨lines, found, kept, -, hfound, hkept, hall, hfirst⟩ := hpolicies raw
    have hmem := hkept.mem_violations_iff hfound
    rw [hall, hfirst]
    refine ⟨hkept.sublist.map _, hmem, ?_⟩
    simp only [List.eq_nil_iff_forall_not_mem, hmem]
  · show (withoutRepeats [] (reports _)).map (·.violation) = _
    rw [reports_copies, withoutRepeats_copies]
    rfl

/-- Lines are compared, not violations: a line that differs in the case of its code stays. -/
example : extract .firstOccurrence "AZC0012: a\r\n\n  AZC0012: a\t\nazc0012: a\r" =
    [⟨"AZC0012", "a"⟩, ⟨"AZC0012", "a"⟩] := by decide +kernel

end AzcRepair.Violation
