import AzcRepair.Proofs.Violation.Message

/-!
# Reading a violation log back

A log is a build output of its own: each of its lines is a code, a colon, a blank and a message. The
marker at the start of a line is the leftmost one, whatever the message holds, so a line is read as
the record that it was written for.

* `Loggable` — the records that a log can hold.
* `leftmost_of_at?` — a marker at the start of a text is its leftmost one; `ofLine?_line` — what a
  line reports.
* `reports_log` — a log has one report for each record.
* `withoutRepeats_eq` — equal lines are lines of equal records, so dropping repeated lines drops
  repeated records.
* `extract_log` — what is extracted from a log are its records.
-/

namespace AzcRepair.Violation

/-- A record that stands in a log as it is: its code is `AZC` and four decimal digits, and its message
is a trimmed text in one line that does not end in a project in brackets. -/
structure Loggable (record : Violation) : Prop where
  code : IsUpperCode record.code.toList
  trimmed : Text.trim record.message.toList = record.message.toList
  oneLine : '\n' ∉ record.message.toList
  bare : ¬ ∃ before, Marker.IsBefore before record.message.toList

variable {record : Violation}

theorem loggable_iff : Loggable record ↔
    record.code.toList.take 3 = ['A', 'Z', 'C'] ∧ (record.code.toList.drop 3).length = 4 ∧
      (record.code.toList.drop 3).all Text.isDecimalDigit = true ∧
      Text.trim record.message.toList = record.message.toList ∧ '\n' ∉ record.message.toList ∧
      Marker.beforeProject? record.message.toList = none := by
  rw [Marker.beforeProject?_eq_none_iff, List.all_eq_true]
  constructor
  · intro h
    obtain ⟨digits, hcode, hlength, hdigits⟩ := h.code
    rw [hcode]
    exact ⟨rfl, hlength, hdigits, h.trimmed, h.oneLine, h.bare⟩
  · rintro ⟨hletters, hlength, hdigits, htrimmed, hline, hbare⟩
    refine ⟨⟨record.code.toList.drop 3, ?_, hlength, hdigits⟩, htrimmed, hline, hbare⟩
    have hcut := List.take_append_drop 3 record.code.toList
    rw [hletters] at hcut
    exact hcut.symm

instance : DecidablePred Loggable := fun _ => decidable_of_iff' _ loggable_iff

/-! ## A single line

A line of the log begins with its code, so the marker at its start is the leftmost one. What
stands behind the colon is the message again, once the blank in front of it is trimmed. -/

theorem not_blank_last {text : List Char} (htrim : Text.trim text = text) {c : Char}
    (hlast : text.getLast? = some c) : Text.isBlank c = false := by
  rw [← htrim] at hlast
  exact Text.not_blank_last_trimEnd hlast

/-- The blanks in front of a text are trimmed with it. -/
theorem trim_cons_blank {c : Char} (hblank : Text.isBlank c = true) (text : List Char) :
    Text.trim (c :: text) = Text.trim text := by
  rw [Text.trim, Text.trimStart, List.dropWhile_cons_of_pos hblank]
  rfl

/-- A line without its outer blanks: the blank behind the colon goes when there is no message. -/
theorem Loggable.trim_line (h : Loggable record) :
    ∃ rest, Text.trim record.line.toList = record.code.toList ++ ':' :: rest ∧
      Text.trim rest = record.message.toList := by
  obtain ⟨digits, hcode, -, -⟩ := h.code
  have hhead (rest : List Char) (c : Char)
      (hc : (record.code.toList ++ ':' :: rest).head? = some c) : Text.isBlank c = false := by
    rw [hcode] at hc
    obtain rfl := Option.some.inj hc
    decide
  have hstart (rest : List Char) : Text.trimStart (record.code.toList ++ ':' :: rest) =
      record.code.toList ++ ':' :: rest := Text.trimStart_of_head (hhead rest)
  rw [toList_line, Text.trim, hstart]
  -- without a message the blank behind the colon is an outer one and is trimmed
  cases hmessage : record.message.toList with
  | nil =>
    refine ⟨[], ?_, rfl⟩
    have hline : record.code.toList ++ [':', ' '] = (record.code.toList ++ [':']) ++ [' '] := by simp
    rw [hline, Text.trimEnd_append_blank (by decide)]
    apply Text.trimEnd_of_last
    intro c hc
    rw [List.getLast?_concat] at hc
    obtain rfl := Option.some.inj hc
    decide
  | cons first others =>
    refine ⟨' ' :: first :: others, ?_, ?_⟩
    · apply Text.trimEnd_of_last
      intro c hc
      have hlast : (first :: others).getLast? = some c := by simpa [List.getLast?_append] using hc
      rw [← hmessage] at hlast
      exact not_blank_last h.trimmed hlast
    · rw [trim_cons_blank (by decide), ← hmessage, h.trimmed]

/-- The marker at the start of a text is its leftmost one. -/
theorem leftmost_of_at? {text : List Char} {marker : Marker} (h : Marker.at? text = some marker) :
    Marker.leftmost text = some marker := by
  cases text with
  | nil => cases h
  | cons c rest => simp [Marker.leftmost, Marker.leftmostFrom, h]

/-- The leftmost marker of a line is that of its record, and the message is read off what follows. -/
theorem Loggable.ofLine?_line (h : Loggable record) :
    Report.ofLine? record.line.toList = some ⟨Text.trim record.line.toList, record⟩ := by
  obtain ⟨rest, hline, hrest⟩ := h.trim_line
  have hat : Marker.at? (Text.trim record.line.toList) = some ⟨record.code.toList, rest⟩ :=
    Marker.at?_eq_some_iff.mpr ⟨hline, h.code.isCode⟩
  have hmessage : Marker.message ⟨record.code.toList, rest⟩ = record.message.toList := by
    rw [Marker.message_eq, hrest, Marker.beforeProject?_eq_none_iff.mpr h.bare, Option.getD_none,
      hrest]
  have hviolation : Marker.violation ⟨record.code.toList, rest⟩ = record := by
    rw [Marker.violation, hmessage, ofCode, Text.upperAscii, String.toList_ofList, h.code.upper,
      String.ofList_toList, String.ofList_toList]
  rw [Report.ofLine?, leftmost_of_at? hat, Option.map_some, hviolation]

theorem Loggable.line_oneLine (h : Loggable record) : '\n' ∉ record.line.toList := by
  have hcode : '\n' ∉ record.code.toList := by
    intro hmem
    have hblank := h.code.isCode.not_blank hmem
    exact absurd hblank (by decide)
  rw [toList_line]
  simp [hcode, h.oneLine]

/-! ## A log

Every line is closed by a line feed, and no record holds one; so the lines of the log are those of
the records. -/

/-- The report that the line of a record makes. -/
def Report.ofRecord (record : Violation) : Report :=
  ⟨Text.trim record.line.toList, record⟩

theorem toList_log_cons (record : Violation) (records : List Violation) :
    (log (record :: records)).toList = record.line.toList ++ '\n' :: (log records).toList := by
  simp [log, String.toList_join]

/-- A log has one report for each record, in order. -/
theorem reports_log {records : List Violation} (h : ∀ record ∈ records, Loggable record) :
    reports (log records).toList = records.map Report.ofRecord := by
  induction records with
  | nil => rfl
  | cons record records ih =>
    obtain ⟨hfirst, hothers⟩ := List.forall_mem_cons.mp h
    rw [toList_log_cons, reports_feed hfirst.line_oneLine, ih hothers, hfirst.ofLine?_line]
    rfl

/-! ## Repeated lines

Repeats are dropped by lines and not by records. In a log this makes no difference, because a line
can be read back. -/

/-- Where equal lines are lines of equal records, dropping repeated lines drops repeated records. -/
theorem withoutRepeats_eq {found : List Report}
    (h : ∀ one ∈ found, ∀ other ∈ found, one.line = other.line ↔ one.violation = other.violation)
    (seen : List (List Char)) : (withoutRepeats seen found).map (·.violation) =
      ((found.filter (·.line ∉ seen)).map (·.violation)).eraseDups := by
  induction found generalizing seen with
  | nil => rfl
  | cons report others ih =>
    have hothers : ∀ one ∈ others, ∀ other ∈ others,
        one.line = other.line ↔ one.violation = other.violation := fun one hone other hother =>
      h one (List.mem_cons_of_mem _ hone) other (List.mem_cons_of_mem _ hother)
    -- a report whose line was seen is dropped on both sides
    by_cases hseen : report.line ∈ seen
    · rw [withoutRepeats, if_pos hseen, ih hothers, List.filter_cons_of_neg (by simpa using hseen)]
    · rw [withoutRepeats, if_neg hseen, List.map_cons, ih hothers,
        List.filter_cons_of_pos (by simpa using hseen), List.map_cons, List.eraseDups_cons,
        List.filter_map, List.filter_filter]
      -- what is left of the others is the same, told by lines or by records
      congr 3
      apply List.filter_congr
      intro other hother
      have hsame := h other (List.mem_cons_of_mem _ hother) report List.mem_cons_self
      by_cases hline : other.line = report.line
      · simp [hline, hsame.mp hline]
      · simp [hline, mt hsame.mpr hline]

theorem violation_eq_of_line {line other : List Char} {one two : Report}
    (hone : Report.ofLine? line = some one) (htwo : Report.ofLine? other = some two)
    (hline : one.line = two.line) : one.violation = two.violation := by
  obtain ⟨marker, hmarker, rfl⟩ := Option.map_eq_some_iff.mp hone
  obtain ⟨marker', hmarker', rfl⟩ := Option.map_eq_some_iff.mp htwo
  have hline : Text.trim line = Text.trim other := hline
  rw [hline, hmarker'] at hmarker
  obtain rfl := Option.some.inj hmarker
  rfl

theorem line_eq_iff_of_log {records : List Violation}
    (h : ∀ record ∈ records, Loggable record) :
    ∀ one ∈ records.map Report.ofRecord, ∀ other ∈ records.map Report.ofRecord,
      one.line = other.line ↔ one.violation = other.violation := by
  intro one hone other hother
  obtain ⟨record, hrecord, rfl⟩ := List.mem_map.mp hone
  obtain ⟨record', hrecord', rfl⟩ := List.mem_map.mp hother
  constructor
  · exact violation_eq_of_line (h record hrecord).ofLine?_line (h record' hrecord').ofLine?_line
  · intro hsame
    have hsame : record = record' := hsame
    rw [hsame]

/-- **A violation log can be read back.** What is extracted from a log, repeats kept, are the records
that it was written for, in order; without repeated lines it is these records without the later ones
of several equal records. -/
theorem extract_log {records : List Violation} (h : ∀ record ∈ records, Loggable record) :
    extract .keepAll (log records) = records ∧
      extract .firstOccurrence (log records) = records.eraseDups := by
  have hback : (records.map Report.ofRecord).map (·.violation) = records := by
    rw [List.map_map]
    exact List.map_id _
  constructor
  · show (reports (log records).toList).map (·.violation) = records
    rw [reports_log h, hback]
  · show (withoutRepeats [] (reports (log records).toList)).map (·.violation) = records.eraseDups
    have hall : (records.map Report.ofRecord).filter (·.line ∉ ([] : List (List Char))) =
        records.map Report.ofRecord := by simp
    rw [reports_log h, withoutRepeats_eq (line_eq_iff_of_log h), hall, hback]

/-- Records that look like other lines: a message that begins with a marker and holds brackets and a
return, one that is empty, digits of another script, and a record that comes again. -/
def trickyRecords : List Violation :=
  [⟨"AZC0012", "azc0030: [x.csproj] \r[y.csproj"⟩, ⟨"AZC0030", ""⟩, ⟨"AZC٠٠١٢", "Å:"⟩,
    ⟨"AZC0030", ""⟩]

theorem extract_log_tricky :
    (∀ record ∈ trickyRecords, Loggable record) ∧
      extract .keepAll (log trickyRecords) = trickyRecords ∧
      extract .firstOccurrence (log trickyRecords) = trickyRecords.take 3 := by
  have hloggable : ∀ record ∈ trickyRecords, Loggable record := by decide +kernel
  obtain ⟨hall, hfirst⟩ := extract_log hloggable
  exact ⟨hloggable, hall, hfirst.trans (by decide +kernel)⟩

end AzcRepair.Violation
