import AzcRepair.Proofs.Violation.Repeats

/-!
# The project at the end of a line

The build ends a line with the project that it was building, in brackets. One such project is cut off
the text behind a marker, with the blanks in front of it, and whatever stands before them stays:
brackets, other projects, and blanks that are not at the end.

* `IsProject` — a project in brackets; `EndsLine` — a project with the blanks around it, which a
  search from left to right looks for.
* `isBefore_of_endsLine` — wherever the search succeeds, it finds the same project.
* `Stripped` — what is left of a text; `stripped_message` says that it is the message that is taken.
* `project_dropped` — the record of a line with a marker, in any build output.
-/

namespace AzcRepair.Violation

namespace Marker

/-! ## Projects

A search from left to right may begin at any of the blanks in front of a project. All of these
beginnings lead to the same project, the last one of the line. -/

/-- A project in brackets. Its name holds no bracket. -/
def IsProject (text : List Char) : Prop :=
  ∃ name, text = '[' :: (name ++ ".csproj]".toList) ∧ '[' ∉ name ∧ ']' ∉ name

/-- Blanks, a project in brackets, and blanks. -/
inductive EndsLine : List Char → Prop
  | around {front project back : List Char} (before : ∀ c ∈ front, Text.isBlank c = true)
    (isProject : IsProject project) (behind : ∀ c ∈ back, Text.isBlank c = true) :
    EndsLine (front ++ (project ++ back))

variable {before text project : List Char}

theorem isBefore_iff :
    IsBefore before text ↔ ∃ project, IsProject project ∧ text = before ++ project := by
  constructor
  · rintro ⟨name, htext, hopen, hclose⟩
    exact ⟨_, ⟨name, rfl, hopen, hclose⟩, htext⟩
  · rintro ⟨_, ⟨name, rfl, hopen, hclose⟩, htext⟩
    exact ⟨name, htext, hopen, hclose⟩

theorem IsProject.last (h : IsProject project) : project.getLast? = some ']' := by
  obtain ⟨name, rfl, -, -⟩ := h
  have hend : '[' :: (name ++ ".csproj]".toList) = ('[' :: (name ++ projectExtension)) ++ [']'] := by
    rw [extension_bracket]
    simp
  rw [hend, List.getLast?_concat]

/-- Behind a project nothing is trimmed but the blanks there. -/
theorem IsProject.trimEnd (h : IsProject project) (before : List Char) {back : List Char}
    (hback : ∀ c ∈ back, Text.isBlank c = true) :
    Text.trimEnd (before ++ project ++ back) = before ++ project := by
  rw [Text.trimEnd_append_blanks hback]
  apply Text.trimEnd_of_last
  intro c hc
  rw [List.getLast?_append, h.last] at hc
  obtain rfl : ']' = c := Option.some.inj hc
  decide

/-- Wherever a text is cut so that a project and blanks around it are left, the trimmed text ends in
that project, and nothing but blanks is between the cut and the project. -/
theorem isBefore_of_endsLine {rest kept cut : List Char} (hcut : Text.trimStart rest = kept ++ cut)
    (hends : EndsLine cut) :
    ∃ front, (∀ c ∈ front, Text.isBlank c = true) ∧ IsBefore (kept ++ front) (Text.trim rest) := by
  cases hends with
  | @around front project back hfront hproject hback =>
    have hparts : Text.trimStart rest = kept ++ front ++ project ++ back := by
      rw [hcut]
      simp
    have htrim : Text.trim rest = kept ++ front ++ project := by
      rw [Text.trim, hparts, hproject.trimEnd _ hback]
    exact ⟨front, hfront, isBefore_iff.mpr ⟨project, hproject, htrim⟩⟩

/-- A project at the end of a trimmed text is found from left to right. -/
theorem endsLine_of_isBefore {rest : List Char} (h : IsBefore before (Text.trim rest)) :
    ∃ cut, Text.trimStart rest = before ++ cut ∧ EndsLine cut := by
  obtain ⟨project, hproject, htrim⟩ := isBefore_iff.mp h
  obtain ⟨back, hwhole, hback⟩ := Text.trimEnd_parts (Text.trimStart rest)
  have hparts : Text.trimStart rest = Text.trim rest ++ back := hwhole
  have hends : EndsLine ([] ++ (project ++ back)) := .around nofun hproject hback
  refine ⟨[] ++ (project ++ back), ?_, hends⟩
  rw [hparts, htrim]
  simp

/-! ## Messages

What remains of a text is described in five ways, some by the end of the trimmed text and some by
the search from left to right. They are proved of one message, so they agree. -/

/-- What is left of the text behind a marker, in a message. -/
structure Stripped (rest message : List Char) : Prop where
  /-- When the trimmed text ends in a project, what stands before that, trimmed. -/
  project : ∀ before, IsBefore before (Text.trim rest) → message = Text.trim before
  /-- Otherwise the trimmed text. -/
  bare : (¬ ∃ before, IsBefore before (Text.trim rest)) → message = Text.trim rest
  /-- Nothing else is lost: one project and the blanks in front of it, or nothing at all. -/
  lost : ∃ gap cut, Text.trim rest = message ++ (gap ++ cut) ∧
    (∀ c ∈ gap, Text.isBlank c = true) ∧ (IsProject cut ∨ gap = [] ∧ cut = [])
  /-- Where a search from left to right cuts the text makes no difference. -/
  found : ∀ kept cut, Text.trimStart rest = kept ++ cut → EndsLine cut → message = Text.trim kept
  /-- When there is no place to cut it, it is only trimmed. -/
  unfound : (¬ ∃ kept cut, Text.trimStart rest = kept ++ cut ∧ EndsLine cut) →
    message = Text.trim rest

theorem message_of_isBefore {marker : Marker} (h : IsBefore before (Text.trim marker.rest)) :
    marker.message = Text.trim before := by
  rw [message_eq, beforeProject?_eq_some_iff.mpr h, Option.getD_some]

theorem message_of_bare {marker : Marker} (h : ¬ ∃ before, IsBefore before (Text.trim marker.rest)) :
    marker.message = Text.trim marker.rest := by
  rw [message_eq, beforeProject?_eq_none_iff.mpr h, Option.getD_none]

/-- The start of a trimmed text has no blanks in front. -/
theorem trim_of_prefix {rest behind : List Char} (h : Text.trim rest = text ++ behind) :
    ∃ gap, text = Text.trim text ++ gap ∧ ∀ c ∈ gap, Text.isBlank c = true := by
  obtain ⟨front, gap, hparts, hfront, hgap⟩ := Text.trim_parts text
  -- a blank in front would be the first character of a trimmed text
  cases front with
  | nil => exact ⟨gap, hparts, hgap⟩
  | cons c front =>
    have hhead : (Text.trim rest).head? = some c := by
      rw [h, hparts]
      rfl
    have hblank : Text.isBlank c = true := hfront c List.mem_cons_self
    rw [Text.not_blank_head_trim hhead] at hblank
    cases hblank

/-- The message of a marker is what is left of the text behind it. -/
theorem stripped_message (marker : Marker) : Stripped marker.rest marker.message where
  project before h := message_of_isBefore h
  bare h := message_of_bare h
  lost := by
    by_cases hfound : ∃ before, IsBefore before (Text.trim marker.rest)
    · obtain ⟨before, hbefore⟩ := hfound
      obtain ⟨project, hproject, htrim⟩ := isBefore_iff.mp hbefore
      obtain ⟨gap, hgap, hblank⟩ := trim_of_prefix htrim
      refine ⟨gap, project, ?_, hblank, .inl hproject⟩
      rw [message_of_isBefore hbefore, ← List.append_assoc, ← hgap, htrim]
    · refine ⟨[], [], ?_, nofun, .inr ⟨rfl, rfl⟩⟩
      rw [message_of_bare hfound]
      simp
  found kept cut hcut hends := by
    obtain ⟨front, hfront, hbefore⟩ := isBefore_of_endsLine hcut hends
    rw [message_of_isBefore hbefore, Text.trim_append_blanks hfront]
  unfound h := by
    apply message_of_bare
    rintro ⟨before, hbefore⟩
    exact h ⟨before, endsLine_of_isBefore hbefore⟩

end Marker

/-! ## Records

The lemmas on messages are put to work on the lines of a build output. -/

/-- The report of a line is extracted, or one of the same violation where repeats are dropped. -/
theorem mem_extract {raw : String} {line : List Char} {report : Report} (repeats : Repeats)
    (isLine : line ∈ Text.lines raw.toList) (found : Report.ofLine? line = some report) :
    report.violation ∈ extract repeats raw := by
  have hreport : report ∈ reports raw.toList := List.mem_filterMap.mpr ⟨line, isLine, found⟩
  have hall : report.violation ∈ (reports raw.toList).map (·.violation) :=
    List.mem_map_of_mem hreport
  -- where repeats are dropped, the report may be that of an earlier line which is the same
  cases repeats with
  | keepAll => exact hall
  | firstOccurrence =>
    have hkept : Thinned (reports raw.toList) (withoutRepeats [] (reports raw.toList)) :=
      thinned_iff.mpr rfl
    exact (hkept.mem_violations_iff (reports_iff.mpr rfl) report.violation).mpr hall

/-- **One project is dropped at the end of a line.** In every build output, a line with a marker is
reported, and its message is the text behind the leftmost marker without outer blanks. When that ends
in brackets around a text without brackets that ends in the extension of projects, the message is what
stands before the brackets, again without outer blanks. So one project and the blanks in front of it
are lost, and no other character is, whatever stands before them. A search from left to right for
blanks, a project and blanks at the end of the line makes the same message, wherever it cuts. -/
theorem project_dropped {raw : String} {line : List Char} {marker : Marker} (repeats : Repeats)
    (isLine : line ∈ Text.lines raw.toList)
    (leftmost : ∃ before, marker.StandsIn false (Text.trim line) before ∧
      ∀ (other : Marker) (earlier : List Char), other.StandsIn false (Text.trim line) earlier →
        before.length ≤ earlier.length) :
    ∃ violation ∈ extract repeats raw,
      Report.ofLine? line = some ⟨Text.trim line, violation⟩ ∧
        violation.code.toList = marker.code.map Char.toUpper ∧
        Marker.Stripped marker.rest violation.message.toList := by
  have hof : Finding.Of (Text.trim line) ⟨marker, marker.message⟩ :=
    ⟨leftmost, Marker.cleaned_iff.mpr rfl⟩
  have hreport := hof.ofLine?
  refine ⟨_, mem_extract repeats isLine hreport, hreport, String.toList_ofList, ?_⟩
  rw [Finding.violation, String.toList_ofList]
  exact marker.stripped_message

/-- A line that ends in two projects, with blanks of three kinds around them. -/
def twoProjects : List Char :=
  "src/A.cs(1,2): warning azc0030: Name [x]\u3000[/a.csproj] \u00a0[/b.csproj] ".toList

/-- The first of two projects stays. -/
theorem project_dropped_once :
    ∃ violation ∈ extract .firstOccurrence (String.ofList (twoProjects ++ ['\r', '\n'])),
      violation.message = "Name [x]\u3000[/a.csproj]" := by
  have isLine : twoProjects ∈ Text.lines (String.ofList (twoProjects ++ ['\r', '\n'])).toList := by
    rw [String.toList_ofList]
    decide +kernel
  have found : Marker.leftmost (Text.trim twoProjects) = some ⟨"azc0030".toList,
      " Name [x]\u3000[/a.csproj] \u00a0[/b.csproj]".toList⟩ := by decide +kernel
  obtain ⟨violation, mem, -, -, stripped⟩ :=
    project_dropped .firstOccurrence isLine (Marker.leftmostFrom_eq_some found)
  have ends : Marker.IsBefore "Name [x]\u3000[/a.csproj] \u00a0".toList
      (Text.trim " Name [x]\u3000[/a.csproj] \u00a0[/b.csproj]".toList) :=
    ⟨"/b".toList, by decide +kernel, by decide, by decide⟩
  refine ⟨violation, mem, String.toList_inj.mp ?_⟩
  rw [stripped.project _ ends]
  decide +kernel

end AzcRepair.Violation
