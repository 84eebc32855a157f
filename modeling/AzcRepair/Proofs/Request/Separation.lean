import Mathlib.Data.List.Infix
import AzcRepair.Request

/-!
# Telling the inputs of a context apart

The request that opens a session carries three texts as they are, with a fixed text between each two
of them. Whether the three texts can be told from the request depends on where else the fixed texts
occur in it.

* `IsSeparator` — a text of which two occurrences overlap in no more than the line end that both
  have.
* `IsSeparator.infix_of_shift` — a second occurrence lies in what stands before the first one or in
  what stands behind it, up to a line end.
* `IsSeparator.alone_iff` — one separator: there is no second place to cut exactly when the
  separator is alone.
* `IsSeparator.alone_twice_iff` — two separators in a row.
* `context_separates` — the contexts that only one triple of texts leads to.
-/

namespace AzcRepair.Request

/-! ## One separator

Suppose a text is cut at a separator in two places. The second place is moved on by at least the
length of the separator less one, for otherwise it would overlap itself by more than its edge. So
the separator occurs a second time, before the first place or behind it. -/

/-- The text starts and ends with the same character, and two occurrences of it share at most that
one. -/
structure IsSeparator (edge : Char) (text : List Char) : Prop where
  starts : [edge] <+: text
  ends : [edge] <:+ text
  long : 1 < text.length
  apart : ∀ shift < text.length - 1, 0 < shift → ¬ text.drop shift <+: text

/-- The separator occurs neither in what stands before it nor in what stands behind it, and it does
not do so with the help of its own edge either. -/
def Alone (edge : Char) (text before after : List Char) : Prop :=
  ¬ text <:+: before ++ [edge] ∧ ¬ text <:+: edge :: after

section Separator

variable {edge : Char} {text before after before' after' shift : List Char}

namespace IsSeparator

/-- An occurrence that is moved on is moved on past all but the last character. -/
theorem length_le_of_shift (separator : IsSeparator edge text) (moves : shift ≠ [])
    (same : text ++ after = shift ++ (text ++ after')) : text.length ≤ shift.length + 1 := by
  -- otherwise the first occurrence reaches into the second by more than its edge
  by_contra short
  have within : shift.length < text.length - 1 := by omega
  have positive : 0 < shift.length := List.length_pos_iff.mpr moves
  have rest : text.drop shift.length ++ after = text ++ after' := by
    have both := congrArg (List.drop shift.length) same
    rw [List.drop_left, List.drop_append_of_le_length (by omega)] at both
    exact both
  have overlap : text.drop shift.length <+: text := by
    apply List.prefix_of_prefix_length_le (List.prefix_append _ after)
    · rw [rest]
      exact List.prefix_append text after'
    · rw [List.length_drop]
      omega
  exact separator.apart shift.length within positive overlap

/-- Both occurrences can be found without the other one, up to its edge. -/
theorem infix_of_shift (separator : IsSeparator edge text) (moves : shift ≠ [])
    (same : text ++ after = shift ++ (text ++ after')) :
    text <:+: shift ++ [edge] ∧ text <:+: edge :: after := by
  have far := separator.length_le_of_shift moves same
  constructor
  · have start : shift ++ [edge] <+: text ++ after := by
      rw [same]
      apply (List.prefix_append_right_inj shift).mpr
      exact separator.starts.trans (List.prefix_append text after')
    have front : text <+: shift ++ [edge] :=
      List.prefix_of_prefix_length_le (List.prefix_append text after) start (by simpa using far)
    exact front.isInfix
  · obtain ⟨inner, parts⟩ := separator.ends
    have stop : edge :: after <:+ text ++ after := ⟨inner, by rw [← parts]; simp⟩
    have later : text ++ after' <:+ text ++ after := ⟨shift, same.symm⟩
    have room : (text ++ after').length ≤ (edge :: after).length := by
      have lengths := congrArg List.length same
      simp only [List.length_append, List.length_cons] at lengths ⊢
      omega
    have back : text ++ after' <:+ edge :: after := List.suffix_of_suffix_length_le later stop room
    exact (List.prefix_append text after').isInfix.trans back.isInfix

/-- A separator before its place is another place to cut. -/
theorem exists_before (separator : IsSeparator edge text) (found : text <:+: before ++ [edge])
    (after : List Char) :
    ∃ before' after', before' ++ text ++ after' = before ++ text ++ after ∧ before' ≠ before := by
  obtain ⟨front, back, parts⟩ := found
  obtain ⟨inner, opened⟩ := separator.starts
  refine ⟨front, back ++ inner ++ after, ?_, ?_⟩
  · calc front ++ text ++ (back ++ inner ++ after)
        = front ++ text ++ back ++ (inner ++ after) := by simp
      _ = before ++ [edge] ++ (inner ++ after) := by rw [parts]
      _ = before ++ ([edge] ++ inner) ++ after := by simp
      _ = before ++ text ++ after := by rw [opened]
  · rintro rfl
    have lengths := congrArg List.length parts
    have long := separator.long
    simp only [List.length_append, List.length_singleton] at lengths
    omega

/-- A separator behind its place is another place to cut. -/
theorem exists_after (separator : IsSeparator edge text) (found : text <:+: edge :: after)
    (before : List Char) :
    ∃ before' after', before' ++ text ++ after' = before ++ text ++ after ∧ after' ≠ after := by
  obtain ⟨front, back, parts⟩ := found
  obtain ⟨inner, closed⟩ := separator.ends
  refine ⟨before ++ inner ++ front, back, ?_, ?_⟩
  · calc before ++ inner ++ front ++ text ++ back
        = before ++ inner ++ (front ++ text ++ back) := by simp
      _ = before ++ inner ++ ([edge] ++ after) := by rw [parts]; rfl
      _ = before ++ (inner ++ [edge]) ++ after := by simp
      _ = before ++ text ++ after := by rw [closed]
  · rintro rfl
    have lengths := congrArg List.length parts
    have long := separator.long
    simp only [List.length_append, List.length_cons] at lengths
    omega

/-- Where the separator is alone there is no other place to cut. -/
theorem eq_of_alone (separator : IsSeparator edge text) (alone : Alone edge text before after)
    (same : before' ++ text ++ after' = before ++ text ++ after) :
    before' = before ∧ after' = after := by
  obtain ⟨front, back⟩ := alone
  rw [List.append_assoc, List.append_assoc] at same
  -- one of the two places is further on, or they are the same
  rcases List.append_eq_append_iff.mp same with ⟨shift, rfl, moved⟩ | ⟨shift, rfl, moved⟩
  · by_cases still : shift = []
    · subst still
      exact ⟨by simp, List.append_cancel_left moved⟩
    · have found := (separator.infix_of_shift still moved).1
      rw [List.append_assoc] at front
      exact absurd (found.trans (List.suffix_append before' _).isInfix) front
  · by_cases still : shift = []
    · subst still
      exact ⟨by simp, (List.append_cancel_left moved).symm⟩
    · exact absurd (separator.infix_of_shift still moved).2 back

/-- A text is cut at a separator in one place only exactly when the separator is alone there. -/
theorem alone_iff (separator : IsSeparator edge text) :
    Alone edge text before after ↔
      ∀ before' after', before' ++ text ++ after' = before ++ text ++ after →
        before' = before ∧ after' = after := by
  constructor
  · intro alone before' after' same
    exact separator.eq_of_alone alone same
  · intro only
    constructor
    · intro found
      obtain ⟨before', after', same, other⟩ := separator.exists_before found after
      exact other (only before' after' same).1
    · intro found
      obtain ⟨before', after', same, other⟩ := separator.exists_after found before
      exact other (only before' after' same).2

end IsSeparator

/-! ## Two separators

With two separators in a row, the place of the second is compared first: it was moved to the left,
to the right or not at all. The first separator is looked for only in the text in front of it. -/

variable {first second middle middle' : List Char}

/-- Three texts with a separator between each two can be cut in one way only exactly when both
separators are alone. It does not matter whether the first one also occurs behind the second. -/
theorem alone_twice_iff (firstSeparates : IsSeparator edge first)
    (secondSeparates : IsSeparator edge second) :
    Alone edge first before middle ∧ Alone edge second middle after ↔
      ∀ before' middle' after',
        before' ++ first ++ middle' ++ second ++ after' =
            before ++ first ++ middle ++ second ++ after →
          before' = before ∧ middle' = middle ∧ after' = after := by
  constructor
  · rintro ⟨alone, ⟨front, back⟩⟩ before' middle' after' same
    -- the cases are where the second separator is found
    rw [List.append_assoc, List.append_assoc _ second] at same
    rcases List.append_eq_append_iff.mp same with ⟨shift, parts, moved⟩ | ⟨shift, parts, moved⟩
    · have whole : before' ++ first ++ (middle' ++ shift) = before ++ first ++ middle := by
        rw [parts, List.append_assoc _ middle']
      obtain ⟨rfl, rfl⟩ := firstSeparates.eq_of_alone alone whole
      by_cases still : shift = []
      · subst still
        exact ⟨rfl, by simp, List.append_cancel_left moved⟩
      · have found := (secondSeparates.infix_of_shift still moved).1
        rw [List.append_assoc] at front
        exact absurd (found.trans (List.suffix_append middle' _).isInfix) front
    · by_cases still : shift = []
      · subst still
        rw [List.append_nil] at parts
        obtain ⟨rfl, rfl⟩ := firstSeparates.eq_of_alone alone parts
        exact ⟨rfl, rfl, (List.append_cancel_left moved).symm⟩
      · exact absurd (secondSeparates.infix_of_shift still moved).2 back
  · intro only
    constructor
    · rw [firstSeparates.alone_iff]
      intro before' middle' same
      have whole := only before' middle' after (by rw [same])
      exact ⟨whole.1, whole.2.1⟩
    · rw [secondSeparates.alone_iff]
      intro middle' after' same
      have whole := only before middle' after' (by
        rw [List.append_assoc, List.append_assoc, ← List.append_assoc middle', same]
        simp)
      exact whole.2

end Separator

/-! ## The request

Both delimiters of the request begin and end with a line end and overlap themselves in nothing but
that, which is computed. What is said of separators then says when a request determines the texts
in it. -/

/-- What stands between the main file and the target file. -/
def behindMain : String :=
  "\n===MAIN_TSP_END===\n\n### client.tsp (current)\n===CLIENT_TSP_START===\n"

/-- What stands between the target file and the violation log. -/
def behindTarget : String :=
  "\n===CLIENT_TSP_END===\n\n### AZC violation log\n===AZC_LOG_START===\n"

theorem isSeparator_behindMain : IsSeparator '\n' behindMain.toList := by
  constructor <;> decide +kernel

theorem isSeparator_behindTarget : IsSeparator '\n' behindTarget.toList := by
  constructor <;> decide +kernel

/-- The body of a context: the three texts as they are, and what stands around them. -/
theorem context_body (main target log : String) :
    (context main target log).body =
      "Inputs for this session.\n\n### main.tsp (read-only)\n===MAIN_TSP_START===\n" ++
        (main ++ behindMain ++ target ++ behindTarget ++ log) ++ "\n===AZC_LOG_END===\n" := by
  have opening : "Inputs for this session.\n\n### main.tsp (read-only)\n===MAIN_TSP_START===\n" =
      "Inputs for this session.\n\n" ++ "### " ++ "main.tsp (read-only)" ++ "\n===" ++ "MAIN_TSP" ++
        "_START===\n" := by decide +kernel
  have first : behindMain = "\n===" ++ "MAIN_TSP" ++ "_END===\n" ++ "\n" ++ "### " ++
      "client.tsp (current)" ++ "\n===" ++ "CLIENT_TSP" ++ "_START===\n" := by decide +kernel
  have second : behindTarget = "\n===" ++ "CLIENT_TSP" ++ "_END===\n" ++ "\n" ++ "### " ++
      "AZC violation log" ++ "\n===" ++ "AZC_LOG" ++ "_START===\n" := by decide +kernel
  have closing : "\n===AZC_LOG_END===\n" = "\n===" ++ "AZC_LOG" ++ "_END===\n" := by decide +kernel
  -- both sides are then the same pieces in the same order
  simp only [context, delimited, opening, first, second, closing, String.append_assoc]

theorem context_body_inj {main target log main' target' log' : String} :
    (context main' target' log').body = (context main target log).body ↔
      main'.toList ++ behindMain.toList ++ target'.toList ++ behindTarget.toList ++ log'.toList =
        main.toList ++ behindMain.toList ++ target.toList ++ behindTarget.toList ++ log.toList := by
  rw [context_body, context_body, ← String.toList_inj]
  simp only [String.toList_append, List.append_left_inj, List.append_right_inj]

/-- A separator does not occur in two texts that it stands between, where each of them has the line
end that the separator joins it with. -/
def Separates (separator before after : String) : Prop :=
  ¬ separator.toList <:+: (before ++ "\n").toList ∧ ¬ separator.toList <:+: ("\n" ++ after).toList

theorem alone_iff_separates {separator before after : String} :
    Alone '\n' separator.toList before.toList after.toList ↔ Separates separator before after := by
  rw [Separates, String.toList_append, String.toList_append]
  rfl

/-- **The inputs of a context can be told from it unless they hold its delimiters.** No other three
texts make the same body exactly when the delimiter lines between the main file and the target file
do not stand, as a whole, in either of these two files, and those between the target file and the
violation log in neither of these two texts. -/
theorem context_separates (main target log : String) :
    (∀ main' target' log', (context main' target' log').body = (context main target log).body →
        main' = main ∧ target' = target ∧ log' = log) ↔
      Separates behindMain main target ∧ Separates behindTarget target log := by
  rw [← alone_iff_separates, ← alone_iff_separates,
    alone_twice_iff isSeparator_behindMain isSeparator_behindTarget]
  constructor
  · intro only before middle after same
    have texts := only (String.ofList before) (String.ofList middle) (String.ofList after) (by
      rw [context_body_inj]
      simpa using same)
    simpa [← String.toList_inj] using texts
  · intro only main' target' log' same
    have parts := only main'.toList target'.toList log'.toList (context_body_inj.mp same)
    simpa [← String.toList_inj] using parts

/-- A target file that holds the delimiters reads as the end of a longer main file. -/
theorem context_ambiguous :
    (context "a" ("b" ++ behindMain ++ "c") "").body =
        (context ("a" ++ behindMain ++ "b") "c" "").body ∧
      ¬ ∀ main target log main' target' log' : String,
        (context main target log).body = (context main' target' log').body →
          main = main' ∧ target = target' ∧ log = log' := by
  have same : (context "a" ("b" ++ behindMain ++ "c") "").body =
      (context ("a" ++ behindMain ++ "b") "c" "").body := by
    rw [context_body_inj]
    simp
  refine ⟨same, ?_⟩
  intro separable
  have target := (separable _ _ _ _ _ _ same).2.1
  revert target
  decide +kernel

end AzcRepair.Request
