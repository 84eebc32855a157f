import AzcRepair.Proofs.Text.Classes
import AzcRepair.Proofs.Text.Lines
import AzcRepair.Violation.Extract

/-!
# What is extracted from a build output

A line is reported exactly when a marker stands in it, said without the functions that search for
markers, and its record is read off the leftmost one. No blank occurs in a marker and none is a word
character, so cutting a text at a blank loses no marker: the records of two texts, one below the
other, are those of the first and then those of the second.

* `Marker.StandsIn` — a marker at a place of a text; `Marked` — there is one somewhere.
* `Marker.leftmostFrom_eq_some`, `Marker.leftmostFrom_eq_none` — the search finds the first one.
* `marked_append` — a blank between two texts belongs to no marker.
* `Reported`, `Records` — the record of a line, and the records of lines in their order.
* `reports_append`, `reports_eq_nil_iff` — the reports of texts below one another, and of none.
* `extraction_exact` — what holds of every build output.
-/

namespace AzcRepair

namespace Violation

/-! ## Markers in a text

The search goes from left to right and remembers whether the last character belongs to a word.
`StandsIn` says what it looks for, at any place and without a search. -/

/-- A word character stands right before what follows the text; `inWord` says so of the empty one. -/
def endsInWord (inWord : Bool) (text : List Char) : Bool :=
  text.getLast?.elim inWord Text.isWord

/-- The code of a violation: `AZC` with letters of either case, and four decimal digits. -/
def IsCode (code : List Char) : Prop :=
  ∃ a z c digits, code = a :: z :: c :: digits ∧ (a = 'A' ∨ a = 'a') ∧ (z = 'Z' ∨ z = 'z') ∧
    (c = 'C' ∨ c = 'c') ∧ digits.length = 4 ∧ ∀ d ∈ digits, Text.isDecimalDigit d = true

/-- An upper case letter is that of itself and of the lower case letter beside it. -/
theorem toUpper_eq_iff {c upper lower : Char} (letter : 65 ≤ upper.toNat ∧ upper.toNat ≤ 90)
    (pair : lower.toNat = upper.toNat + 32) : c.toUpper = upper ↔ c = upper ∨ c = lower := by
  have same (a b : Char) : a = b ↔ a.toNat = b.toNat := by
    rw [Char.ext_iff, ← UInt32.toNat_inj]
    rfl
  have upward : c.toUpper.toNat =
      if 97 ≤ c.toNat ∧ c.toNat ≤ 122 then c.toNat - 32 else c.toNat := by
    unfold Char.toUpper
    split
    · next small =>
      have low : 97 ≤ c.toNat := small.1
      have high : c.toNat ≤ 122 := small.2
      have val : c.val.toNat = c.toNat := rfl
      rw [if_pos ⟨low, high⟩]
      -- the difference of the cases is taken modulo the word
      show (c.val + 4294967264).toNat = c.toNat - 32
      rw [UInt32.toNat_add, val]
      show (c.toNat + 4294967264) % 4294967296 = _
      omega
    · next other => exact (if_neg other).symm
  rw [same, same, same, upward]
  split <;> omega

namespace Marker

/-- The marker stands in the text behind this part of it, and no word character stands right before
it. What comes before the text itself is told by `inWord`. -/
structure StandsIn (marker : Marker) (inWord : Bool) (text before : List Char) : Prop where
  parts : text = before ++ (marker.code ++ ':' :: marker.rest)
  code : IsCode marker.code
  apart : endsInWord inWord before = false

variable {marker : Marker} {inWord : Bool} {text before rest : List Char}

/-- A marker is read at the start of a text exactly when its code and a colon begin the text. -/
theorem at?_eq_some_iff :
    at? text = some marker ↔ text = marker.code ++ ':' :: marker.rest ∧ IsCode marker.code := by
  have upperA (c : Char) : c.toUpper = 'A' ↔ c = 'A' ∨ c = 'a' :=
    toUpper_eq_iff (by decide) (by decide)
  have upperZ (c : Char) : c.toUpper = 'Z' ↔ c = 'Z' ∨ c = 'z' :=
    toUpper_eq_iff (by decide) (by decide)
  have upperC (c : Char) : c.toUpper = 'C' ↔ c = 'C' ∨ c = 'c' :=
    toUpper_eq_iff (by decide) (by decide)
  constructor
  · intro found
    unfold at? at found
    split at found
    · next a z c d₁ d₂ d₃ d₄ colon rest =>
      split at found
      · next reads =>
        rw [upperA, upperZ, upperC] at reads
        obtain ⟨first, second, third, rfl, digits⟩ := reads
        cases found
        exact ⟨rfl, a, z, c, [d₁, d₂, d₃, d₄], rfl, first, second, third, rfl,
          List.all_eq_true.mp digits⟩
      · cases found
    · cases found
  · rintro ⟨parts, a, z, c, digits, code, first, second, third, four, decimal⟩
    obtain ⟨code', rest⟩ := marker
    have code : code' = a :: z :: c :: digits := code
    subst code parts
    match digits, four with
    | [d₁, d₂, d₃, d₄], _ =>
      have reads : a.toUpper = 'A' ∧ z.toUpper = 'Z' ∧ c.toUpper = 'C' ∧ (':' : Char) = ':' ∧
          [d₁, d₂, d₃, d₄].all Text.isDecimalDigit = true := by
        rw [upperA, upperZ, upperC]
        exact ⟨first, second, third, rfl, List.all_eq_true.mpr decimal⟩
      exact if_pos reads

theorem standsIn_nil_iff :
    marker.StandsIn inWord text [] ↔ inWord = false ∧ at? text = some marker := by
  rw [at?_eq_some_iff]
  constructor
  · rintro ⟨parts, code, apart⟩
    exact ⟨apart, parts, code⟩
  · rintro ⟨apart, parts, code⟩
    exact ⟨parts, code, apart⟩

theorem endsInWord_cons (inWord : Bool) (c : Char) (text : List Char) :
    endsInWord inWord (c :: text) = endsInWord (Text.isWord c) text := by
  unfold endsInWord
  rw [List.getLast?_cons]
  cases text.getLast? <;> rfl

/-- Behind the first character of a text a marker stands as it does in the rest. -/
theorem standsIn_cons_iff {c d : Char} :
    marker.StandsIn inWord (c :: rest) (d :: before) ↔
      c = d ∧ marker.StandsIn (Text.isWord c) rest before := by
  constructor
  · rintro ⟨parts, code, apart⟩
    obtain ⟨rfl, rest⟩ := List.cons_eq_cons.mp parts
    rw [endsInWord_cons] at apart
    exact ⟨rfl, rest, code, apart⟩
  · rintro ⟨rfl, parts, code, apart⟩
    rw [← endsInWord_cons inWord] at apart
    exact ⟨by rw [parts, List.cons_append], code, apart⟩

theorem not_standsIn_nil : ¬ marker.StandsIn inWord [] before := by
  rintro ⟨parts, -, -⟩
  have none : marker.code ++ ':' :: marker.rest = [] := (List.append_eq_nil_iff.mp parts.symm).2
  exact List.cons_ne_nil _ _ (List.append_eq_nil_iff.mp none).2

theorem leftmostFrom_eq_none (h : leftmostFrom inWord text = none) :
    ¬ marker.StandsIn inWord text before := by
  induction text generalizing inWord before with
  | nil => exact not_standsIn_nil
  | cons c rest ih =>
    unfold leftmostFrom at h
    split at h
    · cases h
    · next unread =>
      intro stands
      -- a marker right at the start would have been read, and one further on is found later
      cases before with
      | nil =>
        obtain ⟨outside, found⟩ := standsIn_nil_iff.mp stands
        rw [outside, found] at unread
        cases unread
      | cons d before =>
        obtain ⟨-, later⟩ := standsIn_cons_iff.mp stands
        exact ih h later

/-- The marker that is found stands in the text, and no other one stands before it. -/
theorem leftmostFrom_eq_some (h : leftmostFrom inWord text = some marker) :
    ∃ before, marker.StandsIn inWord text before ∧
      ∀ (other : Marker) (earlier : List Char), other.StandsIn inWord text earlier →
        before.length ≤ earlier.length := by
  induction text generalizing inWord with
  | nil => cases h
  | cons c rest ih =>
    unfold leftmostFrom at h
    split at h
    · next found reads =>
      cases h
      cases inWord with
      | true => cases reads
      | false => exact ⟨[], standsIn_nil_iff.mpr ⟨rfl, reads⟩, fun _ _ _ => Nat.zero_le _⟩
    · next unread =>
      obtain ⟨before, stands, first⟩ := ih h
      refine ⟨c :: before, standsIn_cons_iff.mpr ⟨rfl, stands⟩, fun other earlier found => ?_⟩
      cases earlier with
      | nil =>
        -- nothing was read at the start of the text
        obtain ⟨outside, reads⟩ := standsIn_nil_iff.mp found
        rw [outside, reads] at unread
        cases unread
      | cons d earlier =>
        obtain ⟨-, later⟩ := standsIn_cons_iff.mp found
        exact Nat.succ_le_succ (first other earlier later)

end Marker

/-- A marker stands somewhere in the text. -/
def Marked (text : List Char) : Prop :=
  ∃ (marker : Marker) (before : List Char), marker.StandsIn false text before

theorem leftmost_eq_none_iff {text : List Char} : Marker.leftmost text = none ↔ ¬ Marked text := by
  constructor
  · rintro unfound ⟨marker, before, stands⟩
    exact Marker.leftmostFrom_eq_none unfound stands
  · intro unmarked
    cases found : Marker.leftmost text with
    | none => rfl
    | some marker =>
      obtain ⟨before, stands, -⟩ := Marker.leftmostFrom_eq_some found
      exact absurd ⟨marker, before, stands⟩ unmarked

/-! ## Blanks and markers

A marker is seven characters and a colon, none of them a blank. So a blank ends whatever stands
before it, and lines and trimmed lines have the markers of the whole text. -/

theorem IsCode.not_blank {code : List Char} (h : IsCode code) {c : Char} (mem : c ∈ code) :
    Text.isBlank c = false := by
  obtain ⟨a, z, letter, digits, rfl, first, second, third, -, decimal⟩ := h
  rcases List.mem_cons.mp mem with rfl | mem
  · rcases first with rfl | rfl <;> decide
  rcases List.mem_cons.mp mem with rfl | mem
  · rcases second with rfl | rfl <;> decide
  rcases List.mem_cons.mp mem with rfl | mem
  · rcases third with rfl | rfl <;> decide
  · refine Bool.eq_false_iff.mpr fun blank => ?_
    have digit := decimal c mem
    rw [Text.isDecimalDigit_of_isBlank blank] at digit
    cases digit

/-- A blank behind a text lets a marker begin there, as the start of a text does. -/
theorem endsInWord_append_blank {c : Char} (blank : Text.isBlank c = true)
    (first second : List Char) :
    endsInWord false (first ++ c :: second) = endsInWord false second := by
  unfold endsInWord
  rw [List.getLast?_append, List.getLast?_cons]
  cases second.getLast? with
  | none => exact Text.isWord_of_isBlank blank
  | some last => rfl

/-- A part of a text that avoids a character stands before it or behind it. -/
theorem append_eq_of_not_mem {c : Char} {before part rest first second : List Char}
    (avoids : c ∉ part) (parts : before ++ (part ++ rest) = first ++ c :: second) :
    (∃ behind, first = before ++ (part ++ behind)) ∨
      ∃ left, before = first ++ c :: left ∧ second = left ++ (part ++ rest) := by
  -- the character is either behind the part or before it, since it is not in it
  rcases List.append_eq_append_iff.mp parts with ⟨inner, whole, rest⟩ | ⟨inner, whole, rest⟩
  · -- the first text goes on where the part begins, and the character is not within the part
    rcases List.append_eq_append_iff.mp rest with ⟨behind, ends, -⟩ | ⟨tail, ends, starts⟩
    · exact .inl ⟨behind, by rw [whole, ends]⟩
    cases tail with
    | nil => exact .inl ⟨[], by rw [whole, ends, List.append_nil, List.append_nil]⟩
    | cons d tail =>
      obtain ⟨rfl, -⟩ := List.cons_eq_cons.mp starts
      rw [ends] at avoids
      exact absurd (List.mem_append_right _ List.mem_cons_self) avoids
  · cases inner with
    | nil =>
      rw [List.append_nil] at whole
      cases part with
      | nil => exact .inl ⟨[], by rw [whole, List.append_nil, List.append_nil]⟩
      | cons d part =>
        obtain ⟨rfl, -⟩ := List.cons_eq_cons.mp rest
        exact absurd List.mem_cons_self avoids
    | cons d left =>
      obtain ⟨rfl, behind⟩ := List.cons_eq_cons.mp rest
      exact .inr ⟨left, whole, behind⟩

/-- A blank is not within a code and its colon. -/
theorem IsCode.not_mem_colon {code : List Char} (h : IsCode code) {c : Char}
    (blank : Text.isBlank c = true) : c ∉ code ++ [':'] := by
  intro mem
  rcases List.mem_append.mp mem with mem | mem
  · rw [h.not_blank mem] at blank
    cases blank
  · rw [List.mem_singleton.mp mem] at blank
    cases blank

/-- A blank between two texts belongs to no marker, and a marker in one of them stays one. -/
theorem marked_append {c : Char} (blank : Text.isBlank c = true) (first second : List Char) :
    Marked (first ++ c :: second) ↔ Marked first ∨ Marked second := by
  constructor
  · rintro ⟨marker, before, parts, code, apart⟩
    rw [List.append_cons marker.code] at parts
    obtain ⟨behind, rfl⟩ | ⟨left, rfl, rfl⟩ :=
      append_eq_of_not_mem (code.not_mem_colon blank) parts.symm
    · exact .inl ⟨⟨marker.code, behind⟩, before, by simp, code, apart⟩
    · rw [endsInWord_append_blank blank] at apart
      exact .inr ⟨marker, left, by simp, code, apart⟩
  · rintro (⟨marker, before, parts, code, apart⟩ | ⟨marker, before, parts, code, apart⟩)
    · refine ⟨⟨marker.code, marker.rest ++ c :: second⟩, before, ?_, code, apart⟩
      rw [parts]
      simp
    · refine ⟨marker, first ++ c :: before, ?_, code, ?_⟩
      · rw [parts]
        simp
      · rw [endsInWord_append_blank blank]
        exact apart

theorem not_marked_nil : ¬ Marked [] := by
  rintro ⟨marker, before, stands⟩
  exact Marker.not_standsIn_nil stands

theorem marked_blanks_append {front : List Char} (blank : ∀ c ∈ front, Text.isBlank c = true)
    (text : List Char) : Marked (front ++ text) ↔ Marked text := by
  induction front with
  | nil => exact Iff.rfl
  | cons c front ih =>
    obtain ⟨first, others⟩ := List.forall_mem_cons.mp blank
    have cut := marked_append first [] (front ++ text)
    rw [List.nil_append, or_iff_right not_marked_nil, ih others] at cut
    exact cut

theorem marked_append_blanks {back : List Char} (blank : ∀ c ∈ back, Text.isBlank c = true)
    (text : List Char) : Marked (text ++ back) ↔ Marked text := by
  cases back with
  | nil => rw [List.append_nil]
  | cons c back =>
    obtain ⟨first, others⟩ := List.forall_mem_cons.mp blank
    have nothing : ¬ Marked back := by
      have empty := marked_blanks_append others []
      rw [List.append_nil] at empty
      exact fun marked => not_marked_nil (empty.mp marked)
    rw [marked_append first, or_iff_left nothing]

theorem marked_trim (text : List Char) : Marked (Text.trim text) ↔ Marked text := by
  obtain ⟨front, back, parts, frontBlank, backBlank⟩ := Text.trim_parts text
  have whole := marked_blanks_append frontBlank (Text.trim text ++ back)
  rw [← parts, marked_append_blanks backBlank] at whole
  exact whole.symm

/-! ## Messages

The message is cut out of the text behind the marker, so it stands there as it is. -/

namespace Marker

/-- What stands before the project is a part of the text, from its start on. -/
theorem beforeProject?_starts {text before : List Char} (h : beforeProject? text = some before) :
    before <+: text := by
  unfold beforeProject? at h
  split at h
  · next back ended =>
    split at h
    · next front opened =>
      split at h
      · cases h
        have cut : back = back.takeWhile (!isBracket ·) ++ '[' :: front := by
          rw [← opened, List.takeWhile_append_dropWhile]
        have backwards : front <:+ text.reverse := by
          rw [ended, cut]
          exact ((List.suffix_cons _ _).trans (List.suffix_append _ _)).trans (List.suffix_cons _ _)
        rw [← List.reverse_prefix, List.reverse_reverse] at backwards
        exact backwards
      · cases h
    · cases h
  · cases h

theorem message_eq (marker : Marker) :
    marker.message = Text.trim ((beforeProject? (Text.trim marker.rest)).getD marker.rest) := by
  unfold message
  dsimp only
  cases beforeProject? (Text.trim marker.rest) <;> rfl

theorem message_infix (marker : Marker) : marker.message <:+: marker.rest := by
  rw [message_eq]
  cases found : beforeProject? (Text.trim marker.rest) with
  | none => exact Text.trim_infix marker.rest
  | some before =>
    have inner := (beforeProject?_starts found).isInfix.trans (Text.trim_infix marker.rest)
    exact (Text.trim_infix before).trans inner

theorem trim_message (marker : Marker) : Text.trim marker.message = marker.message := by
  rw [message_eq, Text.trim_trim]

end Marker

/-! ## Records

A record says where its code and its message come from; the list of records follows the lines, in
their order. -/

/-- The violation is read off this marker, which is the leftmost one of the line: the code in upper
case, and as message a part of what follows, in one line and without blanks at its ends. -/
structure ReadOff (line : List Char) (marker : Marker) (violation : Violation) : Prop where
  leftmost : ∃ before, marker.StandsIn false line before ∧
    ∀ (other : Marker) (earlier : List Char), other.StandsIn false line earlier →
      before.length ≤ earlier.length
  code : violation.code.toList = marker.code.map Char.toUpper
  message : violation.message.toList <:+: marker.rest
  trimmed : Text.trim violation.message.toList = violation.message.toList
  oneLine : '\n' ∉ violation.message.toList

/-- The records of lines in their order: one for every line in which a marker stands, and none for
any other. -/
inductive Records : List (List Char) → List Violation → Prop
  | nil : Records [] []
  | reported {line : List Char} {lines : List (List Char)} {marker : Marker} {violation : Violation}
    {violations : List Violation} (reads : ReadOff (Text.trim line) marker violation)
    (more : Records lines violations) : Records (line :: lines) (violation :: violations)
  | silent {line : List Char} {lines : List (List Char)} {violations : List Violation}
    (unmarked : ¬ Marked (Text.trim line)) (more : Records lines violations) :
    Records (line :: lines) violations

theorem readOff_of_leftmost {line : List Char} {marker : Marker} (one : '\n' ∉ line)
    (found : Marker.leftmost line = some marker) : ReadOff line marker marker.violation := by
  obtain ⟨before, stands, first⟩ := Marker.leftmostFrom_eq_some found
  have code : marker.violation.code.toList = marker.code.map Char.toUpper := by
    simp [Marker.violation, ofCode]
  have message : marker.violation.message.toList = marker.message := String.toList_ofList
  refine ⟨⟨before, stands, first⟩, code, ?_, ?_, ?_⟩
  · rw [message]
    exact marker.message_infix
  · rw [message]
    exact marker.trim_message
  · rw [message]
    intro mem
    apply one
    rw [stands.parts]
    have behind : '\n' ∈ marker.rest := marker.message_infix.subset mem
    exact List.mem_append_right _ (List.mem_append_right _ (List.mem_cons_of_mem _ behind))

theorem records_filterMap {lines : List (List Char)} (one : ∀ line ∈ lines, '\n' ∉ line) :
    Records lines ((lines.filterMap Report.ofLine?).map (·.violation)) := by
  induction lines with
  | nil => exact .nil
  | cons line lines ih =>
    obtain ⟨here, others⟩ := List.forall_mem_cons.mp one
    -- a line without a marker is passed over, and every other one has its record
    cases found : Marker.leftmost (Text.trim line) with
    | none =>
      have passed : Report.ofLine? line = none := by rw [Report.ofLine?, found]; rfl
      rw [List.filterMap_cons_none passed]
      exact .silent (leftmost_eq_none_iff.mp found) (ih others)
    | some marker =>
      have kept : Report.ofLine? line = some ⟨Text.trim line, marker.violation⟩ := by
        rw [Report.ofLine?, found]; rfl
      have within : '\n' ∉ Text.trim line := fun mem => here ((Text.trim_infix line).subset mem)
      rw [List.filterMap_cons_some kept]
      exact .reported (readOff_of_leftmost within found) (ih others)

/-! ## Reports of texts

The same is said of whole texts, by induction on their lines. -/

theorem ofLine?_eq_none_iff (line : List Char) : Report.ofLine? line = none ↔ ¬ Marked line := by
  rw [Report.ofLine?, Option.map_eq_none_iff, leftmost_eq_none_iff, marked_trim]

/-- The return of a line ending makes no difference to what a line reports. -/
theorem ofLine?_dropReturn (line : List Char) :
    Report.ofLine? (Text.dropReturn line) = Report.ofLine? line := by
  rw [Report.ofLine?, Report.ofLine?, Text.trim_dropReturn]

theorem reports_of_not_mem {line : List Char} (unended : '\n' ∉ line) :
    reports line = (Report.ofLine? line).toList := by
  by_cases empty : line = []
  · rw [empty]
    rfl
  · rw [reports, Text.lines_of_not_mem unended empty, List.filterMap_cons]
    cases Report.ofLine? line <;> rfl

theorem reports_feed {line : List Char} (one : '\n' ∉ line) (rest : List Char) :
    reports (line ++ '\n' :: rest) = (Report.ofLine? line).toList ++ reports rest := by
  rw [reports, Text.lines_feed one, List.filterMap_cons, ofLine?_dropReturn, reports]
  cases Report.ofLine? line <;> rfl

/-- The reports of two texts, one below the other, are those of the first and of the second. -/
theorem reports_append (first second : List Char) :
    reports (first ++ '\n' :: second) = reports first ++ reports second := by
  induction first using Text.feed_induction with
  | last first unended => rw [reports_feed unended, reports_of_not_mem unended]
  | feed line rest one ih =>
    rw [List.append_assoc, List.cons_append, reports_feed one, reports_feed one, ih,
      List.append_assoc]

theorem reports_eq_nil_iff (text : List Char) : reports text = [] ↔ ¬ Marked text := by
  induction text using Text.feed_induction with
  | last text unended =>
    rw [reports_of_not_mem unended, Option.toList_eq_nil_iff, ofLine?_eq_none_iff]
  | feed line rest one ih =>
    rw [reports_feed one, List.append_eq_nil_iff, Option.toList_eq_nil_iff, ofLine?_eq_none_iff, ih,
      marked_append (by decide), not_or]

/-- **Extraction is exact, ordered and compositional.** A build output has lines, which are told
apart in one way only, and the violations that are extracted when repeats are kept are the records of
these lines. Of two outputs, one below the other, the violations are those of the first and then
those of the second. No violation is extracted from a text exactly when no marker stands in it. -/
theorem extraction_exact :
    (∀ raw : String, ∃ lines, (∀ other, Text.Lines raw.toList other ↔ other = lines) ∧
        Records lines (extract .keepAll raw)) ∧
      (∀ first second : String, extract .keepAll (first ++ "\n" ++ second) =
        extract .keepAll first ++ extract .keepAll second) ∧
      ∀ raw : String, extract .keepAll raw = [] ↔ ¬ Marked raw.toList := by
  refine ⟨fun raw => ?_, fun first second => ?_, fun raw => ?_⟩
  · have one : ∀ line ∈ Text.lines raw.toList, '\n' ∉ line :=
      fun line mem => (Text.lines_spec raw.toList).not_mem mem
    exact ⟨Text.lines raw.toList, fun other => Text.lines_iff, records_filterMap one⟩
  · have joined : (first ++ "\n" ++ second).toList = first.toList ++ '\n' :: second.toList := by
      simp [String.toList_append]
    show (reports (first ++ "\n" ++ second).toList).map _ = _
    rw [joined, reports_append, List.map_append]
    rfl
  · show (reports raw.toList).map _ = [] ↔ _
    rw [List.map_eq_nil_iff, reports_eq_nil_iff]

example : extract .keepAll "error azc0030: Name [x] ends. [/out/a.csproj]\r\nxAZC0012: no\r" =
    [⟨"AZC0030", "Name [x] ends."⟩] := by decide +kernel

end Violation

end AzcRepair
