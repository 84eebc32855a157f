import AzcRepair.Text.Blank
import AzcRepair.Text.Lines

/-!
# Lines and blanks

What the lines of a text are, said without the function that finds them, and what trimming a line
leaves of it.

* `Lines` — a text and its lines: every line ends at a line feed, and a return before the feed
  belongs to the ending.
* `lines_iff` — the lines that are found are those of the text, and there are no others.
* `lines_feed` — a line in front of further text is the first of the lines.
* `trim_infix`, `trim_trim`, `trim_dropReturn` — trimming keeps one piece of a text, which has no
  blank at its ends; a return at the end of a line makes no difference to it.
-/

namespace AzcRepair.Text

/-! ## Lines

The search cuts a text at all line feeds and then drops the returns in front of them. `Lines`
describes each line on its own instead; the induction goes from one feed to the next. -/

/-- These are the lines of the text. Text after the last line feed is a line when there is any. -/
inductive Lines : List Char → List (List Char) → Prop
  | nil : Lines [] []
  | last {line : List Char} (unended : '\n' ∉ line) (text : line ≠ []) : Lines line [line]
  | feed {line rest : List Char} {more : List (List Char)} (one : '\n' ∉ line)
    (bare : line.getLast? ≠ some '\r') (further : Lines rest more) :
    Lines (line ++ '\n' :: rest) (line :: more)
  | returnFeed {line rest : List Char} {more : List (List Char)} (one : '\n' ∉ line)
    (further : Lines rest more) : Lines (line ++ '\r' :: '\n' :: rest) (line :: more)

theorem pieces_of_not_mem {sep : Char} {text : List Char} (h : sep ∉ text) :
    pieces sep text = [text] := by
  induction text with
  | nil => rfl
  | cons c rest ih =>
    have hc : c ≠ sep := fun same => h (same ▸ List.mem_cons_self)
    have hrest : sep ∉ rest := fun mem => h (List.mem_cons_of_mem _ mem)
    rw [pieces, if_neg hc, ih hrest]

theorem pieces_append {sep : Char} {first : List Char} (h : sep ∉ first) (rest : List Char) :
    pieces sep (first ++ sep :: rest) = first :: pieces sep rest := by
  induction first with
  | nil => rw [List.nil_append, pieces, if_pos rfl]
  | cons c first ih =>
    have hc : c ≠ sep := fun same => h (same ▸ List.mem_cons_self)
    have hfirst : sep ∉ first := fun mem => h (List.mem_cons_of_mem _ mem)
    rw [List.cons_append, pieces, if_neg hc, ih hfirst]

theorem lines_of_not_mem {text : List Char} (h : '\n' ∉ text) (some : text ≠ []) :
    lines text = [text] := by
  rw [lines, pieces_of_not_mem h, closeLines, if_neg (by simpa using some)]

theorem lines_feed {line : List Char} (h : '\n' ∉ line) (rest : List Char) :
    lines (line ++ '\n' :: rest) = dropReturn line :: lines rest := by
  unfold lines
  rw [pieces_append h]
  cases found : pieces '\n' rest with
  | nil => exact absurd found (pieces_ne_nil _ _)
  | cons piece others => rfl

theorem dropReturn_append (line : List Char) : dropReturn (line ++ ['\r']) = line := by
  induction line with
  | nil => rfl
  | cons c line ih =>
    cases line with
    | nil => simp [dropReturn]
    | cons d line =>
      rw [List.cons_append, List.cons_append, dropReturn]
      · rw [← List.cons_append, ih]
      · exact nofun

theorem dropReturn_of_bare {line : List Char} (h : line.getLast? ≠ some '\r') :
    dropReturn line = line := by
  induction line with
  | nil => rfl
  | cons c line ih =>
    cases line with
    | nil =>
      have hc : c ≠ '\r' := fun same => h (by rw [same]; rfl)
      rw [dropReturn]
      · rfl
      · intro same _
        exact hc same
    | cons d line =>
      rw [List.getLast?_cons_cons] at h
      rw [dropReturn, ih h]
      exact nofun

/-- A line ends in a return or it does not; the ending is all that is dropped. -/
theorem dropReturn_cases (line : List Char) :
    (line.getLast? ≠ some '\r' ∧ dropReturn line = line) ∨
      ∃ before, line = before ++ ['\r'] ∧ dropReturn line = before := by
  by_cases bare : line.getLast? = some '\r'
  · obtain ⟨before, rfl⟩ := List.getLast?_eq_some_iff.mp bare
    exact .inr ⟨before, rfl, dropReturn_append before⟩
  · exact .inl ⟨bare, dropReturn_of_bare bare⟩

theorem lines_of_lines {text : List Char} {found : List (List Char)} (h : Lines text found) :
    lines text = found := by
  induction h with
  | nil => rfl
  | last unended text => exact lines_of_not_mem unended text
  | feed one bare _ ih => rw [lines_feed one, dropReturn_of_bare bare, ih]
  | @returnFeed line rest more one _ ih =>
    have whole : '\n' ∉ line ++ ['\r'] := by simpa using one
    have parts : line ++ '\r' :: '\n' :: rest = (line ++ ['\r']) ++ '\n' :: rest := by simp
    rw [parts, lines_feed whole, dropReturn_append, ih]

/-- Cuts a text at its first line feed and goes on with what follows it. -/
theorem feed_induction {motive : List Char → Prop}
    (last : ∀ text, '\n' ∉ text → motive text)
    (feed : ∀ line rest, '\n' ∉ line → motive rest → motive (line ++ '\n' :: rest))
    (text : List Char) : motive text := by
  induction hn : text.length using Nat.strongRecOn generalizing text with
  | ind n ih =>
    -- either there is a feed, and the text behind it is shorter, or this is the last line
    by_cases more : '\n' ∈ text
    · obtain ⟨line, rest, rfl, one⟩ := List.eq_append_cons_of_mem more
      refine feed line rest one (ih rest.length ?_ rest rfl)
      rw [← hn, List.length_append, List.length_cons]
      omega
    · exact last text more

theorem lines_spec (text : List Char) : Lines text (lines text) := by
  induction text using feed_induction with
  | last text unended =>
    by_cases empty : text = []
    · rw [empty]
      exact .nil
    · rw [lines_of_not_mem unended empty]
      exact .last unended empty
  | feed line rest one ih =>
    rw [lines_feed one]
    -- whether a return stands before the feed tells the two kinds of endings apart
    rcases dropReturn_cases line with ⟨bare, same⟩ | ⟨before, rfl, same⟩
    · rw [same]
      exact .feed one bare ih
    · have inner : '\n' ∉ before := fun mem => one (List.mem_append_left _ mem)
      rw [same, List.append_assoc]
      exact .returnFeed inner ih

/-- The lines that are found are the lines of the text. -/
theorem lines_iff {text : List Char} {found : List (List Char)} :
    Lines text found ↔ found = lines text := by
  constructor
  · intro h
    exact (lines_of_lines h).symm
  · rintro rfl
    exact lines_spec text

theorem Lines.not_mem {text line : List Char} {found : List (List Char)} (h : Lines text found)
    (mem : line ∈ found) : '\n' ∉ line := by
  induction h with
  | nil => cases mem
  | last unended _ =>
    rw [List.mem_singleton.mp mem]
    exact unended
  | feed one _ _ ih | returnFeed one _ ih =>
    rcases List.mem_cons.mp mem with rfl | mem
    · exact one
    · exact ih mem

/-! ## Trimming

Trimming drops blanks at the start, then at the end of what is left. Both ends are dealt with by
one lemma each, the end by way of the reversed text. -/

theorem isBlank_return : isBlank '\r' = true := by decide

theorem trimEnd_append_blanks {back : List Char} (blank : ∀ c ∈ back, isBlank c = true)
    (text : List Char) : trimEnd (text ++ back) = trimEnd text := by
  have front : ∀ c ∈ back.reverse, isBlank c = true := fun c mem => blank c (List.mem_reverse.mp mem)
  rw [trimEnd, List.reverse_append, List.dropWhile_append_of_pos front]
  rfl

theorem trimEnd_append_blank {c : Char} (blank : isBlank c = true) (text : List Char) :
    trimEnd (text ++ [c]) = trimEnd text :=
  trimEnd_append_blanks (by simp [blank]) text

theorem trimEnd_parts (text : List Char) :
    ∃ back, text = trimEnd text ++ back ∧ ∀ c ∈ back, isBlank c = true := by
  refine ⟨(text.reverse.takeWhile isBlank).reverse, ?_, fun c mem => ?_⟩
  · rw [trimEnd, ← List.reverse_append, List.takeWhile_append_dropWhile, List.reverse_reverse]
  · exact List.all_eq_true.mp List.all_takeWhile c (List.mem_reverse.mp mem)

/-- Trimming takes blanks away at both ends, and nothing else. -/
theorem trim_parts (text : List Char) :
    ∃ front back, text = front ++ (trim text ++ back) ∧ (∀ c ∈ front, isBlank c = true) ∧
      ∀ c ∈ back, isBlank c = true := by
  have start : text = text.takeWhile isBlank ++ trimStart text := List.takeWhile_append_dropWhile.symm
  obtain ⟨back, stop, blank⟩ := trimEnd_parts (trimStart text)
  refine ⟨text.takeWhile isBlank, back, ?_, ?_, blank⟩
  · rw [trim, ← stop]
    exact start
  · exact fun c mem => List.all_eq_true.mp List.all_takeWhile c mem

theorem trim_infix (text : List Char) : trim text <:+: text := by
  obtain ⟨front, back, parts, -, -⟩ := trim_parts text
  exact ⟨front, back, by rw [List.append_assoc, ← parts]⟩

theorem trimStart_of_head {text : List Char} (h : ∀ c, text.head? = some c → isBlank c = false) :
    trimStart text = text := by
  cases text with
  | nil => rfl
  | cons c rest => rw [trimStart, List.dropWhile_cons_of_neg (by simp [h c rfl])]

theorem trimEnd_of_last {text : List Char}
    (h : ∀ c, text.getLast? = some c → isBlank c = false) : trimEnd text = text := by
  have back : trimStart text.reverse = text.reverse := by
    apply trimStart_of_head
    rw [List.head?_reverse]
    exact h
  show (trimStart text.reverse).reverse = text
  rw [back, List.reverse_reverse]

theorem not_blank_head_trimStart {text : List Char} {c : Char}
    (h : (trimStart text).head? = some c) : isBlank c = false := by
  have first := List.head?_dropWhile_not isBlank text
  rw [show List.dropWhile isBlank text = trimStart text from rfl, h] at first
  simpa using first

theorem not_blank_last_trimEnd {text : List Char} {c : Char}
    (h : (trimEnd text).getLast? = some c) : isBlank c = false := by
  have back : trimEnd text = (trimStart text.reverse).reverse := rfl
  rw [back, List.getLast?_reverse] at h
  exact not_blank_head_trimStart h

theorem not_blank_head_trim {text : List Char} {c : Char} (h : (trim text).head? = some c) :
    isBlank c = false := by
  have back : (trimStart text).reverse.dropWhile isBlank <:+ (trimStart text).reverse :=
    List.dropWhile_suffix _
  rw [← List.reverse_prefix, List.reverse_reverse] at back
  obtain ⟨rest, whole⟩ := back
  have starts : (trimStart text).head? = some c := by
    rw [← whole, List.head?_append, show (List.reverse _).head? = some c from h]
    rfl
  exact not_blank_head_trimStart starts

theorem trim_trim (text : List Char) : trim (trim text) = trim text := by
  have start : trimStart (trim text) = trim text :=
    trimStart_of_head fun c => not_blank_head_trim
  have stop : trimEnd (trim text) = trim text :=
    trimEnd_of_last fun c => not_blank_last_trimEnd
  rw [trim, start, stop]

theorem trim_append_blanks {back : List Char} (blank : ∀ c ∈ back, isBlank c = true)
    (text : List Char) : trim (text ++ back) = trim text := by
  -- they are dropped either with the blanks in front, when nothing else is there, or behind
  show trimEnd (trimStart (text ++ back)) = trimEnd (trimStart text)
  rw [trimStart, List.dropWhile_append]
  split
  · next empty =>
    have nothing : trimStart text = [] := List.isEmpty_iff.mp empty
    rw [nothing, ← List.append_nil back, List.dropWhile_append_of_pos blank]
    rfl
  · exact trimEnd_append_blanks blank _

/-- The return that belongs to a line ending is trimmed with it. -/
theorem trim_dropReturn (line : List Char) : trim (dropReturn line) = trim line := by
  rcases dropReturn_cases line with ⟨-, same⟩ | ⟨before, rfl, same⟩
  · rw [same]
  · have blank : ∀ c ∈ ['\r'], isBlank c = true := by simp [isBlank_return]
    rw [same, trim_append_blanks blank]

end AzcRepair.Text
