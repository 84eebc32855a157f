import AzcRepair.Proofs.Settings.Quotes
import Mathlib.Data.List.TakeWhile

/-!
# What the texts of variables stand for

The text of a variable is a value when all of it can be read as one: a truth value, a string in
quotes, a character, a list in brackets, entries in braces, or a word, which is a number or a text
without the blanks around it. A text that is no value stands for itself.

* `Value`, `Items`, `Entries` — the grammar of values.
* `all_read` — what the grammar describes is read, with enough fuel and in front of whatever may
  follow it.
* `value_of_value?`, `items_of_items?`, `entries_of_entries?` — what is read the grammar describes.
* `value?_eq_some_iff` — both, for a whole text.
* `ofText_eq_self_iff` — the texts that stand for themselves.
-/

namespace AzcRepair.Settings.Environment

variable {text inner rest : List Char} {fuel : Nat}

/-! ## The grammar

A word takes all characters up to the next separator, spaces among them; they are trimmed
afterwards. Any other value is read from its first character on, and the spaces around it are
skipped. -/

/-- A run of spaces. -/
def Spaces (text : List Char) : Prop :=
  ∀ c ∈ text, isSpace c = true

/-- What begins a value that is no word. Brackets do too, and they are in no word anyway. -/
def openings : List String :=
  ["true", "false", "\"", "'"]

/-- A text without separators that does not begin like another value. -/
structure Word (text : List Char) : Prop where
  plain : ∀ c ∈ text, isSeparator c = false
  begins : ∀ start ∈ openings, ¬ start.toList <+: skipSpaces text

/-- The texts of a key. -/
inductive Key : List Char → String → Prop
  | bare {name : List Char} (nonempty : name ≠ []) (all : ∀ c ∈ name, isKeyChar c = true) :
    Key name (String.ofList name)
  | quoted {inner meant : List Char} (quoted : Quoted inner meant) :
    Key ('"' :: (inner ++ ['"'])) (String.ofList meant)

mutual

/-- The texts of a value with the spaces around it. -/
inductive Value : List Char → Json → Prop
  | word {text : List Char} (isWord : Word text) : Value text (ofWord (Text.trim text))
  | spaced {before text after : List Char} {value : Json} (spacesBefore : Spaces before)
    (typed : Typed text value) (spacesAfter : Spaces after) :
    Value (before ++ (text ++ after)) value

/-- The texts of a value that is no word. -/
inductive Typed : List Char → Json → Prop
  | isTrue : Typed ['t', 'r', 'u', 'e'] (.bool true)
  | isFalse : Typed ['f', 'a', 'l', 's', 'e'] (.bool false)
  | quoted {inner meant : List Char} (quoted : Quoted inner meant) :
    Typed ('"' :: (inner ++ ['"'])) (.string (String.ofList meant))
  | character (c : Char) : Typed ['\'', c, '\''] (.string (String.singleton c))
  | list {text : List Char} {items : List Json} (inside : Items text items) :
    Typed ('[' :: text) (.array items)
  | entries {text : List Char} {members : List (String × Json)} (inside : Entries text members) :
    Typed ('\x7b' :: text) (.object (Json.lastOfEach members))

/-- The texts of the values in brackets, with the bracket that closes them. A comma may stand behind
the last one. -/
inductive Items : List Char → List Json → Prop
  | closed : Items [']'] []
  | last {text : List Char} {item : Json} (value : Value text item) (nonempty : text ≠ []) :
    Items (text ++ [']']) [item]
  | more {text rest : List Char} {item : Json} {items : List Json} (value : Value text item)
    (further : Items rest items) : Items (text ++ ',' :: rest) (item :: items)

/-- The texts of the entries in braces, with the brace that closes them. -/
inductive Entries : List Char → List (String × Json) → Prop
  | closed : Entries ['\x7d'] []
  | last {text : List Char} {entry : String × Json} (one : Entry text entry) :
    Entries (text ++ ['\x7d']) [entry]
  | more {text rest : List Char} {entry : String × Json} {members : List (String × Json)}
    (one : Entry text entry) (further : Entries rest members) :
    Entries (text ++ ',' :: rest) (entry :: members)

/-- The texts of a key and its value. -/
inductive Entry : List Char → String × Json → Prop
  | made {before key after text : List Char} {name : String} {value : Json}
    (spacesBefore : Spaces before) (named : Key key name) (spacesAfter : Spaces after)
    (given : Value text value) : Entry (before ++ (key ++ (after ++ '=' :: text))) (name, value)

end

/-! ## Spaces and words

What follows a value decides where a word ends, so the readers are compared in front of a text
that starts with a separator, or is empty. -/

theorem skipSpaces_append {before : List Char} (spaces : Spaces before) (text : List Char) :
    skipSpaces (before ++ text) = skipSpaces text :=
  List.dropWhile_append_of_pos spaces

theorem skipSpaces_cons {c : Char} (other : isSpace c = false) (text : List Char) :
    skipSpaces (c :: text) = c :: text :=
  List.dropWhile_cons_of_neg (by simp [other])

theorem isSpace_cases {c : Char} (space : isSpace c = true) :
    c = ' ' ∨ c = '\t' ∨ c = '\n' ∨ c = '\x0c' ∨ c = '\r' := by
  simpa [isSpace, or_assoc] using space

theorem isBlank_of_isSpace {c : Char} (space : isSpace c = true) : Text.isBlank c = true := by
  rcases isSpace_cases space with rfl | rfl | rfl | rfl | rfl <;> decide

theorem isSeparator_of_isSpace {c : Char} (space : isSpace c = true) : isSeparator c = false := by
  rcases isSpace_cases space with rfl | rfl | rfl | rfl | rfl <;> rfl

theorem trim_skipSpaces (text : List Char) : Text.trim (skipSpaces text) = Text.trim text := by
  have same : Text.trimStart (skipSpaces text) = Text.trimStart text := by
    have spaces : ∀ c ∈ text.takeWhile isSpace, Text.isBlank c = true := fun c mem =>
      isBlank_of_isSpace (List.mem_takeWhile_imp mem)
    calc Text.trimStart (skipSpaces text)
      _ = Text.trimStart (text.takeWhile isSpace ++ skipSpaces text) :=
        (List.dropWhile_append_of_pos spaces).symm
      _ = Text.trimStart text := congrArg Text.trimStart List.takeWhile_append_dropWhile
  rw [Text.trim, same, Text.trim]

/-- What may follow a value: nothing, a comma, or what closes the values or entries around it. -/
def Ends (rest : List Char) : Prop :=
  ∀ c ∈ rest.head?, c = ',' ∨ c = ']' ∨ c = '\x7d'

theorem Ends.skipSpaces (ends : Ends rest) : skipSpaces rest = rest := by
  cases rest with
  | nil => rfl
  | cons c rest =>
    refine skipSpaces_cons ?_ rest
    rcases ends c rfl with rfl | rfl | rfl <;> rfl

theorem Ends.takeWhile (ends : Ends rest) :
    rest.takeWhile (!isSeparator ·) = [] ∧ rest.dropWhile (!isSeparator ·) = rest := by
  cases rest with
  | nil => exact ⟨rfl, rfl⟩
  | cons c rest =>
    have separator : isSeparator c = true := by
      rcases ends c rfl with rfl | rfl | rfl <;> rfl
    exact ⟨List.takeWhile_cons_of_neg (by simp [separator]),
      List.dropWhile_cons_of_neg (by simp [separator])⟩

theorem Ends.skipSpaces_append (ends : Ends rest) (text : List Char) :
    Environment.skipSpaces (text ++ rest) = Environment.skipSpaces text ++ rest := by
  unfold Environment.skipSpaces
  rw [List.dropWhile_append]
  split
  · next spaces =>
    rw [List.isEmpty_iff.mp spaces, List.nil_append]
    exact ends.skipSpaces
  · rfl

/-- What begins like a word and goes on like none is no opening. -/
theorem Ends.prefix_append {start : List Char} (ends : Ends rest)
    (inStart : ∀ c ∈ start, isSeparator c = false) (inText : ∀ c ∈ text, isSeparator c = false)
    (starts : start <+: text ++ rest) : start <+: text := by
  obtain ⟨behind, same⟩ := starts
  have words := congrArg (List.takeWhile (!isSeparator ·)) same
  rw [List.takeWhile_append_of_pos (by simpa using inStart),
    List.takeWhile_append_of_pos (by simpa using inText), ends.takeWhile.1,
    List.append_nil] at words
  exact ⟨_, words⟩

theorem isSeparator_of_openings :
    ∀ start ∈ openings, ∀ c ∈ start.toList, isSeparator c = false := by
  have plain : (openings.all fun start => start.toList.all (!isSeparator ·)) = true := by decide
  simpa using plain

theorem value?_word (isWord : Word text) (ends : Ends rest) :
    value? (fuel + 1) (text ++ rest) = some (ofWord (Text.trim text), rest) := by
  have plain : ∀ c ∈ skipSpaces text, isSeparator c = false := fun c mem =>
    isWord.plain c ((List.dropWhile_suffix _).subset mem)
  have begins : ∀ start ∈ openings, ¬ start.toList <+: skipSpaces text ++ rest :=
    fun start mem starts => isWord.begins start mem
      (ends.prefix_append (isSeparator_of_openings start mem) plain starts)
  have bracket : ∀ c others, skipSpaces text ++ rest = c :: others → c ≠ '\x7b' ∧ c ≠ '[' := by
    intro c others same
    -- an empty word is followed by a separator, and a separator opens nothing
    cases shape : skipSpaces text with
    | nil =>
      rw [shape, List.nil_append] at same
      rcases ends c (same ▸ rfl) with rfl | rfl | rfl <;> exact ⟨nofun, nofun⟩
    | cons first more =>
      rw [shape] at same
      obtain ⟨rfl, -⟩ := List.cons.inj same
      have other := plain first (shape ▸ List.mem_cons_self)
      constructor <;> (rintro rfl; cases other)
  have word : (skipSpaces text ++ rest).takeWhile (!isSeparator ·) = skipSpaces text := by
    rw [List.takeWhile_append_of_pos (by simpa using plain), ends.takeWhile.1, List.append_nil]
  have behind : (skipSpaces text ++ rest).dropWhile (!isSeparator ·) = rest := by
    rw [List.dropWhile_append_of_pos (by simpa using plain), ends.takeWhile.2]
  rw [value?, ends.skipSpaces_append]
  generalize skipSpaces text ++ rest = whole at *
  -- of all the ways in which a value may begin, only the last one is left
  split
  · exact absurd ⟨_, rfl⟩ (begins "true" (by decide))
  · exact absurd ⟨_, rfl⟩ (begins "false" (by decide))
  · exact absurd rfl (bracket _ _ rfl).1
  · exact absurd rfl (bracket _ _ rfl).2
  · exact absurd ⟨_, rfl⟩ (begins "\"" (by decide))
  · exact absurd ⟨_, rfl⟩ (begins "'" (by decide))
  · exact absurd ⟨_, rfl⟩ (begins "'" (by decide))
  · rw [word, behind, trim_skipSpaces]
    exact congrArg (fun rest => some (_, rest)) ends.skipSpaces

/-! ## What the grammar describes is read

The readers take fuel, two units for each character. The induction is on the fuel, since a value
may hold items and entries and these hold values again. -/

theorem Key.begins {key : List Char} {name : String} (named : Key key name) :
    ∃ c others, key = c :: others ∧ isSpace c = false ∧ c ≠ '\x7d' := by
  cases named with
  | bare nonempty all =>
    obtain ⟨c, others, rfl⟩ := List.exists_cons_of_ne_nil nonempty
    have isKey : isKeyChar c = true := all c List.mem_cons_self
    refine ⟨c, others, rfl, Bool.eq_false_iff.mpr fun space => ?_, ?_⟩
    · rcases isSpace_cases space with rfl | rfl | rfl | rfl | rfl <;> cases isKey
    · rintro rfl
      cases isKey
  | quoted => exact ⟨'"', _, rfl, rfl, nofun⟩

theorem key?_of_key {key : List Char} {name : String} (named : Key key name)
    (follows : ∀ c ∈ rest.head?, isKeyChar c = false) : key? (key ++ rest) = some (name, rest) := by
  cases named with
  | bare nonempty all =>
    have stops : rest.takeWhile isKeyChar = [] ∧ rest.dropWhile isKeyChar = rest := by
      cases rest with
      | nil => exact ⟨rfl, rfl⟩
      | cons c rest => simp [follows c rfl]
    have word : (key ++ rest).takeWhile isKeyChar = key := by
      rw [List.takeWhile_append_of_pos all, stops.1, List.append_nil]
    have behind : (key ++ rest).dropWhile isKeyChar = rest := by
      rw [List.dropWhile_append_of_pos all, stops.2]
    have bare : ∀ others, key ++ rest ≠ '"' :: others := by
      obtain ⟨c, others, rfl⟩ := List.exists_cons_of_ne_nil nonempty
      rintro _ same
      obtain ⟨rfl, -⟩ := List.cons.inj same
      cases all '"' List.mem_cons_self
    rw [key?]
    · rw [word, behind]
      exact if_neg (by simpa using nonempty)
    · exact bare
  | quoted quoted =>
    rw [List.cons_append, List.append_assoc]
    exact quoted?_of_quoted quoted rest

theorem Typed.begins {value : Json} (typed : Typed text value) :
    ∃ c others, text = c :: others ∧ isSpace c = false ∧ c ≠ ']' := by
  cases typed <;> exact ⟨_, _, rfl, rfl, nofun⟩

theorem Value.begins {value : Json} (given : Value text value) :
    ∀ c ∈ text.head?, c ≠ ']' := by
  cases given with
  | word isWord =>
    rintro c mem rfl
    cases isWord.plain ']' (List.mem_of_mem_head? mem)
  | @spaced before inner after value spacesBefore typed spacesAfter =>
    rintro c mem rfl
    -- the bracket would be the first character of the value, or a space
    cases before with
    | nil =>
      obtain ⟨c, others, rfl, -, other⟩ := typed.begins
      exact other (Option.some.inj mem)
    | cons first before =>
      obtain rfl : first = ']' := Option.some.inj mem
      cases spacesBefore ']' List.mem_cons_self

/-- With so much fuel, the texts of values are read. -/
def ValuesRead (fuel : Nat) : Prop :=
  ∀ rest {text value}, Value text value → Ends rest → 2 * text.length + 1 ≤ fuel →
    value? fuel (text ++ rest) = some (value, rest)

def ItemsRead (fuel : Nat) : Prop :=
  ∀ rest {text items}, Items text items → 2 * text.length ≤ fuel →
    items? fuel (text ++ rest) = some (items, rest)

def EntriesRead (fuel : Nat) : Prop :=
  ∀ rest {text members}, Entries text members → 2 * text.length ≤ fuel →
    entries? fuel (text ++ rest) = some (members, rest)

theorem valuesRead_succ (items : ItemsRead fuel) (entries : EntriesRead fuel) :
    ValuesRead (fuel + 1) := by
  intro rest text value given ends enough
  cases given with
  | word isWord => exact value?_word isWord ends
  | @spaced before inner after value spacesBefore typed spacesAfter =>
    have behind : skipSpaces (after ++ rest) = rest := by
      rw [skipSpaces_append spacesAfter, ends.skipSpaces]
    have front : skipSpaces (before ++ (inner ++ after) ++ rest) = inner ++ (after ++ rest) := by
      obtain ⟨c, others, rfl, other, -⟩ := typed.begins
      rw [List.append_assoc, skipSpaces_append spacesBefore, List.append_assoc, List.cons_append,
        skipSpaces_cons other]
    rw [List.length_append, List.length_append] at enough
    rw [value?, front]
    -- the three kinds that hold nothing are computed, the others read what they hold
    cases typed with
    | isTrue | isFalse | character => exact congrArg (fun rest => some (_, rest)) behind
    | quoted quoted =>
      have read := quoted?_of_quoted quoted (after ++ rest)
      simp only [List.cons_append, List.append_assoc, List.nil_append, read, behind,
        Option.bind_eq_bind, Option.bind_some, Option.pure_def]
    | list inside =>
      have read := items (after ++ rest) inside (by rw [List.length_cons] at enough; omega)
      simp only [List.cons_append, read, behind, Option.bind_eq_bind, Option.bind_some,
        Option.pure_def]
    | entries inside =>
      have read := entries (after ++ rest) inside
        (by rw [List.length_cons] at enough; omega)
      simp only [List.cons_append, read, behind, Option.bind_eq_bind, Option.bind_some,
        Option.pure_def]

theorem itemsRead_succ (values : ValuesRead fuel) (items : ItemsRead fuel) :
    ItemsRead (fuel + 1) := by
  intro rest text found inside enough
  cases inside with
  | closed => rw [List.singleton_append, items?]
  | @last inner item given nonempty =>
    rw [List.length_append, List.length_singleton] at enough
    have read := values (']' :: rest) given (by simp [Ends]) (by omega)
    have notClosed : ∀ others, inner ++ ']' :: rest ≠ ']' :: others := by
      rintro others same
      obtain ⟨c, more, rfl⟩ := List.exists_cons_of_ne_nil nonempty
      obtain ⟨rfl, -⟩ := List.cons.inj same
      exact given.begins ']' rfl rfl
    rw [List.append_assoc, List.singleton_append, items?, read]
    · rfl
    · exact notClosed
  | @more inner others item found given further =>
    rw [List.length_append, List.length_cons] at enough
    have read := values (',' :: (others ++ rest)) given (by simp [Ends]) (by omega)
    have later := items rest further (by omega)
    have notClosed : ∀ others', inner ++ ',' :: (others ++ rest) ≠ ']' :: others' := by
      rintro _ same
      cases inner with
      | nil => cases same
      | cons c inner =>
        obtain ⟨rfl, -⟩ := List.cons.inj same
        exact given.begins ']' rfl rfl
    rw [List.append_assoc, List.cons_append, items?, read]
    · simp [later]
    · exact notClosed

/-- How entries go on behind one of them. -/
def afterEntry (fuel : Nat) (entry : String × Json) :
    List Char → Option (List (String × Json) × List Char)
  | ',' :: rest => (entries? fuel rest).map fun (members, rest) => (entry :: members, rest)
  | '\x7d' :: rest => some ([entry], rest)
  | _ => none

theorem entries?_entry (values : ValuesRead fuel) {entry : String × Json} (one : Entry text entry)
    (ends : Ends rest) (enough : 2 * text.length ≤ fuel) :
    entries? (fuel + 1) (text ++ rest) = afterEntry fuel entry rest := by
  obtain @⟨before, key, after, inner, name, value, spacesBefore, named, spacesAfter, given⟩ := one
  obtain ⟨c, others, rfl, other, notBrace⟩ := named.begins
  simp only [List.length_append, List.length_cons] at enough
  have front : skipSpaces (before ++ (c :: others ++ (after ++ '=' :: inner)) ++ rest) =
      c :: others ++ (after ++ '=' :: (inner ++ rest)) := by
    rw [List.append_assoc, skipSpaces_append spacesBefore, List.append_assoc, List.cons_append,
      skipSpaces_cons other]
    simp
  have keyed : key? (c :: others ++ (after ++ '=' :: (inner ++ rest))) =
      some (name, after ++ '=' :: (inner ++ rest)) := by
    refine key?_of_key named ?_
    cases after with
    | nil =>
      rintro _ ⟨⟩
      rfl
    | cons space after =>
      rintro _ ⟨⟩
      rcases isSpace_cases (spacesAfter space List.mem_cons_self) with
        rfl | rfl | rfl | rfl | rfl <;> rfl
  have mark : skipSpaces (after ++ '=' :: (inner ++ rest)) = '=' :: (inner ++ rest) := by
    rw [skipSpaces_append spacesAfter, skipSpaces_cons rfl]
  -- neither spaces nor the first character of a key is a closing brace
  have notClosed : ∀ behind, before ++ (c :: others ++ (after ++ '=' :: inner)) ++ rest ≠
      '\x7d' :: behind := by
    intro behind same
    cases before with
    | nil =>
      obtain ⟨rfl, -⟩ := List.cons.inj same
      exact notBrace rfl
    | cons space before =>
      obtain ⟨rfl, -⟩ := List.cons.inj same
      cases spacesBefore '\x7d' List.mem_cons_self
  rw [entries?, front, keyed]
  · simp only [Option.bind_eq_bind, Option.bind_some, mark, values rest given ends (by omega)]
    split
    · rw [afterEntry]
      cases entries? fuel _ <;> rfl
    · rw [afterEntry]
      rfl
    · rw [afterEntry] <;> assumption
  · exact notClosed

theorem entriesRead_succ (values : ValuesRead fuel) (entries : EntriesRead fuel) :
    EntriesRead (fuel + 1) := by
  intro rest text found inside enough
  cases inside with
  | closed => rw [List.singleton_append, entries?]
  | @last inner entry one =>
    rw [List.length_append, List.length_singleton] at enough
    rw [List.append_assoc, List.singleton_append,
      entries?_entry values one (by simp [Ends]) (by omega), afterEntry]
  | @more inner others entry members one further =>
    rw [List.length_append, List.length_cons] at enough
    rw [List.append_assoc, List.cons_append,
      entries?_entry values one (by simp [Ends]) (by omega), afterEntry,
      entries rest further (by omega), Option.map_some]

/-- Enough fuel reads all that the grammar describes. -/
theorem all_read (fuel : Nat) : ValuesRead fuel ∧ ItemsRead fuel ∧ EntriesRead fuel := by
  -- the induction is on the fuel, so that all three may use each other for what lies inside
  induction fuel with
  | zero =>
    refine ⟨fun _ _ _ _ _ enough => absurd enough (by simp), fun _ _ _ inside enough => ?_,
      fun _ _ _ inside enough => ?_⟩
    · cases inside <;> simp at enough
    · cases inside <;> simp at enough
  | succ fuel ih =>
    obtain ⟨values, items, entries⟩ := ih
    exact ⟨valuesRead_succ items entries, itemsRead_succ values items,
      entriesRead_succ values entries⟩

/-! ## What is read the grammar describes

The other direction follows the readers: each of their branches leaves a piece of the text that
has been used up, and the grammar describes this piece. -/

theorem isSpace_of_skipSpaces_eq_cons {c : Char} {others : List Char}
    (same : skipSpaces text = c :: others) : isSpace c = false := by
  have head := List.head?_dropWhile_not isSpace text
  unfold skipSpaces at same
  rw [same] at head
  exact head

theorem takeWhile_append_skipSpaces (text : List Char) :
    text.takeWhile isSpace ++ skipSpaces text = text :=
  List.takeWhile_append_dropWhile

theorem spaces_takeWhile (text : List Char) : Spaces (text.takeWhile isSpace) :=
  fun _ mem => List.mem_takeWhile_imp mem

theorem exists_spaced {inner behind : List Char} {value : Json} (typed : Typed inner value)
    (front : skipSpaces text = inner ++ behind) :
    ∃ piece, text = piece ++ skipSpaces behind ∧ Value piece value := by
  refine ⟨text.takeWhile isSpace ++ (inner ++ behind.takeWhile isSpace), ?_,
    .spaced (spaces_takeWhile text) typed (spaces_takeWhile behind)⟩
  rw [List.append_assoc, List.append_assoc, takeWhile_append_skipSpaces, ← front,
    takeWhile_append_skipSpaces]

theorem exists_word (begins : ∀ start ∈ openings, ¬ start.toList <+: skipSpaces text) :
    ∃ piece, text = piece ++ skipSpaces ((skipSpaces text).dropWhile (!isSeparator ·)) ∧
      Value piece (ofWord (Text.trim ((skipSpaces text).takeWhile (!isSeparator ·)))) := by
  have behind : skipSpaces ((skipSpaces text).dropWhile (!isSeparator ·)) =
      (skipSpaces text).dropWhile (!isSeparator ·) := by
    have head := List.head?_dropWhile_not (!isSeparator ·) (skipSpaces text)
    cases shape : (skipSpaces text).dropWhile (!isSeparator ·) with
    | nil => rfl
    | cons c others =>
      rw [shape] at head
      have separator : isSeparator c = true := by simpa using head
      refine skipSpaces_cons (Bool.eq_false_iff.mpr fun space => ?_) others
      cases (isSeparator_of_isSpace space).symm.trans separator
  have front : skipSpaces (text.takeWhile isSpace ++
      (skipSpaces text).takeWhile (!isSeparator ·)) =
        (skipSpaces text).takeWhile (!isSeparator ·) := by
    rw [skipSpaces_append (spaces_takeWhile text)]
    cases shape : skipSpaces text with
    | nil => rfl
    | cons c others =>
      have other := isSpace_of_skipSpaces_eq_cons shape
      rw [List.takeWhile_cons]
      split
      · exact skipSpaces_cons other _
      · rfl
  -- the spaces behind a word are part of it, since no space is a separator
  refine ⟨text.takeWhile isSpace ++ (skipSpaces text).takeWhile (!isSeparator ·), ?_, ?_⟩
  · rw [behind, List.append_assoc, List.takeWhile_append_dropWhile, takeWhile_append_skipSpaces]
  · have isWord : Word (text.takeWhile isSpace ++
        (skipSpaces text).takeWhile (!isSeparator ·)) := by
      refine ⟨fun c mem => ?_, fun start mem starts => begins start mem ?_⟩
      · rcases List.mem_append.mp mem with space | plain
        · exact isSeparator_of_isSpace (spaces_takeWhile text c space)
        · simpa using List.mem_takeWhile_imp plain
      · rw [front] at starts
        exact starts.trans (List.takeWhile_prefix _)
    have value := Value.word isWord
    rwa [← trim_skipSpaces, front] at value

theorem key_of_key? {name : String} (read : key? text = some (name, rest)) :
    ∃ piece, text = piece ++ rest ∧ Key piece name := by
  unfold key? at read
  -- a quote opens a quoted key, and every other key is bare
  split at read
  · obtain ⟨inner, meant, rfl, rfl, described⟩ := quoted_of_quoted? read
    exact ⟨'"' :: (inner ++ ['"']), by simp, .quoted described⟩
  · obtain ⟨nonempty, made⟩ := Option.ite_none_left_eq_some.mp read
    cases made
    refine ⟨text.takeWhile isKeyChar, List.takeWhile_append_dropWhile.symm, .bare ?_ ?_⟩
    · simpa using nonempty
    · exact fun c mem => List.mem_takeWhile_imp mem

theorem exists_entry {after inner behind : List Char} {name : String} {value : Json}
    (keyed : key? (skipSpaces text) = some (name, after))
    (mark : skipSpaces after = '=' :: (inner ++ behind)) (given : Value inner value) :
    ∃ piece, text = piece ++ behind ∧ Entry piece (name, value) := by
  obtain ⟨key, front, named⟩ := key_of_key? keyed
  refine ⟨_, ?_, .made (spaces_takeWhile text) named (spaces_takeWhile after) given⟩
  calc text
    _ = text.takeWhile isSpace ++ skipSpaces text := (takeWhile_append_skipSpaces text).symm
    _ = text.takeWhile isSpace ++ (key ++ (after.takeWhile isSpace ++ skipSpaces after)) := by
      rw [front, takeWhile_append_skipSpaces]
    _ = text.takeWhile isSpace ++ (key ++ (after.takeWhile isSpace ++ '=' :: inner)) ++ behind := by
      rw [mark]
      simp

mutual

theorem value_of_value? : ∀ (fuel : Nat) {text rest : List Char} {value : Json},
    value? fuel text = some (value, rest) →
      ∃ piece, text = piece ++ rest ∧ Value piece value
  | 0, _, _, _, read => nomatch read
  | fuel + 1, text, rest, value, read => by
    unfold value? at read
    dsimp only at read
    split at read
    · next front =>
      cases read
      exact exists_spaced .isTrue front
    · next front =>
      cases read
      exact exists_spaced .isFalse front
    · next front =>
      obtain ⟨⟨members, behind⟩, entries, made⟩ := Option.bind_eq_some_iff.mp read
      cases made
      obtain ⟨inside, rfl, described⟩ := entries_of_entries? fuel entries
      exact exists_spaced (.entries described) front
    · next front =>
      obtain ⟨⟨items, behind⟩, listed, made⟩ := Option.bind_eq_some_iff.mp read
      cases made
      obtain ⟨inside, rfl, described⟩ := items_of_items? fuel listed
      exact exists_spaced (.list described) front
    · next front =>
      obtain ⟨⟨string, behind⟩, quoted, made⟩ := Option.bind_eq_some_iff.mp read
      cases made
      obtain ⟨inner, meant, rfl, rfl, described⟩ := quoted_of_quoted? quoted
      exact exists_spaced (.quoted described) (by simpa using front)
    · next front =>
      cases read
      exact exists_spaced (.character _) front
    · cases read
    · next yes no _ _ quote _ apostrophe =>
      cases read
      have other : ∀ start ∈ openings, ¬ start.toList <+: skipSpaces text := by
        simp only [openings, List.forall_mem_cons]
        exact ⟨fun ⟨_, same⟩ => yes _ same.symm, fun ⟨_, same⟩ => no _ same.symm,
          fun ⟨_, same⟩ => quote _ same.symm, fun ⟨_, same⟩ => apostrophe _ same.symm,
          List.forall_mem_nil _⟩
      exact exists_word other

theorem items_of_items? : ∀ (fuel : Nat) {text rest : List Char} {items : List Json},
    items? fuel text = some (items, rest) → ∃ piece, text = piece ++ rest ∧ Items piece items
  | 0, _, _, _, read => nomatch read
  | fuel + 1, text, rest, items, read => by
    unfold items? at read
    split at read
    · cases read
    · cases read
      exact ⟨[']'], rfl, .closed⟩
    · next fuel' step notClosed =>
      cases step
      obtain ⟨⟨item, after⟩, first, others⟩ := Option.bind_eq_some_iff.mp read
      obtain ⟨piece, rfl, given⟩ := value_of_value? fuel first
      dsimp only at others
      split at others
      · obtain ⟨⟨more, behind⟩, listed, made⟩ := Option.bind_eq_some_iff.mp others
        cases made
        obtain ⟨inside, rfl, described⟩ := items_of_items? fuel listed
        exact ⟨piece ++ ',' :: inside, by simp, .more given described⟩
      · cases others
        refine ⟨piece ++ [']'], by simp, .last given ?_⟩
        rintro rfl
        exact notClosed _ rfl
      · cases others

theorem entries_of_entries? : ∀ (fuel : Nat) {text rest : List Char}
    {members : List (String × Json)}, entries? fuel text = some (members, rest) →
      ∃ piece, text = piece ++ rest ∧ Entries piece members
  | 0, _, _, _, read => nomatch read
  | fuel + 1, text, rest, members, read => by
    unfold entries? at read
    split at read
    · cases read
    · cases read
      exact ⟨['\x7d'], rfl, .closed⟩
    · next fuel' step _ =>
      cases step
      obtain ⟨⟨name, after⟩, keyed, afterKey⟩ := Option.bind_eq_some_iff.mp read
      dsimp only at afterKey
      split at afterKey
      · next inner mark =>
        obtain ⟨⟨value, behind⟩, first, others⟩ := Option.bind_eq_some_iff.mp afterKey
        obtain ⟨_, rfl, given⟩ := value_of_value? fuel first
        obtain ⟨piece, rfl, one⟩ := exists_entry keyed mark given
        dsimp only at others
        split at others
        · obtain ⟨⟨more, _⟩, entries, made⟩ := Option.bind_eq_some_iff.mp others
          cases made
          obtain ⟨inside, rfl, described⟩ := entries_of_entries? fuel entries
          exact ⟨piece ++ ',' :: inside, by simp, .more one described⟩
        · cases others
          exact ⟨piece ++ ['\x7d'], by simp, .last one⟩
        · cases others
      · cases afterKey

end

/-! ## Whole texts

Put together, a text has at most one value. The texts without any stand for themselves, and so do
the words that no reader changes. -/

theorem value?_eq_some_iff {value : Json} :
    value? (2 * text.length + 2) text = some (value, []) ↔ Value text value := by
  constructor
  · intro read
    obtain ⟨piece, rfl, given⟩ := value_of_value? _ read
    rwa [List.append_nil]
  · intro given
    have read := (all_read (2 * text.length + 2)).1 [] given (by simp [Ends]) (by omega)
    rwa [List.append_nil] at read

theorem Value.unique {value other : Json} (given : Value text value) (again : Value text other) :
    value = other := by
  have same := (value?_eq_some_iff.mpr given).symm.trans (value?_eq_some_iff.mpr again)
  exact (Prod.mk.inj (Option.some.inj same)).1

/-- A text that is a value stands for it. -/
theorem ofText_of_value {text : String} {value : Json} (given : Value text.toList value) :
    ofText text = value := by
  have read := value?_eq_some_iff.mpr given
  rw [String.length_toList] at read
  rw [ofText, read]

/-- A text that is no value stands for itself. -/
theorem ofText_of_not_value {text : String} (nothing : ∀ value, ¬ Value text.toList value) :
    ofText text = .string text := by
  unfold ofText
  split
  · next value read =>
    rw [← String.length_toList] at read
    exact absurd (value?_eq_some_iff.mp read) (nothing value)
  · rfl

theorem Value.ne_null {value : Json} (given : Value text value) : value ≠ .null := by
  cases given with
  | word isWord =>
    unfold ofWord
    dsimp only
    split <;> exact nofun
  | spaced spacesBefore typed spacesAfter => cases typed <;> exact nofun

theorem ofText_ne_null (text : String) : ofText text ≠ .null := by
  by_cases described : ∃ value, Value text.toList value
  · obtain ⟨value, given⟩ := described
    rw [ofText_of_value given]
    exact given.ne_null
  · rw [ofText_of_not_value fun value given => described ⟨value, given⟩]
    exact nofun

/-- The numbers: with a point, or whole and within 64 bits. -/
def IsNumber (text : List Char) : Prop :=
  ('.' ∈ text ∧ (Text.Decimal.read? text).isSome = true) ∨ (whole? text).isSome = true

theorem ofWord_eq_string_iff {meant : String} :
    ofWord text = .string meant ↔ meant = String.ofList text ∧ ¬ IsNumber text := by
  have point : '.' ∈ text ↔ text.contains '.' = true := List.contains_iff_mem.symm
  rw [IsNumber, point, ofWord]
  cases text.contains '.' <;> cases Text.Decimal.read? text <;> cases whole? text <;>
    simp [eq_comm]

/-- A value that is no word is no text as long as its own. -/
theorem Typed.length_lt {meant : String} (typed : Typed text (.string meant)) :
    meant.length < text.length := by
  cases typed with
  | quoted quoted =>
    have short := quoted.length_le
    simp only [String.length_ofList, List.length_cons, List.length_append]
    omega
  | character c => simp

/-- The texts that stand for themselves: words without blanks around them that are no numbers, and
what is no value at all. -/
def Literal (text : String) : Prop :=
  Word text.toList ∧ Text.trim text.toList = text.toList ∧ ¬ IsNumber text.toList ∨
    ∀ value, ¬ Value text.toList value

/-- A value that its own text means is a word without blanks around it that is no number. -/
theorem word_of_value_self {string : String} (length : string.length = text.length)
    (given : Value text (.string string)) :
    Word text ∧ string = String.ofList (Text.trim text) ∧ ¬ IsNumber (Text.trim text) := by
  generalize whole : Json.string string = value at given
  cases given with
  | word isWord => exact ⟨isWord, ofWord_eq_string_iff.mp whole.symm⟩
  | spaced spacesBefore typed spacesAfter =>
    subst whole
    have short := typed.length_lt
    simp only [List.length_append] at length
    omega

theorem ofText_eq_self_iff {text : String} : ofText text = .string text ↔ Literal text := by
  constructor
  · intro same
    -- either the text is a value and must mean itself, or it is none
    by_cases described : ∃ value, Value text.toList value
    · obtain ⟨value, given⟩ := described
      obtain rfl : value = .string text := (ofText_of_value given).symm.trans same
      obtain ⟨isWord, trimmed, number⟩ := word_of_value_self String.length_toList.symm given
      have untrimmed : Text.trim text.toList = text.toList := by
        have characters := congrArg String.toList trimmed
        rw [String.toList_ofList] at characters
        exact characters.symm
      exact .inl ⟨isWord, untrimmed, untrimmed ▸ number⟩
    · exact .inr fun value given => described ⟨value, given⟩
  · rintro (⟨isWord, untrimmed, number⟩ | nothing)
    · have given := Value.word isWord
      rw [untrimmed, ofWord_eq_string_iff.mpr ⟨rfl, number⟩, String.ofList_toList] at given
      exact ofText_of_value given
    · exact ofText_of_not_value nothing

end AzcRepair.Settings.Environment
