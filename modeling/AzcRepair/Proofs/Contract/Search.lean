import AzcRepair.Contract.Reply
import AzcRepair.Proofs.Contract.Block
import AzcRepair.Proofs.Text.Bytes

/-!
# Which block is found

The search walks backwards from the last closing brace of a text and counts. It stops at the first
place from which on the text, up to that brace, opens as many braces as it closes; and where there
is no such place it finds nothing. Places are counted in bytes: the first such place is one between
characters.

* `Ends` — where a walk backwards ends; `blockBack_ends` says that the search ends there.
* `Walks` — the states of the search; `Walks.counted` says that the depth of each is what the braces
  that were passed leave open, and never nothing.
* `LastClosing`, `Level` — the last closing brace, and the places that are level with it.
* `Found` — the part of a text that is found; `found_of_ends` says that the walk ends with it.
* `Nested` — the texts whose braces are properly nested.
* `search_exact` — what is found in every text.
-/

namespace AzcRepair.Contract

open Text (bytes encode)

/-! ## The walk

The search is an accumulator loop: it keeps what it has passed and the number of braces that wait.
Here it is replaced by what it comes to. A walk back from a block ends with the first opening
brace at which the text is even, and before it the text is deep everywhere. -/

/-- As many braces are opened as closed. -/
def Even (text : List Char) : Prop :=
  openings text = closings text

/-- Fewer braces are opened than closed. -/
def Deep (text : List Char) : Prop :=
  openings text < closings text

theorem not_even_of_deep {text : List Char} (deep : Deep text) : ¬ Even text :=
  Nat.ne_of_lt deep

/-- A walk back from a block ends with the first opening brace at which the text is even, or it
never ends. -/
inductive Ends (passed before : List Char) : Option (List Char) → Prop
  | found {part rest : List Char} (parts : before = part ++ openBrace :: rest)
    (even : Even (openBrace :: (part.reverse ++ passed)))
    (first : ∀ shorter, shorter <+: part → Deep (shorter.reverse ++ passed)) :
    Ends passed before (some (openBrace :: (part.reverse ++ passed)))
  | nowhere (never : ∀ part, part <+: before → Deep (part.reverse ++ passed)) :
    Ends passed before none

variable {depth : Nat} {passed before : List Char}

theorem deep_of_counted (waiting : 0 < depth)
    (counted : openings passed + depth = closings passed) : Deep passed := by
  unfold Deep
  omega

theorem openings_closeBrace (text : List Char) : openings (closeBrace :: text) = openings text := by
  rw [openings_cons, if_neg (by decide), Nat.add_zero]

theorem closings_closeBrace (text : List Char) :
    closings (closeBrace :: text) = closings text + 1 := by
  rw [closings_cons, if_pos rfl]

theorem openings_openBrace (text : List Char) :
    openings (openBrace :: text) = openings text + 1 := by
  rw [openings_cons, if_pos rfl]

theorem closings_openBrace (text : List Char) : closings (openBrace :: text) = closings text := by
  rw [closings_cons, if_neg (by decide), Nat.add_zero]

theorem openings_plain {c : Char} (opens : c ≠ openBrace) (text : List Char) :
    openings (c :: text) = openings text := by
  rw [openings_cons, if_neg opens, Nat.add_zero]

theorem closings_plain {c : Char} (closes : c ≠ closeBrace) (text : List Char) :
    closings (c :: text) = closings text := by
  rw [closings_cons, if_neg closes, Nat.add_zero]

theorem Ends.back {c : Char} {result : Option (List Char)} (here : Deep passed)
    (ends : Ends (c :: passed) before result) : Ends passed (c :: before) result := by
  have turned (part : List Char) : (c :: part).reverse ++ passed = part.reverse ++ c :: passed := by
    simp
  have longer {part : List Char}
      (all : ∀ shorter, shorter <+: part → Deep (shorter.reverse ++ c :: passed)) :
      ∀ shorter, shorter <+: c :: part → Deep (shorter.reverse ++ passed) := by
    intro shorter h
    obtain rfl | ⟨less, rfl, inside⟩ := List.prefix_cons_iff.mp h
    · exact here
    · rw [turned]
      exact all less inside
  cases ends with
  | @found part rest parts even first =>
    rw [← turned] at even ⊢
    exact .found (by rw [parts, List.cons_append]) even (longer first)
  | nowhere never => exact .nowhere (longer never)

/-- The search ends as the walk does, when it begins with as many partners to find as the block
lacks. -/
theorem blockBack_ends (waiting : 0 < depth) (counted : openings passed + depth = closings passed) :
    Ends passed before (blockBack depth passed before) := by
  -- the induction is on what stands before; the passed text and the depth change with every
  -- step
  induction before generalizing depth passed with
  | nil =>
    refine .nowhere fun part h => ?_
    rw [List.prefix_nil.mp h]
    exact deep_of_counted waiting counted
  | cons c before ih =>
    have here := deep_of_counted waiting counted
    rw [blockBack]
    -- the depth stays what the passed braces leave open, whichever character is passed
    by_cases closes : c = closeBrace
    · rw [if_pos closes]
      refine (ih (Nat.succ_pos depth) ?_).back here
      rw [closes, openings_closeBrace, closings_closeBrace, ← counted, Nat.add_assoc]
    · rw [if_neg closes]
      by_cases opens : c = openBrace
      · subst opens
        rw [if_pos rfl]
        by_cases last : depth = 1
        · -- the partner of the brace that waited last: the text is even from here on
          rw [if_pos last]
          refine @Ends.found passed _ [] before rfl ?_ fun shorter h => ?_
          · rw [Even, List.reverse_nil, List.nil_append, openings_openBrace, closings_openBrace,
              ← counted, last]
          · rw [List.prefix_nil.mp h]
            exact here
        · rw [if_neg last]
          refine (ih (by omega) ?_).back here
          rw [openings_openBrace, closings_openBrace]
          omega
      · rw [if_neg opens]
        refine (ih waiting ?_).back here
        rw [openings_plain opens, closings_plain closes, counted]

/-- Read backwards, what stands behind the last closing brace is passed over. -/
theorem dropWhile_plain {back : List Char} (plain : closeBrace ∉ back) (front : List Char) :
    (back.reverse ++ front).dropWhile (· ≠ closeBrace) = front.dropWhile (· ≠ closeBrace) := by
  apply List.dropWhile_append_of_pos
  intro c mem
  refine decide_eq_true ?_
  rintro rfl
  exact plain (List.mem_reverse.mp mem)

theorem lastBlock?_append {back : List Char} (plain : closeBrace ∉ back) (before : List Char) :
    lastBlock? (before.reverse ++ [closeBrace] ++ back) = blockBack 1 [closeBrace] before := by
  have backwards : (before.reverse ++ [closeBrace] ++ back).reverse =
      back.reverse ++ closeBrace :: before := by simp
  rw [lastBlock?, backwards, dropWhile_plain plain, List.dropWhile_cons_of_neg (by simp)]

theorem lastBlock?_eq_none {text : List Char} (plain : closeBrace ∉ text) :
    lastBlock? text = none := by
  have skipped := dropWhile_plain plain []
  rw [List.append_nil] at skipped
  rw [lastBlock?, skipped]
  rfl

/-- The last closing brace of a text divides it, and behind it there is none. -/
theorem exists_closing {text : List Char} (h : closeBrace ∈ text) :
    ∃ before back : List Char,
      text = before.reverse ++ [closeBrace] ++ back ∧ closeBrace ∉ back := by
  obtain ⟨back, before, backwards, plain⟩ := List.eq_append_cons_of_mem (List.mem_reverse.mpr h)
  refine ⟨before, back.reverse, ?_, mt List.mem_reverse.mp plain⟩
  rw [← List.reverse_reverse text, backwards]
  simp

/-! ## The states of the search

Which states the search comes to is said apart from how it ends. In each of them the depth is what
the passed braces leave open, and it is never nothing. That is what keeps the subtraction of the
search from going below zero. -/

/-- The search in a text comes to this state: so many braces wait for their partners, this is the
text from here on up to the last closing brace, and this, read backwards, is what stands before. -/
inductive Walks (text : List Char) : Nat → List Char → List Char → Prop
  | start {before back : List Char} (parts : text = before.reverse ++ [closeBrace] ++ back)
    (plain : closeBrace ∉ back) : Walks text 1 [closeBrace] before
  | closes {depth : Nat} {passed before : List Char}
    (here : Walks text depth passed (closeBrace :: before)) :
    Walks text (depth + 1) (closeBrace :: passed) before
  | opens {depth : Nat} {passed before : List Char}
    (here : Walks text depth passed (openBrace :: before)) (further : depth ≠ 1) :
    Walks text (depth - 1) (openBrace :: passed) before
  | passes {depth : Nat} {passed before : List Char} {c : Char}
    (here : Walks text depth passed (c :: before)) (unclosed : c ≠ closeBrace)
    (unopened : c ≠ openBrace) : Walks text depth (c :: passed) before

/-- Some brace waits in every state, and as many do as the braces that were passed leave open. So
one can always be taken off. -/
theorem Walks.counted {text : List Char} (walks : Walks text depth passed before) :
    0 < depth ∧ openings passed + depth = closings passed := by
  induction walks with
  | start parts plain => decide
  | closes here ih =>
    rw [openings_closeBrace, closings_closeBrace]
    omega
  | opens here further ih =>
    rw [openings_openBrace, closings_openBrace]
    omega
  | passes here unclosed unopened ih =>
    rw [openings_plain unopened, closings_plain unclosed]
    exact ih

/-- The search goes on from every state that it comes to. -/
theorem Walks.lastBlock?_eq {text : List Char} (walks : Walks text depth passed before) :
    lastBlock? text = blockBack depth passed before := by
  induction walks with
  | start parts plain => rw [parts, lastBlock?_append plain]
  | closes here ih => rw [ih, blockBack, if_pos rfl]
  | opens here further ih => rw [ih, blockBack, if_neg (by decide), if_pos rfl, if_neg further]
  | passes here unclosed unopened ih => rw [ih, blockBack, if_neg unclosed, if_neg unopened]

/-! ## Places

So far the search speaks about characters, and its specification speaks about places in the bytes
of the text. Both braces are a single byte which is part of no longer character, so a count of
characters is a count of bytes. A place within a character is level exactly when the next place
between characters is. -/

def openByte : UInt8 := 0x7B

def closeByte : UInt8 := 0x7D

/-- The last closing brace stands at this place. -/
structure LastClosing (bytes : List UInt8) (place : Nat) : Prop where
  here : bytes[place]? = some closeByte
  last : ∀ later, place < later → bytes[later]? ≠ some closeByte

/-- What stands from one place to another, both of them included. -/
def between (bytes : List UInt8) (first last : Nat) : List UInt8 :=
  (bytes.take (last + 1)).drop first

/-- From one place to another, both of them included, as many braces are opened as closed. -/
structure Level (bytes : List UInt8) (first last : Nat) : Prop where
  order : first ≤ last
  even : (between bytes first last).count openByte = (between bytes first last).count closeByte

/-- The part of the text that stands between these places is found: the second is that of the last
closing brace, and the first is the last one that is level with it. It begins and ends between
characters. -/
structure Found (text found : String) (first last : Nat) : Prop where
  closing : LastClosing (bytes text) last
  level : Level (bytes text) first last
  nearest : ∀ later, first < later → ¬ Level (bytes text) later last
  same : bytes found = between (bytes text) first last
  cut : ∃ before behind, text = before ++ found ++ behind ∧ (bytes before).length = first

theorem LastClosing.unique {bytes : List UInt8} {one other : Nat} (h : LastClosing bytes one)
    (h' : LastClosing bytes other) : one = other := by
  rcases Nat.lt_trichotomy one other with earlier | same | later
  · exact absurd h'.here (h.last _ earlier)
  · exact same
  · exact absurd h.here (h'.last _ later)

/-- A text has one part that is found at the most, since the last level place is unique. -/
theorem Found.unique {text one other : String} {first last first' last' : Nat}
    (h : Found text one first last) (h' : Found text other first' last') : one = other := by
  obtain rfl := h.closing.unique h'.closing
  have same : first = first' := by
    rcases Nat.lt_trichotomy first first' with earlier | same | later
    · exact absurd h'.level (h.nearest _ earlier)
    · exact same
    · exact absurd h.level (h'.nearest _ later)
  subst same
  exact Text.bytes_inj.mp (h.same.trans h'.same.symm)

/-! ### Counting in bytes

Braces are of ASCII, so each is one byte that no other character holds: what is counted in the
bytes of a text is counted in its characters. -/

theorem isAscii_openBrace : Text.IsAscii openBrace := by
  decide

theorem isAscii_closeBrace : Text.IsAscii closeBrace := by
  decide

theorem count_openByte (text : List Char) : (encode text).count openByte = openings text :=
  Text.count_encode isAscii_openBrace text

theorem count_closeByte (text : List Char) : (encode text).count closeByte = closings text :=
  Text.count_encode isAscii_closeBrace text

/-! ### Up to the last closing brace

The reply is cut at its last closing brace. Behind it no brace is left to count, and a place in
the bytes in front of it that is level answers to a text of whole characters with as many braces
of one kind as of the other. -/

variable {back : List Char} {first : Nat}

theorem encode_closed (front : List Char) :
    encode (front ++ [closeBrace]) = encode front ++ [closeByte] := by
  have single : encode [closeBrace] = [closeByte] := by decide
  rw [Text.encode_append, single]

/-- Where the last closing brace of the characters stands, there stands that of the bytes. -/
theorem lastClosing_encode (plain : closeBrace ∉ back) (front : List Char) :
    LastClosing (encode (front ++ [closeBrace] ++ back)) (encode front).length := by
  rw [Text.encode_append, encode_closed]
  constructor
  · simp
  · intro later h found
    rw [List.getElem?_append_right (by simp; omega)] at found
    have mem : closeByte ∈ encode back := List.mem_of_getElem? found
    have none : (encode back).count closeByte = 0 := by
      rw [count_closeByte]
      exact List.count_eq_zero.mpr plain
    exact List.count_eq_zero.mp none mem

/-- What stands up to the last closing brace, as the bytes of the characters up to there. -/
theorem between_encode (front back : List Char) (first : Nat) :
    between (encode (front ++ [closeBrace] ++ back)) first (encode front).length =
      (encode (front ++ [closeBrace])).drop first := by
  have whole : (encode front).length + 1 = (encode (front ++ [closeBrace])).length := by
    rw [encode_closed]
    simp
  rw [between, Text.encode_append _ back, whole, List.take_left']
  rfl

/-- A place is level with the last closing brace exactly when a text is even that ends with this
brace and begins with the next character that begins at this place or behind it. -/
theorem exists_level_iff (front back : List Char) (within : first ≤ (encode front).length) :
    ∃ rest, rest ≠ [] ∧ rest <:+ front ++ [closeBrace] ∧
      (encode rest).length + first ≤ (encode (front ++ [closeBrace])).length ∧
      (Level (encode (front ++ [closeBrace] ++ back)) first (encode front).length ↔ Even rest) := by
  have tail : (encode (front ++ [closeBrace])).drop first <:+ encode (front ++ [closeBrace]) :=
    List.drop_suffix _ _
  obtain ⟨rest, inside, starts, counts⟩ := Text.exists_suffix_of_encode tail
  have closed := counts closeBrace isAscii_closeBrace
  refine ⟨rest, ?_, inside, ?_, ?_⟩
  · -- what begins at the place holds the brace that it ends with
    rintro rfl
    rw [encode_closed, List.drop_append_of_le_length within, List.count_append] at closed
    exact absurd closed (by simp [Text.byteOf, closeByte, closeBrace])
  · have length := starts.length_le
    rw [List.length_drop] at length
    have nonempty : (encode (front ++ [closeBrace])).length = (encode front).length + 1 := by
      rw [encode_closed]
      simp
    omega
  · -- the bytes from the place on hold the braces of the characters from there on, and no
    -- others
    have opened := counts openBrace isAscii_openBrace
    constructor
    · rintro ⟨-, even⟩
      rw [between_encode] at even
      exact (opened.symm.trans even).trans closed
    · intro even
      refine ⟨within, ?_⟩
      rw [between_encode]
      exact (opened.trans even).trans closed.symm

/-- A text that ends with a brace, read backwards, is that brace and a part of what stands before.
-/
theorem exists_prefix_of_suffix {rest before : List Char}
    (inside : rest <:+ before.reverse ++ [closeBrace]) (nonempty : rest ≠ []) :
    ∃ part, part <+: before ∧ rest = part.reverse ++ [closeBrace] := by
  obtain rfl | ⟨front, rfl, within⟩ := List.suffix_concat_iff.mp inside
  · exact absurd rfl nonempty
  · refine ⟨front.reverse, ?_, by rw [List.reverse_reverse]⟩
    have turned := List.reverse_prefix.mpr within
    rw [List.reverse_reverse] at turned
    exact turned

/-! ## What is found

The walk and the places come together. Where the walk ends, its block is the part of the text from
the last level place on, and where it does not end no place is level. -/

/-- Where the walk never ends, no place is level with the last closing brace. -/
theorem not_level_of_nowhere {before : List Char}
    (never : ∀ part, part <+: before → Deep (part.reverse ++ [closeBrace])) :
    ¬ Level (encode (before.reverse ++ [closeBrace] ++ back)) first
      (encode before.reverse).length := by
  intro level
  obtain ⟨rest, nonempty, inside, -, iff⟩ := exists_level_iff before.reverse back level.order
  obtain ⟨part, within, rfl⟩ := exists_prefix_of_suffix inside nonempty
  exact not_even_of_deep (never part within) (iff.mp level)

/-- Where the walk ends, the block is the part of the text that is found. -/
theorem found_of_ends {part : List Char} (rest : List Char) (plain : closeBrace ∉ back)
    (even : Even (openBrace :: (part.reverse ++ [closeBrace])))
    (nearer : ∀ shorter, shorter <+: part → Deep (shorter.reverse ++ [closeBrace])) :
    Found (String.ofList (rest.reverse ++ openBrace :: (part.reverse ++ [closeBrace]) ++ back))
      (String.ofList (openBrace :: (part.reverse ++ [closeBrace]))) (encode rest.reverse).length
      (encode (rest.reverse ++ openBrace :: part.reverse)).length := by
  have text : rest.reverse ++ openBrace :: (part.reverse ++ [closeBrace]) ++ back =
      rest.reverse ++ openBrace :: part.reverse ++ [closeBrace] ++ back := by simp
  have front : encode (rest.reverse ++ openBrace :: part.reverse ++ [closeBrace]) =
      encode rest.reverse ++ encode (openBrace :: (part.reverse ++ [closeBrace])) := by
    rw [← Text.encode_append]
    simp
  have same : between (encode (rest.reverse ++ openBrace :: part.reverse ++ [closeBrace] ++ back))
      (encode rest.reverse).length (encode (rest.reverse ++ openBrace :: part.reverse)).length =
        encode (openBrace :: (part.reverse ++ [closeBrace])) := by
    rw [between_encode, front, List.drop_left]
  have order : (encode rest.reverse).length ≤
      (encode (rest.reverse ++ openBrace :: part.reverse)).length := by
    rw [Text.encode_append, List.length_append]
    exact Nat.le_add_right _ _
  constructor
  · rw [Text.bytes_eq, String.toList_ofList, text]
    exact lastClosing_encode plain _
  · rw [Text.bytes_eq, String.toList_ofList, text]
    refine ⟨order, ?_⟩
    rw [same, count_openByte, count_closeByte]
    exact even
  · intro later behind level
    rw [Text.bytes_eq, String.toList_ofList, text] at level
    obtain ⟨tail, nonempty, inside, shorter, iff⟩ := exists_level_iff _ back level.order
    rw [front, List.length_append] at shorter
    -- what begins behind the block's start is shorter than the block, so it stands within it
    have whole : rest.reverse ++ openBrace :: part.reverse ++ [closeBrace] =
        rest.reverse ++ openBrace :: (part.reverse ++ [closeBrace]) := by simp
    rw [whole] at inside
    have short : ¬ openBrace :: (part.reverse ++ [closeBrace]) <:+ tail := by
      intro long
      have length := (Text.encode_suffix long).length_le
      omega
    -- a later place lies behind the front of the block, so its text is one that the walk has
    -- passed
    obtain within | long :=
      List.suffix_or_suffix_of_suffix inside (List.suffix_append rest.reverse _)
    · obtain rfl | inner := List.suffix_cons_iff.mp within
      · exact short List.suffix_rfl
      · obtain ⟨taken, starts, rfl⟩ := exists_prefix_of_suffix inner nonempty
        exact not_even_of_deep (nearer taken starts) (iff.mp level)
    · exact short long
  · rw [Text.bytes_eq, Text.bytes_eq, String.toList_ofList, String.toList_ofList, text, same]
  · refine ⟨String.ofList rest.reverse, String.ofList back, ?_, ?_⟩
    · rw [← String.ofList_append, ← String.ofList_append]
    · rw [Text.bytes_eq, String.toList_ofList]

/-- Some place is level with the last closing brace. -/
def HasLevel (text : String) : Prop :=
  ∃ first last, LastClosing (bytes text) last ∧ Level (bytes text) first last

/-- What the search comes to, and what there is to find. -/
theorem search_cases (reply : String) :
    (∃ found first last, block reply = .ok found ∧ Found reply found first last) ∨
      (block reply = .error .noJsonObject ∧ ¬ HasLevel reply) := by
  by_cases closed : closeBrace ∈ reply.toList
  · obtain ⟨before, back, text, plain⟩ := exists_closing closed
    have begins : lastBlock? reply.toList = blockBack 1 [closeBrace] before := by
      rw [text, lastBlock?_append plain]
    have ends : Ends [closeBrace] before (blockBack 1 [closeBrace] before) :=
      blockBack_ends Nat.one_pos (by decide)
    rw [← begins] at ends
    cases searched : lastBlock? reply.toList with
    | none =>
      rw [searched] at ends
      cases ends with
      | nowhere never =>
        -- a level place would be one where the walk ends
        refine .inr ⟨by rw [block, searched], ?_⟩
        rintro ⟨first, last, closing, level⟩
        rw [Text.bytes_eq, text] at closing level
        obtain rfl := closing.unique (lastClosing_encode plain before.reverse)
        exact not_level_of_nowhere never level
    | some found =>
      rw [searched] at ends
      cases ends with
      | @found part rest parts even nearer =>
        have found := found_of_ends rest plain even nearer
        have same : reply = String.ofList
            (rest.reverse ++ openBrace :: (part.reverse ++ [closeBrace]) ++ back) := by
          rw [← String.ofList_toList (s := reply), text, parts]
          simp
        rw [← same] at found
        exact .inl ⟨_, _, _, by rw [block, searched], found⟩
  · -- without a closing brace there is no last one
    refine .inr ⟨by rw [block, lastBlock?_eq_none closed], ?_⟩
    rintro ⟨first, last, closing, -⟩
    have mem : closeByte ∈ bytes reply := List.mem_of_getElem? closing.here
    have none : (bytes reply).count closeByte = 0 := by
      rw [Text.bytes_eq, count_closeByte]
      exact List.count_eq_zero.mpr closed
    exact List.count_eq_zero.mp none mem

/-! ## Nested braces

A grammar for texts whose braces are nested. They are balanced, so such a text in braces is a
block. The grammar is not needed for the search; it says in the usual terms which texts are
certain to be found. -/

/-- The braces of the text are properly nested. -/
inductive Nested : List Char → Prop
  | nil : Nested []
  | plain {c : Char} {rest : List Char} (free : BraceFree [c]) (more : Nested rest) :
    Nested (c :: rest)
  | braces {inner rest : List Char} (inside : Nested inner) (more : Nested rest) :
    Nested (openBrace :: (inner ++ closeBrace :: rest))

/-- In a properly nested text every brace has its partner. -/
theorem Nested.balanced {text : List Char} (nested : Nested text) : Balanced text := by
  induction nested with
  | nil => exact BraceFree.balanced (by decide)
  | plain free _ more => exact free.balanced.append more
  | @braces inner rest _ _ inside more =>
    have parts : openBrace :: (inner ++ closeBrace :: rest) =
        openBrace :: (inner ++ [closeBrace]) ++ rest := by simp
    rw [parts]
    exact inside.isBlock.balanced.append more

/-- **The search, whatever the text.** A block is found exactly when some place is level with the
last closing brace, and it is the part of the text from the last such place on, which begins and
ends between characters; in every other text the refusal is that there is no block. In all states of
the search some brace waits for its partner, as many as the braces that were passed leave open. So a
properly nested text in braces is found whatever stands before it, when no closing brace follows. -/
theorem search_exact :
    (∀ reply found : String, block reply = .ok found ↔ ∃ first last, Found reply found first last) ∧
      (∀ reply : String, ((∃ found, block reply = .ok found) ↔ HasLevel reply) ∧
        (block reply = .error .noJsonObject ↔ ¬ HasLevel reply)) ∧
      (∀ (reply : String) (depth : Nat) (passed before : List Char),
        Walks reply.toList depth passed before →
          lastBlock? reply.toList = blockBack depth passed before ∧
            0 < depth ∧ openings passed + depth = closings passed) ∧
      ∀ front inner back : String, Nested inner.toList → closeBrace ∉ back.toList →
        block (front ++ ("\x7b" ++ inner ++ "\x7d") ++ back) = .ok ("\x7b" ++ inner ++ "\x7d") := by
  refine ⟨fun reply found => ?_, fun reply => ?_, fun reply depth passed before walks => ?_,
    fun front inner back nested plain => ?_⟩
  · constructor
    · intro searched
      obtain ⟨other, first, last, same, is⟩ | ⟨refused, -⟩ := search_cases reply
      · rw [searched] at same
        obtain rfl := Except.ok.inj same
        exact ⟨first, last, is⟩
      · rw [searched] at refused
        cases refused
    · rintro ⟨first, last, is⟩
      obtain ⟨other, first', last', searched, is'⟩ | ⟨-, nowhere⟩ := search_cases reply
      · rw [searched, is.unique is']
      · exact absurd ⟨first, last, is.closing, is.level⟩ nowhere
  · obtain ⟨found, first, last, searched, is⟩ | ⟨refused, nowhere⟩ := search_cases reply
    · have level : HasLevel reply := ⟨first, last, is.closing, is.level⟩
      simp [searched, level]
    · simp [refused, nowhere]
  · exact ⟨walks.lastBlock?_eq, walks.counted⟩
  · have text : ("\x7b" ++ inner ++ "\x7d").toList =
        openBrace :: (inner.toList ++ [closeBrace]) := by
      simp [String.toList_append, openBrace, closeBrace]
    refine (block_part_iff text front plain).mpr ?_
    rw [text]
    exact nested.balanced.isBlock

/-- An object is found behind a stray closing brace and before an opening one, and the search passes
over a character of two bytes with one brace waiting. -/
theorem search_exact_prose :
    Walks "\x7bé\x7d \x7b".toList 1 ['é', closeBrace] [openBrace] ∧
      openings ['é', closeBrace] + 1 = closings ['é', closeBrace] ∧
      Nested "é: \x7b\x7d,".toList ∧ closeBrace ∉ " \x7b".toList ∧
      block ("no \x7d \x7b" ++ ("\x7b" ++ "é: \x7b\x7d," ++ "\x7d") ++ " \x7b") =
        .ok ("\x7b" ++ "é: \x7b\x7d," ++ "\x7d") := by
  obtain ⟨-, -, states, nests⟩ := search_exact
  have start : Walks "\x7bé\x7d \x7b".toList 1 [closeBrace] ['é', openBrace] :=
    @Walks.start _ ['é', openBrace] [' ', openBrace] (by decide) (by decide)
  have walks : Walks "\x7bé\x7d \x7b".toList 1 ['é', closeBrace] [openBrace] :=
    start.passes (by decide) (by decide)
  have inner : Nested [',' ] := .plain (by decide) .nil
  have nested : Nested "é: \x7b\x7d,".toList :=
    .plain (by decide) (.plain (by decide) (.plain (by decide) (.braces .nil inner)))
  have plain : closeBrace ∉ " \x7b".toList := by decide
  exact ⟨walks, (states _ _ _ _ walks).2.2, nested, plain, nests _ _ _ nested plain⟩

end AzcRepair.Contract
