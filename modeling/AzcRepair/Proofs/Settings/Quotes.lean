import AzcRepair.Settings.Environment

/-!
# Strings in quotes

A string in quotes ends at the first quote that no backslash hides, and what stands before it must
have a meaning: every character is plain or part of an escape.

* `Quoted` — what may stand between the quotes, and what it means.
* `quoted?_of_quoted` — such a string is read, whatever follows it.
* `quoted_of_quoted?` — what is read is such a string.
-/

namespace AzcRepair.Settings.Environment

variable {text inner meant rest : List Char} {fuel : Nat}

/-! ## What is written and what it means

The reader works in two passes: it looks for the closing quote first, and then gives the text
before it a meaning. `Quoted` says both at once; the lemmas show that a code of hexadecimal digits
disturbs neither pass. -/

/-- What stands between the quotes of a string, and what it means. -/
inductive Quoted : List Char → List Char → Prop
  | nil : Quoted [] []
  | plain {c : Char} {inner meant : List Char} (isPlain : isPlainChar c = true) (quote : c ≠ '"')
    (backslash : c ≠ '\\') (more : Quoted inner meant) : Quoted (c :: inner) (c :: meant)
  | short {c value : Char} {inner meant : List Char} (escape : shortEscape? c = some value)
    (more : Quoted inner meant) : Quoted ('\\' :: c :: inner) (value :: meant)
  | code {c value : Char} {length : Nat} {digits inner meant : List Char}
    (mark : c = 'u' ∧ length = 4 ∨ c = 'U' ∧ length = 8) (exactly : digits.length = length)
    (code : Yaml.charOfHex? digits length = some value) (more : Quoted inner meant) :
    Quoted ('\\' :: c :: (digits ++ inner)) (value :: meant)

theorem eq_of_splitQuoted (split : splitQuoted text = some (inner, rest)) :
    text = inner ++ '"' :: rest := by
  -- both escapes and plain characters are put back in front
  fun_induction splitQuoted text generalizing inner rest with
  | case1 => cases split
  | case2 rest =>
    cases split
    rfl
  | case3 c text ih | case4 c text _ _ ih =>
    obtain ⟨⟨_, _⟩, further, same⟩ := Option.map_eq_some_iff.mp split
    cases same
    rw [ih further]
    rfl

theorem splitQuoted_cons {c : Char} (quote : c ≠ '"') (backslash : c ≠ '\\') (text : List Char) :
    splitQuoted (c :: text) =
      (splitQuoted text).map fun (inner, rest) => (c :: inner, rest) := by
  rw [splitQuoted]
  · exact fun same => quote same
  · exact fun _ _ same => absurd same backslash

theorem splitQuoted_escape (c : Char) (text : List Char) :
    splitQuoted ('\\' :: c :: text) =
      (splitQuoted text).map fun (inner, rest) => ('\\' :: c :: inner, rest) := by
  rw [splitQuoted]

theorem length_le_of_charOfHex? {digits : List Char} {length : Nat} {value : Char}
    (code : Yaml.charOfHex? digits length = some value) : length ≤ digits.length := by
  refine Nat.le_of_not_lt fun short => ?_
  rw [Yaml.charOfHex?, if_pos short] at code
  cases code

theorem isSome_hexValue?_of_foldlM {digits : List Char} {start value : Nat}
    (read : digits.foldlM (fun n c => (Text.hexValue? c).map (n * 16 + ·)) start = some value) :
    ∀ c ∈ digits, (Text.hexValue? c).isSome = true := by
  induction digits generalizing start with
  | nil => exact List.forall_mem_nil _
  | cons c digits ih =>
    rw [List.foldlM_cons] at read
    obtain ⟨next, here, read⟩ := Option.bind_eq_some_iff.mp read
    obtain ⟨digit, found, -⟩ := Option.map_eq_some_iff.mp here
    exact List.forall_mem_cons.mpr ⟨Option.isSome_of_mem found, ih read⟩

theorem isSome_hexValue?_of_charOfHex? {digits : List Char} {length : Nat} {value : Char}
    (code : Yaml.charOfHex? digits length = some value) :
    ∀ c ∈ digits, (Text.hexValue? c).isSome = true := by
  have long := length_le_of_charOfHex? code
  rw [Yaml.charOfHex?, if_neg (Nat.not_lt.mpr long)] at code
  obtain ⟨n, read, -⟩ := Option.bind_eq_some_iff.mp code
  exact isSome_hexValue?_of_foldlM read

/-- Hexadecimal digits neither end a string nor hide its end. -/
theorem splitQuoted_append {digits : List Char}
    (hex : ∀ c ∈ digits, (Text.hexValue? c).isSome = true) (text : List Char) :
    splitQuoted (digits ++ text) =
      (splitQuoted text).map fun (inner, rest) => (digits ++ inner, rest) := by
  induction digits with
  | nil => simp
  | cons c digits ih =>
    obtain ⟨here, others⟩ := List.forall_mem_cons.mp hex
    have quote : c ≠ '"' := by
      rintro rfl
      cases here
    have backslash : c ≠ '\\' := by
      rintro rfl
      cases here
    rw [List.cons_append, splitQuoted_cons quote backslash, ih others, Option.map_map]
    rfl

theorem Quoted.split (quoted : Quoted inner meant) (rest : List Char) :
    splitQuoted (inner ++ '"' :: rest) = some (inner, rest) := by
  induction quoted with
  | nil => rfl
  | plain isPlain quote backslash more ih =>
    rw [List.cons_append, splitQuoted_cons quote backslash, ih, Option.map_some]
  | short escape more ih =>
    rw [List.cons_append, List.cons_append, splitQuoted_escape, ih, Option.map_some]
  | code mark exactly code more ih =>
    have hex := isSome_hexValue?_of_charOfHex? code
    rw [List.cons_append, List.cons_append, splitQuoted_escape, List.append_assoc,
      splitQuoted_append hex, ih, Option.map_some, Option.map_some]

/-- What a string means is no longer than what is written. -/
theorem Quoted.length_le (quoted : Quoted inner meant) : meant.length ≤ inner.length := by
  induction quoted with
  | nil => exact Nat.le_refl _
  | plain isPlain quote backslash more ih => simpa using ih
  | short escape more ih | code mark exactly code more ih =>
    simp only [List.length_cons, List.length_append]
    omega

/-- The length of the code behind the mark of an escape. -/
theorem shortEscape?_of_mark {c : Char} {length : Nat}
    (mark : c = 'u' ∧ length = 4 ∨ c = 'U' ∧ length = 8) :
    shortEscape? c = none ∧
      (if c = 'u' then some 4 else if c = 'U' then some 8 else none) = some length := by
  rcases mark with ⟨rfl, rfl⟩ | ⟨rfl, rfl⟩ <;> exact ⟨rfl, rfl⟩

theorem Quoted.unescape (quoted : Quoted inner meant) (enough : inner.length < fuel) :
    unescape? fuel inner = some meant := by
  -- one round of the fuel for each character or escape, and every escape is longer than what it
  -- means
  induction quoted generalizing fuel with
  | nil =>
    cases fuel with
    | zero => cases enough
    | succ fuel => rw [unescape?]
  | plain isPlain quote backslash more ih =>
    cases fuel with
    | zero => cases enough
    | succ fuel =>
      rw [unescape?, ih (by simpa using enough)]
      · simp [backslash, isPlain]
      · exact fun _ _ same => absurd same backslash
  | short escape more ih =>
    cases fuel with
    | zero => cases enough
    | succ fuel =>
      rw [unescape?, escape, ih (by simp at enough; omega)]
      rfl
  | @code c value length digits inner meant mark exactly code more ih =>
    cases fuel with
    | zero => cases enough
    | succ fuel =>
      obtain ⟨long, isMark⟩ := shortEscape?_of_mark mark
      rw [unescape?, long]
      dsimp only
      rw [isMark, Option.bind_some, ← exactly, List.take_left, List.drop_left, exactly, code,
        ih (by simp at enough; omega)]
      rfl

theorem eq_of_map_front {found : Option (List Char × List Char)} (front : List Char)
    (taken : found.map (fun (inner, rest) => (front ++ inner, rest)) =
      some (front ++ inner, rest)) : found = some (inner, rest) := by
  obtain ⟨⟨others, behind⟩, rfl, same⟩ := Option.map_eq_some_iff.mp taken
  obtain ⟨whole, rfl⟩ := Prod.mk.inj same
  rw [List.append_cancel_left whole]

/-- A string that ends behind its inner text and has a meaning is one in quotes. -/
theorem quoted_of_unescape? (split : splitQuoted (inner ++ '"' :: rest) = some (inner, rest))
    (unescaped : unescape? fuel inner = some meant) : Quoted inner meant := by
  -- the induction is on how the string is unescaped; that it ends behind its inner text keeps bare
  -- quotes out of it
  fun_induction unescape? fuel inner generalizing meant with
  | case1 => cases unescaped
  | case2 =>
    cases unescaped
    exact .nil
  | case3 fuel c inner value escape ih =>
    obtain ⟨others, more, rfl⟩ := Option.map_eq_some_iff.mp unescaped
    rw [List.cons_append, List.cons_append, splitQuoted_escape] at split
    exact .short escape (ih (eq_of_map_front ['\\', c] split) more)
  | case4 fuel c inner _ mark =>
    rename_i ih
    obtain ⟨length, marked, read⟩ := Option.bind_eq_some_iff.mp unescaped
    obtain ⟨value, code, read⟩ := Option.bind_eq_some_iff.mp read
    obtain ⟨others, more, made⟩ := Option.bind_eq_some_iff.mp read
    cases made
    have isMark : c = 'u' ∧ length = 4 ∨ c = 'U' ∧ length = 8 := by grind
    have exactly : (inner.take length).length = length :=
      Nat.le_antisymm (List.length_take_le ..) (length_le_of_charOfHex? code)
    have further : splitQuoted (inner.take length ++ (inner.drop length ++ '"' :: rest)) =
        some (inner.take length ++ inner.drop length, rest) := by
      rw [← List.append_assoc, List.take_append_drop]
      rw [List.cons_append, List.cons_append, splitQuoted_escape] at split
      exact eq_of_map_front ['\\', c] split
    rw [splitQuoted_append (isSome_hexValue?_of_charOfHex? code)] at further
    have behind := ih length (eq_of_map_front _ further) more
    have quoted := Quoted.code isMark exactly code behind
    rwa [List.take_append_drop] at quoted
  | case5 fuel c inner _ stands ih =>
    obtain ⟨others, more, rfl⟩ := Option.map_eq_some_iff.mp unescaped
    obtain ⟨backslash, isPlain⟩ := Bool.and_eq_true_iff.mp stands
    have backslash : c ≠ '\\' := of_decide_eq_true backslash
    have quote : c ≠ '"' := by
      rintro rfl
      cases split
    rw [List.cons_append, splitQuoted_cons quote backslash] at split
    exact .plain isPlain quote backslash (ih (eq_of_map_front [c] split) more)
  | case6 => cases unescaped

theorem quoted?_of_quoted (quoted : Quoted inner meant) (rest : List Char) :
    quoted? (inner ++ '"' :: rest) = some (String.ofList meant, rest) := by
  rw [quoted?, quoted.split rest]
  simp [quoted.unescape (Nat.lt_succ_self _)]

theorem quoted_of_quoted? {string : String} (read : quoted? text = some (string, rest)) :
    ∃ inner meant, text = inner ++ '"' :: rest ∧ string = String.ofList meant ∧
      Quoted inner meant := by
  obtain ⟨⟨inner, behind⟩, split, read⟩ := Option.bind_eq_some_iff.mp read
  obtain ⟨meant, unescaped, made⟩ := Option.bind_eq_some_iff.mp read
  cases made
  obtain rfl := eq_of_splitQuoted split
  exact ⟨inner, meant, rfl, rfl, quoted_of_unescape? split unescaped⟩

end AzcRepair.Settings.Environment
