import AzcRepair.Proofs.Violation.Extraction

/-!
# Messages and codes

What is taken from the text behind a marker, said without the function that takes it. The build puts
the project that it was building in brackets at the end of a line; this is no part of the message.

* `Marker.IsBefore` — a text goes on with a project in brackets, up to its end.
* `Marker.Cleaned` — the message that remains of the text behind a marker; `Marker.cleaned_iff` says
  that it is the message that is taken, and that there is no other.
* `IsUpperCode` — a code in upper case; `IsCode.upper` says that every code is one, but for the case
  of its letters.
-/

namespace AzcRepair.Violation

namespace Marker

/-! ## Projects at the end of a text

The text is searched from its end: behind the closing bracket come the extension and the name, up
to the next bracket. That bracket must open, or there is no project. -/

/-- The text is this part of it followed by a project in brackets. The name of the project holds no
bracket. -/
def IsBefore (before text : List Char) : Prop :=
  ∃ name, text = before ++ '[' :: (name ++ ".csproj]".toList) ∧ '[' ∉ name ∧ ']' ∉ name

theorem extension_bracket : ".csproj]".toList = projectExtension ++ [']'] := by decide

theorem isBracket_eq_false_iff {c : Char} : isBracket c = false ↔ c ≠ '[' ∧ c ≠ ']' := by
  simp [isBracket]

/-- Without its brackets, the end of such a text reads backwards as the extension and the name. -/
theorem not_isBracket_of_mem {name : List Char} (hopen : '[' ∉ name) (hclose : ']' ∉ name)
    {c : Char} (hc : c ∈ projectExtension.reverse ++ name.reverse) : (!isBracket c) = true := by
  have hext : projectExtension.all (!isBracket ·) = true := by decide
  rcases List.mem_append.mp hc with hc | hc
  · exact List.all_eq_true.mp hext c (List.mem_reverse.mp hc)
  · have hname : c ∈ name := List.mem_reverse.mp hc
    rw [Bool.not_eq_true', isBracket_eq_false_iff]
    exact ⟨fun same => hopen (same ▸ hname), fun same => hclose (same ▸ hname)⟩

theorem beforeProject?_of_isBefore {before text : List Char} (h : IsBefore before text) :
    beforeProject? text = some before := by
  obtain ⟨name, rfl, hopen, hclose⟩ := h
  have hback : (before ++ '[' :: (name ++ ".csproj]".toList)).reverse =
      ']' :: ((projectExtension.reverse ++ name.reverse) ++ '[' :: before.reverse) := by
    rw [extension_bracket]
    simp
  have hinner : ∀ c ∈ projectExtension.reverse ++ name.reverse, (!isBracket c) = true :=
    fun c hc => not_isBracket_of_mem hopen hclose hc
  have hdrop : ((projectExtension.reverse ++ name.reverse) ++ '[' :: before.reverse).dropWhile
      (!isBracket ·) = '[' :: before.reverse := by
    rw [List.dropWhile_append_of_pos hinner, List.dropWhile_cons_of_neg (by decide)]
  have htake : ((projectExtension.reverse ++ name.reverse) ++ '[' :: before.reverse).takeWhile
      (!isBracket ·) = projectExtension.reverse ++ name.reverse := by
    rw [List.takeWhile_append_of_pos hinner, List.takeWhile_cons_of_neg (by decide),
      List.append_nil]
  have hext : projectExtension.reverse.isPrefixOf (projectExtension.reverse ++ name.reverse) =
      true := List.isPrefixOf_iff_prefix.mpr (List.prefix_append _ _)
  simp only [beforeProject?, hback, hdrop, htake, hext, if_true, List.reverse_reverse]

theorem isBefore_of_beforeProject? {before text : List Char} (h : beforeProject? text = some before) :
    IsBefore before text := by
  unfold beforeProject? at h
  -- each way out but the last one finds no project
  split at h
  · next back hback =>
    split at h
    · next front hfront =>
      split at h
      · next hext =>
        obtain rfl := Option.some.inj h
        obtain ⟨name, hname⟩ := List.isPrefixOf_iff_prefix.mp hext
        have hcut : back = (projectExtension.reverse ++ name) ++ '[' :: front := by
          rw [hname, ← hfront, List.takeWhile_append_dropWhile]
        have hinner : ∀ c ∈ name, isBracket c = false := by
          intro c hc
          have hall := List.all_eq_true.mp (List.all_takeWhile (p := (!isBracket ·)) (l := back))
          rw [← hname] at hall
          simpa using hall c (List.mem_append_right _ hc)
        refine ⟨name.reverse, ?_, ?_, ?_⟩
        · rw [← List.reverse_reverse text, hback, hcut, extension_bracket]
          simp
        · intro hc
          exact (isBracket_eq_false_iff.mp (hinner _ (List.mem_reverse.mp hc))).1 rfl
        · intro hc
          exact (isBracket_eq_false_iff.mp (hinner _ (List.mem_reverse.mp hc))).2 rfl
      · cases h
    · cases h
  · cases h

theorem beforeProject?_eq_some_iff {before text : List Char} :
    beforeProject? text = some before ↔ IsBefore before text :=
  ⟨isBefore_of_beforeProject?, beforeProject?_of_isBefore⟩

theorem beforeProject?_eq_none_iff {text : List Char} :
    beforeProject? text = none ↔ ¬ ∃ before, IsBefore before text := by
  rw [Option.eq_none_iff_forall_ne_some, not_exists]
  exact forall_congr' fun before => not_congr beforeProject?_eq_some_iff

/-! ## Messages

A message is trimmed before and after a project is cut off. -/

/-- What remains of the text behind a marker: without its outer blanks, without a project at its end,
and without the blanks in front of that. -/
inductive Cleaned : List Char → List Char → Prop
  | whole {rest : List Char} (bare : ¬ ∃ before, IsBefore before (Text.trim rest)) :
      Cleaned rest (Text.trim rest)
  | cut {rest before : List Char} (ends : IsBefore before (Text.trim rest)) :
      Cleaned rest (Text.trim before)

/-- The message that is taken is what remains of the text, and nothing else is. -/
theorem cleaned_iff {marker : Marker} {message : List Char} :
    Cleaned marker.rest message ↔ message = marker.message := by
  rw [message_eq]
  constructor
  · intro h
    -- the search decides which of the two ways of cleaning applies
    cases h with
    | whole bare => rw [beforeProject?_eq_none_iff.mpr bare, Option.getD_none]
    | cut ends => rw [beforeProject?_eq_some_iff.mpr ends, Option.getD_some]
  · intro h
    subst h
    cases hfound : beforeProject? (Text.trim marker.rest) with
    | none => exact .whole (beforeProject?_eq_none_iff.mp hfound)
    | some before => exact .cut (beforeProject?_eq_some_iff.mp hfound)

end Marker

/-! ## Codes

The three letters of a code may be of either case, and its digits may be of any script. No digit
has a case, so upper and lower case change the letters only. -/

/-- The capital and the small letters of ASCII. -/
def letterRanges : List (Nat × Nat) :=
  [(0x41, 0x5A), (0x61, 0x7A)]

/-- A decimal digit of any script is no letter of ASCII. -/
theorem not_letter_of_isDecimalDigit {c : Char} (range : Nat × Nat) (letters : range ∈ letterRanges)
    (h : Text.isDecimalDigit c = true) : ¬ (range.1 ≤ c.toNat ∧ c.toNat ≤ range.2) := by
  intro hrange
  have hin : Text.inRanges letterRanges c = true := Text.inRanges_iff.mpr ⟨range, letters, hrange⟩
  rw [Text.inRanges_eq_false_of_disjoint (by decide +kernel) h] at hin
  cases hin

theorem toUpper_of_isDecimalDigit {c : Char} (h : Text.isDecimalDigit c = true) :
    c.toUpper = c :=
  dif_neg (not_letter_of_isDecimalDigit (0x61, 0x7A) (by decide) h)

theorem toLower_of_isDecimalDigit {c : Char} (h : Text.isDecimalDigit c = true) :
    c.toLower = c :=
  dif_neg (not_letter_of_isDecimalDigit (0x41, 0x5A) (by decide) h)

/-- A code in upper case: `AZC` and four decimal digits. -/
def IsUpperCode (code : List Char) : Prop :=
  ∃ digits, code = 'A' :: 'Z' :: 'C' :: digits ∧ digits.length = 4 ∧
    ∀ d ∈ digits, Text.isDecimalDigit d = true

theorem IsUpperCode.isCode {code : List Char} (h : IsUpperCode code) : IsCode code := by
  obtain ⟨digits, hcode, hlength, hdigits⟩ := h
  exact ⟨'A', 'Z', 'C', digits, hcode, Or.inl rfl, Or.inl rfl, Or.inl rfl, hlength, hdigits⟩

/-- Letters of a code that are mapped alike, and its digits, which have no case. -/
theorem map_code {f : Char → Char} (hdigit : ∀ {d}, Text.isDecimalDigit d = true → f d = d)
    (a z c : Char) {digits : List Char} (hdigits : ∀ d ∈ digits, Text.isDecimalDigit d = true) :
    (a :: z :: c :: digits).map f = f a :: f z :: f c :: digits := by
  have hsame : digits.map f = digits.map id := List.map_congr_left fun d hd => hdigit (hdigits d hd)
  rw [List.map_cons, List.map_cons, List.map_cons, hsame, List.map_id]

theorem IsUpperCode.upper {code : List Char} (h : IsUpperCode code) :
    code.map Char.toUpper = code := by
  obtain ⟨digits, rfl, -, hdigits⟩ := h
  exact map_code toUpper_of_isDecimalDigit 'A' 'Z' 'C' hdigits

/-- Every code is one in upper case, but for the case of its letters. -/
theorem IsCode.upper {code : List Char} (h : IsCode code) : IsUpperCode (code.map Char.toUpper) := by
  obtain ⟨a, z, c, digits, rfl, ha, hz, hc, hlength, hdigits⟩ := h
  rw [map_code toUpper_of_isDecimalDigit a z c hdigits]
  rcases ha with rfl | rfl <;> rcases hz with rfl | rfl <;> rcases hc with rfl | rfl <;>
    exact ⟨digits, rfl, hlength, hdigits⟩

/-- Codes in upper case are told apart by their lower case. -/
theorem IsUpperCode.lower_inj {one other : List Char} (hone : IsUpperCode one)
    (hother : IsUpperCode other) : one.map Char.toLower = other.map Char.toLower ↔ one = other := by
  obtain ⟨digits, rfl, -, hdigits⟩ := hone
  obtain ⟨digits', rfl, -, hdigits'⟩ := hother
  rw [map_code toLower_of_isDecimalDigit _ _ _ hdigits,
    map_code toLower_of_isDecimalDigit _ _ _ hdigits']
  simp

end AzcRepair.Violation
