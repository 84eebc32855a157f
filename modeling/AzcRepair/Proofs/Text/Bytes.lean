/-!
# Texts and their bytes

A text is stored as the UTF-8 of its characters. A character of ASCII is the one byte of its number,
and any other character holds only bytes beyond ASCII. So a search for characters of ASCII sees the
same in the bytes as in the characters, wherever in the bytes it begins.

* `bytes` — the bytes of a text; `bytes_eq` says that they are those of its characters in turn.
* `count_encode` — a character of ASCII occurs in a text as often as its byte does.
* `exists_suffix_of_encode` — what the bytes hold from some place on, the characters hold as well.
-/

namespace AzcRepair.Text

/-- The bytes of characters in turn. -/
def encode (text : List Char) : List UInt8 :=
  text.flatMap String.utf8EncodeChar

/-- The bytes of a text. -/
def bytes (text : String) : List UInt8 :=
  text.toUTF8.data.toList

theorem bytes_eq (text : String) : bytes text = encode text.toList := by
  have stored : text.toList.utf8Encode = text.toUTF8 := String.utf8Encode_toList
  rw [bytes, ← stored, List.utf8Encode, List.data_toByteArray]
  rfl

theorem bytes_inj {one other : String} : bytes one = bytes other ↔ one = other := by
  constructor
  · intro same
    apply String.toByteArray_inj.mp
    exact ByteArray.ext (Array.toList_inj.mp same)
  · rintro rfl
    rfl

theorem encode_append (front back : List Char) :
    encode (front ++ back) = encode front ++ encode back :=
  List.flatMap_append

theorem encode_cons (c : Char) (text : List Char) :
    encode (c :: text) = String.utf8EncodeChar c ++ encode text :=
  List.flatMap_cons

theorem encode_suffix {tail text : List Char} (h : tail <:+ text) :
    encode tail <:+ encode text := by
  obtain ⟨front, rfl⟩ := h
  rw [encode_append]
  exact List.suffix_append _ _

/-! ## Characters of ASCII

Below 128 the number of a character and its only byte are the same, and no other character has a
byte below 128. Counting such a byte therefore counts the character. -/

def IsAscii (c : Char) : Prop :=
  c.toNat < 128

instance (c : Char) : Decidable (IsAscii c) :=
  inferInstanceAs (Decidable (c.toNat < 128))

/-- The byte of a character of ASCII. -/
def byteOf (c : Char) : UInt8 :=
  UInt8.ofNat c.toNat

theorem encodeChar_ascii {c : Char} (ascii : IsAscii c) : String.utf8EncodeChar c = [byteOf c] := by
  have small : c.val.toNat ≤ 127 := Nat.lt_succ_iff.mp ascii
  rw [String.utf8EncodeChar]
  exact if_pos small

theorem toNat_byteOf {c : Char} (ascii : IsAscii c) : (byteOf c).toNat = c.toNat := by
  have small : c.toNat < 128 := ascii
  exact UInt8.toNat_ofNat_of_lt' (by rw [UInt8.size]; omega)

theorem le_of_mem_encodeChar {c : Char} (other : ¬ IsAscii c) {byte : UInt8}
    (mem : byte ∈ String.utf8EncodeChar c) : 128 ≤ byte.toNat := by
  have large : ¬ c.val.toNat ≤ 127 := fun small => other (Nat.lt_succ_iff.mpr small)
  have high (n low : Nat) (bound : 128 ≤ low) (within : n + low < 256) :
      128 ≤ (UInt8.ofNat (n + low)).toNat := by
    rw [UInt8.toNat_ofNat_of_lt' (by rw [UInt8.size]; exact within)]
    omega
  rw [String.utf8EncodeChar] at mem
  simp only [large, if_false] at mem
  split at mem
  · simp only [List.mem_cons, List.not_mem_nil, or_false] at mem
    rcases mem with rfl | rfl <;> exact high _ _ (by decide) (by omega)
  · split at mem
    · simp only [List.mem_cons, List.not_mem_nil, or_false] at mem
      rcases mem with rfl | rfl | rfl <;> exact high _ _ (by decide) (by omega)
    · simp only [List.mem_cons, List.not_mem_nil, or_false] at mem
      rcases mem with rfl | rfl | rfl | rfl <;> exact high _ _ (by decide) (by omega)

theorem byteOf_inj {c d : Char} (first : IsAscii c) (second : IsAscii d) :
    byteOf c = byteOf d ↔ c = d := by
  constructor
  · intro same
    have numbers := congrArg UInt8.toNat same
    rw [toNat_byteOf first, toNat_byteOf second] at numbers
    exact Char.toNat_inj.mp numbers
  · rintro rfl
    rfl

theorem count_encodeChar {c : Char} (ascii : IsAscii c) (d : Char) :
    (String.utf8EncodeChar d).count (byteOf c) = [d].count c := by
  -- one byte against one character, or bytes that cannot be equal to it
  by_cases same : IsAscii d
  · rw [encodeChar_ascii same, List.count_singleton, List.count_singleton]
    simp [byteOf_inj same ascii]
  · have bytes : byteOf c ∉ String.utf8EncodeChar d := by
      intro mem
      have large := le_of_mem_encodeChar same mem
      rw [toNat_byteOf ascii] at large
      exact absurd ascii (Nat.not_lt.mpr large)
    have chars : c ∉ [d] := by
      rw [List.mem_singleton]
      rintro rfl
      exact same ascii
    rw [List.count_eq_zero.mpr bytes, List.count_eq_zero.mpr chars]

/-- A character of ASCII occurs in a text as often as its byte does. -/
theorem count_encode {c : Char} (ascii : IsAscii c) (text : List Char) :
    (encode text).count (byteOf c) = text.count c := by
  induction text with
  | nil => rfl
  | cons d text ih =>
    rw [encode_cons, List.count_append, count_encodeChar ascii, ih, ← List.count_append]
    rfl

/-! ## Places between characters

A search over bytes may begin anywhere, also inside of a character. The bytes that are left of
this character are all beyond ASCII, so nothing is lost by going on to the next place between two
characters. -/

/-- Behind the first byte of a character there is no byte of ASCII. -/
theorem count_of_inside {c d : Char} {part : List UInt8} (ascii : IsAscii c)
    (inside : part <:+ String.utf8EncodeChar d) (proper : part ≠ String.utf8EncodeChar d) :
    part.count (byteOf c) = 0 := by
  rw [List.count_eq_zero]
  intro mem
  by_cases same : IsAscii d
  · rw [encodeChar_ascii same] at inside proper
    rcases List.suffix_cons_iff.mp inside with whole | empty
    · exact proper whole
    · rw [List.suffix_nil.mp empty] at mem
      cases mem
  · have large := le_of_mem_encodeChar same (inside.subset mem)
    rw [toNat_byteOf ascii] at large
    exact absurd ascii (Nat.not_lt.mpr large)

/-- From any place on, the bytes of a text hold as many of each character of ASCII as the text does
from the next place on that is between characters. -/
theorem exists_suffix_of_encode {text : List Char} {tail : List UInt8} (h : tail <:+ encode text) :
    ∃ rest, rest <:+ text ∧ encode rest <:+ tail ∧
      ∀ c, IsAscii c → tail.count (byteOf c) = rest.count c := by
  induction text with
  | nil =>
    rw [List.suffix_nil.mp h]
    exact ⟨[], List.suffix_rfl, List.suffix_rfl, fun _ _ => rfl⟩
  | cons d text ih =>
    rw [encode_cons] at h
    -- the place is behind the first character, or within its bytes
    rcases List.suffix_or_suffix_of_suffix h (List.suffix_append _ (encode text)) with short | long
    · obtain ⟨rest, inside, starts, counts⟩ := ih short
      exact ⟨rest, inside.trans (List.suffix_cons d text), starts, counts⟩
    · obtain ⟨part, rfl⟩ := long
      have inside : part <:+ String.utf8EncodeChar d := List.suffix_append_self_iff.mp h
      by_cases whole : part = String.utf8EncodeChar d
      · rw [whole, ← encode_cons]
        exact ⟨d :: text, List.suffix_rfl, List.suffix_rfl, fun c ascii => count_encode ascii _⟩
      · refine ⟨text, List.suffix_cons d text, List.suffix_append _ _, fun c ascii => ?_⟩
        rw [List.count_append, count_of_inside ascii inside whole, Nat.zero_add,
          count_encode ascii]

end AzcRepair.Text
