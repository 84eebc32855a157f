import Mathlib.Algebra.Group.Nat.Defs
import AzcRepair.Text.Numeral

/-!
# Numbers in decimal

Decimal forms hold digits only, and the number can be read back from each of them, also when it is
filled up with zeros.

* `decimal_inj`, `padded_inj` — different numbers have different forms.
* `length_padded` — a number that fits a width fills it exactly, so it can be read off the beginning
  of a text (`padded_append_inj`).
* `parts_inj` — what stands in front of the first mark, and what stands behind it.
-/

namespace AzcRepair.Text

theorem isDigit_digitChar {d : Nat} (h : d < 10) : (digitChar d).isDigit = true := by
  have all : ∀ k : Fin 10, (digitChar k).isDigit = true := by decide
  exact all ⟨d, h⟩

theorem isDigit_of_mem_digits {n : Nat} {c : Char} (h : c ∈ digits n) : c.isDigit = true := by
  fun_induction digits n with
  | case1 n small =>
    rw [List.mem_singleton.mp h]
    exact isDigit_digitChar small
  | case2 n large ih =>
    obtain front | last := List.mem_append.mp h
    · exact ih front
    · rw [List.mem_singleton.mp last]
      exact isDigit_digitChar (Nat.mod_lt n (by decide))

theorem length_digits_le {width n : Nat} (some : 0 < width) (h : n < 10 ^ width) :
    (digits n).length ≤ width := by
  fun_induction digits n generalizing width with
  | case1 n small => exact some
  | case2 n large ih =>
    obtain ⟨width, rfl⟩ := Nat.exists_eq_succ_of_ne_zero (Nat.ne_of_gt some)
    have hwidth : 0 < width := by
      rcases width with _ | width <;> omega
    have hfront : n / 10 < 10 ^ width := by
      rw [Nat.div_lt_iff_lt_mul (by decide)]
      rwa [Nat.pow_succ] at h
    rw [List.length_append, List.length_singleton]
    exact Nat.succ_le_succ (ih hwidth hfront)

theorem decimal_inj {m n : Nat} (h : decimal m = decimal n) : m = n := by
  have hdigits : digits m = digits n := String.ofList_injective h
  rw [← natOfDigits_digits m, hdigits, natOfDigits_digits]

/-! ## Filled up with zeros

Zeros in front change nothing about the number, and they make the form as long as it has to be.
Stamps are put together from such forms, so they can be taken apart again. -/

theorem toList_padded (width n : Nat) :
    (padded width n).toList = List.replicate (width - (digits n).length) '0' ++ digits n :=
  String.toList_ofList

theorem isDigit_of_mem_padded {width n : Nat} {c : Char} (h : c ∈ (padded width n).toList) :
    c.isDigit = true := by
  rw [toList_padded] at h
  rcases List.mem_append.mp h with hzero | hdigit
  · rw [List.eq_of_mem_replicate hzero]
    rfl
  · exact isDigit_of_mem_digits hdigit

theorem length_padded {width n : Nat} (some : 0 < width) (h : n < 10 ^ width) :
    (padded width n).toList.length = width := by
  have hdigits := length_digits_le some h
  rw [toList_padded, List.length_append, List.length_replicate]
  omega

theorem natOfDigits_zeros (count : Nat) (text : List Char) :
    natOfDigits (List.replicate count '0' ++ text) = natOfDigits text := by
  induction count with
  | zero => rfl
  | succ count ih => exact ih

theorem natOfDigits_padded (width n : Nat) : natOfDigits (padded width n).toList = n := by
  rw [toList_padded, natOfDigits_zeros, natOfDigits_digits]

theorem padded_inj {width m n : Nat} (h : padded width m = padded width n) : m = n := by
  rw [← natOfDigits_padded width m, h, natOfDigits_padded]

/-- A number of a fixed width can be read off the beginning of a text. -/
theorem padded_append_inj {width m n : Nat} {rest rest' : List Char} (some : 0 < width)
    (hm : m < 10 ^ width) (hn : n < 10 ^ width)
    (h : (padded width m).toList ++ rest = (padded width n).toList ++ rest') :
    m = n ∧ rest = rest' := by
  have hlength : (padded width m).toList.length = (padded width n).toList.length := by
    rw [length_padded some hm, length_padded some hn]
  obtain ⟨hdigits, hrest⟩ := List.append_inj h hlength
  exact ⟨padded_inj (String.toList_inj.mp hdigits), hrest⟩

/-! ## Parts of a text

A text with a mark in it is cut at the first one. Where the front holds no mark, it can be read
off the whole. -/

/-- What is in front of the first mark, and what is behind it. -/
theorem parts_inj {mark : Char} {front front' back back' : List Char} (hfront : mark ∉ front)
    (hfront' : mark ∉ front') (h : front ++ mark :: back = front' ++ mark :: back') :
    front = front' ∧ back = back' := by
  -- if one front were longer, the mark behind the other would be in it
  rcases List.append_eq_append_iff.mp h with ⟨more, rfl, hrest⟩ | ⟨more, rfl, hrest⟩
  · cases more with
    | nil => exact ⟨(List.append_nil front).symm, (List.cons.inj hrest).2⟩
    | cons c more =>
      obtain ⟨rfl, -⟩ := List.cons.inj hrest
      exact absurd (by simp) hfront'
  · cases more with
    | nil => exact ⟨List.append_nil front', (List.cons.inj hrest).2.symm⟩
    | cons c more =>
      obtain ⟨rfl, -⟩ := List.cons.inj hrest
      exact absurd (by simp) hfront

end AzcRepair.Text
