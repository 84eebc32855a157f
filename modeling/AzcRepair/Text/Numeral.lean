/-!
# Digits of numbers

`digits n` is the shortest decimal form of a number, most significant digit first, and `natOfDigits`
reads any decimal form back. Hexadecimal digits are written in lower case and read in either.
-/

namespace AzcRepair.Text

def digitChar (d : Nat) : Char :=
  Char.ofNat ('0'.toNat + d)

def digitValue (c : Char) : Nat :=
  c.toNat - '0'.toNat

def digits (n : Nat) : List Char :=
  if n < 10 then [digitChar n] else digits (n / 10) ++ [digitChar (n % 10)]
termination_by n
decreasing_by omega

def natOfDigits (digits : List Char) : Nat :=
  digits.foldl (fun n c => 10 * n + digitValue c) 0

def hexDigit (d : Nat) : Char :=
  if d < 10 then digitChar d else Char.ofNat ('a'.toNat + (d - 10))

def hexDigits (n : Nat) : List Char :=
  if n < 16 then [hexDigit n] else hexDigits (n / 16) ++ [hexDigit (n % 16)]
termination_by n
decreasing_by omega

def hexValue? (c : Char) : Option Nat :=
  if c.isDigit then some (digitValue c)
  else if 'a' ≤ c ∧ c ≤ 'f' then some (c.toNat - 'a'.toNat + 10)
  else if 'A' ≤ c ∧ c ≤ 'F' then some (c.toNat - 'A'.toNat + 10)
  else none

def decimal (n : Nat) : String :=
  String.ofList (digits n)

/-- A number in decimal, filled up with zeros in front to a width. -/
def padded (width n : Nat) : String :=
  String.ofList (List.replicate (width - (digits n).length) '0' ++ digits n)

theorem digitValue_digitChar {d : Nat} (h : d < 10) : digitValue (digitChar d) = d := by
  have : ∀ k : Fin 10, digitValue (digitChar k) = k := by decide
  exact this ⟨d, h⟩

/-- The digits of a number stand for it. -/
theorem natOfDigits_digits (n : Nat) : natOfDigits (digits n) = n := by
  fun_induction digits n with
  | case1 n h => simp [natOfDigits, digitValue_digitChar h]
  | case2 n h ih =>
    have := digitValue_digitChar (Nat.mod_lt n (by decide : 0 < 10))
    rw [natOfDigits, List.foldl_append, List.foldl_cons, List.foldl_nil, this]
    change 10 * natOfDigits (digits (n / 10)) + n % 10 = n
    rw [ih]
    omega

end AzcRepair.Text
