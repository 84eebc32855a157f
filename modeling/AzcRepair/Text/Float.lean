import AzcRepair.Text.Numeral

/-!
# Decimal numbers as doubles

A decimal number is an optional sign, digits with an optional point among or around them, and an
optional exponent. It is kept exactly, as digits times a power of ten; `isFinite` says whether a
double can be near it.
-/

namespace AzcRepair.Text

/-- Digits times a power of ten. -/
structure Decimal where
  mantissa : Int
  exponent : Int
  deriving DecidableEq, Repr

/-- A sign, and what follows it; the sign says whether the number is negative. -/
def splitSign : List Char → Bool × List Char
  | '-' :: rest => (true, rest)
  | '+' :: rest => (false, rest)
  | text => (false, text)

def exponent? : List Char → Option Int
  | [] => some 0
  | mark :: rest =>
    if mark = 'e' ∨ mark = 'E' then
      let (negative, digits) := splitSign rest
      if digits.isEmpty || !digits.all Char.isDigit then none
      else some (if negative then -(natOfDigits digits : Int) else natOfDigits digits)
    else none

namespace Decimal

/-- The number that a whole text stands for. -/
def read? (text : List Char) : Option Decimal :=
  let (negative, rest) := splitSign text
  let whole := rest.takeWhile Char.isDigit
  let rest := rest.dropWhile Char.isDigit
  let (fraction, rest) := match rest with
    | '.' :: rest => (rest.takeWhile Char.isDigit, rest.dropWhile Char.isDigit)
    | rest => ([], rest)
  -- a point alone is no number, but it may stand before or behind the digits
  if whole.isEmpty && fraction.isEmpty then none
  else
    (exponent? rest).map fun exponent =>
      let digits : Int := natOfDigits (whole ++ fraction)
      ⟨if negative then -digits else digits, exponent - fraction.length⟩

/-- The least number that is rounded to infinity: half a unit above the largest double. -/
def bound : Nat := Nat.pow 2 1024 - Nat.pow 2 970

/-- The number is nearer to a double than to infinity. -/
def isFinite (number : Decimal) : Bool :=
  let digits := number.mantissa.natAbs
  if digits = 0 then true
  else if number.exponent < 0 then
    let shift := (-number.exponent).toNat
    -- enough digits behind the point make the number small, whatever the digits are
    shift ≥ digits.log2 || digits < bound * Nat.pow 10 shift
  else number.exponent ≤ 400 && digits * Nat.pow 10 number.exponent.toNat < bound

end Decimal

end AzcRepair.Text
