import AzcRepair.Json
import AzcRepair.Json.Fault

/-!
# Numbers in JSON texts

A number is a whole part, an optional fraction and an optional exponent. It is an integer when it
has only a whole part and fits 64 bits. Otherwise it stands for a double: its digits, as far as 64
bits hold them, times a power of ten. It is out of range when that product overflows, the digits and
the power each rounded to a double.
-/

namespace AzcRepair.Json

def maxWord : Nat := UInt64.size - 1

/-- Largest exponent that is kept as written. -/
def maxExponent : Nat := 2147483647

/-- The parts of a number after its sign. -/
structure Literal where
  whole : List Char
  fraction : Option (List Char)
  /-- The exponent is negative, and its digits. -/
  exponent : Option (Bool × List Char)
  deriving DecidableEq, Repr

/-- Appends digits to a number as long as 64 bits hold it, and counts those that do not fit. -/
def appendDigits (n : Nat) : List Char → Nat × Nat
  | [] => (n, 0)
  | c :: rest =>
    if maxWord < 10 * n + Text.digitValue c then (n, rest.length + 1)
    else appendDigits (10 * n + Text.digitValue c) rest

/-- The nearest number with at most 53 significant bits; a tie goes to the even one. -/
def roundToDouble (n : Nat) : Nat :=
  if n < 9007199254740992 then n
  else
    let shift := n.log2 - 52
    let unit := 1 <<< shift
    let quotient := n / unit
    let remainder := 2 * (n % unit)
    -- `remainder` is doubled, so it is compared with the whole unit
    let up := unit < remainder ∨ (remainder = unit ∧ quotient % 2 = 1)
    (if up then quotient + 1 else quotient) * unit

/-- The product of the digits and a power of ten lies beyond every double. -/
def overflows (significand : Nat) (exponent : Int) : Bool :=
  significand ≠ 0 && (308 < exponent ||
    -- the least number that rounds to infinity lies half a unit above the largest double
    (0 ≤ exponent && Nat.pow 2 1024 - Nat.pow 2 970 ≤
      roundToDouble significand * roundToDouble (Nat.pow 10 exponent.toNat)))

/-- Digits and power of ten of a number, its exponent kept within 32 bits. -/
def Literal.parts (literal : Literal) : Nat × Int :=
  let whole := appendDigits 0 literal.whole
  let fraction := literal.fraction.getD []
  let digits := appendDigits whole.1 fraction
  let scale : Int := whole.2 - (fraction.length - digits.2 : Nat)
  match literal.exponent with
  | none => (digits.1, scale)
  | some (negative, exponent) =>
    let shift : Int := Text.natOfDigits exponent
    (digits.1, if negative then scale - shift else scale + shift)

/-- The number has only a whole part that fits 64 bits. -/
def Literal.isWhole (literal : Literal) : Bool :=
  literal.fraction.isNone && literal.exponent.isNone && (appendDigits 0 literal.whole).2 == 0

/-- The value of a number with this sign; none when it is out of range. Zero with a minus sign is
not an integer, nor is a negative number beyond 63 bits. -/
def Literal.value? (negative : Bool) (literal : Literal) : Option Json :=
  let (significand, exponent) := literal.parts
  let fits := !negative || (0 < significand && significand ≤ Int64.minValue.toInt.natAbs)
  if literal.isWhole && fits then
    some (.integer (if negative then -significand else significand))
  else if overflows significand exponent then none
  else some (.decimal (if negative then -significand else significand) exponent)

/-- The digits of an exponent up to the one that takes it beyond 32 bits, if there is one, and what
follows them. -/
def exponentOverflow? (n : Nat) : List Char → Option (List Char)
  | [] => none
  | c :: rest =>
    if maxExponent < 10 * n + Text.digitValue c then some rest
    else exponentOverflow? (10 * n + Text.digitValue c) rest

def readWhole (text : List Char) : Except Fault (List Char × List Char) :=
  match text with
  | [] => .error (.at .endInValue [] 0)
  -- a zero is a whole part by itself, and a digit behind it is the fault
  | '0' :: rest =>
    match rest with
    | d :: _ => if d.isDigit then .error (.at .invalidNumber rest 1) else .ok (['0'], rest)
    | [] => .ok (['0'], rest)
  | c :: rest =>
    if c.isDigit then .ok (c :: rest.takeWhile Char.isDigit, rest.dropWhile Char.isDigit)
    else .error (.at .invalidNumber (c :: rest) 1)

/-- Reads the digits that must follow a point or an exponent mark. -/
def readDigits (text : List Char) : Except Fault (List Char × List Char) :=
  match text with
  | [] => .error (.at .endInValue [] 0)
  | c :: rest =>
    if c.isDigit then .ok (c :: rest.takeWhile Char.isDigit, rest.dropWhile Char.isDigit)
    else .error (.at .invalidNumber (c :: rest) 1)

def readFraction (text : List Char) : Except Fault (Option (List Char) × List Char) :=
  match text with
  | '.' :: rest => (readDigits rest).map fun (digits, rest) => (some digits, rest)
  | _ => .ok (none, text)

def readSign : List Char → Bool × List Char
  | '+' :: rest => (false, rest)
  | '-' :: rest => (true, rest)
  | text => (false, text)

def readExponent (text : List Char) : Except Fault (Option (Bool × List Char) × List Char) :=
  match text with
  | c :: rest =>
    if c = 'e' ∨ c = 'E' then
      let (negative, rest) := readSign rest
      (readDigits rest).map fun (digits, rest) => (some (negative, digits), rest)
    else .ok (none, text)
  | [] => .ok (none, [])

/-- Where a number that is out of range is given up: behind its last digit, or behind the digit
that takes the exponent beyond 32 bits. Only the place in the report depends on it. -/
def Literal.stop (literal : Literal) (rest : List Char) : List Char :=
  match literal.exponent with
  | some (_, digits) =>
    match exponentOverflow? 0 digits with
    | some unread => unread ++ rest
    | none => rest
  | none => rest

/-- Reads a number after its sign. A lenient reader passes over one that is out of range. -/
def readNumber (strict negative : Bool) (text : List Char) : Except Fault (Json × List Char) := do
  let (whole, rest) ← readWhole text
  let (fraction, rest) ← readFraction rest
  let (exponent, rest) ← readExponent rest
  let literal : Literal := ⟨whole, fraction, exponent⟩
  match literal.value? negative with
  | some value => .ok (value, rest)
  | none =>
    if strict then .error (.at .numberOutOfRange (literal.stop rest) 0) else .ok (.unreadable, rest)

end AzcRepair.Json
