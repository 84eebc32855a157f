import AzcRepair.Calendar
import AzcRepair.Text.Blank

/-!
# Written instants

A wall-clock time such as `2025-05-01 13:45:10.000000` in universal time. Blanks may stand before
every number, and the blank between date and time may be any run of blanks. Years have up to four
digits, or a sign and any number of them. A sixtieth second is a leap second. Of the fraction nine
digits count, and nothing may follow it.
-/

namespace AzcRepair.Access

/-- Reads at least one and at most `most` decimal digits. -/
def readDigits (most : Nat) (text : List Char) : Option (List Char × List Char) :=
  let found := (text.takeWhile Char.isDigit).take most
  if found.isEmpty then none else some (found, text.drop found.length)

/-- Reads a number of at most `most` digits after any blanks. -/
def readNumber (most : Nat) (text : List Char) : Option (Nat × List Char) :=
  (readDigits most (Text.trimStart text)).map fun (digits, rest) => (Text.natOfDigits digits, rest)

/-- Reads a year, with a sign or without. Without one it has four digits at most, so the digits of
the month are not taken for those of the year. -/
def readYear (text : List Char) : Option (Int × List Char) :=
  match Text.trimStart text with
  | '-' :: rest =>
    (readDigits rest.length rest).map fun (digits, rest) => (-(Text.natOfDigits digits : Int), rest)
  | '+' :: rest =>
    (readDigits rest.length rest).map fun (digits, rest) => ((Text.natOfDigits digits : Int), rest)
  | rest => (readDigits 4 rest).map fun (digits, rest) => ((Text.natOfDigits digits : Int), rest)

def readMark (mark : Char) : List Char → Option (List Char)
  | c :: rest => if c = mark then some rest else none
  | [] => none

/-- Reads a fraction of a second as nanoseconds, when there is one. -/
def readFraction : List Char → Option (Nat × List Char)
  | '.' :: rest =>
    -- digits behind the ninth are passed over, not rounded
    (readDigits 9 rest).map fun (digits, rest) =>
      (Text.natOfDigits digits * Nat.pow 10 (9 - digits.length), rest.dropWhile Char.isDigit)
  | rest => some (0, rest)

/-- The years that an instant may lie in. -/
def isRepresentableYear (year : Int) : Bool :=
  -262143 ≤ year && year ≤ 262142

/-- The seconds that can be given a date. -/
def isRepresentable (seconds : Int) : Bool :=
  -8334601228800 ≤ seconds && seconds ≤ 8210266876799

/-- The instant of a date and a time of day. -/
def instantOf? (date : Date) (hour minute second nanos : Nat) : Option Instant :=
  if date.isValid && isRepresentableYear date.year && hour < 24 && minute < 60 && second ≤ 60 then
    -- a leap second is the one before it, with more nanoseconds than a second has
    let leap := second / 60
    some ⟨date.toDays * 86400 + (hour * 3600 + minute * 60 + (second - leap) : Nat),
      nanos + leap * Instant.perSecond⟩
  else none

/-- Reads a wall-clock time in universal time, up to the end of the text. The parts stand in the
order year, month, day, hour, minute and second. -/
def readInstant (text : String) : Option Instant := do
  let (year, rest) ← readYear text.toList
  let (month, rest) ← readNumber 2 (← readMark '-' rest)
  let (day, rest) ← readNumber 2 (← readMark '-' rest)
  let (hour, rest) ← readNumber 2 rest
  let (minute, rest) ← readNumber 2 (← readMark ':' rest)
  let (second, rest) ← readNumber 2 (← readMark ':' rest)
  let (nanos, rest) ← readFraction rest
  if rest.isEmpty then instantOf? ⟨year, month, day⟩ hour minute second nanos else none

end AzcRepair.Access
