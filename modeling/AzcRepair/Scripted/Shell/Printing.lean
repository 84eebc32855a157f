import AzcRepair.Scripted.Shell.State

/-!
# Printing

What `echo` and `printf` write: texts with escapes, and formats whose placeholders take arguments.

A part of the scripted shell, which stands in for other programs when a recorded run is evaluated
(`Scripted/Shell`); the program itself has no shell.
-/

namespace AzcRepair.Scripted.Shell

def octal (digits : List Char) : Nat :=
  digits.foldl (fun value c => value * 8 + Text.digitValue c) 0

def isOctal (c : Char) : Bool :=
  '0' ≤ c && c ≤ '7'

def escaped? : Char → Option UInt8
  | 'a' => some 7
  | 'b' => some 8
  | 'f' => some 12
  | 'n' => some 10
  | 'r' => some 13
  | 't' => some 9
  | 'v' => some 11
  | '\\' => some 92
  | _ => none

/-- Written bytes, whether nothing is to be written behind them, and complaints. -/
structure Written where
  bytes : List UInt8 := []
  isLast : Bool := false
  /-- What is wrong with the arguments. -/
  complaints : List String := []
  deriving DecidableEq, Repr

def Written.after (bytes : List UInt8) (written : Written) : Written :=
  { written with bytes := bytes ++ written.bytes }

/-- Something that is written behind something else. -/
def Written.append (first second : Written) : Written :=
  if first.isLast then first
  else ⟨first.bytes ++ second.bytes, second.isLast, first.complaints ++ second.complaints⟩

/-- Resolves escapes. Octal escapes have up to three digits; in a text, but not in a format, up to
three more may follow a zero, and the letter `c` ends the output. -/
def unescape (isText : Bool) : Nat → List Char → Written
  | 0, _ => {}
  | _, [] => {}
  | fuel + 1, '\\' :: c :: rest =>
    match escaped? c with
    | some byte => (unescape isText fuel rest).after [byte]
    | none =>
      if isText && c = 'c' then { isLast := true }
      else if isOctal c then
        let text := if isText && c = '0' then rest else c :: rest
        let digits := (text.takeWhile isOctal).take 3
        (unescape isText fuel (text.drop digits.length)).after [UInt8.ofNat (octal digits)]
      -- an unknown escape stands for itself, backslash included
      else (unescape isText fuel (c :: rest)).after [92]
  | fuel + 1, c :: rest => (unescape isText fuel rest).after (bytes (String.ofList [c]))

def unescapeText (text : String) : Written :=
  unescape true (text.length + 1) text.toList

def echo (arguments : List String) : List UInt8 :=
  let isOpen := arguments.head? = some "-n"
  let written := unescapeText (" ".intercalate (if isOpen then arguments.tail else arguments))
  written.bytes ++ if isOpen || written.isLast then [] else [10]

/-- How a placeholder is filled. -/
structure Placeholder where
  flags : List Char
  width : Nat
  precision : Option Nat
  kind : Char
  deriving DecidableEq, Repr

/-- The placeholder behind a percent sign, and what follows it. -/
def placeholder? (text : List Char) : Option (Placeholder × List Char) :=
  let flags := text.takeWhile ['-', '+', ' ', '#', '0'].contains
  let text := text.drop flags.length
  let width := text.takeWhile Char.isDigit
  let text := text.drop width.length
  let (precision, text) := match text with
    | '.' :: rest =>
      let digits := rest.takeWhile Char.isDigit
      (some (Text.natOfDigits digits), rest.drop digits.length)
    | text => (none, text)
  match text with
  | kind :: rest => some (⟨flags, Text.natOfDigits width, precision, kind⟩, rest)
  | [] => none

/-- The number that an argument stands for. A quote stands for the code of the character behind it.
-/
def argumentNumber (argument : String) : Int :=
  match argument.toList with
  | '\'' :: c :: _ | '"' :: c :: _ => c.toNat
  | '-' :: rest => -(unsigned rest : Int)
  | '+' :: rest => unsigned rest
  | digits => unsigned digits
where
  /-- The number at the begin of digits, in the base that their begin gives. -/
  unsigned : List Char → Nat
    | '0' :: 'x' :: digits | '0' :: 'X' :: digits =>
      ((digits.map Text.hexValue?).takeWhile Option.isSome).foldl
        (fun value digit => value * 16 + digit.getD 0) 0
    | '0' :: digits => octal (digits.takeWhile isOctal)
    | digits => Text.natOfDigits (digits.takeWhile Char.isDigit)

/-- The argument is a number as a whole. -/
def isNumeric (argument : String) : Bool :=
  match argument.toList with
  | '\'' :: _ | '"' :: _ => true
  | '-' :: digits | '+' :: digits | digits =>
    match digits with
    | '0' :: 'x' :: digits | '0' :: 'X' :: digits => digits.all fun c => (Text.hexValue? c).isSome
    | digits => !digits.isEmpty && digits.all Char.isDigit

def octalDigits (n : Nat) : List Char :=
  if n < 8 then [Text.digitChar n] else octalDigits (n / 8) ++ [Text.digitChar (n % 8)]
termination_by n
decreasing_by omega

/-- The bytes of a text filled up to the width of a placeholder. -/
def Placeholder.fill (place : Placeholder) (text : List UInt8) : List UInt8 :=
  let missing := List.replicate (place.width - text.length) 32
  if place.flags.contains '-' then text ++ missing else missing ++ text

/-- The bytes of a number in a placeholder. -/
def Placeholder.number (place : Placeholder) (value : Int) : List UInt8 :=
  let magnitude := if value < 0 && ['d', 'i'].contains place.kind then value.natAbs
    else (value % (18446744073709551616 : Int)).toNat
  let digits := match place.kind with
    | 'o' => octalDigits magnitude
    | 'x' => Text.hexDigits magnitude
    | 'X' => (Text.hexDigits magnitude).map Char.toUpper
    | _ => Text.digits magnitude
  let sign := if ['d', 'i'].contains place.kind then
      if value < 0 then ['-']
      else if place.flags.contains '+' then ['+']
      else if place.flags.contains ' ' then [' ']
      else []
    else []
  let mark := if place.flags.contains '#' && magnitude ≠ 0 then
      match place.kind with
      | 'x' => ['0', 'x']
      | 'X' => ['0', 'X']
      | 'o' => ['0']
      | _ => []
    else []
  let least := match place.precision with
    | some precision => precision
    | none =>
      if place.flags.contains '0' && !place.flags.contains '-' then
        place.width - sign.length - mark.length
      else 0
  let zeros := List.replicate (least - digits.length) '0'
  place.fill (bytes (String.ofList (sign ++ mark ++ zeros ++ digits)))

def Placeholder.write (place : Placeholder) (argument : Option String) : Written :=
  let cut (text : List UInt8) := match place.precision with
    | some precision => text.take precision
    | none => text
  match place.kind with
  | 's' => { bytes := place.fill (cut (bytes (argument.getD ""))) }
  | 'b' =>
    let written := unescapeText (argument.getD "")
    { written with bytes := place.fill (cut written.bytes) }
  | 'c' => { bytes := place.fill ((bytes (argument.getD "")).take 1) }
  | kind =>
    if ['d', 'i', 'u', 'o', 'x', 'X'].contains kind then
      let argument := argument.getD "0"
      { bytes := place.number (argumentNumber argument)
        complaints := if isNumeric argument then [] else [argument ++ ": expected numeric value"] }
    else
      { isLast := true, complaints := ["%" ++ String.ofList [kind] ++ ": invalid directive"] }

/-- Writes a format once, taking arguments for its placeholders; says which arguments are left. -/
def formatOnce : Nat → List Char → List String → Written × List String
  | 0, _, arguments => ({}, arguments)
  | _, [], arguments => ({}, arguments)
  | fuel + 1, '%' :: '%' :: rest, arguments =>
    let (written, left) := formatOnce fuel rest arguments
    (written.after [37], left)
  | fuel + 1, '%' :: rest, arguments =>
    match placeholder? rest with
    | none => ({}, arguments)
    | some (place, rest) =>
      let first := place.write arguments.head?
      if first.isLast then (first, [])
      else
        let (written, left) := formatOnce fuel rest arguments.tail
        (first.append written, left)
  | fuel + 1, format, arguments =>
    let text := format.takeWhile (· ≠ '%')
    let (written, left) := formatOnce fuel (format.drop text.length) arguments
    (written.after (unescape false (text.length + 1) text).bytes, left)

/-- Writes a format as long as there are arguments for it. -/
def formatAll (format : String) : Nat → List String → Written
  | 0, _ => {}
  | fuel + 1, arguments =>
    let (written, left) := formatOnce (format.length + 1) format.toList arguments
    -- a format without placeholders takes no argument and is written once
    if left.isEmpty || left.length = arguments.length then written
    else written.append (formatAll format fuel left)

end AzcRepair.Scripted.Shell
