import AzcRepair.Text.Numeral
import AzcRepair.Text.Printable

/-!
# Hosts

The host of an address is a number of 32 bits, a number of 128 bits in brackets, or a name. What
ends in a number has to be a number as a whole, in up to four parts, each decimal, octal behind a
zero or hexadecimal behind `0x`; the last part fills what the others leave.
-/

namespace AzcRepair.Http

inductive Host where
  | name (text : String)
  /-- A number of 32 bits. -/
  | short (number : Nat)
  /-- A number of 128 bits in eight pieces. -/
  | long (pieces : List Nat)
  deriving DecidableEq, Repr

namespace Host

/-- Why a text is no host. -/
inductive Problem where
  | empty
  | name
  | short
  | long
  deriving DecidableEq, Repr

def Problem.message : Problem → String
  | empty => "empty host"
  | name => "invalid international domain name"
  | short => "invalid IPv4 address"
  | long => "invalid IPv6 address"

/-! ### Names

A name is decoded, brought into one form and only then looked at for what no host may hold: a
character may be harmless in the form it is given in and forbidden in the form it takes. -/

/-- Resolves percent forms to bytes. A percent sign without two digits stays. -/
def percentDecode : List Char → List UInt8
  | [] => []
  | '%' :: high :: low :: rest =>
    match Text.hexValue? high, Text.hexValue? low with
    | some h, some l => UInt8.ofNat (h * 16 + l) :: percentDecode rest
    | _, _ => 0x25 :: percentDecode (high :: low :: rest)
  | c :: rest => (String.ofList [c]).toUTF8.data.toList ++ percentDecode rest

/-- The form of a character in a name: lower case, and forms of full width replaced. -/
def nameChar (c : Char) : Char :=
  if c = '\u3002' || c = '\uff0e' || c = '\uff61' then '.'
  else if '\uff01' ≤ c && c ≤ '\uff5e' then (Char.ofNat (c.toNat - 0xFEE0)).toLower
  else c.toLower

/-- A character that a name is read without. -/
def isIgnored (c : Char) : Bool :=
  Text.inRanges [(0xAD, 0xAD), (0x34F, 0x34F), (0x180B, 0x180D), (0x180F, 0x180F),
    (0x200B, 0x200B), (0x2060, 0x2060), (0x2064, 0x2064), (0xFE00, 0xFE0F), (0xFEFF, 0xFEFF),
    (0x1BCA0, 0x1BCA3), (0xE0100, 0xE01EF)] c

def isForbidden (c : Char) : Bool :=
  c.toNat ≤ 0x20 || c.toNat = 0x7F || ['#', '%', '/', ':', '<', '>', '?', '@', '[', '\\', ']', '^',
    '|'].contains c || !Text.isPrintable c

def readName (text : List Char) : Except Problem String :=
  match String.fromUTF8? ⟨(percentDecode text).toArray⟩ with
  | none => .error .name
  | some decoded =>
    let name := (decoded.toList.filter (!isIgnored ·)).map nameChar
    if name.any isForbidden then .error .name
    else if name.isEmpty then .error .empty
    else .ok (String.ofList name)

/-! ### Numbers

A name whose last part reads as a number stands for a number of 32 bits or for nothing: it never
falls back to a name. Numbers in brackets have 128 bits, in eight pieces of which one run of zeros
may be left out. -/

/-- The base of a part of a number, and its digits. -/
def partDigits (part : List Char) : Nat × List Char :=
  match part with
  | '0' :: 'x' :: digits => (16, digits)
  | '0' :: d :: digits => (8, d :: digits)
  | digits => (10, digits)

/-- The value of a part of a number. Nothing behind the mark of a base is zero. -/
def partValue? (part : List Char) : Option Nat :=
  if part.isEmpty then none
  else
    let (base, digits) := partDigits part
    digits.foldlM (fun value c => do
      let digit ← Text.hexValue? c
      if digit < base then some (value * base + digit) else none) 0

/-- The parts of a name between its points, without an empty last one. -/
def parts (name : String) : List (List Char) :=
  let parts := name.toList.splitOn '.'
  -- a point at the end marks a full name and separates nothing
  if parts.getLast? = some [] then parts.dropLast else parts

def endsInNumber (name : String) : Bool :=
  match (parts name).getLast? with
  | some last => !last.isEmpty && (last.all Char.isDigit || (partValue? last).isSome)
  | none => false

/-- The number of parts, of which each but the last is a byte. -/
def joinParts : Nat → List Nat → Option Nat
  -- the last part fills all the bytes that the parts before it left
  | bytes, [last] => if last < 256 * (1 <<< (8 * bytes)) then some last else none
  | bytes + 1, part :: rest =>
    if part < 256 then (joinParts bytes rest).map (part * (256 * (1 <<< (8 * bytes))) + ·) else none
  | _, _ => none

/-- The number of 32 bits that a name stands for. -/
def readShort (name : String) : Except Problem Host :=
  match ((parts name).mapM partValue?).bind (joinParts 3) with
  | some number => .ok (short number)
  | none => .error .short

/-- A piece of a number of 128 bits: up to four digits. -/
def piece? (text : List Char) : Option Nat :=
  if text.isEmpty || 4 < text.length then none
  else text.foldlM (fun value c => (Text.hexValue? c).map (value * 16 + ·)) 0

def byte? (text : List Char) : Option Nat :=
  let value := Text.natOfDigits text
  if text.all Char.isDigit && text = Text.digits value && value < 256 then some value else none

/-- The pieces of a text between colons. The last may be four decimal bytes, for two pieces, where
`mayEndShort` says so. -/
def pieces? (mayEndShort : Bool) (text : List Char) : Option (List Nat) :=
  if text.isEmpty then some []
  else
    let groups := text.splitOn ':'
    let last := groups.getLastD []
    if mayEndShort && last.contains '.' then
      match (last.splitOn '.').mapM byte? with
      | some [a, b, c, d] =>
        (groups.dropLast.mapM piece?).map (· ++ [a * 256 + b, c * 256 + d])
      | _ => none
    else groups.mapM piece?

/-- The texts in front of the first double colon and behind it. -/
def splitDouble : List Char → Option (List Char × List Char)
  | ':' :: ':' :: rest => some ([], rest)
  | c :: rest => (splitDouble rest).map fun (front, back) => (c :: front, back)
  | [] => none

/-- The number of 128 bits of a text without its brackets. A double colon stands for as many zeros
as are missing. -/
def readLong (text : List Char) : Except Problem Host :=
  let pieces := match splitDouble text with
    | none => (pieces? true text).filter (·.length = 8)
    | some (front, back) => do
      let front ← pieces? false front
      let back ← pieces? true back
      let count := front.length + back.length
      -- a double colon has to stand for something
      if count < 8 then some (front ++ List.replicate (8 - count) 0 ++ back) else none
  match pieces with
  | some pieces => .ok (long pieces)
  | none => .error .long

def read (text : List Char) : Except Problem Host :=
  match text with
  | [] => .error .empty
  | '[' :: rest =>
    if rest.getLast? = some ']' then readLong rest.dropLast else .error .long
  | text => do
    let name ← readName text
    if endsInNumber name then readShort name else return .name name

/-! ### Writing

Hosts are written in one form, whatever form they were given in: four decimal bytes for the short
numbers, and for the long ones hexadecimal pieces without leading zeros. -/

/-- The lengths of the runs of zeros that begin at each piece. -/
def zeroRuns : List Nat → List Nat
  | [] => []
  | piece :: rest =>
    let runs := zeroRuns rest
    (if piece = 0 then runs.headD 0 + 1 else 0) :: runs

def piecesText (pieces : List Nat) : String :=
  ":".intercalate (pieces.map fun piece => String.ofList (Text.hexDigits piece))

/-- A number of 128 bits; its longest run of zeros, the first of equal ones, is a double colon. -/
def longText (pieces : List Nat) : String :=
  let runs := zeroRuns pieces
  let longest := runs.foldl max 0
  if longest < 2 then piecesText pieces
  else
    let place := runs.idxOf longest
    piecesText (pieces.take place) ++ "::" ++ piecesText (pieces.drop (place + longest))

/-- A number of 32 bits as four decimal bytes. -/
def shortText (number : Nat) : String :=
  ".".intercalate ([24, 16, 8, 0].map fun shift => Text.decimal ((number >>> shift) % 256))

/-- The host as it is written in an address. -/
def text : Host → String
  | name text => text
  | short number => shortText number
  | long pieces => "[" ++ longText pieces ++ "]"

end Host

end AzcRepair.Http
