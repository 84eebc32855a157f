import AzcRepair.Json.Fault

/-!
# Strings in JSON texts

Between its quotes a string holds characters and escapes. `escape` writes a character, `readString`
reads up to the closing quote. A surrogate escape has to be followed by the escape of its partner;
a lenient reader passes over one that is not, and the string has no value then.
-/

namespace AzcRepair.Json

/-- The 16-bit unit behind four hexadecimal digits. -/
def unit? (a b c d : Char) : Option Nat := do
  let high := (← Text.hexValue? a) * 16 + (← Text.hexValue? b)
  let low := (← Text.hexValue? c) * 16 + (← Text.hexValue? d)
  return high * 256 + low

def isLeading (unit : Nat) : Bool :=
  0xD800 ≤ unit && unit ≤ 0xDBFF

def isTrailing (unit : Nat) : Bool :=
  0xDC00 ≤ unit && unit ≤ 0xDFFF

def pairedChar (leading trailing : Nat) : Char :=
  Char.ofNat ((leading - 0xD800) * 0x400 + (trailing - 0xDC00) + 0x10000)

def shortEscape? : Char → Option Char
  | '"' => some '"'
  | '\\' => some '\\'
  | '/' => some '/'
  | 'b' => some '\x08'
  | 'f' => some '\x0c'
  | 'n' => some '\n'
  | 'r' => some '\r'
  | 't' => some '\t'
  | _ => none

/-- What a string holds, when all of it has a value, and the text behind the closing quote. -/
abbrev StringRead := Except Fault (Option (List Char) × List Char)

/-- Puts a character in front of what was read. -/
def StringRead.push (c : Char) (read : StringRead) : StringRead :=
  read.map fun (chars, rest) => (chars.map (c :: ·), rest)

/-- Gives up the value of what was read. -/
def StringRead.spoil (read : StringRead) : StringRead :=
  read.map fun (_, rest) => (none, rest)

/-- Four bytes were to be read as hexadecimal digits and are none. -/
def badUnit (text : List Char) : StringRead :=
  if byteCount text < 4 then .error (.at .endInString [] 0) else .error (.at .invalidEscape text 4)

/-- Half of a surrogate pair stands alone: a strict reader refuses the string, and a lenient one
gives up its value. -/
def StringRead.lone (strict : Bool) (refusal read : StringRead) : StringRead :=
  if strict then refusal else read.spoil

/-- Why a text that is no complete escape cannot follow on the first half of a pair. -/
def missingPartner : List Char → StringRead
  | '\\' :: 'u' :: rest => badUnit rest
  | ['\\'] => .error (.at .endInString [] 0)
  | '\\' :: rest => .error (.at .cutSurrogate rest 1)
  | [] => .error (.at .endInString [] 0)
  | rest => .error (.at .cutSurrogate rest 1)

def readString (strict : Bool) : List Char → StringRead
  | [] => .error (.at .endInString [] 0)
  | '"' :: rest => .ok (some [], rest)
  | '\\' :: 'u' :: a :: b :: c :: d :: rest =>
    match unit? a b c d with
    | none => badUnit (a :: b :: c :: d :: rest)
    | some unit =>
      -- the second half of a pair cannot stand first
      if isTrailing unit then
        .lone strict (.error (.at .loneSurrogate rest 0)) (readString strict rest)
      else if isLeading unit then
        match rest with
        | '\\' :: 'u' :: e :: f :: g :: h :: rest =>
          match unit? e f g h with
          | none => badUnit (e :: f :: g :: h :: rest)
          | some partner =>
            if isTrailing partner then (readString strict rest).push (pairedChar unit partner)
            else .lone strict (.error (.at .loneSurrogate rest 0)) (readString strict rest)
        -- a lenient reader goes on right behind the first half, since what follows may be text
        | rest => .lone strict (missingPartner rest) (readString strict rest)
      else (readString strict rest).push (Char.ofNat unit)
  | '\\' :: 'u' :: rest => badUnit rest
  | '\\' :: e :: rest =>
    match shortEscape? e with
    | some c => (readString strict rest).push c
    | none => .error (.at .invalidEscape (e :: rest) 1)
  | ['\\'] => .error (.at .endInString [] 0)
  | c :: rest =>
    if c.toNat < 0x20 then .error (.at .controlCharacter rest 0)
    else (readString strict rest).push c

/-- How a character is written inside a string. -/
def escape (c : Char) : List Char :=
  match c with
  | '"' => ['\\', '"']
  | '\\' => ['\\', '\\']
  | '\x08' => ['\\', 'b']
  | '\x0c' => ['\\', 'f']
  | '\n' => ['\\', 'n']
  | '\r' => ['\\', 'r']
  | '\t' => ['\\', 't']
  | c =>
    if c.toNat < 0x20 then
      ['\\', 'u', '0', '0', Text.hexDigit (c.toNat / 16), Text.hexDigit (c.toNat % 16)]
    else [c]

/-- A text between its quotes, every character escaped where it has to be. Characters beyond ASCII
are written as they are. -/
def quoted (text : List Char) : List Char :=
  '"' :: (text.flatMap escape ++ ['"'])

end AzcRepair.Json
