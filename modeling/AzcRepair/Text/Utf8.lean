/-!
# Reading bytes as text

UTF-8 is read one byte at a time. Bytes that begin no character, or that break one off, are
replaced: each longest run that could still have become a character gives one replacement character.
-/

namespace AzcRepair.Text

/-- A character that is not complete yet. -/
structure Unfinished where
  /-- The bits so far. -/
  bits : Nat
  /-- How many bytes are to come. -/
  missing : Nat
  /-- The least value of the next byte. -/
  low : Nat
  /-- The greatest value of the next byte. -/
  high : Nat
  deriving DecidableEq, Repr

def replacement : Char := '\ufffd'

/-- What a first byte begins: a character of one byte, a longer one, or nothing. -/
def beginChar (byte : Nat) : Except Char Unfinished :=
  if byte < 0x80 then .error (Char.ofNat byte)
  else if byte < 0xC2 then .error replacement
  else if byte < 0xE0 then .ok ⟨byte - 0xC0, 1, 0x80, 0xBF⟩
  -- at the ends of a range the second byte is narrowed: that leaves out longer forms than needed,
  -- surrogates and what lies beyond the last code point
  else if byte = 0xE0 then .ok ⟨0, 2, 0xA0, 0xBF⟩
  else if byte = 0xED then .ok ⟨0xD, 2, 0x80, 0x9F⟩
  else if byte < 0xF0 then .ok ⟨byte - 0xE0, 2, 0x80, 0xBF⟩
  else if byte = 0xF0 then .ok ⟨0, 3, 0x90, 0xBF⟩
  else if byte < 0xF4 then .ok ⟨byte - 0xF0, 3, 0x80, 0xBF⟩
  else if byte = 0xF4 then .ok ⟨4, 3, 0x80, 0x8F⟩
  else .error replacement

/-- The byte goes on with the character. -/
def Unfinished.accepts (char : Unfinished) (byte : Nat) : Bool :=
  char.low ≤ byte && byte ≤ char.high

/-- The character with one more byte: complete, or still unfinished. -/
def Unfinished.push (char : Unfinished) (byte : Nat) : Except Char Unfinished :=
  let bits := char.bits * 0x40 + (byte - 0x80)
  if char.missing ≤ 1 then .error (Char.ofNat bits) else .ok ⟨bits, char.missing - 1, 0x80, 0xBF⟩

/-- Reads bytes, the first of which may go on with an unfinished character. -/
def decodeFrom : Option Unfinished → List UInt8 → List Char
  | none, [] => []
  | some _, [] => [replacement]
  | none, byte :: rest =>
    -- the byte that breaks a character off is looked at again, since it may begin another one
    match beginChar byte.toNat with
    | .error c => c :: decodeFrom none rest
    | .ok char => decodeFrom (some char) rest
  | some char, byte :: rest =>
    if char.accepts byte.toNat then
      match char.push byte.toNat with
      | .error c => c :: decodeFrom none rest
      | .ok char => decodeFrom (some char) rest
    else
      match beginChar byte.toNat with
      | .error c => replacement :: c :: decodeFrom none rest
      | .ok char => replacement :: decodeFrom (some char) rest

/-- The text of bytes; what is not UTF-8 is replaced. -/
def decodeLossy (bytes : ByteArray) : String :=
  String.ofList (decodeFrom none bytes.data.toList)

end AzcRepair.Text
