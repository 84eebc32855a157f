import AzcRepair.Text.Numeral
import AzcRepair.Text.Printable

/-!
# Quoted text

Text in quotation marks, for diagnostics: quotes and backslashes get a backslash, the common
controls their letter, and every other character that does not show is given by its code point.
-/

namespace AzcRepair.Text

/-- How a character is written between the quotes. -/
def quotedChar (c : Char) : List Char :=
  match c with
  | '\x00' => ['\\', '0']
  | '\t' => ['\\', 't']
  | '\n' => ['\\', 'n']
  | '\r' => ['\\', 'r']
  | '"' => ['\\', '"']
  | '\\' => ['\\', '\\']
  | c => if shows c then [c] else ['\\', 'u', '\x7b'] ++ hexDigits c.toNat ++ ['\x7d']

def quoted (text : String) : String :=
  "\"" ++ String.ofList (text.toList.flatMap quotedChar) ++ "\""

end AzcRepair.Text
