import AzcRepair.Text.Ranges

/-!
# Blanks and trimming

A blank is a character with the Unicode property `White_Space`: the tab to carriage return block,
the space, next line, the no-break space, the typographic spaces and the two separators. Zero width
space and byte order mark are not blanks.

* `trimStart`, `trimEnd`, `trim` drop blanks at the ends of a list of characters.
* `trimmed`, `trimmedEnd`, `isBlankText` are the same on strings.
-/

namespace AzcRepair.Text

/-- Code points with the property `White_Space`, as listed in `PropList` of the Unicode character
database. -/
def blankRanges : List (Nat × Nat) :=
  [(0x9, 0xD), (0x20, 0x20), (0x85, 0x85), (0xA0, 0xA0), (0x1680, 0x1680), (0x2000, 0x200A),
  (0x2028, 0x2029), (0x202F, 0x202F), (0x205F, 0x205F), (0x3000, 0x3000)]

def isBlank (c : Char) : Bool :=
  inRanges blankRanges c

def trimStart (text : List Char) : List Char :=
  text.dropWhile isBlank

def trimEnd (text : List Char) : List Char :=
  (text.reverse.dropWhile isBlank).reverse

def trim (text : List Char) : List Char :=
  trimEnd (trimStart text)

/-- Drops the blanks at both ends of a string. -/
def trimmed (text : String) : String :=
  String.ofList (trim text.toList)

/-- Drops the blanks at the end of a string. -/
def trimmedEnd (text : String) : String :=
  String.ofList (trimEnd text.toList)

def isBlankText (text : String) : Bool :=
  text.toList.all isBlank

@[simp] theorem toList_trimmed (text : String) : (trimmed text).toList = trim text.toList := by
  simp [trimmed]

end AzcRepair.Text
