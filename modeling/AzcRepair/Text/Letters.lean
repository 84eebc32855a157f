/-!
# ASCII case

Codes, level names and remote status words are compared in ASCII: only `A` to `Z` and `a` to `z`
change case, every other character stays as it is.
-/

namespace AzcRepair.Text

def upperAscii (text : String) : String :=
  String.ofList (text.toList.map Char.toUpper)

def lowerAscii (text : String) : String :=
  String.ofList (text.toList.map Char.toLower)

/-- Equal up to the case of ASCII letters. -/
def sameIgnoringCase (a b : String) : Bool :=
  lowerAscii a == lowerAscii b

@[simp] theorem toList_upperAscii (text : String) :
    (upperAscii text).toList = text.toList.map Char.toUpper := by
  simp [upperAscii]

@[simp] theorem toList_lowerAscii (text : String) :
    (lowerAscii text).toList = text.toList.map Char.toLower := by
  simp [lowerAscii]

end AzcRepair.Text
