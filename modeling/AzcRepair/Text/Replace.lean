/-!
# Replacing parts of a text

Every occurrence of a pattern is replaced, from the left and without overlaps; what was put in is
not looked at again.
-/

namespace AzcRepair.Text

/-- Replaces `pattern` by `text`. The first `skip` characters belong to an occurrence that was
already replaced. -/
def replaceFrom (pattern text : List Char) (skip : Nat) : List Char → List Char
  | [] => []
  | c :: rest =>
    match skip with
    | skip + 1 => replaceFrom pattern text skip rest
    | 0 =>
      if pattern ≠ [] ∧ pattern.isPrefixOf (c :: rest) then
        text ++ replaceFrom pattern text (pattern.length - 1) rest
      else c :: replaceFrom pattern text 0 rest

/-- Replaces every occurrence of a pattern that is not empty. -/
def replaceAll (pattern replacement text : String) : String :=
  String.ofList (replaceFrom pattern.toList replacement.toList 0 text.toList)

end AzcRepair.Text
