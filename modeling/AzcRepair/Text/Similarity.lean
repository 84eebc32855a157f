/-!
# Similar words

Jaro's measure of how alike two words are. A character of one word matches an equal one of the other
when their places are not too far apart; the score is the mean of the matched share of each word and
the share of matches that come in the same order. It is computed in doubles, one share after the
other, since what it is compared with is a double too.
-/

namespace AzcRepair.Text

/-- A word whose characters are marked once they are matched. -/
abbrev MarkedWord := List (Char × Bool)

/-- Marks the first free `c` among the places from `low` up to `high`; `place` is where the word
given begins. -/
def markFirst (c : Char) (low high : Nat) : Nat → MarkedWord → Option MarkedWord
  | _, [] => none
  | place, m :: rest =>
    if high < place then none
    else if low ≤ place && m.1 == c && !m.2 then some ((c, true) :: rest)
    else (markFirst c low high (place + 1) rest).map (m :: ·)

/-- Matches the characters of a word, the first of them at `place`, with those of a marked word;
`reach` is how far apart the places may be. Gives the matched characters and the marks. -/
def matchWord (reach : Nat) : Nat → List Char → MarkedWord → List Char × MarkedWord
  | _, [], marked => ([], marked)
  | place, c :: rest, marked =>
    match markFirst c (place - reach) (place + reach) 0 marked with
    -- no partner within reach: the character is passed over and its place still counts
    | none => matchWord reach (place + 1) rest marked
    | some marked =>
      let (found, marked) := matchWord reach (place + 1) rest marked
      (c :: found, marked)

def share (part whole : Nat) : Float :=
  part.toFloat / whole.toFloat

/-- How alike two words are, between 0 and 1. -/
def similarity (a b : String) : Float :=
  let m := a.length
  let n := b.length
  if m = 0 ∧ n = 0 then 1
  else
    let reach := max m n / 2 - 1
    let (found, marked) := matchWord reach 0 a.toList (b.toList.map (·, false))
    let partners := (marked.filter (·.2)).map (·.1)
    -- a pair out of order is seen from both of its places, hence the half
    let moved := ((found.zip partners).filter fun pair => pair.1 ≠ pair.2).length / 2
    let k := found.length
    if k = 0 then 0 else (share k m + share k n + share (k - moved) k) / 3

end AzcRepair.Text
