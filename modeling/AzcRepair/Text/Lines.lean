/-!
# Lines

A line ends at a line feed, with an optional carriage return before it that belongs to the ending.
Text after the last line feed is a line of its own when it is not empty; a carriage return at its
end stays.
-/

namespace AzcRepair.Text

/-- Removes one carriage return at the end of a line. -/
def dropReturn : List Char → List Char
  | [] => []
  -- a carriage return within the line stays, and so does a second one at its end
  | ['\r'] => []
  | c :: rest => c :: dropReturn rest

/-- Cuts a text at every `sep`; the pieces joined by `sep` are the text again. -/
def pieces (sep : Char) : List Char → List (List Char)
  | [] => [[]]
  | c :: rest =>
    if c = sep then [] :: pieces sep rest
    else match pieces sep rest with
      | [] => [[c]]
      | piece :: others => (c :: piece) :: others

/-- All pieces but the last end in a line feed; the last is a line only when it is not empty. -/
def closeLines : List (List Char) → List (List Char)
  | [] => []
  | [last] => if last.isEmpty then [] else [last]
  | piece :: others => dropReturn piece :: closeLines others

/-- The lines of a text, without their endings. -/
def lines (text : List Char) : List (List Char) :=
  closeLines (pieces '\n' text)

theorem pieces_ne_nil (sep : Char) (text : List Char) : pieces sep text ≠ [] := by
  cases text with
  | nil => simp [pieces]
  | cons c rest =>
    unfold pieces
    split
    · simp
    · split <;> simp

end AzcRepair.Text
