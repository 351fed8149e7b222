import BlitzLens.Text.Basic

/-!
# Lines of a document

A line ends at a carriage return with a line feed, at a lone carriage return, or at a lone line
feed. The last line has no ending, so there is always one line more than there are endings.
-/

namespace BlitzLens.Text

/-- The lines of a text, where `returned` tells whether the text follows a carriage return. -/
def linesAfter (returned : Bool) : Text → List Text
  | [] => [[]]
  | c :: rest =>
    if c == '\n' && returned then linesAfter false rest
    else if c == '\n' || c == '\r' then [] :: linesAfter (c == '\r') rest
    else
      match linesAfter false rest with
      | [] => [[c]]
      | line :: lines => (c :: line) :: lines

/-- The lines of a text. -/
def lines (text : Text) : List Text :=
  linesAfter false text

end BlitzLens.Text
