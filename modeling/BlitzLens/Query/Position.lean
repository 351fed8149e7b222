import BlitzLens.Text.Basic

/-!
# Positions

A place in a document, and the text of the line it is on.
-/

namespace BlitzLens

/-- A place in a document. -/
structure Position where
  /-- The line, counted from zero. -/
  line : Int
  /-- The column. -/
  character : Int
  deriving DecidableEq, Repr

/-- The text of the line of a position, if the document has that line. -/
def Position.lineOf? (position : Position) (lines : List Text) : Option Text :=
  match position.line with
  | .ofNat n => lines[n]?
  | .negSucc _ => none

end BlitzLens
