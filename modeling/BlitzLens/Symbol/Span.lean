/-!
# Spans

A region of a document. Lines are inclusive, the end column is exclusive, and both count from zero.
-/

namespace BlitzLens

/-- A region of a document. -/
structure Span where
  /-- The line of the first character. -/
  startLine : Int
  /-- The column of the first character. -/
  startCol : Int
  /-- The line of the last character. -/
  endLine : Int
  /-- The column behind the last character. -/
  endCol : Int
  deriving DecidableEq, Repr

namespace Span

/-- The region of one line between two columns. -/
def onLine (line start stop : Int) : Span :=
  ⟨line, start, line, stop⟩

/-- Whether the region reaches over a line. -/
def containsLine (span : Span) (line : Int) : Bool :=
  span.startLine ≤ line && line ≤ span.endLine

/-- Whether the lines of the region include those of another. -/
def encloses (outer inner : Span) : Bool :=
  outer.startLine ≤ inner.startLine && inner.endLine ≤ outer.endLine

end Span

end BlitzLens
