import BlitzLens.Text.CodeRange

/-!
# Blanks

The white space that separates words and is trimmed from texts: the ASCII blanks, the four
information separators U+001C to U+001F, and the Unicode spaces and line separators.
-/

namespace BlitzLens

/-- The code points of all blanks. -/
def blankRanges : List CodeRange :=
  [(9, 13), (28, 32), (133, 133), (160, 160), (5760, 5760), (8192, 8202), (8232, 8233),
   (8239, 8239), (8287, 8287), (12288, 12288)]

/-- Whether `c` is white space. -/
def isBlank (c : Char) : Bool :=
  CodeRange.memberOf blankRanges c

/-- Whether `c` is a space or a tab, the only blanks that may stand around a field marker. -/
def isSpaceOrTab (c : Char) : Bool :=
  c == ' ' || c == '\t'

/-- A space or tab is a blank. -/
theorem isBlank_of_isSpaceOrTab {c : Char} (h : isSpaceOrTab c = true) : isBlank c = true := by
  simp only [isSpaceOrTab, Bool.or_eq_true, beq_iff_eq] at h
  rcases h with rfl | rfl <;> decide

end BlitzLens
