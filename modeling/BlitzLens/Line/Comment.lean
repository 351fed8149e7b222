import BlitzLens.Text.Basic

/-!
# Comments and strings of a line

A string runs from a quote to the next quote of the same line. The comment of a line starts at its
first semicolon outside strings; everything before it is code.
-/

namespace BlitzLens.Line

/-- The distance to the first semicolon outside strings, where `quoted` tells whether the text
starts inside a string. -/
def semicolonFrom? (quoted : Bool) : Text → Option Nat
  | [] => none
  | c :: rest =>
    if c == '"' then (semicolonFrom? (!quoted) rest).map (· + 1)
    else if c == ';' && !quoted then some 0
    else (semicolonFrom? quoted rest).map (· + 1)

/-- The column at which the comment of a line starts. -/
def commentStart? (line : Text) : Option Nat :=
  semicolonFrom? false line

/-- The column at which the code of a line ends. -/
def codeEnd (line : Text) : Nat :=
  (commentStart? line).getD line.length

/-- The code of a line, without its comment. -/
def code (line : Text) : Text :=
  line.take (codeEnd line)

/-- The text of the comment of a line, without its semicolons and surrounding blanks. -/
def trailingComment (line : Text) : Text :=
  match commentStart? line with
  | none => []
  | some start => Text.trim ((line.drop start).dropWhile (· == ';'))

/-- Whether an odd number of quotes stands before a column. -/
def inString (line : Text) (column : Int) : Bool :=
  (line.upTo column).count '"' % 2 == 1

/-- Whether a column lies at or behind the start of the comment. -/
def inComment (line : Text) (column : Int) : Bool :=
  match commentStart? line with
  | none => false
  | some start => (start : Int) ≤ column

/-- Whether a column lies neither in a string nor in the comment. -/
def isCode (line : Text) (column : Int) : Bool :=
  !inString line column && !inComment line column

/-- A semicolon is found within the text. -/
theorem semicolonFrom?_lt {quoted : Bool} {text : Text} {n : Nat}
    (h : semicolonFrom? quoted text = some n) : n < text.length := by
  induction text generalizing quoted n with
  | nil => simp [semicolonFrom?] at h
  | cons c rest ih =>
    rw [semicolonFrom?] at h
    split at h
    · obtain ⟨m, hm, rfl⟩ := Option.map_eq_some_iff.1 h
      simpa using ih hm
    · split at h
      · simp only [Option.some.injEq] at h; simp [← h]
      · obtain ⟨m, hm, rfl⟩ := Option.map_eq_some_iff.1 h
        simpa using ih hm

/-- The code ends within the line. -/
theorem codeEnd_le (line : Text) : codeEnd line ≤ line.length := by
  unfold codeEnd
  cases h : commentStart? line with
  | none => simp
  | some n => simpa using Nat.le_of_lt (semicolonFrom?_lt h)

/-- The code of a line is as long as the column at which it ends says. -/
theorem length_code (line : Text) : (code line).length = codeEnd line := by
  simp [code, Nat.min_eq_left (codeEnd_le line)]

end BlitzLens.Line
