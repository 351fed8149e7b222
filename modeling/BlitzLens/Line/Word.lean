import BlitzLens.Line.Comment
import BlitzLens.Text.Digit

/-!
# Words of a line

A word is a maximal run of word characters. A caret touches a word when it stands inside it or at
one of its ends, the way an editor reports a caret behind an identifier. A caret at a negative
column stands on the character it counts to from the end of the line, and the run it is on is
followed over the end of the line to the line's first characters.
-/

namespace BlitzLens

/-- A stretch of a line: the columns where it starts and stops, and its text. -/
structure Word where
  /-- The column of the first character. -/
  start : Int
  /-- The column behind the last character. -/
  stop : Int
  /-- The characters in between. -/
  text : Text
  deriving DecidableEq, Repr

namespace Line

/-- Whether a word character stands at a column. -/
def wordCharAt (line : Text) (column : Int) : Except ColumnError Bool :=
  (line.charAt column).map isWordChar

/-- Whether the columns `start` and `stop` are not inside a word. -/
def isWordBoundary (line : Text) (start stop : Int) : Except ColumnError Bool := do
  if start > 0 then
    if ← wordCharAt line (start - 1) then return false
  if stop < line.length then
    return !(← wordCharAt line stop)
  return true

/-- The word that touches a column counted from the start of the line. -/
def wordTouching? (line : Text) (column : Nat) : Option Word :=
  let left := Text.takeEndWhile isWordChar (line.take column)
  let right := Text.wordRun (line.drop column)
  let column := min column line.length
  if left.isEmpty && right.isEmpty then none
  else some ⟨column - left.length, column + right.length, left ++ right⟩

/-- The word on the character `back` places before the end of the line. -/
def wordFromEnd? (line : Text) (back : Nat) : Option Word :=
  let run := Text.wordRun (line.drop (line.length - back))
  if run.isEmpty then none
  else
    -- the run goes on at the start of the line when it reaches the end
    let start : Int := -back
    let stop : Int :=
      if run.length < back then start + run.length else (line.wordRun.length : Nat)
    some ⟨start, stop, line.slice start stop⟩

/-- The word that touches a column. -/
def wordAt? (line : Text) (column : Int) : Except ColumnError (Option Word) :=
  if line.isEmpty then .ok none
  else
    match column with
    | .ofNat n => .ok (wordTouching? line n)
    | .negSucc k =>
      if k < line.length then .ok (wordFromEnd? line (k + 1)) else .error .outOfRange

/-- The word that ends before a column, with only spaces and tabs in between. -/
def wordBefore? (line : Text) (column : Int) : Except ColumnError (Option Word) :=
  match column with
  | .ofNat n =>
    if line.length < n then .error .outOfRange
    else
      let bare := Text.dropEndWhile isSpaceOrTab (line.take n)
      match bare.getLast? with
      | none => .ok none
      | some c => .ok (if isWordChar c then wordTouching? line (bare.length - 1) else none)
  | .negSucc k => do
    if ← wordCharAt line (.negSucc (k + 1)) then wordAt? line (.negSucc (k + 1)) else return none

/-- The first identifier that starts at or behind a column. -/
def nextWord? (line : Text) (column : Int) : Option Word :=
  let skipped := (line.drop column.toNat).takeWhile fun c => !isIdentifierStart c
  let start := column.toNat + skipped.length
  match Text.identifier? (line.drop start) with
  | none => none
  | some name => some ⟨start, start + name.length, name⟩

/-- The maximal runs of word characters of a text that starts at `column`, each with the column of
its first character. -/
def wordRuns (column : Nat) : Text → List (Nat × Text)
  | [] => []
  | c :: rest =>
    let later := wordRuns (column + 1) rest
    if isWordChar c then
      match later with
      | (start, run) :: others =>
        if start == column + 1 then (column, c :: run) :: others else (column, [c]) :: later
      | [] => [(column, [c])]
    else later

/-- Whether a run of word characters opens like an identifier. -/
def opensIdentifier (run : Text) : Bool :=
  match run with
  | [] => false
  | c :: _ => isIdentifierStart c

/-- The identifiers in the code of a line outside strings, in order. -/
def codeWords (line : Text) : List Word :=
  ((wordRuns 0 (code line)).filter fun (start, run) =>
    opensIdentifier run && !inString line start).map fun (start, run) =>
      ⟨start, start + run.length, run⟩

/-- Whether a text is a number: digits with an optional fraction, or a fraction alone. -/
def isNumber (text : Text) : Bool :=
  let whole := text.takeWhile isDecimalDigit
  match text.dropWhile isDecimalDigit with
  | [] => !whole.isEmpty
  | c :: fraction =>
    c == '.' && fraction.all isDecimalDigit && !(whole.isEmpty && fraction.isEmpty)

end Line

end BlitzLens
