import BlitzLens.Line.Word
import BlitzLens.Text.Caseless

/-!
# Guards

One name can be a variable, a type and a label at once, for `For p.Player = Each Player` uses
`Player` twice for different things. The guard of a symbol says which surroundings make an
occurrence of its name a reference to it. A guard is checked against the text before and the text
behind the occurrence, and has a written form as a pair of patterns.
-/

namespace BlitzLens

/-- The conditions under which an occurrence of a name refers to a symbol. -/
inductive Guard where
  /-- Behind a dot or behind a keyword that introduces a type. -/
  | recordType
  /-- Anywhere but behind a dot, a field marker, `New` or `Each`. -/
  | name
  /-- Behind a field marker, or in a field declaration. -/
  | field
  /-- Behind the dot that opens a line, or as the target of a jump. -/
  | label
  /-- Anywhere. -/
  | anywhere
  /-- Before an opening parenthesis. -/
  | call
  deriving DecidableEq, Repr

namespace Guard

/-- The pattern of the text before an occurrence. -/
def beforePattern? : Guard → Option Text
  | .recordType => some "(?:\\.\\s*|\\b(?:new|each|type|first|last)\\s+)"
  | .name => some "^(?!.*(?:[.\\\\]\\s*|\\b(?:new|each)\\s+)\\Z).*"
  | .field => some "(?:\\\\\\s*|\\bfield\\b.*)"
  | .label => some "(?:^\\s*\\.|\\b(?:goto|gosub|restore)\\s+\\.?)"
  | .anywhere => none
  | .call => none

/-- The pattern of the text behind an occurrence. -/
def afterPattern? : Guard → Option Text
  | .call => some "\\s*\\("
  | _ => none

/-- Whether a text ends with a word that spells one of `keywords`, and blanks. -/
def endsWithKeyword (keywords : List Text) (text : Text) : Bool :=
  let bare := text.trimEnd
  bare.length < text.length &&
    keywords.any fun keyword => (Text.takeEndWhile isWordChar bare).spells keyword

/-- Whether a text ends with the character `c` and perhaps blanks. -/
def endsWithMark (c : Char) (text : Text) : Bool :=
  text.trimEnd.getLast? == some c

/-- Whether a type name may follow a text. -/
def introducesType (before : Text) : Bool :=
  endsWithMark '.' before || endsWithKeyword ["new", "each", "type", "first", "last"] before

/-- Whether a variable may follow a text. -/
def admitsVariable (before : Text) : Bool :=
  !before.contains '\n' &&
    !(endsWithMark '.' before || endsWithMark '\\' before ||
      endsWithKeyword ["new", "each"] before)

/-- Whether the last line of a text holds the word `Field`. -/
def declaresField (before : Text) : Bool :=
  (Line.wordRuns 0 (before.takeEndWhile (· != '\n'))).any fun (_, run) => run.spells "field"

/-- Whether a field may follow a text. -/
def introducesField (before : Text) : Bool :=
  endsWithMark '\\' before || declaresField before

/-- Whether a label may follow a text. -/
def introducesLabel (before : Text) : Bool :=
  before.trimStart == ['.'] ||
    -- a dot before the target of a jump is allowed and not needed
    endsWithKeyword ["goto", "gosub", "restore"]
      (if before.getLast? == some '.' then before.dropLast else before)

/-- Whether the guard admits an occurrence behind `before`. -/
def admitsBefore : Guard → Text → Bool
  | .recordType, before => introducesType before
  | .name, before => admitsVariable before
  | .field, before => introducesField before
  | .label, before => introducesLabel before
  | .anywhere, _ => true
  | .call, _ => true

/-- Whether the guard admits an occurrence in front of `after`. -/
def admitsAfter : Guard → Text → Bool
  | .call, after => after.trimStart.head? == some '('
  | _, _ => true

/-- Whether the guard admits an occurrence between two texts. -/
def admits (guard : Guard) (before after : Text) : Bool :=
  guard.admitsBefore before && guard.admitsAfter after

/-- Whether the stretch of a line from `start` to `stop` refers to a symbol with this guard: it is a
whole word outside strings and the comment, and its surroundings are admitted. -/
def accepts (guard : Guard) (line : Text) (start stop : Int) : Except ColumnError Bool := do
  if !(← Line.isWordBoundary line start stop) then return false
  if Line.inString line start || Line.inComment line start then return false
  return guard.admits (line.upTo start) (line.startingAt stop)

end Guard

end BlitzLens
