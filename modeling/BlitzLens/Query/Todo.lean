import BlitzLens.Line.Comment
import BlitzLens.Text.Lines

/-!
# Open points

Comments that start with one of some tags, such as `; TODO: load the level`. The tag stands behind
the semicolons of the comment and perhaps blanks, ends at a word boundary, and is compared exactly.
-/

namespace BlitzLens

/-- A tagged comment. -/
structure Todo where
  /-- The line of the comment. -/
  line : Int
  /-- The column of the tag. -/
  character : Int
  /-- The tag. -/
  tag : Text
  /-- The text behind the tag. -/
  text : Text
  deriving DecidableEq, Repr

namespace Todo

/-- Whether a word character stands right before a column. -/
def wordEndsAt (line : Text) (column : Nat) : Bool :=
  ((line.take column).getLast?).any isWordChar

/-- Whether a word character stands at a column. -/
def wordStartsAt (line : Text) (column : Nat) : Bool :=
  (line.drop column).head?.any isWordChar

/-- Whether a word starts or ends at a column. -/
def isBoundary (line : Text) (column : Nat) : Bool :=
  wordEndsAt line column != wordStartsAt line column

/-- The tag at a column, if it ends at a word boundary. The first of `tags` that fits is taken. -/
def tagAt? (tags : List Text) (line : Text) (column : Nat) : Option Text :=
  tags.find? fun tag =>
    tag.isPrefixOf (line.drop column) && isBoundary line (column + tag.length)

/-- The column behind the semicolons of a comment and the blanks that follow them. -/
def bodyColumn (line : Text) (start : Nat) : Nat :=
  let comment := line.drop start
  let body := (comment.dropWhile (· == ';')).dropWhile isBlank
  start + (comment.length - body.length)

/-- The last of the columns behind `start`, up to `start + count`, at which a tag stands. -/
def lastTagged? (tags : List Text) (line : Text) (start : Nat) : Nat → Option (Nat × Text)
  | 0 => none
  | count + 1 =>
    match tagAt? tags line (start + (count + 1)) with
    | some tag => some (start + (count + 1), tag)
    | none => lastTagged? tags line start count

/-- The tagged comment of a line. -/
def ofLine? (tags : List Text) (number : Nat) (line : Text) : Option Todo := do
  let start ← Line.commentStart? line
  let (column, tag) ← lastTagged? tags line start (bodyColumn line start - start)
  let rest := line.drop (column + tag.length)
  -- one colon behind the tag is not part of the text
  let rest := if rest.head? == some ':' then rest.drop 1 else rest
  return ⟨number, column, tag, Text.trim rest⟩

/-- The tags that are looked for when none are given. -/
def defaultTags : List Text :=
  ["TODO", "FIXME"]

/-- The tagged comments of a text. -/
def find (text : Text) (tags : List Text) : List Todo :=
  text.lines.zipIdx.filterMap fun (line, number) => ofLine? tags number line

end Todo

end BlitzLens
