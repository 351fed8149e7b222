import BlitzLens.Text.Basic

/-!
# Globs

Patterns of paths with wildcards and character classes. A pattern is a list of pieces, and a piece
takes something from the start of a text; what it may leave is a list of rests.
-/

namespace BlitzLens

/-- A set of characters. -/
structure CharSet where
  /-- Whether the set holds the characters outside `ranges`. -/
  negated : Bool
  /-- Closed ranges of characters. -/
  ranges : List (Char × Char)
  deriving DecidableEq, Repr

/-- Whether a set holds a character. -/
def CharSet.contains (set : CharSet) (c : Char) : Bool :=
  (set.ranges.any fun (first, last) => first ≤ c && c ≤ last) != set.negated

/-- A piece of a pattern. -/
inductive GlobPiece where
  /-- One character. -/
  | char (c : Char)
  /-- One character of a set. -/
  | oneOf (set : CharSet)
  /-- One character, which may be a slash if `slashes` holds. -/
  | any (slashes : Bool)
  /-- Any number of characters, among which slashes may be if `slashes` holds. -/
  | run (slashes : Bool)
  /-- Nothing, or anything up to and including a slash. -/
  | directories
  /-- Nothing that exists. -/
  | never
  deriving DecidableEq, Repr

namespace GlobPiece

/-- All endings of a text, the text itself first. -/
def endings : Text → List Text
  | [] => [[]]
  | c :: rest => (c :: rest) :: endings rest

/-- The endings of a text before its first slash, and the one that starts there. -/
def endingsToSlash : Text → List Text
  | [] => [[]]
  | c :: rest => if c == '/' then [c :: rest] else (c :: rest) :: endingsToSlash rest

/-- The endings of a text behind a slash. -/
def endingsBehindSlash : Text → List Text
  | [] => []
  | c :: rest => if c == '/' then rest :: endingsBehindSlash rest else endingsBehindSlash rest

/-- What may be left of a text once the piece has taken something from its start. -/
def rests : GlobPiece → Text → List Text
  | .char _, [] => []
  | .char c, d :: rest => if d == c then [rest] else []
  | .oneOf _, [] => []
  | .oneOf set, d :: rest => if set.contains d then [rest] else []
  | .any _, [] => []
  | .any slashes, d :: rest => if slashes || d != '/' then [rest] else []
  | .run true, text => endings text
  | .run false, text => endingsToSlash text
  | .directories, text => text :: endingsBehindSlash text
  | .never, _ => []

end GlobPiece

/-- A pattern. -/
abbrev Glob := List GlobPiece

namespace Glob

/-- What may be left of some texts once the pattern has taken something from their starts. -/
def rests (pattern : Glob) (texts : List Text) : List Text :=
  pattern.foldl (fun texts piece => (texts.flatMap piece.rests).eraseDups) texts

/-- Whether the pattern takes the whole of a text. -/
def isMatch (pattern : Glob) (text : Text) : Bool :=
  (pattern.rests [text]).any List.isEmpty

/-- The number of characters of a class behind its opening bracket, up to its closing one. A `!` at
the start negates the class, and a bracket right there is an item of it. -/
def classLength? (text : Text) : Option Nat :=
  let negation := if text.head? == some '!' then 1 else 0
  let bracket := if (text.drop negation).head? == some ']' then 1 else 0
  ((text.drop (negation + bracket)).findIdx? (· == ']')).map (· + (negation + bracket))

/-- The parts of the text of a class that the dashes of its ranges separate. A dash is the dash of a
range when at least `least` characters stand before it in its part: one in the first part, and two
in the later ones, whose first character already ends a range. A dash at the end is an item. -/
def rangeParts (least : Nat) (current : Text) : Text → List Text
  | [] => [current]
  | c :: rest =>
    if c == '-' && least ≤ current.length then
      match rest with
      | [] => [current ++ ['-']]
      | d :: rest => current :: rangeParts 2 [d] rest
    else rangeParts least (current ++ [c]) rest

/-- The parts of the text of a class, without the mark that negates it. -/
def classParts (text : Text) : List Text :=
  rangeParts 1 [] text

/-- Joins, from the last one on, the parts whose range would be empty, and drops that range. -/
def joinEmptyRanges : List Text → List Text
  | [] => []
  | part :: parts =>
    match part.getLast?, joinEmptyRanges parts with
    | some first, (last :: more) :: others =>
      if last.toNat < first.toNat then (part.dropLast ++ more) :: others
      else part :: (last :: more) :: others
    | _, parts => part :: parts

/-- The ranges between the parts of a class. -/
def spannedRanges : List Text → List (Char × Char)
  | part :: next :: parts =>
    match part.getLast?, next.head? with
    | some first, some last => (first, last) :: spannedRanges (next :: parts)
    | _, _ => spannedRanges (next :: parts)
  | _ => []

/-- The characters and ranges of a class with the given parts. -/
def classRanges (parts : List Text) : List (Char × Char) :=
  (parts.flatten.map fun c => (c, c)) ++ spannedRanges parts

/-- The piece that the text of a class stands for; empty ranges are left out. -/
def ofClass (text : Text) : GlobPiece :=
  let negated := text.head? == some '!'
  let items := if negated then text.drop 1 else text
  match classRanges (joinEmptyRanges (classParts items)) with
  | [] => if negated then .any true else .never
  | ranges => .oneOf ⟨negated, ranges⟩

/-- The pattern that a text spells, in which wildcards run over slashes; `fuel` bounds the number of
its pieces. -/
def readFrom : Nat → Text → Glob
  | 0, _ => []
  | _ + 1, [] => []
  | fuel + 1, c :: rest =>
    if c == '*' then .run true :: readFrom fuel rest
    else if c == '?' then .any true :: readFrom fuel rest
    else if c == '[' then
      match classLength? rest with
      | some n => ofClass (rest.take n) :: readFrom fuel (rest.drop (n + 1))
      | none => .char c :: readFrom fuel rest
    else .char c :: readFrom fuel rest

/-- The pattern that a text spells, in which wildcards run over slashes. -/
def read (text : Text) : Glob :=
  readFrom text.length text

end Glob

end BlitzLens
