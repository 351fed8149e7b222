import BlitzLens.Text.Basic

/-!
# Nesting on a line

How deep a place on a line lies in brackets, and whether it lies in a string. Round and square
brackets count alike, a closing bracket without an opening one is ignored, and brackets inside
strings do not count. Splitting a text at the separators of depth zero is how declaration lists,
argument lists and the statements of a line are read.
-/

namespace BlitzLens

/-- The place of a position between brackets and quotes. -/
structure Nesting where
  /-- Whether the position lies in a string. -/
  quoted : Bool
  /-- The number of brackets that are open. -/
  depth : Nat
  deriving DecidableEq, Repr

namespace Nesting

/-- The place before any bracket or quote. -/
def outermost : Nesting := ⟨false, 0⟩

/-- The place behind the character `c`. -/
def after (place : Nesting) (c : Char) : Nesting :=
  if c == '"' then { place with quoted := !place.quoted }
  else if place.quoted then place
  else if c == '(' || c == '[' then { place with depth := place.depth + 1 }
  else if c == ')' || c == ']' then { place with depth := place.depth - 1 }
  else place

/-- Whether `c` is a quote or a bracket. -/
def delimits (c : Char) : Bool :=
  c == '"' || c == '(' || c == '[' || c == ')' || c == ']'

/-- Whether a separator at this place divides the text. -/
def divides (place : Nesting) (separator c : Char) : Bool :=
  c == separator && !delimits c && !place.quoted && place.depth == 0

end Nesting

namespace Line

/-- The pieces of a text between the dividing separators, beginning at `place`. -/
def splitFrom (separator : Char) (place : Nesting) : Text → List Text
  | [] => [[]]
  | c :: rest =>
    if place.divides separator c then [] :: splitFrom separator place rest
    else
      match splitFrom separator (place.after c) rest with
      | [] => [[c]]
      | piece :: pieces => (c :: piece) :: pieces

/-- The pieces of a text between the separators outside brackets and strings. -/
def splitTopLevel (separator : Char) (text : Text) : List Text :=
  splitFrom separator .outermost text

/-- The number of dividing separators in a text that begins at `place`. -/
def countFrom (separator : Char) (place : Nesting) : Text → Nat
  | [] => 0
  | c :: rest =>
    if place.divides separator c then countFrom separator place rest + 1
    else countFrom separator (place.after c) rest

/-- The number of separators outside brackets and strings. -/
def countTopLevel (separator : Char) (text : Text) : Nat :=
  countFrom separator .outermost text

/-- The column of the parenthesis that brings the depth back to zero, in a text that starts at
`column`. -/
def closingFrom? (depth : Int) (quoted : Bool) (column : Int) : Text → Option Int
  | [] => none
  | c :: rest =>
    if c == '"' then closingFrom? depth (!quoted) (column + 1) rest
    else if quoted then closingFrom? depth quoted (column + 1) rest
    else if c == '(' then closingFrom? (depth + 1) quoted (column + 1) rest
    else if c == ')' then
      if depth - 1 == 0 then some column
      else closingFrom? (depth - 1) quoted (column + 1) rest
    else closingFrom? depth quoted (column + 1) rest

/-- The column of the parenthesis that closes the one at `column`, for a column inside the text. -/
def closingParen? (text : Text) (column : Nat) : Option Int :=
  closingFrom? 0 false column (text.drop column)

/-- The column of the parenthesis that closes the one at `column`. From a negative column the search
runs over the end of the text and on from its start. -/
def matchingParen? (text : Text) (column : Int) : Except ColumnError (Option Int) :=
  match column with
  | .ofNat n => .ok (closingParen? text n)
  | .negSucc k =>
    if k < text.length then
      .ok (closingFrom? 0 false column (text.drop (text.length - (k + 1)) ++ text))
    else .error .outOfRange

/-- The columns of the parentheses that are open behind a text, innermost first, where `opened`
are those open before it. -/
def openParensFrom (opened : List Nat) (quoted : Bool) (column : Nat) : Text → List Nat
  | [] => opened
  | c :: rest =>
    if c == '"' then openParensFrom opened (!quoted) (column + 1) rest
    else if quoted then openParensFrom opened quoted (column + 1) rest
    else if c == '(' then openParensFrom (column :: opened) quoted (column + 1) rest
    else if c == ')' then openParensFrom opened.tail quoted (column + 1) rest
    else openParensFrom opened quoted (column + 1) rest

/-- The column of the last parenthesis that is not closed. -/
def lastOpenParen? (text : Text) : Option Nat :=
  (openParensFrom [] false 0 text).head?

/-- Splitting never yields an empty list. -/
theorem splitFrom_ne_nil (separator : Char) (place : Nesting) (text : Text) :
    splitFrom separator place text ≠ [] := by
  cases text with
  | nil => simp [splitFrom]
  | cons c rest =>
    rw [splitFrom]
    split
    · simp
    · split <;> simp

/-- There is one piece more than there are dividing separators. -/
theorem length_splitFrom (separator : Char) (place : Nesting) (text : Text) :
    (splitFrom separator place text).length = countFrom separator place text + 1 := by
  induction text generalizing place with
  | nil => rfl
  | cons c rest ih =>
    rw [splitFrom, countFrom]
    split
    · simp [ih]
    · split
      · next h => exact absurd h (splitFrom_ne_nil _ _ _)
      · next piece pieces h =>
        have := ih (place.after c)
        rw [h] at this
        simpa using this

end Line

end BlitzLens
