import BlitzLens.Text.Blank
import BlitzLens.Text.WordChar

/-!
# Texts

A text is the list of its characters, and a column is a position between two of them. Columns given
from outside are integers: a negative column counts from the end of the text. Cutting clamps such
columns to the text, reading one character at a column outside the text fails.
-/

namespace BlitzLens

/-- A piece of source text or of output, character by character. -/
abbrev Text := List Char

instance : Coe String Text := ⟨String.toList⟩

/-- What goes wrong when a line is read at a column. -/
inductive ColumnError where
  /-- The column lies before the first or behind the last character. -/
  | outOfRange
  deriving DecidableEq, Repr

/-- The wording of a column error. -/
def ColumnError.message : ColumnError → Text
  | .outOfRange => "string index out of range"

namespace Text

/-- The number of characters before a column, where a column outside the text is moved to its nearer
end. -/
def clamp (text : Text) (column : Int) : Nat :=
  match column with
  | .ofNat n => min n text.length
  | .negSucc k => text.length - (k + 1)

/-- The characters from column `start` up to column `stop`. -/
def slice (text : Text) (start stop : Int) : Text :=
  (text.take (text.clamp stop)).drop (text.clamp start)

/-- The characters before a column. -/
def upTo (text : Text) (column : Int) : Text :=
  text.take (text.clamp column)

/-- The characters from a column on. -/
def startingAt (text : Text) (column : Int) : Text :=
  text.drop (text.clamp column)

/-- The character at a column, counted from the end when the column is negative. -/
def charAt? (text : Text) (column : Int) : Option Char :=
  match column with
  | .ofNat n => text[n]?
  | .negSucc k => if k < text.length then text[text.length - (k + 1)]? else none

/-- The character at a column, or the failure to find one. -/
def charAt (text : Text) (column : Int) : Except ColumnError Char :=
  match text.charAt? column with
  | some c => .ok c
  | none => .error .outOfRange

/-- The text without leading blanks. -/
def trimStart (text : Text) : Text :=
  text.dropWhile isBlank

/-- The text without its longest ending of characters that satisfy `p`. -/
def dropEndWhile (p : Char → Bool) (text : Text) : Text :=
  (text.reverse.dropWhile p).reverse

/-- The longest ending of characters that satisfy `p`. -/
def takeEndWhile (p : Char → Bool) (text : Text) : Text :=
  (text.reverse.takeWhile p).reverse

/-- The text without trailing blanks. -/
def trimEnd (text : Text) : Text :=
  text.dropEndWhile isBlank

/-- The text without blanks at either end. -/
def trim (text : Text) : Text :=
  trimEnd (trimStart text)

/-- Whether a text consists of blanks, or is empty. -/
def isBlankText (text : Text) : Bool :=
  text.all isBlank

/-- What follows `lead` at the start of a text. -/
def dropLead? (lead : Text) (text : Text) : Option Text :=
  if lead.isPrefixOf text then some (text.drop lead.length) else none

/-- Whether a text ends with `tail`. -/
def endsWith (text tail : Text) : Bool :=
  tail.isSuffixOf text

/-- The pieces between the occurrences of a separator; one more than there are separators. -/
def splitAtChar (separator : Char) : Text → List Text
  | [] => [[]]
  | c :: rest =>
    match splitAtChar separator rest with
    | [] => [[c]]
    | piece :: pieces => if c == separator then [] :: piece :: pieces else (c :: piece) :: pieces

/-- The pieces with `separator` between them. -/
def joinWith (separator : Text) (pieces : List Text) : Text :=
  (pieces.intersperse separator).flatten

/-- The maximal runs of characters that are not blanks. -/
def blankSeparated (text : Text) : List Text :=
  (go text).filter fun piece => !piece.isEmpty
where
  /-- The pieces between single blanks. -/
  go : Text → List Text
    | [] => [[]]
    | c :: rest =>
      match go rest with
      | [] => [[c]]
      | piece :: pieces => if isBlank c then [] :: piece :: pieces else (c :: piece) :: pieces

/-- The first column at which `c` stands, from column `start` on. -/
def indexFrom? (text : Text) (c : Char) (start : Nat) : Option Nat :=
  ((text.drop start).findIdx? (· == c)).map (· + start)

/-- The last column at which `c` stands. -/
def lastIndexOf? (text : Text) (c : Char) : Option Nat :=
  (text.reverse.findIdx? (· == c)).map fun back => text.length - 1 - back

/-- The longest leading run of word characters. -/
def wordRun (text : Text) : Text :=
  text.takeWhile isWordChar

/-- The identifier at the start of a text: an ASCII letter or underscore, and word characters. -/
def identifier? : Text → Option Text
  | [] => none
  | c :: rest => if isIdentifierStart c then some (c :: rest.takeWhile isWordChar) else none

/-- Whether the text `left` is before the text `right` by code points. -/
def before (left right : Text) : Bool :=
  match left, right with
  | [], [] => false
  | [], _ :: _ => true
  | _ :: _, [] => false
  | a :: left, b :: right => if a == b then before left right else a.toNat < b.toNat

/-- An integer in decimal notation. -/
def ofInt (n : Int) : Text :=
  String.toList (toString n)

/-- Splitting never yields an empty list. -/
theorem splitAtChar_ne_nil (separator : Char) (text : Text) : splitAtChar separator text ≠ [] := by
  cases text with
  | nil => simp [splitAtChar]
  | cons c rest =>
    rw [splitAtChar]
    split
    · simp
    · split <;> simp

/-- The pieces between separators, joined by the separator, are the text. -/
theorem joinWith_splitAtChar (separator : Char) (text : Text) :
    joinWith [separator] (splitAtChar separator text) = text := by
  induction text with
  | nil => rfl
  | cons c rest ih =>
    rw [splitAtChar]
    split
    · next h => exact absurd h (splitAtChar_ne_nil separator rest)
    · next piece pieces h =>
      rw [h] at ih
      by_cases hc : c = separator
      · subst hc
        cases pieces <;> simp_all [joinWith, List.intersperse]
      · cases pieces <;> simp_all [joinWith, List.intersperse]

end Text

end BlitzLens
