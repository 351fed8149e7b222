import BlitzLens.Text.Basic

/-!
# Matching without regard to case

Keywords are recognised in any case. Four letters beyond ASCII count as the ASCII letter they are a
form of: the dotless and the dotted capital I, the long S and the Kelvin sign.
-/

namespace BlitzLens

/-- The character that `c` counts as when case is disregarded. -/
def caseless (c : Char) : Char :=
  if c == 'ı' || c == 'İ' then 'i'
  else if c == 'ſ' then 's'
  else if c == '\u212a' then 'k'
  else c.toLower

namespace Text

/-- Whether a text spells a keyword, given in lower case. -/
def spells (text keyword : Text) : Bool :=
  text.map caseless == keyword

/-- What follows a keyword, given in lower case, at the start of a text. -/
def dropKeyword? (keyword : Text) (text : Text) : Option Text :=
  if (text.take keyword.length).map caseless == keyword then some (text.drop keyword.length)
  else none

/-- What follows a keyword that ends at a word boundary. -/
def dropWholeKeyword? (keyword : Text) (text : Text) : Option Text := do
  let rest ← dropKeyword? keyword text
  match rest with
  | [] => some rest
  | c :: _ => if isWordChar c then none else some rest

/-- What follows the blanks at the start of a text, of which there is at least one. -/
def dropBlanks? (text : Text) : Option Text :=
  match text with
  | [] => none
  | c :: _ => if isBlank c then some text.trimStart else none

/-- The identifier at the start of a text, where case is disregarded in its first character, and
what follows it. -/
def looseIdentifier? : Text → Option (Text × Text)
  | [] => none
  | c :: rest =>
    if isIdentifierStart (caseless c) then
      some (c :: rest.takeWhile isWordChar, rest.dropWhile isWordChar)
    else none

end Text

end BlitzLens
