import BlitzLens.Scope.Visible

/-!
# Members

A field is reached through a field marker: in `a\b\c` the word `c` is a field of the type of `b`,
which is a field of the type of `a`. The words left of a marker form a chain, from which groups in
parentheses behind a word are left out.
-/

namespace BlitzLens.Scope

/-- The column of the field marker right before a column, with only spaces and tabs in between. -/
def memberMarker? (line : Text) (column : Int) : Except ColumnError (Option Nat) :=
  match column with
  | .ofNat n =>
    if line.length < n then .error .outOfRange
    else
      let bare := Text.dropEndWhile isSpaceOrTab (line.take n)
      .ok (if bare.getLast? == some '\\' then some (bare.length - 1) else none)
  | .negSucc _ => .ok none

/-- The number of characters before the parenthesis that opens the innermost `depth` groups of a
text that is given in reverse. -/
def openingBack? (depth : Nat) : Text → Option Nat
  | [] => none
  | c :: rest =>
    if c == ')' then openingBack? (depth + 1) rest
    else if c == '(' then
      -- the text is reversed, so what is left of it stands before the parenthesis
      if depth == 1 then some rest.length else openingBack? (depth - 1) rest
    else openingBack? depth rest

/-- The column at which a text ends once a group in parentheses at its end is left out. -/
def endBeforeGroup? (text : Text) : Option Nat :=
  if text.getLast? == some ')' then openingBack? 0 text.reverse else some text.length

/-- The words of the expression that ends at a column, followed by the words in `chain`. -/
def chainFrom? (line : Text) (column : Nat) (chain : List Word) :
    Except ColumnError (Option (List Word)) := do
  if line.length < column then throw .outOfRange
  match endBeforeGroup? (Text.dropEndWhile isSpaceOrTab (line.take column)) with
  | none => return none
  | some stop =>
    match ← Line.wordBefore? line stop with
    | none => return none
    | some word =>
      match ← memberMarker? line word.start with
      | none => return some (word :: chain)
      | some marker =>
        -- the marker lies left of the column, so the search ends
        if marker < column then chainFrom? line marker (word :: chain)
        else return some (word :: chain)
termination_by column

/-- The words of the expression left of a field marker. -/
def memberChain? (line : Text) (marker : Int) : Except ColumnError (Option (List Word)) :=
  match marker with
  | .ofNat n => chainFrom? line n []
  | .negSucc _ => do return (← Line.wordBefore? line marker).map fun word => [word]

/-- The type with a name. -/
def findType? (symbols : List Symbol) (name : Option Text) : Option RecordType :=
  match name with
  | none => none
  | some name =>
    if name.isEmpty then none
    else (symbols.filterMap Symbol.asType?).find? fun t => t.key == name.lower

/-- The field of a type with a name. -/
def findField? (owner : RecordType) (name : Text) : Option Variable :=
  owner.fields.find? fun field => field.key == name.lower

/-- The key of the type of a symbol's value. -/
def typeNameOf? : Symbol → Option Text
  | .ofVariable v => v.typeName
  | .ofFunction f => f.returnTypeName
  | _ => none

/-- The type reached from `owner` through the fields that some words name. -/
def followFields? (symbols : List Symbol) (owner : Option RecordType) :
    List Word → Option RecordType
  | [] => owner
  | word :: words =>
    match owner.bind fun owner => findField? owner word.text with
    | none => none
    | some field => followFields? symbols (findType? symbols field.typeName) words

/-- The type of the expression left of a field marker. -/
def memberOwner? (symbols : List Symbol) (path : Text) (number : Int) (line : Text)
    (marker : Int) : Except ColumnError (Option RecordType) := do
  match ← memberChain? line marker with
  | some (root :: words) =>
    match ← resolve? symbols path number line root with
    | some symbol => return followFields? symbols (findType? symbols (typeNameOf? symbol)) words
    | none => return none
  | _ => return none

/-- The field that a word behind a field marker refers to. -/
def resolveMember? (symbols : List Symbol) (path : Text) (number : Int) (line : Text)
    (word : Word) : Except ColumnError (Option Variable) := do
  match ← memberMarker? line word.start with
  | none => return none
  | some marker =>
    return (← memberOwner? symbols path number line marker).bind fun owner =>
      findField? owner word.text

end BlitzLens.Scope
