import BlitzLens.Scope.Visible

/-!
# Highlights

The class of every word of a document that refers to a symbol. A word is resolved as under a caret,
with two differences: fields count wherever a guard admits them, whatever the type of the expression
before them, and labels are not highlighted. The tokens can be encoded as numbers relative to one
another.
-/

namespace BlitzLens

/-- The classes of highlighted words. -/
inductive TokenClass where
  /-- A record type. -/
  | type
  /-- A user function. -/
  | function
  /-- A variable. -/
  | var
  /-- A field. -/
  | field
  /-- A parameter. -/
  | parameter
  deriving DecidableEq, Repr

namespace TokenClass

/-- The word for a class. -/
def word : TokenClass → Text
  | .type => "type"
  | .function => "function"
  | .var => "variable"
  | .field => "field"
  | .parameter => "parameter"

/-- All classes, in the order in which an encoding numbers them. -/
def all : List TokenClass :=
  [.type, .function, .var, .field, .parameter]

/-- The class of a symbol; labels have none. -/
def ofSymbol? : Symbol → Option TokenClass
  | .ofFunction _ => some .function
  | .ofType _ => some .type
  | .ofVariable v =>
    match v.storage with
    | .field => some .field
    | .parameter => some .parameter
    | _ => some .var
  | .ofLabel _ => none

end TokenClass

/-- A highlighted word. -/
structure Token where
  /-- The line of the word. -/
  line : Int
  /-- The column where the word starts. -/
  start : Int
  /-- The number of its characters. -/
  length : Int
  /-- Its class. -/
  tokenClass : TokenClass
  deriving DecidableEq, Repr

namespace Highlight

/-- The symbols of a name that a word on a line may refer to, in the order in which they are
considered. -/
def candidates (symbols : List Symbol) (path : Text) (number : Int)
    (enclosing : Option Function) (key : Text) : List Symbol :=
  (symbols.filter fun symbol =>
      symbol.key == key && Scope.isVisible path number enclosing.isSome symbol) ++
    ((((symbols.filterMap Symbol.asType?).flatMap RecordType.fields).filter fun field =>
      field.key == key).map .ofVariable) ++
    (match enclosing with
      | some f => ((Scope.visibleLocals f number).filter fun v => v.key == key).map .ofVariable
      | none => [])

/-- The token of a word, if the word refers to a symbol that is highlighted. -/
def tokenOf? (symbols : List Symbol) (path : Text) (number : Int) (line : Text)
    (enclosing : Option Function) (word : Word) : Except ColumnError (Option Token) := do
  let chosen ← Scope.choose line word none
    (candidates symbols path number enclosing word.text.lower)
  return (chosen.bind TokenClass.ofSymbol?).map fun tokenClass =>
    ⟨number, word.start, word.stop - word.start, tokenClass⟩

/-- The tokens of a line. -/
def lineTokens (symbols : List Symbol) (path : Text) (number : Int) (line : Text) :
    Except ColumnError (List Token) := do
  let enclosing := Scope.enclosingFunction? symbols path number
  let tokens ← (Line.codeWords line).mapM (tokenOf? symbols path number line enclosing)
  return tokens.filterMap id

/-- The tokens of a document, in order. -/
def tokens (symbols : List Symbol) (path : Text) (lines : List Text) :
    Except ColumnError (List Token) := do
  let perLine ← lines.zipIdx.mapM fun (line, number) => lineTokens symbols path number line
  return perLine.flatten

end Highlight

/-- Why tokens cannot be encoded. -/
inductive EncodeError where
  /-- The legend lacks a class that a token has. -/
  | notInLegend (word : Text)
  deriving DecidableEq, Repr

namespace Token

/-- Whether a token stands before another, or at the same place. -/
def notAfter (a b : Token) : Bool :=
  a.line < b.line || (a.line == b.line && a.start ≤ b.start)

/-- The words for all classes, in the order in which an encoding numbers them. -/
def fullLegend : List Text :=
  TokenClass.all.map TokenClass.word

/-- The numbers of tokens that follow one another, the first behind a token at `line` and `start`:
each token is given by its line and start relative to the token before it (the start only on the
same line), its length, the index of its class, and an unused zero. -/
def encodeFrom (legend : List Text) (line start : Int) :
    List Token → Except EncodeError (List Int)
  | [] => .ok []
  | token :: tokens =>
    match legend.idxOf? token.tokenClass.word with
    | none => .error (.notInLegend token.tokenClass.word)
    | some index => do
      let later ← encodeFrom legend token.line token.start tokens
      let column := if token.line == line then token.start - start else token.start
      return (token.line - line) :: column :: token.length :: (index : Int) :: 0 :: later

/-- The numbers of tokens, which are sorted by their places first. -/
def encode (legend : List Text) (tokens : List Token) : Except EncodeError (List Int) :=
  encodeFrom legend 0 0 (tokens.mergeSort notAfter)

end Token

end BlitzLens
