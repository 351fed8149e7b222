import BlitzLens.Query.Position
import BlitzLens.Scope.Member
import BlitzLens.Stub.Basic

/-!
# Completion

The words that may be written at the caret, in one of three ways that the text left of the caret
decides: the fields of a type behind a field marker, the types behind a word or dot that introduces
a type, and everywhere else every visible symbol and then every built-in.
-/

namespace BlitzLens

/-- The kinds of completion items. -/
inductive CompletionKind where
  /-- A user function. -/
  | function
  /-- A built-in. -/
  | builtIn
  /-- A record type. -/
  | type
  /-- A variable. -/
  | var
  /-- A parameter. -/
  | parameter
  /-- A field. -/
  | field
  /-- A label. -/
  | label
  deriving DecidableEq, Repr

/-- The word for a kind of item. -/
def CompletionKind.word : CompletionKind → Text
  | .function => "function"
  | .builtIn => "builtin"
  | .type => "type"
  | .var => "variable"
  | .parameter => "parameter"
  | .field => "field"
  | .label => "label"

/-- One word that may be written. -/
structure CompletionItem where
  /-- The word. -/
  label : Text
  /-- The kind of the word. -/
  kind : CompletionKind
  /-- The declaration of the word. -/
  detail : Text
  /-- The text that is inserted. -/
  insertText : Text
  /-- Whether the inserted text has places to fill in. -/
  isSnippet : Bool := false
  /-- The documentation. -/
  documentation : Option Text := none
  /-- Whether the parameters are shown once the word is inserted. -/
  showsParameters : Bool := false
  deriving DecidableEq, Repr

namespace Completion

/-- A text, unless it is empty. -/
def nonempty? (text : Text) : Option Text :=
  if text.isEmpty then none else some text

/-- The kind of a variable. -/
def variableKind (storage : Storage) : CompletionKind :=
  match storage with
  | .parameter => .parameter
  | .field => .field
  | _ => .var

/-- The item of a variable. -/
def ofVariable (v : Variable) : CompletionItem :=
  { label := v.name
    kind := variableKind v.storage
    detail := v.declaration
    insertText := v.name
    documentation := nonempty? v.description }

/-- The item of a record type. -/
def ofType (t : RecordType) : CompletionItem :=
  { label := t.name, kind := .type, detail := t.declaration, insertText := t.name }

/-- The item of a symbol. A function is inserted with brackets around the caret. -/
def ofSymbol : Symbol → CompletionItem
  | .ofFunction f =>
    { label := f.name
      kind := .function
      detail := f.declaration
      insertText := f.name ++ "($0)"
      isSnippet := true
      documentation := nonempty? (Text.joinWith ['\n'] f.docLines)
      showsParameters := true }
  | .ofType t => ofType t
  | .ofVariable v => ofVariable v
  | .ofLabel l =>
    { label := l.name, kind := .label, detail := l.declaration, insertText := l.name }

/-- The item of a built-in. It is inserted with brackets when it takes arguments, or when brackets
are wanted everywhere. -/
def ofStub (bracketsEverywhere : Bool) (stub : Stub) : CompletionItem :=
  { label := stub.name
    kind := .builtIn
    detail := stub.declaration
    insertText :=
      if stub.takesArguments then stub.name ++ "($\x7b1\x7d)"
      else if bracketsEverywhere then stub.name ++ "()"
      else stub.name
    isSnippet := stub.takesArguments || bracketsEverywhere
    documentation := nonempty? (Text.joinWith ['\n'] stub.description)
    showsParameters := stub.takesArguments }

/-- The symbols chosen for their names after one more visible symbol: it is chosen when its name is
new, and it replaces a variable when it is a variable itself. -/
def chooseSymbol (chosen : List Symbol) (symbol : Symbol) : List Symbol :=
  if chosen.any fun other => other.key == symbol.key then
    chosen.map fun other =>
      if other.key == symbol.key && other.isVariable && symbol.isVariable then symbol else other
  else chosen ++ [symbol]

/-- The first stub of every name that is not in `seen`. -/
def newStubs (seen : List Text) : List Stub → List Stub
  | [] => []
  | stub :: stubs =>
    if seen.contains stub.key then newStubs seen stubs
    else stub :: newStubs (stub.key :: seen) stubs

/-- The items of every visible symbol and every built-in. -/
def everything (symbols : List Symbol) (stubs : StubTable) (path : Text) (number : Int)
    (bracketsEverywhere : Bool) : List CompletionItem :=
  let chosen := (Scope.visible symbols path number false).foldl chooseSymbol []
  chosen.map ofSymbol ++
    (newStubs (chosen.map Symbol.key) stubs.stubs).map (ofStub bracketsEverywhere)

/-- Whether a text is the dot that opens a label. -/
def opensLabel (before : Text) : Bool :=
  before.trim == ['.']

/-- Whether a text ends with a decimal point behind a digit. -/
def endsWithDecimalPoint (before : Text) : Bool :=
  match before.trimEnd.reverse with
  | '.' :: c :: _ => isDecimalDigit c
  | _ => false

/-- The column where the word ends in the caret at a column starts. -/
def wordStart (line : Text) (column : Int) : Int :=
  match column with
  | .ofNat n => ((line.take n).length - (Text.takeEndWhile isWordChar (line.take n)).length : Nat)
  | .negSucc _ => column

end Completion

/-- The words that may be written at a position. -/
def complete (symbols : List Symbol) (stubs : StubTable) (path : Text) (lines : List Text)
    (position : Position) (trigger : Option Text) (bracketsEverywhere : Bool) :
    Except ColumnError (List CompletionItem) := do
  match position.lineOf? lines with
  | none => return []
  | some line =>
    let column := min position.character line.length
    if !Line.isCode line column then return []
    let start := Completion.wordStart line column
    let before := line.upTo start
    match ← Scope.memberMarker? line start with
    | some marker =>
      -- behind a field marker nothing but a field can stand
      let owner ← Scope.memberOwner? symbols path position.line line marker
      return match owner with
        | some owner => owner.fields.map Completion.ofVariable
        | none => []
    | none =>
      -- a marker that was typed but does not stand there offers nothing
      if trigger == some ['\\'] then return []
      if Guard.introducesType before then
        -- the dot of a label and the point of a number introduce no type
        if Completion.opensLabel before || Completion.endsWithDecimalPoint before then return []
        return (symbols.filterMap Symbol.asType?).map Completion.ofType
      return Completion.everything symbols stubs path position.line bracketsEverywhere

end BlitzLens
