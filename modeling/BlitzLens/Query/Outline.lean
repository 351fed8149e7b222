import BlitzLens.Symbol.Basic

/-!
# Outline

The symbols that a file declares itself, in the order of their places. Functions hold their
variables, and types their fields.
-/

namespace BlitzLens

/-- The kinds of outline nodes. -/
inductive OutlineKind where
  /-- A function. -/
  | function
  /-- A record type. -/
  | type
  /-- A variable. -/
  | var
  /-- A constant. -/
  | constant
  /-- A parameter. -/
  | parameter
  /-- A field. -/
  | field
  /-- A label. -/
  | label
  deriving DecidableEq, Repr

/-- The word for a kind of node. -/
def OutlineKind.word : OutlineKind → Text
  | .function => "function"
  | .type => "type"
  | .var => "variable"
  | .constant => "constant"
  | .parameter => "parameter"
  | .field => "field"
  | .label => "label"

/-- One entry of an outline. -/
structure OutlineEntry where
  /-- The name as it is written. -/
  name : Text
  /-- The kind of the entry. -/
  kind : OutlineKind
  /-- The declaration. -/
  detail : Text
  /-- The region the entry extends over. -/
  range : Span
  /-- The place of the name. -/
  selection : Span
  deriving DecidableEq, Repr

/-- An entry of an outline with the entries it holds. -/
structure OutlineNode extends OutlineEntry where
  /-- The entries inside. -/
  children : List OutlineEntry
  deriving DecidableEq, Repr

namespace Outline

/-- The kind of a variable. -/
def variableKind (v : Variable) : OutlineKind :=
  match v.storage with
  | .parameter => .parameter
  | .field => .field
  | _ => if v.constant then .constant else .var

/-- The entry of a variable; a loop iterator extends over its loop. -/
def ofVariable (v : Variable) : OutlineEntry :=
  { name := v.name
    kind := variableKind v
    detail := v.declaration
    range := if v.isIterator then v.scope else v.range
    selection := v.range }

/-- The entry of a symbol that extends over its scope. -/
def ofDeclared (kind : OutlineKind) (declared : Declared) : OutlineEntry :=
  { name := declared.name
    kind
    detail := declared.declaration
    range := declared.scope
    selection := declared.range }

/-- The node of a symbol. -/
def ofSymbol : Symbol → OutlineNode
  | .ofVariable v => { ofVariable v with children := [] }
  | .ofFunction f =>
    { ofDeclared .function f.toDeclared with children := f.locals.map ofVariable }
  | .ofType t => { ofDeclared .type t.toDeclared with children := t.fields.map ofVariable }
  | .ofLabel l => { ofDeclared .label l.toDeclared with children := [] }

/-- Whether a node starts before another, or at the same place. -/
def notAfter (a b : OutlineNode) : Bool :=
  a.range.startLine < b.range.startLine ||
    (a.range.startLine == b.range.startLine && a.range.startCol ≤ b.range.startCol)

end Outline

/-- The outline of a file. -/
def outline (symbols : List Symbol) (path : Text) : List OutlineNode :=
  ((symbols.filter fun symbol => symbol.declared.path == path).map Outline.ofSymbol).mergeSort
    Outline.notAfter

end BlitzLens
