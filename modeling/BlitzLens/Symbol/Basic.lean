import BlitzLens.Declaration.ValueType
import BlitzLens.Symbol.Guard
import BlitzLens.Symbol.Span

/-!
# Symbols

What a document declares: functions, which own their parameters, locals and loop iterators; record
types, which own their fields; variables and labels.
-/

namespace BlitzLens

/-- Where a variable lives. -/
inductive Storage where
  /-- Visible everywhere. -/
  | globalVar
  /-- Local to its function, or to the top level. -/
  | localVar
  /-- Handed to a function. -/
  | parameter
  /-- Part of a record. -/
  | field
  deriving DecidableEq, Repr

/-- The word for a storage. -/
def Storage.word : Storage → Text
  | .globalVar => "global"
  | .localVar => "local"
  | .parameter => "parameter"
  | .field => "field"

/-- What all symbols have in common. -/
structure Declared where
  /-- The name as it is written. -/
  name : Text
  /-- The key the name is looked up by. -/
  key : Text
  /-- The path of the declaring file. -/
  path : Text
  /-- The declaration in a readable form. -/
  declaration : Text
  /-- The place of the name. -/
  range : Span
  /-- The region the symbol extends over. -/
  scope : Span
  /-- The surroundings that make an occurrence of the name a reference. -/
  guard : Guard
  /-- The comment behind the declaration. -/
  description : Text
  deriving DecidableEq, Repr

/-- A variable, parameter, loop iterator or field. -/
structure Variable extends Declared where
  /-- Where the variable lives. -/
  storage : Storage
  /-- The kind of its values. -/
  valueType : ValueType
  /-- The key of its record type. -/
  typeName : Option Text
  /-- Whether it has dimensions. -/
  array : Bool
  /-- Whether it is a constant. -/
  constant : Bool
  /-- The text of its default value. -/
  default : Option Text
  /-- The line that closes its loop, for a loop iterator. -/
  scopeEnd : Option Int
  deriving DecidableEq, Repr

/-- Whether a variable is the iterator of a loop. -/
def Variable.isIterator (v : Variable) : Bool :=
  v.scopeEnd.isSome

/-- A function with the variables it owns. -/
structure Function extends Declared where
  /-- The kind of the returned value. -/
  returnType : ValueType
  /-- The key of the returned record type. -/
  returnTypeName : Option Text
  /-- The line that ends the body. -/
  endLine : Int
  /-- Parameters, locals and iterators in the order of their declaration. -/
  locals : List Variable
  /-- The lines of its documentation. -/
  docLines : List Text
  /-- The documentation of its parameters. -/
  paramDocs : List Text
  /-- The documented example. -/
  sample : Text
  deriving DecidableEq, Repr

/-- The parameters of a function. -/
def Function.parameters (f : Function) : List Variable :=
  f.locals.filter fun v => v.storage == .parameter

/-- A record type with its fields. -/
structure RecordType extends Declared where
  /-- The line that ends the type. -/
  endLine : Int
  /-- The fields in the order of their declaration. -/
  fields : List Variable
  deriving DecidableEq, Repr

/-- A jump target. -/
structure Label extends Declared where
  deriving DecidableEq, Repr

/-- A declared symbol. -/
inductive Symbol where
  /-- A variable. -/
  | ofVariable (v : Variable)
  /-- A function. -/
  | ofFunction (f : Function)
  /-- A record type. -/
  | ofType (t : RecordType)
  /-- A label. -/
  | ofLabel (l : Label)
  deriving DecidableEq, Repr

/-- The kinds of symbols. -/
inductive SymbolKind where
  /-- A function. -/
  | function
  /-- A record type. -/
  | type
  /-- A variable. -/
  | var
  /-- A label. -/
  | label
  deriving DecidableEq, Repr

/-- The word for a kind of symbol. -/
def SymbolKind.word : SymbolKind → Text
  | .function => "function"
  | .type => "type"
  | .var => "variable"
  | .label => "label"

namespace Symbol

/-- What the symbol has in common with all others. -/
def declared : Symbol → Declared
  | .ofVariable v => v.toDeclared
  | .ofFunction f => f.toDeclared
  | .ofType t => t.toDeclared
  | .ofLabel l => l.toDeclared

/-- The kind of a symbol. -/
def kind : Symbol → SymbolKind
  | .ofVariable _ => .var
  | .ofFunction _ => .function
  | .ofType _ => .type
  | .ofLabel _ => .label

/-- The key a symbol is looked up by. -/
def key (symbol : Symbol) : Text :=
  symbol.declared.key

/-- The variables a symbol owns: the locals of a function and the fields of a type. -/
def members : Symbol → List Variable
  | .ofFunction f => f.locals
  | .ofType t => t.fields
  | _ => []

/-- The variable that a symbol is. -/
def asVariable? : Symbol → Option Variable
  | .ofVariable v => some v
  | _ => none

/-- The function that a symbol is. -/
def asFunction? : Symbol → Option Function
  | .ofFunction f => some f
  | _ => none

/-- The record type that a symbol is. -/
def asType? : Symbol → Option RecordType
  | .ofType t => some t
  | _ => none

/-- Whether a symbol is a variable. -/
def isVariable (symbol : Symbol) : Bool :=
  symbol.asVariable?.isSome

end Symbol

end BlitzLens
