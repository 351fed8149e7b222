import BlitzLens.Data.Value
import BlitzLens.Symbol.Basic

/-!
# Symbols as data

The form in which symbols are handed to other programs. Every symbol names its kind, and a guard is
given by its patterns.
-/

namespace BlitzLens.Exchange

/-- A region of a document. -/
def ofSpan (span : Span) : Value :=
  .record [
    ("start_line", .int span.startLine),
    ("start_col", .int span.startCol),
    ("end_line", .int span.endLine),
    ("end_col", .int span.endCol)]

/-- The patterns of a guard. -/
def ofGuard (guard : Guard) : Value :=
  .record [
    ("before", .ofText? guard.beforePattern?),
    ("after", .ofText? guard.afterPattern?)]

/-- A symbol with the fields that all kinds have, and the fields of its own kind. -/
def ofDeclared (kind : SymbolKind) (declared : Declared) (own : List (Text × Value)) : Value :=
  let common : List (Text × Value) := [
    ("name", .text declared.name),
    ("normalized_name", .text declared.key),
    ("path", .text declared.path),
    ("declaration", .text declared.declaration),
    ("range", ofSpan declared.range),
    ("scope", ofSpan declared.scope),
    ("pattern", ofGuard declared.guard),
    ("description", .text declared.description),
    ("kind", .text kind.word)]
  .record (common ++ own)

/-- A variable. -/
def ofVariable (v : Variable) : Value :=
  ofDeclared .var v.toDeclared [
    ("storage", .text v.storage.word),
    ("value_type", .text v.valueType.word),
    ("type_name", .ofText? v.typeName),
    ("array", .bool v.array),
    ("constant", .bool v.constant),
    ("default", .ofText? v.default),
    ("scope_end", .ofInt? v.scopeEnd)]

/-- A function. -/
def ofFunction (f : Function) : Value :=
  ofDeclared .function f.toDeclared [
    ("return_type", .text f.returnType.word),
    ("return_type_name", .ofText? f.returnTypeName),
    ("end_line", .int f.endLine),
    ("locals", .list (f.locals.map ofVariable)),
    ("doc_lines", .ofTexts f.docLines),
    ("param_docs", .ofTexts f.paramDocs),
    ("example", .text f.sample)]

/-- A record type. -/
def ofType (t : RecordType) : Value :=
  ofDeclared .type t.toDeclared [
    ("end_line", .int t.endLine),
    ("fields", .list (t.fields.map ofVariable))]

/-- A symbol. -/
def ofSymbol : Symbol → Value
  | .ofVariable v => ofVariable v
  | .ofFunction f => ofFunction f
  | .ofType t => ofType t
  | .ofLabel l => ofDeclared .label l.toDeclared []

/-- The symbols of a document. -/
def ofSymbols (symbols : List Symbol) : Value :=
  .list (symbols.map ofSymbol)

end BlitzLens.Exchange
