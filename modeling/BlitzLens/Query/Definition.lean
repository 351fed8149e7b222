import BlitzLens.Query.Position
import BlitzLens.Scope.Member
import BlitzLens.Stub.Basic

/-!
# Definition

Where the word under the caret is declared. Built-ins are declared nowhere, and of the symbols that
share a built-in's name only a user function hides it.
-/

namespace BlitzLens

/-- A place in a file. -/
structure Location where
  /-- The path of the file. -/
  path : Text
  /-- The place. -/
  position : Position
  deriving DecidableEq, Repr

/-- The place where a symbol is declared. -/
def Symbol.location (symbol : Symbol) : Location :=
  ⟨symbol.declared.path, ⟨symbol.declared.range.startLine, symbol.declared.range.startCol⟩⟩

/-- The symbol that a word on a line refers to for the sake of its declaration. -/
def definedSymbol? (symbols : List Symbol) (stubs : StubTable) (path : Text) (number : Int)
    (line : Text) (word : Word) : Except ColumnError (Option Symbol) := do
  if (← Scope.memberMarker? line word.start).isSome then
    return (← Scope.resolveMember? symbols path number line word).map .ofVariable
  match ← Scope.resolve? symbols path number line word with
  | none => return none
  -- only a user function hides a built-in of its name
  | some (.ofFunction f) => return some (.ofFunction f)
  | some symbol => return if stubs.contains word.text then none else some symbol

/-- The places where the word at a position is declared. -/
def definition (symbols : List Symbol) (stubs : StubTable) (path : Text) (lines : List Text)
    (position : Position) : Except ColumnError (List Location) := do
  match position.lineOf? lines with
  | none => return []
  | some line =>
    match ← Line.wordAt? line position.character with
    | none => return []
    | some word =>
      if Line.isNumber word.text || !Line.isCode line word.start then return []
      let symbol ← definedSymbol? symbols stubs path position.line line word
      return symbol.toList.map Symbol.location

end BlitzLens
