import BlitzLens.Extraction.Statement
import BlitzLens.Symbol.Basic
import BlitzLens.Text.Lines

/-!
# Drafts

The state of one pass over the lines of a file: the finished symbols, the function and the type that
are open, the documentation that waits for a function, and the loops that are open. Every owner
keeps its own loops: a function those in its body, the top level those outside. The iterator of a
loop becomes visible when its loop is closed, and then takes the place in its owner's list that it
had when the loop was opened.
-/

namespace BlitzLens

/-- A file that is being read. -/
structure Source where
  /-- The path of the file. -/
  path : Text
  /-- The lines of the file. -/
  lines : List Text

namespace Source

/-- The file with a text. -/
def ofText (path text : Text) : Source :=
  ⟨path, text.lines⟩

/-- The last line of the file. -/
def lastLine (source : Source) : Nat :=
  source.lines.length - 1

/-- The whole lines from one to another. -/
def block (source : Source) (first last : Nat) : Span :=
  ⟨first, 0, last, ((source.lines[last]?).getD []).length⟩

end Source

/-- Documentation that waits for the function it belongs to. -/
structure DocBlock where
  /-- The lines of the description. -/
  lines : List Text
  /-- The documentation of parameters. -/
  parameters : List Text
  /-- The lines of the example. -/
  sample : List Text
  deriving DecidableEq, Repr

/-- No documentation. -/
def DocBlock.empty : DocBlock := ⟨[], [], []⟩

/-- The iterator of an open loop. -/
structure OpenIterator where
  /-- The declared name. -/
  part : Part
  /-- The line that opens the loop. -/
  line : Nat
  /-- The column of the name. -/
  column : Nat
  /-- The comment behind the loop. -/
  description : Text
  /-- The place the iterator will take among its owner's symbols. -/
  slot : Nat
  deriving DecidableEq, Repr

/-- An open loop; it has no iterator when its name is a variable that is declared already. -/
abbrev OpenLoop := Option OpenIterator

/-- A function that is open. -/
structure FunctionDraft where
  /-- The name as it is written. -/
  name : Text
  /-- The line that opens the function. -/
  line : Nat
  /-- The column of the name. -/
  column : Nat
  /-- The code of the line. -/
  declaration : Text
  /-- The type suffix. -/
  suffix : Text
  /-- The documentation. -/
  doc : DocBlock
  /-- The variables declared so far. -/
  locals : List Variable
  /-- The open loops, innermost first. -/
  loops : List OpenLoop

/-- A type that is open. -/
structure TypeDraft where
  /-- The name as it is written. -/
  name : Text
  /-- The line that opens the type. -/
  line : Nat
  /-- The column of the name. -/
  column : Nat
  /-- The code of the line. -/
  declaration : Text
  /-- The fields declared so far. -/
  fields : List Variable

/-- The state of a pass over a file. -/
structure Draft where
  /-- The finished symbols. -/
  symbols : List Symbol
  /-- The type that is open. -/
  openType : Option TypeDraft
  /-- The function that is open. -/
  openFunction : Option FunctionDraft
  /-- The documentation that waits for a function. -/
  doc : DocBlock
  /-- The open loops of the top level, innermost first. -/
  loops : List OpenLoop

/-- The state before the first line. -/
def Draft.empty : Draft := ⟨[], none, none, .empty, []⟩

/-- Whether one of `found` other than a loop iterator has a key. -/
def declaresKey (found : List Variable) (key : Text) : Bool :=
  found.any fun v => v.key == key && !v.isIterator

/-- The top-level variables among some symbols. -/
def topVariables (symbols : List Symbol) : List Variable :=
  symbols.filterMap Symbol.asVariable?

/-- Whether the innermost-first loops hold an iterator with a key. -/
def iteratesKey (loops : List OpenLoop) (key : Text) : Bool :=
  loops.any fun loop => loop.any fun iterator => iterator.part.key == key

/-- The columns where a name stands as a whole word at or behind a column; the column itself if it
stands nowhere. -/
def locate (line name : Text) (column : Nat) : Nat × Nat :=
  match (Line.wordRuns column (line.drop column)).find? fun (_, run) => run == name with
  | some (start, _) => (start, start + name.length)
  | none => (column, column + name.length)

/-- The variable that a part declares at a place of a file; a loop iterator when the line that
closes its loop is given. -/
def Part.toVariable (part : Part) (source : Source) (line column : Nat) (declaration : Text)
    (storage : Storage) (description : Text) (constant : Bool) (closing : Option Nat) :
    Variable :=
  let range := Span.onLine line column (column + part.name.length : Nat)
  { name := part.name
    key := part.key
    path := source.path
    declaration := declaration
    range := range
    scope := match closing with
      | none => range
      | some last => source.block line last
    guard := if storage == .field then .field else .name
    description := description
    storage := storage
    valueType := part.typeMark.valueType
    typeName := part.typeMark.typeName
    array := part.array
    constant := constant
    default := part.default
    scopeEnd := closing.map fun last => (last : Int) }

/-- The iterator of a loop that is closed on a line. -/
def OpenIterator.close (iterator : OpenIterator) (source : Source) (storage : Storage)
    (line : Nat) : Variable :=
  iterator.part.toVariable source iterator.line iterator.column ("For " ++ iterator.part.text)
    storage iterator.description false (some line)

/-- Adds to `found`, in order, those that the parts of a list declare and that are not declared
yet; each part is located behind the one before it. -/
def addParts (build : Part → Nat → Variable) (declared : List Variable → Text → Bool)
    (line : Text) (column : Nat) (found : List Variable) : List Part → List Variable
  | [] => found
  | part :: parts =>
    let (start, stop) := locate line part.name column
    let found :=
      if declared found part.key then found else found ++ [build part start]
    addParts build declared line stop found parts

namespace FunctionDraft

/-- Closes the innermost loop of the function on a line. -/
def closeLoop (draft : FunctionDraft) (source : Source) (line : Nat) : FunctionDraft :=
  match draft.loops with
  | [] => draft
  | none :: loops => { draft with loops }
  | some iterator :: loops =>
    { draft with
      loops
      locals := draft.locals.insertIdx iterator.slot (iterator.close source .localVar line) }

/-- Closes some loops, innermost first, on a line. -/
def closeLoops (draft : FunctionDraft) (source : Source) (line : Nat) : Nat → FunctionDraft
  | 0 => draft
  | count + 1 => (draft.closeLoop source line).closeLoops source line count

/-- The function that ends on a line. -/
def finish (draft : FunctionDraft) (source : Source) (line : Nat) : Function :=
  let draft := draft.closeLoops source line draft.loops.length
  let typeMark := TypeMark.ofSuffix draft.suffix
  { name := draft.name
    key := draft.name.lower
    path := source.path
    declaration := draft.declaration
    range := .onLine draft.line draft.column (draft.column + draft.name.length : Nat)
    scope := source.block draft.line line
    guard := .anywhere
    description := []
    returnType := typeMark.valueType
    returnTypeName := typeMark.typeName
    endLine := line
    locals := draft.locals
    docLines := draft.doc.lines
    paramDocs := draft.doc.parameters
    sample := Text.joinWith ['\n'] draft.doc.sample }

end FunctionDraft

/-- The type that ends on a line. -/
def TypeDraft.finish (draft : TypeDraft) (source : Source) (line : Nat) : RecordType :=
  { name := draft.name
    key := draft.name.lower
    path := source.path
    declaration := draft.declaration
    range := .onLine draft.line draft.column (draft.column + draft.name.length : Nat)
    scope := source.block draft.line line
    guard := .recordType
    description := []
    endLine := line
    fields := draft.fields }

namespace Draft

/-- Closes the innermost loop of the top level on a line. -/
def closeTopLoop (draft : Draft) (source : Source) (line : Nat) : Draft :=
  match draft.loops with
  | [] => draft
  | none :: loops => { draft with loops }
  | some iterator :: loops =>
    { draft with
      loops
      symbols := draft.symbols.insertIdx iterator.slot
        (.ofVariable (iterator.close source .globalVar line)) }

/-- Closes some loops of the top level, innermost first, on a line. -/
def closeTopLoops (draft : Draft) (source : Source) (line : Nat) : Nat → Draft
  | 0 => draft
  | count + 1 => (draft.closeTopLoop source line).closeTopLoops source line count

/-- Closes the innermost loop of the open function, or of the top level when no function is open. -/
def closeLoop (draft : Draft) (source : Source) (line : Nat) : Draft :=
  match draft.openFunction with
  | some f => { draft with openFunction := some (f.closeLoop source line) }
  | none => draft.closeTopLoop source line

/-- Closes the open function on a line. -/
def closeFunction (draft : Draft) (source : Source) (line : Nat) : Draft :=
  match draft.openFunction with
  | some f =>
    { draft with
      openFunction := none
      symbols := draft.symbols ++ [.ofFunction (f.finish source line)] }
  | none => draft

/-- Closes the open type on a line. -/
def closeType (draft : Draft) (source : Source) (line : Nat) : Draft :=
  match draft.openType with
  | some t =>
    { draft with
      openType := none
      symbols := draft.symbols ++ [.ofType (t.finish source line)] }
  | none => draft

/-- Closes what is still open behind the last line. -/
def finish (draft : Draft) (source : Source) : List Symbol :=
  let last := source.lastLine
  -- what is still open ends on the last line, the function before the type
  let draft := (draft.closeFunction source last).closeType source last
  (draft.closeTopLoops source last draft.loops.length).symbols

end Draft

end BlitzLens
