import BlitzLens.Keyword.Manual
import BlitzLens.Query.Position
import BlitzLens.Scope.Member
import BlitzLens.Stub.Basic

/-!
# Hover

The text shown over the word under the caret. Blanks, strings, comments and numbers show nothing. A
user function goes before a built-in of its name, and a built-in before any other symbol of its
name.
-/

namespace BlitzLens

/-- The text shown over a stretch of a document. -/
structure Hover where
  /-- The text, in Markdown. -/
  contents : Text
  /-- The stretch. -/
  range : Span
  deriving DecidableEq, Repr

namespace Hover

/-- A declaration as a block of code. -/
def fenced (declaration : Text) : Text :=
  "```blitz3d\n" ++ declaration ++ "\n```"

/-- Sections with an empty line in between. -/
def sections (parts : List Text) : Text :=
  Text.joinWith "\n\n" parts

/-- The line that documents a parameter; its first word is the name of the parameter. -/
def parameterLine (doc : Text) : Text :=
  let name := doc.takeWhile (· != ' ')
  let rest := doc.drop (name.length + 1)
  Text.trimEnd ("*@param* `" ++ name ++ "` " ++ rest)

/-- The sections that document a function: description, parameters and example. -/
def documentation (description parameters : List Text) (sample : Text) : List Text :=
  (if description.isEmpty then [] else [Text.joinWith ['\n'] description]) ++
    (if parameters.isEmpty then [] else [sections (parameters.map parameterLine)]) ++
    (if sample.isEmpty then [] else ["Example:".toList, fenced sample])

/-- The word for a kind of variable. -/
def variableWord (v : Variable) : Text :=
  if v.constant then "constant"
  else if v.isIterator then "loop variable"
  else
    match v.storage with
    | .globalVar => "global variable"
    | .localVar => "local variable"
    | .parameter => "parameter"
    | .field => "field"

/-- What is said about a symbol besides its declaration and its file. -/
def symbolDetails : Symbol → List Text
  | .ofFunction f => documentation f.docLines f.paramDocs f.sample
  | .ofVariable v =>
    ("*(" ++ variableWord v ++ ")*") :: (if v.description.isEmpty then [] else [v.description])
  | .ofType t => ["*(type with " ++ Text.ofInt t.fields.length ++ " fields)*"]
  | .ofLabel _ => ["*(label)*"]

/-- The text shown for a symbol. -/
def ofSymbol (symbol : Symbol) : Text :=
  sections ([fenced symbol.declared.declaration] ++ symbolDetails symbol ++
    ["---".toList, "Defined in `" ++ symbol.declared.path ++ "`"])

/-- The text shown for a built-in. -/
def ofStub (stub : Stub) : Text :=
  sections (fenced stub.declaration ::
    documentation stub.description stub.paramDocs stub.sample)

/-- The text shown for a keyword. -/
def ofEntry (entry : Keyword.Entry) : Text :=
  sections [fenced entry.usage, entry.description]

/-- The phrase that a word starts, and the last column of the phrase. -/
def phraseFrom? (line : Text) (word : Word) : Option (Text × Int) := do
  let following ← Line.nextWord? line word.stop
  if (line.slice word.stop following.start).isBlankText then
    return (← Keyword.phrase? word.text following.text, following.stop)
  else none

/-- The phrase that a word ends, and the first column of the phrase. -/
def phraseTo? (line : Text) (word : Word) : Except ColumnError (Option (Text × Int)) := do
  match ← Line.wordBefore? line word.start with
  | none => return none
  | some preceding =>
    if Keyword.opensPhrase preceding.text.lower then
      return (Keyword.phrase? preceding.text word.text).map fun joined => (joined, preceding.start)
    else return none

/-- What is shown over a word that is part of a two-word phrase. -/
def ofPhrase? (number : Int) (line : Text) (word : Word) : Except ColumnError (Option Hover) := do
  match phraseFrom? line word with
  | some (joined, stop) =>
    return (Keyword.entry? joined).map fun entry => ⟨ofEntry entry, .onLine number word.start stop⟩
  | none =>
    match ← phraseTo? line word with
    | some (joined, start) =>
      return (Keyword.entry? joined).map fun entry =>
        ⟨ofEntry entry, .onLine number start word.stop⟩
    | none => return none

/-- The text shown over a word that is no part of a phrase and no field. -/
def ofWord? (symbol : Option Symbol) (stubs : StubTable) (name : Text) : Option Text :=
  match symbol, stubs.first? name with
  | some (.ofFunction f), _ => some (ofSymbol (.ofFunction f))
  | _, some stub => some (ofStub stub)
  | some symbol, none => some (ofSymbol symbol)
  | none, none => (Keyword.entry? name).map ofEntry

end Hover

/-- What is shown at a position. -/
def hover? (symbols : List Symbol) (stubs : StubTable) (path : Text) (lines : List Text)
    (position : Position) : Except ColumnError (Option Hover) := do
  match position.lineOf? lines with
  | none => return none
  | some line =>
    if line.length ≤ position.character then return none
    if !(← Line.wordCharAt line position.character) then return none
    if !Line.isCode line position.character then return none
    match ← Line.wordAt? line position.character with
    | none => return none
    | some word =>
      if Line.isNumber word.text then return none
      -- a phrase goes before everything its words could mean alone
      if let some found ← Hover.ofPhrase? position.line line word then return some found
      let range := Span.onLine position.line word.start word.stop
      if (← Scope.memberMarker? line word.start).isSome then
        -- a word behind a field marker is a field or nothing
        let field ← Scope.resolveMember? symbols path position.line line word
        return field.map fun field => ⟨Hover.ofSymbol (.ofVariable field), range⟩
      let symbol ← Scope.resolve? symbols path position.line line word
      return (Hover.ofWord? symbol stubs word.text).map fun contents => ⟨contents, range⟩

end BlitzLens
