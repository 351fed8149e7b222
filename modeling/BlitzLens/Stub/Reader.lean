import BlitzLens.Line.Comment
import BlitzLens.Stub.Basic
import BlitzLens.Text.Caseless
import BlitzLens.Text.Lines

/-!
# Stub files

The built-in functions are documented in source text of a fixed shape: documentation lines, which
start with two semicolons, stand before the function they belong to.

```
;; Sets the graphics mode.
;;param width screen width in pixels
;;example Graphics 640, 480
Function Graphics(width, height, depth=0, mode=0)
```
-/

namespace BlitzLens.Stub

/-- What a line of a stub file says. -/
inductive Entry where
  /-- A parameter is documented. -/
  | parameter (text : Text)
  /-- An example is given. -/
  | sample (text : Text)
  /-- A line of the description. -/
  | description (text : Text)
  /-- A function is declared. -/
  | function (name declaration : Text)
  /-- Nothing is said. -/
  | other
  deriving DecidableEq, Repr

namespace Entry

/-- Reads the text behind the semicolons of a documentation line. -/
def ofDoc? (text : Text) : Option Entry :=
  match (Text.dropKeyword? "param" text).bind Text.dropBlanks? with
  | some doc => some (.parameter doc.trimEnd)
  | none =>
    match Text.dropKeyword? "example" text with
    | some [] => some (.sample [])
    | some (c :: doc) => if isBlank c then some (.sample (Text.trimEnd doc)) else plain text
    | none => plain text
where
  /-- Reads a line of the description. -/
  plain (text : Text) : Option Entry :=
    match text with
    | ' ' :: doc => some (.description (Text.trimEnd doc))
    | _ => if text.isBlankText then some (.description []) else none

/-- Reads a line that declares a function. -/
def ofFunction? (line : Text) : Option Entry := do
  let named ← Text.dropBlanks? (← Text.dropKeyword? "function" line.trimStart)
  let (name, _) ← Text.looseIdentifier? named
  return .function name line.trim

/-- What a line of a stub file says. -/
def ofLine (line : Text) : Entry :=
  (((Text.dropLead? ";;" line.trimStart).bind ofDoc?) <|> ofFunction? line).getD .other

end Entry

/-- The stubs of the entries of a file, where `pending` is the documentation met since the last
function. -/
def gather (source : Option Text) (params description sample : List Text) :
    List Entry → List Stub
  | [] => []
  | .parameter text :: entries => gather source (params ++ [text]) description sample entries
  | .sample text :: entries => gather source params description (sample ++ [text]) entries
  | .description text :: entries => gather source params (description ++ [text]) sample entries
  | .function name declaration :: entries =>
    { name, declaration, description, source
      paramDocs := params
      sample := Text.joinWith ['\n'] sample } :: gather source [] [] [] entries
  | .other :: entries => gather source params description sample entries

/-- The stubs of a stub file, in order. -/
def readAll (text : Text) (source : Option Text) : List Stub :=
  gather source [] [] [] (text.lines.map Entry.ofLine)

end BlitzLens.Stub
