import BlitzLens.Declaration.ValueType
import BlitzLens.Line.Comment
import BlitzLens.Stub.Basic
import BlitzLens.Text.Caseless
import BlitzLens.Text.Lines

/-!
# User libraries

The functions of a user library are listed in a declaration file, under a header that names the
library. Every declared function becomes a stub.

```
.lib "sound.dll"
PlaySound%(file$, volume#):"PlaySound"
```
-/

namespace BlitzLens.Stub

/-- The library that a header names. -/
def libraryHeader? (line : Text) : Option Text := do
  let rest ← Text.dropLead? "." line.trimStart
  match ← Text.dropBlanks? (← Text.dropKeyword? "lib" rest) with
  | '"' :: rest => if rest.contains '"' then some (Text.trim (rest.takeWhile (· != '"'))) else none
  | _ => none

/-- The rest of a declaration behind its parameter list, which it may lack. -/
def afterParameters? (text : Text) : Option Text :=
  match text with
  | '(' :: rest =>
    match rest.dropWhile (· != ')') with
    | _ :: rest => some rest
    | [] => none
  | _ => some text

/-- Whether a text may stand behind the signature of a declaration: nothing, or a colon and the
quoted name of the exported symbol. -/
def isExport (text : Text) : Bool :=
  match text.trim with
  | [] => true
  | ':' :: rest =>
    match Text.trimStart rest with
    | '"' :: name => name.dropWhile (· != '"') == ['"']
    | _ => false
  | _ => false

/-- The name and the signature that a line declares. -/
def declaration? (line : Text) : Option (Text × Text) := do
  let name ← line.identifier?
  let rest := Text.trimStart (line.drop name.length)
  let rest := Text.trimStart (rest.drop ((rest.take 1).filter isTypeSign).length)
  let rest ← afterParameters? rest
  if isExport rest then
    return (name, Text.trim (line.take (line.length - rest.length)))
  else none

/-- The stub of a declared function. -/
def ofDeclaration (library source name signature : Text) : Stub :=
  let origin := if library.isEmpty then source else library ++ " (" ++ source ++ ")"
  { name
    declaration :=
      if signature.contains '(' then "Function " ++ signature else "Function " ++ signature ++ "()"
    description := ["Declared in user library " ++ origin ++ "."]
    source := some source }

/-- The stubs of the lines of a declaration file, below the header that names `library`. -/
def gatherLibrary (source library : Text) : List Text → List Stub
  | [] => []
  | line :: lines =>
    let code := Text.trim (Line.code line)
    match libraryHeader? code with
    | some library => gatherLibrary source library lines
    | none =>
      match declaration? code with
      | some (name, signature) =>
        ofDeclaration library source name signature :: gatherLibrary source library lines
      | none => gatherLibrary source library lines

/-- The stubs of a declaration file, in order. -/
def readLibrary (text source : Text) : List Stub :=
  gatherLibrary source [] text.lines

end BlitzLens.Stub
