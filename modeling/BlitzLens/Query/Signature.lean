import BlitzLens.Keyword.Reserved
import BlitzLens.Line.Nesting
import BlitzLens.Query.Position
import BlitzLens.Scope.Visible
import BlitzLens.Stub.Basic
import BlitzLens.Text.Caseless

/-!
# Signature help

The parameters of the call that is being written. A call is found by the last parenthesis that is
open left of the caret, or, for a call without parentheses, by the first word of the line. A help
session that is open already can be kept: then only the active parameter moves, and the session ends
when the caret leaves the line, moves before the start of the session or steps behind a closing
parenthesis.
-/

namespace BlitzLens

/-- One parameter of a signature. -/
structure ParameterInfo where
  /-- The columns of the parameter in the label of the signature. -/
  label : Int × Int
  /-- The documentation. -/
  documentation : Option Text
  deriving DecidableEq, Repr

/-- The parameters of one function. -/
structure Signature where
  /-- The declaration without its keyword. -/
  label : Text
  /-- The documentation. -/
  documentation : Option Text
  /-- The parameters. -/
  parameters : List ParameterInfo
  deriving DecidableEq, Repr

/-- A session of signature help. -/
structure SignatureHelp where
  /-- The signatures of all functions of the name. -/
  signatures : List Signature
  /-- The index of the signature that is shown. -/
  activeSignature : Int
  /-- The index of the argument that is being written. -/
  activeParameter : Int
  /-- Where the session was opened. -/
  start : Position
  deriving DecidableEq, Repr

/-- What makes an editor ask for help. -/
inductive HelpTrigger where
  /-- The user asks. -/
  | invoke
  /-- A character was typed. -/
  | typed
  /-- The caret moved while a session is open. -/
  | again
  deriving DecidableEq, Repr

/-- The circumstances in which an editor asks for help. -/
structure HelpContext where
  /-- What makes it ask. -/
  trigger : HelpTrigger
  /-- The character that was typed. -/
  character : Option Text
  /-- The session that is open. -/
  active : Option SignatureHelp
  deriving DecidableEq, Repr

namespace Signature

/-- The index of the argument that is being written at the end of a text. -/
def activeParameter (text : Text) : Nat :=
  match Line.lastOpenParen? text with
  | some opening => Line.countTopLevel ',' (text.drop (opening + 1))
  | none => Line.countTopLevel ',' text

/-- The columns of a stretch of a label without its surrounding blanks, unless it is blank. -/
def trimmedSpan? (label : Text) (start stop : Nat) : Option (Nat × Nat) :=
  let stretch := label.slice start stop
  let bare := stretch.trim
  if bare.isEmpty then none
  else
    let start := start + (stretch.length - stretch.trimStart.length)
    some (start, start + bare.length)

/-- The columns of the parameters in the rest of a label from `column` on, where the current
parameter starts at `start` and lies `depth` brackets deep. A comma ends the last parameter. -/
def spansFrom (label : Text) (start column : Nat) (depth : Int) (quoted : Bool) :
    Text → List (Nat × Nat)
  | [] => []
  | c :: rest =>
    if c == '"' then spansFrom label start (column + 1) depth (!quoted) rest
    else if quoted then spansFrom label start (column + 1) depth quoted rest
    else if c == '(' || c == '[' then spansFrom label start (column + 1) (depth + 1) quoted rest
    else if c == ')' || c == ']' then spansFrom label start (column + 1) (depth - 1) quoted rest
    else if c == ',' && depth == 0 then
      (trimmedSpan? label start column).toList ++
        spansFrom label (column + 1) (column + 1) depth quoted rest
    else spansFrom label start (column + 1) depth quoted rest

/-- The columns of the parameters in the label of a signature. -/
def parameterSpans (label : Text) : List (Nat × Nat) :=
  match label.indexFrom? '(' 0 with
  | none => []
  | some opening =>
    let start := opening + 1
    let closing := match Line.closingParen? label opening with
      | some closing => closing.toNat
      | none => label.length
    spansFrom label start start 0 false ((label.take closing).drop start ++ [','])

/-- The key of the parameter that documentation names by its first word. -/
def docKey? (doc : Text) : Option Text :=
  doc.identifier?.map Text.lower

/-- The key of the first name in a stretch of a label. -/
def spanKey? (label : Text) (span : Nat × Nat) : Option Text :=
  ((Text.identifier? ((label.slice span.1 span.2).dropWhile fun c => !isIdentifierStart c))).map
    Text.lower

/-- The first documentation that names the parameter with a key. -/
def docNamed? (docs : List Text) (key : Text) : Option Text :=
  docs.find? fun doc => docKey? doc == some key

/-- Whether documentation names one of the parameters. -/
def namesOneOf (keys : List (Option Text)) (doc : Text) : Bool :=
  (docKey? doc).any fun key => keys.contains (some key)

/-- The documentation of each parameter, given by its key. Documentation that names a parameter
belongs to that parameter; the rest is assigned by position. -/
def pairDocs (keys : List (Option Text)) (docs : List Text) : List (Option Text) :=
  keys.zipIdx.map fun (key, i) =>
    match key.bind (docNamed? docs) with
    | some doc => some doc
    | none => (docs[i]?).filter fun doc => !namesOneOf keys doc

/-- The label of a signature: a declaration without its keyword. -/
def labelOf (declaration : Text) : Text :=
  Text.trim (((Text.dropKeyword? "function" declaration.trimStart).bind Text.dropBlanks?).getD
    declaration)

/-- The signature of a documented declaration. -/
def build (declaration : Text) (description docs : List Text) : Signature :=
  let label := labelOf declaration
  let spans := parameterSpans label
  let documentation := Text.joinWith ['\n'] description
  { label
    documentation := if documentation.isEmpty then none else some documentation
    parameters := (spans.zip (pairDocs (spans.map (spanKey? label)) docs)).map fun (span, doc) =>
      ⟨(span.1, span.2), doc⟩ }

/-- The signatures of all built-ins and user functions of a name. -/
def collect (symbols : List Symbol) (stubs : StubTable) (name : Text) : List Signature :=
  (stubs.lookup name).map (fun stub => build stub.declaration stub.description stub.paramDocs) ++
    ((symbols.filterMap Symbol.asFunction?).filter fun f => f.key == name.lower).map fun f =>
      build f.declaration f.docLines f.paramDocs

/-- The first word of a line, if the caret is behind it and it is not reserved. -/
def statementWord? (line : Text) (column : Int) : Option Word := do
  let named := line.trimStart
  let name ← named.identifier?
  let start := line.length - named.length
  if column < (start + name.length : Nat) || Keyword.isReserved name then none
  else some ⟨start, start + name.length, name⟩

/-- The word that names the function of the call at the end of a text. -/
def calledWord? (line before : Text) (column : Int) : Except ColumnError (Option Word) :=
  match Line.lastOpenParen? before with
  | some opening => Line.wordBefore? line opening
  | none => .ok (statementWord? line column)

/-- The session that is kept when the caret moves to a position. -/
def keep? (help : SignatureHelp) (line : Text) (position : Position) : Option SignatureHelp :=
  let before := line.upTo position.character
  if position.line != help.start.line || position.character < help.start.character then none
  else if before.getLast? == some ')' then none
  else some { help with activeParameter := activeParameter before }

/-- The session that a context asks to keep. -/
def kept? (context : Option HelpContext) : Option SignatureHelp := do
  let context ← context
  if context.trigger == .again then context.active else none

end Signature

/-- The signatures of the call that is being written at a position. -/
def signatureHelp? (symbols : List Symbol) (stubs : StubTable) (lines : List Text)
    (position : Position) (context : Option HelpContext) :
    Except ColumnError (Option SignatureHelp) := do
  match position.lineOf? lines with
  | none => return none
  | some line =>
    let column := min position.character line.length
    if !Line.isCode line column then return none
    match Signature.kept? context with
    -- an open session is kept or ended, but never replaced by another
    | some help => return Signature.keep? help line position
    | none =>
      let before := line.upTo column
      match ← Signature.calledWord? line before column with
      | none => return none
      | some word =>
        let signatures := Signature.collect symbols stubs word.text
        if signatures.isEmpty then return none
        return some {
          signatures
          activeSignature := 0
          activeParameter := Signature.activeParameter before
          start := ⟨position.line, column⟩ }

end BlitzLens
