import BlitzLens.Extraction.Draft

/-!
# Steps

How one line changes the draft of its file. Includes are left to the caller, for they need other
files.
-/

namespace BlitzLens

/-- Why a file cannot be read into symbols. -/
inductive ExtractError where
  /-- A word was recognised as a declaring keyword only because case was disregarded in a letter
  beyond ASCII, so its lower case is no keyword. -/
  | unknownKeyword (word : Text)
  deriving DecidableEq, Repr

/-- A keyword that declares variables. -/
inductive Declarator where
  /-- A variable visible everywhere. -/
  | ofGlobal
  /-- A local variable. -/
  | ofLocal
  /-- A constant. -/
  | ofConst
  /-- An array. -/
  | ofDim
  deriving DecidableEq, Repr

namespace Declarator

/-- The declarator whose keyword is a word in lower case. -/
def ofKeyword? (word : Text) : Option Declarator :=
  if word == "global".toList then some .ofGlobal
  else if word == "local".toList then some .ofLocal
  else if word == "const".toList then some .ofConst
  else if word == "dim".toList then some .ofDim
  else none

/-- The keyword as it is shown. -/
def word : Declarator → Text
  | .ofGlobal => "Global"
  | .ofLocal => "Local"
  | .ofConst => "Const"
  | .ofDim => "Dim"

/-- The storage of the declared variables. -/
def storage : Declarator → Storage
  | .ofLocal => .localVar
  | _ => .globalVar

end Declarator

/-- Whether a top-level variable other than a loop iterator has a key and, if one is asked for, a
storage. -/
def declaresTop (symbols : List Symbol) (key : Text) (storage : Option Storage) : Bool :=
  (topVariables symbols).any fun v =>
    v.key == key && !v.isIterator && storage.all (· == v.storage)

namespace Draft

/-- Declares the parts of a list behind a declaring keyword. -/
def declare (draft : Draft) (source : Source) (number : Nat) (line : Text)
    (declarator : Declarator) (list : Text) (column : Nat) : Draft :=
  let build (part : Part) (start : Nat) : Variable :=
    part.toVariable source number start (declarator.word ++ " " ++ part.text) declarator.storage
      (Line.trailingComment line) (declarator == .ofConst) none
  let parts := Part.parseList list
  match draft.openFunction with
  | some f =>
    let locals := addParts build declaresKey line column f.locals parts
    { draft with openFunction := some { f with locals } }
  | none =>
    -- parts of one list also know each other, so a name is declared once
    let known := topVariables draft.symbols
    let declared := addParts build (fun found key => declaresKey (known ++ found) key)
      line column [] parts
    { draft with symbols := draft.symbols ++ declared.map .ofVariable }

/-- The part that a loop names, and `none` if it names a variable that is declared already. -/
def loopPart? (draft : Draft) (text : Text) : Option Part := do
  let part ← Part.parse? text
  let shadowed := match draft.openFunction with
    | some f => declaresKey f.locals part.key
    | none => declaresTop draft.symbols part.key (some .localVar)
  if shadowed then none else return part

/-- Opens a loop in the open function, or at the top level when no function is open. -/
def openLoop (draft : Draft) (number : Nat) (line name suffix : Text) (column : Nat) : Draft :=
  let slot := match draft.openFunction with
    | some f => f.locals.length
    | none => draft.symbols.length
  let loop : OpenLoop := (draft.loopPart? (name ++ suffix)).map fun part =>
    { part, line := number, column, description := Line.trailingComment line, slot }
  match draft.openFunction with
  | some f => { draft with openFunction := some { f with loops := loop :: f.loops } }
  | none => { draft with loops := loop :: draft.loops }

/-- Whether an assignment to a key needs no declaration: an open loop runs over it, or a variable
that is visible there has it. -/
def knowsAssigned (draft : Draft) (key : Text) : Bool :=
  iteratesKey draft.loops key ||
    match draft.openFunction with
    | some f =>
      iteratesKey f.loops key || declaresKey f.locals key ||
        declaresTop draft.symbols key (some .globalVar)
    | none => declaresTop draft.symbols key none

/-- Declares the local variable that an assignment makes. -/
def assign (draft : Draft) (source : Source) (number : Nat) (line name sign : Text)
    (column : Nat) : Draft :=
  if draft.knowsAssigned name.lower then draft
  else
    match Part.parse? (name ++ sign) with
    | none => draft
    | some part =>
      let made := part.toVariable source number column ("Local " ++ part.text) .localVar
        (Line.trailingComment line) false none
      match draft.openFunction with
      | some f => { draft with openFunction := some { f with locals := f.locals ++ [made] } }
      | none => { draft with symbols := draft.symbols ++ [.ofVariable made] }

/-- Opens a function, after the function that is open has been closed on the line above. The
waiting documentation goes to the new function. -/
def openFunctionAt (draft : Draft) (source : Source) (number : Nat) (line name suffix : Text)
    (column : Nat) (parameters : Option (Text × Nat)) : Draft :=
  -- a function without an end stops on the line above, but not before its own line
  let draft := match draft.openFunction with
    | some f => draft.closeFunction source (max (number - 1) f.line)
    | none => draft
  let build (part : Part) (start : Nat) : Variable :=
    part.toVariable source number start part.text .parameter [] false none
  let locals := match parameters with
    | none => []
    | some (list, start) => addParts build declaresKey line start [] (Part.parseList list)
  { draft with
    doc := .empty
    openFunction := some {
      name, line := number, column, suffix, locals
      declaration := Text.trim (Line.code line)
      doc := draft.doc
      loops := [] } }

/-- Opens a type, after the type that is open has been closed on the line above. The waiting
documentation is dropped. -/
def openTypeAt (draft : Draft) (source : Source) (number : Nat) (line name : Text)
    (column : Nat) : Draft :=
  let draft := match draft.openType with
    | some t => draft.closeType source (max (number - 1) t.line)
    | none => draft
  { draft with
    doc := .empty
    openType := some {
      name, line := number, column, fields := []
      declaration := Text.trim (Line.code line) } }

/-- Declares fields of the open type. -/
def declareFields (draft : Draft) (source : Source) (number : Nat) (line list : Text)
    (column : Nat) : Draft :=
  match draft.openType with
  | none => draft
  | some t =>
    let build (part : Part) (start : Nat) : Variable :=
      part.toVariable source number start ("Field " ++ part.text) .field
        (Line.trailingComment line) false none
    let declared (found : List Variable) (key : Text) : Bool :=
      found.any fun v => v.key == key
    let fields := addParts build declared line column t.fields (Part.parseList list)
    { draft with openType := some { t with fields } }

/-- Sets a label. -/
def setLabel (draft : Draft) (source : Source) (number : Nat) (line name : Text)
    (column : Nat) : Draft :=
  let range := Span.onLine number column (column + name.length : Nat)
  let label : Label := {
    name
    key := name.lower
    path := source.path
    declaration := Text.trim (Line.code line)
    range
    scope := range
    guard := .label
    description := [] }
  { draft with symbols := draft.symbols ++ [.ofLabel label] }

/-- The draft after a line that is no include. -/
def step (draft : Draft) (source : Source) (number : Nat) (line : Text) :
    Statement → Except ExtractError Draft
  | .includeFile _ => .ok draft
  | .declare keyword list column =>
    match Declarator.ofKeyword? keyword.lower with
    | some declarator => .ok (draft.declare source number line declarator list column)
    | none => .error (.unknownKeyword keyword)
  | .openLoop name suffix column closed =>
    let opened := draft.openLoop number line name suffix column
    .ok (if closed then opened.closeLoop source number else opened)
  | .closeLoop => .ok (draft.closeLoop source number)
  | .assign name sign column => .ok (draft.assign source number line name sign column)
  | .documentParameter text =>
    .ok { draft with doc.parameters := draft.doc.parameters ++ [text] }
  | .documentExample text => .ok { draft with doc.sample := draft.doc.sample ++ [text] }
  | .document text => .ok { draft with doc.lines := draft.doc.lines ++ [text] }
  | .closeFunction => .ok (draft.closeFunction source number)
  | .openFunction name suffix column parameters =>
    .ok (draft.openFunctionAt source number line name suffix column parameters)
  | .closeType => .ok (draft.closeType source number)
  | .openType name column => .ok (draft.openTypeAt source number line name column)
  | .declareFields list column => .ok (draft.declareFields source number line list column)
  | .label name column => .ok (draft.setLabel source number line name column)
  | .other => .ok draft

end Draft

end BlitzLens
