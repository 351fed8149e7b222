import BlitzLens.Data.Toml.Syntax

/-!
# The meaning of settings files

A document is a list of statements: headers, which name the table that the following pairs belong
to, and pairs of a key and a value. Statement by statement they build one record, and the first
failure ends the reading. No value is given twice, a table is declared at most
once, tables made by the way of a key cannot be declared afterwards, and a list or a table that is
written as a value cannot be added to.
-/

namespace BlitzLens.Toml

/-- The fields of a record. -/
abbrev Fields := List (Text × Value)

/-- The fields with a value under a name; a name that is there already keeps its place. -/
def setField (name : Text) (value : Value) (fields : Fields) : Fields :=
  if fields.any fun (other, _) => other == name then
    fields.map fun (other, old) => (other, if other == name then value else old)
  else fields ++ [(name, value)]

/-- Changes the record that a key leads to; records on the way are made. If `throughLists` holds,
the last item of a list stands for the list. -/
def changeAt? (throughLists : Bool) (change : Fields → Option Fields) :
    Key → Fields → Option Fields
  | [], fields => change fields
  | name :: key, fields =>
    match fields.lookup name with
    | none => do
      let inner ← changeAt? throughLists change key []
      return setField name (.record inner) fields
    | some (.record inner) => do
      let inner ← changeAt? throughLists change key inner
      return setField name (.record inner) fields
    | some (.list items) =>
      match throughLists, items.getLast? with
      | true, some (.record inner) => do
        let inner ← changeAt? throughLists change key inner
        return setField name (.list (items.dropLast ++ [.record inner])) fields
      | _, _ => none
    | some _ => none

/-- Puts a value under a name that is new. -/
def addField? (name : Text) (value : Value) (fields : Fields) : Option Fields :=
  if fields.any fun (other, _) => other == name then none else some (fields ++ [(name, value)])

/-- Adds an empty record to the list under a name. -/
def appendRecord? (name : Text) (fields : Fields) : Option Fields :=
  match fields.lookup name with
  | none => some (fields ++ [(name, .list [.record []])])
  | some (.list items) => some (setField name (.list (items ++ [.record []])) fields)
  | some _ => none

/-- What may no longer happen to a key. -/
inductive Mark where
  /-- The table under the key may not be declared again. -/
  | declared
  /-- Nothing at or below the key may be changed. -/
  | frozen
  deriving DecidableEq, Repr

/-- The keys that are marked. -/
abbrev Marks := List (Key × Mark)

/-- Whether a table may not be declared again. -/
def isDeclared (marks : Marks) (key : Key) : Bool :=
  marks.any fun (other, mark) => mark == .declared && other == key

/-- Whether a key lies at or below a frozen one. -/
def isFrozen (marks : Marks) (key : Key) : Bool :=
  marks.any fun (other, mark) => mark == .frozen && other.isPrefixOf key

/-- The marks without those at or below a key. -/
def unmark (marks : Marks) (key : Key) : Marks :=
  marks.filter fun (other, _) => !key.isPrefixOf other

/-- Whether a value is a list or a record. -/
def isNested : Value → Bool
  | .list _ => true
  | .record _ => true
  | _ => false

/-- The fields with one more pair of a table on one line. -/
def addPair? (state : Fields × Marks) (key : Key) (value : Value) : Option (Fields × Marks) := do
  let (fields, marks) := state
  if isFrozen marks key then none
  else
    match key.getLast? with
    | none => none
    | some name =>
      let fields ← changeAt? false (addField? name value) key.dropLast fields
      return (fields, if isNested value then (key, .frozen) :: marks else marks)

mutual

/-- Reads a value; `fuel` bounds how deeply values are nested and how long lists are. -/
def value : Nat → Decoder Value
  | 0, _ => .error .malformed
  | fuel + 1, text =>
    match text with
    | '[' :: rest => do
      let (found, rest) ← items fuel (← required (skipLines? text.length rest))
      return (.list found, rest)
    | '{' :: rest =>
      match skipGaps rest with
      | '}' :: rest => .ok (.record [], rest)
      | rest => do
        let (found, rest) ← pairs fuel ([], []) rest
        return (.record found, rest)
    | _ =>
      match quotedText text with
      | some (t, rest) => .ok (.text t, rest)
      | none =>
        match truth text with
        | some found => .ok found
        | none => scalar text

/-- Reads the items of a list up to its end. -/
def items : Nat → Decoder (List Value)
  | 0, _ => .error .malformed
  | fuel + 1, text =>
    match text with
    | ']' :: rest => .ok ([], rest)
    | _ => do
      let (item, rest) ← value fuel text
      match ← required (skipLines? text.length rest) with
      | ']' :: rest => return ([item], rest)
      | ',' :: rest =>
        let (found, rest) ← items fuel (← required (skipLines? text.length rest))
        return (item :: found, rest)
      | _ => throw .malformed

/-- Reads the pairs of a table up to its end, and adds them to those that were read before. -/
def pairs : Nat → Fields × Marks → Decoder Fields
  | 0, _, _ => .error .malformed
  | fuel + 1, state, text => do
    let (name, rest) ← required (key (text.length + 1) text)
    let (_, rest) ← required (mark '=' rest)
    let (found, rest) ← value fuel (skipGaps rest)
    let state ← required (addPair? state name found)
    match skipGaps rest with
    | '}' :: rest => return (state.1, rest)
    | ',' :: rest => pairs fuel state (skipGaps rest)
    | _ => throw .malformed

end

/-- What the statements read so far say. -/
structure Document where
  /-- The values. -/
  fields : Fields
  /-- The marked keys. -/
  marks : Marks
  /-- Tables that were made by the way of a key below the current header; they are marked as
  declared at the next header. -/
  pending : List Key
  /-- The key of the current header. -/
  header : Key

namespace Document

/-- A document without statements. -/
def empty : Document := ⟨[], [], [], []⟩

/-- The document whose pending tables are marked. -/
def settle (document : Document) : Document :=
  { document with
    marks := document.pending.map (·, .declared) ++ document.marks
    pending := [] }

/-- The document after the header of a table. -/
def openTable? (document : Document) (key : Key) : Option Document := do
  let document := document.settle
  if isDeclared document.marks key || isFrozen document.marks key then none
  else
    let fields ← changeAt? true some key document.fields
    return { document with
      fields, marks := (key, .declared) :: document.marks, header := key }

/-- The document after the header of an item of a list of tables. -/
def openItem? (document : Document) (key : Key) : Option Document := do
  let document := document.settle
  match key.getLast? with
  | none => none
  | some name =>
    if isFrozen document.marks key then none
    else
      let fields ← changeAt? true (appendRecord? name) key.dropLast document.fields
      return { document with
        fields, marks := (key, .declared) :: unmark document.marks key, header := key }

/-- The document after a pair. -/
def addPair? (document : Document) (key : Key) (value : Value) : Option Document := do
  match key.getLast? with
  | none => none
  | some name =>
    let ways := (List.range (key.length - 1)).map fun i => document.header ++ key.take (i + 1)
    let parent := document.header ++ key.dropLast
    -- a dotted key may not add to a table that has a header of its own
    if ways.any (isDeclared document.marks) || isFrozen document.marks parent then none
    else
      let fields ← changeAt? true (addField? name value) parent document.fields
      return { document with
        fields
        marks :=
          if isNested value then (document.header ++ key, .frozen) :: document.marks
          else document.marks
        pending := document.pending ++ ways }

/-- Reads a header. -/
def readHeader (document : Document) : Decoder Document := fun text =>
  match text with
  | '[' :: '[' :: rest => do
    let (name, rest) ← required (key (text.length + 1) (skipGaps rest))
    match rest with
    | ']' :: ']' :: rest => return (← required (document.openItem? name), rest)
    | _ => throw .malformed
  | '[' :: rest => do
    let (name, rest) ← required (key (text.length + 1) (skipGaps rest))
    let (_, rest) ← required (mark ']' rest)
    return (← required (document.openTable? name), rest)
  | _ => .error .malformed

/-- Reads a pair of a key and a value. -/
def readPair (document : Document) : Decoder Document := fun text => do
  let (name, rest) ← required (key (text.length + 1) text)
  let (_, rest) ← required (mark '=' rest)
  let (found, rest) ← value (text.length + 1) (skipGaps rest)
  return (← required (document.addPair? name found), rest)

/-- Reads a statement, or nothing in front of a comment. -/
def readStatement (document : Document) : Decoder Document
  | [] => .error .malformed
  | c :: rest =>
    if opensKey c then document.readPair (c :: rest)
    else if c == '[' then document.readHeader (c :: rest)
    else if c == '#' then .ok (document, c :: rest)
    else .error .malformed

/-- The document after the statements of a text; `fuel` bounds their number. -/
def readStatements : Nat → Document → Text → Except Fault Document
  | 0, _, _ => .error .malformed
  | fuel + 1, document, text =>
    match skipGaps text with
    | [] => .ok document
    | '\n' :: rest => readStatements fuel document rest
    | text => do
      let (document, rest) ← document.readStatement text
      match ← required (skipComment? (skipGaps rest)) with
      | [] => return document
      | '\n' :: rest => readStatements fuel document rest
      | _ => throw .malformed

end Document

/-- The record that a text spells. -/
def decode (text : Text) : Except Fault Value := do
  let text := withoutReturns text
  let document ← Document.readStatements (text.length + 1) .empty text
  return .record document.fields

end BlitzLens.Toml
