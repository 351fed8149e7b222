import BlitzLens.Declaration.ValueType
import BlitzLens.Line.Nesting

/-!
# Declared parts

A part is one item of a declaration list, a field list or a parameter list: a name, perhaps a type
suffix, a group of dimensions in brackets, and a default value. A part whose type mark cannot be
read keeps its name and loses its type; a part without a leading name is dropped.
-/

namespace BlitzLens

/-- One declared name with its type mark. -/
structure Part where
  /-- The name as it is written. -/
  name : Text
  /-- The text of the whole part, without surrounding blanks. -/
  text : Text
  /-- The annotated type. -/
  typeMark : TypeMark := .none
  /-- Whether a group of dimensions follows the name. -/
  array : Bool := false
  /-- The text of the default value. -/
  default : Option Text := none
  deriving DecidableEq, Repr

namespace Part

/-- The key that a part is looked up by. -/
def key (part : Part) : Text :=
  part.name.lower

/-- The type suffix at the start of a text, and what follows it; the suffix is empty when there is
none. -/
def takeSuffix (text : Text) : Text × Text :=
  match text with
  | [] => ([], text)
  | c :: rest =>
    if isTypeSign c then ([c], rest)
    else if c == '.' then
      let blanks := rest.takeWhile isBlank
      let named := rest.dropWhile isBlank
      match Text.identifier? named with
      | some name => (c :: blanks ++ name, named.drop name.length)
      | none => ([], text)
    else ([], text)

/-- What follows the group of dimensions at the start of a text. -/
def dropDimensions? (text : Text) : Option Text :=
  match text with
  | [] => none
  | c :: rest =>
    let closing := if c == '[' then some ']' else if c == '(' then some ')' else none
    match closing with
    | none => none
    | some closing =>
      match rest.dropWhile (· != closing) with
      | [] => none
      | _ :: rest => some rest

/-- The default value that ends a part: `some none` when there is none, and `none` when the text
cannot end a part. A default value does not run over a line feed. -/
def readDefault? (text : Text) : Option (Option Text) :=
  match text with
  | [] => some none
  | c :: rest =>
    let value := Text.trimStart rest
    if c != '=' || value.contains '\n' then none
    else some (if value.isEmpty then none else some value)

/-- The part that a text without surrounding blanks spells in full. -/
def readWhole? (text : Text) : Option Part := do
  let name ← text.identifier?
  let (suffix, rest) := takeSuffix (Text.trimStart (text.drop name.length))
  let rest := Text.trimStart rest
  let dimensions := dropDimensions? rest
  let value ← readDefault? (Text.trimStart (dimensions.getD rest))
  return {
    name, text,
    typeMark := .ofSuffix suffix,
    array := dimensions.isSome,
    default := value }

/-- The part that a text declares. -/
def parse? (text : Text) : Option Part :=
  let text := text.trim
  match readWhole? text with
  | some part => some part
  | none => text.identifier?.map fun name => { name, text }

/-- The parts of a list, without those that have no name. -/
def parseList (text : Text) : List Part :=
  (Line.splitTopLevel ',' text).filterMap parse?

end Part

end BlitzLens
