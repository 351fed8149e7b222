import BlitzLens.Declaration.Part
import BlitzLens.Keyword.Reserved
import BlitzLens.Line.Comment
import BlitzLens.Line.Nesting
import BlitzLens.Text.Caseless

/-!
# Statements

What one line says to the extraction of symbols. A line is read without its comment, except for
documentation lines, which are comments. Keywords are recognised in any case; the first form in the
order of `Statement.read` that fits a line decides.
-/

namespace BlitzLens

/-- What a line says. Columns are those where a name or a list starts on the line. -/
inductive Statement where
  /-- Another file is included. -/
  | includeFile (target : Text)
  /-- Variables are declared; the keyword is given as it is written. -/
  | declare (keyword list : Text) (column : Nat)
  /-- A loop is opened, and closed again if a later statement of the line does. -/
  | openLoop (name suffix : Text) (column : Nat) (closed : Bool)
  /-- A loop is closed. -/
  | closeLoop
  /-- A value is assigned to a name. -/
  | assign (name sign : Text) (column : Nat)
  /-- A parameter is documented. -/
  | documentParameter (text : Text)
  /-- An example is given. -/
  | documentExample (text : Text)
  /-- A line of documentation. -/
  | document (text : Text)
  /-- A function is closed. -/
  | closeFunction
  /-- A function is opened; its parameter list comes with the column where it starts. -/
  | openFunction (name suffix : Text) (column : Nat) (parameters : Option (Text × Nat))
  /-- A type is closed. -/
  | closeType
  /-- A type is opened. -/
  | openType (name : Text) (column : Nat)
  /-- Fields are declared. -/
  | declareFields (list : Text) (column : Nat)
  /-- A label is set. -/
  | label (name : Text) (column : Nat)
  /-- Nothing is declared. -/
  | other
  deriving DecidableEq, Repr

namespace Statement

/-- The column of a line at which its last part `rest` starts. -/
def columnOf (line rest : Text) : Nat :=
  line.length - rest.length

/-- The keywords that declare variables, in lower case. -/
def declarators : List Text :=
  ["global", "local", "const", "dim"]

/-- What follows a keyword and at least one blank at the start of a line. -/
def afterKeyword? (keyword line : Text) : Option Text := do
  Text.dropBlanks? (← Text.dropKeyword? keyword line.trimStart)

/-- Reads `Include "file"`. -/
def readInclude? (code : Text) : Option Statement := do
  match ← afterKeyword? "include" code with
  | '"' :: rest =>
    if rest.contains '"' then some (.includeFile (rest.takeWhile (· != '"'))) else none
  | _ => none

/-- Reads a declaration with the given keyword. -/
def readDeclaratorList? (code keyword : Text) : Option Statement := do
  let list ← afterKeyword? keyword code
  return .declare (code.trimStart.take keyword.length) list (columnOf code list)

/-- Reads a declaration of variables. -/
def readDeclaration? (code : Text) : Option Statement :=
  declarators.findSome? (readDeclaratorList? code)

/-- The type suffix of a loop variable or function at the start of a text, where case is
disregarded in the name of a type, and what follows it. -/
def takeLooseSuffix (text : Text) : Text × Text :=
  match text with
  | [] => ([], text)
  | c :: rest =>
    if isTypeSign c then ([c], rest)
    else if c == '.' then
      match Text.looseIdentifier? (rest.dropWhile isBlank) with
      | some (name, rest') => (c :: rest.takeWhile isBlank ++ name, rest')
      | none => ([], text)
    else ([], text)

/-- Whether a statement closes a loop. -/
def closesLoop (statement : Text) : Bool :=
  (Text.dropWholeKeyword? "next" statement.trimStart).isSome

/-- Reads `For name =`. -/
def readLoop? (code : Text) : Option Statement := do
  let named ← afterKeyword? "for" code
  let (name, rest) ← Text.looseIdentifier? named
  let (suffix, rest) := takeLooseSuffix (Text.trimStart rest)
  if (Text.trimStart rest).head? != some '=' then none
  else
    -- the first statement is the loop itself
    let closed := (Line.splitTopLevel ':' code).tail.any closesLoop
    return .openLoop name suffix (columnOf code named) closed

/-- Reads `Next`. -/
def readLoopEnd? (code : Text) : Option Statement :=
  if closesLoop code then some .closeLoop else none

/-- Reads `name =`, unless the name is reserved. -/
def readAssignment? (code : Text) : Option Statement := do
  let named := code.trimStart
  let name ← named.identifier?
  let rest := Text.trimStart (named.drop name.length)
  let sign := (rest.take 1).filter isTypeSign
  if (Text.trimStart (rest.drop sign.length)).head? != some '=' then none
  else if Keyword.isReserved name then none
  else return .assign name sign (columnOf code named)

/-- Reads a documentation line. -/
def readDocument? (line : Text) : Option Statement := do
  let text ← Text.dropLead? ";;" line.trimStart
  match (Text.dropKeyword? "param" text).bind Text.dropBlanks? with
  | some doc => return .documentParameter doc.trimEnd
  | none =>
    match Text.dropKeyword? "example" text with
    | some [] => return .documentExample []
    | some (c :: doc) =>
      if isBlank c then return .documentExample (Text.trimEnd doc) else plain text
    | none => plain text
where
  /-- Reads a line that is neither a parameter nor an example. -/
  plain (text : Text) : Option Statement :=
    match text with
    | ' ' :: doc => some (.document (Text.trimEnd doc))
    | _ => none

/-- What follows `End` and a second keyword, with or without blanks in between. -/
def afterEnd? (keyword line : Text) : Option Text := do
  Text.dropWholeKeyword? keyword (Text.trimStart (← Text.dropKeyword? "end" line.trimStart))

/-- Reads `End Function`. -/
def readFunctionEnd? (code : Text) : Option Statement := do
  let _ ← afterEnd? "function" code
  return .closeFunction

/-- The parameter list that opens at or behind a column, with the column where it starts. -/
def parameterList? (code : Text) (column : Nat) : Option (Text × Nat) := do
  let opening ← code.indexFrom? '(' column
  let start := opening + 1
  match Line.closingParen? code opening with
  | some closing => return (code.slice start closing, start)
  | none => return (code.drop start, start)

/-- Reads `Function name`. -/
def readFunction? (code : Text) : Option Statement := do
  let named ← afterKeyword? "function" code
  let (name, rest) ← Text.looseIdentifier? named
  let (suffix, rest) := takeLooseSuffix (Text.trimStart rest)
  return .openFunction name suffix (columnOf code named)
    (parameterList? code (columnOf code rest))

/-- Reads `End Type`. -/
def readTypeEnd? (code : Text) : Option Statement := do
  let _ ← afterEnd? "type" code
  return .closeType

/-- Reads `Type name`. -/
def readType? (code : Text) : Option Statement := do
  let named ← afterKeyword? "type" code
  let (name, _) ← Text.looseIdentifier? named
  return .openType name (columnOf code named)

/-- Reads a declaration of fields. -/
def readFields? (code : Text) : Option Statement := do
  let list ← afterKeyword? "field" code
  return .declareFields list (columnOf code list)

/-- Reads a label. -/
def readLabel? (code : Text) : Option Statement :=
  match code.trimStart with
  | '.' :: rest => (Text.identifier? rest).map fun name => .label name (columnOf code rest)
  | _ => none

/-- What a line says. -/
def read (line : Text) : Statement :=
  let code := Line.code line
  (readInclude? code <|> readDeclaration? code <|> readLoop? code <|> readLoopEnd? code <|>
    readAssignment? code <|> readDocument? line <|> readFunctionEnd? code <|>
    readFunction? code <|> readTypeEnd? code <|> readType? code <|> readFields? code <|>
    readLabel? code).getD .other

end Statement

end BlitzLens
