import BlitzLens.Text.Numeral

/-!
# The grammar of a command line

A command line is a list of arguments and options. An option starts with a dash and stands before or
between the arguments: a switch stands for itself, a setting takes a value, which follows it or is
joined to it by an equals sign. A long name may be cut short as long as it stays unique, and
one-letter names may be written together. After two dashes everything is an argument. Negative
numbers, and texts with a blank in them, are arguments, too.
-/

namespace BlitzLens.CommandLine

/-- Why a command line is not carried out. -/
inductive UsageExit where
  /-- It asks for help. -/
  | help
  /-- It breaks the grammar. -/
  | misuse
  deriving DecidableEq, Repr

/-- What an option does. -/
inductive OptionEffect where
  /-- Asks for help. -/
  | help
  /-- Is counted. -/
  | switch
  /-- Takes a value. -/
  | setting
  deriving DecidableEq, Repr

/-- An option of a grammar. -/
structure OptionSpec where
  /-- The long name, without its dashes. -/
  name : Text
  /-- What the option does. -/
  effect : OptionEffect
  /-- The one-letter name, which only options without a value have. -/
  letter : Option Char := none
  deriving DecidableEq, Repr

/-- What is expected as an argument. -/
inductive ArgumentKind where
  /-- Any text. -/
  | text
  /-- A whole number. -/
  | int
  /-- The name of a command, and everything behind it. -/
  | command
  deriving DecidableEq, Repr

/-- The grammar of a command line. -/
structure Grammar where
  /-- The options. -/
  options : List OptionSpec
  /-- The arguments, all of which are required. -/
  arguments : List ArgumentKind
  deriving DecidableEq, Repr

/-- An argument that was read. -/
inductive Argument where
  /-- A text. -/
  | text (t : Text)
  /-- A whole number. -/
  | int (n : Int)
  /-- The name of a command, and everything behind it. -/
  | command (name : Text) (rest : List Text)
  deriving DecidableEq, Repr

/-- What was read from a command line. -/
structure Parsed where
  /-- The names of the switches, as often as they were given. -/
  switches : List Text := []
  /-- The names and values of the settings, in order. -/
  settings : List (Text × Text) := []
  /-- The arguments, in order. -/
  arguments : List Argument := []
  /-- Whether something was left over. -/
  surplus : Bool := false
  deriving DecidableEq, Repr

/-- The part that a piece of a command line plays. -/
inductive Role where
  /-- An argument, or the value of a setting. -/
  | argument
  /-- The two dashes behind which everything is an argument. -/
  | marker
  /-- Options without values, and perhaps letters behind them that are no options. -/
  | switches (specs : List OptionSpec) (surplus : Bool)
  /-- A setting, and a value that is joined to it. -/
  | setting (name : Text) (value : Option Text)
  /-- An option with a value that it does not take. -/
  | broken
  /-- An unknown option. -/
  | unknown
  deriving DecidableEq, Repr

/-- A piece of a command line. -/
structure Piece where
  /-- The piece as it is written. -/
  text : Text
  /-- The part it plays. -/
  role : Role
  deriving DecidableEq, Repr

/-- The whole number that an argument spells, in decimal digits of any script. -/
def integer? (text : Text) : Option Int :=
  if mostDigits < (text.filter isDecimalDigit).length then none
  else Numeral.signed? digitValue? (Numeral.trim text)

/-- Whether a text is a dash and a number, perhaps with a line feed at its end. -/
def isNegativeNumber (text : Text) : Bool :=
  let text := if text.getLast? == some '\n' then text.dropLast else text
  match text with
  | '-' :: number =>
    match number.dropWhile isDecimalDigit with
    | [] => !number.isEmpty
    | '.' :: fraction => !fraction.isEmpty && fraction.all isDecimalDigit
    | _ => false
  | _ => false

namespace Grammar

/-- The option with a long name. -/
def named? (grammar : Grammar) (name : Text) : Option OptionSpec :=
  grammar.options.find? fun spec => spec.name == name

/-- The option with a one-letter name. -/
def lettered? (grammar : Grammar) (letter : Char) : Option OptionSpec :=
  grammar.options.find? fun spec => spec.letter == some letter

/-- The role of one-letter names that are written together, behind those of `specs`. Letters that
are no options are left over, but neither an equals sign nor a dash may stand there. -/
def cluster (grammar : Grammar) (specs : List OptionSpec) : Text → Role
  | [] => .switches specs false
  | letter :: letters =>
    match grammar.lettered? letter with
    | some spec => grammar.cluster (specs ++ [spec]) letters
    | none => if letter == '=' || letter == '-' then .broken else .switches specs true

/-- The role of a piece with one dash, if it starts with a one-letter name. -/
def letterRole? (grammar : Grammar) (letters : Text) : Option Role := do
  let _ ← grammar.lettered? (← letters.head?)
  return grammar.cluster [] letters

/-- The role of an option that is given by its long name. -/
def longRole (spec : OptionSpec) (value : Option Text) : Role :=
  match spec.effect, value with
  | .setting, _ => .setting spec.name value
  | _, none => .switches [spec] false
  | _, some _ => .broken

/-- The role of a piece with two dashes, if it starts with a long name. -/
def nameRole? (grammar : Grammar) (text : Text) : Except UsageExit (Option Role) :=
  let name := text.takeWhile (· != '=')
  let value := if text.contains '=' then some (text.drop (name.length + 1)) else none
  match grammar.named? name with
  | some spec => .ok (some (longRole spec value))
  | none =>
    match grammar.options.filter fun spec => name.isPrefixOf spec.name with
    | [] => .ok none
    | [spec] => .ok (some (longRole spec value))
    | _ => .error .misuse

/-- The role of a piece before the marker; a long name that is cut too short is refused. -/
def role (grammar : Grammar) (text : Text) : Except UsageExit Role :=
  match text with
  | ['-', '-'] => .ok .marker
  | '-' :: c :: rest => do
    let known ← if c == '-' then grammar.nameRole? rest else .ok (grammar.letterRole? (c :: rest))
    return known.getD <|
      if isNegativeNumber text || text.contains ' ' then .argument else .unknown
  | _ => .ok .argument

/-- The pieces of a command line. -/
def pieces (grammar : Grammar) : List Text → Except UsageExit (List Piece)
  | [] => .ok []
  | text :: texts => do
    let role ← grammar.role text
    if role == .marker then return ⟨text, role⟩ :: texts.map fun text => ⟨text, .argument⟩
    return ⟨text, role⟩ :: (← grammar.pieces texts)

end Grammar

namespace Parsed

/-- What was read, and an argument. -/
def withArgument (parsed : Parsed) (argument : Argument) : Parsed :=
  { parsed with arguments := parsed.arguments ++ [argument] }

/-- What was read, and options without values. -/
def withSwitches (parsed : Parsed) : List OptionSpec → Except UsageExit Parsed
  | [] => .ok parsed
  | spec :: specs =>
    match spec.effect with
    | .help => .error .help
    | .switch => withSwitches { parsed with switches := parsed.switches ++ [spec.name] } specs
    | .setting => .error .misuse

/-- What was read, and a setting. -/
def withSetting (parsed : Parsed) (name value : Text) : Parsed :=
  { parsed with settings := parsed.settings ++ [(name, value)] }

/-- Reads pieces, where `expected` arguments are still missing and `adjoining` says that the last
piece was an argument. -/
def readOn (parsed : Parsed) (expected : List ArgumentKind) (adjoining : Bool) :
    List Piece → Except UsageExit Parsed
  | [] => if expected.isEmpty then .ok parsed else .error .misuse
  | ⟨text, .argument⟩ :: pieces =>
    match expected with
    | [] => readOn { parsed with surplus := true } [] false pieces
    | .text :: expected => readOn (parsed.withArgument (.text text)) expected true pieces
    | .int :: expected =>
      match integer? text with
      | some n => readOn (parsed.withArgument (.int n)) expected true pieces
      | none => .error .misuse
    | .command :: _ => .ok (parsed.withArgument (.command text (pieces.map Piece.text)))
  | ⟨_, .marker⟩ :: pieces =>
    -- the marker belongs to an argument on either side of it
    if adjoining || (expected.head?.any (· != .command) && !pieces.isEmpty) then
      readOn parsed expected false pieces
    else .error .misuse
  | ⟨_, .broken⟩ :: _ => .error .misuse
  | ⟨_, .unknown⟩ :: pieces => readOn { parsed with surplus := true } expected false pieces
  | ⟨_, .setting name (some value)⟩ :: pieces =>
    readOn (parsed.withSetting name value) expected false pieces
  | ⟨_, .setting name none⟩ :: ⟨value, .argument⟩ :: pieces =>
    readOn (parsed.withSetting name value) expected false pieces
  | ⟨_, .setting _ none⟩ :: _ => .error .misuse
  | ⟨_, .switches specs surplus⟩ :: pieces =>
    match parsed.withSwitches specs with
    | .ok parsed =>
      readOn { parsed with surplus := parsed.surplus || surplus } expected false pieces
    | .error exit => .error exit

end Parsed

/-- What a command line says by a grammar. -/
def Grammar.parse (grammar : Grammar) (texts : List Text) : Except UsageExit Parsed := do
  Parsed.readOn {} grammar.arguments false (← grammar.pieces texts)

end BlitzLens.CommandLine
