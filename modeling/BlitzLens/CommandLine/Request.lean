import BlitzLens.CommandLine.Grammar
import BlitzLens.Query.Position

/-!
# Requests

What a command line asks for. Roots and verbosity stand before the name of the command; what stands
behind it is read by the grammar of that command.
-/

namespace BlitzLens.CommandLine

/-- The commands. -/
inductive Command where
  /-- The symbols of a file. -/
  | symbols (file : Text)
  /-- The hover text at a position. -/
  | hover (file : Text) (position : Position)
  /-- The declarations of the word at a position. -/
  | definition (file : Text) (position : Position)
  /-- The words that may be written at a position. -/
  | complete (file : Text) (position : Position) (trigger : Option Text)
  /-- The signatures of the call at a position. -/
  | signature (file : Text) (position : Position)
  /-- The highlighted words of a file, perhaps encoded as numbers. -/
  | tokens (file : Text) (encoded : Bool)
  /-- The outline of a file. -/
  | outline (file : Text)
  /-- The open points of a file. -/
  | todos (file : Text)
  /-- The symbols of all source files below a directory, perhaps written to a file. -/
  | index (directory : Text) (out : Option Text)
  /-- The check that passes over a file find the same. -/
  | verify (file : Text)
  deriving DecidableEq, Repr

/-- What a command line asks for. -/
structure Request where
  /-- The directories that includes start from; the first one is the workspace. -/
  roots : List Text
  /-- How much is reported. -/
  verbosity : Nat
  /-- The command. -/
  command : Command
  deriving DecidableEq, Repr

/-- The option that every grammar has. -/
def helpOption : OptionSpec :=
  ⟨"help", .help, some 'h'⟩

/-- The grammar of what stands before the name of a command. -/
def mainGrammar : Grammar :=
  ⟨[helpOption, ⟨"root", .setting, none⟩, ⟨"verbose", .switch, some 'v'⟩], [.command]⟩

/-- The grammar of a command about a file. -/
def fileGrammar (own : List OptionSpec) : Grammar :=
  ⟨helpOption :: own, [.text]⟩

/-- The grammar of a command about a position. -/
def positionGrammar (own : List OptionSpec) : Grammar :=
  ⟨helpOption :: own, [.text, .int, .int]⟩

/-- The grammar of a command. -/
def grammarOf? (name : Text) : Option Grammar :=
  let grammars : List (Text × Grammar) := [
    ("symbols", fileGrammar []),
    ("hover", positionGrammar []),
    ("definition", positionGrammar []),
    ("complete", positionGrammar [⟨"trigger", .setting, none⟩]),
    ("signature", positionGrammar []),
    ("tokens", fileGrammar [⟨"encode", .switch, none⟩]),
    ("outline", fileGrammar []),
    ("todos", fileGrammar []),
    ("index", fileGrammar [⟨"out", .setting, none⟩]),
    ("verify", fileGrammar [])]
  grammars.lookup name

namespace Parsed

/-- The last value of a setting. -/
def setting? (parsed : Parsed) (name : Text) : Option Text :=
  parsed.settings.reverse.lookup name

/-- All values of a setting. -/
def settingValues (parsed : Parsed) (name : Text) : List Text :=
  (parsed.settings.filter fun setting => setting.1 == name).map Prod.snd

/-- Whether a switch was given. -/
def hasSwitch (parsed : Parsed) (name : Text) : Bool :=
  parsed.switches.contains name

/-- The command about a file. -/
def fileCommand? (parsed : Parsed) (name file : Text) : Option Command :=
  let commands : List (Text × Command) := [
    ("symbols", .symbols file),
    ("tokens", .tokens file (parsed.hasSwitch "encode")),
    ("outline", .outline file),
    ("todos", .todos file),
    ("index", .index file (parsed.setting? "out")),
    ("verify", .verify file)]
  commands.lookup name

/-- The command about a position. -/
def positionCommand? (parsed : Parsed) (name file : Text) (position : Position) :
    Option Command :=
  let commands : List (Text × Command) := [
    ("hover", .hover file position),
    ("definition", .definition file position),
    ("complete", .complete file position (parsed.setting? "trigger")),
    ("signature", .signature file position)]
  commands.lookup name

/-- The command with a name. -/
def command? (parsed : Parsed) (name : Text) : Option Command :=
  match parsed.arguments with
  | [.text file] => parsed.fileCommand? name file
  | [.text file, .int line, .int character] => parsed.positionCommand? name file ⟨line, character⟩
  | _ => none

end Parsed

/-- The command that its name and what stands behind it spell. -/
def Command.read (name : Text) (rest : List Text) (surplus : Bool) : Except UsageExit Command :=
  match grammarOf? name with
  | none => .error .misuse
  | some grammar =>
    match grammar.parse rest with
    | .error exit => .error exit
    | .ok parsed =>
      match parsed.command? name with
      | some command => if surplus || parsed.surplus then .error .misuse else .ok command
      | none => .error .misuse

/-- What a command line asks for. -/
def Request.read (arguments : List Text) : Except UsageExit Request :=
  match mainGrammar.parse arguments with
  | .error exit => .error exit
  | .ok parsed =>
    match parsed.arguments with
    | [.command name rest] =>
      (Command.read name rest parsed.surplus).map fun command =>
        ⟨parsed.settingValues "root", parsed.switches.length, command⟩
    | _ => .error .misuse

end BlitzLens.CommandLine
