import BlitzLens.Data.Checked
import BlitzLens.Data.Toml.Document
import BlitzLens.Files.Tree
import BlitzLens.Query.Todo
import BlitzLens.Text.Lowercase

/-!
# Settings

The settings of a workspace are read from a file at its root. A workspace without that file has the
default settings. Unknown settings are refused, and so are values that are not allowed.
-/

namespace BlitzLens

/-- The settings of a workspace. -/
structure Settings where
  /-- Whether brackets are inserted behind built-ins that take no arguments. -/
  bracketsEverywhere : Bool := false
  /-- The stub file that replaces the built-in documentation. -/
  stubPath : Option Text := none
  /-- The directory of user library declarations. -/
  libraries : Option Text := none
  /-- Whether a file that is being included already is skipped. -/
  cycleGuard : Bool := true
  /-- The number of files that may be nested in a document. -/
  maxDepth : Int := 32
  /-- The tags of comments that are listed as open points. -/
  todoTags : List Text := Todo.defaultTags
  /-- The endings of source files, in lower case. -/
  sourceExtensions : List Text := [".bb"]
  deriving DecidableEq, Repr

/-- Why the settings of a workspace cannot be read. -/
inductive SettingsError where
  /-- The settings file cannot be looked at. -/
  | unreachable (error : FileError)
  /-- The settings file is not text in UTF-8. -/
  | noText
  /-- The settings file is not well formed. -/
  | malformed (path : Text)
  /-- The settings file holds a whole number with too many digits. -/
  | longNumber
  /-- The settings file holds values that are refused. -/
  | refused (path : Text) (problems : List Problem)
  deriving DecidableEq, Repr

namespace SettingsError

/-- The message of a settings error. -/
def message : SettingsError → Text
  | .unreachable error => error.message
  | .noText => "The settings are not text"
  | .malformed path => "Invalid TOML in " ++ path
  | .longNumber => "The settings hold a number with too many digits"
  | .refused path _ => "Invalid config in " ++ path

/-- What is said about a settings error besides its message: a line for every problem. -/
def details : SettingsError → List Text
  | .refused _ problems =>
    problems.map fun problem => "  " ++ problem.place ++ ": " ++ problem.fault.word
  | _ => []

end SettingsError

namespace Settings

/-- The names of all settings. -/
def names : List Text :=
  ["use_brackets_everywhere", "stub_path", "userlibs_dir", "include_cycle_guard",
    "max_include_depth", "todo_tags", "source_extensions"]

/-- Reads tags, none of which may be blank. -/
def readTags : Reader (List Text) := fun value =>
  (Reader.list Reader.text value).require (fun tags => !tags.any Text.isBlankText) .notAllowed

/-- Reads endings of files, which start with a dot, into lower case. -/
def readExtensions : Reader (List Text) := fun value =>
  List.map Text.lower <$>
    (Reader.list Reader.text value).require
      (fun extensions => extensions.all fun e => e.head? == some '.') .notAllowed

/-- Reads a depth, which is at least one. -/
def readDepth : Reader Int := fun value =>
  (Reader.int value).require (fun n => 1 ≤ n) .tooSmall

/-- Reads settings. -/
def read : Reader Settings :=
  Reader.record fun value =>
    let defaults : Settings := {}
    (fun brackets stubs libraries guarded depth tags extensions _ =>
        ⟨brackets, stubs, libraries, guarded, depth, tags, extensions⟩)
      <$> Reader.withDefault "use_brackets_everywhere" Reader.bool defaults.bracketsEverywhere value
      <*> Reader.withDefault "stub_path" (Reader.optional Reader.text) defaults.stubPath value
      <*> Reader.withDefault "userlibs_dir" (Reader.optional Reader.text) defaults.libraries value
      <*> Reader.withDefault "include_cycle_guard" Reader.bool defaults.cycleGuard value
      <*> Reader.withDefault "max_include_depth" readDepth defaults.maxDepth value
      <*> Reader.withDefault "todo_tags" readTags defaults.todoTags value
      <*> Reader.withDefault "source_extensions" readExtensions defaults.sourceExtensions value
      <*> Reader.extraFields names value

/-- The name of the settings file. -/
def fileName : Text := "bbls.toml"

/-- The settings that the bytes of the settings file at a path spell. -/
def ofBytes (path : Text) (bytes : List UInt8) : Except SettingsError Settings :=
  match Encoding.decodeUtf8? bytes with
  | none => .error .noText
  | some text =>
    match Toml.decode text with
    | .error .malformed => .error (.malformed path)
    | .error .longNumber => .error .longNumber
    | .ok value =>
      match (read value).toExcept with
      | .ok settings => .ok settings
      | .error problems => .error (.refused path problems)

/-- The settings of the workspace in a directory. -/
def load (tree : FileTree) (root : Path) : Except SettingsError Settings :=
  let path := (root.join ⟨[], [fileName]⟩).toText
  match tree.isFile path with
  | .error error => .error (.unreachable error)
  | .ok false => .ok {}
  | .ok true =>
    match tree.read path with
    | .ok bytes => ofBytes path bytes
    | .error error => .error (.unreachable error)

/-- The real form of a path that a setting names, starting from the root of the workspace; nothing
if the setting is empty. -/
def resolvePath (tree : FileTree) (root : Path) (value : Option Text) :
    Except FileTree.ResolveError (Option Text) :=
  match value.filter fun t => !t.isEmpty with
  | none => .ok none
  | some text => do
    let path ← tree.expandHome (Path.ofText text)
    let real ← tree.resolve (root.join path)
    return some real.toText

end Settings

end BlitzLens
