import BlitzLens.Data.Json
import BlitzLens.Determinism
import BlitzLens.Service
import BlitzLens.Workspace.Sources

/-!
# Outcomes

What carrying out a request leaves behind: output, notices, perhaps a written file, and an exit
code. A failure that no notice is made for ends the request.
-/

namespace BlitzLens.CommandLine

/-- Why a request ends without an outcome. -/
inductive Failure where
  /-- A file cannot be looked at or written. -/
  | file (error : FileError)
  /-- A path has no real form. -/
  | path (error : FileTree.ResolveError)
  /-- The settings cannot be read. -/
  | settings (error : SettingsError)
  /-- The ignore file cannot be used. -/
  | ignore (error : IgnoreError)
  /-- A document has no symbols. -/
  | document (error : CacheError)
  /-- Highlighted words cannot be encoded. -/
  | tokens (error : EncodeError)
  deriving DecidableEq, Repr

/-- The message of a failure. -/
def Failure.message : Failure → Text
  | .file error => error.message
  | .path (.circle start) => "Symlink loop from " ++ start.quoted
  | .path (.unknownHome start) => "No home directory for " ++ start.quoted
  | .settings error => error.message
  | .ignore .emptyPattern => "The ignore file holds an empty pattern"
  | .ignore .emptyRange => "The ignore file holds an empty range"
  | .ignore .noText => "The ignore file is not text"
  | .document (.failed (.unknownKeyword keyword)) => "Unknown keyword " ++ keyword.quoted
  | .document .nothingToDrop => "The cache has no room"
  | .tokens (.notInLegend word) => "No number for the class " ++ word.quoted

/-- What a request leaves behind. -/
structure Outcome where
  /-- The exit code. -/
  exitCode : Nat
  /-- The output. -/
  output : Text := []
  /-- The lines of the notices. -/
  notices : List Text := []
  /-- The path and the text of a written file. -/
  written : Option (Text × Text) := none
  deriving DecidableEq, Repr

namespace Outcome

/-- The exit code of a request that was answered. -/
def success : Nat := 0

/-- The exit code of a request that found nothing. -/
def nothingFound : Nat := 1

/-- The exit code of a request that could not be carried out. -/
def refused : Nat := 2

/-- The outcome with more notices before its own. -/
def after (notices : List Text) (outcome : Outcome) : Outcome :=
  { outcome with notices := notices ++ outcome.notices }

/-- The outcome of a request that could not be carried out. -/
def error (message : Text) (details : List Text) : Outcome :=
  { exitCode := refused, notices := ("error: " ++ message) :: details }

/-- Values on lines of their own. -/
def jsonLines (values : List Value) : Text :=
  values.flatMap fun value => Json.line value ++ ['\n']

/-- The outcome of a request that was answered. -/
def answer (value : Value) : Outcome :=
  { exitCode := success, output := jsonLines [value] }

/-- The outcome of a request that was answered if something was found. -/
def found (found : Bool) (value : Value) : Outcome :=
  { answer value with exitCode := if found then success else nothingFound }

end Outcome

end BlitzLens.CommandLine
