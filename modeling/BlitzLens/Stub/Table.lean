import BlitzLens.Event
import BlitzLens.Files.Tree
import BlitzLens.Stub.BuiltIn
import BlitzLens.Stub.Library
import BlitzLens.Stub.Reader

/-!
# Loading stubs

The stubs of a workspace are those of its stub file, or the built-in ones when it names none,
followed by those of the declaration files in its directory of user libraries.
-/

namespace BlitzLens

/-- Why stubs cannot be loaded. -/
inductive StubError where
  /-- The stub file, whose path is given as it was written, cannot be read. -/
  | unreadable (path : Text) (error : FileError)
  /-- The directory of user libraries cannot be looked at. -/
  | unreachable (error : FileError)
  deriving DecidableEq, Repr

/-- The message of a stub error. -/
def StubError.message : StubError → Text
  | .unreadable path error => "Cannot read stub file " ++ path ++ ": " ++ error.message
  | .unreachable error => error.message

namespace StubTable

/-- The name of the file that the built-in stubs are said to come from. -/
def builtInOrigin : Text := "stubs.bb"

/-- A text, unless there is none or it is empty. -/
def given? (text : Option Text) : Option Text :=
  text.filter fun t => !t.isEmpty

/-- The ending of the names of declaration files. -/
def libraryEnding : Text := ".decls"

/-- The declaration files of a directory, ordered by their names in lower case. -/
def libraryFiles (tree : FileTree) (directory : Path) : List Text :=
  let names := (tree.list directory.toText).filter fun name => libraryEnding.isSuffixOf name
  (names.mergeSort fun a b => !Text.before (Text.lower b) (Text.lower a)).map fun name =>
    (directory.join ⟨[], [name]⟩).toText

/-- The stubs of one declaration file, or the event that it could not be read. -/
def readLibraryFile (tree : FileTree) (path : Text) : List Stub × List Event :=
  match tree.disk.readSource path with
  | .ok text => (Stub.readLibrary text (Path.ofText path).name, [])
  | .error error => ([], [.libraryUnreadable path error])

/-- The stubs of all declaration files of a directory. -/
def loadLibraries (tree : FileTree) (directory : Path) :
    Except StubError (List Stub × List Event) :=
  match tree.isDirectory directory.toText with
  | .error error => .error (.unreachable error)
  | .ok false => .ok ([], [.libraryMissing directory.toText])
  | .ok true =>
    let found := (libraryFiles tree directory).map (readLibraryFile tree)
    .ok (found.flatMap Prod.fst, found.flatMap Prod.snd)

/-- The stubs of a stub file. -/
def loadFile (tree : FileTree) (path : Text) : Except StubError (List Stub) :=
  match tree.disk.readSource (Path.ofText path).toText with
  | .ok text => .ok (Stub.readAll text none)
  | .error error => .error (.unreadable path error)

/-- The stubs of a workspace. -/
def load (tree : FileTree) (stubPath libraries : Option Text) :
    Except StubError (StubTable × List Event) := do
  let stubs ← match given? stubPath with
    | some path => loadFile tree path
    | none => .ok builtIns
  let loaded := Event.stubsLoaded stubs.length ((given? stubPath).getD builtInOrigin)
  match given? libraries with
  | none => return (⟨stubs⟩, [loaded])
  | some directory =>
    let (extra, events) ← loadLibraries tree (Path.ofText directory)
    return (⟨stubs ++ extra⟩,
      [loaded] ++ events ++ [.libraryStubsLoaded extra.length directory])

end StubTable

end BlitzLens
