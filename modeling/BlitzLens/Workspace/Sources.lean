import BlitzLens.Files.Tree
import BlitzLens.Text.Lines
import BlitzLens.Text.Lowercase
import BlitzLens.Workspace.Ignore

/-!
# Source files of a workspace

The files below a directory that have one of some endings. Links are not followed, hidden
directories are not entered, and files that the ignore file of the directory or some patterns leave
out are left out. The files come in the order of their paths.
-/

namespace BlitzLens

/-- Why the source files of a workspace cannot be found. -/
inductive SourceError where
  /-- The ignore file cannot be looked at. -/
  | unreachable (error : FileError)
  /-- The ignore file cannot be used. -/
  | ignore (error : IgnoreError)
  deriving DecidableEq, Repr

namespace Sources

/-- The endings of source files unless others are given. -/
def defaultExtensions : List Text := [".bb"]

/-- The name of the ignore file. -/
def ignoreFile : Text := ".gitignore"

/-- The files below a directory, none of them a link, given by their names from there on. -/
def filesBelow (tree : FileTree) (directory : Route) : List (List Text) :=
  tree.nodes.filterMap fun (route, node) =>
    match node with
    | .file .. =>
      if directory.isPrefixOf route && directory.length < route.length then
        some (route.drop directory.length)
      else none
    | _ => none

/-- Whether a file lies in a hidden directory. -/
def isHidden (names : List Text) : Bool :=
  names.dropLast.any fun name => name.head? == some '.'

/-- The rules of the ignore file in a directory. -/
def ignoreRules (tree : FileTree) (directory : Path) : Except SourceError (List IgnoreRule) :=
  let path := (directory.join ⟨[], [ignoreFile]⟩).toText
  match tree.isFile path with
  | .error error => .error (.unreachable error)
  | .ok false => .ok []
  | .ok true =>
    match tree.read path with
    | .error error => .error (.unreachable error)
    | .ok bytes =>
      match Encoding.decodeUtf8? bytes with
      | none => .error (.ignore .noText)
      | some text => (Ignore.read text.lines).mapError .ignore

/-- Whether the rules and patterns keep a file. -/
def isKept (rules : List IgnoreRule) (excluded : List Glob) (path : Text) :
    Except SourceError Bool :=
  match Ignore.ignores rules path with
  | .error error => .error (.ignore error)
  | .ok ignored => .ok (!ignored && !excluded.any fun pattern => pattern.isMatch path)

/-- The source files below a directory, given by their paths from there on. -/
def find (tree : FileTree) (directory : Path) (extensions excluded : List Text) :
    Except SourceError (List Text) := do
  let rules ← ignoreRules tree directory
  match tree.find true directory.toText with
  | .ok (route, .directory) =>
    let wanted := extensions.map Text.lower
    let files := (filesBelow tree route).filter fun names =>
      wanted.contains (Text.lower (Path.suffix ⟨[], names⟩)) && !isHidden names
    let paths := files.map (Text.joinWith ['/'])
    let kept ← paths.filterM (isKept rules (excluded.map Glob.read))
    return kept.mergeSort fun a b => !Text.before b a
  | _ => return []

end Sources

end BlitzLens
