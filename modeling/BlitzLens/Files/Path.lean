import BlitzLens.Text.Basic

/-!
# Paths

A path is an anchor, which says whether it starts at the root, and the names along the way. Empty
names and single dots vanish when a path is read; double dots stay until the path is collapsed.
-/

namespace BlitzLens

/-- A path of a file or directory. -/
structure Path where
  /-- Nothing for a relative path, otherwise one slash, or the two slashes the path began with. -/
  anchor : Text
  /-- The names along the path. -/
  names : List Text
  deriving DecidableEq, Repr

namespace Path

/-- The name of the directory one is in. -/
def here : Text := ['.']

/-- The name of the directory above. -/
def above : Text := ['.', '.']

/-- The anchor that a text of a path starts with. -/
def anchorOf (text : Text) : Text :=
  match (text.takeWhile (· == '/')).length with
  | 0 => []
  | 2 => ['/', '/']
  | _ => ['/']

/-- The path that a text spells. -/
def ofText (text : Text) : Path :=
  ⟨anchorOf text,
    (text.splitAtChar '/').filter fun name => !name.isEmpty && name != here⟩

instance : Coe Text Path := ⟨ofText⟩

/-- The text of a path. -/
def toText (path : Path) : Text :=
  if path.anchor.isEmpty && path.names.isEmpty then here
  else path.anchor ++ Text.joinWith ['/'] path.names

/-- Whether a path starts at the root. -/
def isAbsolute (path : Path) : Bool :=
  !path.anchor.isEmpty

/-- The path reached from `base` by `path`. -/
def join (base path : Path) : Path :=
  if path.isAbsolute then path else ⟨base.anchor, base.names ++ path.names⟩

/-- The directory a path lies in. -/
def parent (path : Path) : Path :=
  ⟨path.anchor, path.names.dropLast⟩

/-- The last name of a path. -/
def name (path : Path) : Text :=
  path.names.getLast?.getD []

/-- The ending of the last name from its last dot on; a dot that opens or closes the name does not
count. -/
def suffix (path : Path) : Text :=
  match path.name.lastIndexOf? '.' with
  | none => []
  | some i => if 0 < i && i + 1 < path.name.length then path.name.drop i else []

/-- One name more on a collapsed way, given last name first. -/
def collapseStep (anchored : Bool) (way : List Text) (name : Text) : List Text :=
  if name != above then name :: way
  else
    match way with
    | [] => if anchored then [] else [name]
    | last :: rest => if last == above then name :: way else rest

/-- The path with every double dot carried out by dropping the name before it. -/
def collapse (path : Path) : Path :=
  ⟨path.anchor, (path.names.foldl (collapseStep path.isAbsolute) []).reverse⟩

/-- The collapsed path that a path names when one is in the directory `here`. -/
def absolute (directory path : Path) : Path :=
  (directory.join path).collapse

/-- The names of a path below a directory. -/
def below? (directory path : Path) : Option (List Text) :=
  if path.anchor == directory.anchor && directory.names.isPrefixOf path.names then
    some (path.names.drop directory.names.length)
  else none

end Path

end BlitzLens
