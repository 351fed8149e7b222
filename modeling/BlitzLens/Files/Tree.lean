import BlitzLens.Files.Disk

/-!
# File trees

A file tree maps absolute paths to files, directories and symbolic links. It is the concrete disk:
paths are walked name by name, links are followed up to a limit, and the faults met on the way are
those of `FileFault`.
-/

namespace BlitzLens

/-- What stands at a path. -/
inductive Node where
  /-- A file with its bytes and the time of its last change. -/
  | file (bytes : List UInt8) (modified : Int)
  /-- A directory. -/
  | directory
  /-- A symbolic link with the text of its target. -/
  | link (target : Text)
  deriving DecidableEq, Repr

/-- The names from the root to a node. -/
abbrev Route := List Text

/-- The files of a machine. -/
structure FileTree where
  /-- What stands at each route. The root is a directory that is not listed. -/
  nodes : List (Route × Node)
  /-- The directory that relative paths start from. -/
  here : Path
  /-- The directory that a leading tilde stands for. -/
  home : Path

namespace FileTree

/-- The longest name a directory can hold, in bytes. -/
def longestName : Nat := 255

/-- The longest path that can be opened, in bytes. -/
def longestPath : Nat := 4095

/-- The number of links that may be followed on the way to one file. -/
def mostLinks : Nat := 40

/-- The node at a route. -/
def node? (tree : FileTree) (route : Route) : Option Node :=
  if route.isEmpty then some .directory else tree.nodes.lookup route

/-- The names in a directory, in the order in which they were made. -/
def children (tree : FileTree) (route : Route) : List Text :=
  tree.nodes.filterMap fun (other, _) =>
    if !other.isEmpty && other.dropLast == route then other.getLast? else none

/-- The node that is reached from `route` along `names`, and its route. Links on the way are
followed, at most `links` of them; the last name is followed if `follow` says so. -/
def walk (tree : FileTree) (follow : Bool) (links : Nat) (route : Route) (names : List Text) :
    Except FileFault (Route × Node) :=
  match names with
  | [] =>
    match tree.node? route with
    | some node => .ok (route, node)
    | none => .error .notFound
  | name :: names =>
    match tree.node? route with
    | none => .error .notFound
    | some (.file ..) => .error .notDirectory
    | some (.link _) => .error .notDirectory
    | some .directory =>
      if name == Path.above then walk tree follow links route.dropLast names
      else if (Encoding.encodeUtf8 name).length > longestName then .error .nameTooLong
      else
        match tree.node? (route ++ [name]) with
        | some (.link target) =>
          if names.isEmpty && !follow then .ok (route ++ [name], .link target)
          else
            match links with
            | 0 => .error .tooManyLinks
            | links + 1 =>
              let path := Path.ofText target
              walk tree follow links (if path.isAbsolute then [] else route) (path.names ++ names)
        | _ => walk tree follow links (route ++ [name]) names
termination_by (links, names.length)

/-- The node that a path names. -/
def find (tree : FileTree) (follow : Bool) (path : Text) : Except FileFault (Route × Node) :=
  if (Encoding.encodeUtf8 path).length > longestPath then .error .nameTooLong
  else tree.walk follow mostLinks [] (tree.here.join path).names

/-- The bytes of the file that a path names. -/
def read (tree : FileTree) (path : Text) : Except FileError (List UInt8) :=
  match tree.find true path with
  | .ok (_, .file bytes _) => .ok bytes
  | .ok _ => .error ⟨.isDirectory, path⟩
  | .error fault => .error ⟨fault, path⟩

/-- The stamp of the file or directory that a path names. A directory has one fixed stamp that no
file has. -/
def stat (tree : FileTree) (path : Text) : Except FileError Stamp :=
  match tree.find true path with
  | .ok (_, .file bytes modified) => .ok ⟨modified, bytes.length⟩
  | .ok _ => .ok ⟨0, -2⟩
  | .error fault => .error ⟨fault, path⟩

/-- The disk that a tree is. -/
def disk (tree : FileTree) : Disk :=
  ⟨tree.here, tree.read, tree.stat⟩

/-- Whether a question about a path that cannot be reached is answered by no rather than by the
fault. -/
def isAbsence (fault : FileFault) : Bool :=
  fault != .nameTooLong

/-- Whether a path names a file. -/
def isFile (tree : FileTree) (path : Text) : Except FileError Bool :=
  match tree.find true path with
  | .ok (_, .file ..) => .ok true
  | .ok _ => .ok false
  | .error fault => if isAbsence fault then .ok false else .error ⟨fault, path⟩

/-- Whether a path names a directory. -/
def isDirectory (tree : FileTree) (path : Text) : Except FileError Bool :=
  match tree.find true path with
  | .ok (_, .directory) => .ok true
  | .ok _ => .ok false
  | .error fault => if isAbsence fault then .ok false else .error ⟨fault, path⟩

/-- The names in the directory that a path names. -/
def list (tree : FileTree) (path : Text) : List Text :=
  match tree.find true path with
  | .ok (route, .directory) => tree.children route
  | _ => []

/-- The route that `names` lead to from `route` when every link is replaced by its target, and
whether no circle of links was met; names behind a circle, or behind nothing, are kept as they
are. The links in `active` are being replaced, of which there are at most `fuel` more. -/
def realRoute (tree : FileTree) (fuel : Nat) (active : List Route) (route : Route)
    (names : List Text) : Route × Bool :=
  match names with
  | [] => (route, true)
  | name :: names =>
    if name == Path.above then realRoute tree fuel active route.dropLast names
    else
      let next := route ++ [name]
      match tree.node? next with
      | some (.link target) =>
        if active.contains next then (next ++ names, false)
        else
          match fuel with
          | 0 => (next ++ names, false)
          | fuel + 1 =>
            let path := Path.ofText target
            let start := if path.isAbsolute then [] else route
            match realRoute tree fuel (next :: active) start path.names with
            | (reached, true) => realRoute tree (fuel + 1) active reached names
            | (reached, false) => (reached ++ names, false)
      | _ => realRoute tree fuel active next names
termination_by (fuel, names.length)

/-- Why a path has no real form. -/
inductive ResolveError where
  /-- The path leads into a circle of links. -/
  | circle (path : Text)
  /-- The tilde of the path names an unknown person. -/
  | unknownHome (path : Text)
  deriving DecidableEq, Repr

/-- The absolute path that a path stands for when every link is replaced by its target. -/
def resolve (tree : FileTree) (path : Path) : Except ResolveError Path :=
  let (route, _) := tree.realRoute tree.nodes.length [] [] (tree.here.join path).names
  let real : Path := (⟨['/'], route⟩ : Path).collapse
  match tree.find true real.toText with
  | .error .tooManyLinks => .error (.circle path.toText)
  | _ => .ok real

/-- The path with a leading tilde replaced by the home directory. -/
def expandHome (tree : FileTree) (path : Path) : Except ResolveError Path :=
  if path.isAbsolute then .ok path
  else
    match path.names with
    | [] => .ok path
    | first :: names =>
      if first == ['~'] then .ok (tree.home.join ⟨[], names⟩)
      else if first.head? == some '~' then .error (.unknownHome path.toText)
      else .ok path

/-- The tree with `node` at a route. -/
def put (tree : FileTree) (route : Route) (node : Node) : FileTree :=
  if (tree.nodes.lookup route).isSome then
    { tree with
      nodes := tree.nodes.map fun (other, old) => (other, if other == route then node else old) }
  else { tree with nodes := tree.nodes ++ [(route, node)] }

/-- The route of the file that is written when a path is opened for writing: an existing file, or a
new one in an existing directory. -/
def writable (tree : FileTree) (path : Text) : Except FileError Route :=
  match tree.find true path with
  | .ok (route, .file ..) => .ok route
  | .ok _ => .error ⟨.isDirectory, path⟩
  | .error .notFound =>
    let whole := tree.here.join (Path.ofText path)
    match tree.find true whole.parent.toText with
    | .ok (route, .directory) => .ok (route ++ [whole.name])
    | .ok _ => .error ⟨.notDirectory, path⟩
    | .error fault => .error ⟨fault, path⟩
  | .error fault => .error ⟨fault, path⟩

/-- The tree with a directory at a route and at every route above it, where nothing stands. -/
def makeDirectories (tree : FileTree) (route : Route) : FileTree :=
  (List.range route.length).foldl (fun tree i =>
    let route := route.take (i + 1)
    if (tree.node? route).isSome then tree else tree.put route .directory) tree

/-- The tree with `node` at a path; the directories above it are made, and links on the way to it
are followed. A file is written through a link that stands at the path. -/
def place (tree : FileTree) (path : Text) (node : Node) : FileTree :=
  let whole := tree.here.join path
  let parent := (tree.realRoute tree.nodes.length [] [] whole.parent.names).1
  let tree := tree.makeDirectories parent
  let route := parent ++ [whole.name]
  match node, tree.node? route with
  | .file .., some (.link _) =>
    tree.put (tree.realRoute tree.nodes.length [] [] route).1 node
  | .directory, _ => tree.makeDirectories route
  | _, _ => tree.put route node

/-- The tree without the file or link at a path. -/
def remove (tree : FileTree) (path : Text) : FileTree :=
  match tree.find false path with
  | .ok (route, _) => { tree with nodes := tree.nodes.filter fun (other, _) => other != route }
  | .error _ => tree

end FileTree

end BlitzLens
