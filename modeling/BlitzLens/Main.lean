import BlitzLens.CommandLine.Run

/-!
# The program

Reads the command line, carries out what it asks for on the files around it, and prints what is left
behind. The files below the current directory and around the paths on the command line are read
first; hidden directories are left out.
-/

namespace BlitzLens.Program

/-- How to call the program. -/
def usage : String :=
  "usage: bbls [-h] [--root ROOT] [-v] COMMAND ...\n" ++
  "  symbols FILE\n  hover FILE LINE COLUMN\n  definition FILE LINE COLUMN\n" ++
  "  complete FILE LINE COLUMN [--trigger TRIGGER]\n  signature FILE LINE COLUMN\n" ++
  "  tokens FILE [--encode]\n  outline FILE\n  todos FILE\n" ++
  "  index DIRECTORY [--out OUT]\n  verify FILE"

/-- The levels of directories that are read. -/
def deepest : Nat := 8

/-- The size of the largest file that is read, in bytes. -/
def largest : Nat := 16777216

/-- The nodes at and below a directory, as many levels deep as given. What cannot be read, and what
is too large, is left out. -/
def nodesBelow : Nat → Text → IO (List (Route × Node))
  | 0, _ => return []
  | depth + 1, directory => do
    let entries ← try (← IO.FS.realPath (String.ofList directory)).readDir catch _ => pure #[]
    let mut nodes := []
    for entry in entries do
      let path := Path.join (Path.ofText directory) ⟨[], [entry.fileName.toList]⟩
      try
        let about ← entry.path.symlinkMetadata
        match about.type with
        | .dir =>
          nodes := (path.names, .directory) :: nodes
          if !entry.fileName.startsWith "." then
            nodes := (← nodesBelow depth path.toText) ++ nodes
        | .symlink =>
          let target ← IO.FS.realPath entry.path
          nodes := (path.names, .link target.toString) :: nodes
        | .file =>
          if about.byteSize.toNat ≤ largest then
            let bytes ← IO.FS.readBinFile entry.path
            nodes := (path.names, .file bytes.toList 0) :: nodes
        | .other => pure ()
      catch _ => pure ()
    return nodes

/-- The paths that a command names. -/
def pathsOf : CommandLine.Command → List Text
  | .symbols file => [file]
  | .hover file _ => [file]
  | .definition file _ => [file]
  | .complete file _ _ => [file]
  | .signature file _ => [file]
  | .tokens file _ => [file]
  | .outline file => [file]
  | .todos file => [file]
  | .index directory out => directory :: out.toList
  | .verify file => [file]

/-- The directories around the paths of a request, without those that lie in others of them. -/
def directoriesOf (here home : Path) (request : CommandLine.Request) : List Path :=
  let bare : FileTree := ⟨[], here, home⟩
  let around := fun (path : Text) =>
    match bare.expandHome (Path.ofText path) with
    | .ok path => [(here.join path).collapse, (here.join path).collapse.parent]
    | .error _ => []
  let all := (here :: (request.roots ++ pathsOf request.command).flatMap around).eraseDups
  all.filter fun path => !all.any fun other => other != path && (Path.below? other path).isSome

/-- The files that a request may need. -/
def readTree (request : CommandLine.Request) : IO FileTree := do
  let here := Path.ofText (← IO.currentDir).toString
  let home := Path.ofText ((← IO.getEnv "HOME").getD "/")
  let directories := directoriesOf here home request
  let found ← directories.mapM fun directory => nodesBelow deepest directory.toText
  let empty : FileTree := ⟨[], here, home⟩
  let tree := (directories.zip found).foldl (fun tree (directory, nodes) =>
    if nodes.isEmpty then tree else tree.makeDirectories directory.names) empty
  return { tree with nodes := tree.nodes ++ found.flatten }

/-- Prints what a request leaves behind. -/
def leave (outcome : CommandLine.Outcome) : IO UInt32 := do
  for notice in outcome.notices do
    IO.eprintln (String.ofList notice)
  if let some (path, text) := outcome.written then
    IO.FS.writeFile (String.ofList path) (String.ofList text)
  IO.print (String.ofList outcome.output)
  return outcome.exitCode.toUInt32

end BlitzLens.Program

open BlitzLens in
/-- Runs the program. -/
def main (arguments : List String) : IO UInt32 := do
  match CommandLine.Request.read (arguments.map String.toList) with
  | .error .help =>
    IO.println Program.usage
    return 0
  | .error .misuse =>
    IO.eprintln Program.usage
    return 2
  | .ok request =>
    match CommandLine.run (← Program.readTree request) request with
    | .ok outcome => Program.leave outcome
    | .error failure =>
      IO.eprintln (String.ofList failure.message)
      return 1
