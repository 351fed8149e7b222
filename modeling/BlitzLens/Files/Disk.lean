import BlitzLens.Files.Path
import BlitzLens.Text.Encoding
import BlitzLens.Text.Quoted

/-!
# Disks

What the rest of the library may ask of files: the bytes and the stamp of a path, each of which may
fail with an error that names the path.
-/

namespace BlitzLens

/-- Why a path cannot be read. -/
inductive FileFault where
  /-- Nothing is there. -/
  | notFound
  /-- A file stands where a directory is needed. -/
  | notDirectory
  /-- A directory stands where a file is needed. -/
  | isDirectory
  /-- A name or the whole path is too long. -/
  | nameTooLong
  /-- Symbolic links lead around in a circle, or too far. -/
  | tooManyLinks
  deriving DecidableEq, Repr

namespace FileFault

/-- The number of a fault. -/
def number : FileFault → Int
  | .notFound => 2
  | .notDirectory => 20
  | .isDirectory => 21
  | .nameTooLong => 36
  | .tooManyLinks => 40

/-- The wording of a fault. -/
def wording : FileFault → Text
  | .notFound => "No such file or directory"
  | .notDirectory => "Not a directory"
  | .isDirectory => "Is a directory"
  | .nameTooLong => "File name too long"
  | .tooManyLinks => "Too many levels of symbolic links"

end FileFault

/-- A path that cannot be read, and why. -/
structure FileError where
  /-- The reason. -/
  fault : FileFault
  /-- The path as it was given. -/
  path : Text
  deriving DecidableEq, Repr

/-- The message of a file error. -/
def FileError.message (error : FileError) : Text :=
  "[Errno " ++ Text.ofInt error.fault.number ++ "] " ++ error.fault.wording ++ ": " ++
    error.path.quoted

/-- What tells two states of a file apart without reading it. -/
structure Stamp where
  /-- The time of the last change, in nanoseconds. -/
  modified : Int
  /-- The number of bytes. -/
  size : Int
  deriving DecidableEq, Repr

/-- A view of the files of a machine at one moment. -/
structure Disk where
  /-- The directory that relative paths start from. -/
  here : Path
  /-- The bytes of a file. -/
  read : Text → Except FileError (List UInt8)
  /-- The stamp of a file or directory. -/
  stat : Text → Except FileError Stamp

namespace Disk

/-- The text of a source file. -/
def readSource (disk : Disk) (path : Text) : Except FileError Text :=
  (disk.read path).map Encoding.decodeSource

/-- The identity of the file that a path names, without following links. -/
def identity (disk : Disk) (path : Text) : Text :=
  (Path.absolute disk.here path).toText

end Disk

end BlitzLens
