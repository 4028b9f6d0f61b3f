import GroupSignal.Bytes

/-!
# Files

What the library needs of a file system: the bytes of a file at a path, or why there are none. The
access is a parameter, so a program can be run on any files.

## Main definitions

* `FileError`: why a file cannot be read
* `FileSystem`: access to files
* `FileSystem.ofDirectory`: the files of one directory
-/

namespace GroupSignal

/-- Why a file cannot be read. -/
inductive FileError where
  | notFound
  /-- The path leads through something that is no directory. -/
  | notDirectory
  | isDirectory
  /-- The path, or a name in it, is longer than any that a file can have. -/
  | nameTooLong
  /-- No path contains the null character. -/
  | nullInPath
  /-- The bytes are not UTF-8 where a text is wanted. -/
  | notText
  /-- There is no file at the path, whatever else there may be. -/
  | noFile
  /-- Any other cause, with its wording. -/
  | other (wording : String)
  deriving DecidableEq, Repr

namespace FileError

/-- The wording of a cause. -/
def message : FileError → String
  | notFound => "No such file or directory (os error 2)"
  | notDirectory => "Not a directory (os error 20)"
  | isDirectory => "Is a directory (os error 21)"
  | nameTooLong => "File name too long (os error 36)"
  | nullInPath => "file name contained an unexpected NUL byte"
  | notText => "stream did not contain valid UTF-8"
  | noFile => "no such file"
  | other wording => wording

/-- Whether a cause leaves open that there is a file at the path. -/
def mayBeFile : FileError → Bool
  | other _ => true
  | _ => false

end FileError

/-- Access to files. -/
structure FileSystem (m : Type → Type) where
  read : String → m (Except FileError Bytes)

namespace FileSystem

variable {m : Type → Type} [Monad m]

/-- The text of the file at a path. -/
def readText (files : FileSystem m) (path : String) : m (Except FileError String) := do
  match ← files.read path with
  | .error e => return .error e
  | .ok b => return (Bytes.toText? b).elim (.error .notText) .ok

/-- Whether there is a file at a path. -/
def isFile (files : FileSystem m) (path : String) : m Bool := do
  match ← files.read path with
  | .error e => return e.mayBeFile
  | .ok _ => return true

/-! ## One directory -/

/-- The most bytes of a name. -/
def longestName : Nat := 255

/-- The most bytes of a path. -/
def longestPath : Nat := 4095

/-- Where a path leads. -/
inductive Place where
  /-- To the working directory. -/
  | here
  /-- To a directory above it, where no name is known. -/
  | elsewhere
  /-- To a file with these bytes. -/
  | file (b : Bytes)

/-- The names of a path, with slashes between them. -/
def names (path : String) : List String := (path.toList.splitOn '/').map String.ofList

/-- Goes through the names of a path one by one, so that the first obstacle is the one that is
found. -/
def follow (directory : List (String × Bytes)) : Place → List String → Except FileError Place
  | place, [] => .ok place
  | .file _, _ :: _ => .error .notDirectory
  | place, name :: names =>
    if name = "" ∨ name = "." then follow directory place names
    else if name = ".." then follow directory .elsewhere names
    else if longestName < name.utf8ByteSize then .error .nameTooLong
    else
      match place, directory.lookup name with
      | .here, some b => follow directory (.file b) names
      | _, _ => .error .notFound

/-- Reads a file from the files of the working directory, above and beside which nothing but
directories is known. -/
def readFrom (directory : List (String × Bytes)) (path : String) : Except FileError Bytes :=
  if path.contains '\x00' then .error .nullInPath
  else if path = "" then .error .notFound
  else if longestPath < path.utf8ByteSize then .error .nameTooLong
  else
    let start : Place := if path.startsWith "/" then .elsewhere else .here
    match follow directory start (names path) with
    | .ok (.file b) => .ok b
    | .ok _ => .error .isDirectory
    | .error e => .error e

/-- The files of one directory, which is the working directory. -/
def ofDirectory (directory : List (String × Bytes)) : FileSystem Id where
  read path := pure (readFrom directory path)

end FileSystem

end GroupSignal
