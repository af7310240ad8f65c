import MarkTree.Files.Path
import MarkTree.Text.Line
import MarkTree.Text.Quoted

namespace MarkTree.Files

inductive Content where
  | text (content : String)
  /-- Bytes that are no text. -/
  | binary
deriving DecidableEq, Repr

/-- Why a file cannot be used. -/
inductive FileError where
  | notFound
  | notDirectory
  | isDirectory
  | nameTooLong
  /-- Any other answer of the system, with its number: that the permission is missing, say. -/
  | system (number : Nat) (reason : String)
deriving DecidableEq, Repr

namespace FileError

def number : FileError → Nat
  | .notFound => 2
  | .notDirectory => 20
  | .isDirectory => 21
  | .nameTooLong => 36
  | .system number _ => number

def reason : FileError → String
  | .notFound => "No such file or directory"
  | .notDirectory => "Not a directory"
  | .isDirectory => "Is a directory"
  | .nameTooLong => "File name too long"
  | .system _ reason => reason

/-- The numbers that say no more than that there is nothing: no such file, a bad descriptor, a way
    through what is no directory, and a circle of links. -/
def absenceNumbers : List Nat :=
  [2, 9, 20, 40]

/-- The answer says that there is nothing. Any other one leaves open what is there. -/
def isAbsence (error : FileError) : Bool :=
  absenceNumbers.contains error.number

/-- The message about the path of this text. -/
def message (error : FileError) (path : String) : String :=
  "[Errno " ++ toString error.number ++ "] " ++ error.reason ++ ": " ++ Text.quoted path

end FileError

/-- A tree of files and directories. Every file stands in its directories, whether they are listed or
    not. -/
structure FileTree where
  directories : List Location
  files : List (Location × Content)
  /-- Places that can be read and written like files, but hold nothing. -/
  voids : List Location := []
  /-- Places that are closed, with what the system says: names in a directory cannot be looked up, and a
      file cannot be opened. -/
  closed : List (Location × FileError) := []
deriving DecidableEq, Repr

namespace FileTree

def find? (tree : FileTree) (location : Location) : Option Content :=
  tree.files.lookup location

def isFileAt (tree : FileTree) (location : Location) : Bool :=
  (tree.find? location).isSome

/-- The top, a listed directory, or a place above one or above a file. -/
def isDirectoryAt (tree : FileTree) (location : Location) : Bool :=
  location.isEmpty || tree.directories.any location.isPrefixOf ||
    tree.files.any fun (file, _) => location.isPrefixOf file && location != file

/-- No name is longer than this many bytes. -/
def longestName : Nat := 255

/-- Follows names from a location. The last one may lead to something that is not there. -/
def follow (tree : FileTree) (here : Location) : List String → Except FileError Location
  | [] => .ok here
  | name :: rest =>
    if tree.isDirectoryAt here then
      match tree.closed.lookup here with
      | some error => .error error
      | none =>
        if name = ".." then tree.follow here.dropLast rest
        else if longestName < name.utf8ByteSize then .error .nameTooLong
        else tree.follow (here ++ [name]) rest
    else if tree.isFileAt here || tree.voids.contains here then .error .notDirectory
    else .error .notFound

/-- The location that a path leads to from another location. A path that is too long leads nowhere,
    wherever it would lead. -/
def reach (tree : FileTree) (here : Location) (path : Path) : Except FileError Location :=
  if path.isTooLong then .error .nameTooLong else tree.follow (path.start here) path.names

/-- The path leads to a file. A path that leads to nothing does not, but it is an error if that cannot be
    told, as for a path or name that is too long and for a way through a closed directory. -/
def isFile (tree : FileTree) (here : Location) (path : Path) : Except FileError Bool :=
  match tree.reach here path with
  | .ok location => .ok (tree.isFileAt location)
  | .error error => if error.isAbsence then .ok false else .error error

/-- Opens a file for reading: its location and content. -/
def read (tree : FileTree) (here : Location) (path : Path) : Except FileError Content := do
  let location ← tree.reach here path
  match tree.find? location with
  | some content =>
    match tree.closed.lookup location with
    | some error => .error error
    | none => .ok content
  | none =>
    if tree.voids.contains location then .ok (.text "")
    else .error (if tree.isDirectoryAt location then .isDirectory else .notFound)

/-- The location of a file that can be written, whether it exists or not. The directory that it is in
    exists, as the path leads through it. -/
def writable (tree : FileTree) (here : Location) (path : Path) : Except FileError Location := do
  let location ← tree.reach here path
  if tree.isDirectoryAt location then .error .isDirectory
  else
    match tree.closed.lookup location with
    | some error => .error error
    | none => .ok location

/-- Puts a file at a location, in place of the one that is there. -/
def put (tree : FileTree) (location : Location) (content : Content) : FileTree :=
  if tree.voids.contains location then tree
  else
    { tree with
      files := (location, content) :: tree.files.filter fun (file, _) => file != location }

/-- Adds a text at the end of the file at a location, which is made if need be. -/
def append (tree : FileTree) (location : Location) (addition : String) : FileTree :=
  match tree.find? location with
  | none => tree.put location (.text addition)
  | some (.text content) => tree.put location (.text (content ++ addition))
  | some .binary => tree

end FileTree

end MarkTree.Files
