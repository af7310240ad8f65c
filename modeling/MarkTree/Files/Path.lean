import MarkTree.Text.Blank
import MarkTree.Text.Search

namespace MarkTree.Files

open MarkTree.Text

/-- The names on the way from the top of the file tree, without any dots. -/
abbrev Location := List String

def Location.text (location : Location) : String :=
  "/" ++ "/".intercalate location

/-- A path keeps its names without those that say nothing, empty ones and single dots; a double dot stays
    until the path is looked up. -/
structure Path where
  /-- The slashes in front: none, one, or exactly two. -/
  top : String
  names : List String
deriving DecidableEq, Repr

/-- A text without any null character, as paths are. -/
def isPathText (text : String) : Bool :=
  !text.toList.contains '\x00'

namespace Path

/-- No text of a path is longer than this many bytes. -/
def longestPath : Nat := 4095

/-- The slashes that a text starts with, more than two counting as one. -/
def topOf : List Char → String
  | '/' :: '/' :: '/' :: _ => "/"
  | '/' :: '/' :: _ => "//"
  | '/' :: _ => "/"
  | _ => ""

/-- The path that a text stands for. -/
def ofText (text : String) : Path :=
  let names := (splitAt '/' text.toList).map String.ofList
  { top := topOf text.toList, names := names.filter fun name => name != "" && name != "." }

def ofLocation (location : Location) : Path :=
  { top := "/", names := location }

/-- The text of a path; a single dot if nothing else is left. -/
def text (path : Path) : String :=
  if path.top = "" && path.names.isEmpty then "." else path.top ++ "/".intercalate path.names

/-- The text of the path is longer than any path may be. -/
def isTooLong (path : Path) : Bool :=
  longestPath < path.text.utf8ByteSize

def isAbsolute (path : Path) : Bool :=
  path.top != ""

def name (path : Path) : String :=
  path.names.getLast?.getD ""

/-- The last point of a name with what follows it, unless nothing is before or behind the point. -/
def suffixOf (name : List Char) : List Char :=
  let ending := (name.reverse.takeWhile (· != '.')).reverse
  let before := name.length - ending.length
  if ending.isEmpty || before ≤ 1 then [] else '.' :: ending

/-- The ending of the last name, with its point. -/
def suffix (path : Path) : String :=
  String.ofList (suffixOf path.name.toList)

/-- The names to follow from a location: the path itself, or the path from the top. -/
def start (path : Path) (here : Location) : Location :=
  if path.isAbsolute then [] else here

/-- Follows double dots by the names alone, whatever is at them. -/
def climb (here : Location) : List String → Location
  | [] => here
  | name :: rest => climb (if name = ".." then here.dropLast else here ++ [name]) rest

/-- The location that a path names, seen from another location. -/
def locate (path : Path) (here : Location) : Location :=
  climb (path.start here) path.names

end Path

/-- A location and those above it, nearest first. -/
def Location.ancestors (location : Location) : List Location :=
  (List.range (location.length + 1)).reverse.map fun count => location.take count

end MarkTree.Files
