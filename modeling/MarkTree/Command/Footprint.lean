import MarkTree.Command.Line
import MarkTree.Config.Discovery

namespace MarkTree.Command

open MarkTree.Files

/-- The locations on the way to a path, double dots followed by the names alone. -/
def pathFootprint (here : Location) (path : Path) : List Location :=
  (List.range (path.names.length + 1)).map fun count =>
    Path.climb (path.start here) (path.names.take count)

/-- The locations of configuration files for a directory. -/
def configFootprint (here home : Location) : List Location :=
  let own := home :: Config.fileNames.map fun name => home ++ [name]
  here.ancestors.flatMap (fun directory =>
    directory :: (Config.projectName :: Config.fileNames).map fun name => directory ++ [name]) ++ own

/-- The texts among arguments that name a file. -/
def namedFiles (arguments : Arguments) : List String :=
  ["input", "out", "config", "log_file"].filterMap fun name =>
    match arguments.get name with
    | .str text => some text
    | _ => none

/-- Every location that a session may look at, known from its arguments and the environment before it
    starts, given the path that the environment names. A file tree that agrees with the world there is as
    good as the whole world. -/
def footprint (here home : Location) (named : Option String) (arguments : List String) :
    List Location :=
  match mainLine.read arguments with
  | .parsed arguments =>
    let paths := (namedFiles arguments ++ named.toList).map Path.ofText
    (configFootprint here home ++ paths.flatMap (pathFootprint here)).eraseDups
  | .help | .refused _ => []

end MarkTree.Command
