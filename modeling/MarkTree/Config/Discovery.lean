import MarkTree.Config.Decoding

namespace MarkTree.Config

open MarkTree.Files

/-- The names of configuration files, the preferred one first. -/
def fileNames : List String :=
  [".mdnorm.toml", ".mdnorm.yaml", ".mdnorm.yml", ".mdnorm.json"]

/-- The name of project files. -/
def projectName : String := "pyproject.toml"

def isFile (surroundings : Surroundings) (path : Path) : Except Failure Bool :=
  match surroundings.files.isFile surroundings.here path with
  | .ok found => .ok found
  | .error error => .error (.file error)

/-- The first of the named files that a directory holds. -/
def firstFile? (surroundings : Surroundings) (directory : Location) :
    List String → Except Failure (Option Location)
  | [] => .ok none
  | name :: rest => do
    if ← isFile surroundings (.ofLocation (directory ++ [name])) then
      return some (directory ++ [name])
    else firstFile? surroundings directory rest

/-- The project file has a table for this program that is not empty. A file that cannot be read or
    decoded has none. -/
def hasProjectTable (surroundings : Surroundings) (location : Location) : Except Failure Bool :=
  match projectTable surroundings (.ofLocation location) with
  | .ok table => .ok (!table.isEmpty)
  | .error (.reported _) => .ok false
  | .error failure => .error failure

/-- The configuration file of one directory. -/
def inDirectory? (surroundings : Surroundings) (directory : Location) :
    Except Failure (Option Location) := do
  match ← firstFile? surroundings directory fileNames with
  | some found => return some found
  | none =>
    let project := directory ++ [projectName]
    if ← isFile surroundings (.ofLocation project) then
      if ← hasProjectTable surroundings project then return some project else return none
    else return none

/-- The configuration file of the first directory that has one. -/
def nearest? (surroundings : Surroundings) : List Location → Except Failure (Option Location)
  | [] => .ok none
  | directory :: rest => do
    match ← inDirectory? surroundings directory with
    | some found => return some found
    | none => nearest? surroundings rest

/-- The configuration file that applies to a directory. The nearest directory upwards that holds one wins,
    and the home directory comes last. A project file counts only if it has a table for this program; one
    that is broken belongs to someone else. -/
def discover (surroundings : Surroundings) (start : Location) : Except Failure (Option Location) := do
  match ← nearest? surroundings start.ancestors with
  | some found => return some found
  | none => firstFile? surroundings surroundings.home fileNames

/-- The configuration file that applies to the directory that a path names. -/
def discoverFrom (surroundings : Surroundings) (path : Path) : Except Failure (Option Location) :=
  if path.names.all isPathText then discover surroundings (path.locate surroundings.here)
  else .error .impossiblePath

/-- The report about a configuration file that is not there. -/
def missingFile (path : Path) : Failure :=
  configReport ("Configuration file does not exist: " ++ path.text) path none

/-- The report about a configuration file in none of the formats. -/
def unsupportedFormat (path : Path) : Failure :=
  let shown := if path.suffix = "" then path.name else path.suffix
  configReport
    ("Unsupported config file format: " ++ shown ++ ". Use .json, .toml or .yaml") path none

def load (surroundings : Surroundings) (path : Path) : Except Failure Entries := do
  if ← isFile surroundings path then
    if Text.lower path.name.toList == projectName.toList then projectTable surroundings path
    else
      match Format.ofSuffix? path.suffix with
      | none => .error (unsupportedFormat path)
      | some format => do
        let value ← readValue surroundings format path
        requireEntries value "Configuration root" path
  else .error (missingFile path)

end MarkTree.Config
