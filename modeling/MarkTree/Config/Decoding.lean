import MarkTree.Datum.Entries
import MarkTree.Json.Reader
import MarkTree.Report
import MarkTree.Text.Lowercase

namespace MarkTree.Config

open MarkTree.Files

/-- What a decoder makes of a file. The decoders of the three formats are not part of the library; what
    one of them makes of a file is given. -/
inductive Decoded where
  | value (value : Datum)
  /-- The file is not in the format. -/
  | malformed (cause : Cause) (message : String)
  | unreadable (error : FileError)
  /-- The decoder fails in another way. -/
  | broken (kindName : String)
deriving DecidableEq

/-- Where configuration files are looked for, and what they hold. -/
structure Surroundings where
  files : FileTree
  /-- The location that paths are seen from. -/
  here : Location
  home : Location
  decode : Location → Decoded

inductive Format where
  | toml
  | yaml
  | json
deriving DecidableEq, Repr

namespace Format

/-- The format that a file ending stands for. -/
def ofSuffix? (suffix : String) : Option Format :=
  match String.ofList (Text.lower suffix.toList) with
  | ".toml" => some .toml
  | ".yaml" => some .yaml
  | ".yml" => some .yaml
  | ".json" => some .json
  | _ => none

/-- What a decoded value says in a format. A document that says nothing true is an empty configuration
    in YAML. -/
def meaning (format : Format) (value : Datum) : Datum :=
  match format with
  | .yaml => if value.truthy then value else .dict []
  | .toml | .json => value

end Format

/-- What is made of a file without any decoder but that of JSON. -/
def decodeContent (format : Format) : Option Content → Decoded
  | none => .unreadable .notFound
  | some .binary => .broken "bytes that are no text"
  | some (.text content) =>
    match format with
    | .toml => .malformed .badToml "there is no decoder for TOML"
    | .yaml => .malformed .badYaml "there is no decoder for YAML"
    | .json =>
      match Json.read content with
      | .ok value => .value value
      | .error _ => .malformed .badJson "this is no JSON"

def configReport (message : String) (path : Path) (cause : Option Cause) : Failure :=
  .reported { message, detail := .config (some path.text), cause }

/-- The value of a file in a format. -/
def readValue (surroundings : Surroundings) (format : Format) (path : Path) :
    Except Failure Datum :=
  match surroundings.decode (path.locate surroundings.here) with
  | .value value => .ok (format.meaning value)
  | .malformed cause message =>
    .error (configReport ("Invalid config file " ++ path.text ++ ": " ++ message) path (some cause))
  | .unreadable error =>
    .error (configReport
      ("Could not read config file " ++ path.text ++ ": " ++ error.message path.text) path
      (some (.file error)))
  | .broken kindName => .error (.decoder kindName)

/-- Insists on a dictionary. -/
def requireEntries (value : Datum) (subject : String) (path : Path) : Except Failure Entries :=
  match value with
  | .dict entries => .ok entries
  | value =>
    .error (configReport
      (subject ++ " in " ++ path.text ++ " must be a mapping, got " ++ value.kindName) path none)

/-- The value of a field that is looked up in what has to be a dictionary; an empty dictionary if it is
    absent. -/
def tableIn (name : String) (value : Datum) : Except Failure Datum := do
  let found ← Failure.ofFault (value.field? name)
  return found.getD (.dict [])

/-- The table of a project file that is meant for this program; empty if there is none. -/
def projectTable (surroundings : Surroundings) (path : Path) : Except Failure Entries := do
  let value ← readValue surroundings .toml path
  let tools ← tableIn "tool" value
  let table ← tableIn "mdnorm" tools
  requireEntries table "[tool.mdnorm]" path

end MarkTree.Config
