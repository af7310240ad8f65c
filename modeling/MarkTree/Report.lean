import MarkTree.Datum.Basic
import MarkTree.Files.Tree
import MarkTree.Packages.Requirement
import MarkTree.Text.Quoted
import MarkTree.Tree.Wire

namespace MarkTree

/-- What a report goes back to. -/
inductive Cause where
  /-- The Markdown parser gave up. -/
  | parser
  /-- A module could not be imported; with what was said about it. -/
  | absentModule (message : String)
  | badToml
  | badYaml
  | badJson
  /-- A file could not be read. -/
  | file (error : Files.FileError)
deriving DecidableEq, Repr

/-- What a report is about. -/
inductive Detail where
  | general
  | invalidValue (parameter : Option String) (value : Datum)
  /-- Options of the wrong kind were passed to a parser. -/
  | wrongOptions (received : String)
  | config (path : Option String)
  | parsing (stage : Option String)
  | dependency (component : String) (missing : List (String × String))
      (mismatches : List Packages.Mismatch) (command : String)
deriving DecidableEq

/-- What the library says when it cannot do a job: a message for people, details for programs, and what
    caused it. -/
structure Report where
  message : String
  detail : Detail
  cause : Option Cause
deriving DecidableEq

namespace Report

/-- The report about options of the wrong kind. -/
def wrongOptions (parser expected received : String) : Report :=
  { message :=
      "The " ++ parser ++ " parser takes " ++ expected ++ ", got " ++ received ++ " instead."
    detail := .wrongOptions received
    cause := none }

/-- The report about names that are no options, which are given in order; the value is that of the
    first one. -/
def unknownOptions (optionsName : String) (names : List String) (value : Datum) : Report :=
  { message := "Unknown option(s) for " ++ optionsName ++ ": " ++ ", ".intercalate names
    detail := .invalidValue names.head? value
    cause := none }

/-- The report about a parser that gave up. -/
def parserFailed (message : String) : Report :=
  { message := "Failed to parse Markdown: " ++ message
    detail := .parsing (some "markdown_parsing")
    cause := some .parser }

/-- A package with the versions wanted. -/
def wantedPackage : String × String → String
  | (package, specifier) => package ++ specifier

/-- The packages to bring up to date, missing ones first. -/
def packagesToUpgrade (missing : List (String × String)) (mismatches : List Packages.Mismatch) :
    List (String × String) :=
  missing ++ mismatches.map fun found => (found.package, found.specifier)

def missingLine (component : String) (missing : List (String × String)) : List String :=
  if missing.isEmpty then []
  else
    ["The " ++ component ++ " needs packages that are not installed: " ++
      ", ".intercalate (missing.map wantedPackage)]

def mismatchLine (component : String) (found : Packages.Mismatch) : String :=
  "The " ++ component ++ " needs " ++ found.package ++ found.specifier ++ ", but " ++
    found.installed ++ " is installed"

/-- The report about packages that are missing or do not fit. An empty command is replaced by one that
    brings them up to date. -/
def dependency (component : String) (missing : List (String × String))
    (mismatches : List Packages.Mismatch) (command : String) (cause : Option Cause) : Report :=
  let command :=
    if command = "" then Packages.upgradeCommand (packagesToUpgrade missing mismatches) else command
  let hint := if command = "" then [] else ["Install with: " ++ command]
  { message :=
      "\n".intercalate
        (missingLine component missing ++ mismatches.map (mismatchLine component) ++ hint)
    detail := .dependency component missing mismatches command
    cause }

def unmetRequirements (component : String) (unmet : Packages.Unmet) : Report :=
  dependency component unmet.missing unmet.mismatches ""
    (unmet.importError.map .absentModule)

end Report

/-- Why a job was not done. -/
inductive Failure where
  | reported (report : Report)
  | fault (fault : Fault)
  /-- The packages could not be checked. -/
  | packages (breakdown : Packages.Breakdown)
  | wire (error : WireError)
  /-- A name is no parameter, or is given twice. -/
  | unknownParameter
  /-- A file holds bytes that are no text. -/
  | undecodable
  /-- A decoder failed for a reason of its own. -/
  | decoder (kindName : String)
  /-- A file cannot be used, and nobody has asked to be told why. -/
  | file (error : Files.FileError)
  /-- A path that no file can have. -/
  | impossiblePath
deriving DecidableEq

namespace Failure

/-- What a failure says to people. -/
def message : Failure → String
  | .reported report => report.message
  | .fault _ => "A value of the wrong kind was met."
  | .packages breakdown => "The packages cannot be checked: " ++ breakdown.kindName
  | .wire error => error.message?.getD "The JSON cannot be read."
  | .unknownParameter => "A name is no parameter, or is given twice."
  | .undecodable => "A file holds bytes that are no text."
  | .decoder kindName => "A decoder failed: " ++ kindName
  | .file error => error.reason
  | .impossiblePath => "No file can have a path with a null character."

def ofFault {α : Type} : Except Fault α → Except Failure α
  | .ok value => .ok value
  | .error found => .error (.fault found)

def ofBreakdown {α : Type} : Except Packages.Breakdown α → Except Failure α
  | .ok value => .ok value
  | .error breakdown => .error (.packages breakdown)

def ofWire {α : Type} : Except WireError α → Except Failure α
  | .ok value => .ok value
  | .error error => .error (.wire error)

end Failure

namespace Packages

/-- Runs a job only in an environment that meets its requirements. -/
def require (environment : Environment) (component : String) (requirements : List Requirement) :
    Except Failure Unit := do
  let unmet ← Failure.ofBreakdown (findUnmet environment requirements)
  if unmet.isAny then .error (.reported (.unmetRequirements component unmet)) else .ok ()

end Packages

end MarkTree
