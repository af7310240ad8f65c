import MarkTree.Text.Quoted

namespace MarkTree.Packages

/-- Something asked of the packages around ends in an error that nobody foresees, of a kind with this
    name. -/
structure Breakdown where
  kindName : String
deriving DecidableEq, Repr

/-- What comes of importing a module. -/
inductive Importing where
  | found
  /-- There is no such module, or it wants one that is not there; with what is said about it. -/
  | absent (message : String)
  | breaks (breakdown : Breakdown)
deriving DecidableEq, Repr

/-- The packages around, and the library for their versions: what comes of importing a module, of asking
    for the recorded version of a package, of reading a version specifier, and of comparing a recorded
    version with a specifier that has been read. -/
structure Environment where
  importing : String → Importing
  /-- The recorded version of a package, if it is installed. -/
  recorded : String → Except Breakdown (Option String)
  /-- The text is a version specifier. -/
  understands : String → Except Breakdown Bool
  /-- The specifier asks for versions like this one. -/
  admits : (specifier version : String) → Except Breakdown Bool

namespace Environment

def canImport (environment : Environment) (module : String) : Except Breakdown Bool :=
  match environment.importing module with
  | .found => .ok true
  | .absent _ => .ok false
  | .breaks breakdown => .error breakdown

end Environment

/-- A package as it is installed, the module that it is imported as, and the versions that will do. An
    empty specifier is content with any, even with an unknown one. -/
structure Requirement where
  package : String
  module : String
  specifier : String
deriving DecidableEq, Repr

/-- Whether the installed version of a package meets a specifier, and that version. An empty version
    counts as none, and a specifier that cannot be understood is never met. -/
def checkVersion (environment : Environment) (package specifier : String) :
    Except Breakdown (Bool × Option String) := do
  match ← environment.recorded package with
  | none => return (false, none)
  | some installed =>
    if installed = "" then return (false, none)
    else if ← environment.understands specifier then
      return (← environment.admits specifier installed, some installed)
    else return (false, some installed)

/-- A package whose version does not fit: its name, the versions wanted and the version found. -/
structure Mismatch where
  package : String
  specifier : String
  installed : String
deriving DecidableEq, Repr

/-- What a check of requirements finds. -/
structure Unmet where
  /-- Packages that cannot be imported, with the versions wanted. -/
  missing : List (String × String)
  mismatches : List Mismatch
  /-- What is said about the first module that could not be imported. -/
  importError : Option String
deriving DecidableEq, Repr

namespace Unmet

def none : Unmet :=
  { missing := [], mismatches := [], importError := .none }

/-- Something is missing or does not fit. -/
def isAny (unmet : Unmet) : Bool :=
  !unmet.missing.isEmpty || !unmet.mismatches.isEmpty

end Unmet

/-- The finding about one requirement that can be imported. -/
def mismatch? (environment : Environment) (requirement : Requirement) :
    Except Breakdown (Option Mismatch) :=
  if requirement.specifier = "" then .ok none
  else do
    let (meets, installed) ←
      checkVersion environment requirement.package requirement.specifier
    if meets then return none
    else
      return some
        { package := requirement.package
          specifier := requirement.specifier
          installed := installed.getD "unknown" }

/-- Checks requirements in order, and tells the packages that cannot be imported from those whose version
    does not fit. -/
def findUnmet (environment : Environment) : List Requirement → Except Breakdown Unmet
  | [] => .ok Unmet.none
  | requirement :: rest =>
    match environment.importing requirement.module with
    | .breaks breakdown => .error breakdown
    | .absent message => do
      let unmet ← findUnmet environment rest
      return {
        missing := (requirement.package, requirement.specifier) :: unmet.missing
        mismatches := unmet.mismatches
        importError := some message }
    | .found => do
      let found ← mismatch? environment requirement
      let unmet ← findUnmet environment rest
      return { unmet with mismatches := found.toList ++ unmet.mismatches }

/-- A package for a command line: between quotes if versions are asked for. -/
def quotedPackage : String × String → String
  | (package, specifier) =>
    if specifier = "" then package else "\"" ++ package ++ specifier ++ "\""

/-- The command that installs packages; empty if there are none. -/
def installCommand (packages : List (String × String)) : String :=
  if packages.isEmpty then "" else "pip install " ++ " ".intercalate (packages.map quotedPackage)

/-- The command that brings packages up to date; empty if there are none. -/
def upgradeCommand (packages : List (String × String)) : String :=
  if packages.isEmpty then ""
  else "pip install --upgrade " ++ " ".intercalate (packages.map quotedPackage)

/-- What Markdown parsing needs. -/
def markdownRequirements : List Requirement :=
  [{ package := "mistune", module := "mistune", specifier := ">=3.0.0" }]

/-- The packages to install for Markdown parsing: missing ones, then those of the wrong version. -/
def missingPackages (environment : Environment) : Except Breakdown (List (String × String)) := do
  let unmet ← findUnmet environment markdownRequirements
  return unmet.missing ++ unmet.mismatches.map fun found => (found.package, found.specifier)

/-- Markdown can be parsed. -/
def isAvailable (environment : Environment) : Except Breakdown Bool := do
  let unmet ← findUnmet environment markdownRequirements
  return !unmet.isAny

/-- The line of a report on one package, with an empty version shown as none. -/
def reportLine (environment : Environment) (missing : List (String × String))
    (requirement : Requirement) : Except Breakdown String := do
  let isMissing := missing.any fun (package, _) => package == requirement.package
  let recorded ← environment.recorded requirement.package
  let version := (recorded.filter fun version => version != "").getD "not installed"
  return "  " ++ (if isMissing then "[MISSING]" else "[OK]") ++ " " ++ requirement.package ++
    requirement.specifier ++ " (" ++ version ++ ")"

/-- A report on the packages that Markdown parsing needs. -/
def report (environment : Environment) : Except Breakdown String := do
  let missing ← missingPackages environment
  let title := ["mdnorm Dependency Status", String.ofList (List.replicate 40 '=')]
  let lines ← markdownRequirements.mapM (reportLine environment missing)
  let hint := if missing.isEmpty then [] else ["  Install with: " ++ installCommand missing]
  return "\n".intercalate (title ++ lines ++ hint)

end MarkTree.Packages
