import MarkTree.Command.Line
import MarkTree.Command.Output
import MarkTree.Config.Discovery
import MarkTree.Logging.Setup
import MarkTree.Pipeline
import MarkTree.Text.Line

namespace MarkTree.Command

open MarkTree.Files MarkTree.Logging

/-- What the program finds around it: the files, the environment, the installed packages, how JSON is laid
    out, and what the Markdown parser returns. -/
structure Host where
  /-- The location that paths are seen from. -/
  here : Location
  home : Location
  decode : Location → Config.Decoded
  environment : List (String × String)
  packages : Packages.Environment
  /-- What the module for layouts writes for JSON. -/
  layOut : String → Except Failure String
  parser : Pipeline.Parser
  input : String
  /-- The standard output is a terminal. -/
  isTerminal : Bool

/-- What the program changes: its output, and the log with the files. -/
structure Session where
  output : String
  outlet : Outlet
deriving DecidableEq

namespace Session

def start (files : FileTree) (clock : String) : Session :=
  { output := "", outlet := { logger := .initial, console := "", files, clock } }

end Session

/-- How the program ends by itself. -/
inductive ExitCode where
  | success
  | dependency
  | validation
  | file
deriving DecidableEq, Repr

namespace ExitCode

def number : ExitCode → Nat
  | .success => 0
  | .dependency => 2
  | .validation => 3
  | .file => 4

end ExitCode

inductive Ending where
  | exit (code : ExitCode)
  | crash (failure : Failure)
deriving DecidableEq

/-- A part of a session; it may end it. -/
abbrev Job (α : Type) := ExceptT Ending (StateM Session) α

namespace Job

def stop {α : Type} (ending : Ending) : Job α :=
  fun session => (.error ending, session)

def log (records : List Record) : Job Unit :=
  fun session => (.ok (), { session with outlet := session.outlet.emitAll records })

def complain (line : String) : Job Unit :=
  fun session => (.ok (), { session with outlet := session.outlet.put .console (line ++ "\n") })

/-- Says what is wrong, and ends the session. -/
def exitWith {α : Type} (code : ExitCode) (message : String) : Job α := do
  complain ("Error: " ++ message)
  stop (.exit code)

def print (text : String) : Job Unit :=
  fun session => (.ok (), { session with output := session.output ++ text })

def files : Job FileTree :=
  fun session => (.ok session.outlet.files, session)

def orCrash {α : Type} : Except Failure α → Job α
  | .ok value => pure value
  | .error failure => stop (.crash failure)

/-- Runs a job that writes records, and crashes if it fails. -/
def logged {α : Type} (job : Logged α) : Job α := do
  let (result, records) := job.outcome
  log records
  orCrash result

end Job

/-- The level that arguments ask for. Tracing comes first, then the short cut, then the named level. -/
def askedLevel (arguments : Arguments) : Except Failure Datum :=
  if (arguments.get "trace").truthy then .ok (.int Level.debug.severity)
  else if (arguments.get "verbose").truthy && arguments.get "log_level" == .str "WARNING" then
    .ok (.int Level.debug.severity)
  else
    match arguments.get "log_level" with
    | .str name => .ok (.str name)
    | _ => .error (.fault .notText)

/-- A text that arguments give, if it is not empty. -/
def givenText? (arguments : Arguments) (name : String) : Option String :=
  match arguments.get name with
  | .str text => if text = "" then none else some text
  | _ => none

def setUpLogging (host : Host) (arguments : Arguments) : Job Unit := do
  let level ← Job.orCrash (askedLevel arguments)
  let file := givenText? arguments "log_file"
  let traced := (arguments.get "trace").truthy
  let configured (session : Session) : Session :=
    { session with outlet := configure session.outlet host.here level file traced }
  if file.all isPathText then modify configured
  else
    let plain (session : Session) : Session :=
      { session with outlet := configure session.outlet host.here level none traced }
    modify plain
    Job.stop (.crash .impossiblePath)

/-- Reports on the packages that are needed, and ends the session. -/
def reportPackages (host : Host) : Job Unit := do
  let text ← Job.orCrash (Failure.ofBreakdown (Packages.report host.packages))
  Job.print (text ++ "\n")
  let available ← Job.orCrash (Failure.ofBreakdown (Packages.isAvailable host.packages))
  Job.stop (.exit (if available then .success else .dependency))

def surroundings (host : Host) (files : FileTree) : Config.Surroundings :=
  { files, here := host.here, home := host.home, decode := host.decode }

/-- The configuration file: named by a flag, by the environment, or else discovered. -/
def configPath (host : Host) (files : FileTree) (arguments : Arguments) :
    Except Failure (Option String) :=
  let named := (host.environment.lookup configVariable).filter fun path => path != ""
  match (givenText? arguments "config").or named with
  | some path => .ok (some path)
  | none =>
    if (arguments.get "no_config").truthy then .ok none
    else do
      let found ← Config.discover (surroundings host files) host.here
      return found.map Location.text

def loadConfig (host : Host) (files : FileTree) (arguments : Arguments) : Logged Entries := do
  match ← Logged.ofExcept (configPath host files arguments) with
  | none => return []
  | some path =>
    Logged.note .debug "mdnorm.cli" ("Loading configuration from " ++ path)
    Logged.ofExcept (Config.load (surroundings host files) (.ofText path))

/-- The options of the session. A bad configuration ends it. -/
def settleOptions (host : Host) (arguments : Arguments) : Job MarkdownOptions := do
  let files ← Job.files
  let settled : Logged MarkdownOptions := do
    let config ← loadConfig host files arguments
    Logged.ofExcept (buildOptions arguments config)
  let (result, records) := settled.outcome
  Job.log records
  match result with
  | .ok options => return options
  | .error (.reported report) => Job.exitWith .validation report.message
  | .error failure => Job.stop (.crash failure)

def readSource (host : Host) (input : String) : Job String := do
  if input = "-" then return host.input
  else if !isPathText input then Job.stop (.crash .impossiblePath)
  else
    let path := Path.ofText input
    match (← Job.files).read host.here path with
    | .ok (.text content) => return String.ofList (Text.unifyLineEnds content.toList)
    | .ok .binary => Job.stop (.crash .undecodable)
    | .error error =>
      Job.exitWith .file ("Could not read " ++ input ++ ": " ++ error.message path.text)

/-- The normalized document of a source. Missing packages end the session. -/
def makeDocument (host : Host) (options : MarkdownOptions) (source : String) : Job Document := do
  let (result, records) :=
    (Pipeline.toDocument host.packages host.parser options source).outcome
  Job.log records
  match result with
  | .ok document => return document
  | .error (.reported report) =>
    match report.detail with
    | .dependency .. => Job.exitWith .dependency report.message
    | _ => Job.stop (.crash (.reported report))
  | .error failure => Job.stop (.crash failure)

def writeFile (host : Host) (out json : String) : Job Unit := do
  if !isPathText out then Job.stop (.crash .impossiblePath)
  else
    let path := Path.ofText out
    match (← Job.files).writable host.here path with
    | .error error =>
      Job.exitWith .file ("Could not write " ++ out ++ ": " ++ error.message path.text)
    | .ok location =>
      let written (session : Session) : Session :=
        { session with
          outlet := { session.outlet with
            files := session.outlet.files.put location (.text (json ++ "\n")) } }
      modify written
      Job.log [.plain .info "mdnorm.cli" ("Wrote " ++ out)]

def writeJson (host : Host) (arguments : Arguments) (json : String) : Job Unit := do
  match givenText? arguments "out" with
  | some out => writeFile host out json
  | none =>
    let text ← Job.logged (shownJson host.packages host.layOut arguments host.isTerminal json)
    Job.print text

/-- The whole session, given its arguments. -/
def perform (host : Host) (arguments : Arguments) : Job Unit := do
  setUpLogging host arguments
  if (arguments.get "check_deps").truthy then reportPackages host
  match givenText? arguments "input" with
  | none => Job.exitWith .validation "Input file is required"
  | some input =>
    let options ← settleOptions host arguments
    let source ← readSource host input
    let document ← makeDocument host options source
    let json ← Job.orCrash (Failure.ofWire (encodeDocument document (arguments.get "indent")))
    writeJson host arguments json

/-- What comes of running the program. -/
inductive Outcome where
  | refused (error : UsageError)
  | help
  | ended (ending : Ending) (session : Session)
deriving DecidableEq

/-- Runs the program with the given arguments, files and clock. -/
def run (host : Host) (files : FileTree) (clock : String) (arguments : List String) : Outcome :=
  match mainLine.read arguments with
  | .refused error => .refused error
  | .help => .help
  | .parsed arguments =>
    match perform host arguments (Session.start files clock) with
    | (.ok (), session) => .ended (.exit .success) session
    | (.error ending, session) => .ended ending session

end MarkTree.Command
