import MarkTree.Datum.Display
import MarkTree.Files.Tree
import MarkTree.Logging.Record

namespace MarkTree.Logging

open MarkTree.Files

/-- Where a handler writes. -/
inductive Sink where
  | console
  | file (location : Location)
  /-- Somewhere else; only the name of the kind of handler is known. -/
  | other (kindName : String)
deriving DecidableEq, Repr

/-- A handler; a traced one writes the time and the logger with each record. -/
structure Handler where
  sink : Sink
  traced : Bool
deriving DecidableEq, Repr

structure Logger where
  /-- A number; zero leaves the choice to the surroundings, which want warnings. -/
  level : Datum
  /-- Records also go to the handlers of the surroundings. -/
  propagates : Bool
  handlers : List Handler
  /-- The handlers that have been closed, in order. -/
  closed : List Handler
deriving DecidableEq

namespace Logger

/-- The logger before it is set up. -/
def initial : Logger :=
  { level := .int 0, propagates := true, handlers := [], closed := [] }

/-- The least severity that is let through. -/
def threshold (logger : Logger) : Int :=
  let level := logger.level.int?.getD 0
  if level == 0 then Level.warning.severity else level

end Logger

/-- The capital of a letter, as far as the names of levels need it. -/
def capital (c : Char) : Char :=
  if c == '\u0131' then 'I' else if c == '\u017f' then 'S' else c.toUpper

/-- The severity that a level name stands for. -/
def namedLevel? (name : String) : Option Int :=
  match String.ofList (name.toList.map capital) with
  | "CRITICAL" => some 50
  | "FATAL" => some 50
  | "ERROR" => some 40
  | "WARNING" => some 30
  | "WARN" => some 30
  | "INFO" => some 20
  | "DEBUG" => some 10
  | "NOTSET" => some 0
  | _ => none

/-- A level given as a number or by name; what is neither counts as the level of information. -/
def resolveLevel (level : Datum) : Datum :=
  match level.int? with
  | some _ => level
  | none => .int ((namedLevel? level.display).getD Level.info.severity)

/-- The line that a handler writes for a record with this message. -/
def Handler.line (handler : Handler) (clock : String) (record : Record) (message : String) : String :=
  if handler.traced then
    "[" ++ clock ++ "] [" ++ record.level.name ++ "] [" ++ record.logger ++ "] " ++ message ++ "\n"
  else record.level.name ++ ": " ++ message ++ "\n"

/-- How it is said on the console that a message cannot be put together. The trace of calls that follows
    is left out. -/
def formattingError : String :=
  "--- Logging error ---\n"

/-- What log records are written to: the console and the files, by the clock. -/
structure Outlet where
  logger : Logger
  console : String
  files : FileTree
  clock : String
deriving DecidableEq

namespace Outlet

def put (outlet : Outlet) (sink : Sink) (text : String) : Outlet :=
  match sink with
  | .console => { outlet with console := outlet.console ++ text }
  | .file location => { outlet with files := outlet.files.append location text }
  | .other _ => outlet

/-- Writes a message to a sink as a line. If there is none, only the console is told. -/
def putMessage (outlet : Outlet) (sink : Sink) (line : String → String) : Message → Outlet
  | .text message => outlet.put sink (line message)
  | .broken _ => outlet.put .console formattingError

/-- Writes a record where it belongs; one below the threshold is dropped. Without any handler warnings and
    worse still reach the console, as bare messages. -/
def emit (outlet : Outlet) (record : Record) : Outlet :=
  if record.level.severity < outlet.logger.threshold then outlet
  else if outlet.logger.handlers.isEmpty then
    if record.level.severity < Level.warning.severity then outlet
    else outlet.putMessage .console (· ++ "\n") record.message
  else
    outlet.logger.handlers.foldl
      (fun outlet handler =>
        outlet.putMessage handler.sink (handler.line outlet.clock record) record.message) outlet

def emitAll (outlet : Outlet) (records : List Record) : Outlet :=
  records.foldl emit outlet

def note (outlet : Outlet) (level : Level) (logger message : String) : Outlet :=
  outlet.emit (.plain level logger message)

end Outlet

/-- The name of the logger of the program. -/
def programLogger : String := "mdnorm"

/-- A file that a log is to go to, opened at its absolute path. -/
def openLog (files : FileTree) (here : Location) (path : String) : Except FileError Location :=
  files.writable [] (.ofLocation ((Path.ofText path).locate here))

/-- Adds the handler of a log file, or says why it cannot be opened. -/
def addLogFile (outlet : Outlet) (here : Location) (path : String) (traced : Bool) : Outlet :=
  match openLog outlet.files here path with
  | .error error =>
    outlet.note .warning programLogger
      ("Could not open log file " ++ path ++ ": " ++
        error.message (Location.text ((Path.ofText path).locate here)))
  | .ok location =>
    let handler : Handler := { sink := .file location, traced }
    let logger := { outlet.logger with handlers := outlet.logger.handlers ++ [handler] }
    let opened := { outlet with logger, files := outlet.files.append location "" }
    opened.note .debug programLogger ("Logging to file: " ++ path)

/-- Sets up logging: closes all handlers and puts one for the console in their place, and one for a log
    file if a file is named and can be opened. -/
def configure (outlet : Outlet) (here : Location) (level : Datum) (file : Option String)
    (traced : Bool) : Outlet :=
  let logger : Logger :=
    { level := resolveLevel level
      propagates := false
      handlers := [{ sink := .console, traced }]
      closed := outlet.logger.closed ++ outlet.logger.handlers }
  let outlet := { outlet with logger }
  match file with
  | none => outlet
  | some path => if path = "" then outlet else addLogFile outlet here path traced

end MarkTree.Logging
