import MarkTree.Report

namespace MarkTree.Logging

inductive Level where
  | debug
  | info
  | warning
  | error
  | critical
deriving DecidableEq, Repr

namespace Level

def name : Level → String
  | .debug => "DEBUG"
  | .info => "INFO"
  | .warning => "WARNING"
  | .error => "ERROR"
  | .critical => "CRITICAL"

def ofName? (name : String) : Option Level :=
  [debug, info, warning, error, critical].find? fun level => level.name == name

def severity : Level → Int
  | .debug => 10
  | .info => 20
  | .warning => 30
  | .error => 40
  | .critical => 50

end Level

/-- What a record about a source line carries beside its message. -/
structure Place where
  file : Datum
  line : Datum
  severity : Datum
deriving DecidableEq

/-- A message, or what keeps it from being put together. -/
inductive Message where
  | text (text : String)
  | broken (fault : Fault)
deriving DecidableEq

def Message.ofExcept : Except Fault String → Message
  | .ok message => .text message
  | .error fault => .broken fault

structure Record where
  level : Level
  logger : String
  message : Message
  place? : Option Place
deriving DecidableEq

/-- A message without place. -/
def Record.plain (level : Level) (logger message : String) : Record :=
  { level, logger, message := .text message, place? := none }

/-- What keeps the first of the records from being put together that has no message. -/
def Record.fault? (records : List Record) : Option Fault :=
  records.findSome? fun record =>
    match record.message with
    | .text _ => none
    | .broken fault => some fault

/-- A job that writes records and may fail. One that fails keeps the records it wrote before. -/
abbrev Logged (α : Type) := ExceptT Failure (StateM (List Record)) α

namespace Logged

def write (record : Record) : Logged Unit :=
  fun records => (.ok (), records ++ [record])

/-- Writes a message without place. -/
def note (level : Level) (logger message : String) : Logged Unit :=
  write (.plain level logger message)

def fail {α : Type} (failure : Failure) : Logged α :=
  fun records => (.error failure, records)

def ofExcept {α : Type} : Except Failure α → Logged α
  | .ok value => pure value
  | .error failure => fail failure

/-- The outcome of a job, and its records. -/
def outcome {α : Type} (job : Logged α) : Except Failure α × List Record :=
  job []

end Logged

end MarkTree.Logging
