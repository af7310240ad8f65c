import MarkTree.Command.Flag
import MarkTree.Json.Reader
import MarkTree.Json.Writer
import MarkTree.Logging.Record
import MarkTree.Packages.Requirement

namespace MarkTree.Command

open MarkTree.Logging

/-- The warning that the layout is not to be had. -/
def layoutWarning : Record :=
  .plain .warning "mdnorm.cli.output"
    "--rich ignored: install the optional extra with: pip install mdnorm[rich]"

/-- The module that lays out JSON. -/
def layoutModule : String := "rich"

/-- Whether JSON is laid out: if it is asked for and possible, on a terminal or by force. Without the
    module it is warned that nothing comes of the wish. -/
def usesLayout (environment : Packages.Environment) (arguments : Arguments) (isTerminal : Bool) :
    Logged Bool := do
  if !(arguments.get "rich").truthy then return false
  else if ← Logged.ofExcept (Failure.ofBreakdown (environment.canImport layoutModule)) then
    return (arguments.get "force_rich").truthy || isTerminal
  else
    Logged.write layoutWarning
    return false

/-- The text that is written for JSON: the JSON with a line end, or what the module for layouts makes of
    it. -/
def shownJson (environment : Packages.Environment) (layOut : String → Except Failure String)
    (arguments : Arguments) (isTerminal : Bool) (json : String) : Logged String := do
  if ← usesLayout environment arguments isTerminal then Logged.ofExcept (layOut json)
  else return json ++ "\n"

/-- The layout of a program that runs on its own: lines with an indentation of two spaces. -/
def indentedLayout (json : String) : Except Failure String :=
  match Json.read json with
  | .error error => .error (.wire (.unreadable error))
  | .ok value => .ok (String.ofList (Json.write (some [' ', ' ']) 0 value) ++ "\n")

end MarkTree.Command
