import MarkTree.Proofs.Command.Document
import MarkTree.Proofs.Command.Options
import MarkTree.Proofs.Config.Failing

namespace MarkTree.Command

open Files Logging

variable {host : Host} {tree seen : FileTree} {arguments : Arguments}

/-- The configuration file that is named, by a flag or else by the environment. -/
def namedConfig? (host : Host) (arguments : Arguments) : Option String :=
  (givenText? arguments "config").or
    ((host.environment.lookup configVariable).filter fun path => path != "")

/-- The paths of configuration files that a session looks at: the one that is named, or else those of all
    places where one may be. -/
inductive LooksAt (host : Host) (arguments : Arguments) : Path → Prop where
  | named {text : String} (hnamed : namedConfig? host arguments = some text) :
      LooksAt host arguments (.ofText text)
  | place {candidate : Config.Candidate} {path : Path} (hnamed : namedConfig? host arguments = none)
      (hsearches : (arguments.get "no_config").truthy = false)
      (hmem : candidate ∈ Config.Candidate.all host.home host.here)
      (hpath : path = candidate.path ∨ path = .ofText candidate.location.text) :
      LooksAt host arguments path

/-- The configuration of a session, with the files as they are seen: none, or what is loaded. -/
inductive Configures (host : Host) (seen : FileTree) (arguments : Arguments) : Entries → Prop where
  | none : Configures host seen arguments []
  | loaded {path : Path} {config : Entries} (hlooks : LooksAt host arguments path)
      (hload : Config.load (surroundings host seen) path = .ok config) :
      Configures host seen arguments config

/-- The number that a flag or the configuration gives to the first line. -/
inductive StartsAt (host : Host) (seen : FileTree) (arguments : Arguments) (start : Datum) : Prop where
  | flag (hflag : arguments.get "start_line" = start) (hgiven : start ≠ .null)
  | config {config : Entries} {key : String} (hconfig : Configures host seen arguments config)
      (hmem : (.str key, start) ∈ config) (hname : optionName key = "start_line")

/-- The source of a session: the standard input, or the text of a file with its line ends unified. -/
inductive IsSource (host : Host) (seen : FileTree) (input : String) : String → Prop where
  | standard (hinput : input = "-") : IsSource host seen input host.input
  | file {content : String} (hread : seen.read host.here (.ofText input) = .ok (.text content)) :
      IsSource host seen input (String.ofList (Text.unifyLineEnds content.toList))

/-- The document is what the source is parsed into under the options of the session. -/
inductive Makes (host : Host) (tree : FileTree) (arguments : Arguments) (document : Document) : Prop where
  | intro {configured seen : FileTree} {config : Entries} {options : MarkdownOptions}
      {input source : String} (hconfigured : tree.Grows configured)
      (hconfig : Configures host configured arguments config)
      (hbuild : buildOptions arguments config = .ok options) (hseen : tree.Grows seen)
      (hinput : givenText? arguments "input" = some input) (hsource : IsSource host seen input source)
      (hmakes : (Pipeline.toDocument host.packages host.parser options source).outcome.1 = .ok document)

/-- The JSON is where the arguments want it: in a file, or behind all other output, as it is with a line end
    or laid out. -/
inductive Writes (host : Host) (tree : FileTree) (arguments : Arguments) (json : String) :
    Session → Prop where
  | file {out : String} {seen : FileTree} {location : Location} {session : Session}
      (hout : givenText? arguments "out" = some out) (hseen : tree.Grows seen)
      (hwrite : seen.writable host.here (.ofText out) = .ok location)
      (hsince : session.Since (seen.put location (.text (json ++ "\n")))) :
      Writes host tree arguments json session
  | output {text shown : String} {session : Session} (hout : givenText? arguments "out" = none)
      (htext : text = json ++ "\n" ∨ host.layOut json = .ok text)
      (houtput : session.output = shown ++ text) : Writes host tree arguments json session

/-- What a session says when it exits. -/
inductive Explains (host : Host) (seen : FileTree) (arguments : Arguments) : ExitCode → String → Prop where
  | noInput (hinput : givenText? arguments "input" = none) :
      Explains host seen arguments .validation "Input file is required"
  | config {path : Path} {report : Report} (hlooks : LooksAt host arguments path)
      (hload : Config.load (surroundings host seen) path = .error (.reported report)) :
      Explains host seen arguments .validation report.message
  | options {config : Entries} {report : Report} (hconfig : Configures host seen arguments config)
      (hbuild : buildOptions arguments config = .error (.reported report)) :
      Explains host seen arguments .validation report.message
  | unread {input : String} {error : FileError} (hinput : givenText? arguments "input" = some input)
      (hread : seen.read host.here (.ofText input) = .error error) :
      Explains host seen arguments .file
        ("Could not read " ++ input ++ ": " ++ error.message (Path.ofText input).text)
  | unmet {unmet : Packages.Unmet}
      (hunmet : Packages.findUnmet host.packages Packages.markdownRequirements = .ok unmet)
      (hany : unmet.isAny = true) :
      Explains host seen arguments .dependency (Report.unmetRequirements "markdown parser" unmet).message
  | unwritten {out : String} {error : FileError} (hout : givenText? arguments "out" = some out)
      (hwrite : seen.writable host.here (.ofText out) = .error error) :
      Explains host seen arguments .file
        ("Could not write " ++ out ++ ": " ++ error.message (Path.ofText out).text)

/-- The causes of a crash. -/
inductive Crashes (host : Host) (seen : FileTree) (arguments : Arguments) : Failure → Prop where
  | level (hlevel : ∀ name, arguments.get "log_level" ≠ .str name) :
      Crashes host seen arguments (.fault .notText)
  | path {name text : String} (hname : name ∈ ["log_file", "input", "out"])
      (hgiven : givenText? arguments name = some text) (hpath : isPathText text = false) :
      Crashes host seen arguments .impossiblePath
  | packages {requirement : Packages.Requirement} {breakdown : Packages.Breakdown}
      (hmem : requirement ∈ Packages.markdownRequirements)
      (hbreaks : host.packages.Breaks requirement breakdown) :
      Crashes host seen arguments (.packages breakdown)
  /-- A report shows the recorded version even of a module that is missing. -/
  | report {requirement : Packages.Requirement} {breakdown : Packages.Breakdown}
      (hasked : (arguments.get "check_deps").truthy = true)
      (hmem : requirement ∈ Packages.markdownRequirements)
      (hrecorded : host.packages.recorded requirement.package = .error breakdown) :
      Crashes host seen arguments (.packages breakdown)
  | layout {breakdown : Packages.Breakdown} (hasked : (arguments.get "rich").truthy = true)
      (himport : host.packages.importing layoutModule = .breaks breakdown) :
      Crashes host seen arguments (.packages breakdown)
  | config {path : Path} {failure : Failure} (hlooks : LooksAt host arguments path)
      (hbreaks : (surroundings host seen).Breaks path) : Crashes host seen arguments failure
  | key {config : Entries} {entry : Datum × Datum} {failure : Failure}
      (hconfig : Configures host seen arguments config) (hmem : entry ∈ config)
      (hkey : IsUnusableKey entry.1) : Crashes host seen arguments failure
  | input {input : String} (hinput : givenText? arguments "input" = some input)
      (hread : seen.read host.here (.ofText input) = .ok .binary) :
      Crashes host seen arguments .undecodable
  | parser {message : String} (hparser : host.parser = .fails message) :
      Crashes host seen arguments (.reported (.parserFailed message))
  | tokens {tokens : Datum} {milliseconds : String} {failure : Failure}
      (hparser : host.parser = .returns tokens milliseconds) (hbroken : ¬ Markdown.IsPromised tokens) :
      Crashes host seen arguments failure
  | startLine {start : Datum} {offset : Nat} {fault : Fault}
      (hstart : StartsAt host seen arguments start) (hsum : start.plus (.int offset) = .error fault) :
      Crashes host seen arguments (.fault fault)
  | indent {failure : Failure} (hindent : ¬ IsBlankIndent (arguments.get "indent")) :
      Crashes host seen arguments failure

/-- How a session ends. What it writes, says or crashes from is about the files as they were seen on the
    way, with nothing done to them but adding texts. -/
inductive Ends (host : Host) (tree : FileTree) (arguments : Arguments) : Ending → Session → Prop where
  | written {document : Document} {json : String} {session : Session}
      (hmakes : Makes host tree arguments document)
      (hjson : encodeDocument document (arguments.get "indent") = .ok json)
      (hwrites : Writes host tree arguments json session) :
      Ends host tree arguments (.exit .success) session
  | packages {text shown : String} {available : Bool} {session : Session}
      (hasked : (arguments.get "check_deps").truthy = true)
      (htext : Packages.report host.packages = .ok text)
      (havailable : Packages.isAvailable host.packages = .ok available)
      (houtput : session.output = shown ++ (text ++ "\n")) :
      Ends host tree arguments (.exit (if available then .success else .dependency)) session
  | explained {seen : FileTree} {code : ExitCode} {message shown : String} {session : Session}
      (hseen : tree.Grows seen) (hsince : session.Since seen)
      (hexplains : Explains host seen arguments code message)
      (hconsole : session.outlet.console = shown ++ ("Error: " ++ message ++ "\n")) :
      Ends host tree arguments (.exit code) session
  | crash {seen : FileTree} {failure : Failure} {session : Session}
      (hseen : tree.Grows seen) (hsince : session.Since seen)
      (hcrashes : Crashes host seen arguments failure) :
      Ends host tree arguments (.crash failure) session

/-- A parser that gives up ends the session in a crash, and nobody is told. -/
theorem makeDocument_of_fails {options : MarkdownOptions} {source message : String}
    {unmet : Packages.Unmet}
    (hunmet : Packages.findUnmet host.packages Packages.markdownRequirements = .ok unmet)
    (hmet : unmet.isAny = false) (hparser : host.parser = .fails message) (session : Session) :
    makeDocument host options source session =
      (.error (.crash (.reported (.parserFailed message))), session) := by
  have hrequire : Packages.require host.packages "markdown parser" Packages.markdownRequirements =
      .ok () := by
    simp [Packages.require, hunmet, hmet, Failure.ofBreakdown, bind, Except.bind]
  have hdocument : (Pipeline.toDocument host.packages host.parser options source).outcome =
      (.error (.reported (.parserFailed message)), []) := by
    simp only [Logged.outcome, Pipeline.toDocument, Pipeline.parse, hrequire, hparser]
    rfl
  rw [makeDocument, hdocument]
  rfl

section

variable (hseen : tree.Grows seen)
include hseen

end

end MarkTree.Command
