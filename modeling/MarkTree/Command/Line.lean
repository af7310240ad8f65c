import MarkTree.Command.OptionFlags
import MarkTree.Command.Usage
import MarkTree.Options

namespace MarkTree.Command

/-- The options of the Markdown parser, described for their flags. -/
def markdownFields : List OptionField :=
  [{ name := "gfm", default? := some (.bool true), flagName? := none, type? := none
     help? := some (.str "GitHub Flavored Markdown extensions"), importance := .str "core" },
    { name := "breaks", default? := some (.bool false), flagName? := none, type? := none
      help? := some (.str "Treat single newlines as hard line breaks (GFM only)")
      importance := .str "core" },
    { name := "source_file", default? := some (.str "nofile"), flagName? := none, type? := none
      help? := some (.str "File label used in diagnostics (the CLI uses the input path)")
      importance := .str "advanced" },
    { name := "start_line", default? := some (.int 1), flagName? := none, type? := some .int
      help? := some (.str "Line number of the first input line in diagnostics")
      importance := .str "advanced" },
    { name := "pure_links", default? := some (.bool true), flagName? := none, type? := none
      help? := some (.str "Autolinking of bare URLs"), importance := .str "core" },
    { name := "math", default? := some (.bool true), flagName? := none, type? := none
      help? := some (.str "Parsing of $...$ and $$...$$ math"), importance := .str "core" }]

/-- The environment variable that names a configuration file. -/
def configVariable : String := "MDNORM_CONFIG"

def inputArgument : Flag :=
  .value [] "input" "Markdown file to read, or '-' for stdin"

def generalFlags : FlagList :=
  ([.showHelp, .value ["-o", "--out"] "out" "Write JSON to this file instead of stdout",
      { Flag.value ["--indent"] "indent" "Indent JSON output by this many spaces" with
        type? := some .int }]).map
    fun flag => ({ title := "options", description := none }, flag)

def configurationFlags : FlagList :=
  ([.value ["--config"] "config" ("Configuration file (also read from $" ++ configVariable ++ ")"),
      .switch ["--no-config"] "no_config" "Ignore discovered configuration files"]).map
    fun flag => ({ title := "configuration", description := none }, flag)

def outputFlags : FlagList :=
  ([.switch ["--rich"] "rich" "Highlight JSON output when writing to a terminal",
      .switch ["--force-rich"] "force_rich" "Highlight JSON output even when not a TTY",
      { Flag.value ["--log-level"] "log_level" "Logging level (default: WARNING)" with
        choices := ["DEBUG", "INFO", "WARNING", "ERROR"], default := .str "WARNING" },
      .value ["--log-file"] "log_file" "Also write log output to this file",
      .switch ["-v", "--verbose"] "verbose" "Shortcut for --log-level DEBUG",
      .switch ["--trace"] "trace" "Debug logging with timestamps and logger names",
      .switch ["--check-deps"] "check_deps" "Report parser dependency status and exit"]).map
    fun flag => ({ title := "output and logging", description := none }, flag)

/-- The flags for the options of the Markdown parser. -/
def markdownFlags : FlagList :=
  match optionFlags markdownFields with
  | .ok (flags, _) => flags
  | .error _ => []

def mainLine : CommandLine :=
  { program := "mdnorm"
    description := "Parse Markdown and write its normalized HTML-like AST as JSON."
    positional := some inputArgument
    flags := generalFlags ++ markdownFlags ++ configurationFlags ++ outputFlags }

/-- An option name with underscores for dashes. -/
def optionName (key : String) : String :=
  String.ofList (key.toList.map fun c => if c == '-' then '_' else c)

/-- Kinds of values that are no texts and yet have a replacement of parts by the same name. -/
def replaceableKinds : List String :=
  ["bytes", "date", "datetime", "time"]

/-- Dashes are replaced in a key that is no text. -/
def keyFault : Datum → Fault
  | .foreign kindName =>
    if replaceableKinds.contains kindName then .wrongOperand else .notText
  | _ => .notText

/-- The options of a configuration by name. Every key has to be a text. -/
def namedOptions : Entries → Except Fault Arguments
  | [] => .ok []
  | (.str key, value) :: rest => do
    let options ← namedOptions rest
    return (optionName key, value) :: options
  | (key, _) :: _ => .error (keyFault key)

/-- A list of named values with one value for each name, the last one. -/
def lastByName (values : Arguments) : Arguments :=
  values.foldl (fun known (name, value) => known.set name value) []

def flagOptions (arguments : Arguments) : Arguments :=
  MarkdownOptions.names.filterMap fun name =>
    let value := arguments.get name
    if value = .null then none else some (name, value)

/-- The input path as the name of the source, unless the input is the standard one. -/
def inputOption (arguments : Arguments) : Arguments :=
  let input := arguments.get "input"
  if input.truthy && input != .str "-" then [("source_file", input)] else []

/-- The options that arguments and a configuration come to. A flag wins over the configuration, and the
    configuration over the defaults; the input file names the source unless something else does. -/
def buildOptions (arguments : Arguments) (config : Entries) : Except Failure MarkdownOptions := do
  let configured ← Failure.ofFault (namedOptions config)
  let values := lastByName (configured ++ flagOptions arguments)
  let values :=
    if values.any fun (name, _) => name == "source_file" then values
    else values ++ inputOption arguments
  MarkdownOptions.default.update values

end MarkTree.Command
