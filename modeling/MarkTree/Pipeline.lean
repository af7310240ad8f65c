import MarkTree.Logging.Record
import MarkTree.Markdown.Reading
import MarkTree.Markdown.Trace
import MarkTree.Number.Binary
import MarkTree.Options
import MarkTree.Source.Lint
import MarkTree.Tree.Normalize

namespace MarkTree.Pipeline

open MarkTree.Logging

/-- What the Markdown parser does with a source. -/
inductive Parser where
  /-- It returns a token stream, after a while. -/
  | returns (tokens : Datum) (milliseconds : String)
  /-- It gives up with a message. -/
  | fails (message : String)

/-- How the parser is called. -/
structure ParserCall where
  hardWrap : Datum
  plugins : List String
deriving DecidableEq

/-- The switches of the parser that options ask for. -/
def parserCall (options : MarkdownOptions) : ParserCall :=
  let tables := if options.gfm.truthy then ["table", "strikethrough"] else []
  let links := if options.gfm.truthy && options.pureLinks.truthy then ["url"] else []
  let math := if options.math.truthy then ["math"] else []
  { hardWrap := if options.gfm.truthy then options.breaks else options.gfm
    plugins := tables ++ links ++ math }

/-- The outcome of parsing: the tree as the tokens give it, and the diagnostics of the source. -/
structure Parsed where
  document : Document
  diagnostics : List Source.Diagnostic
deriving Inhabited

def Parsed.status (parsed : Parsed) : String :=
  Source.status parsed.diagnostics

def parserLogger : String := "mdnorm.parsers.markdown"

def pipelineLogger : String := "mdnorm.api"

/-- The log record that a source has been parsed. -/
def Parsed.record (parsed : Parsed) (sourceFile : Datum) : Record :=
  { level := .debug
    logger := pipelineLogger
    message := .ofExcept (sourceFile.spelling.map fun file =>
      "Parsed " ++ file ++ " with status " ++ parsed.status ++ " (" ++
        toString parsed.diagnostics.length ++ " diagnostics)")
    place? := none }

/-- The tree of a token stream. -/
def readTokens (tokens : Datum) : Logged Document := do
  let blocks := Markdown.Block.ofStream tokens
  let trace := Markdown.Block.traces blocks
  for token in trace.skipped do
    Logged.note .debug parserLogger token.message
  match trace.fault? with
  | some fault => Logged.fail (.fault fault)
  | none => pure (Markdown.Block.allNodes blocks)

def parse (environment : Packages.Environment) (parser : Parser) (options : MarkdownOptions)
    (source : String) : Logged Parsed := do
  Logged.ofExcept (Packages.require environment "markdown parser" Packages.markdownRequirements)
  match parser with
  | .fails message => Logged.fail (.reported (.parserFailed message))
  | .returns tokens milliseconds => do
    Logged.note .debug parserLogger ("Parsing (markdown) completed in " ++ milliseconds ++ " ms")
    let document ← readTokens tokens
    let diagnostics ←
      Logged.ofExcept (Failure.ofFault (Source.lint source options.startLine options.math.truthy))
    return { document, diagnostics }

/-- A line number as messages give it: whole, with the fraction cut off. Only a finite number has
    one, and an integer of too many digits has no text. -/
def lineText (line : Datum) : Except Fault String :=
  match line.int? with
  | some n => (Datum.int n).spelling
  | none =>
    match line with
    | .float value =>
      match (Number.Binary.ofFloat value).truncate? with
      | some n => .ok (toString n)
      | none => .error (if value == value then .tooLarge else .undefinedNumber)
    | _ => .error .notNumeric

/-- What is said about a line of the source, in values of any kind. -/
structure Notice where
  severity : Datum
  line : Datum
  message : Datum
deriving DecidableEq

namespace Notice

def ofDiagnostic (diagnostic : Source.Diagnostic) : Notice :=
  { severity := .str diagnostic.severity
    line := diagnostic.line
    message := .str diagnostic.message }

/-- A sequence of a severity, a line and a message. -/
def ofDatum (value : Datum) : Except Fault Notice := do
  match ← value.elements with
  | [severity, line, message] => .ok { severity, line, message }
  | _ => .error .wrongLength

/-- The text of a notice. There is none if a part of it has none. -/
def text (notice : Notice) (sourceFile : Datum) : Except Fault String := do
  let file ← sourceFile.spelling
  let line ← lineText notice.line
  let message ← notice.message.spelling
  return file ++ ":" ++ line ++ ": " ++ message

def record (notice : Notice) (sourceFile : Datum) : Record :=
  { level := .warning
    logger := pipelineLogger
    message := .ofExcept (notice.text sourceFile)
    place? := some { file := sourceFile, line := notice.line, severity := notice.severity } }

end Notice

def emit (diagnostics : List Source.Diagnostic) (sourceFile : Datum) : Logged Unit :=
  for diagnostic in diagnostics do
    Logged.write ((Notice.ofDiagnostic diagnostic).record sourceFile)

/-- Logs notices given as data, in order. -/
def emitData (notices : List Datum) (sourceFile : Datum) : Logged Unit :=
  for value in notices do
    let notice ← Logged.ofExcept (Failure.ofFault (Notice.ofDatum value))
    Logged.write (notice.record sourceFile)

/-- The normalized document of a source: the parser makes tokens, the tokens become a tree, the source is
    checked, the diagnostics are logged, and the tree is normalized. Diagnostics stop nothing. -/
def toDocument (environment : Packages.Environment) (parser : Parser) (options : MarkdownOptions)
    (source : String) : Logged Document := do
  let parsed ← parse environment parser options source
  Logged.write (parsed.record options.sourceFile)
  emit parsed.diagnostics options.sourceFile
  Logged.ofExcept (Failure.ofFault (normalize parsed.document))

/-- The names of what a document is made from, which no option can have. -/
def inputNames : List String :=
  ["text", "options"]

/-- The normalized document of a source, with some options changed first. -/
def toDocumentWith (environment : Packages.Environment) (parser : Parser) (options : OptionsValue)
    (changes : List (String × Datum)) (source : String) : Logged Document := do
  if changes.any fun (name, _) => inputNames.contains name then Logged.fail .unknownParameter
  else
    let options ←
      if changes.isEmpty then pure options else Logged.ofExcept (options.update changes)
    let options ← Logged.ofExcept options.markdown?
    toDocument environment parser options source

end MarkTree.Pipeline
