import MarkTree.Datum.Entries
import MarkTree.Report

namespace MarkTree

/-- The options of the Markdown parser. They are passed on as they are given, so their values have any
    kind. -/
structure MarkdownOptions where
  /-- Tables, strikethrough and bare links. -/
  gfm : Datum
  /-- Every line end is a line break. -/
  breaks : Datum
  /-- The name of the source in diagnostics. -/
  sourceFile : Datum
  /-- The number of the first source line. -/
  startLine : Datum
  /-- Bare addresses become links. -/
  pureLinks : Datum
  math : Datum
deriving DecidableEq

namespace MarkdownOptions

def default : MarkdownOptions :=
  { gfm := .bool true
    breaks := .bool false
    sourceFile := .str "nofile"
    startLine := .int 1
    pureLinks := .bool true
    math := .bool true }

/-- The options with their names, in the order in which they are listed. -/
def fields (options : MarkdownOptions) : List (String × Datum) :=
  [("gfm", options.gfm), ("breaks", options.breaks), ("source_file", options.sourceFile),
    ("start_line", options.startLine), ("pure_links", options.pureLinks), ("math", options.math)]

def names : List String :=
  default.fields.map Prod.fst

def get? (options : MarkdownOptions) (name : String) : Option Datum :=
  options.fields.lookup name

/-- Sets one option. Other names change nothing. -/
def set (options : MarkdownOptions) (name : String) (value : Datum) : MarkdownOptions :=
  match name with
  | "gfm" => { options with gfm := value }
  | "breaks" => { options with breaks := value }
  | "source_file" => { options with sourceFile := value }
  | "start_line" => { options with startLine := value }
  | "pure_links" => { options with pureLinks := value }
  | "math" => { options with math := value }
  | _ => options

def setAll (options : MarkdownOptions) (changes : List (String × Datum)) : MarkdownOptions :=
  changes.foldl (fun options (name, value) => options.set name value) options

end MarkdownOptions

/-- Puts a name into a list in the order of code points, unless it is there. -/
def insertName (name : String) : List String → List String
  | [] => [name]
  | first :: rest =>
    if name = first then first :: rest
    else if name < first then name :: first :: rest
    else first :: insertName name rest

/-- The names that are not known, in the order of code points. -/
def unknownNames (known : List String) (changes : List (String × Datum)) : List String :=
  ((changes.map Prod.fst).filter fun name => !known.contains name).foldr insertName []

/-- The receiver of an update has a name of its own, which no option can have. -/
def receiverName : String := "self"

/-- Refuses an update that names something unknown. -/
def checkNames (optionsName : String) (known : List String) (changes : List (String × Datum)) :
    Except Failure Unit :=
  if changes.any fun (name, _) => name == receiverName then .error .unknownParameter
  else
    match unknownNames known changes with
    | [] => .ok ()
    | name :: names =>
      let value := (changes.lookup name).getD .null
      .error (.reported (.unknownOptions optionsName (name :: names) value))

namespace MarkdownOptions

/-- Updates options, all or nothing: one unknown name and nothing changes. -/
def update (options : MarkdownOptions) (changes : List (String × Datum)) :
    Except Failure MarkdownOptions := do
  checkNames "MarkdownParserOptions" names changes
  return options.setAll changes

/-- Options given by name, the others at their defaults. -/
def ofFields (given : List (String × Datum)) : Except Failure MarkdownOptions :=
  if given.all fun (name, _) => names.contains name then .ok (default.setAll given)
  else .error .unknownParameter

end MarkdownOptions

/-- What may be passed where options are meant. -/
inductive OptionsValue where
  | markdown (options : MarkdownOptions)
  /-- Options without any field. -/
  | bare
  /-- A value that is no options. -/
  | other (kindName : String)
deriving DecidableEq

namespace OptionsValue

/-- The options with their names; options without any field and values that are none have no names. -/
def fields : OptionsValue → List (String × Datum)
  | .markdown options => options.fields
  | .bare | .other _ => []

def same (a b : OptionsValue) : Bool :=
  a.fields.length == b.fields.length &&
    (a.fields.zip b.fields).all fun ((_, x), (_, y)) => x.sameKey y

/-- Updates options of any kind. -/
def update (options : OptionsValue) (changes : List (String × Datum)) :
    Except Failure OptionsValue :=
  match options with
  | .markdown options => do return .markdown (← options.update changes)
  | .bare => do
    checkNames "BaseParserOptions" [] changes
    return .bare
  | .other _ => .error (.fault .notRecord)

/-- The options, if they are those of the Markdown parser. -/
def markdown? : OptionsValue → Except Failure MarkdownOptions
  | .markdown options => .ok options
  | .bare =>
    .error (.reported (.wrongOptions "markdown" "MarkdownParserOptions" "BaseParserOptions"))
  | .other kindName =>
    .error (.reported (.wrongOptions "markdown" "MarkdownParserOptions" kindName))

end OptionsValue

end MarkTree
