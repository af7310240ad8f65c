import MarkTree.Command.Flag
import MarkTree.Number.Reading
import MarkTree.Text.Quoted
import MarkTree.Text.Search

namespace MarkTree.Command

open MarkTree.Text

inductive UsageError where
  /-- A cut flag could be one of several. -/
  | ambiguous (argument : String) (spellings : List String)
  | missingValue (flag : Flag)
  /-- A flag that stands alone is given a value. -/
  | unwantedValue (flag : Flag) (value : String)
  | badValue (flag : Flag) (type : ValueType) (value : String)
  | badChoice (flag : Flag) (value : String)
  | unknown (arguments : List String)
deriving DecidableEq

namespace UsageError

def message : UsageError → String
  | .ambiguous argument spellings =>
    "ambiguous option: " ++ argument ++ " could match " ++ ", ".intercalate spellings
  | .missingValue flag => "argument " ++ flag.shown ++ ": expected one argument"
  | .unwantedValue flag value =>
    "argument " ++ flag.shown ++ ": ignored explicit argument " ++ quoted value
  | .badValue flag type value =>
    "argument " ++ flag.shown ++ ": invalid " ++ type.name ++ " value: " ++ quoted value
  | .badChoice flag value =>
    "argument " ++ flag.shown ++ ": invalid choice: " ++ quoted value ++ " (choose from " ++
      ", ".intercalate (flag.choices.map quoted) ++ ")"
  | .unknown arguments => "unrecognized arguments: " ++ " ".intercalate arguments

end UsageError

/-- What comes of arguments. -/
inductive Usage where
  | parsed (arguments : Arguments)
  | help
  | refused (error : UsageError)
deriving DecidableEq

/-- A flag in an argument, with the text that is part of the same argument. -/
structure Occurrence where
  spelling : String
  flag : Flag
  attached : Option String
deriving DecidableEq

/-- What an argument is. -/
inductive Word where
  | argument (text : String)
  | doubleDash
  | flag (occurrence : Occurrence)
  /-- It looks like a flag, but is none. -/
  | unknown (text : String)
deriving DecidableEq

/-- A hyphen, then digits with at most one point among them, but not behind them. -/
def isNegativeNumber : List Char → Bool
  | '-' :: rest =>
    let number := if endsWith ['\n'] rest then rest.dropLast else rest
    let whole := number.takeWhile isDigit
    match number.dropWhile isDigit with
    | [] => !whole.isEmpty
    | c :: fraction => c == '.' && !fraction.isEmpty && fraction.all isDigit
  | _ => false

/-- The text before and behind the first equals sign. -/
def splitEquals (text : String) : Option (String × String) :=
  (cut ['='] text.toList).map fun (before, behind) =>
    (String.ofList before, String.ofList behind)

/-- The flags that a cut long flag could stand for. -/
def longCandidates (spellings : List (String × Flag)) (text : String) : List Occurrence :=
  let (start, attached) :=
    match splitEquals text with
    | some (start, value) => (start, some value)
    | none => (text, none)
  spellings.filterMap fun (spelling, flag) =>
    if startsWith start.toList spelling.toList then some { spelling, flag, attached } else none

/-- The flags that an argument with one hyphen could stand for: a short flag with text right behind it,
    or a longer one cut short. -/
def shortCandidates (spellings : List (String × Flag)) (text : String) : List Occurrence :=
  let short := text.toList.take 2
  let attached := String.ofList (text.toList.drop 2)
  spellings.filterMap fun (spelling, flag) =>
    if spelling.toList == short then some { spelling, flag, attached := some attached }
    else if startsWith text.toList spelling.toList then some { spelling, flag, attached := none }
    else none

/-- An argument that is no flag by itself, nor with an equals sign. -/
def classifyUnlisted (spellings : List (String × Flag)) (text : String) : Except UsageError Word :=
  let candidates :=
    if startsWith ['-', '-'] text.toList then longCandidates spellings text
    else shortCandidates spellings text
  match candidates with
  | [occurrence] => .ok (.flag occurrence)
  | _ :: _ :: _ => .error (.ambiguous text (candidates.map Occurrence.spelling))
  | [] =>
    if isNegativeNumber text.toList || text.toList.contains ' ' then .ok (.argument text)
    else .ok (.unknown text)

/-- What an argument in front of any double dash is. -/
def classify (spellings : List (String × Flag)) (text : String) : Except UsageError Word :=
  if !startsWith ['-'] text.toList then .ok (.argument text)
  else
    match spellings.lookup text with
    | some flag => .ok (.flag { spelling := text, flag, attached := none })
    | none =>
      if text = "-" then .ok (.argument text)
      else
        match splitEquals text with
        | none => classifyUnlisted spellings text
        | some (start, value) =>
          match spellings.lookup start with
          | some flag => .ok (.flag { spelling := start, flag, attached := some value })
          | none => classifyUnlisted spellings text

/-- What the arguments are, in order. Nothing behind a double dash is a flag. -/
def classifyAll (spellings : List (String × Flag)) : List String → Except UsageError (List Word)
  | [] => .ok []
  | text :: rest =>
    if text = "--" then .ok (.doubleDash :: rest.map .argument)
    else do
      let word ← classify spellings text
      let words ← classifyAll spellings rest
      return word :: words

/-- The flags of one argument: those that stand alone, and the one that takes a value, with the value
    if it is part of the argument. -/
structure Run where
  alone : List Flag
  valued : Option (Flag × Option String)
deriving DecidableEq

/-- The run that a short flag opens, given the text attached to it. -/
def shortRun (spellings : List (String × Flag)) (flag : Flag) : List Char → Except UsageError Run
  | [] =>
    if flag.takesValue then .ok { alone := [], valued := some (flag, none) }
    else .ok { alone := [flag], valued := none }
  | c :: rest =>
    if flag.takesValue then
      .ok { alone := [], valued := some (flag, some (String.ofList (c :: rest))) }
    else
      match spellings.lookup (String.ofList ['-', c]) with
      | none => .error (.unwantedValue flag (String.ofList (c :: rest)))
      | some next => do
        let run ← shortRun spellings next rest
        return { run with alone := flag :: run.alone }

/-- The run of flags that an argument holds. -/
def runOf (spellings : List (String × Flag)) (occurrence : Occurrence) : Except UsageError Run :=
  match occurrence.attached with
  | none => shortRun spellings occurrence.flag []
  | some text =>
    if occurrence.flag.takesValue then
      .ok { alone := [], valued := some (occurrence.flag, some text) }
    else if startsWith ['-', '-'] occurrence.spelling.toList || text = "" then
      .error (.unwantedValue occurrence.flag text)
    else shortRun spellings occurrence.flag text.toList

/-- The value that a text stands for. -/
def readValue? (type : ValueType) (text : String) : Option Datum :=
  match type with
  | .text => some (.str text)
  | .int => (Number.readInt? text).map .int
  | .float => (Number.readFloat? text).map .float

/-- The value of a flag, read from a text. A double dash counts as no value at all. -/
def valueOf (flag : Flag) (text : String) : Except UsageError Datum :=
  if text = "--" then .ok (.list [])
  else
    let type := flag.type?.getD .text
    match readValue? type text with
    | none => .error (.badValue flag type text)
    | some value =>
      if flag.choices.isEmpty || flag.choices.contains text then .ok value
      else .error (.badChoice flag text)

/-- What has been read so far. -/
structure Progress where
  arguments : Arguments
  /-- The argument without flag is still to come. -/
  isOpen : Bool
  unknown : List String
  wantsHelp : Bool
deriving DecidableEq

namespace Progress

def store (progress : Progress) (flag : Flag) (text : String) : Except UsageError Progress := do
  let value ← valueOf flag text
  return { progress with arguments := progress.arguments.set flag.target value }

/-- Applies a flag that stands alone. -/
def apply (progress : Progress) (flag : Flag) : Progress :=
  match flag.action with
  | .store => progress
  | .constant value => { progress with arguments := progress.arguments.set flag.target value }
  | .help => { progress with wantsHelp := true }

def refuse (progress : Progress) (text : String) : Progress :=
  { progress with unknown := progress.unknown ++ [text] }

/-- Takes a text as the argument without flag. -/
def fill (progress : Progress) (positional : Flag) (text : String) : Progress :=
  { progress with
    arguments := progress.arguments.set positional.target (.str text)
    isOpen := false }

end Progress

/-- Goes through the words of a command line until help is asked for. A double dash next to the argument
    without flag belongs to it. -/
def goThrough (spellings : List (String × Flag)) (positional : Flag) :
    Progress → List Word → Except UsageError Progress
  | progress, [] => .ok progress
  | progress, .argument text :: rest =>
    if progress.isOpen then
      match rest with
      | .doubleDash :: rest => goThrough spellings positional (progress.fill positional text) rest
      | rest => goThrough spellings positional (progress.fill positional text) rest
    else goThrough spellings positional (progress.refuse text) rest
  | progress, .doubleDash :: rest =>
    if progress.isOpen then
      match rest with
      | .argument text :: rest =>
        goThrough spellings positional (progress.fill positional text) rest
      | rest => goThrough spellings positional { progress with isOpen := false } rest
    else goThrough spellings positional (progress.refuse "--") rest
  | progress, .unknown text :: rest => goThrough spellings positional (progress.refuse text) rest
  | progress, .flag occurrence :: rest => do
    let run ← runOf spellings occurrence
    match run.valued, rest with
    | none, rest =>
      let progress := run.alone.foldl Progress.apply progress
      if progress.wantsHelp then return progress else goThrough spellings positional progress rest
    | some (flag, some text), rest =>
      let progress := run.alone.foldl Progress.apply progress
      if progress.wantsHelp then return progress
      else
        let progress ← progress.store flag text
        goThrough spellings positional progress rest
    | some (flag, none), .argument text :: rest =>
      let progress := run.alone.foldl Progress.apply progress
      if progress.wantsHelp then return progress
      else
        let progress ← progress.store flag text
        goThrough spellings positional progress rest
    | some (flag, none), _ => .error (.missingValue flag)

namespace CommandLine

def defaults (line : CommandLine) : Arguments :=
  let flags := line.positional.toList ++ line.flags.map Prod.snd
  (flags.filter fun flag => flag.action != .help).map fun flag => (flag.target, flag.default)

/-- Reads arguments. A long flag may be cut short as long as no other one starts the same way, its value
    may follow an equals sign, and short flags may be run together. A double dash ends the flags. What
    looks like a negative number or holds a space is no flag. -/
def read (line : CommandLine) (arguments : List String) : Usage :=
  let positional := line.positional.getD (.value [] "" "")
  let start : Progress :=
    { arguments := line.defaults, isOpen := line.positional.isSome, unknown := []
      wantsHelp := false }
  let outcome := do
    let words ← classifyAll line.flags.spellings arguments
    goThrough line.flags.spellings positional start words
  match outcome with
  | .error error => .refused error
  | .ok progress =>
    if progress.wantsHelp then .help
    else if progress.unknown.isEmpty then .parsed progress.arguments
    else .refused (.unknown progress.unknown)

/-- The line that a program ends with when it refuses its arguments. -/
def refusal (line : CommandLine) (error : UsageError) : String :=
  line.program ++ ": error: " ++ error.message

end CommandLine

end MarkTree.Command
