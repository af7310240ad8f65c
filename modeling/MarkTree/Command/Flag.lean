import MarkTree.Datum.Entries

namespace MarkTree.Command

/-- What the text behind a flag is read as. -/
inductive ValueType where
  | text
  | int
  | float
deriving DecidableEq, Repr

namespace ValueType

def name : ValueType → String
  | .text => "str"
  | .int => "int"
  | .float => "float"

end ValueType

inductive Action where
  /-- It takes the next argument as its value. -/
  | store
  /-- It stands alone and sets a value. -/
  | constant (value : Datum)
  /-- It stands alone and asks for help. -/
  | help
deriving DecidableEq

/-- A flag of a command line, or the positional argument if it has no spelling. -/
structure Flag where
  spellings : List String
  /-- The name that its value goes by. -/
  target : String
  action : Action
  help : Datum
  metavar : Option String
  type? : Option ValueType
  /-- The texts that the value is one of, unless it is free. -/
  choices : List String
  default : Datum
deriving DecidableEq

namespace Flag

/-- A flag that stands alone and is off by default. -/
def switch (spellings : List String) (target help : String) : Flag :=
  { spellings, target, action := .constant (.bool true), help := .str help, metavar := none
    type? := none, choices := [], default := .bool false }

/-- A flag with a text behind it. -/
def value (spellings : List String) (target help : String) : Flag :=
  { spellings, target, action := .store, help := .str help, metavar := none, type? := none
    choices := [], default := .null }

def showHelp : Flag :=
  { spellings := ["-h", "--help"], target := "help", action := .help
    help := .str "show this help message and exit", metavar := none, type? := none, choices := []
    default := .str "==SUPPRESS==" }

def takesValue (flag : Flag) : Bool :=
  match flag.action with
  | .store => true
  | .constant _ | .help => false

/-- The spellings of a flag, as messages name it. -/
def shown (flag : Flag) : String :=
  "/".intercalate flag.spellings

end Flag

/-- What a group of flags is shown under. -/
structure Heading where
  title : String
  description : Option String
deriving DecidableEq

/-- Flags that are shown together. -/
structure Group where
  heading : Heading
  flags : List Flag
deriving DecidableEq

/-- Flags under their headings, in the order in which they are defined. -/
abbrev FlagList := List (Heading × Flag)

namespace FlagList

/-- The headings, each once, in the order in which they are first used. -/
def headings : FlagList → List Heading
  | [] => []
  | (heading, _) :: rest => heading :: (headings rest).filter (· != heading)

def under (flags : FlagList) (heading : Heading) : List Flag :=
  (flags.filter fun entry => entry.1 == heading).map Prod.snd

def groups (flags : FlagList) : List Group :=
  flags.headings.map fun heading => { heading, flags := flags.under heading }

/-- All spellings with their flags, in the order in which the flags are defined. -/
def spellings (flags : FlagList) : List (String × Flag) :=
  flags.flatMap fun (_, flag) => flag.spellings.map fun spelling => (spelling, flag)

end FlagList

/-- A command line: the program, the argument that it takes without flag if it takes one, and its flags. -/
structure CommandLine where
  program : String
  description : String
  positional : Option Flag
  flags : FlagList
deriving DecidableEq

/-- The values of arguments by name. -/
abbrev Arguments := List (String × Datum)

namespace Arguments

/-- The value of a name; null if it has none. -/
def get (arguments : Arguments) (name : String) : Datum :=
  (arguments.lookup name).getD .null

/-- Sets the value of a name, which keeps its place. -/
def set (name : String) (value : Datum) : Arguments → Arguments
  | [] => [(name, value)]
  | (name', value') :: rest =>
    if name = name' then (name', value) :: rest else (name', value') :: set name value rest

end Arguments

end MarkTree.Command
