import MarkTree.Command.Flag
import MarkTree.Datum.Sum
import MarkTree.Logging.Record

namespace MarkTree.Command

open MarkTree.Logging

/-- An option as it is described for its flag. An option with a truth value for default has a flag that
    stands alone and moves it away from the default, and any other one a flag that takes a value. All
    flags are off until they are given, so that other sources can fill in what is not. -/
structure OptionField where
  name : String
  /-- The default; an option may be without. -/
  default? : Option Datum
  help? : Option Datum
  /-- A name for the flag in place of the one made from the option. -/
  flagName? : Option Datum
  type? : Option ValueType
  importance : Datum
deriving DecidableEq

/-- The spelling of the flag of an option; a negated one says no. -/
def flagSpelling (name : String) (negated : Bool) : String :=
  let dashed := name.toList.map fun c => if c == '_' then '-' else c
  let no := ['n', 'o', '-']
  String.ofList (['-', '-'] ++ if negated && !no.isPrefixOf dashed then no ++ dashed else dashed)

/-- How important an option is, which decides what its flag is shown under. -/
inductive Importance where
  | core
  | advanced
deriving DecidableEq, Repr

def Importance.heading : Importance → Heading
  | .core => { title := "parser options", description := none }
  | .advanced =>
    { title := "diagnostic options"
      description := some "Where diagnostics say they come from" }

/-- The importance that a value names, if it names one. A value that cannot be a key is a fault. -/
def readImportance (value : Datum) : Except Fault (Option Importance) :=
  if !value.hashable then .error .unhashable
  else if value = .str "core" then .ok (some .core)
  else if value = .str "advanced" then .ok (some .advanced)
  else .ok none

def capitals (text : String) : String :=
  String.ofList (text.toList.map Char.toUpper)

namespace OptionField

/-- What a help text says of an option that is on by default. -/
def onNote : String := " (on by default)"

/-- The help text, which says so if the option is on by default. A list takes the note in letter by
    letter. -/
def helpText (field : OptionField) : Except Fault Datum :=
  let help := field.help?.getD (.str ("Configure " ++ field.name))
  if field.default? = some (.bool true) then
    match help with
    | .list items => .ok (.list (items ++ onNote.toList.map fun c => .str (String.singleton c)))
    | help => help.plus (.str onNote)
  else .ok help

def spelling (field : OptionField) : String :=
  let inferred := flagSpelling field.name (field.default? = some (.bool true))
  match field.flagName? with
  | some name => if name.truthy then "--" ++ name.display else inferred
  | none => inferred

def flag (field : OptionField) : Except Fault Flag := do
  let help ← field.helpText
  let base : Flag :=
    { spellings := [field.spelling], target := field.name, action := .store, help, metavar := none
      type? := none, choices := [], default := .null }
  match field.default? with
  | some (.bool value) => return { base with action := .constant (.bool !value) }
  | some default =>
    return { base with
      type? := some (field.type?.getD .text)
      metavar := some (capitals default.kindName) }
  | none => return { base with type? := some (field.type?.getD .text) }

end OptionField

/-- Why no flags are made for options. -/
inductive FlagsError where
  | fault (fault : Fault)
  /-- A default can change, so that options would share it. -/
  | sharedDefault (name : String)
  /-- An option without a default follows one that has a default. -/
  | missingDefault (name : String)
  /-- Two flags have one spelling. -/
  | clash (spelling : String)
deriving DecidableEq

/-- The note on an option whose importance is unknown. -/
def importanceNote (field : OptionField) : Record :=
  .plain .debug "mdnorm.cli.builder"
    ("Unknown importance " ++ field.importance.quoted ++ " for field " ++ field.name ++
      ", treating as core")

/-- The flags of options, none with one of the spellings that are taken. Notes say which options are
    treated as core ones because their importance is unknown. -/
def addFlags (taken : List String) : List OptionField → Except FlagsError (FlagList × List Record)
  | [] => .ok ([], [])
  | field :: rest =>
    match readImportance field.importance, field.flag with
    | .error found, _ => .error (.fault found)
    | .ok _, .error found => .error (.fault found)
    | .ok importance, .ok flag =>
      if taken.contains field.spelling then .error (.clash field.spelling)
      else do
        let (flags, notes) ← addFlags (field.spelling :: taken) rest
        let heading := (importance.getD .core).heading
        let note := if importance.isSome then [] else [importanceNote field]
        return ((heading, flag) :: flags, note ++ notes)

/-- The first option whose default can change, as those do that cannot be keys. -/
def sharedDefault? (fields : List OptionField) : Option OptionField :=
  fields.find? fun field => field.default?.any fun default => !default.hashable

/-- The first option without a default behind one that has a default. -/
def missingDefault? (fields : List OptionField) : Option OptionField :=
  (fields.dropWhile fun field => field.default?.isNone).find? fun field => field.default?.isNone

/-- The flags of options. What is wrong with the options is reported before what is wrong with their
    flags. -/
def optionFlags (fields : List OptionField) : Except FlagsError (FlagList × List Record) :=
  match sharedDefault? fields, missingDefault? fields with
  | some field, _ => .error (.sharedDefault field.name)
  | none, some field => .error (.missingDefault field.name)
  | none, none => addFlags [] fields

end MarkTree.Command
