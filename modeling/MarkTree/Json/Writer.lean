import MarkTree.Datum.Display
import MarkTree.Number.Reading

namespace MarkTree.Json

open MarkTree.Number

/-- Why a value is not written. -/
inductive WriteError where
  /-- JSON has no form for values of this kind. -/
  | unsupported (kindName : String)
  /-- No key is of this kind. -/
  | badKey (kindName : String)
  /-- An integer has too many digits. -/
  | overlong
deriving DecidableEq, Repr

/-- Floats as in messages, with the names that JSON readers take for what is no finite number. -/
def floatLayout : FloatLayout :=
  { Datum.floatLayout with nan := "NaN", infinity := "Infinity" }

/-- One character of a text. Outside the control characters, the quote and the backslash each stands for
    itself. -/
def escape (c : Char) : List Char :=
  if c == '\x22' || c == '\\' then ['\\', c]
  else if c == '\n' then ['\\', 'n']
  else if c == '\r' then ['\\', 'r']
  else if c == '\t' then ['\\', 't']
  else if c == '\x08' then ['\\', 'b']
  else if c == '\x0c' then ['\\', 'f']
  else if c.toNat < 32 then ['\\', 'u'] ++ Text.Quoted.hex 4 c.toNat
  else [c]

def writeText (text : String) : List Char :=
  '\x22' :: text.toList.flatMap escape ++ ['\x22']

/-- A literal or number. A value that JSON has no form for counts as null. -/
def writeScalar : Datum → List Char
  | .bool value => (if value then "true" else "false").toList
  | .int value => (toString value).toList
  | .float value => (writeFloat floatLayout value).toList
  | .str text => writeText text
  | _ => "null".toList

/-- A key. A key that is no text is written as one. -/
def writeKey : Datum → List Char
  | .str text => writeText text
  | key => '\x22' :: writeScalar key ++ ['\x22']

/-- The line end and indentation at a depth; nothing when all stands on one line. -/
def lineBreak (indent : Option (List Char)) (depth : Nat) : List Char :=
  match indent with
  | none => []
  | some unit => '\n' :: (List.replicate depth unit).flatten

/-- What separates two items at a depth. -/
def separator (indent : Option (List Char)) (depth : Nat) : List Char :=
  match indent with
  | none => [',', ' ']
  | some _ => ',' :: lineBreak indent depth

mutual

/-- Writes a value whose brackets are nested `depth` deep. With an indentation every item and entry stands
    on a line of its own; empty lists and dictionaries stay on one. -/
def write (indent : Option (List Char)) (depth : Nat) : Datum → List Char
  | .list [] => ['[', ']']
  | .list (item :: items) =>
    '[' :: lineBreak indent (depth + 1) ++ write indent (depth + 1) item ++
      writeItems indent (depth + 1) items ++ lineBreak indent depth ++ [']']
  | .dict [] => ['\x7b', '\x7d']
  | .dict ((key, value) :: entries) =>
    '\x7b' :: lineBreak indent (depth + 1) ++ writeKey key ++ [':', ' '] ++
      write indent (depth + 1) value ++ writeEntries indent (depth + 1) entries ++
      lineBreak indent depth ++ ['\x7d']
  | .null => writeScalar .null
  | .bool value => writeScalar (.bool value)
  | .int value => writeScalar (.int value)
  | .float value => writeScalar (.float value)
  | .str text => writeScalar (.str text)
  | .foreign _ => writeScalar .null
  | .kind _ => writeScalar .null

def writeItems (indent : Option (List Char)) (depth : Nat) : List Datum → List Char
  | [] => []
  | item :: items =>
    separator indent depth ++ write indent depth item ++ writeItems indent depth items

def writeEntries (indent : Option (List Char)) (depth : Nat) : List (Datum × Datum) → List Char
  | [] => []
  | (key, value) :: entries =>
    separator indent depth ++ writeKey key ++ [':', ' '] ++ write indent depth value ++
      writeEntries indent depth entries

end

/-- Integers are written only if they can be read again. -/
def integerError? (value : Int) : Option WriteError :=
  if powerOfTen maxDigits ≤ value.natAbs then some .overlong else none

/-- Keys are texts, numbers, truth values or null. -/
def keyError? : Datum → Option WriteError
  | .int value => integerError? value
  | .null | .bool _ | .float _ | .str _ => none
  | key => some (.badKey key.kindName)

mutual

/-- What keeps a value from being written, the first in the order of writing. -/
def writeError? : Datum → Option WriteError
  | .list items => itemError? items
  | .dict entries => entryError? entries
  | .int value => integerError? value
  | .foreign kindName => some (.unsupported kindName)
  | .kind _ => some (.unsupported "type")
  | .null | .bool _ | .float _ | .str _ => none

def itemError? : List Datum → Option WriteError
  | [] => none
  | item :: items => (writeError? item).or (itemError? items)

def entryError? : List (Datum × Datum) → Option WriteError
  | [] => none
  | (key, value) :: entries => (keyError? key).or ((writeError? value).or (entryError? entries))

end

/-- A character beyond ASCII as the escapes of its UTF-16 units. -/
def escapeWide (c : Char) : List Char :=
  let escaped (unit : Nat) : List Char := ['\\', 'u'] ++ Text.Quoted.hex 4 unit
  if c.toNat < 128 then [c]
  else if c.toNat < 0x10000 then escaped c.toNat
  else
    let rest := c.toNat - 0x10000
    escaped (0xD800 + rest / 0x400) ++ escaped (0xDC00 + rest % 0x400)

/-- A value on one line of ASCII. -/
def writeAscii (value : Datum) : List Char :=
  (write none 0 value).flatMap escapeWide

/-- The text of a value on one line or indented. -/
def render (indent : Option String) (value : Datum) : Except WriteError String :=
  match writeError? value with
  | some error => .error error
  | none => .ok (String.ofList (write (indent.map String.toList) 0 value))

end MarkTree.Json
