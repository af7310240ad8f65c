import MarkTree.Datum.Equality
import MarkTree.Fault
import MarkTree.Number.FloatText
import MarkTree.Number.Reading
import MarkTree.Text.Quoted

namespace MarkTree.Datum

open MarkTree.Number

/-- Digits stand in their places from four places behind the point up to sixteen before it. -/
def floatLayout : FloatLayout :=
  { leastPositional := -4, leastScientific := 16, exponentDigits := 2, nan := "nan",
    infinity := "inf" }

/-- The text of a value that is no list and no dictionary, texts between quotes. -/
def showScalar : Datum → String
  | .null => "None"
  | .bool value => if value then "True" else "False"
  | .int value => toString value
  | .float value => writeFloat floatLayout value
  | .str text => Text.quoted text
  | .foreign kindName => "<" ++ kindName ++ ">"
  | .kind name => "<class " ++ Text.quoted name ++ ">"
  | .list _ | .dict _ => ""

mutual

/-- The text of a value, texts between quotes. -/
def quoted : Datum → String
  | .list [] => "[]"
  | .list (item :: items) => "[" ++ quoted item ++ quotedRest items ++ "]"
  | .dict [] => "\x7b\x7d"
  | .dict ((key, value) :: entries) =>
    "\x7b" ++ quoted key ++ ": " ++ quoted value ++ quotedEntries entries ++ "\x7d"
  | .null => showScalar .null
  | .bool v => showScalar (.bool v)
  | .int v => showScalar (.int v)
  | .float v => showScalar (.float v)
  | .str v => showScalar (.str v)
  | .foreign v => showScalar (.foreign v)
  | .kind v => showScalar (.kind v)

def quotedRest : List Datum → String
  | [] => ""
  | item :: items => ", " ++ quoted item ++ quotedRest items

def quotedEntries : List (Datum × Datum) → String
  | [] => ""
  | (key, value) :: entries =>
    ", " ++ quoted key ++ ": " ++ quoted value ++ quotedEntries entries

end

/-- The text of a value inside a message. A text stands for itself on its own and between quotes inside a
    list or dictionary. -/
def display : Datum → String
  | .str text => text
  | d => quoted d

@[simp] theorem display_str (text : String) : display (.str text) = text := rfl

/-- The text of a value, except that an integer of too many digits has none. -/
def spelling : Datum → Except Fault String
  | .int value => if powerOfTen maxDigits ≤ value.natAbs then .error .overlong else .ok (toString value)
  | value => .ok value.display

/-- The text of a value as a name. What cannot be a key is no name. -/
def nameText (value : Datum) : Except Fault String :=
  if value.hashable then value.spelling else .error .unhashable

end MarkTree.Datum
