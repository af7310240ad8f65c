import MarkTree.Tree.Node

namespace MarkTree

/-- A canonical name: its text, and its number in the order of making, which tells it from every other
    one. -/
structure Name where
  text : String
  serial : Nat
deriving DecidableEq, Repr

/-- Values that a name can be asked for. Values of other kinds than texts can be the same key as a text,
    however they are spelled. -/
class Nameable (α : Type) where
  /-- The value can be searched for in a table. -/
  hashable : α → Bool
  /-- The value is the same key as the text. -/
  isText : α → String → Bool
  /-- The value as a text. -/
  spelling : α → Except Fault String

instance : Nameable String where
  hashable _ := true
  isText value text := value == text
  spelling value := .ok value

/-- A name is compared and spelled like its text. -/
instance : Nameable Name where
  hashable _ := true
  isText name text := name.text == text
  spelling name := .ok name.text

/-- Only texts are the same key as a text. -/
instance : Nameable Datum where
  hashable := Datum.hashable
  isText value text := value.sameKey (.str text)
  spelling := Datum.spelling

instance {α β : Type} [Nameable α] [Nameable β] : Nameable (α ⊕ β) where
  hashable := Sum.elim Nameable.hashable Nameable.hashable
  isText := Sum.elim Nameable.isText Nameable.isText
  spelling := Sum.elim Nameable.spelling Nameable.spelling

/-- The names made so far, each under its key, in the order of making. The table is searched with the
    value that is asked for, whatever its kind, and written with the spelling of the value. -/
structure NameTable where
  entries : List (String × Name)
deriving DecidableEq, Repr

namespace NameTable

variable {α : Type} [Nameable α]

def empty : NameTable :=
  { entries := [] }

/-- The name under the key that the value is the same as. -/
def find? (table : NameTable) (value : α) : Option Name :=
  (table.entries.find? fun (key, _) => Nameable.isText value key).map Prod.snd

/-- The name under a key. If there is none, a new one is put there. -/
def setDefault (table : NameTable) (key : String) : Name × NameTable :=
  match table.find? key with
  | some name => (name, table)
  | none =>
    let name : Name := { text := key, serial := table.entries.length }
    (name, { entries := table.entries ++ [(key, name)] })

/-- The canonical name of a value. What cannot be a key or be spelled has none. -/
def nameOf (table : NameTable) (value : α) : Except Fault Name × NameTable :=
  if Nameable.hashable value then
    match table.find? value with
    | some name => (.ok name, table)
    | none =>
      match Nameable.spelling value with
      | .ok text =>
        let (name, table) := table.setDefault text
        (.ok name, table)
      | .error fault => (.error fault, table)
  else (.error .unhashable, table)

/-- The canonical names of values that are asked for one after the other. -/
def nameAll (table : NameTable) : List α → List (Except Fault Name) × NameTable
  | [] => ([], table)
  | value :: values =>
    let (result, next) := table.nameOf value
    let (results, last) := nameAll next values
    (result :: results, last)

/-- How a name shows itself in a message. -/
def showName (name : Name) : String :=
  "Name(" ++ Text.quoted name.text ++ ")"

end NameTable

end MarkTree
