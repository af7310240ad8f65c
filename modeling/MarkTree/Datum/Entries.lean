import MarkTree.Datum.Equality
import MarkTree.Fault

namespace MarkTree

/-- The entries of a dictionary, in the order in which their keys were first written. -/
abbrev Entries := List (Datum × Datum)

namespace Entries

/-- The value at a key that is a text. -/
def get? (name : String) : Entries → Option Datum
  | [] => none
  | (key, value) :: rest => if key = .str name then some value else get? name rest

/-- Sets the value at a key. A key that is already there keeps its place and its spelling. -/
def insert (key value : Datum) : Entries → Entries
  | [] => [(key, value)]
  | (key', value') :: rest =>
    if key.sameKey key' then (key', value) :: rest else (key', value') :: insert key value rest

/-- A dictionary whose keys are texts. -/
def ofFields (fields : List (String × Datum)) : Entries :=
  fields.map fun (name, value) => (.str name, value)

end Entries

namespace Datum

def record (fields : List (String × Datum)) : Datum :=
  .dict (Entries.ofFields fields)

/-- The elements of a sequence. Those of a text are its characters, those of a dictionary its keys. -/
def elements : Datum → Except Fault (List Datum)
  | .list items => .ok items
  | .str text => .ok (text.toList.map fun c => .str (String.ofList [c]))
  | .dict entries => .ok (entries.map Prod.fst)
  | _ => .error .notIterable

/-- A sequence of two elements, taken apart. -/
def pair (d : Datum) : Except Fault (Datum × Datum) := do
  match ← d.elements with
  | [first, second] => .ok (first, second)
  | _ => .error .wrongLength

/-- The entries of a value that is a dictionary. -/
def entries? : Datum → Option Entries
  | .dict entries => some entries
  | _ => none

/-- A dictionary, or a sequence of pairs of a key and a value, as a dictionary. -/
def toEntries : Datum → Except Fault Entries
  | .dict entries => .ok entries
  | d => do
    let items ← d.elements
    items.foldlM (fun entries item => do
      let (key, value) ← item.pair
      if key.hashable then .ok (Entries.insert key value entries) else .error .unhashable) []

/-- Looks up a field in a value that has to be a dictionary. -/
def field? (name : String) : Datum → Except Fault (Option Datum)
  | .dict entries => .ok (Entries.get? name entries)
  | _ => .error .notRecord

end Datum

end MarkTree
