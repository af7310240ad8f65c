import MarkTree.Datum.Entries
import MarkTree.Json.Writer

namespace MarkTree

namespace Datum

mutual

/-- A value and all values inside it, in the order of writing. Keys are no values. -/
def values : Datum → List Datum
  | .list items => .list items :: valuesOfItems items
  | .dict entries => .dict entries :: valuesOfEntries entries
  | .null => [.null]
  | .bool value => [.bool value]
  | .int value => [.int value]
  | .float value => [.float value]
  | .str text => [.str text]
  | .foreign kindName => [.foreign kindName]
  | .kind name => [.kind name]

def valuesOfItems : List Datum → List Datum
  | [] => []
  | item :: items => values item ++ valuesOfItems items

def valuesOfEntries : List (Datum × Datum) → List Datum
  | [] => []
  | (_, value) :: entries => values value ++ valuesOfEntries entries

end

/-- The value is no literal, number, text, list or dictionary, so JSON has no form for it. -/
def isOpaque : Datum → Bool
  | .foreign _ | .kind _ => true
  | .null | .bool _ | .int _ | .float _ | .str _ | .list _ | .dict _ => false

/-- The keys of all dictionaries in the value are texts. -/
inductive HasTextKeys : Datum → Prop
  | null : HasTextKeys .null
  | bool (value : Bool) : HasTextKeys (.bool value)
  | int (value : Int) : HasTextKeys (.int value)
  | float (value : Float) : HasTextKeys (.float value)
  | str (text : String) : HasTextKeys (.str text)
  | foreign (kindName : String) : HasTextKeys (.foreign kindName)
  | kind (name : String) : HasTextKeys (.kind name)
  | list {items : List Datum} (hitems : ∀ item ∈ items, HasTextKeys item) : HasTextKeys (.list items)
  | dict {fields : List (String × Datum)} (hvalues : ∀ field ∈ fields, HasTextKeys field.2) :
      HasTextKeys (.dict (Entries.ofFields fields))

theorem values_list (items : List Datum) : values (.list items) = .list items :: items.flatMap values := by
  have hitems : valuesOfItems items = items.flatMap values := by
    induction items with
    | nil => rfl
    | cons item items ih => rw [valuesOfItems, ih, List.flatMap_cons]
  rw [values, hitems]

theorem values_dict (entries : Entries) :
    values (.dict entries) = .dict entries :: entries.flatMap fun entry => entry.2.values := by
  have hentries : valuesOfEntries entries = entries.flatMap fun entry => entry.2.values := by
    induction entries with
    | nil => rfl
    | cons entry entries ih => rw [valuesOfEntries, ih, List.flatMap_cons]
  rw [values, hentries]

end Datum

namespace Json

open Datum

/-- What keeps the value itself from being written, whatever is inside it. -/
def obstacle? : Datum → Option WriteError
  | .int value => integerError? value
  | .foreign kindName => some (.unsupported kindName)
  | .kind _ => some (.unsupported "type")
  | .null | .bool _ | .float _ | .str _ | .list _ | .dict _ => none

/-- The first error of a list is the first obstacle among the values inside its items. -/
theorem itemError?_eq {items : List Datum}
    (hitems : ∀ item ∈ items, writeError? item = item.values.findSome? obstacle?) :
    itemError? items = (items.flatMap values).findSome? obstacle? := by
  induction items with
  | nil => rfl
  | cons item items ih =>
    obtain ⟨hitem, hitems⟩ := List.forall_mem_cons.mp hitems
    rw [itemError?, hitem, ih hitems, List.flatMap_cons, List.findSome?_append]

/-- The first error of a record is the first obstacle among the values inside its fields. -/
theorem entryError?_eq {fields : List (String × Datum)}
    (hfields : ∀ field ∈ fields, writeError? field.2 = field.2.values.findSome? obstacle?) :
    entryError? (Entries.ofFields fields) =
      ((Entries.ofFields fields).flatMap fun entry => entry.2.values).findSome? obstacle? := by
  induction fields with
  | nil => rfl
  | cons field fields ih =>
    obtain ⟨hfield, hfields⟩ := List.forall_mem_cons.mp hfields
    have hrest := ih hfields
    rw [Entries.ofFields, List.map_cons, entryError?, ← Entries.ofFields, hfield, hrest,
      List.flatMap_cons, List.findSome?_append]
    rfl

/-- The first value in the order of writing that cannot be written is the one that is reported. -/
theorem writeError?_eq {value : Datum} (hkeys : value.HasTextKeys) :
    writeError? value = value.values.findSome? obstacle? := by
  induction hkeys with
  | null | bool | float | str | foreign | kind => rfl
  | int value =>
    rw [writeError?, values, List.findSome?_singleton]
    rfl
  | list _ ih =>
    rw [writeError?, itemError?_eq ih, values_list, List.findSome?_cons_of_isNone]
    rfl
  | dict _ ih =>
    rw [writeError?, entryError?_eq ih, values_dict, List.findSome?_cons_of_isNone]
    rfl

/-- The value is an integer with more digits than are written. -/
def IsOverlong (value : Datum) : Prop :=
  ∃ number : Int, value = .int number ∧ Number.powerOfTen Number.maxDigits ≤ number.natAbs

/-- An obstacle is a value without a form in JSON, or an integer that is too long. -/
theorem obstacle?_eq_some_iff {value : Datum} {error : WriteError} :
    obstacle? value = some error ↔
      (value.isOpaque = true ∧ error = .unsupported value.kindName) ∨
        (IsOverlong value ∧ error = .overlong) := by
  cases value with
  | int number =>
    rw [obstacle?, integerError?]
    split
    · rename_i hlong
      simp [isOpaque, IsOverlong, hlong, eq_comm]
    · rename_i hshort
      simp [isOpaque, IsOverlong, hshort]
  | foreign | kind => simp [obstacle?, isOpaque, IsOverlong, kindName, eq_comm]
  | _ => simp [obstacle?, isOpaque, IsOverlong]

/-- Somewhere in the value something is in the way of writing it. -/
def Obstructs (error : WriteError) (value : Datum) : Prop :=
  ∃ inner ∈ value.values, obstacle? inner = some error

section

variable {error : WriteError}

/-- What holds other values and is not in the way itself. -/
theorem exists_obstacle_iff {α : Type} {self : Datum} {items : List α} {parts : α → List Datum}
    (hself : obstacle? self = none) :
    (∃ inner ∈ self :: items.flatMap parts, obstacle? inner = some error) ↔
      ∃ item ∈ items, ∃ inner ∈ parts item, obstacle? inner = some error := by
  constructor
  · rintro ⟨inner, hmem, herror⟩
    obtain rfl | hmem := List.mem_cons.mp hmem
    · rw [hself] at herror
      cases herror
    · obtain ⟨item, hitem, hinner⟩ := List.mem_flatMap.mp hmem
      exact ⟨item, hitem, inner, hinner, herror⟩
  · rintro ⟨item, hitem, inner, hinner, herror⟩
    exact ⟨inner, List.mem_cons_of_mem _ (List.mem_flatMap.mpr ⟨item, hitem, hinner⟩), herror⟩

theorem obstructs_list {items : List Datum} :
    Obstructs error (.list items) ↔ ∃ item ∈ items, Obstructs error item := by
  rw [Obstructs, values_list]
  exact exists_obstacle_iff rfl

theorem obstructs_record {fields : List (String × Datum)} :
    Obstructs error (.record fields) ↔ ∃ field ∈ fields, Obstructs error field.2 := by
  rw [Obstructs, Datum.record, values_dict, Entries.ofFields, List.flatMap_map]
  exact exists_obstacle_iff rfl

theorem not_obstructs_str (text : String) : ¬ Obstructs error (.str text) := by
  simp [Obstructs, values, obstacle?]

theorem not_obstructs_bool (value : Bool) : ¬ Obstructs error (.bool value) := by
  simp [Obstructs, values, obstacle?]

/-- What is reported of a value with texts for keys is an obstacle inside it. -/
theorem obstructs_of_writeError? {value : Datum} (hkeys : value.HasTextKeys)
    (herror : writeError? value = some error) : Obstructs error value := by
  rw [writeError?_eq hkeys] at herror
  exact List.exists_of_findSome?_eq_some herror

/-- Where nothing is reported nothing is in the way. -/
theorem not_obstructs_of_writeError? {value : Datum} (hkeys : value.HasTextKeys)
    (hnone : writeError? value = none) : ¬ Obstructs error value := by
  rw [writeError?_eq hkeys, List.findSome?_eq_none_iff] at hnone
  rintro ⟨inner, hinner, herror⟩
  rw [hnone inner hinner] at herror
  cases herror

end

end Json

end MarkTree
