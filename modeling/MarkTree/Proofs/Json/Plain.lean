import MarkTree.Datum.Entries
import MarkTree.Json.Writer

namespace MarkTree

namespace Datum

/-- Nothing, truth values, integers with at most `maxDigits` digits, texts, and lists and dictionaries
    of these. The keys of a dictionary are different texts. -/
inductive IsPlain : Datum → Prop
  | null : IsPlain .null
  | bool (value : Bool) : IsPlain (.bool value)
  | int {value : Int} (hsize : value.natAbs < Number.powerOfTen Number.maxDigits) : IsPlain (.int value)
  | str (text : String) : IsPlain (.str text)
  | list {items : List Datum} (hitems : ∀ item ∈ items, IsPlain item) : IsPlain (.list items)
  | dict {fields : List (String × Datum)} (hnames : (fields.map Prod.fst).Nodup)
      (hvalues : ∀ field ∈ fields, IsPlain field.2) : IsPlain (.dict (Entries.ofFields fields))

@[simp] theorem sameKey_str (a b : String) : (str a).sameKey (str b) = decide (a = b) := by
  by_cases heq : a = b <;> simp [sameKey, heq]

theorem equalItems_self {items : List Datum} (hitems : ∀ item ∈ items, item.equal item = true) :
    equalItems items items = true := by
  induction items with
  | nil => rfl
  | cons item items ih =>
    obtain ⟨hitem, hitems⟩ := List.forall_mem_cons.mp hitems
    rw [equalItems, hitem, ih hitems]
    rfl

/-- Some of the entries of a dictionary are found in it. -/
theorem equalEntries_of_subset {some all : List (Datum × Datum)} (hsubset : some ⊆ all)
    (hkeys : ∀ entry ∈ all, entry.1.equal entry.1 = true)
    (hvalues : ∀ entry ∈ all, entry.2.equal entry.2 = true) : equalEntries some all = true := by
  induction some with
  | nil => rfl
  | cons entry rest ih =>
    obtain ⟨hmem, hrest⟩ := List.cons_subset.mp hsubset
    have hfound : all.any (fun other => entry.1.equal other.1 && entry.2.equal other.2) = true := by
      rw [List.any_eq_true]
      exact ⟨entry, hmem, by rw [hkeys entry hmem, hvalues entry hmem, Bool.and_self]⟩
    rw [equalEntries, ih hrest, Bool.and_true]
    exact hfound

/-- Plain data equals itself. -/
theorem IsPlain.equal_self {value : Datum} (hplain : value.IsPlain) : value.equal value = true := by
  induction hplain with
  | null => rfl
  | bool => simp [equal, equalScalars, int?]
  | int => simp [equal, equalScalars, int?]
  | str => simp
  | list _ ih => exact equalItems_self ih
  | @dict fields _ _ ih =>
    have hkeys : ∀ entry ∈ Entries.ofFields fields, entry.1.equal entry.1 = true := by
      refine List.forall_mem_map.mpr ?_
      intro field _
      simp
    have hentries := equalEntries_of_subset (List.Subset.refl _) hkeys (List.forall_mem_map.mpr ih)
    rw [equal, hentries, beq_self_eq_true, Bool.and_self]

end Datum

namespace Entries

@[simp] theorem ofFields_nil : ofFields [] = [] := rfl

@[simp] theorem ofFields_cons (name : String) (value : Datum) (fields : List (String × Datum)) :
    ofFields ((name, value) :: fields) = (.str name, value) :: ofFields fields := rfl

/-- A new key is put at the end. -/
theorem insert_ofFields {name : String} (value : Datum) {fields : List (String × Datum)}
    (hfresh : name ∉ fields.map Prod.fst) :
    insert (.str name) value (ofFields fields) = ofFields (fields ++ [(name, value)]) := by
  induction fields with
  | nil => rfl
  | cons field rest ih =>
    obtain ⟨name', value'⟩ := field
    rw [List.map_cons, List.mem_cons, not_or] at hfresh
    obtain ⟨hother, hrest⟩ := hfresh
    rw [ofFields_cons, insert, Datum.sameKey_str, decide_eq_false hother, List.cons_append,
      ofFields_cons, ih hrest]
    rfl

end Entries

namespace Json

open Datum

theorem itemError?_eq_none {items : List Datum} (hitems : ∀ item ∈ items, writeError? item = none) :
    itemError? items = none := by
  induction items with
  | nil => rfl
  | cons item items ih =>
    obtain ⟨hitem, hitems⟩ := List.forall_mem_cons.mp hitems
    rw [itemError?, hitem, ih hitems]
    rfl

theorem entryError?_eq_none {fields : List (String × Datum)}
    (hfields : ∀ field ∈ fields, writeError? field.2 = none) :
    entryError? (Entries.ofFields fields) = none := by
  induction fields with
  | nil => rfl
  | cons field fields ih =>
    obtain ⟨hfield, hfields⟩ := List.forall_mem_cons.mp hfields
    rw [Entries.ofFields_cons, entryError?, hfield, ih hfields]
    rfl

/-- Plain data is written. -/
theorem writeError?_eq_none {value : Datum} (hplain : value.IsPlain) : writeError? value = none := by
  induction hplain with
  | null | bool | str => rfl
  | int hsize => rw [writeError?, integerError?, if_neg (Nat.not_le.mpr hsize)]
  | list _ ih => exact itemError?_eq_none ih
  | dict _ _ ih => exact entryError?_eq_none ih

end Json

end MarkTree
