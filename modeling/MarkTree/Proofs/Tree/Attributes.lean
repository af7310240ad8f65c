import MarkTree.Proofs.Tree.Siblings
import MarkTree.Tree.Attributes

namespace MarkTree

namespace Label

/-- A name that is a text reads as that text alone. -/
theorem reads_eq {label : Label} (hlabel : Node.isTextLabel label = true) (name : String) :
    label.reads name = (label.text == name) := by
  rw [reads, Node.isTextLabel_iff.mp hlabel, Bool.eq_iff_iff]
  simp

/-- Making the name canonical does not change what it reads as. -/
theorem value_canonical {label : Label} (hlabel : Node.isTextLabel label = true) :
    label.canonical.value = label.value :=
  (Node.isTextLabel_iff.mp hlabel).symm

theorem reads_canonical {label : Label} (hlabel : Node.isTextLabel label = true) (name : String) :
    label.canonical.reads name = label.reads name := by
  rw [reads, reads, value_canonical hlabel]

/-- A label that reads as a text is made the canonical name of that text. -/
theorem canonical_of_reads {label : Label} {name : String} (hreads : label.reads name = true) :
    label.canonical = .name name := by
  rw [reads, beq_iff_eq] at hreads
  rw [canonical, text, hreads, Datum.display_str]

@[simp] theorem canonical_canonical (label : Label) : label.canonical.canonical = label.canonical := rfl

/-- A label reads as one text at most. -/
theorem reads_eq_false_of_reads {label : Label} {name other : String}
    (hreads : label.reads name = true) (hne : name ≠ other) : label.reads other = false := by
  rw [reads, beq_iff_eq] at hreads
  simp [reads, hreads, hne]

end Label

namespace Attributes

variable {test : Label → Bool} {attributes : List Attribute}

/-- What is found is the value of some attribute whose label passes. -/
theorem exists_mem_of_findWhere? {value : Datum} (hfind : findWhere? test attributes = some value) :
    ∃ label, (label, value) ∈ attributes ∧ test label = true := by
  induction attributes with
  | nil => simp [findWhere?] at hfind
  | cons pair rest ih =>
    obtain ⟨label, found⟩ := pair
    by_cases htest : test label = true
    · simp only [findWhere?, htest, ↓reduceIte, Option.some.injEq] at hfind
      exact ⟨label, by simp [hfind], htest⟩
    · simp only [findWhere?, htest] at hfind
      obtain ⟨label', hmem, htest'⟩ := ih hfind
      exact ⟨label', List.mem_cons_of_mem _ hmem, htest'⟩

/-- Splitting leaves all attributes but the first that passes. -/
theorem splitWhere_snd (test : Label → Bool) (attributes : List Attribute) :
    (splitWhere test attributes).2 = attributes.eraseP fun pair => test pair.1 := by
  induction attributes with
  | nil => rfl
  | cons pair rest ih =>
    obtain ⟨label, value⟩ := pair
    by_cases htest : test label = true
    · simp [splitWhere, htest]
    · simp [splitWhere, htest, ih]

/-- What is left is the attributes without the first one of the name. -/
theorem splitFirst_snd (name : String) (attributes : List Attribute) :
    (splitFirst name attributes).2 = attributes.eraseP fun pair => pair.1.reads name :=
  splitWhere_snd _ attributes

/-- Among attributes with texts for values, a text is found or nothing. -/
theorem find?_eq_none_or_str
    (hattributes : Node.TextAttributes attributes) (name : String) :
    find? name attributes = none ∨ ∃ text, find? name attributes = some (.str text) := by
  cases hfind : find? name attributes with
  | none => exact .inl rfl
  | some value =>
    obtain ⟨label, hmem, _⟩ := exists_mem_of_findWhere? hfind
    obtain ⟨text, rfl⟩ := Node.isTextDatum_iff.mp (hattributes _ hmem).2
    exact .inr ⟨text, rfl⟩

/-- Looking up a name does not depend on whether the names are canonical. -/
theorem find?_canonical
    (hattributes : Node.TextAttributes attributes) (name : String) :
    find? name (attributes.map fun pair => (pair.1.canonical, pair.2)) = find? name attributes := by
  induction attributes with
  | nil => rfl
  | cons pair rest ih =>
    obtain ⟨label, value⟩ := pair
    obtain ⟨⟨hlabel, -⟩, hattributes⟩ := Node.textAttributes_cons.mp hattributes
    have hrest := ih hattributes
    simp only [find?, List.map_cons, findWhere?, Label.reads_canonical hlabel] at hrest ⊢
    rw [hrest]

end Attributes

end MarkTree
