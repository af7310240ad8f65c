import MarkTree.Tree.Node

namespace MarkTree.Attributes

/-- The value of the first attribute whose label passes a test. Names may repeat; the first attribute of a
    name is the one that counts. The test says which labels are meant: those that read a text, or those
    that are equal to some value. -/
def findWhere? (test : Label → Bool) : List Attribute → Option Datum
  | [] => none
  | (label, value) :: rest => if test label then some value else findWhere? test rest

/-- The value of the first attribute whose label passes a test, and all the other attributes in their
    order. -/
def splitWhere (test : Label → Bool) : List Attribute → Option Datum × List Attribute
  | [] => (none, [])
  | (label, value) :: rest =>
    if test label then (some value, rest)
    else
      let (found, others) := splitWhere test rest
      (found, (label, value) :: others)

/-- The value of the first attribute of a name. -/
def find? (name : String) (attributes : List Attribute) : Option Datum :=
  findWhere? (Label.reads name) attributes

/-- The value of the first attribute whose label passes a test, or else a default. -/
def getWhere (test : Label → Bool) (default : Datum) (attributes : List Attribute) : Datum :=
  (findWhere? test attributes).getD default

/-- The value of the first attribute of a name, or else a default. -/
def get (name : String) (default : Datum) (attributes : List Attribute) : Datum :=
  getWhere (Label.reads name) default attributes

/-- The value of the first attribute of a name, and all the other attributes in their order. -/
def splitFirst (name : String) (attributes : List Attribute) : Option Datum × List Attribute :=
  splitWhere (Label.reads name) attributes

/-- Splitting finds the value that looking up finds. -/
theorem splitWhere_fst (test : Label → Bool) (attributes : List Attribute) :
    (splitWhere test attributes).1 = findWhere? test attributes := by
  induction attributes with
  | nil => rfl
  | cons head rest ih =>
    obtain ⟨label, value⟩ := head
    by_cases h : test label = true <;> simp [splitWhere, findWhere?, h, ih]

/-- Without an attribute that passes nothing is split off. -/
theorem splitWhere_snd_of_findWhere?_eq_none {test : Label → Bool} {attributes : List Attribute}
    (hnone : findWhere? test attributes = none) : (splitWhere test attributes).2 = attributes := by
  induction attributes with
  | nil => rfl
  | cons head rest ih =>
    obtain ⟨label, value⟩ := head
    by_cases h : test label = true
    · simp [findWhere?, h] at hnone
    · simp only [findWhere?, h] at hnone
      simp [splitWhere, h, ih hnone]

/-- Splitting off a name finds the value that looking it up finds. -/
theorem splitFirst_fst (name : String) (attributes : List Attribute) :
    (splitFirst name attributes).1 = find? name attributes :=
  splitWhere_fst _ attributes

end MarkTree.Attributes
