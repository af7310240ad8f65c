import MarkTree.Tree.Node

namespace MarkTree.Node

def isElement : Node → Bool
  | .element _ _ _ _ => true
  | .text _ | .comment _ _ | .bare | .foreign _ => false

theorem isElement_text (content : Datum) : isElement (.text content) = false := rfl

/-- An output marker is no element. -/
theorem isElement_of_isOutputMarker {node : Node} (hmarker : node.isOutputMarker = true) :
    node.isElement = false := by
  cases node with
  | element => simp [isOutputMarker] at hmarker
  | _ => rfl

section Induction

variable {P : List Node → Prop}

mutual

private theorem holds_cons (nil : P [])
    (leaf : ∀ node rest, node.isElement = false → P rest → P (node :: rest))
    (element : ∀ tag attributes children metadata rest, P children → P rest →
      P (.element tag attributes children metadata :: rest)) :
    (node : Node) → (rest : List Node) → P rest → P (node :: rest)
  | .element tag attributes children metadata, rest, hrest =>
    element tag attributes children metadata rest (holds nil leaf element children) hrest
  | .text content, rest, hrest => leaf (.text content) rest rfl hrest
  | .comment content marker, rest, hrest => leaf (.comment content marker) rest rfl hrest
  | .bare, rest, hrest => leaf .bare rest rfl hrest
  | .foreign kindName, rest, hrest => leaf (.foreign kindName) rest rfl hrest

private theorem holds (nil : P [])
    (leaf : ∀ node rest, node.isElement = false → P rest → P (node :: rest))
    (element : ∀ tag attributes children metadata rest, P children → P rest →
      P (.element tag attributes children metadata :: rest)) :
    (nodes : List Node) → P nodes
  | [] => nil
  | node :: rest => holds_cons nil leaf element node rest (holds nil leaf element rest)

end

/-- Induction over siblings. An element in front comes with the hypothesis for its children and the one
    for the siblings behind it, so no second statement about single nodes is needed. -/
theorem siblings_induction (nil : P [])
    (leaf : ∀ node rest, node.isElement = false → P rest → P (node :: rest))
    (element : ∀ tag attributes children metadata rest, P children → P rest →
      P (.element tag attributes children metadata :: rest))
    (nodes : List Node) : P nodes :=
  holds nil leaf element nodes

end Induction

mutual

/-- A node and all nodes below it, in preorder. -/
def nodesFrom : Node → List Node
  | .element tag attributes children metadata =>
    .element tag attributes children metadata :: nodesOf children
  | .text content => [.text content]
  | .comment content marker => [.comment content marker]
  | .bare => [.bare]
  | .foreign kindName => [.foreign kindName]

/-- All nodes of a document, in preorder. -/
def nodesOf : List Node → List Node
  | [] => []
  | node :: rest => nodesFrom node ++ nodesOf rest

end

/-- The texts and comments of a document, in reading order. -/
def leavesOf (document : Document) : List Node :=
  (nodesOf document).filter fun node => !node.isElement

@[simp] theorem nodesOf_nil : nodesOf [] = [] := rfl

@[simp] theorem nodesOf_cons (node : Node) (rest : List Node) :
    nodesOf (node :: rest) = nodesFrom node ++ nodesOf rest := rfl

theorem nodesOf_append (front back : List Node) :
    nodesOf (front ++ back) = nodesOf front ++ nodesOf back := by
  induction front with
  | nil => rfl
  | cons node rest ih => rw [List.cons_append, nodesOf_cons, ih, nodesOf_cons, List.append_assoc]

@[simp] theorem nodesFrom_element (tag : Label) (attributes : List Attribute)
    (children : List Node) (metadata : Datum) :
    nodesFrom (.element tag attributes children metadata) =
      .element tag attributes children metadata :: nodesOf children := rfl

theorem nodesFrom_leaf {node : Node} (hleaf : node.isElement = false) : nodesFrom node = [node] := by
  cases node with
  | element => simp [isElement] at hleaf
  | _ => rfl

def metadata? : Node → Option Datum
  | .element _ _ _ metadata => some metadata
  | .text _ | .comment _ _ | .bare | .foreign _ => none

/-- The metadata of the elements of a document, in preorder. -/
def metadataOf (document : Document) : List Datum :=
  (nodesOf document).filterMap metadata?

@[simp] theorem metadataOf_nil : metadataOf [] = [] := rfl

theorem metadataOf_leaf {node : Node} (hleaf : node.isElement = false) (rest : List Node) :
    metadataOf (node :: rest) = metadataOf rest := by
  have hnone : node.metadata? = none := by
    cases node with
    | element => cases hleaf
    | _ => rfl
  rw [metadataOf, nodesOf_cons, nodesFrom_leaf hleaf, List.singleton_append,
    List.filterMap_cons_none hnone]
  rfl

theorem metadataOf_element (tag : Label) (attributes : List Attribute) (children : List Node)
    (metadata : Datum) (rest : List Node) :
    metadataOf (.element tag attributes children metadata :: rest) =
      metadata :: (metadataOf children ++ metadataOf rest) := by
  have hown : metadata? (.element tag attributes children metadata) = some metadata := rfl
  rw [metadataOf, nodesOf_cons, nodesFrom_element, List.cons_append, List.filterMap_cons_some hown,
    List.filterMap_append]
  rfl

/-- How many nodes of a document pass a test. -/
def countOf (test : Node → Bool) (document : Document) : Nat :=
  (nodesOf document).countP test

@[simp] theorem countOf_nil (test : Node → Bool) : countOf test [] = 0 := rfl

theorem countOf_leaf (test : Node → Bool) {node : Node} (hleaf : node.isElement = false)
    (rest : List Node) : countOf test (node :: rest) = (test node).toNat + countOf test rest := by
  rw [countOf, nodesOf_cons, nodesFrom_leaf hleaf, List.countP_append, List.countP_singleton]
  cases test node <;> rfl

theorem countOf_element (test : Node → Bool) (tag : Label) (attributes : List Attribute)
    (children : List Node) (metadata : Datum) (rest : List Node) :
    countOf test (.element tag attributes children metadata :: rest) =
      (test (.element tag attributes children metadata)).toNat +
        (countOf test children + countOf test rest) := by
  rw [countOf, nodesOf_cons, nodesFrom_element, List.cons_append, List.countP_cons,
    List.countP_append, Nat.add_comm]
  cases test (.element tag attributes children metadata) <;> rfl

theorem isTextLabel_iff {label : Label} : isTextLabel label = true ↔ label.value = .str label.text := by
  obtain (value | text) := label
  · cases value <;> simp [isTextLabel, Label.value, Label.text]
  · simp [isTextLabel, Label.value]

theorem isTextDatum_iff {value : Datum} : isTextDatum value = true ↔ ∃ text, value = .str text := by
  cases value <;> simp [isTextDatum]

/-- A well-typed leaf is a text or a comment. -/
theorem eq_of_wellTyped_leaf {node : Node} (hleaf : node.isElement = false)
    (hwell : wellTyped node = true) :
    (∃ text, node = .text (.str text)) ∨ ∃ text value, node = .comment (.str text) (.bool value) := by
  cases node with
  | element => cases hleaf
  | text content =>
    obtain ⟨text, rfl⟩ := isTextDatum_iff.mp hwell
    exact .inl ⟨text, rfl⟩
  | comment content marker =>
    rw [wellTyped, Bool.and_eq_true, Bool.or_eq_true, beq_iff_eq, beq_iff_eq] at hwell
    obtain ⟨hcontent, hmarker⟩ := hwell
    obtain ⟨text, rfl⟩ := isTextDatum_iff.mp hcontent
    rcases hmarker with rfl | rfl
    · exact .inr ⟨text, true, rfl⟩
    · exact .inr ⟨text, false, rfl⟩
  | bare => cases hwell
  | foreign => cases hwell

/-- Attributes whose names and values are texts. -/
def TextAttributes (attributes : List Attribute) : Prop :=
  ∀ pair ∈ attributes, isTextLabel pair.1 = true ∧ isTextDatum pair.2 = true

theorem textAttributes_nil : TextAttributes [] :=
  List.forall_mem_nil _

theorem textAttributes_cons {pair : Attribute} {rest : List Attribute} :
    TextAttributes (pair :: rest) ↔
      (isTextLabel pair.1 = true ∧ isTextDatum pair.2 = true) ∧ TextAttributes rest :=
  List.forall_mem_cons

theorem TextAttributes.sublist {attributes fewer : List Attribute}
    (hattributes : TextAttributes attributes) (hfewer : fewer.Sublist attributes) :
    TextAttributes fewer :=
  fun pair hmem => hattributes pair (hfewer.subset hmem)

/-- The parts of a well-typed element. -/
structure WellTypedElement (tag : Label) (attributes : List Attribute) (children : List Node)
    (metadata : Datum) : Prop where
  tag : isTextLabel tag = true
  attributes : TextAttributes attributes
  children : areWellTyped children = true
  metadata : ∃ entries, metadata = .dict entries

/-- An element is well typed if its fields and its children are. -/
theorem wellTyped_element_iff {tag : Label} {attributes : List Attribute} {children : List Node}
    {metadata : Datum} : wellTyped (.element tag attributes children metadata) = true ↔
      WellTypedElement tag attributes children metadata := by
  simp only [wellTyped, Bool.and_eq_true, List.all_eq_true]
  constructor
  · rintro ⟨⟨⟨htag, hattributes⟩, hchildren⟩, hmetadata⟩
    refine ⟨htag, hattributes, hchildren, ?_⟩
    cases metadata <;> simp [Datum.entries?] at hmetadata ⊢
  · rintro ⟨htag, hattributes, hchildren, entries, rfl⟩
    exact ⟨⟨⟨htag, hattributes⟩, hchildren⟩, rfl⟩

theorem areWellTyped_cons {node : Node} {rest : List Node} :
    areWellTyped (node :: rest) = true ↔ wellTyped node = true ∧ areWellTyped rest = true := by
  simp [areWellTyped]

theorem areWellTyped_element {tag : Label} {attributes : List Attribute} {children : List Node}
    {metadata : Datum} {rest : List Node} :
    areWellTyped (.element tag attributes children metadata :: rest) = true ↔
      WellTypedElement tag attributes children metadata ∧ areWellTyped rest = true := by
  rw [areWellTyped_cons, wellTyped_element_iff]

theorem areWellTyped_append {front back : List Node} :
    areWellTyped (front ++ back) = true ↔ areWellTyped front = true ∧ areWellTyped back = true := by
  induction front with
  | nil => simp [areWellTyped]
  | cons node rest ih => simp [areWellTyped_cons, ih, and_assoc]

theorem wellTyped_of_mem {nodes : List Node} (hwell : areWellTyped nodes = true) {node : Node}
    (hmem : node ∈ nodes) : wellTyped node = true := by
  obtain ⟨front, back, rfl⟩ := List.append_of_mem hmem
  exact (areWellTyped_cons.mp (areWellTyped_append.mp hwell).2).1

end MarkTree.Node
