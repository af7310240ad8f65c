import MarkTree.Proofs.Tree.Attributes
import MarkTree.Tree.Normalize

namespace MarkTree

namespace Node

theorem startsWithCodeBlock_eq (nodes : List Node) :
    startsWithCodeBlock nodes = nodes.head?.any isCodeBlock := by
  cases nodes <;> rfl

/-- What the walk looks at in an element: names and class values are texts, metadata is a dictionary. -/
structure UsableElement (tag : Label) (attributes : List Attribute) (metadata : Datum) : Prop where
  tag : isTextLabel tag = true
  names : ∀ pair ∈ attributes, isTextLabel pair.1 = true
  classes : ∀ pair ∈ attributes, pair.1.reads "class" = true → isTextDatum pair.2 = true
  metadata : ∃ entries, metadata = .dict entries

/-- The walk can use every element of the document. -/
def IsUsable (document : Document) : Prop :=
  ∀ tag attributes children metadata, .element tag attributes children metadata ∈ nodesOf document →
    UsableElement tag attributes metadata

theorem keyFault?_eq_none {label : Label} (hlabel : isTextLabel label = true) :
    keyFault? label = none := by
  simp [keyFault?, isTextLabel_iff.mp hlabel, Datum.hashable]

theorem nameFault?_eq_none {label : Label} (hlabel : isTextLabel label = true) :
    nameFault? label = none := by
  rw [nameFault?, isTextLabel_iff.mp hlabel]
  rfl

theorem attributeFault?_eq_none {attributes : List Attribute}
    (hnames : ∀ pair ∈ attributes, isTextLabel pair.1 = true) : attributeFault? attributes = none := by
  induction attributes with
  | nil => rfl
  | cons pair rest ih =>
    obtain ⟨hlabel, hrest⟩ := List.forall_mem_cons.mp hnames
    simp [attributeFault?, nameFault?_eq_none hlabel, ih hrest]

theorem metadataFault?_eq_none {metadata : Datum} (hmetadata : ∃ entries, metadata = .dict entries) :
    metadataFault? metadata = none := by
  obtain ⟨entries, rfl⟩ := hmetadata
  rfl

/-- A dictionary makes itself. -/
theorem metadataRecord_eq {metadata : Datum} (hmetadata : ∃ entries, metadata = .dict entries) :
    metadataRecord metadata = metadata := by
  obtain ⟨entries, rfl⟩ := hmetadata
  rfl

/-- The metadata of a normalized element is a dictionary. -/
theorem isDict_metadataRecord (metadata : Datum) :
    ∃ entries, metadataRecord metadata = .dict entries := by
  unfold metadataRecord
  split
  · exact ⟨_, rfl⟩
  · exact ⟨_, rfl⟩

namespace UsableElement

variable {tag : Label} {attributes : List Attribute} {metadata : Datum}

/-- The class of the element is a text, if it has one. -/
theorem class_eq (h : UsableElement tag attributes metadata) :
    Attributes.find? "class" attributes = none ∨
      ∃ text, Attributes.find? "class" attributes = some (.str text) := by
  cases hfind : Attributes.find? "class" attributes with
  | none => exact .inl rfl
  | some value =>
    obtain ⟨label, hmem, hreads⟩ := Attributes.exists_mem_of_findWhere? hfind
    obtain ⟨text, rfl⟩ := isTextDatum_iff.mp (h.classes _ hmem hreads)
    exact .inr ⟨text, rfl⟩

/-- The class of a usable element can be taken apart. -/
theorem classFault?_eq_none (h : UsableElement tag attributes metadata) :
    classFault? attributes = none := by
  rcases h.class_eq with hfind | ⟨text, hfind⟩ <;> simp [classFault?, hfind]

end UsableElement

section Usable

variable {tag : Label} {attributes : List Attribute} {below rest : List Node} {metadata : Datum}

theorem IsUsable.tail {node : Node} (h : IsUsable (node :: rest)) : IsUsable rest :=
  fun tag attributes children metadata hmem =>
    h tag attributes children metadata (List.mem_append_right _ hmem)

theorem IsUsable.head (h : IsUsable (.element tag attributes below metadata :: rest)) :
    UsableElement tag attributes metadata :=
  h tag attributes below metadata (by simp)

theorem IsUsable.children (h : IsUsable (.element tag attributes below metadata :: rest)) :
    IsUsable below :=
  fun tag attributes children metadata hmem =>
    h tag attributes children metadata (by simp [hmem])

/-- A usable quote is examined without fault. -/
theorem quoteFault?_eq_none (hself : UsableElement tag attributes metadata)
    (hbelow : IsUsable below) : quoteFault? attributes below = none := by
  rcases below with _ | ⟨first, rest⟩
  · rfl
  · cases first with
    | element tag' attributes' grandchildren metadata' =>
      have hfirst := hbelow.head
      rcases hself.class_eq with hfind | ⟨text, hfind⟩ <;>
        simp [quoteFault?, keyFault?_eq_none hfirst.tag, hfirst.classFault?_eq_none, hfind]
    | _ => rfl

/-- Usable captured output is normalized without fault. -/
theorem capturedFault?_eq_none {node : Node} (h : IsUsable (node :: rest)) :
    capturedFault? node = none := by
  unfold capturedFault?
  split
  · have houter := h.head
    have hinner := h.children.head
    simp [nameFault?_eq_none houter.tag, attributeFault?_eq_none houter.names,
      metadataFault?_eq_none houter.metadata, nameFault?_eq_none hinner.tag,
      attributeFault?_eq_none hinner.names, metadataFault?_eq_none hinner.metadata]
  · rfl

end Usable

/-- Usable siblings are normalized without fault, whether or not a marker stands in front of them. -/
theorem faults?_eq_none (nodes : List Node) :
    ∀ captured, IsUsable nodes → faults? captured nodes = none := by
  induction nodes using siblings_induction with
  | nil => intros; rfl
  | leaf node rest hleaf ih =>
    intro captured husable
    have hfault : fault? node = none := by
      cases node with
      | element => simp [isElement] at hleaf
      | _ => rfl
    simp [faults?, ih _ husable.tail, capturedFault?_eq_none husable, hfault]
  | element tag attributes children metadata rest ihChildren ih =>
    intro captured husable
    have hself := husable.head
    have hfault : fault? (.element tag attributes children metadata) = none := by
      unfold fault?
      split
      · rfl
      · simp [quoteFault?_eq_none hself husable.children, nameFault?_eq_none hself.tag,
          attributeFault?_eq_none hself.names, ihChildren false husable.children,
          metadataFault?_eq_none hself.metadata]
    simp [faults?, ih _ husable.tail, capturedFault?_eq_none husable, hfault]

theorem isUsable_of_wellTyped {nodes : List Node} (hwell : areWellTyped nodes = true) :
    IsUsable nodes := by
  induction nodes using siblings_induction with
  | nil =>
    intro _ _ _ _ hmem
    cases hmem
  | leaf node rest hleaf ih =>
    intro tag attributes children metadata hmem
    rw [nodesOf_cons, nodesFrom_leaf hleaf, List.singleton_append, List.mem_cons] at hmem
    rcases hmem with rfl | hmem
    · cases hleaf
    · exact ih (areWellTyped_cons.mp hwell).2 _ _ _ _ hmem
  | element tag attributes children metadata rest ihChildren ih =>
    obtain ⟨hself, hrest⟩ := areWellTyped_element.mp hwell
    intro tag' attributes' children' metadata' hmem
    rw [nodesOf_cons, nodesFrom_element, List.cons_append, List.mem_cons, List.mem_append] at hmem
    rcases hmem with heq | hmem | hmem
    · cases heq
      exact ⟨hself.tag, fun pair hpair => (hself.attributes pair hpair).1,
        fun pair hpair _ => (hself.attributes pair hpair).2, hself.metadata⟩
    · exact ihChildren hself.children _ _ _ _ hmem
    · exact ih hrest _ _ _ _ hmem

end Node

/-- A usable document has a normal form, the one that the walk makes. -/
theorem normalize_eq_ok_of_usable {document : Document} (husable : Node.IsUsable document) :
    normalize document = .ok (Node.normalizedAll false document) := by
  rw [normalize, Node.faults?_eq_none document false husable]

/-- A well-typed document has a normal form, the one that the walk makes. -/
theorem normalize_eq_ok {document : Document} (hwell : Node.areWellTyped document = true) :
    normalize document = .ok (Node.normalizedAll false document) :=
  normalize_eq_ok_of_usable (Node.isUsable_of_wellTyped hwell)

end MarkTree
