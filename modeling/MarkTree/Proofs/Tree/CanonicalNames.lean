import MarkTree.Proofs.Tree.Attributes
import MarkTree.Tree.Equality
import MarkTree.Tree.Normalize

namespace MarkTree.Node

mutual

/-- The same tree with canonical names. -/
def withCanonicalNames : Node → Node
  | .element tag attributes children metadata =>
    .element tag.canonical (canonicalAttributes attributes) (allWithCanonicalNames children) metadata
  | .text content => .text content
  | .comment content marker => .comment content marker
  | .bare => .bare
  | .foreign kindName => .foreign kindName

def allWithCanonicalNames : List Node → List Node
  | [] => []
  | node :: rest => withCanonicalNames node :: allWithCanonicalNames rest

end

theorem withCanonicalNames_leaf {node : Node} (hleaf : node.isElement = false) :
    withCanonicalNames node = node := by
  cases node with
  | element => simp [isElement] at hleaf
  | _ => rfl

/-- Making names canonical again changes nothing. -/
@[simp] theorem canonicalAttributes_canonicalAttributes (attributes : List Attribute) :
    canonicalAttributes (canonicalAttributes attributes) = canonicalAttributes attributes := by
  simp [canonicalAttributes]

theorem areCanonical_leaf {node : Node} (hleaf : node.isElement = false) (rest : List Node) :
    areCanonical (node :: rest) = areCanonical rest := by
  cases node with
  | element => cases hleaf
  | _ => simp [areCanonical, isCanonical]

theorem areCanonical_element {tag : Label} {attributes : List Attribute} {children : List Node}
    {metadata : Datum} {rest : List Node} :
    areCanonical (.element tag attributes children metadata :: rest) = true ↔
      (tag.isCanonical = true ∧ (∀ pair ∈ attributes, pair.1.isCanonical = true) ∧
        areCanonical children = true) ∧ areCanonical rest = true := by
  simp only [areCanonical, isCanonical, Bool.and_eq_true, List.all_eq_true, and_assoc]

/-- Attributes that were made canonical have canonical names. -/
theorem isCanonical_of_mem_canonicalAttributes (attributes : List Attribute) :
    ∀ pair ∈ canonicalAttributes attributes, pair.1.isCanonical = true := by
  intro pair hmem
  obtain ⟨given, -, rfl⟩ := List.mem_map.mp hmem
  exact Label.isCanonical_canonical given.1

/-- Nodes that were made canonical have canonical names at every depth. -/
theorem areCanonical_allWithCanonicalNames (nodes : List Node) :
    areCanonical (allWithCanonicalNames nodes) = true := by
  induction nodes using siblings_induction with
  | nil => rfl
  | leaf node rest hleaf ih =>
    rw [allWithCanonicalNames, withCanonicalNames_leaf hleaf, areCanonical_leaf hleaf, ih]
  | element tag attributes children metadata rest ihChildren ih =>
    rw [allWithCanonicalNames, withCanonicalNames, areCanonical_element]
    refine ⟨⟨Label.isCanonical_canonical tag, ?_, ihChildren⟩, ih⟩
    exact isCanonical_of_mem_canonicalAttributes attributes

theorem canonical_eq_self {label : Label} (hlabel : label.isCanonical = true) :
    label.canonical = label := by
  cases label with
  | plain => cases hlabel
  | name text => exact Label.canonical_name text

theorem canonicalAttributes_eq_self {attributes : List Attribute}
    (hattributes : ∀ pair ∈ attributes, pair.1.isCanonical = true) :
    canonicalAttributes attributes = attributes := by
  have hsame : ∀ pair ∈ attributes, (pair.1.canonical, pair.2) = pair := by
    intro pair hmem
    rw [canonical_eq_self (hattributes pair hmem)]
  exact (List.map_congr_left hsame).trans (List.map_id' attributes)

/-- A document with canonical names stays as it is. -/
theorem allWithCanonicalNames_eq_self {nodes : List Node} :
    areCanonical nodes = true → allWithCanonicalNames nodes = nodes := by
  induction nodes using siblings_induction with
  | nil => exact fun _ => rfl
  | leaf node rest hleaf ih =>
    intro hcanonical
    rw [areCanonical_leaf hleaf] at hcanonical
    rw [allWithCanonicalNames, withCanonicalNames_leaf hleaf, ih hcanonical]
  | element tag attributes children metadata rest ihChildren ih =>
    intro hcanonical
    obtain ⟨⟨htag, hattributes, hchildren⟩, hrest⟩ := areCanonical_element.mp hcanonical
    rw [allWithCanonicalNames, withCanonicalNames, canonical_eq_self htag,
      canonicalAttributes_eq_self hattributes, ihChildren hchildren, ih hrest]

theorem equal_canonical {label : Label} (hlabel : isTextLabel label = true) :
    label.canonical.value.equal label.value = true := by
  rw [Label.value_canonical hlabel, isTextLabel_iff.mp hlabel, Datum.equal_str, beq_self_eq_true]

/-- Attributes stay the same by value when their names are made canonical. -/
theorem equalAttributes_canonicalAttributes {attributes : List Attribute}
    (hattributes : TextAttributes attributes) :
    equalAttributes (canonicalAttributes attributes) attributes = true := by
  induction attributes with
  | nil => rfl
  | cons pair rest ih =>
    obtain ⟨label, value⟩ := pair
    obtain ⟨⟨hlabel, hvalue⟩, hrest⟩ := textAttributes_cons.mp hattributes
    obtain ⟨text, rfl⟩ := isTextDatum_iff.mp hvalue
    rw [canonicalAttributes, List.map_cons, equalAttributes, equal_canonical hlabel, Datum.equal_str,
      beq_self_eq_true]
    exact ih hrest

theorem equal_self_of_leaf {node : Node} (hleaf : node.isElement = false)
    (hwell : wellTyped node = true) : node.equal node = true := by
  rcases eq_of_wellTyped_leaf hleaf hwell with ⟨text, rfl⟩ | ⟨text, value, rfl⟩
  · exact beq_self_eq_true text
  · have hmarker : (Datum.bool value).equal (.bool value) = true := beq_self_eq_true _
    rw [equal, Datum.equal_str, beq_self_eq_true, hmarker]
    rfl

/-- Canonical names read as the names they are made from. Metadata may hold values that equal nothing, so
    that of the document has to equal itself. -/
theorem equalAll_allWithCanonicalNames {nodes : List Node} : areWellTyped nodes = true →
    (∀ metadata ∈ metadataOf nodes, metadata.equal metadata = true) →
      equalAll (allWithCanonicalNames nodes) nodes = true := by
  induction nodes using siblings_induction with
  | nil => exact fun _ _ => rfl
  | leaf node rest hleaf ih =>
    intro hwell hmetadata
    obtain ⟨hnode, hrest⟩ := areWellTyped_cons.mp hwell
    rw [metadataOf_leaf hleaf] at hmetadata
    rw [allWithCanonicalNames, withCanonicalNames_leaf hleaf, equalAll, equal_self_of_leaf hleaf hnode,
      ih hrest hmetadata]
    rfl
  | element tag attributes children metadata rest ihChildren ih =>
    intro hwell hmetadata
    obtain ⟨hparts, hrest⟩ := areWellTyped_element.mp hwell
    rw [metadataOf_element, List.forall_mem_cons, List.forall_mem_append] at hmetadata
    obtain ⟨hown, hchildren, hothers⟩ := hmetadata
    rw [allWithCanonicalNames, withCanonicalNames, equalAll, equal, equal_canonical hparts.tag,
      equalAttributes_canonicalAttributes hparts.attributes, ihChildren hparts.children hchildren, hown,
      ih hrest hothers]
    rfl

end MarkTree.Node
