import MarkTree.Proofs.Tree.Siblings
import MarkTree.Tree.Wire

namespace MarkTree

/-- Texts and truth values have the property, and so have lists and records whose parts have it. -/
structure Datum.IsInherited (P : Datum → Prop) : Prop where
  str (text : String) : P (.str text)
  bool (value : Bool) : P (.bool value)
  list {items : List Datum} (hitems : ∀ item ∈ items, P item) : P (.list items)
  record {fields : List (String × Datum)} (hnames : (fields.map Prod.fst).Nodup)
    (hvalues : ∀ field ∈ fields, P field.2) : P (.record fields)

namespace Node

variable {P : Datum → Prop}

/-- A property that is passed on holds of the wire form of attributes that are texts. -/
theorem holds_attributesToDatum (hP : Datum.IsInherited P) {attributes : List Attribute}
    (hattributes : TextAttributes attributes) : P (attributesToDatum attributes) := by
  refine hP.list (List.forall_mem_map.mpr fun pair hmem => ?_)
  obtain ⟨text, htext⟩ := isTextDatum_iff.mp (hattributes pair hmem).2
  refine hP.list ?_
  simp [htext, hP.str]

theorem holds_toDatum_of_leaf (hP : Datum.IsInherited P) {node : Node} (hleaf : node.isElement = false)
    (hwell : wellTyped node = true) : P (toDatum node) := by
  rcases eq_of_wellTyped_leaf hleaf hwell with ⟨text, rfl⟩ | ⟨text, value, rfl⟩
  · have hnames : ["node_type", "content"].Nodup := by decide
    refine hP.record hnames ?_
    simp [hP.str]
  · have hnames : ["node_type", "content", "is_output_marker"].Nodup := by decide
    refine hP.record hnames ?_
    simp [hP.str, hP.bool]

/-- A property that is passed on holds of all wire objects of a document if it holds of all metadata. -/
theorem holds_toData (hP : Datum.IsInherited P) {nodes : List Node} : areWellTyped nodes = true →
    (∀ metadata ∈ metadataOf nodes, P metadata) → ∀ item ∈ toData nodes, P item := by
  induction nodes using siblings_induction with
  | nil => exact fun _ _ => List.forall_mem_nil _
  | leaf node rest hleaf ih =>
    intro hwell hmetadata
    obtain ⟨hnode, hrest⟩ := areWellTyped_cons.mp hwell
    rw [metadataOf_leaf hleaf] at hmetadata
    exact List.forall_mem_cons.mpr ⟨holds_toDatum_of_leaf hP hleaf hnode, ih hrest hmetadata⟩
  | element tag attributes children metadata rest ihChildren ih =>
    intro hwell hmetadata
    obtain ⟨hparts, hrest⟩ := areWellTyped_element.mp hwell
    rw [metadataOf_element, List.forall_mem_cons, List.forall_mem_append] at hmetadata
    obtain ⟨hown, hchildren, hothers⟩ := hmetadata
    have hattributes := holds_attributesToDatum hP hparts.attributes
    have hitems : P (.list (toData children)) := hP.list (ihChildren hparts.children hchildren)
    have hnames : ["node_type", "tag", "attributes", "children", "metadata"].Nodup := by decide
    refine List.forall_mem_cons.mpr ⟨hP.record hnames ?_, ih hrest hothers⟩
    simp [hattributes, hitems, hown, hP.str]

end Node

end MarkTree
