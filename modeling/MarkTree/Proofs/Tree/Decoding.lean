import MarkTree.Proofs.Result
import MarkTree.Proofs.Tree.RoundTrip

namespace MarkTree.Node

/-- Nodes as they are read: each has a wire object that keeps all of it, and all names are canonical. -/
structure IsDecoded (nodes : List Node) : Prop where
  wire : Throughout HasWireObject nodes
  names : areCanonical nodes = true

theorem isDecoded_nil : IsDecoded [] :=
  ⟨throughout_nil, rfl⟩

/-- Nodes are like decoded ones if the first is and the others are. -/
theorem IsDecoded.cons {node : Node} {rest : List Node} (hnode : IsDecoded [node])
    (hrest : IsDecoded rest) : IsDecoded (node :: rest) := by
  refine ⟨throughout_cons.mpr ⟨hnode.wire, hrest.wire⟩, ?_⟩
  have hnames := hnode.names
  rw [areCanonical, Bool.and_eq_true] at hnames ⊢
  exact ⟨hnames.1, hrest.names⟩

theorem isDecoded_leaf {node : Node} (hleaf : node.isElement = false) (hwire : HasWireObject node) :
    IsDecoded [node] := by
  refine ⟨(throughout_leaf hleaf).mpr hwire, ?_⟩
  rw [areCanonical_leaf hleaf, areCanonical]

theorem isDecoded_element {tag : Label} {attributes : List Attribute} {children : List Node}
    (htag : tag.isCanonical = true) (hattributes : ∀ pair ∈ attributes, pair.1.isCanonical = true)
    (hchildren : IsDecoded children) (entries : Entries) :
    IsDecoded [.element tag attributes children (.dict entries)] := by
  refine ⟨throughout_element.mpr ⟨.element, hchildren.wire⟩, ?_⟩
  exact areCanonical_element.mpr ⟨⟨htag, hattributes, hchildren.names⟩, rfl⟩

/-- Every name that is read is canonical. -/
theorem isCanonical_decodeName {value : Datum} {label : Label} (h : decodeName value = .ok label) :
    label.isCanonical = true := by
  obtain ⟨text, -, heq⟩ := bind_eq_ok_iff.mp h
  cases heq
  rfl

theorem isCanonical_decodeTag {entries : Entries} {tag : Label} (h : decodeTag entries = .ok tag) :
    tag.isCanonical = true := by
  unfold decodeTag at h
  split at h
  · cases h
  · exact isCanonical_decodeName h

theorem isCanonical_decodeAttribute {value : Datum} {pair : Attribute}
    (h : decodeAttribute value = .ok pair) : pair.1.isCanonical = true := by
  obtain ⟨given, -, hname⟩ := bind_eq_ok_iff.mp h
  obtain ⟨label, hlabel, heq⟩ := bind_eq_ok_iff.mp hname
  cases heq
  exact isCanonical_decodeName hlabel

theorem isCanonical_mapM_decodeAttribute {items : List Datum} : ∀ {attributes : List Attribute},
    items.mapM decodeAttribute = .ok attributes → ∀ pair ∈ attributes, pair.1.isCanonical = true := by
  induction items with
  | nil =>
    intro attributes h
    cases h
    exact List.forall_mem_nil _
  | cons item items ih =>
    intro attributes h
    rw [List.mapM_cons] at h
    obtain ⟨pair, hpair, h⟩ := bind_eq_ok_iff.mp h
    obtain ⟨rest, hrest, heq⟩ := bind_eq_ok_iff.mp h
    cases heq
    exact List.forall_mem_cons.mpr ⟨isCanonical_decodeAttribute hpair, ih hrest⟩

/-- All attributes that are read have canonical names. -/
theorem isCanonical_decodeAttributes {entries : Entries} {attributes : List Attribute}
    (h : decodeAttributes entries = .ok attributes) : ∀ pair ∈ attributes, pair.1.isCanonical = true := by
  obtain ⟨items, -, hitems⟩ := bind_eq_ok_iff.mp h
  exact isCanonical_mapM_decodeAttribute hitems

mutual

/-- What is read from a value is as nodes that have been read are, case by case along the reading. -/
theorem isDecoded_decode : (value : Datum) → {node : Node} → decode value = .ok node →
    IsDecoded [node]
  | .dict entries, node, h => by
    rw [decode] at h
    dsimp only at h
    split at h
    · cases h
      exact isDecoded_leaf rfl .text
    · split at h
      · cases h
        exact isDecoded_leaf rfl .comment
      · split at h
        · obtain ⟨tag, htag, h⟩ := bind_eq_ok_iff.mp h
          obtain ⟨attributes, hattributes, h⟩ := bind_eq_ok_iff.mp h
          obtain ⟨children, hchildren, h⟩ := bind_eq_ok_iff.mp h
          obtain ⟨metadata, -, heq⟩ := bind_eq_ok_iff.mp h
          cases heq
          exact isDecoded_element (isCanonical_decodeTag htag) (isCanonical_decodeAttributes hattributes)
            (isDecoded_decodeChildren entries hchildren) metadata
        · cases h
  | .null, _, h | .bool _, _, h | .int _, _, h | .float _, _, h | .str _, _, h | .list _, _, h
  | .foreign _, _, h | .kind _, _, h => by cases h

/-- Children are read as decoded nodes. -/
theorem isDecoded_decodeChildren : (entries : List (Datum × Datum)) → {nodes : List Node} →
    decodeChildren entries = .ok nodes → IsDecoded nodes
  | [], _, h => by
    cases h
    exact isDecoded_nil
  | (key, value) :: rest, nodes, h => by
    rw [decodeChildren] at h
    split at h
    · exact isDecoded_decodeSequence value h
    · exact isDecoded_decodeChildren rest h

/-- Whatever is read as a sequence is read as decoded nodes. -/
theorem isDecoded_decodeSequence : (value : Datum) → {nodes : List Node} →
    decodeSequence value = .ok nodes → IsDecoded nodes
  | .list items, _, h => isDecoded_decodeAll items h
  | .str letters, _, h => by
    rw [decodeSequence] at h
    split at h
    · cases h
      exact isDecoded_nil
    · cases h
  | .dict entries, _, h => by
    rw [decodeSequence] at h
    split at h
    · cases h
      exact isDecoded_nil
    · cases h
  | .null, _, h | .bool _, _, h | .int _, _, h | .float _, _, h | .foreign _, _, h | .kind _, _, h => by
    cases h

/-- The items of a list are read as decoded nodes. -/
theorem isDecoded_decodeAll : (items : List Datum) → {nodes : List Node} →
    decodeAll items = .ok nodes → IsDecoded nodes
  | [], _, h => by
    cases h
    exact isDecoded_nil
  | item :: items, _, h => by
    rw [decodeAll] at h
    obtain ⟨node, hnode, h⟩ := bind_eq_ok_iff.mp h
    obtain ⟨nodes, hnodes, heq⟩ := bind_eq_ok_iff.mp h
    cases heq
    exact (isDecoded_decode item hnode).cons (isDecoded_decodeAll items hnodes)

end

theorem decodeAll_singleton {value : Datum} {node : Node} (h : decodeAll [value] = .ok [node]) :
    decode value = .ok node := by
  rw [decodeAll] at h
  obtain ⟨node', hnode, h⟩ := bind_eq_ok_iff.mp h
  obtain ⟨nodes, -, heq⟩ := bind_eq_ok_iff.mp h
  cases heq
  exact hnode

/-- A node that has been read is written without an error, and it is read again from what is written. -/
theorem IsDecoded.decode_toDatum {node : Node} (h : IsDecoded [node]) :
    node.encode = .ok node.toDatum ∧ decode node.toDatum = .ok node := by
  have hknown := anyUnknown?_of_wireObject h.wire
  have hread := decodeAll_toData_of_wireObject h.wire
  rw [anyUnknown?, anyUnknown?, Option.or_none] at hknown
  rw [allWithCanonicalNames_eq_self h.names] at hread
  refine ⟨?_, decodeAll_singleton hread⟩
  rw [encode, hknown]

/-- Decoding settles in one step. Whatever is read as a node, the node has canonical names; it can be
    written; reading what is written gives the very same node, and writing that one gives the same wire
    object again. -/
theorem decode_settles {value : Datum} {node : Node} (hread : decode value = .ok node) :
    node.isCanonical = true ∧ ∃ wire, node.encode = .ok wire ∧ decode wire = .ok node ∧
      (decode wire >>= encode) = .ok wire := by
  have hdecoded := isDecoded_decode value hread
  have hnames := hdecoded.names
  rw [areCanonical, areCanonical, Bool.and_true] at hnames
  obtain ⟨hwrite, hagain⟩ := hdecoded.decode_toDatum
  refine ⟨hnames, node.toDatum, hwrite, hagain, ?_⟩
  exact bind_eq_ok_iff.mpr ⟨node, hagain, hwrite⟩

/-- A wire object with a number for its tag, attributes that are a text of two letters, a dictionary of
    two keys and a nameless pair, metadata as a list of pairs, a marker that is a number, an unknown field
    and texts without content. -/
def sloppyWire : Datum :=
  .record [("node_type", .str "Element"), ("tag", .int 5), ("level", .null),
    ("attributes", .list [.str "ab", .record [("k", .int 1), ("v", .int 2)], .list [.null, .list []]]),
    ("children", .list [.record [("is_output_marker", .int 3), ("node_type", .str "Comment")],
      .record [("node_type", .str "Text")]]),
    ("metadata", .list [.str "xy", .list [.bool true, .null]])]

/-- What is read from it. -/
def tidyNode : Node :=
  .element (.name "5") [(.name "a", .str "b"), (.name "k", .str "v"), (.name "None", .list [])]
    [.comment (.str "") (.bool true), .text (.str "")]
    (.dict [(.str "x", .str "y"), (.bool true, .null)])

theorem decode_settles_sloppyWire :
    decode sloppyWire = .ok tidyNode ∧ tidyNode.isCanonical = true ∧
      ∃ wire, tidyNode.encode = .ok wire ∧ decode wire = .ok tidyNode ∧
        (decode wire >>= encode) = .ok wire := by
  have htag : decodeName (.int 5) = .ok (.name "5") := by
    have hshort : ¬ Number.powerOfTen Number.maxDigits ≤ (5 : Int).natAbs := by decide +kernel
    have htext : (Datum.int 5).spelling = .ok "5" := by
      rw [Datum.spelling, if_neg hshort]
      rfl
    have hkey : (Datum.int 5).hashable = true := rfl
    rw [decodeName, Datum.nameText, if_pos hkey, htext]
    rfl
  have hread : decode sloppyWire = .ok tidyNode := by
    calc decode sloppyWire
        = (decodeName (.int 5)).bind fun tag =>
            .ok (.element tag [(.name "a", .str "b"), (.name "k", .str "v"), (.name "None", .list [])]
              [.comment (.str "") (.bool true), .text (.str "")]
              (.dict [(.str "x", .str "y"), (.bool true, .null)])) := rfl
      _ = .ok tidyNode := by rw [htag]; rfl
  exact ⟨hread, decode_settles hread⟩

end MarkTree.Node
