import MarkTree.Proofs.Json.Reading
import MarkTree.Proofs.Tree.CanonicalNames
import MarkTree.Proofs.Tree.Throughout
import MarkTree.Proofs.Tree.WireObject

namespace MarkTree

namespace Node

/-- What is put together from plain data is plain. -/
theorem isInherited_isPlain : Datum.IsInherited Datum.IsPlain where
  str := .str
  bool := .bool
  list := .list
  record := .dict

/-- A well-typed document with plain metadata has plain wire objects. -/
theorem isPlain_toData {nodes : List Node} : areWellTyped nodes = true →
    (∀ metadata ∈ metadataOf nodes, metadata.IsPlain) → ∀ item ∈ toData nodes, item.IsPlain :=
  holds_toData isInherited_isPlain

/-- A node with a wire object that keeps all of it: the marker of a comment is a truth value, and the
    metadata of an element is a dictionary. Contents and attribute values may be of any kind. -/
inductive HasWireObject : Node → Prop where
  | text {content : Datum} : HasWireObject (.text content)
  | comment {content : Datum} {marker : Bool} : HasWireObject (.comment content (.bool marker))
  | element {tag : Label} {attributes : List Attribute} {children : List Node} {entries : Entries} :
      HasWireObject (.element tag attributes children (.dict entries))

/-- Every node of a well-typed document has a wire object. -/
theorem throughout_wireObject_of_wellTyped {nodes : List Node} :
    areWellTyped nodes = true → Throughout HasWireObject nodes := by
  induction nodes using siblings_induction with
  | nil => exact fun _ => throughout_nil
  | leaf node rest hleaf ih =>
    intro hwell
    obtain ⟨hnode, hrest⟩ := areWellTyped_cons.mp hwell
    refine throughout_cons.mpr ⟨(throughout_leaf hleaf).mpr ?_, ih hrest⟩
    rcases eq_of_wellTyped_leaf hleaf hnode with ⟨text, rfl⟩ | ⟨text, value, rfl⟩
    · exact .text
    · exact .comment
  | element tag attributes children metadata rest ihChildren ih =>
    intro hwell
    obtain ⟨hparts, hrest⟩ := areWellTyped_element.mp hwell
    obtain ⟨entries, rfl⟩ := hparts.metadata
    exact throughout_cons.mpr
      ⟨throughout_element.mpr ⟨.element, ihChildren hparts.children⟩, ih hrest⟩

theorem decode_toDatum_of_leaf {node : Node} (hleaf : node.isElement = false)
    (hwire : HasWireObject node) : decode (toDatum node) = .ok node := by
  cases hwire with
  | text | comment => rfl
  | element => cases hleaf

/-- Attributes are read from their pairs, with canonical names. -/
theorem mapM_decodeAttribute (attributes : List Attribute) :
    (attributes.map fun (name, value) => Datum.list [.str name.text, value]).mapM decodeAttribute =
      .ok (canonicalAttributes attributes) := by
  induction attributes with
  | nil => rfl
  | cons pair rest ih =>
    obtain ⟨label, value⟩ := pair
    rw [List.map_cons, List.mapM_cons, ih]
    rfl

/-- The entries of the wire object of an element. -/
def elementEntries (tag : Label) (attributes : List Attribute) (children : List Node)
    (metadata : Datum) : Entries :=
  Entries.ofFields [("node_type", .str "Element"), ("tag", .str tag.text),
    ("attributes", attributesToDatum attributes), ("children", .list (toData children)),
    ("metadata", metadata)]

theorem decode_toDatum_element {tag : Label} {attributes : List Attribute} {children out : List Node}
    {entries : Entries} (hchildren : decodeAll (toData children) = .ok out) :
    decode (toDatum (.element tag attributes children (.dict entries))) =
      .ok (.element tag.canonical (canonicalAttributes attributes) out (.dict entries)) := by
  have htype : (Entries.get? "node_type" (elementEntries tag attributes children (.dict entries))).getD
      .null = .str "Element" := rfl
  have htag : decodeTag (elementEntries tag attributes children (.dict entries)) =
      .ok tag.canonical := rfl
  have hattributes : decodeAttributes (elementEntries tag attributes children (.dict entries)) =
      .ok (canonicalAttributes attributes) := mapM_decodeAttribute attributes
  have hsequence : decodeChildren (elementEntries tag attributes children (.dict entries)) =
      .ok out := hchildren
  have hmetadata : decodeMetadata (elementEntries tag attributes children (.dict entries)) =
      .ok entries := rfl
  change decode (.dict (elementEntries tag attributes children (.dict entries))) = _
  rw [decode]
  simp only [htype, htag, hattributes, hsequence, hmetadata]
  rfl

/-- The wire objects of nodes are read as the nodes with canonical names. -/
theorem decodeAll_toData_of_wireObject {nodes : List Node} : Throughout HasWireObject nodes →
    decodeAll (toData nodes) = .ok (allWithCanonicalNames nodes) := by
  induction nodes using siblings_induction with
  | nil => exact fun _ => rfl
  | leaf node rest hleaf ih =>
    intro hwire
    obtain ⟨hnode, hrest⟩ := throughout_cons.mp hwire
    rw [toData, decodeAll, decode_toDatum_of_leaf hleaf ((throughout_leaf hleaf).mp hnode), ih hrest,
      allWithCanonicalNames, withCanonicalNames_leaf hleaf]
    rfl
  | element tag attributes children metadata rest ihChildren ih =>
    intro hwire
    obtain ⟨hnode, hrest⟩ := throughout_cons.mp hwire
    obtain ⟨hself, hchildren⟩ := throughout_element.mp hnode
    cases hself with
    | element =>
      rw [toData, decodeAll, decode_toDatum_element (ihChildren hchildren), ih hrest]
      rfl

/-- A well-typed document is read from its wire objects, with canonical names. -/
theorem decodeAll_toData {nodes : List Node} (hwell : areWellTyped nodes = true) :
    decodeAll (toData nodes) = .ok (allWithCanonicalNames nodes) :=
  decodeAll_toData_of_wireObject (throughout_wireObject_of_wellTyped hwell)

/-- Where every node has a wire object, none is reported. -/
theorem anyUnknown?_of_wireObject {nodes : List Node} :
    Throughout HasWireObject nodes → anyUnknown? nodes = none := by
  induction nodes using siblings_induction with
  | nil => exact fun _ => rfl
  | leaf node rest hleaf ih =>
    intro hwire
    obtain ⟨hnode, hrest⟩ := throughout_cons.mp hwire
    have hknown : unknown? node = none := by
      cases (throughout_leaf hleaf).mp hnode with
      | text | comment => rfl
      | element => cases hleaf
    rw [anyUnknown?, hknown, ih hrest]
    rfl
  | element tag attributes children metadata rest ihChildren ih =>
    intro hwire
    obtain ⟨hnode, hrest⟩ := throughout_cons.mp hwire
    obtain ⟨-, hchildren⟩ := throughout_element.mp hnode
    rw [anyUnknown?, unknown?, ihChildren hchildren, ih hrest]
    rfl

/-- In a well-typed document no node is reported. -/
theorem anyUnknown?_eq_none {nodes : List Node} (hwell : areWellTyped nodes = true) :
    anyUnknown? nodes = none :=
  anyUnknown?_of_wireObject (throughout_wireObject_of_wellTyped hwell)

end Node

/-- What a wire form may be indented with: nothing, as many spaces as a text can hold, or blanks. -/
inductive IsBlankIndent : Datum → Prop
  | none : IsBlankIndent .null
  | width {value : Datum} {width : Int} (hvalue : value.int? = some width)
    (hcount : isCount width = true) (hfits : width.toNat ≤ longestText) : IsBlankIndent value
  | blanks {unit : String} (hblank : ∀ c ∈ unit.toList, Json.isBlank c = true) :
    IsBlankIndent (.str unit)

/-- A blank indentation that is small enough can be made a text, and the text is blank. -/
theorem indentUnit_of_isBlankIndent {indent : Datum} (hindent : IsBlankIndent indent) :
    ∃ unit, indentUnit indent = .ok unit ∧
      ∀ text ∈ unit, ∀ c ∈ text.toList, Json.isBlank c = true := by
  cases hindent with
  | none => exact ⟨none, rfl, nofun⟩
  | blanks hblank =>
    refine ⟨some _, rfl, ?_⟩
    intro text htext
    obtain rfl := Option.some.inj htext
    exact hblank
  | @width _ width hvalue hcount hfits =>
    refine ⟨some (String.ofList (List.replicate width.toNat ' ')), ?_, ?_⟩
    · have hfits' : ¬ longestText < width.toNat := Nat.not_lt.mpr hfits
      cases indent with
      | bool | int =>
        simp only [indentUnit, hvalue, hcount, hfits']
        rfl
      | _ => cases hvalue
    · intro text htext c hmem
      obtain rfl := Option.some.inj htext
      rw [String.toList_ofList] at hmem
      rw [List.eq_of_mem_replicate hmem]
      rfl

/-- The wire form of a document is read as the document: the result is the same by value, and all its
    names are canonical. -/
theorem decodeDocument_encodeDocument {document : Document} {indent : Datum}
    (hwell : Node.areWellTyped document = true)
    (hmetadata : ∀ metadata ∈ Node.metadataOf document, metadata.IsPlain)
    (hindent : IsBlankIndent indent) :
    ∃ text, encodeDocument document indent = .ok text ∧
      ∃ out, decodeDocument text = .ok out ∧
        Node.equalAll out document = true ∧ Node.areCanonical out = true := by
  obtain ⟨unit, hunit, hblank⟩ := indentUnit_of_isBlankIndent hindent
  have hplain : (Datum.list (Node.toData document)).IsPlain := .list (Node.isPlain_toData hwell hmetadata)
  obtain ⟨text, hrender, hread⟩ := Json.read_render hblank hplain
  refine ⟨text, ?_, Node.allWithCanonicalNames document, ?_, ?_, ?_⟩
  · rw [encodeDocument, Node.anyUnknown?_eq_none hwell]
    dsimp only
    rw [hunit]
    dsimp only [bind, Except.bind]
    rw [hrender]
  · rw [decodeDocument, hread]
    exact Node.decodeAll_toData hwell
  · refine Node.equalAll_allWithCanonicalNames hwell ?_
    intro metadata hmem
    exact (hmetadata metadata hmem).equal_self
  · exact Node.areCanonical_allWithCanonicalNames document

/-- A paragraph with a repeated attribute name, characters that are escaped or stand for themselves, and
    nested metadata. -/
def wirePage : Document :=
  [.element (.plain (.str "p"))
    [(.plain (.str "class"), .str "\u2028"), (.plain (.str "class"), .str "")]
    [.text (.str "\"\\\x01"), .comment (.str "out") (.bool true)]
    (.dict (Entries.ofFields [("n", .int (-3)), ("list", .list [.null, .str "é"])]))]

theorem decodeDocument_encodeDocument_page :
    Node.areWellTyped wirePage = true ∧
      (∀ metadata ∈ Node.metadataOf wirePage, metadata.IsPlain) ∧ IsBlankIndent (.int 2) ∧
        ∃ text, encodeDocument wirePage (.int 2) = .ok text ∧
          ∃ out, decodeDocument text = .ok out ∧
            Node.equalAll out wirePage = true ∧ Node.areCanonical out = true := by
  have hwell : Node.areWellTyped wirePage = true := by decide
  have hmetadata : ∀ metadata ∈ Node.metadataOf wirePage, metadata.IsPlain := by
    have hlist : (Datum.list [.null, .str "é"]).IsPlain := by
      refine .list ?_
      simp [Datum.IsPlain.null, Datum.IsPlain.str]
    have hnumber : (Datum.int (-3)).IsPlain := .int (by decide +kernel)
    have hnames : ["n", "list"].Nodup := by decide
    refine List.forall_mem_singleton.mpr (.dict hnames ?_)
    simp [hnumber, hlist]
  have hindent : IsBlankIndent (.int 2) := .width rfl (by decide) (by decide)
  exact ⟨hwell, hmetadata, hindent, decodeDocument_encodeDocument hwell hmetadata hindent⟩

/-- A paragraph with one number in its metadata. -/
def numberedPage (value : Int) : Document :=
  [.element (.name "p") [] [] (.dict (Entries.ofFields [("n", .int value)]))]

/-- A page with an integer that is too long is not written. -/
theorem encodeDocument_numberedPage {value : Int} (hvalue : Json.integerError? value = some .overlong) :
    encodeDocument (numberedPage value) .null = .error (.unwritable .overlong) := by
  have herror : Json.writeError? (.list (Node.toData (numberedPage value))) = some .overlong := by
    simp [numberedPage, Node.toData, Node.toDatum, Node.attributesToDatum, Datum.record, Json.writeError?,
      Json.itemError?, Json.entryError?, Json.keyError?, hvalue]
  have hrender : Json.render none (.list (Node.toData (numberedPage value))) = .error .overlong := by
    rw [Json.render, herror]
  have hunknown : Node.anyUnknown? (numberedPage value) = none := rfl
  simp only [encodeDocument, hunknown, indentUnit, hrender, bind, Except.bind]

/-- The least integer that is too long to be written. -/
theorem integerError?_powerOfTen :
    Json.integerError? (Number.powerOfTen Number.maxDigits) = some .overlong := by
  rw [Json.integerError?, Int.natAbs_natCast, if_pos (Nat.le_refl _)]

/-- An indentation that is no index or no text can hold, and an integer that is too long to be written,
    leave a document without a wire form. -/
theorem encodeDocument_beyond_limits :
    encodeDocument [] (.int (Number.powerOfTwo 63)) = .error (.fault .tooLarge) ∧
      encodeDocument [] (.int (Number.powerOfTwo 62)) = .error (.fault .tooLong) ∧
        encodeDocument [.element (.name "p") [] []
          (.dict (Entries.ofFields [("n", .int (Number.powerOfTen Number.maxDigits))]))] .null =
            .error (.unwritable .overlong) :=
  ⟨by decide, by decide, encodeDocument_numberedPage integerError?_powerOfTen⟩

end MarkTree
