import MarkTree.Proofs.Normalize.Derivation
import MarkTree.Proofs.Tree.CanonicalNames
import MarkTree.Proofs.Tree.Throughout

namespace MarkTree

namespace Node

/-- If the node is an element, its tag, its attribute names and its attribute values are texts, and its
    metadata is a dictionary. Nothing is asked of any other node. -/
def HasTypedFields : Node → Prop
  | .element tag attributes _ metadata =>
    isTextLabel tag = true ∧ TextAttributes attributes ∧ ∃ entries, metadata = .dict entries
  | .text _ | .comment _ _ | .bare | .foreign _ => True

/-- An attribute value of the normalized document: one of the document itself, the class of a code block
    with captured output, or the class and the role of an admonition. -/
inductive IsValueFrom (document : Document) : Datum → Prop where
  | given {tag label : Label} {attributes : List Attribute} {children : List Node}
      {metadata value : Datum} (hmem : .element tag attributes children metadata ∈ nodesOf document)
      (hvalue : (label, value) ∈ attributes) : IsValueFrom document value
  | output {tag : Label} {attributes : List Attribute} {children : List Node} {metadata : Datum}
      (hmem : .element tag attributes children metadata ∈ nodesOf document) :
      IsValueFrom document (.str (Attributes.outputClass attributes))
  | note {tag : Label} {attributes : List Attribute} {children : List Node} {metadata : Datum}
      (hmem : .element tag attributes children metadata ∈ nodesOf document) :
      IsValueFrom document (.str (Attributes.noteClass (admonition tag children) attributes))
  | role : IsValueFrom document (.str "note")

/-- A node of the normalized document: a leaf of the document itself, the text of a formula with its
    delimiters, or an element with values from the document. -/
inductive IsMadeFrom (document : Document) : Node → Prop where
  | leaf {node : Node} (hleaf : node.isElement = false) (hmem : node ∈ nodesOf document) :
      IsMadeFrom document node
  | formula {tag : Label} {attributes : List Attribute} {content metadata : Datum}
      {style : FormulaStyle}
      (hmem : .element tag attributes [.text content] metadata ∈ nodesOf document)
      (hformula : formula? (.element tag attributes [.text content] metadata) = some style) :
      IsMadeFrom document (.text (.str (style.delimited content.display)))
  | element {tag : Label} {attributes : List Attribute} {children : List Node} {metadata : Datum}
      (hvalues : ∀ pair ∈ attributes, IsValueFrom document pair.2) :
      IsMadeFrom document (.element tag attributes children metadata)

/-- A document with fields of the declared kinds is one that normalization can use. -/
theorem isUsable_of_typedFields {document : Document} (htyped : Throughout HasTypedFields document) :
    IsUsable document := by
  intro tag attributes children metadata hmem
  obtain ⟨htag, hattributes, hmetadata⟩ := htyped _ hmem
  refine ⟨htag, ?_, ?_, hmetadata⟩
  · intro pair hpair
    exact (hattributes pair hpair).1
  · intro pair hpair _
    exact (hattributes pair hpair).2

/-- The tag of a normalized element is canonical. -/
theorem isCanonical_normalTag (tokens : List String) (tag : Label) :
    (normalTag tokens tag).isCanonical = true := by
  unfold normalTag
  split
  · exact Label.isCanonical_canonical tag
  · rfl

/-- Whatever the rules make of siblings has canonical names throughout. -/
theorem Normalizes.areCanonical {before : Option Node} {nodes out : List Node}
    (h : Normalizes before nodes out) : areCanonical out = true := by
  induction h with
  | nil => rfl
  | drop _ _ _ ih => exact ih
  | keep hleaf _ _ ih => rw [areCanonical_leaf hleaf, ih]
  | capture _ _ _ _ ih =>
    have hinner := isCanonical_of_mem_canonicalAttributes
    refine areCanonical_element.mpr ⟨⟨Label.isCanonical_canonical _, hinner _, ?_⟩, ih⟩
    exact areCanonical_element.mpr ⟨⟨Label.isCanonical_canonical _, hinner _, rfl⟩, rfl⟩
  | formula _ _ _ ih => rw [areCanonical_leaf (isElement_text _), ih]
  | element _ _ _ _ ihChildren ih =>
    refine areCanonical_element.mpr ⟨⟨isCanonical_normalTag _ _, ?_, ihChildren⟩, ih⟩
    exact isCanonical_of_mem_canonicalAttributes _

section Values

variable {document : Document} {tag : Label} {attributes : List Attribute} {children : List Node}
  {metadata : Datum}

theorem isValueFrom_canonical (hvalues : ∀ pair ∈ attributes, IsValueFrom document pair.2) :
    ∀ pair ∈ canonicalAttributes attributes, IsValueFrom document pair.2 := by
  intro pair hpair
  obtain ⟨given, hgiven, rfl⟩ := List.mem_map.mp hpair
  exact hvalues given hgiven

variable (hmem : .element tag attributes children metadata ∈ nodesOf document)
include hmem

/-- The values of an element come from the document. -/
theorem isValueFrom_given : ∀ pair ∈ attributes, IsValueFrom document pair.2 :=
  fun _ hpair => .given hmem hpair

/-- With the output class the values still come from the document, or are put together from it. -/
theorem isValueFrom_output (hattributes : TextAttributes attributes) :
    ∀ pair ∈ outputAttributes attributes, IsValueFrom document pair.2 := by
  rw [outputAttributes_of_text hattributes, List.forall_mem_cons]
  refine ⟨.output hmem, ?_⟩
  intro pair hpair
  exact .given hmem (List.mem_of_mem_eraseP hpair)

/-- The values of an admonition come from the document, or are put together from it. -/
theorem isValueFrom_admonition (hattributes : TextAttributes attributes) :
    ∀ pair ∈ admonitionAttributes (admonition tag children) attributes,
      IsValueFrom document pair.2 := by
  rw [admonitionAttributes_of_text hattributes, List.forall_mem_cons, List.forall_mem_cons]
  refine ⟨.note hmem, .role, ?_⟩
  intro pair hpair
  exact .given hmem (List.mem_of_mem_eraseP (List.mem_filter.mp hpair).1)

/-- The values of a normalized element come from the document, or are put together from it. -/
theorem isValueFrom_normal (hattributes : TextAttributes attributes) :
    ∀ pair ∈ normalAttributes (admonition tag children) attributes, IsValueFrom document pair.2 := by
  unfold normalAttributes
  split
  · exact isValueFrom_canonical (isValueFrom_given hmem)
  · exact isValueFrom_canonical (isValueFrom_admonition hmem hattributes)

end Values

/-- Whatever the rules make of siblings in a document is made from the document. -/
theorem Normalizes.madeFrom {document : Document} {before : Option Node} {nodes out : List Node}
    (h : Normalizes before nodes out) : (∀ node ∈ nodesOf nodes, node ∈ nodesOf document) →
      Throughout HasTypedFields nodes → Throughout (IsMadeFrom document) out := by
  induction h with
  | nil => exact fun _ _ => throughout_nil
  | drop _ _ _ ih =>
    intro hmem htyped
    exact ih (List.forall_mem_append.mp hmem).2 (throughout_cons.mp htyped).2
  | keep hleaf _ _ ih =>
    intro hmem htyped
    rw [nodesOf_cons, nodesFrom_leaf hleaf, List.forall_mem_append] at hmem
    refine throughout_cons.mpr ⟨(throughout_leaf hleaf).mpr ?_, ?_⟩
    · exact .leaf hleaf (List.forall_mem_singleton.mp hmem.1)
    · exact ih hmem.2 (throughout_cons.mp htyped).2
  | @capture _ _ _ _ _ content _ _ _ _ _ _ _ _ ih =>
    intro hmem htyped
    obtain ⟨hblock, hrest⟩ := throughout_cons.mp htyped
    obtain ⟨-, hcode⟩ := throughout_element.mp hblock
    obtain ⟨⟨-, hattributes, -⟩, -⟩ := throughout_element.mp hcode
    rw [nodesOf_cons, List.forall_mem_append] at hmem
    simp only [nodesFrom_element, nodesOf_cons, nodesOf_nil, nodesFrom_leaf (isElement_text content),
      List.forall_mem_cons, List.append_nil] at hmem
    obtain ⟨⟨hpre, hinner, htext, -⟩, hothers⟩ := hmem
    refine throughout_cons.mpr ⟨throughout_element.mpr ⟨.element ?_, ?_⟩, ih hothers hrest⟩
    · exact isValueFrom_canonical (isValueFrom_given hpre)
    · refine throughout_element.mpr ⟨.element ?_, (throughout_leaf (isElement_text content)).mpr ?_⟩
      · exact isValueFrom_canonical (isValueFrom_output hinner hattributes)
      · exact .leaf (isElement_text content) htext
  | formula _ hformula _ ih =>
    intro hmem htyped
    rw [nodesOf_cons, nodesFrom_element, List.forall_mem_append, List.forall_mem_cons] at hmem
    refine throughout_cons.mpr ⟨(throughout_leaf (isElement_text _)).mpr ?_, ?_⟩
    · exact .formula hmem.1.1 hformula
    · exact ih hmem.2 (throughout_cons.mp htyped).2
  | element _ _ _ _ ihChildren ih =>
    intro hmem htyped
    obtain ⟨hnode, hrest⟩ := throughout_cons.mp htyped
    obtain ⟨⟨-, hattributes, -⟩, hbelow⟩ := throughout_element.mp hnode
    rw [nodesOf_cons, nodesFrom_element, List.forall_mem_append, List.forall_mem_cons] at hmem
    refine throughout_cons.mpr ⟨throughout_element.mpr ⟨.element ?_, ?_⟩, ih hmem.2 hrest⟩
    · exact isValueFrom_normal hmem.1.1 hattributes
    · exact ihChildren hmem.1.2 hbelow

end Node

/-- Normalization succeeds whenever the fields of all elements are of the declared kinds, whatever else
    stands among the siblings. In the result every tag and every attribute name is canonical, at every
    depth; and every text, every comment and every attribute value is one of the document or a text that
    is put together from it. -/
theorem normalize_canonical {document : Document}
    (htyped : Node.Throughout Node.HasTypedFields document) :
    ∃ out, normalize document = .ok out ∧ Node.areCanonical out = true ∧
      Node.Throughout (Node.IsMadeFrom document) out := by
  have hnormal := normalize_eq_ok_of_usable (Node.isUsable_of_typedFields htyped)
  have hrules : Node.Normalizes none document (Node.normalizedAll false document) :=
    Node.normalizes_normalizedAll document none
  exact ⟨_, hnormal, hrules.areCanonical, hrules.madeFrom (fun _ hmem => hmem) htyped⟩

/-- Nodes without content and values that are no nodes, at the top, behind an output marker and as the
    first child of a quote. -/
def strayPage : Document :=
  .bare :: Notebook.marker :: .foreign ::
    .plain "blockquote" [] [.foreign, .plain "h3" [("class", .str "tip")] [.bare]] :: Notebook.page

/-- What the warning of the page becomes: a note whose class is put together from its own classes, those
    of its heading and the word for an admonition. -/
def noteOfWarning : Node :=
  .element (.name "div") [(.name "class", .str "wide admonition warning"), (.name "role", .str "note")]
    [.element (.name "h3") [(.name "class", .str "warning")] [.text (.str "$z$")] (.dict []),
      .element (.name "pre") [(.name "id", .str "cell")]
        [.element (.name "code") [(.name "class", .str "math-display output")] [.text (.str "y")]
          (.dict [])]
        (.dict [])]
    (.dict [])

theorem normalize_canonical_strayPage :
    Node.Throughout Node.HasTypedFields strayPage ∧
      ∃ out, normalize strayPage = .ok out ∧ Node.areCanonical out = true ∧
        Node.Throughout (Node.IsMadeFrom strayPage) out ∧ out.getLast? = some noteOfWarning := by
  have htyped : Node.Throughout Node.HasTypedFields strayPage := by
    simp [Node.Throughout, Node.HasTypedFields, strayPage, Notebook.page, Notebook.warning,
      Notebook.output, Notebook.formula, Notebook.marker, Node.plain, Node.nodesFrom, Node.isTextLabel,
      Label.value, Node.textAttributes_nil, Node.textAttributes_cons, Node.isTextDatum]
  obtain ⟨out, hout, hcanonical, hmade⟩ := normalize_canonical htyped
  have hwalk : normalize strayPage = .ok (Node.normalizedAll false strayPage) := rfl
  obtain rfl : Node.normalizedAll false strayPage = out := Except.ok.inj (hwalk.symm.trans hout)
  exact ⟨htyped, _, hwalk, hcanonical, hmade, rfl⟩

end MarkTree
