import MarkTree.Proofs.Normalize.CodeBlock
import MarkTree.Proofs.Normalize.Spot

namespace MarkTree.Node

/-- Siblings become other siblings, given the node right before them. A rule sees the neighbours of the
    first sibling and nothing of what lies around it. -/
inductive Normalizes : Option Node → List Node → List Node → Prop where
  | nil {before : Option Node} : Normalizes before [] []
  /-- An output marker in front of a code block goes. -/
  | drop {before : Option Node} {marker : Node} {rest out : List Node}
      (hmarker : marker.isOutputMarker = true) (hblock : startsWithCodeBlock rest = true)
      (hrest : Normalizes (some marker) rest out) : Normalizes before (marker :: rest) out
  /-- Any other leaf stays as it is. -/
  | keep {before : Option Node} {node : Node} {rest out : List Node}
      (hleaf : node.isElement = false)
      (hkeep : (node.isOutputMarker && startsWithCodeBlock rest) = false)
      (hrest : Normalizes (some node) rest out) : Normalizes before (node :: rest) (node :: out)
  /-- A code block behind an output marker gains the output class. -/
  | capture {before : Option Node} {tag tag' : Label} {attributes attributes' : List Attribute}
      {content metadata metadata' : Datum} {rest out : List Node}
      (hbefore : before.any isOutputMarker = true)
      (htag : tag.reads "pre" = true) (htag' : tag'.reads "code" = true)
      (hrest : Normalizes
        (some (.element tag attributes [.element tag' attributes' [.text content] metadata'] metadata))
        rest out) :
      Normalizes before
        (.element tag attributes [.element tag' attributes' [.text content] metadata'] metadata :: rest)
        (.element tag.canonical (canonicalAttributes attributes)
          [.element tag'.canonical (canonicalAttributes (outputAttributes attributes'))
            [.text content] (metadataRecord metadata')] (metadataRecord metadata) :: out)
  /-- A formula becomes a text with its delimiters. -/
  | formula {before : Option Node} {tag : Label} {attributes : List Attribute}
      {content metadata : Datum} {style : FormulaStyle} {rest out : List Node}
      (htag : tag.reads "code" = true)
      (hformula : formula? (.element tag attributes [.text content] metadata) = some style)
      (hrest : Normalizes (some (.element tag attributes [.text content] metadata)) rest out) :
      Normalizes before (.element tag attributes [.text content] metadata :: rest)
        (.text (.str (style.delimited content.display)) :: out)
  /-- Any other element keeps its place, and its children are normalized on their own. -/
  | element {before : Option Node} {tag : Label} {attributes : List Attribute}
      {children children' : List Node} {metadata : Datum} {rest out : List Node}
      (hfree : (before.any isOutputMarker &&
        isCodeBlock (.element tag attributes children metadata)) = false)
      (hformula : formula? (.element tag attributes children metadata) = none)
      (hchildren : Normalizes none children children')
      (hrest : Normalizes (some (.element tag attributes children metadata)) rest out) :
      Normalizes before (.element tag attributes children metadata :: rest)
        (.element (normalTag (admonition tag children) tag)
          (normalAttributes (admonition tag children) attributes) children'
          (metadataRecord metadata) :: out)

theorem normalized_leaf {node : Node} (hleaf : node.isElement = false) :
    normalizedCaptured node = node ∧ normalized node = node := by
  cases node with
  | element => simp [isElement] at hleaf
  | _ => simp [normalizedCaptured, normalized]

/-- The walk keeps to the rules. Its flag is set exactly when the node before the siblings is a marker
    and a code block stands first among them. -/
theorem normalizes_normalizedAll (nodes : List Node) : ∀ before,
    Normalizes before nodes
      (normalizedAll (before.any isOutputMarker && startsWithCodeBlock nodes) nodes) := by
  induction nodes using siblings_induction with
  | nil =>
    intro before
    simpa [normalizedAll] using Normalizes.nil
  | leaf node rest hleaf ih =>
    intro before
    have hrest := ih (some node)
    rw [Option.any_some] at hrest
    obtain ⟨hcaptured, hnormal⟩ := normalized_leaf hleaf
    cases hdrop : node.isOutputMarker && startsWithCodeBlock rest with
    | true =>
      obtain ⟨hmarker, hblock⟩ := Bool.and_eq_true_iff.mp hdrop
      simp only [normalizedAll, hdrop, ↓reduceIte] at hrest ⊢
      exact .drop hmarker hblock hrest
    | false =>
      simp only [normalizedAll, hdrop, Bool.false_eq_true, ↓reduceIte, hcaptured, hnormal, ite_self]
        at hrest ⊢
      exact .keep hleaf hdrop hrest
  | element tag attributes children metadata rest ihChildren ih =>
    intro before
    have hrest := ih (some (.element tag attributes children metadata))
    simp only [Option.any_some, isOutputMarker, Bool.false_and] at hrest
    simp only [normalizedAll, isOutputMarker, Bool.false_and, Bool.false_eq_true, ↓reduceIte,
      startsWithCodeBlock]
    cases hcaptured : before.any isOutputMarker &&
        isCodeBlock (.element tag attributes children metadata) with
    | true =>
      obtain ⟨hbefore, hblock⟩ := Bool.and_eq_true_iff.mp hcaptured
      obtain ⟨_, _, tag', attributes', content, metadata', _, heq, htag, htag'⟩ :=
        exists_of_isCodeBlock hblock
      cases heq
      exact .capture hbefore htag htag' hrest
    | false =>
      simp only [Bool.false_eq_true, ↓reduceIte, normalized]
      cases hformula : formula? (.element tag attributes children metadata) with
      | some style =>
        obtain ⟨content, rfl, htag, hmath⟩ := formula?_eq_some hformula
        rw [hmath]
        exact .formula htag hformula hrest
      | none =>
        rw [math?_eq_none hformula]
        exact .element hcaptured hformula (ihChildren none) hrest

theorem textAttributes_canonical {attributes : List Attribute}
    (hattributes : TextAttributes attributes) : TextAttributes (canonicalAttributes attributes) := by
  intro pair hmem
  obtain ⟨⟨label, value⟩, hsource, rfl⟩ := List.mem_map.mp hmem
  exact ⟨rfl, (hattributes _ hsource).2⟩

/-- Attributes with texts keep texts with the output class. -/
theorem textAttributes_output {attributes : List Attribute} (hattributes : TextAttributes attributes) :
    TextAttributes (outputAttributes attributes) := by
  rw [outputAttributes_of_text hattributes]
  exact textAttributes_cons.mpr ⟨⟨rfl, rfl⟩, hattributes.sublist List.eraseP_sublist⟩

/-- Attributes with texts keep texts as those of an admonition. -/
theorem textAttributes_admonition {attributes : List Attribute}
    (hattributes : TextAttributes attributes) (tokens : List String) :
    TextAttributes (admonitionAttributes tokens attributes) := by
  rw [admonitionAttributes_of_text hattributes]
  refine textAttributes_cons.mpr ⟨⟨rfl, rfl⟩, textAttributes_cons.mpr ⟨⟨rfl, rfl⟩, ?_⟩⟩
  exact hattributes.sublist (List.filter_sublist.trans List.eraseP_sublist)

/-- Normalization keeps attributes with texts. -/
theorem textAttributes_normal {attributes : List Attribute} (hattributes : TextAttributes attributes)
    (tokens : List String) : TextAttributes (normalAttributes tokens attributes) := by
  unfold normalAttributes
  split
  · exact textAttributes_canonical hattributes
  · exact textAttributes_canonical (textAttributes_admonition hattributes tokens)

/-- The tag of a normalized element is a text. -/
theorem isTextLabel_normalTag (tokens : List String) (tag : Label) :
    isTextLabel (normalTag tokens tag) = true := by
  unfold normalTag
  split <;> rfl

/-- A tag other than that of an admonition is the one from before, and there are no admonition classes. -/
theorem reads_normalTag {tokens : List String} {tag : Label} (htag : isTextLabel tag = true)
    {name : String} (hreads : (normalTag tokens tag).reads name = true) (hne : name ≠ "div") :
    tokens.isEmpty = true ∧ tag.reads name = true := by
  unfold normalTag at hreads
  split at hreads
  · rename_i hempty
    rw [Label.reads_canonical htag] at hreads
    exact ⟨hempty, hreads⟩
  · have hdiv : (Label.name "div").reads "div" = true := by decide
    rw [Label.reads_eq_false_of_reads hdiv hne.symm] at hreads
    cases hreads

/-- The rules keep siblings well typed. -/
theorem Normalizes.preserves_wellTyped {before : Option Node} {nodes out : List Node}
    (h : Normalizes before nodes out) (hwell : areWellTyped nodes = true) :
    areWellTyped out = true := by
  induction h with
  | nil => rfl
  | drop _ _ _ ih => exact ih (areWellTyped_cons.mp hwell).2
  | keep _ _ _ ih =>
    obtain ⟨hnode, hrest⟩ := areWellTyped_cons.mp hwell
    exact areWellTyped_cons.mpr ⟨hnode, ih hrest⟩
  | capture _ _ _ _ ih =>
    obtain ⟨houter, hrest⟩ := areWellTyped_element.mp hwell
    have hinner := (areWellTyped_element.mp houter.children).1
    refine areWellTyped_element.mpr ⟨⟨rfl, ?_, ?_, isDict_metadataRecord _⟩, ih hrest⟩
    · exact textAttributes_canonical houter.attributes
    · refine areWellTyped_element.mpr ⟨⟨rfl, ?_, hinner.children, isDict_metadataRecord _⟩, rfl⟩
      exact textAttributes_canonical (textAttributes_output hinner.attributes)
  | formula _ _ _ ih => exact areWellTyped_cons.mpr ⟨rfl, ih (areWellTyped_cons.mp hwell).2⟩
  | element _ _ _ _ ihChildren ih =>
    obtain ⟨hparts, hrest⟩ := areWellTyped_element.mp hwell
    refine areWellTyped_element.mpr ⟨⟨?_, ?_, ?_, isDict_metadataRecord _⟩, ih hrest⟩
    · exact isTextLabel_normalTag _ _
    · exact textAttributes_normal hparts.attributes _
    · exact ihChildren hparts.children

end MarkTree.Node

namespace MarkTree

/-- A well-typed document is normalized, and by the rules. -/
theorem normalizes_of_wellTyped {document : Document} (hwell : Node.areWellTyped document = true) :
    ∃ out, normalize document = .ok out ∧ Node.Normalizes none document out :=
  ⟨_, normalize_eq_ok hwell, Node.normalizes_normalizedAll document none⟩

end MarkTree
