import Mathlib.Data.List.Forall2
import MarkTree.Proofs.Normalize.Admonition

namespace MarkTree

/-- The attributes with their names as they read. -/
def Attributes.named (attributes : List Attribute) : List (Datum × Datum) :=
  attributes.map fun pair => (pair.1.value, pair.2)

open Node Attributes in
/-- An element and the one that it becomes. They are equally deep and have the same metadata. -/
inductive Counterpart : Site → Site → Prop where
  /-- An element has the tag and the attributes that it had. -/
  | same {before after before' after' : Option Node} {tag tag' : Label}
      {attributes attributes' : List Attribute} {children children' : List Node} {metadata : Datum}
      {around around' : List Place} (hdepth : around'.length = around.length)
      (hplain : isAdmonition (.element tag attributes children metadata) = false)
      (houtside : around.head?.any Place.isCaptured = false)
      (htag : tag'.value = tag.value) (hattributes : named attributes' = named attributes) :
      Counterpart ⟨⟨before, .element tag attributes children metadata, after⟩, around⟩
        ⟨⟨before', .element tag' attributes' children' metadata, after'⟩, around'⟩
  /-- An admonition is a `div` with its class and the note role, then the other attributes of the quote,
      of which the first class and the roles are left out. -/
  | admonition {before after before' after' : Option Node} {tag tag' : Label}
      {attributes attributes' : List Attribute} {children children' : List Node} {metadata : Datum}
      {around around' : List Place} (hdepth : around'.length = around.length)
      (hadmonition : isAdmonition (.element tag attributes children metadata) = true)
      (htag : tag'.value = .str "div")
      (hattributes : named attributes' =
        (.str "class", .str (noteClass (Node.admonition tag children) attributes)) ::
          (.str "role", .str "note") ::
            named ((attributes.eraseP fun pair => pair.1.reads "class").filter fun pair =>
              !pair.1.reads "role")) :
      Counterpart ⟨⟨before, .element tag attributes children metadata, after⟩, around⟩
        ⟨⟨before', .element tag' attributes' children' metadata, after'⟩, around'⟩
  /-- The code of captured output has its class in front, with `output` added to it. -/
  | captured {before after before' after' : Option Node} {tag tag' : Label}
      {attributes attributes' : List Attribute} {children children' : List Node} {metadata : Datum}
      {around around' : List Place} (hdepth : around'.length = around.length)
      (hinside : around.head?.any Place.isCaptured = true)
      (htag : tag'.value = tag.value)
      (hattributes : named attributes' = (.str "class", .str (outputClass attributes)) ::
        named (attributes.eraseP fun pair => pair.1.reads "class")) :
      Counterpart ⟨⟨before, .element tag attributes children metadata, after⟩, around⟩
        ⟨⟨before', .element tag' attributes' children' metadata, after'⟩, around'⟩

namespace Node

/-- The sites of the elements among siblings and below them, in preorder. -/
def elementSitesAmong (around : List Place) (before : Option Node) (nodes : List Node) : List Site :=
  (sitesAmong around before nodes).filter fun site => site.node.isElement

/-- The sites of the elements of a document, in preorder. -/
def elementSitesOf (document : Document) : List Site :=
  elementSitesAmong [] none document

/-- Those of the sites that do not hold a formula, or hold one that is the code of captured output. -/
def withoutFormulas (sites : List Site) : List Site :=
  sites.filter fun site => site.freeFormula?.isNone

theorem withoutFormulas_cons {site : Site} (hfree : site.freeFormula? = none) (sites : List Site) :
    withoutFormulas (site :: sites) = site :: withoutFormulas sites := by
  simp [withoutFormulas, hfree]

/-- A site with a free formula is left out. -/
theorem withoutFormulas_cons_formula {site : Site} {style : FormulaStyle}
    (hformula : site.freeFormula? = some style) (sites : List Site) :
    withoutFormulas (site :: sites) = withoutFormulas sites := by
  simp [withoutFormulas, hformula]

theorem withoutFormulas_append (front back : List Site) :
    withoutFormulas (front ++ back) = withoutFormulas front ++ withoutFormulas back :=
  List.filter_append front back

section Walk

variable (around : List Place) (before : Option Node)

theorem elementSitesAmong_nil : elementSitesAmong around before [] = [] := rfl

theorem elementSitesAmong_leaf {node : Node} (hleaf : node.isElement = false) (rest : List Node) :
    elementSitesAmong around before (node :: rest) = elementSitesAmong around (some node) rest := by
  simp [elementSitesAmong, sitesFrom_leaf _ _ _ hleaf, hleaf]

theorem elementSitesAmong_element (tag : Label) (attributes : List Attribute) (children : List Node)
    (metadata : Datum) (rest : List Node) :
    elementSitesAmong around before (.element tag attributes children metadata :: rest) =
      ⟨⟨before, .element tag attributes children metadata, rest.head?⟩, around⟩ ::
        (elementSitesAmong (⟨before, .element tag attributes children metadata, rest.head?⟩ :: around)
          none children ++
        elementSitesAmong around (some (.element tag attributes children metadata)) rest) := by
  simp [elementSitesAmong, isElement]

end Walk

theorem named_canonical {attributes : List Attribute} (hattributes : TextAttributes attributes) :
    Attributes.named (canonicalAttributes attributes) = Attributes.named attributes := by
  rw [Attributes.named, Attributes.named, canonicalAttributes, List.map_map]
  exact List.map_congr_left fun pair hmem =>
    Prod.ext (Label.value_canonical (hattributes pair hmem).1) rfl

/-- An element that is walked is related to the one that it becomes. -/
theorem counterpart_normal {before after before' after' : Option Node} {tag : Label}
    {attributes : List Attribute} {children : List Node} (children' : List Node) {metadata : Datum}
    {around around' : List Place} (hparts : WellTypedElement tag attributes children metadata)
    (hopen : IsOpen around) (hdepth : around'.length = around.length) :
    Counterpart ⟨⟨before, .element tag attributes children metadata, after⟩, around⟩
      ⟨⟨before', .element (normalTag (admonition tag children) tag)
        (normalAttributes (admonition tag children) attributes) children' (metadataRecord metadata),
        after'⟩, around'⟩ := by
  have houtside : around.head?.any Place.isCaptured = false :=
    hopen.isInCaptured ⟨none, .bare, none⟩
  have hadmonition := isAdmonition_element tag attributes children metadata
  rw [metadataRecord_eq hparts.metadata, normalTag, normalAttributes]
  cases hempty : (admonition tag children).isEmpty with
  | true =>
    rw [hempty] at hadmonition
    exact .same hdepth hadmonition houtside (Label.value_canonical hparts.tag)
      (named_canonical hparts.attributes)
  | false =>
    rw [hempty] at hadmonition
    refine .admonition hdepth hadmonition rfl ?_
    have htext := textAttributes_admonition hparts.attributes (admonition tag children)
    simp only [Bool.false_eq_true, ↓reduceIte]
    rw [named_canonical htext, admonitionAttributes_of_text hparts.attributes]
    rfl

/-- The elements of what siblings become are the counterparts of their elements, formulas left out. -/
theorem Normalizes.counterparts {before : Option Node} {nodes out : List Node}
    (h : Normalizes before nodes out) (hwell : areWellTyped nodes = true) :
    ∀ around around' before', IsOpen around → around'.length = around.length →
      List.Forall₂ Counterpart (withoutFormulas (elementSitesAmong around before nodes))
        (elementSitesAmong around' before' out) := by
  induction h with
  | nil => intros; exact .nil
  | @drop before marker rest out hmarker _ _ ih =>
    intro around around' before' hopen hdepth
    have hleaf := isElement_of_isOutputMarker hmarker
    rw [elementSitesAmong_leaf _ _ hleaf]
    exact ih (areWellTyped_cons.mp hwell).2 around around' before' hopen hdepth
  | @keep before node rest out hleaf _ _ ih =>
    intro around around' before' hopen hdepth
    rw [elementSitesAmong_leaf _ _ hleaf, elementSitesAmong_leaf _ _ hleaf]
    exact ih (areWellTyped_cons.mp hwell).2 around around' _ hopen hdepth
  | @capture before tag tag' attributes attributes' content metadata metadata' rest out hbefore htag
      htag' _ ih =>
    intro around around' before' hopen hdepth
    obtain ⟨houter, hrest⟩ := areWellTyped_element.mp hwell
    have hinner := (areWellTyped_element.mp houter.children).1
    have hcaptured := Place.isCaptured_codeBlock hbefore htag htag' attributes attributes' content
      metadata metadata' rest.head?
    have hfree := (hopen.freeFormula? ⟨before, .element tag attributes
      [.element tag' attributes' [.text content] metadata'] metadata, rest.head?⟩).trans
        (formula?_eq_none_of_reads (Label.reads_eq_false_of_reads htag (by decide)) ..)
    have hplain : isAdmonition (.element tag attributes
        [.element tag' attributes' [.text content] metadata'] metadata) = false :=
      quotesOnly_isAdmonition _ (isQuote_of_reads htag (by decide) _ _ _)
    have hattributes : Attributes.named (canonicalAttributes (outputAttributes attributes')) =
        (.str "class", .str (Attributes.outputClass attributes')) ::
          Attributes.named (attributes'.eraseP fun pair => pair.1.reads "class") := by
      rw [named_canonical (textAttributes_output hinner.attributes),
        outputAttributes_of_text hinner.attributes]
      rfl
    simp only [elementSitesAmong_element, elementSitesAmong_leaf _ _ (isElement_text content),
      elementSitesAmong_nil, List.append_nil, List.singleton_append,
      withoutFormulas_cons hfree,
      withoutFormulas_cons (Site.freeFormula?_of_captured hcaptured _ _),
      metadataRecord_eq houter.metadata, metadataRecord_eq hinner.metadata]
    refine .cons ?_ (.cons ?_ (ih hrest around around' _ hopen hdepth))
    · exact .same hdepth hplain (hopen.isInCaptured ⟨none, .bare, none⟩)
        (Label.value_canonical houter.tag) (named_canonical houter.attributes)
    · exact .captured (by simp [hdepth]) hcaptured (Label.value_canonical hinner.tag) hattributes
  | @formula before tag attributes content metadata style rest out htag hformula _ ih =>
    intro around around' before' hopen hdepth
    have hfound : (⟨⟨before, .element tag attributes [.text content] metadata, rest.head?⟩, around⟩ :
        Site).freeFormula? = some style := by
      rw [hopen.freeFormula?, hformula]
    rw [elementSitesAmong_element, elementSitesAmong_leaf _ _ (isElement_text content),
      elementSitesAmong_nil, List.nil_append, withoutFormulas_cons_formula hfound,
      elementSitesAmong_leaf _ _ (isElement_text _)]
    exact ih (areWellTyped_cons.mp hwell).2 around around' _ hopen hdepth
  | @element before tag attributes children children' metadata rest out hfree hformula _ _
      ihChildren ih =>
    intro around around' before' hopen hdepth
    obtain ⟨hparts, hrest⟩ := areWellTyped_element.mp hwell
    have hinner : IsOpen (⟨before, .element tag attributes children metadata, rest.head?⟩ :: around) :=
      hopen.cons hfree hformula
    have hfreeFormula : (⟨⟨before, .element tag attributes children metadata, rest.head?⟩, around⟩ :
        Site).freeFormula? = none := by
      rw [hopen.freeFormula?, hformula]
    rw [elementSitesAmong_element, elementSitesAmong_element, withoutFormulas_cons hfreeFormula,
      withoutFormulas_append]
    -- Both lists of children are one place deeper, so the depths still agree below.
    refine .cons (counterpart_normal children' hparts hopen hdepth) (List.rel_append ?_ ?_)
    · exact ihChildren hparts.children _ _ none hinner (by simp [hdepth])
    · exact ih hrest around around' _ hopen hdepth

end Node

/-- Normalization changes elements in the documented spots alone. Apart from the formulas outside
    captured output, which are no elements afterwards, the elements of the document and those of the
    result correspond one to one in preorder. -/
theorem normalize_elements {document : Document} (hwell : Node.areWellTyped document = true) :
    ∃ out, normalize document = .ok out ∧
      List.Forall₂ Counterpart (Node.withoutFormulas (Node.elementSitesOf document))
        (Node.elementSitesOf out) := by
  obtain ⟨out, hout, h⟩ := normalizes_of_wellTyped hwell
  exact ⟨out, hout, h.counterparts hwell [] [] none trivial rfl⟩

open Notebook in
/-- Seven elements of the page have counterparts; its two formulas outside of output have none. -/
theorem normalize_elements_page :
    Node.areWellTyped page = true ∧
      ∃ out, normalize page = .ok out ∧
        List.Forall₂ Counterpart (Node.withoutFormulas (Node.elementSitesOf page))
          (Node.elementSitesOf out) ∧ (Node.elementSitesOf out).length = 7 := by
  have hwell : Node.areWellTyped page = true := by decide
  obtain ⟨out, hout, hcounterparts⟩ := normalize_elements hwell
  exact ⟨hwell, out, hout, hcounterparts, hcounterparts.length_eq.symm.trans (by decide)⟩

end MarkTree
