import MarkTree.Proofs.Normalize.Derivation

namespace MarkTree

/-- What becomes of a leaf. The marker in front of a code block goes, and the text of a formula gets its
    delimiters unless the formula is the code of captured output. -/
def Site.normalLeaf? (site : Site) : Option Node :=
  if site.isAnnouncement then none
  else
    match site.parent?.bind freeFormula?, site.node with
    | some style, .text content => some (.text (.str (style.delimited content.display)))
    | _, node => some node

/-- The text below an element changes when that element is a free formula. -/
theorem Site.normalLeaf?_text (content : Datum) (place : Place) (around : List Place) :
    (⟨⟨none, .text content, none⟩, place :: around⟩ : Site).normalLeaf? =
      match (⟨place, around⟩ : Site).freeFormula? with
      | some style => some (.text (.str (style.delimited content.display)))
      | none => some (.text content) := by
  simp only [normalLeaf?, Place.isAnnouncement, Node.isOutputMarker, Bool.false_and, Bool.false_eq_true,
    ↓reduceIte, parent?, Option.bind_some]
  cases (⟨place, around⟩ : Site).freeFormula? <;> rfl

/-- The text of captured code stays as it is. -/
theorem Site.normalLeaf?_text_of_captured {place : Place} (hcaptured : place.isCaptured = true)
    (content : Datum) (code : Place) (around : List Place) :
    (⟨⟨none, .text content, none⟩, code :: place :: around⟩ : Site).normalLeaf? =
      some (.text content) := by
  rw [normalLeaf?_text, freeFormula?_of_captured hcaptured]

namespace Node

/-- The sites of the texts and comments among siblings and below them, in reading order. -/
def leafSitesAmong (around : List Place) (before : Option Node) (nodes : List Node) : List Site :=
  (sitesAmong around before nodes).filter fun site => !site.node.isElement

/-- The sites of the texts and comments of a document, in reading order. -/
def leafSitesOf (document : Document) : List Site :=
  leafSitesAmong [] none document

theorem map_node_leafSitesOf (document : Document) :
    (leafSitesOf document).map (·.node) = leavesOf document := by
  rw [leafSitesOf, leafSitesAmong, leavesOf, ← map_node_sitesOf, List.filter_map]
  rfl

section Walk

variable (around : List Place) (before : Option Node)

theorem leafSitesAmong_nil : leafSitesAmong around before [] = [] := rfl

theorem leavesOf_nil : leavesOf [] = [] := rfl

theorem leafSitesAmong_leaf {node : Node} (hleaf : node.isElement = false) (rest : List Node) :
    leafSitesAmong around before (node :: rest) =
      ⟨⟨before, node, rest.head?⟩, around⟩ :: leafSitesAmong around (some node) rest := by
  simp [leafSitesAmong, sitesFrom_leaf _ _ _ hleaf, hleaf]

theorem leafSitesAmong_element (tag : Label) (attributes : List Attribute) (children : List Node)
    (metadata : Datum) (rest : List Node) :
    leafSitesAmong around before (.element tag attributes children metadata :: rest) =
      leafSitesAmong (⟨before, .element tag attributes children metadata, rest.head?⟩ :: around) none
        children ++
      leafSitesAmong around (some (.element tag attributes children metadata)) rest := by
  simp [leafSitesAmong, isElement]

theorem leavesOf_leaf {node : Node} (hleaf : node.isElement = false) (rest : List Node) :
    leavesOf (node :: rest) = node :: leavesOf rest := by
  simp [leavesOf, nodesFrom_leaf hleaf, hleaf]

theorem leavesOf_element (tag : Label) (attributes : List Attribute) (children : List Node)
    (metadata : Datum) (rest : List Node) :
    leavesOf (.element tag attributes children metadata :: rest) =
      leavesOf children ++ leavesOf rest := by
  simp [leavesOf, isElement]

end Walk

/-- The leaves of what siblings become are what becomes of their leaves. -/
theorem Normalizes.leavesOf_eq {before : Option Node} {nodes out : List Node}
    (h : Normalizes before nodes out) : ∀ around, IsOpen around →
      leavesOf out = (leafSitesAmong around before nodes).filterMap Site.normalLeaf? := by
  -- The rules see one level of the tree; what lies around it changes from level to level and only has
  -- to be open, which is why the captured code block and the formula are no cases for the hypotheses.
  induction h with
  | nil => intros; rfl
  | @drop before marker rest out hmarker hblock _ ih =>
    intro around hopen
    have hleaf := isElement_of_isOutputMarker hmarker
    have hgone : (⟨⟨before, marker, rest.head?⟩, around⟩ : Site).normalLeaf? = none := by
      rw [startsWithCodeBlock_eq] at hblock
      simp [Site.normalLeaf?, Place.isAnnouncement, hmarker, hblock]
    rw [leafSitesAmong_leaf _ _ hleaf, List.filterMap_cons_none hgone, ih around hopen]
  | @keep before node rest out hleaf hkeep _ ih =>
    intro around hopen
    have hkept : (⟨⟨before, node, rest.head?⟩, around⟩ : Site).normalLeaf? = some node := by
      rw [startsWithCodeBlock_eq] at hkeep
      simp [Site.normalLeaf?, Place.isAnnouncement, hkeep, hopen.parent?_freeFormula?]
    rw [leafSitesAmong_leaf _ _ hleaf, List.filterMap_cons_some hkept, leavesOf_leaf hleaf,
      ih around hopen]
  | @capture before tag tag' attributes attributes' content metadata metadata' rest out hbefore htag
      htag' _ ih =>
    intro around hopen
    have hcaptured := Place.isCaptured_codeBlock hbefore htag htag' attributes attributes' content
      metadata metadata' rest.head?
    have hkept := Site.normalLeaf?_text_of_captured hcaptured content
      ⟨none, .element tag' attributes' [.text content] metadata', none⟩ around
    rw [leafSitesAmong_element, leafSitesAmong_element, leafSitesAmong_leaf _ _ (isElement_text content),
      leafSitesAmong_nil, leafSitesAmong_nil, List.append_nil, List.singleton_append, List.head?_nil,
      List.filterMap_cons_some hkept, ← ih around hopen, leavesOf_element, leavesOf_element,
      leavesOf_leaf (isElement_text content), leavesOf_nil, List.append_nil, List.singleton_append]
  | @formula before tag attributes content metadata style rest out htag hformula _ ih =>
    intro around hopen
    have hdelimited := Site.normalLeaf?_text content
      ⟨before, .element tag attributes [.text content] metadata, rest.head?⟩ around
    rw [hopen.freeFormula?, hformula] at hdelimited
    rw [leafSitesAmong_element, leafSitesAmong_leaf _ _ (isElement_text content), leafSitesAmong_nil,
      List.singleton_append, List.head?_nil, List.filterMap_cons_some hdelimited,
      leavesOf_leaf (isElement_text _), ih around hopen]
  | @element before tag attributes children children' metadata rest out hfree hformula _ _
      ihChildren ih =>
    intro around hopen
    have hinner : IsOpen (⟨before, .element tag attributes children metadata, rest.head?⟩ :: around) :=
      hopen.cons hfree hformula
    rw [leavesOf_element, leafSitesAmong_element, List.filterMap_append, ihChildren _ hinner,
      ih around hopen]

end Node

/-- Normalization loses, doubles and reorders no text and no comment. The leaves of the result are those
    of the document in their order, apart from the markers that announce a code block, which are gone,
    and the texts of formulas outside captured output, which have their delimiters. -/
theorem normalize_leaves {document : Document} (hwell : Node.areWellTyped document = true) :
    (Node.leafSitesOf document).map (·.node) = Node.leavesOf document ∧
      ∃ out, normalize document = .ok out ∧
        Node.leavesOf out = (Node.leafSitesOf document).filterMap Site.normalLeaf? := by
  obtain ⟨out, hout, h⟩ := normalizes_of_wellTyped hwell
  exact ⟨Node.map_node_leafSitesOf document, out, hout, h.leavesOf_eq [] trivial⟩

open Notebook in
/-- The inner formula and the one in the heading get their delimiters, the code of the two outputs does
    not, and each output takes one marker away. -/
theorem normalize_leaves_page :
    Node.areWellTyped page = true ∧
      ∃ out, normalize page = .ok out ∧
        Node.leavesOf out = [.text (.str "$x$"), marker, .text (.str "y"), .text (.str "$z$"),
          .text (.str "y")] := by
  have hwell : Node.areWellTyped page = true := by decide
  obtain ⟨-, out, hout, hleaves⟩ := normalize_leaves hwell
  exact ⟨hwell, out, hout, hleaves.trans rfl⟩

end MarkTree
