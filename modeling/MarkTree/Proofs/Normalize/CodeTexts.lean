import Mathlib.Data.List.Basic
import MarkTree.Proofs.Normalize.Derivation
import MarkTree.Proofs.Tree.Throughout

namespace MarkTree

namespace Node

/-- The text of a code block. -/
def codeText? : Node → Option Datum
  | .element tag _ [.element tag' _ [.text content] _] _ =>
    if tag.reads "pre" && tag'.reads "code" then some content else none
  | _ => none

/-- The texts of the code blocks of a document, in reading order. -/
def codeTexts (document : Document) : List Datum :=
  (nodesOf document).filterMap codeText?

/-- The code blocks of a document, in reading order. -/
def codeBlocksOf (document : Document) : List Node :=
  (nodesOf document).filter isCodeBlock

/-- The only child of the node is a formula. -/
def holdsFormula : Node → Bool
  | .element _ _ [child] _ => child.formula?.isSome
  | _ => false

end Node

/-- The text of a code block that stays one. -/
def Place.keptText? (place : Place) : Option Datum :=
  if place.node.holdsFormula && !place.isCaptured then none else place.node.codeText?

namespace Node

/-- The texts of the code blocks that stay code blocks, among siblings and below them. -/
def keptTextsAmong (around : List Place) (before : Option Node) (nodes : List Node) : List Datum :=
  (sitesAmong around before nodes).filterMap fun site => site.toPlace.keptText?

/-- A `pre` holds code around a text, or a text. -/
def IsPreformatted : Node → Prop
  | .element tag _ children _ => tag.reads "pre" = true →
    (∃ tag' attributes content metadata, tag'.reads "code" = true ∧
      children = [.element tag' attributes [.text content] metadata]) ∨
    ∃ content, children = [.text content]
  | .text _ | .comment _ _ | .bare | .foreign _ => True

theorem codeText?_leaf {node : Node} (hleaf : node.isElement = false) : codeText? node = none := by
  cases node with
  | element => cases hleaf
  | _ => rfl

/-- What is no `pre` has no code of its own. -/
theorem codeText?_of_reads {tag : Label} (htag : tag.reads "pre" = false) (attributes : List Attribute)
    (children : List Node) (metadata : Datum) :
    codeText? (.element tag attributes children metadata) = none := by
  unfold codeText?
  split
  · rename_i heq
    cases heq
    rw [htag, Bool.false_and, if_neg Bool.false_ne_true]
  · rfl

/-- Without code there is no text to keep. -/
theorem keptText?_of_codeText?_eq_none {place : Place} (hnone : place.node.codeText? = none) :
    place.keptText? = none := by
  rw [Place.keptText?, hnone, ite_self]

theorem codeTexts_leaf {node : Node} (hleaf : node.isElement = false) (rest : List Node) :
    codeTexts (node :: rest) = codeTexts rest := by
  simp [codeTexts, nodesFrom_leaf hleaf, codeText?_leaf hleaf]

theorem codeTexts_element (tag : Label) (attributes : List Attribute) (children : List Node)
    (metadata : Datum) (rest : List Node) :
    codeTexts (.element tag attributes children metadata :: rest) =
      (codeText? (.element tag attributes children metadata)).toList ++
        (codeTexts children ++ codeTexts rest) := by
  cases htext : codeText? (.element tag attributes children metadata) <;>
    simp [codeTexts, htext, List.filterMap_append]

section Kept

variable (around : List Place) (before : Option Node)

theorem keptTextsAmong_nil : keptTextsAmong around before [] = [] := rfl

theorem keptTextsAmong_leaf {node : Node} (hleaf : node.isElement = false) (rest : List Node) :
    keptTextsAmong around before (node :: rest) = keptTextsAmong around (some node) rest := by
  have hnone : Place.keptText? ⟨before, node, rest.head?⟩ = none :=
    keptText?_of_codeText?_eq_none (codeText?_leaf hleaf)
  simp [keptTextsAmong, sitesFrom_leaf _ _ _ hleaf, hnone]

theorem keptTextsAmong_element (tag : Label) (attributes : List Attribute) (children : List Node)
    (metadata : Datum) (rest : List Node) :
    keptTextsAmong around before (.element tag attributes children metadata :: rest) =
      (Place.keptText? ⟨before, .element tag attributes children metadata, rest.head?⟩).toList ++
        (keptTextsAmong (⟨before, .element tag attributes children metadata, rest.head?⟩ :: around) none
            children ++
          keptTextsAmong around (some (.element tag attributes children metadata)) rest) := by
  cases htext : Place.keptText? ⟨before, .element tag attributes children metadata, rest.head?⟩ <;>
    simp [keptTextsAmong, htext, List.filterMap_append]

end Kept

/-- A code block at the front gives its text. -/
theorem codeTexts_codeBlock {tag tag' : Label} (htag : tag.reads "pre" = true)
    (htag' : tag'.reads "code" = true) (attributes attributes' : List Attribute)
    (content metadata metadata' : Datum) (rest : List Node) :
    codeTexts (.element tag attributes [.element tag' attributes' [.text content] metadata'] metadata ::
      rest) = content :: codeTexts rest := by
  have hblock : codeText? (.element tag attributes
      [.element tag' attributes' [.text content] metadata'] metadata) = some content := by
    simp [codeText?, htag, htag']
  have hcode : codeText? (.element tag' attributes' [.text content] metadata') = none := rfl
  rw [codeTexts_element, hblock, codeTexts_element, hcode, codeTexts_leaf (isElement_text content)]
  rfl

/-- A code block behind an output marker keeps its text, whatever its language. -/
theorem keptTextsAmong_captured (around : List Place) {before : Option Node} {tag tag' : Label}
    (hbefore : before.any isOutputMarker = true) (htag : tag.reads "pre" = true)
    (htag' : tag'.reads "code" = true) (attributes attributes' : List Attribute)
    (content metadata metadata' : Datum) (rest : List Node) :
    keptTextsAmong around before
      (.element tag attributes [.element tag' attributes' [.text content] metadata'] metadata :: rest) =
        content :: keptTextsAmong around
          (some (.element tag attributes [.element tag' attributes' [.text content] metadata'] metadata))
          rest := by
  have hcaptured := Place.isCaptured_codeBlock hbefore htag htag' attributes attributes' content metadata
    metadata' rest.head?
  have hkept : Place.keptText? ⟨before, .element tag attributes
      [.element tag' attributes' [.text content] metadata'] metadata, rest.head?⟩ = some content := by
    simp [Place.keptText?, hcaptured, codeText?, htag, htag']
  have hcode (code : Place) (hnode : code.node = .element tag' attributes' [.text content] metadata') :
      code.keptText? = none :=
    keptText?_of_codeText?_eq_none (by rw [hnode]; rfl)
  rw [keptTextsAmong_element, hkept, keptTextsAmong_element, hcode _ rfl,
    keptTextsAmong_leaf _ _ (isElement_text content), keptTextsAmong_nil]
  rfl

theorem Normalizes.singleton_text {before : Option Node} {content : Datum} {out : List Node}
    (h : Normalizes before [.text content] out) : out = [.text content] := by
  cases h with
  | drop hmarker => cases hmarker
  | keep _ _ hrest =>
    cases hrest
    rfl

/-- A tag stays what it is unless it is that of a quote. -/
theorem reads_normalTag_of_reads {tag : Label} {name : String} (hlabel : isTextLabel tag = true)
    (htag : tag.reads name = true) (hquote : name ≠ "blockquote") (children : List Node) :
    (normalTag (admonition tag children) tag).reads name = true := by
  have hempty : admonition tag children = [] := by
    simp [admonition, Label.reads_eq_false_of_reads htag hquote]
  rw [hempty, normalTag, List.isEmpty_nil, if_pos rfl, Label.reads_canonical hlabel, htag]

section Element

variable {before after : Option Node} {tag : Label} {attributes : List Attribute}
  {children children' : List Node} {metadata : Datum}

/-- A code block that is walked stays one unless the code in it is a formula. -/
theorem codeText?_codeBlock {tag' : Label} {attributes' : List Attribute} {content metadata' : Datum}
    (hfree : before.any isOutputMarker = false) (htag : tag.reads "pre" = true)
    (htag' : tag'.reads "code" = true) (hlabel : isTextLabel tag = true) (hlabel' : isTextLabel tag' = true)
    (hchildren : Normalizes none [.element tag' attributes' [.text content] metadata'] children')
    (attributesAfter : List Attribute) (metadataAfter : Datum) :
    codeText? (.element (normalTag (admonition tag children) tag) attributesAfter children'
        metadataAfter) =
      Place.keptText? ⟨before, .element tag attributes
        [.element tag' attributes' [.text content] metadata'] metadata, after⟩ := by
  have hcaptured : Place.isCaptured ⟨before, .element tag attributes
      [.element tag' attributes' [.text content] metadata'] metadata, after⟩ = false := by
    rw [Place.isCaptured, hfree, Bool.false_and]
  cases hchildren with
  | drop hmarker => cases hmarker
  | keep hleaf => cases hleaf
  | formula _ hformula hrest =>
    cases hrest
    simp [Place.keptText?, hcaptured, holdsFormula, hformula, codeText?]
  | element _ hformula htext hrest =>
    cases hrest
    obtain rfl := htext.singleton_text
    simp [Place.keptText?, holdsFormula, hformula, codeText?, htag, htag',
      reads_normalTag_of_reads hlabel htag, reads_normalTag_of_reads hlabel' htag']

/-- What becomes of an element that is walked is a code block if the element stays one. -/
theorem codeText?_normal
    (hfree : (before.any isOutputMarker && isCodeBlock (.element tag attributes children metadata)) = false)
    (hlabel : isTextLabel tag = true) (husable : IsUsable children)
    (hpre : IsPreformatted (.element tag attributes children metadata))
    (hchildren : Normalizes none children children') (attributesAfter : List Attribute)
    (metadataAfter : Datum) :
    codeText? (.element (normalTag (admonition tag children) tag) attributesAfter children'
        metadataAfter) =
      Place.keptText? ⟨before, .element tag attributes children metadata, after⟩ := by
  cases htag : tag.reads "pre" with
  | false =>
    have hnone := codeText?_of_reads htag attributes children metadata
    have htag' : (normalTag (admonition tag children) tag).reads "pre" = false := by
      cases hpre' : (normalTag (admonition tag children) tag).reads "pre" with
      | false => rfl
      | true => exact (reads_normalTag hlabel hpre' (by decide)).2 ▸ htag
    rw [codeText?_of_reads htag', keptText?_of_codeText?_eq_none hnone]
  | true =>
    rcases hpre htag with ⟨tag', attributes', content, metadata', htag', rfl⟩ | ⟨content, rfl⟩
    · have hmarker : before.any isOutputMarker = false := by
        simpa [isCodeBlock, htag, htag'] using hfree
      exact codeText?_codeBlock hmarker htag htag' hlabel husable.head.tag hchildren _ _
    · obtain rfl := hchildren.singleton_text
      rw [keptText?_of_codeText?_eq_none rfl]
      rfl

end Element

/-- The code blocks of what siblings become are those among the siblings that stay code blocks. -/
theorem Normalizes.codeTexts_eq {before : Option Node} {nodes out : List Node}
    (h : Normalizes before nodes out) (husable : IsUsable nodes)
    (hpre : Throughout IsPreformatted nodes) :
    ∀ around, codeTexts out = keptTextsAmong around before nodes := by
  induction h with
  | nil => intros; rfl
  | drop hmarker _ _ ih =>
    intro around
    rw [keptTextsAmong_leaf _ _ (isElement_of_isOutputMarker hmarker)]
    exact ih husable.tail (throughout_cons.mp hpre).2 around
  | keep hleaf _ _ ih =>
    intro around
    rw [codeTexts_leaf hleaf, keptTextsAmong_leaf _ _ hleaf]
    exact ih husable.tail (throughout_cons.mp hpre).2 around
  | @capture before tag tag' attributes attributes' content metadata metadata' rest out hbefore htag
      htag' _ ih =>
    intro around
    -- The code gains a class and is not looked at, so the text stays even if it is a formula.
    have houter := (Label.reads_canonical husable.head.tag _).trans htag
    have hinner := (Label.reads_canonical husable.children.head.tag _).trans htag'
    rw [codeTexts_codeBlock houter hinner, keptTextsAmong_captured _ hbefore htag htag']
    exact congrArg (content :: ·) (ih husable.tail (throughout_cons.mp hpre).2 around)
  | @formula before tag attributes content metadata style rest out htag hformula _ ih =>
    intro around
    have hcode := Label.reads_eq_false_of_reads htag (show "code" ≠ "pre" by decide)
    have hnone : codeText? (.element tag attributes [.text content] metadata) = none :=
      codeText?_of_reads hcode _ _ _
    rw [codeTexts_leaf (isElement_text _), keptTextsAmong_element,
      keptText?_of_codeText?_eq_none hnone, keptTextsAmong_leaf _ _ (isElement_text _),
      keptTextsAmong_nil]
    exact ih husable.tail (throughout_cons.mp hpre).2 around
  | @element before tag attributes children children' metadata rest out hfree _ hchildren _
      ihChildren ih =>
    intro around
    obtain ⟨hself, hrest⟩ := throughout_cons.mp hpre
    obtain ⟨hshape, hbelow⟩ := throughout_element.mp hself
    -- The two hypotheses speak for what is below and behind, `codeText?_normal` for the element itself.
    rw [codeTexts_element, keptTextsAmong_element, ihChildren husable.children hbelow,
      ih husable.tail hrest,
      codeText?_normal hfree husable.head.tag husable.children hshape hchildren]

/-- Only a code block has code of its own. -/
theorem codeText?_eq_none_of_isCodeBlock {node : Node} (hblock : node.isCodeBlock = false) :
    codeText? node = none := by
  unfold codeText?
  split
  · rename_i tag _ tag' _ _ _ _
    have htags : (tag.reads "pre" && tag'.reads "code") = false := hblock
    rw [htags, if_neg Bool.false_ne_true]
  · rfl

/-- The code texts of a document are the texts of its code blocks. -/
theorem codeTexts_eq_filterMap (document : Document) :
    codeTexts document = (codeBlocksOf document).filterMap codeText? := by
  rw [codeTexts, codeBlocksOf, List.filterMap_filter]
  refine List.filterMap_congr fun node _ => ?_
  cases hblock : node.isCodeBlock with
  | false => exact codeText?_eq_none_of_isCodeBlock hblock
  | true => rfl

/-- All code blocks stay code blocks if no formula is the code of one. -/
theorem keptTextsAmong_eq_codeTexts {nodes : List Node}
    (hcode : ∀ node ∈ codeBlocksOf nodes, node.holdsFormula = false) (around : List Place)
    (before : Option Node) : keptTextsAmong around before nodes = codeTexts nodes := by
  have hkept : ∀ site ∈ sitesAmong around before nodes, site.toPlace.keptText? = site.node.codeText? := by
    intro site hmem
    cases hblock : site.node.isCodeBlock with
    | false =>
      have hnone := codeText?_eq_none_of_isCodeBlock hblock
      rw [keptText?_of_codeText?_eq_none hnone, hnone]
    | true =>
      have hnode : site.node ∈ nodesOf nodes :=
        map_node_sitesAmong nodes around before ▸ List.mem_map_of_mem hmem
      have hformula := hcode site.node (List.mem_filter.mpr ⟨hnode, hblock⟩)
      rw [Place.keptText?, hformula, Bool.false_and, if_neg Bool.false_ne_true]
  rw [keptTextsAmong, List.filterMap_congr hkept, codeTexts, ← map_node_sitesAmong nodes around before,
    List.filterMap_map]
  rfl

end Node

end MarkTree
