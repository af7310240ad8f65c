import MarkTree.Proofs.Normalize.Derivation

namespace MarkTree

namespace Node

def isQuote : Node → Bool
  | .element tag _ _ _ => tag.reads "blockquote"
  | .text _ | .comment _ _ | .bare | .foreign _ => false

theorem isQuote_leaf {node : Node} (hleaf : node.isElement = false) : node.isQuote = false := by
  cases node with
  | element => simp [isElement] at hleaf
  | _ => rfl

/-- An element with another tag is no quote. -/
theorem isQuote_of_reads {tag : Label} {name : String} (htag : tag.reads name = true)
    (hne : name ≠ "blockquote") (attributes : List Attribute) (children : List Node)
    (metadata : Datum) : isQuote (.element tag attributes children metadata) = false :=
  Label.reads_eq_false_of_reads htag hne

/-- Only quotes pass the test. -/
def QuotesOnly (test : Node → Bool) : Prop :=
  ∀ node, node.isQuote = false → test node = false

theorem quotesOnly_isQuote : QuotesOnly isQuote :=
  fun _ hquote => hquote

theorem quotesOnly_isAdmonition : QuotesOnly isAdmonition := by
  intro node hquote
  unfold isAdmonition
  split
  · rename_i tag _ _ _ _ _ _ _
    rw [isQuote] at hquote
    rw [hquote, Bool.false_and, Bool.false_and]
  · rfl

namespace QuotesOnly

variable {test : Node → Bool} (htest : QuotesOnly test)
include htest

theorem countOf_leaf {node : Node} (hleaf : node.isElement = false) (rest : List Node) :
    countOf test (node :: rest) = countOf test rest := by
  rw [Node.countOf_leaf test hleaf, htest _ (isQuote_leaf hleaf), Bool.toNat_false, Nat.zero_add]

theorem countOf_element {tag : Label} {name : String} (htag : tag.reads name = true)
    (hne : name ≠ "blockquote") (attributes : List Attribute) (children : List Node)
    (metadata : Datum) (rest : List Node) :
    countOf test (.element tag attributes children metadata :: rest) =
      countOf test children + countOf test rest := by
  rw [Node.countOf_element, htest _ (isQuote_of_reads htag hne _ _ _), Bool.toNat_false, Nat.zero_add]

/-- Neither formulas nor code blocks hold anything that such a test counts. -/
theorem countOf_code {tag : Label} (htag : tag.reads "code" = true) (attributes : List Attribute)
    (content metadata : Datum) (rest : List Node) :
    countOf test (.element tag attributes [.text content] metadata :: rest) = countOf test rest := by
  rw [htest.countOf_element htag (by decide), htest.countOf_leaf (isElement_text content), countOf_nil,
    Nat.zero_add]

/-- In a code block nothing is counted. -/
theorem countOf_codeBlock {tag tag' : Label} (htag : tag.reads "pre" = true)
    (htag' : tag'.reads "code" = true) (attributes attributes' : List Attribute)
    (content metadata metadata' : Datum) (rest : List Node) :
    countOf test (.element tag attributes [.element tag' attributes' [.text content] metadata'] metadata
      :: rest) = countOf test rest := by
  rw [htest.countOf_element htag (by decide), htest.countOf_code htag', countOf_nil, Nat.zero_add]

end QuotesOnly

/-- A walked element is a quote afterwards when it was one and was no admonition. -/
theorem isQuote_normal {tag : Label} {attributes : List Attribute} {children : List Node}
    {metadata : Datum} (hparts : WellTypedElement tag attributes children metadata)
    (attributes' : List Attribute) (children' : List Node) (metadata' : Datum) :
    (isQuote (.element (normalTag (admonition tag children) tag) attributes' children'
        metadata')).toNat +
      (isAdmonition (.element tag attributes children metadata)).toNat =
        (isQuote (.element tag attributes children metadata)).toNat := by
  rw [isAdmonition_element, isQuote, isQuote, normalTag]
  cases hempty : (admonition tag children).isEmpty with
  | true => simp [Label.reads_canonical hparts.tag]
  | false =>
    have hquote : tag.reads "blockquote" = true := by
      cases hquote : tag.reads "blockquote" with
      | true => rfl
      | false => simp [admonition, hquote] at hempty
    have hdiv : (Label.name "div").reads "blockquote" = false := by decide
    simp [hquote, hdiv]

/-- Exactly the admonitions are quotes no more. -/
theorem Normalizes.countOf_isQuote {before : Option Node} {nodes out : List Node}
    (h : Normalizes before nodes out) (hwell : areWellTyped nodes = true) :
    countOf isQuote out + countOf isAdmonition nodes = countOf isQuote nodes := by
  have hquote := quotesOnly_isQuote
  have hadmonition := quotesOnly_isAdmonition
  induction h with
  | nil => rfl
  | drop hmarker _ _ ih =>
    have hleaf := isElement_of_isOutputMarker hmarker
    rw [hquote.countOf_leaf hleaf, hadmonition.countOf_leaf hleaf]
    exact ih (areWellTyped_cons.mp hwell).2
  | keep hleaf _ _ ih =>
    rw [hquote.countOf_leaf hleaf, hquote.countOf_leaf hleaf, hadmonition.countOf_leaf hleaf]
    exact ih (areWellTyped_cons.mp hwell).2
  | capture _ htag htag' _ ih =>
    obtain ⟨houter, hrest⟩ := areWellTyped_element.mp hwell
    have hinner := (areWellTyped_element.mp houter.children).1
    rw [hquote.countOf_codeBlock htag htag', hadmonition.countOf_codeBlock htag htag',
      hquote.countOf_codeBlock ((Label.reads_canonical houter.tag _).trans htag)
        ((Label.reads_canonical hinner.tag _).trans htag')]
    exact ih hrest
  | formula htag _ _ ih =>
    rw [hquote.countOf_leaf (isElement_text _), hquote.countOf_code htag, hadmonition.countOf_code htag]
    exact ih (areWellTyped_cons.mp hwell).2
  | @element _ tag attributes children children' metadata _ _ _ _ _ _ ihChildren ih =>
    -- Of this element itself the three counts see what `isQuote_normal` says, and no more.
    obtain ⟨hparts, hrest⟩ := areWellTyped_element.mp hwell
    have hself := isQuote_normal hparts
      (normalAttributes (admonition tag children) attributes) children' (metadataRecord metadata)
    have hbelow := ihChildren hparts.children
    have hbehind := ih hrest
    simp only [Node.countOf_element]
    omega

theorem admonitionTokens_canonical {attributes : List Attribute}
    (hattributes : TextAttributes attributes) :
    admonitionTokens (canonicalAttributes attributes) = admonitionTokens attributes := by
  rw [admonitionTokens, canonicalAttributes, Attributes.find?_canonical hattributes, admonitionTokens]

theorem openingHeading?_leaf {node : Node} (hleaf : node.isElement = false) (rest : List Node) :
    openingHeading? (node :: rest) = none := by
  cases node with
  | element => simp [isElement] at hleaf
  | _ => rfl

/-- An element with another tag at the front is no heading. -/
theorem openingHeading?_of_reads {tag : Label} {name : String} (htag : tag.reads name = true)
    (hthree : name ≠ "h3") (hfour : name ≠ "h4") (attributes : List Attribute) (children : List Node)
    (metadata : Datum) (rest : List Node) :
    openingHeading? (.element tag attributes children metadata :: rest) = none := by
  simp [openingHeading?, Label.reads_eq_false_of_reads htag hthree,
    Label.reads_eq_false_of_reads htag hfour]

/-- What siblings become opens with the same admonition classes as they do. -/
theorem Normalizes.admonitionTokens_eq {before : Option Node} {nodes out : List Node}
    (h : Normalizes before nodes out) (hwell : areWellTyped nodes = true) :
    (openingHeading? out).map admonitionTokens = (openingHeading? nodes).map admonitionTokens := by
  induction h with
  | nil => rfl
  | @drop before marker rest out hmarker hblock _ ih =>
    rw [openingHeading?_leaf (isElement_of_isOutputMarker hmarker), ih (areWellTyped_cons.mp hwell).2]
    cases rest with
    | nil => rfl
    | cons block rest =>
      obtain ⟨_, _, _, _, _, _, _, rfl, htag, -⟩ := exists_of_isCodeBlock hblock
      rw [openingHeading?_of_reads htag (by decide) (by decide)]
  | keep hleaf _ _ _ => rw [openingHeading?_leaf hleaf, openingHeading?_leaf hleaf]
  | capture _ htag _ _ _ =>
    have houter := (areWellTyped_element.mp hwell).1
    have htag' := (Label.reads_canonical houter.tag _).trans htag
    rw [openingHeading?_of_reads htag (by decide) (by decide),
      openingHeading?_of_reads htag' (by decide) (by decide)]
  | formula htag _ _ _ =>
    rw [openingHeading?_of_reads htag (by decide) (by decide), openingHeading?_leaf rfl]
  | @element _ tag attributes children _ _ _ _ _ _ _ _ _ _ =>
    have hparts := (areWellTyped_element.mp hwell).1
    by_cases hquote : tag.reads "blockquote" = true
    · rw [openingHeading?_of_reads hquote (by decide) (by decide), normalTag]
      split
      · have hquote' := (Label.reads_canonical hparts.tag _).trans hquote
        rw [openingHeading?_of_reads hquote' (by decide) (by decide)]
      · have hdiv : (Label.name "div").reads "div" = true := by decide
        rw [openingHeading?_of_reads hdiv (by decide) (by decide)]
    · have hempty : admonition tag children = [] := by simp [admonition, hquote]
      simp only [hempty, normalTag, normalAttributes, List.isEmpty_nil, ↓reduceIte, openingHeading?,
        Label.reads_canonical hparts.tag]
      split
      · simp [admonitionTokens_canonical hparts.attributes]
      · rfl

/-- A walked element is no admonition, whatever it was. -/
theorem isAdmonition_normal {tag : Label} {attributes : List Attribute}
    {children children' : List Node} {metadata : Datum}
    (hparts : WellTypedElement tag attributes children metadata)
    (hchildren : Normalizes none children children') (attributes' : List Attribute)
    (metadata' : Datum) :
    isAdmonition (.element (normalTag (admonition tag children) tag) attributes' children' metadata') =
      false := by
  rw [isAdmonition_element]
  cases hempty : (admonition tag children).isEmpty with
  | true =>
    have hsame : admonition tag.canonical children' = admonition tag children := by
      rw [admonition, admonition, Label.reads_canonical hparts.tag,
        hchildren.admonitionTokens_eq hparts.children]
    simp [normalTag, hempty, hsame]
  | false =>
    have hdiv : admonition (.name "div") children' = [] := if_neg (by decide)
    simp [normalTag, hempty, hdiv]

/-- No admonition is left by the rules, at any depth. -/
theorem Normalizes.countOf_isAdmonition {before : Option Node} {nodes out : List Node}
    (h : Normalizes before nodes out) (hwell : areWellTyped nodes = true) :
    countOf isAdmonition out = 0 := by
  have hadmonition := quotesOnly_isAdmonition
  induction h with
  | nil => rfl
  | drop _ _ _ ih => exact ih (areWellTyped_cons.mp hwell).2
  | keep hleaf _ _ ih =>
    rw [hadmonition.countOf_leaf hleaf]
    exact ih (areWellTyped_cons.mp hwell).2
  | capture _ htag htag' _ ih =>
    obtain ⟨houter, hrest⟩ := areWellTyped_element.mp hwell
    have hinner := (areWellTyped_element.mp houter.children).1
    rw [hadmonition.countOf_codeBlock ((Label.reads_canonical houter.tag _).trans htag)
      ((Label.reads_canonical hinner.tag _).trans htag')]
    exact ih hrest
  | formula _ _ _ ih =>
    rw [hadmonition.countOf_leaf (isElement_text _)]
    exact ih (areWellTyped_cons.mp hwell).2
  | element _ _ hchildren _ ihChildren ih =>
    obtain ⟨hparts, hrest⟩ := areWellTyped_element.mp hwell
    rw [countOf_element, isAdmonition_normal hparts hchildren, ihChildren hparts.children, ih hrest]
    rfl

end Node

/-- One pass converts every admonition: the result holds none at any depth, and what it has fewer of
    quotes than the document is as many as the document has admonitions. -/
theorem normalize_admonitions {document : Document} (hwell : Node.areWellTyped document = true) :
    ∃ out, normalize document = .ok out ∧
      (∀ node ∈ Node.nodesOf out, node.isAdmonition = false) ∧
      Node.countOf Node.isQuote out + Node.countOf Node.isAdmonition document =
        Node.countOf Node.isQuote document := by
  obtain ⟨out, hout, h⟩ := normalizes_of_wellTyped hwell
  refine ⟨out, hout, ?_, h.countOf_isQuote hwell⟩
  intro node hmem
  have hnone : (Node.nodesOf out).countP Node.isAdmonition = 0 := h.countOf_isAdmonition hwell
  simpa using List.countP_eq_zero.mp hnone node hmem

namespace Notebook

/-- A quote with an admonition in front of its heading. -/
def surrounding : Node :=
  .plain "blockquote" [] [warning, .plain "h4" [("class", .str "tip")] []]

/-- A quote with output in front of its heading. -/
def report : Node :=
  .plain "blockquote" [] [marker, output, .plain "h3" [("class", .str "tip")] []]

end Notebook

open Notebook in
/-- Of three quotes one opens with its heading, below another one, and is converted. The two around it
    and next to it stay quotes. -/
theorem normalize_admonitions_nested :
    Node.areWellTyped [surrounding, report] = true ∧
      ∃ out, normalize [surrounding, report] = .ok out ∧
        (∀ node ∈ Node.nodesOf out, node.isAdmonition = false) ∧
        Node.countOf Node.isQuote out = 2 := by
  have hwell : Node.areWellTyped [surrounding, report] = true := by decide
  obtain ⟨out, hout, hnone, hcount⟩ := normalize_admonitions hwell
  have hthree : Node.countOf Node.isQuote [surrounding, report] = 3 := by decide
  have hone : Node.countOf Node.isAdmonition [surrounding, report] = 1 := by decide
  exact ⟨hwell, out, hout, hnone, by omega⟩

end MarkTree
