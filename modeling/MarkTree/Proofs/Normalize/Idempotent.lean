import MarkTree.Proofs.Normalize.FixedPoint

namespace MarkTree

/-- An output marker with another one right behind it. -/
def Place.isMarkerPair (place : Place) : Bool :=
  place.node.isOutputMarker && place.after.any Node.isOutputMarker

namespace Node

/-- A `code` element with a child that is no text. -/
def isMixedCode : Node → Bool
  | .element tag _ children _ => tag.reads "code" && !children.all isText
  | .text _ | .comment _ _ | .bare | .foreign _ => false

/-- Among siblings that follow a node and below them no output marker stands right before another one,
    and every child of every `code` element is a text. -/
structure RegularAmong (around : List Place) (before : Option Node) (nodes : List Node) : Prop where
  markers : ∀ site ∈ sitesAmong around before nodes, site.isMarkerPair = false
  code : ∀ site ∈ sitesAmong around before nodes, site.node.isMixedCode = false

/-- A document that keeps to what a parser promises. -/
abbrev IsRegular (document : Document) : Prop :=
  RegularAmong [] none document

namespace RegularAmong

variable {around : List Place} {before : Option Node} {node : Node} {rest : List Node}

theorem tail (h : RegularAmong around before (node :: rest)) : RegularAmong around (some node) rest :=
  ⟨fun site hmem => h.markers site (List.mem_append_right _ hmem),
    fun site hmem => h.code site (List.mem_append_right _ hmem)⟩

/-- Behind an output marker stands none. -/
theorem next_of_marker (h : RegularAmong around before (node :: rest))
    (hmarker : node.isOutputMarker = true) : rest.head?.any isOutputMarker = false := by
  have hleaf := isElement_of_isOutputMarker hmarker
  have hpair := h.markers ⟨⟨before, node, rest.head?⟩, around⟩ (by simp [sitesFrom_leaf _ _ _ hleaf])
  simpa [Place.isMarkerPair, hmarker] using hpair

variable {tag : Label} {attributes : List Attribute} {below : List Node} {metadata : Datum}

theorem children (h : RegularAmong around before (.element tag attributes below metadata :: rest)) :
    RegularAmong (⟨before, .element tag attributes below metadata, rest.head?⟩ :: around) none below :=
  ⟨fun site hmem => h.markers site (by simp [hmem]), fun site hmem => h.code site (by simp [hmem])⟩

/-- The children of code are texts. -/
theorem texts (h : RegularAmong around before (.element tag attributes below metadata :: rest))
    (htag : tag.reads "code" = true) : ∀ child ∈ below, child.isText = true := by
  have hcode := h.code ⟨⟨before, .element tag attributes below metadata, rest.head?⟩, around⟩ (by simp)
  simpa [isMixedCode, htag] using hcode

end RegularAmong

theorem isElement_of_isText {node : Node} (htext : node.isText = true) :
    node.isElement = false ∧ node.isOutputMarker = false := by
  cases node <;> simp_all [isText, isElement, isOutputMarker]

/-- Texts are left alone. -/
theorem Normalizes.eq_of_texts {before : Option Node} {nodes out : List Node}
    (h : Normalizes before nodes out) (htexts : ∀ node ∈ nodes, node.isText = true) : out = nodes := by
  induction h with
  | nil => rfl
  | drop hmarker _ _ _ =>
    have htext := (isElement_of_isText (htexts _ List.mem_cons_self)).2
    rw [htext] at hmarker
    cases hmarker
  | keep _ _ _ ih => rw [ih fun node hmem => htexts node (List.mem_cons_of_mem _ hmem)]
  | capture | formula | element =>
    have htext := (isElement_of_isText (htexts _ List.mem_cons_self)).1
    cases htext

/-- A code block that was captured comes out as an element that is no code. -/
theorem Normalizes.head_of_captured {marker : Node} {nodes out : List Node}
    (h : Normalizes (some marker) nodes out) (hmarker : marker.isOutputMarker = true)
    (hblock : startsWithCodeBlock nodes = true) (hwell : areWellTyped nodes = true) :
    ∃ tag attributes children metadata rest,
      out = .element tag attributes children metadata :: rest ∧ tag.reads "code" = false := by
  cases nodes with
  | nil => cases hblock
  | cons block rest =>
    obtain ⟨_, _, _, _, _, _, _, rfl, htag, htag'⟩ := exists_of_isCodeBlock hblock
    have houter := (areWellTyped_element.mp hwell).1
    cases h with
    | capture =>
      refine ⟨_, _, _, _, _, rfl, ?_⟩
      rw [Label.reads_canonical houter.tag]
      exact Label.reads_eq_false_of_reads htag (by decide)
    | element hfree => simp [hmarker, isCodeBlock, htag, htag'] at hfree
    | drop hmarker' => cases hmarker'
    | keep hleaf => cases hleaf

/-- Nothing comes of nothing only. -/
theorem Normalizes.eq_nil {before : Option Node} {nodes : List Node} (h : Normalizes before nodes [])
    (hwell : areWellTyped nodes = true) : nodes = [] := by
  cases h with
  | nil => rfl
  | drop hmarker hblock hrest =>
    obtain ⟨_, _, _, _, _, hout, -⟩ :=
      hrest.head_of_captured hmarker hblock (areWellTyped_cons.mp hwell).2
    cases hout

/-- Siblings that come to a single `code` element are a single one with the same children. -/
theorem Normalizes.eq_of_code {around : List Place} {nodes : List Node} {tag : Label}
    {attributes : List Attribute} {children : List Node} {metadata : Datum}
    (h : Normalizes none nodes [.element tag attributes children metadata])
    (hcode : tag.reads "code" = true) (hwell : areWellTyped nodes = true)
    (hregular : RegularAmong around none nodes) :
    ∃ tag' attributes' metadata', nodes = [.element tag' attributes' children metadata'] ∧
      tag'.reads "code" = true := by
  generalize hout : [Node.element tag attributes children metadata] = out at h
  cases h with
  | nil => cases hout
  | drop hmarker hblock hrest =>
    obtain ⟨_, _, _, _, _, rfl, hnot⟩ :=
      hrest.head_of_captured hmarker hblock (areWellTyped_cons.mp hwell).2
    cases hout
    rw [hcode] at hnot
    cases hnot
  | keep hleaf _ _ =>
    cases hout
    cases hleaf
  | capture hbefore _ _ _ => cases hbefore
  | formula _ _ _ => cases hout
  | element _ _ hchildren hrest =>
    cases hout
    obtain ⟨hparts, hwellRest⟩ := areWellTyped_element.mp hwell
    obtain ⟨-, hcode'⟩ := reads_normalTag hparts.tag hcode (by decide)
    rw [hrest.eq_nil hwellRest, hchildren.eq_of_texts (hregular.texts hcode')]
    exact ⟨_, _, _, rfl, hcode'⟩

/-- An element that comes out as a code block was one. -/
theorem Normalizes.isCodeBlock_of_normal {around : List Place} {before : Option Node} {tag : Label}
    {attributes attributes' : List Attribute} {children children' rest : List Node}
    {metadata metadata' : Datum} (hchildren : Normalizes none children children')
    (hwell : areWellTyped (.element tag attributes children metadata :: rest) = true)
    (hregular : RegularAmong around before (.element tag attributes children metadata :: rest))
    (hblock : isCodeBlock (.element (normalTag (admonition tag children) tag) attributes' children'
      metadata') = true) :
    isCodeBlock (.element tag attributes children metadata) = true := by
  have hparts := (areWellTyped_element.mp hwell).1
  obtain ⟨_, _, _, _, _, _, _, heq, hpre, hcode⟩ := exists_of_isCodeBlock hblock
  cases heq
  obtain ⟨-, hpre'⟩ := reads_normalTag hparts.tag hpre (by decide)
  obtain ⟨_, _, _, rfl, hcode'⟩ := hchildren.eq_of_code hcode hparts.children hregular.children
  simp [isCodeBlock, hpre', hcode']

/-- Siblings that open with neither a code block nor an output marker do not come to open with a code
    block. -/
theorem Normalizes.startsWithCodeBlock_eq_false {around : List Place} {before : Option Node}
    {nodes out : List Node} (h : Normalizes before nodes out) (hwell : areWellTyped nodes = true)
    (hregular : RegularAmong around before nodes) (hblock : startsWithCodeBlock nodes = false)
    (hmarker : nodes.head?.any isOutputMarker = false) : startsWithCodeBlock out = false := by
  cases h with
  | nil => rfl
  | drop hmarker' _ _ =>
    rw [List.head?_cons, Option.any_some, hmarker'] at hmarker
    cases hmarker
  | @keep _ node _ _ hleaf _ _ =>
    cases node with
    | element => cases hleaf
    | _ => rfl
  | capture _ htag htag' _ => simp [startsWithCodeBlock, isCodeBlock, htag, htag'] at hblock
  | formula _ _ _ => rfl
  | element _ _ hchildren _ =>
    rw [startsWithCodeBlock] at hblock ⊢
    refine Bool.eq_false_iff.mpr fun hnot => ?_
    rw [hchildren.isCodeBlock_of_normal hwell hregular hnot] at hblock
    cases hblock

/-- Whether code is a formula does not depend on whether its names are canonical. -/
theorem formula?_canonical {tag : Label} {attributes : List Attribute} (htag : isTextLabel tag = true)
    (hattributes : TextAttributes attributes) (children : List Node) (metadata metadata' : Datum) :
    formula? (.element tag.canonical (canonicalAttributes attributes) children metadata) =
      formula? (.element tag attributes children metadata') := by
  rcases attributes with _ | ⟨⟨name, value⟩, _ | ⟨pair, rest⟩⟩
  · rfl
  · have hname := (hattributes _ List.mem_cons_self).1
    rcases children with _ | ⟨child, _ | ⟨next, rest⟩⟩
    · rfl
    · cases child with
      | text => simp [formula?, canonicalAttributes, Label.reads_canonical htag, Label.reads_canonical hname]
      | _ => rfl
    · cases child <;> rfl
  · rfl

/-- The code of captured output is no formula. -/
theorem formula?_output {tag : Label} {attributes : List Attribute} (htag : isTextLabel tag = true)
    (hattributes : TextAttributes attributes) (children : List Node) (metadata : Datum) :
    formula? (.element tag.canonical (canonicalAttributes (outputAttributes attributes)) children
      metadata) = none := by
  rw [formula?_canonical htag (textAttributes_output hattributes) children metadata metadata]
  cases hformula : formula? (.element tag (outputAttributes attributes) children metadata) with
  | none => rfl
  | some style =>
    obtain ⟨_, rfl, _, hmath⟩ := formula?_eq_some hformula
    rw [math?_outputAttributes] at hmath
    cases hmath

/-- An element that stays an element comes out as no formula. -/
theorem Normalizes.formula?_normal {around : List Place} {before : Option Node} {tag : Label}
    {attributes : List Attribute} {children children' rest : List Node} {metadata metadata' : Datum}
    (hchildren : Normalizes none children children')
    (hwell : areWellTyped (.element tag attributes children metadata :: rest) = true)
    (hregular : RegularAmong around before (.element tag attributes children metadata :: rest))
    (hformula : formula? (.element tag attributes children metadata) = none) :
    formula? (.element (normalTag (admonition tag children) tag)
      (normalAttributes (admonition tag children) attributes) children' metadata') = none := by
  have hparts := (areWellTyped_element.mp hwell).1
  cases hcode : (normalTag (admonition tag children) tag).reads "code" with
  | false => exact formula?_eq_none_of_reads hcode _ _ _
  | true =>
    obtain ⟨hempty, hcode'⟩ := reads_normalTag hparts.tag hcode (by decide)
    rw [hchildren.eq_of_texts (hregular.texts hcode'), normalTag, normalAttributes, if_pos hempty,
      if_pos hempty, formula?_canonical hparts.tag hparts.attributes children metadata' metadata, hformula]

/-- No formula and no announcement comes out of a pass over a regular document. Where the result stands
    does not matter, so nothing is said about what lies around it. -/
theorem Normalizes.settled {before : Option Node} {nodes out : List Node}
    (h : Normalizes before nodes out) (hwell : areWellTyped nodes = true) : ∀ around,
    RegularAmong around before nodes → ∀ around' before',
      ∀ site ∈ sitesAmong around' before' out,
        site.node.formula? = none ∧ site.isAnnouncement = false := by
  induction h with
  | nil => intro _ _ _ _ site hmem; cases hmem
  | drop _ _ _ ih =>
    intro around hregular
    exact ih (areWellTyped_cons.mp hwell).2 around hregular.tail
  | @keep before node rest out hleaf hkeep hrest ih =>
    intro around hregular around' before' site hmem
    obtain ⟨_, hwellRest⟩ := areWellTyped_cons.mp hwell
    rw [sitesAmong_cons, sitesFrom_leaf _ _ _ hleaf, List.singleton_append, List.mem_cons] at hmem
    rcases hmem with rfl | hbehind
    · refine ⟨formula?_leaf hleaf, ?_⟩
      cases hmarker : node.isOutputMarker with
      | false => simp [Place.isAnnouncement, hmarker]
      | true =>
        rw [hmarker, Bool.true_and] at hkeep
        have hout := hrest.startsWithCodeBlock_eq_false hwellRest hregular.tail hkeep
          (hregular.next_of_marker hmarker)
        rw [startsWithCodeBlock_eq] at hout
        simp [Place.isAnnouncement, hout]
    · exact ih hwellRest around hregular.tail around' (some node) site hbehind
  | capture _ htag _ _ ih =>
    intro around hregular around' before' site hmem
    obtain ⟨houter, hwellRest⟩ := areWellTyped_element.mp hwell
    have hinner := (areWellTyped_element.mp houter.children).1
    have hpre := (Label.reads_canonical houter.tag "pre").trans htag
    simp only [sitesAmong_cons, sitesFrom_element, sitesAmong_nil, sitesFrom_leaf _ _ _ (isElement_text _),
      List.cons_append, List.nil_append, List.append_nil, List.mem_cons] at hmem
    rcases hmem with rfl | rfl | rfl | hbehind
    · exact ⟨formula?_eq_none_of_reads (Label.reads_eq_false_of_reads hpre (by decide)) _ _ _, rfl⟩
    · exact ⟨formula?_output hinner.tag hinner.attributes _ _, rfl⟩
    · exact ⟨rfl, rfl⟩
    · exact ih hwellRest around hregular.tail around' _ site hbehind
  | formula _ _ _ ih =>
    intro around hregular around' before' site hmem
    rw [sitesAmong_cons, sitesFrom_leaf _ _ _ rfl, List.singleton_append, List.mem_cons] at hmem
    rcases hmem with rfl | hbehind
    · exact ⟨rfl, rfl⟩
    · exact ih (areWellTyped_cons.mp hwell).2 around hregular.tail around' _ site hbehind
  | element _ hformula hchildren _ ihChildren ih =>
    intro around hregular around' before' site hmem
    obtain ⟨hparts, hwellRest⟩ := areWellTyped_element.mp hwell
    rw [sitesAmong_cons, sitesFrom_element, List.cons_append, List.mem_cons, List.mem_append] at hmem
    rcases hmem with rfl | hbelow | hbehind
    · exact ⟨hchildren.formula?_normal hwell hregular hformula, rfl⟩
    · exact ihChildren hparts.children _ hregular.children _ none site hbelow
    · exact ih hwellRest around hregular.tail around' _ site hbehind

/-- The result of a pass over a regular document is in normal form. -/
theorem Normalizes.isNormal {document out : Document} (h : Normalizes none document out)
    (hwell : areWellTyped document = true) (hregular : IsRegular document) : IsNormal out := by
  refine Classical.byContradiction fun hredex => ?_
  rcases exists_redex hredex with hadmonition | ⟨site, hmem, hsite⟩
  · exact hadmonition (h.countOf_isAdmonition hwell)
  · obtain ⟨hformula, hannouncement⟩ := h.settled hwell [] hregular [] none site hmem
    simp [hformula, hannouncement] at hsite

end Node

/-- Normalization is idempotent on documents without output markers in a row whose code holds texts
    alone. -/
theorem normalize_idempotent {document : Document} (hwell : Node.areWellTyped document = true)
    (hregular : Node.IsRegular document) :
    ∃ out, normalize document = .ok out ∧ normalize out = .ok out := by
  obtain ⟨out, hout, h⟩ := normalizes_of_wellTyped hwell
  exact ⟨out, hout, (h.settling hwell).fixed (h.isNormal hwell hregular)⟩

open Notebook in
/-- Output behind its marker and an admonition are rewritten once and for all. -/
theorem normalize_idempotent_output :
    Node.areWellTyped [marker, output, warning, marker] = true ∧
      Node.IsRegular [marker, output, warning, marker] ∧
      ∃ out, normalize [marker, output, warning, marker] = .ok out ∧ normalize out = .ok out := by
  have hregular : Node.IsRegular [marker, output, warning, marker] := ⟨by decide, by decide⟩
  exact ⟨by decide, hregular, normalize_idempotent (by decide) hregular⟩

end MarkTree
