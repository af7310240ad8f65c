import MarkTree.Proofs.Normalize.Admonition
import MarkTree.Proofs.Normalize.NormalForm

namespace MarkTree.Node

def size (document : Document) : Nat :=
  (nodesOf document).length

@[simp] theorem size_nil : size [] = 0 := rfl

theorem size_leaf {node : Node} (hleaf : node.isElement = false) (rest : List Node) :
    size (node :: rest) = size rest + 1 := by
  simp [size, nodesFrom_leaf hleaf]

theorem size_element (tag : Label) (attributes : List Attribute) (children : List Node)
    (metadata : Datum) (rest : List Node) :
    size (.element tag attributes children metadata :: rest) = size children + size rest + 1 := by
  simp [size]

/-- The rules make no document larger. -/
theorem Normalizes.size_le {before : Option Node} {nodes out : List Node}
    (h : Normalizes before nodes out) : size out ≤ size nodes := by
  induction h with
  | nil => exact Nat.le_refl 0
  | drop hmarker _ _ ih =>
    rw [size_leaf (isElement_of_isOutputMarker hmarker)]
    omega
  | keep hleaf _ _ ih =>
    rw [size_leaf hleaf, size_leaf hleaf]
    omega
  | capture _ _ _ _ ih =>
    simp only [size_element, size_leaf (isElement_text _), size_nil]
    omega
  | formula _ _ _ ih =>
    simp only [size_element, size_leaf (isElement_text _), size_nil]
    omega
  | element _ _ _ _ ihChildren ih =>
    rw [size_element, size_element]
    omega

/-- A formula or a dropped marker anywhere makes the result smaller. The code of captured output is the
    one formula that stays, and that it is captured means that a marker before it goes; so the siblings
    must not themselves start with a block captured from outside. -/
theorem Normalizes.size_lt {before : Option Node} {nodes out : List Node}
    (h : Normalizes before nodes out) : ∀ around,
    (before.any isOutputMarker && startsWithCodeBlock nodes) = false →
      (∃ site ∈ sitesAmong around before nodes,
        (site.node.formula?.isSome || site.isAnnouncement) = true) →
        size out < size nodes := by
  induction h with
  | nil => simp
  | drop hmarker _ hrest _ =>
    intro around _ _
    rw [size_leaf (isElement_of_isOutputMarker hmarker)]
    have := hrest.size_le
    omega
  | @keep before node rest out hleaf hkeep _ ih =>
    rintro around _ ⟨site, hmem, hredex⟩
    rw [size_leaf hleaf, size_leaf hleaf]
    rw [sitesAmong_cons, sitesFrom_leaf _ _ _ hleaf, List.singleton_append, List.mem_cons] at hmem
    obtain rfl | hbehind := hmem
    · rw [startsWithCodeBlock_eq] at hkeep
      simp [formula?_leaf hleaf, Place.isAnnouncement, hkeep] at hredex
    · have hlt := ih around hkeep ⟨site, hbehind, hredex⟩
      omega
  | capture hbefore htag htag' _ _ =>
    intro around hfree _
    simp [hbefore, startsWithCodeBlock, isCodeBlock, htag, htag'] at hfree
  | formula _ _ hrest _ =>
    intro around _ _
    simp only [size_element, size_leaf (isElement_text _), size_nil]
    have := hrest.size_le
    omega
  | @element before tag attributes children children' metadata rest out _ hformula hchildren hrest
      ihChildren ih =>
    -- Nothing is captured among the children or behind an element, so both hypotheses apply.
    rintro around _ ⟨site, hmem, hredex⟩
    have hle := hrest.size_le
    have hle' := hchildren.size_le
    rw [size_element, size_element]
    rw [sitesAmong_cons, sitesFrom_element, List.cons_append, List.mem_cons, List.mem_append] at hmem
    obtain rfl | hbelow | hbehind := hmem
    · simp [hformula, Place.isAnnouncement, isOutputMarker] at hredex
    · have hlt := ihChildren _ rfl ⟨site, hbelow, hredex⟩
      omega
    · have hlt := ih around rfl ⟨site, hbehind, hredex⟩
      omega

/-- Of two equal nodes both are elements or none is. -/
theorem isElement_of_equal {a b : Node} (hequal : equal a b = true) : a.isElement = b.isElement := by
  cases a <;> cases b <;> simp_all [equal, isElement]

theorem reads_of_equal {a b : Label} (ha : isTextLabel a = true) (hb : isTextLabel b = true)
    (hequal : a.value.equal b.value = true) (name : String) : a.reads name = b.reads name := by
  rw [isTextLabel_iff.mp ha, isTextLabel_iff.mp hb] at hequal
  have htext : a.text = b.text := by simpa [Datum.equal, Datum.equalScalars, Datum.int?] using hequal
  rw [Label.reads_eq ha, Label.reads_eq hb, htext]

/-- Canonical names change neither the size of a document nor the number of its quotes. -/
theorem measures_withCanonicalNames (nodes : List Node) (hwell : areWellTyped nodes = true) :
    size (allWithCanonicalNames nodes) = size nodes ∧
      countOf isQuote (allWithCanonicalNames nodes) = countOf isQuote nodes := by
  induction nodes using siblings_induction with
  | nil => exact ⟨rfl, rfl⟩
  | leaf node rest hleaf ih =>
    obtain ⟨hsize, hcount⟩ := ih (areWellTyped_cons.mp hwell).2
    rw [allWithCanonicalNames, withCanonicalNames_leaf hleaf]
    simp [size_leaf hleaf, countOf_leaf _ hleaf, hsize, hcount]
  | element tag attributes children metadata rest ihChildren ih =>
    obtain ⟨hparts, hrest⟩ := areWellTyped_element.mp hwell
    obtain ⟨hsize, hcount⟩ := ihChildren hparts.children
    obtain ⟨hsizeRest, hcountRest⟩ := ih hrest
    rw [allWithCanonicalNames, withCanonicalNames]
    simp [size_element, countOf_element, isQuote, Label.reads_canonical hparts.tag, hsize, hcount,
      hsizeRest, hcountRest]

/-- Equal documents have the same size and as many quotes. -/
theorem measures_of_equalAll (a : List Node) : ∀ b, areWellTyped a = true → areWellTyped b = true →
    equalAll a b = true → size a = size b ∧ countOf isQuote a = countOf isQuote b := by
  induction a using siblings_induction with
  | nil =>
    intro b _ _ hequal
    rw [equalAll, List.isEmpty_iff] at hequal
    rw [hequal]
    exact ⟨rfl, rfl⟩
  | leaf node rest hleaf ih =>
    intro b hwell hwell' hequal
    cases b with
    | nil => simp [equalAll] at hequal
    | cons node' rest' =>
      rw [equalAll, Bool.and_eq_true] at hequal
      have hleaf' := (isElement_of_equal hequal.1).symm.trans hleaf
      obtain ⟨hsize, hcount⟩ :=
        ih rest' (areWellTyped_cons.mp hwell).2 (areWellTyped_cons.mp hwell').2 hequal.2
      simp [size_leaf hleaf, size_leaf hleaf', countOf_leaf _ hleaf, countOf_leaf _ hleaf',
        isQuote_leaf hleaf, isQuote_leaf hleaf', hsize, hcount]
  | element tag attributes children metadata rest ihChildren ih =>
    intro b hwell hwell' hequal
    rcases b with _ | ⟨node', rest'⟩
    · simp [equalAll] at hequal
    · rw [equalAll, Bool.and_eq_true] at hequal
      obtain ⟨hparts, hrest⟩ := areWellTyped_element.mp hwell
      cases node' with
      | element tag' attributes' children' metadata' =>
        obtain ⟨hparts', hrest'⟩ := areWellTyped_element.mp hwell'
        simp only [equal, Bool.and_eq_true] at hequal
        obtain ⟨⟨⟨⟨htag, -⟩, hchildren⟩, -⟩, hbehind⟩ := hequal
        have hquote := reads_of_equal hparts.tag hparts'.tag htag "blockquote"
        obtain ⟨hsize, hcount⟩ := ihChildren children' hparts.children hparts'.children hchildren
        obtain ⟨hsizeRest, hcountRest⟩ := ih rest' hrest hrest' hbehind
        simp [size_element, countOf_element, isQuote, hquote, hsize, hcount, hsizeRest, hcountRest]
      | _ => simp [equal] at hequal

/-- Documents with the same value have as many nodes and as many quotes as each other. -/
theorem SameDocument.measures {a b : Document} (hsame : SameDocument a b)
    (ha : areWellTyped a = true) (hb : areWellTyped b = true) :
    size a = size b ∧ countOf isQuote a = countOf isQuote b := by
  rcases hsame with hnames | hequal
  · obtain ⟨hsize, hcount⟩ := measures_withCanonicalNames a ha
    obtain ⟨hsize', hcount'⟩ := measures_withCanonicalNames b hb
    rw [← hsize, ← hcount, hnames, hsize', hcount']
    exact ⟨rfl, rfl⟩
  · exact measures_of_equalAll a b ha hb hequal

end MarkTree.Node
