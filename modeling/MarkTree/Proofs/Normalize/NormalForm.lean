import MarkTree.Proofs.Normalize.Derivation
import MarkTree.Proofs.Tree.CanonicalNames

namespace MarkTree

/-- Something that a rewrite applies to: a formula, an admonition, or an output marker with its code
    block behind it. -/
def Place.isRedex (place : Place) : Bool :=
  place.node.formula?.isSome || place.node.isAdmonition || place.isAnnouncement

namespace Node

/-- No rewrite applies at any site of the document. -/
def IsNormal (document : Document) : Prop :=
  ∀ site ∈ sitesOf document, site.isRedex = false

instance (document : Document) : Decidable (IsNormal document) :=
  inferInstanceAs (Decidable (∀ site ∈ sitesOf document, site.isRedex = false))

/-- Two documents are the same by value: they differ in the spelling of names at most, or comparing them
    finds them equal. The first covers values that no comparison finds equal to themselves. -/
def SameDocument (a b : Document) : Prop :=
  allWithCanonicalNames a = allWithCanonicalNames b ∨ equalAll a b = true

/-- Every name in a result is canonical already. -/
theorem Normalizes.withCanonicalNames_eq {before : Option Node} {nodes out : List Node}
    (h : Normalizes before nodes out) : allWithCanonicalNames out = out := by
  induction h with
  | nil => rfl
  | drop _ _ _ ih => exact ih
  | keep hleaf _ _ ih => simp [allWithCanonicalNames, withCanonicalNames_leaf hleaf, ih]
  | capture _ _ _ _ ih => simp [allWithCanonicalNames, withCanonicalNames, ih]
  | formula _ _ _ ih => simp [allWithCanonicalNames, withCanonicalNames, ih]
  | @element _ tag attributes children _ _ _ _ _ _ _ _ ihChildren ih =>
    have htag (tokens : List String) : (normalTag tokens tag).canonical = normalTag tokens tag := by
      unfold normalTag
      split <;> rfl
    simp [allWithCanonicalNames, withCanonicalNames, htag, normalAttributes, ihChildren, ih]

/-- Siblings in normal form with no output marker before them keep all but the spelling of their
    names. -/
theorem Normalizes.eq_of_isNormal {before : Option Node} {nodes out : List Node}
    (h : Normalizes before nodes out) (hwell : areWellTyped nodes = true) : ∀ around,
    (before.any isOutputMarker && startsWithCodeBlock nodes) = false →
      (∀ site ∈ sitesAmong around before nodes, site.isRedex = false) →
        out = allWithCanonicalNames nodes := by
  induction h with
  | nil => intros; rfl
  | @drop before marker rest out hmarker hblock _ _ =>
    intro around _ hnormal
    have hleaf := isElement_of_isOutputMarker hmarker
    rw [startsWithCodeBlock_eq] at hblock
    have hredex := hnormal ⟨⟨before, marker, rest.head?⟩, around⟩
      (by simp [sitesFrom_leaf _ _ _ hleaf])
    simp [Place.isRedex, Place.isAnnouncement, hmarker, hblock] at hredex
  | keep hleaf hkeep _ ih =>
    intro around _ hnormal
    rw [allWithCanonicalNames, withCanonicalNames_leaf hleaf,
      ← ih (areWellTyped_cons.mp hwell).2 around hkeep
        fun site hmem => hnormal site (List.mem_append_right _ hmem)]
  | capture hbefore htag htag' _ _ =>
    intro around hfree _
    simp [hbefore, startsWithCodeBlock, isCodeBlock, htag, htag'] at hfree
  | @formula before tag attributes content metadata style rest _ _ hformula _ _ =>
    intro around _ hnormal
    have hredex := hnormal
      ⟨⟨before, .element tag attributes [.text content] metadata, rest.head?⟩, around⟩ (by simp)
    simp [Place.isRedex, hformula] at hredex
  | @element before tag attributes children children' metadata rest out _ _ _ _ ihChildren ih =>
    intro around _ hnormal
    obtain ⟨hparts, hrest⟩ := areWellTyped_element.mp hwell
    have hredex := hnormal ⟨⟨before, .element tag attributes children metadata, rest.head?⟩, around⟩
      (by simp)
    have hempty : (admonition tag children).isEmpty = true := by
      simp only [Place.isRedex, Bool.or_eq_false_iff, isAdmonition_element, Bool.not_eq_false']
        at hredex
      exact hredex.1.2
    have hchildren := ihChildren hparts.children
      (⟨before, .element tag attributes children metadata, rest.head?⟩ :: around) rfl
      fun site hmem => hnormal site (by simp [hmem])
    have htail := ih hrest around rfl fun site hmem => hnormal site (List.mem_append_right _ hmem)
    rw [allWithCanonicalNames, withCanonicalNames, ← hchildren, ← htail,
      metadataRecord_eq hparts.metadata, normalTag, normalAttributes, hempty]
    rfl

end Node

end MarkTree
