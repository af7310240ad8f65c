import MarkTree.Proofs.Normalize.Measure

namespace MarkTree

namespace Node

/-- The names in the document are canonical and it holds no admonition, as after any pass. -/
structure Settling (document : Document) : Prop where
  wellTyped : areWellTyped document = true
  names : allWithCanonicalNames document = document
  admonitions : countOf isAdmonition document = 0

/-- What the rules leave is well typed, with canonical names and without admonitions. -/
theorem Normalizes.settling {before : Option Node} {nodes out : List Node}
    (h : Normalizes before nodes out) (hwell : areWellTyped nodes = true) : Settling out :=
  ⟨h.preserves_wellTyped hwell, h.withCanonicalNames_eq, h.countOf_isAdmonition hwell⟩

/-- What is not in normal form holds an admonition, or a formula or announcement that makes the result
    smaller. -/
theorem exists_redex {document : Document} (hredex : ¬ IsNormal document) :
    countOf isAdmonition document ≠ 0 ∨
      ∃ site ∈ sitesOf document, (site.node.formula?.isSome || site.isAnnouncement) = true := by
  obtain ⟨site, hredex⟩ := Classical.not_forall.mp hredex
  obtain ⟨hmem, hsite⟩ := Classical.not_imp.mp hredex
  rw [Bool.not_eq_false, Place.isRedex, Bool.or_right_comm, Bool.or_eq_true] at hsite
  rcases hsite with hsite | hadmonition
  · exact .inr ⟨site, hmem, hsite⟩
  · left
    rw [← Nat.pos_iff_ne_zero, countOf, List.countP_pos_iff, ← map_node_sitesOf]
    exact ⟨site.node, List.mem_map_of_mem hmem, hadmonition⟩

end Node

/-- The result of so many passes, each over the result of the one before. -/
def passes : Nat → Document → Except Fault Document
  | 0, document => .ok document
  | count + 1, document => do passes count (← normalize document)

/-- A pass more is one pass and then the others. -/
theorem passes_succ {document out : Document} (hout : normalize document = .ok out) (count : Nat) :
    passes (count + 1) document = passes count out := by
  rw [passes, hout]
  rfl

/-- Passes may be made in two runs. -/
theorem passes_add {document out : Document} {count : Nat} (hout : passes count document = .ok out)
    (more : Nat) : passes (count + more) document = passes more out := by
  induction count generalizing document with
  | zero =>
    cases hout
    rw [Nat.zero_add]
  | succ count ih =>
    cases hnext : normalize document with
    | error fault => simp [passes, hnext, bind, Except.bind] at hout
    | ok next =>
      rw [passes_succ hnext] at hout
      rw [Nat.succ_add, passes_succ hnext, ih hout]

/-- A document that normalization leaves alone stays as it is in any number of passes. -/
theorem passes_of_fixed {document : Document} (hfixed : normalize document = .ok document)
    (count : Nat) : passes count document = .ok document := by
  induction count with
  | zero => rfl
  | succ count ih => rw [passes_succ hfixed, ih]

/-- A document that has been through a pass is left alone when it is in normal form. -/
theorem Node.Settling.fixed {document : Document} (hsettling : Settling document)
    (hnormal : IsNormal document) : normalize document = .ok document := by
  obtain ⟨out, hout, h⟩ := normalizes_of_wellTyped hsettling.wellTyped
  rw [hout, h.eq_of_isNormal hsettling.wellTyped [] rfl hnormal, hsettling.names]

/-- A later pass that finds anything to rewrite takes nodes away. -/
theorem Node.Settling.size_lt {document : Document} (hsettling : Settling document)
    (hredex : ¬ IsNormal document) :
    ∃ out, normalize document = .ok out ∧ Settling out ∧ size out < size document := by
  obtain ⟨out, hout, h⟩ := normalizes_of_wellTyped hsettling.wellTyped
  refine ⟨out, hout, h.settling hsettling.wellTyped, ?_⟩
  rcases exists_redex hredex with hadmonition | hsmaller
  · exact absurd hsettling.admonitions hadmonition
  · exact h.size_lt [] rfl hsmaller

/-- From the first pass on, as many passes as there are nodes are enough. -/
theorem Node.Settling.exists_passes {document : Document} (hsettling : Settling document) :
    ∃ count ≤ size document, ∃ out, passes count document = .ok out ∧
      Settling out ∧ IsNormal out := by
  -- A pass may rebuild the document at any depth, so the induction is on how many nodes are left.
  induction hsize : size document using Nat.strongRecOn generalizing document with
  | ind bound ih =>
    by_cases hnormal : IsNormal document
    · exact ⟨0, Nat.zero_le _, document, rfl, hsettling, hnormal⟩
    · obtain ⟨next, hnext, hsettling', hlt⟩ := hsettling.size_lt hnormal
      obtain ⟨count, hcount, out, hout⟩ := ih (size next) (hsize ▸ hlt) hsettling' rfl
      refine ⟨count + 1, by omega, out, ?_⟩
      rw [passes_succ hnext]
      exact hout

/-- A document with anything to rewrite is not the same by value afterwards. -/
theorem Node.Normalizes.isNormal_of_same {document out : Document}
    (h : Normalizes none document out) (hwell : areWellTyped document = true)
    (hsame : SameDocument out document) : IsNormal document := by
  obtain ⟨hsize, hcount⟩ := hsame.measures (h.preserves_wellTyped hwell) hwell
  by_cases hnormal : IsNormal document
  · exact hnormal
  · exfalso
    rcases exists_redex hnormal with hadmonition | hsmaller
    · have hquotes := h.countOf_isQuote hwell
      omega
    · have hlt := h.size_lt [] rfl hsmaller
      omega

/-- Normalization changes nothing but the spelling of names exactly when the document is in normal form,
    and repeating it comes to rest in one after at most one pass more than the document has nodes. -/
theorem normalize_fixed_iff {document : Document} (hwell : Node.areWellTyped document = true) :
    (∃ out, normalize document = .ok out ∧
      (Node.SameDocument out document ↔ Node.IsNormal document)) ∧
    ∃ count ≤ Node.size document + 1, ∃ out, Node.IsNormal out ∧ normalize out = .ok out ∧
      ∀ more, passes (count + more) document = .ok out := by
  obtain ⟨first, hfirst, h⟩ := normalizes_of_wellTyped hwell
  constructor
  · refine ⟨first, hfirst, h.isNormal_of_same hwell, fun hnormal => .inl ?_⟩
    rw [h.withCanonicalNames_eq, h.eq_of_isNormal hwell [] rfl hnormal]
  · obtain ⟨count, hcount, out, hout, hsettling, hnormal⟩ := (h.settling hwell).exists_passes
    have hfixed := hsettling.fixed hnormal
    refine ⟨count + 1, ?_, out, hnormal, hfixed, fun more => ?_⟩
    · have hle := h.size_le
      omega
    · rw [Nat.succ_add, passes_succ hfirst, passes_add hout, passes_of_fixed hfixed]

open Notebook in
/-- The page has to be rewritten, and the passes over it come to rest. -/
theorem normalize_fixed_page :
    Node.areWellTyped page = true ∧
      (∃ out, normalize page = .ok out ∧ ¬ Node.SameDocument out page) ∧
      ∃ count ≤ Node.size page + 1, ∃ out, Node.IsNormal out ∧ normalize out = .ok out ∧
        ∀ more, passes (count + more) page = .ok out := by
  have hwell : Node.areWellTyped page = true := by decide
  obtain ⟨⟨out, hout, hsame⟩, hpasses⟩ := normalize_fixed_iff hwell
  exact ⟨hwell, ⟨out, hout, fun h => absurd (hsame.mp h) (by decide)⟩, hpasses⟩

end MarkTree
