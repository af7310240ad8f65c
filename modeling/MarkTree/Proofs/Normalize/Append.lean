import MarkTree.Proofs.Normalize.CodeBlock
import MarkTree.Proofs.Normalize.Spot

namespace MarkTree

namespace Node

/-- The first list ends in an output marker that announces the code block at the start of the second. -/
def announcesAcross (front back : List Node) : Bool :=
  front.getLast?.any isOutputMarker && startsWithCodeBlock back

/-- The walk over two lists in a row is the walk over one and then the other. What was announced before
    the first list concerns its first node only, so there has to be one. -/
theorem normalizedAll_append {front back : List Node} {captured : Bool}
    (hfirst : front = [] → captured = false) (hcut : announcesAcross front back = false) :
    normalizedAll captured (front ++ back) =
      normalizedAll captured front ++ normalizedAll false back := by
  induction front generalizing captured with
  | nil => simp [hfirst rfl, normalizedAll]
  | cons node rest ih =>
    have hdrop : (node.isOutputMarker && startsWithCodeBlock (rest ++ back)) =
        (node.isOutputMarker && startsWithCodeBlock rest) := by
      cases rest with
      | nil => simpa [announcesAcross, startsWithCodeBlock] using hcut
      | cons => rfl
    have hnone : rest = [] → (node.isOutputMarker && startsWithCodeBlock rest) = false := by
      rintro rfl
      simp [startsWithCodeBlock]
    have hcutRest : announcesAcross rest back = false := by
      cases rest with
      | nil => rfl
      | cons next rest => simpa [announcesAcross] using hcut
    simp only [List.cons_append, normalizedAll, hdrop, ih hnone hcutRest]
    split
    · rfl
    · split <;> rfl

/-- A marker and the code block that it announces leave the block with its class. -/
theorem normalizedAll_announced {marker block : Node} (hmarker : marker.isOutputMarker = true)
    (hblock : block.isCodeBlock = true) (rest : List Node) :
    normalizedAll false (marker :: block :: rest) =
      normalizedAll false [withOutput block] ++ normalizedAll false rest := by
  have hnot := isOutputMarker_of_isCodeBlock hblock
  simp [normalizedAll, startsWithCodeBlock, hmarker, hblock, hnot, normalizedCaptured_eq]

end Node

/-- Normalization is local. It splits over two lists of siblings unless a marker ends the first and its
    code block begins the second; then the marker goes, the block gains the class, and normalization
    splits around the two. -/
theorem normalize_append {front back : Document} (hfront : Node.areWellTyped front = true)
    (hback : Node.areWellTyped back = true) :
    (Node.announcesAcross front back = false →
      ∃ front' back', normalize front = .ok front' ∧ normalize back = .ok back' ∧
        normalize (front ++ back) = .ok (front' ++ back')) ∧
    ∀ init marker block tail, front = init ++ [marker] → back = block :: tail →
      marker.isOutputMarker = true → block.isCodeBlock = true →
      ∃ init' block' tail', normalize init = .ok init' ∧
        normalize [Node.withOutput block] = .ok block' ∧ normalize tail = .ok tail' ∧
        normalize (front ++ back) = .ok (init' ++ block' ++ tail') := by
  have hwell := normalize_eq_ok (Node.areWellTyped_append.mpr ⟨hfront, hback⟩)
  constructor
  · intro hcut
    refine ⟨_, _, normalize_eq_ok hfront, normalize_eq_ok hback, ?_⟩
    rw [hwell, Node.normalizedAll_append (fun _ => rfl) hcut]
  · rintro init marker block tail rfl rfl hmarker hblock
    obtain ⟨hinit, -⟩ := Node.areWellTyped_append.mp hfront
    obtain ⟨hblockWell, htail⟩ := Node.areWellTyped_cons.mp hback
    have hcaptured : Node.areWellTyped [Node.withOutput block] = true :=
      Node.areWellTyped_cons.mpr ⟨Node.wellTyped_withOutput hblockWell, rfl⟩
    refine ⟨_, _, _, normalize_eq_ok hinit, normalize_eq_ok hcaptured, normalize_eq_ok htail, ?_⟩
    -- The marker itself is no code block, so a marker before it announces nothing.
    have hcut : Node.announcesAcross init (marker :: block :: tail) = false := by
      cases marker <;> simp_all [Node.announcesAcross, Node.startsWithCodeBlock, Node.isCodeBlock,
        Node.isOutputMarker]
    rw [hwell, List.append_assoc, List.singleton_append, Node.normalizedAll_append (fun _ => rfl) hcut,
      Node.normalizedAll_announced hmarker hblock, List.append_assoc]

open Notebook in
/-- Of two markers in a row the second announces the output, and the first stays. -/
theorem normalize_append_two_markers :
    Node.areWellTyped [marker, marker] = true ∧ Node.areWellTyped [output, warning] = true ∧
      ∃ init' block' tail', normalize [marker] = .ok init' ∧
        normalize [Node.withOutput output] = .ok block' ∧ normalize [warning] = .ok tail' ∧
        normalize ([marker, marker] ++ [output, warning]) = .ok (init' ++ block' ++ tail') :=
  ⟨by decide, by decide, (normalize_append (by decide) (by decide)).2 [marker] marker output [warning]
    rfl rfl (by decide) (by decide)⟩

end MarkTree
