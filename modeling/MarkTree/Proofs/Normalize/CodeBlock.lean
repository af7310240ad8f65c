import MarkTree.Proofs.Normalize.WellTyped

namespace MarkTree

namespace Node

/-- The class of a code block with output ends in `output`, so it is no math class. -/
theorem outputAttributes_eq (attributes : List Attribute) :
    ∃ text, outputAttributes attributes =
      (.plain (.str "class"), .str (text ++ "output")) ::
        attributes.eraseP fun pair => pair.1.reads "class" := by
  have hadded (value : String) : value ++ " output" = (value ++ " ") ++ "output" := by
    rw [String.append_assoc]
    rfl
  unfold outputAttributes
  simp only [Attributes.splitFirst_snd]
  split
  · exact ⟨"", rfl⟩
  · exact ⟨"", rfl⟩
  · exact ⟨_, by rw [hadded]⟩

/-- Code with the output class is no formula. -/
theorem math?_outputAttributes (tag : Label) (attributes : List Attribute) (children : List Node) :
    math? tag (outputAttributes attributes) children = none := by
  have hne (text other : String) (hlast : other.toList.getLast? ≠ some 't') :
      text ++ "output" ≠ other := by
    rintro rfl
    simp at hlast
  obtain ⟨text, heq⟩ := outputAttributes_eq attributes
  rw [heq]
  unfold math?
  split
  · rename_i name value content hpair
    obtain ⟨⟨-, rfl⟩, -⟩ := List.cons_eq_cons.mp hpair |>.imp_left Prod.ext_iff.mp
    simp [hne text "math-inline" (by decide), hne text "math-display" (by decide)]
  · rfl

theorem math?_eq_none_of_reads {tag : Label} (htag : tag.reads "code" = false)
    (attributes : List Attribute) (children : List Node) : math? tag attributes children = none := by
  unfold math?
  split
  · simp [htag]
  · rfl

/-- A code block is a `pre` around one `code` around one text. -/
theorem exists_of_isCodeBlock {node : Node} (hblock : node.isCodeBlock = true) :
    ∃ tag attributes tag' attributes' content metadata' metadata,
      node = .element tag attributes [.element tag' attributes' [.text content] metadata'] metadata ∧
        tag.reads "pre" = true ∧ tag'.reads "code" = true := by
  unfold isCodeBlock at hblock
  split at hblock
  · rename_i tag attributes tag' attributes' content metadata' metadata
    rw [Bool.and_eq_true] at hblock
    exact ⟨tag, attributes, tag', attributes', content, metadata', metadata, rfl, hblock⟩
  · cases hblock

theorem isOutputMarker_of_isCodeBlock {node : Node} (hblock : node.isCodeBlock = true) :
    node.isOutputMarker = false := by
  obtain ⟨_, _, _, _, _, _, _, rfl, -⟩ := exists_of_isCodeBlock hblock
  rfl

/-- Announced output is the code block with the class added, normalized the way any node is. -/
theorem normalizedCaptured_eq {block : Node} (hblock : block.isCodeBlock = true) :
    normalizedCaptured block = normalized (withOutput block) := by
  obtain ⟨tag, attributes, tag', attributes', content, metadata', metadata, rfl, htag, htag'⟩ :=
    exists_of_isCodeBlock hblock
  have hcode := math?_eq_none_of_reads (Label.reads_eq_false_of_reads htag (by decide))
  have hquote := Label.reads_eq_false_of_reads htag (show "pre" ≠ "blockquote" by decide)
  have hquote' := Label.reads_eq_false_of_reads htag' (show "code" ≠ "blockquote" by decide)
  simp [normalizedCaptured, withOutput, normalized, normalizedAll, hcode, math?_outputAttributes,
    admonition, hquote, hquote', normalTag, normalAttributes, isOutputMarker]

/-- A code block stays well typed with the output class. -/
theorem wellTyped_withOutput {block : Node} (hwell : wellTyped block = true) :
    wellTyped (withOutput block) = true := by
  unfold withOutput
  split
  · rename_i tag attributes tag' attributes' content metadata' metadata
    have houter := wellTyped_element_iff.mp hwell
    have hinner := (areWellTyped_element.mp houter.children).1
    obtain ⟨text, heq⟩ := outputAttributes_eq attributes'
    refine wellTyped_element_iff.mpr ⟨houter.tag, houter.attributes, ?_, houter.metadata⟩
    refine areWellTyped_element.mpr ⟨⟨hinner.tag, ?_, hinner.children, hinner.metadata⟩, rfl⟩
    intro pair hmem
    rw [heq] at hmem
    rcases List.mem_cons.mp hmem with rfl | hmem
    · exact ⟨rfl, rfl⟩
    · exact hinner.attributes pair (List.mem_of_mem_eraseP hmem)
  · exact hwell

end Node

end MarkTree
