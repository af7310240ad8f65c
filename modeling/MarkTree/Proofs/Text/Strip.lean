import MarkTree.Proofs.Text.Search
import MarkTree.Text.Blank

namespace MarkTree.Text

/-- What is stripped off at the end is blank. -/
theorem exists_blanks_of_stripRight (text : List Char) :
    ∃ blanks, allBlank blanks = true ∧ text = stripRight text ++ blanks := by
  refine ⟨(text.reverse.takeWhile isBlank).reverse, ?_, ?_⟩
  · simp [allBlank, List.all_takeWhile]
  · rw [stripRight, ← List.reverse_append, List.takeWhile_append_dropWhile, List.reverse_reverse]

theorem stripRight_prefix (text : List Char) : stripRight text <+: text := by
  obtain ⟨blanks, -, htext⟩ := exists_blanks_of_stripRight text
  exact ⟨blanks, htext.symm⟩

/-- The stripped text ends in no blank. -/
theorem isBlank_of_mem_getLast?_stripRight {text : List Char} :
    ∀ c ∈ (stripRight text).getLast?, isBlank c = false := by
  intro c hmem
  rw [stripRight, List.getLast?_reverse] at hmem
  exact of_mem_head?_dropWhile hmem

/-- A front with nothing but blanks behind it holds the stripped text. -/
theorem length_stripRight_le {text front blanks rest : List Char} (hblanks : allBlank blanks = true)
    (heq : text ++ rest = front ++ blanks) : (stripRight text).length ≤ front.length := by
  obtain ⟨tail, htail⟩ := stripRight_prefix text
  rw [← htail, List.append_assoc] at heq
  rcases List.append_eq_append_iff.mp heq with ⟨more, hfront, -⟩ | ⟨more, hstripped, hmore⟩
  · rw [hfront, List.length_append]
    exact Nat.le_add_right _ _
  · rcases List.eq_nil_or_concat more with rfl | ⟨init, c, rfl⟩
    · rw [List.append_nil] at hstripped
      exact Nat.le_of_eq (congrArg List.length hstripped)
    · -- The last character of the stripped text would be one of the blanks.
      have hlast : c ∈ (stripRight text).getLast? := by simp [hstripped]
      have hblank : isBlank c = true := List.all_eq_true.mp hblanks c (by simp [hmore])
      rw [isBlank_of_mem_getLast?_stripRight c hlast] at hblank
      cases hblank

end MarkTree.Text
