import MarkTree.Proofs.Text.Lines
import MarkTree.Source.CodeSpan

namespace MarkTree.Source

open MarkTree.Text

/-- The pieces of a text in front of, between and behind its code spans. -/
def textPieces (text : List Char) : List (List Char) :=
  match _h : afterSpan? text with
  | some rest => [] :: textPieces rest
  | none =>
    match text with
    | [] => [[]]
    | c :: rest => consHead c (textPieces rest)
termination_by text.length
decreasing_by
  · exact afterSpan?_length _h
  · simp

/-- The needle begins at the end of one piece and goes on in a later one. -/
def SplitsAcross (needle : List Char) (pieces : List (List Char)) : Prop :=
  ∃ left right front back, pieces = left ++ right ∧ needle = front ++ back ∧ front ≠ [] ∧ back ≠ [] ∧
    front <:+ left.flatten ∧ back <+: right.flatten

/-- The needle comes together only because the code spans inside it are taken out. -/
def JoinedBySpan (needle text : List Char) : Prop :=
  SplitsAcross needle (textPieces text)

/-- What stands behind a run of backticks is the end of the text. -/
theorem afterRun?_suffix {width count : Nat} {text rest : List Char}
    (hrun : afterRun? width count text = some rest) : rest <:+ text := by
  fun_induction afterRun? width count text with
  | case1 | case4 =>
    cases hrun
    exact List.suffix_rfl
  | case2 => cases hrun
  | case3 count c tail _ ih | case5 count c tail _ _ ih => exact (ih hrun).trans (List.suffix_cons _ _)

/-- What stands behind a code span is the end of the text. -/
theorem afterSpan?_suffix {text rest : List Char} (hspan : afterSpan? text = some rest) :
    rest <:+ text := by
  unfold afterSpan? at hspan
  dsimp only at hspan
  split at hspan
  · cases hspan
  · exact (afterRun?_suffix hspan).trans (List.dropWhile_suffix _)

/-- The pieces of a text are cut from it in order. -/
theorem areCutFrom_textPieces (text : List Char) : AreCutFrom (textPieces text) text := by
  fun_induction textPieces text with
  | case1 text rest hspan ih => exact ih.nil_cons (afterSpan?_suffix hspan)
  | case2 => exact ⟨by simp, by simp⟩
  | case3 c rest _ ih => exact ih.consHead c

/-- A text without its code spans is its pieces, one behind the other. -/
theorem flatten_textPieces (text : List Char) : (textPieces text).flatten = withoutCodeSpans text := by
  fun_induction textPieces text with
  | case1 text rest hspan ih =>
    rw [withoutCodeSpans.eq_def]
    split <;> simp_all
  | case2 hspan =>
    rw [withoutCodeSpans.eq_def]
    split <;> simp_all
  | case3 c rest hspan ih =>
    rw [flatten_consHead, ih, withoutCodeSpans.eq_def (c :: rest)]
    split <;> simp_all

/-- What is split across some pieces is split across them with another one in front. -/
theorem SplitsAcross.cons {needle : List Char} {pieces : List (List Char)}
    (hsplits : SplitsAcross needle pieces) (piece : List Char) : SplitsAcross needle (piece :: pieces) := by
  obtain ⟨left, right, front, back, rfl, hneedle, hf, hb, hfront, hback⟩ := hsplits
  refine ⟨piece :: left, right, front, back, rfl, hneedle, hf, hb, ?_, hback⟩
  exact hfront.trans (List.suffix_append _ _)

/-- What stands in joined pieces stands in one of them or is split across them. -/
theorem infix_flatten_iff {needle : List Char} {pieces : List (List Char)} (hne : needle ≠ []) :
    needle <:+: pieces.flatten ↔
      (∃ piece ∈ pieces, needle <:+: piece) ∨ SplitsAcross needle pieces := by
  constructor
  · intro hinside
    induction pieces with
    | nil => exact absurd (List.eq_nil_of_infix_nil hinside) hne
    | cons piece pieces ih =>
      have hlater (hrest : needle <:+: pieces.flatten) :
          (∃ other ∈ piece :: pieces, needle <:+: other) ∨ SplitsAcross needle (piece :: pieces) := by
        obtain ⟨other, hmem, hother⟩ | hsplits := ih hrest
        · exact .inl ⟨other, List.mem_cons_of_mem _ hmem, hother⟩
        · exact .inr (hsplits.cons piece)
      rw [List.flatten_cons, List.infix_append_iff] at hinside
      obtain hpiece | hrest | ⟨front, back, rfl, hfront, hback⟩ := hinside
      · exact .inl ⟨piece, List.mem_cons_self, hpiece⟩
      · exact hlater hrest
      · -- A needle that only touches the boundary stands on one side of it.
        by_cases hf : front = []
        · subst hf
          exact hlater hback.isInfix
        by_cases hb : back = []
        · subst hb
          rw [List.append_nil]
          exact .inl ⟨piece, List.mem_cons_self, hfront.isInfix⟩
        exact .inr ⟨[piece], pieces, front, back, rfl, rfl, hf, hb, by simpa using hfront, hback⟩
  · rintro (⟨piece, hmem, hpiece⟩ | ⟨left, right, front, back, rfl, rfl, -, -, hfront, hback⟩)
    · exact hpiece.trans (List.infix_of_mem_flatten hmem)
    · rw [List.flatten_append]
      exact List.infix_append_iff.mpr (.inr (.inr ⟨front, back, rfl, hfront, hback⟩))

/-- A search in a text without its code spans finds what stands outside of them and what they keep
    apart. -/
theorem infix_withoutCodeSpans_iff {needle text : List Char} (hne : needle ≠ []) :
    needle <:+: withoutCodeSpans text ↔
      (∃ piece ∈ textPieces text, needle <:+: piece) ∨ JoinedBySpan needle text := by
  rw [← flatten_textPieces, infix_flatten_iff hne, JoinedBySpan]

end MarkTree.Source
