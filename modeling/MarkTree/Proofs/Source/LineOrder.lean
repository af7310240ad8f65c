import MarkTree.Proofs.Source.LostFence
import MarkTree.Proofs.Source.VisibleOpener

namespace MarkTree.Source

open MarkTree.Text

/-- The offset of the line that the open construct was opened on. -/
def OpenConstruct.since? : OpenConstruct → Option Nat
  | .none => Option.none
  | .fence _ _ since => some since
  | .comment since => some since
  | .math since => some since

/-- The lines that a result speaks of: those of the findings, then the one that opened what is still
    open. -/
def offsetsOf (result : List Finding × OpenConstruct) : List Nat :=
  result.1.map Finding.offset ++ result.2.since?.toList

variable {math : Bool}

/-- Outside of a construct a line reports at most once, with its own number. -/
theorem offsets_openLine (math : Bool) (offset : Nat) (line : List Char) :
    (offsetsOf (openLine math offset line)).Sublist [offset] := by
  unfold openLine
  cases LineKind.of math line with
  | plain => exact List.nil_sublist _
  | fence | comment | math | badList => exact List.Sublist.refl _

/-- A line adds no offset but its own, and the one of the open construct goes with the construct or is
    reported in front of it. -/
theorem offsets_scanLine (math : Bool) (state : OpenConstruct) (offset : Nat) (line : List Char) :
    (offsetsOf (scanLine math state offset line)).Sublist (state.since?.toList ++ [offset]) := by
  cases state with
  | none => exact offsets_openLine math offset line
  | fence opened quoted since =>
    unfold scanLine
    dsimp only
    by_cases hended : (quoted && !isQuoted line) = true
    · rw [if_pos hended]
      exact (offsets_openLine math offset line).cons_cons since
    · rw [if_neg hended]
      by_cases hclosed : opened.closedBy (if quoted then body line else line) = true
      · rw [if_pos hclosed]
        exact List.nil_sublist _
      · rw [if_neg hclosed]
        exact List.sublist_append_left [since] [offset]
  | comment since | math since =>
    simp only [scanLine]
    split
    · exact List.nil_sublist _
    · exact List.sublist_append_left [since] [offset]

/-- Findings come in the order of the lines, those of the open construct in front. -/
theorem offsets_scanLines (lines : List (List Char)) : ∀ state offset,
    (offsetsOf (scanLines math state offset lines)).Sublist
      (state.since?.toList ++ List.range' offset lines.length) := by
  induction lines with
  | nil =>
    intro state offset
    exact List.sublist_append_left _ _
  | cons line rest ih =>
    intro state offset
    have hline := offsets_scanLine math state offset line
    have hrest := ih (scanLine math state offset line).2 (offset + 1)
    have hcons : offsetsOf (scanLines math state offset (line :: rest)) =
        (scanLine math state offset line).1.map Finding.offset ++
          offsetsOf (scanLines math (scanLine math state offset line).2 (offset + 1) rest) := by
      rw [scanLines_cons, offsetsOf, List.map_append, List.append_assoc]
      rfl
    rw [hcons, List.length_cons, List.range'_succ]
    -- What the line leaves open is passed on to the rest, so the two sublists are joined there.
    apply (hrest.append_left _).trans
    have hjoined := hline.append_right (List.range' (offset + 1) rest.length)
    rwa [offsetsOf, List.append_assoc, List.append_assoc, List.singleton_append] at hjoined

/-- What is reported at the end has the number of the line that opened it. -/
theorem map_offset_atEnd (state : OpenConstruct) :
    state.atEnd.map Finding.offset = state.since?.toList := by
  cases state <;> rfl

/-- The lines with findings are some of the lines of the source, each once and in their order. -/
theorem offsets_findings (math : Bool) (source : List Char) :
    ((findings math source).map Finding.offset).Sublist (List.range (lines source).length) := by
  rw [findings_eq, List.map_append, map_offset_atEnd, List.range_eq_range']
  exact offsets_scanLines (lines source) .none 0

-- A fence that its quotation ends around, an illegal attribute, and a fence that is not closed.
example : (findings true "> ~~~\n# A \x7b:!\x7d\n~~~".toList).map Finding.offset = [0, 1, 2] := by
  decide +kernel

/-- All findings but one concern no comment and no math, and the one stands at the end. -/
theorem exists_last_finding (math : Bool) (source : List Char) :
    ∃ front last, findings math source = front ++ last ∧ last.length ≤ 1 ∧
      ∀ finding ∈ front, finding.problem.opener? = none := by
  refine ⟨_, _, findings_eq math source, ?_, fun finding hmem => opener?_of_mem_scanLines _ _ _ hmem⟩
  cases (scanLines math .none 0 (lines source)).2 <;> simp [OpenConstruct.atEnd]

/-- The message of a problem that concerns no opener is not that of one that does. -/
theorem Problem.message_ne {problem other : Problem} {opener : List Char}
    (hnone : problem.opener? = none) (hother : other.opener? = some opener) :
    problem.message ≠ other.message := by
  intro hmessage
  rw [Problem.opener?_of_message hother hmessage] at hnone
  cases hnone

/-- The diagnostics of a source come in the strict order of their lines, all of which are lines of the
    source. One of them at most is about a comment or display math, and it is the last one. The source
    is in error exactly when a fence is lost in it. -/
theorem lint_ordered (source : String) (start : Int) (math : Bool) :
    ∃ (diagnostics : List Diagnostic) (numbers : List Int),
      lint source (.int start) math = .ok diagnostics ∧
        diagnostics.map Diagnostic.line = numbers.map Datum.int ∧ numbers.Pairwise (· < ·) ∧
          (∀ number ∈ numbers, start ≤ number ∧
            number ≤ start + (lines source.toList).length - 1) ∧
          (∃ front last, diagnostics = front ++ last ∧ last.length ≤ 1 ∧
            ∀ diagnostic ∈ front, diagnostic.message ≠ Problem.unclosedComment.message ∧
              diagnostic.message ≠ Problem.unclosedMath.message) ∧
            (status diagnostics = "error" ↔ LosesFence math (lines source.toList)) := by
  have hoffsets := offsets_findings math source.toList
  have hordered : ((findings math source.toList).map Finding.offset).Pairwise (· < ·) :=
    List.pairwise_lt_range.sublist hoffsets
  obtain ⟨front, last, hfindings, hlast, hfront⟩ := exists_last_finding math source.toList
  refine ⟨_, ((findings math source.toList).map Finding.offset).map fun (offset : Nat) => start + offset,
    lint_int source start math, ?_, ?_, ?_, ?_, status_numbered math start source.toList⟩
  · rw [List.map_map, List.map_map, List.map_map]
    rfl
  · rw [List.pairwise_map]
    refine hordered.imp fun {first second} hlt => ?_
    omega
  · rw [List.forall_mem_map]
    intro offset hmem
    have hbound := List.mem_range.mp (hoffsets.subset hmem)
    omega
  · refine ⟨front.map (Diagnostic.numbered start), last.map (Diagnostic.numbered start), ?_, ?_, ?_⟩
    · rw [hfindings, List.map_append]
    · rw [List.length_map]
      exact hlast
    · rw [List.forall_mem_map]
      intro finding hmem
      have hnone := hfront finding hmem
      exact ⟨Problem.message_ne hnone rfl, Problem.message_ne hnone rfl⟩

end MarkTree.Source
