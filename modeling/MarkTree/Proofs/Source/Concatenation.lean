import Mathlib.Data.List.Forall2
import MarkTree.Proofs.Source.Balanced
import MarkTree.Proofs.Text.Lines

namespace MarkTree.Source

open MarkTree.Text

/-- The finding, so many lines further down. -/
def Finding.below (count : Nat) (finding : Finding) : Finding :=
  { finding with offset := finding.offset + count }

/-- The open construct, opened so many lines further down. -/
def OpenConstruct.below (count : Nat) : OpenConstruct → OpenConstruct
  | .none => .none
  | .fence opened quoted since => .fence opened quoted (since + count)
  | .comment since => .comment (since + count)
  | .math since => .math (since + count)

/-- The result of a scan that starts so many lines further down. -/
def resultBelow (count : Nat) (result : List Finding × OpenConstruct) : List Finding × OpenConstruct :=
  (result.1.map (Finding.below count), result.2.below count)

/-- Behind the lines of the source no fence, no comment and no display math is open. -/
def LeavesNothingOpen (math : Bool) (source : String) : Prop :=
  (scanLines math .none 0 (lines source.toList)).2 = .none

instance (math : Bool) (source : String) : Decidable (LeavesNothingOpen math source) :=
  inferInstanceAs (Decidable (_ = OpenConstruct.none))

/-- A line further down opens the same and has the same findings, further down. -/
theorem openLine_below (math : Bool) (count offset : Nat) (line : List Char) :
    openLine math (offset + count) line = resultBelow count (openLine math offset line) := by
  unfold openLine
  cases LineKind.of math line <;> rfl

/-- One line gives the same result further down. -/
theorem scanLine_below (math : Bool) (count : Nat) (state : OpenConstruct) (offset : Nat) (line : List Char) :
    scanLine math (state.below count) (offset + count) line =
      resultBelow count (scanLine math state offset line) := by
  cases state with
  | none => exact openLine_below math count offset line
  | fence opened quoted since =>
    have hline := openLine_below math count offset line
    by_cases hended : (quoted && !isQuoted line) = true
    · simp [scanLine, OpenConstruct.below, resultBelow, Finding.below, hended, hline]
    · by_cases hclosed : opened.closedBy (if quoted then body line else line) = true
      · simp [scanLine, OpenConstruct.below, resultBelow, hended, hclosed]
      · simp [scanLine, OpenConstruct.below, resultBelow, hended, hclosed]
  | comment since =>
    by_cases hclosed : contains commentCloser (body line) = true
    · simp [scanLine, OpenConstruct.below, resultBelow, hclosed]
    · simp [scanLine, OpenConstruct.below, resultBelow, hclosed]
  | math since =>
    by_cases hclosed : startsMath (body line) = true
    · simp [scanLine, OpenConstruct.below, resultBelow, hclosed]
    · simp [scanLine, OpenConstruct.below, resultBelow, hclosed]

/-- A whole scan gives the same result further down. -/
theorem scanLines_below (math : Bool) (count : Nat) (lines : List (List Char)) : ∀ state offset,
    scanLines math (state.below count) (offset + count) lines =
      resultBelow count (scanLines math state offset lines) := by
  induction lines with
  | nil => exact fun _ _ => rfl
  | cons line rest ih =>
    intro state offset
    have hrest := ih (scanLine math state offset line).2 (offset + 1)
    rw [Nat.add_right_comm offset 1 count] at hrest
    rw [scanLines_cons, scanLines_cons, scanLine_below]
    simp only [resultBelow] at hrest ⊢
    rw [hrest, List.map_append]

/-- What is open further down is reported further down. -/
theorem atEnd_below (count : Nat) (state : OpenConstruct) :
    (state.below count).atEnd = state.atEnd.map (Finding.below count) := by
  cases state <;> rfl

/-- Lines are scanned with what the lines in front of them leave open. -/
theorem scanLines_append (math : Bool) (front back : List (List Char)) : ∀ state offset,
    scanLines math state offset (front ++ back) =
      ((scanLines math state offset front).1 ++
          (scanLines math (scanLines math state offset front).2 (offset + front.length) back).1,
        (scanLines math (scanLines math state offset front).2 (offset + front.length) back).2) := by
  induction front with
  | nil => exact fun _ _ => rfl
  | cons line front ih =>
    intro state offset
    have hoffset : offset + 1 + front.length = offset + (line :: front).length := by
      rw [List.length_cons]
      omega
    rw [List.cons_append, scanLines_cons, scanLines_cons, ih, hoffset, List.append_assoc]

/-- Behind lines that leave nothing open a source has the findings that it has on its own, further
    down. -/
theorem findings_append {math : Bool} {front : String} (hend : front.toList.getLast? = some '\n')
    (hopen : LeavesNothingOpen math front) (back : String) :
    findings math (front ++ back).toList =
      findings math front.toList ++
        (findings math back.toList).map (Finding.below (lines front.toList).length) := by
  have hnone : (scanLines math .none 0 (lines front.toList)).2 = .none := hopen
  have hend' : OpenConstruct.none.atEnd = [] := rfl
  have hback := scanLines_below math (lines front.toList).length (lines back.toList) .none 0
  have hall := scanLines_append math (lines front.toList) (lines back.toList) .none 0
  rw [OpenConstruct.below] at hback
  rw [← lines_append hend, ← String.toList_append, hnone, hback] at hall
  simp only [findings_eq, hall, hnone, resultBelow, atEnd_below, hend', List.append_nil, List.map_append,
    List.append_assoc]

/-- The same diagnostic, for a line whose number is larger by so much. -/
structure Diagnostic.IsMoved (shift : Int) (before after : Diagnostic) : Prop where
  severity : after.severity = before.severity
  message : after.message = before.message
  line : before.line.plus (.int shift) = .ok after.line

/-- A finding further down has the number that it would have from a later first line. -/
theorem numbered_below (start : Int) (count : Nat) (finding : Finding) :
    Diagnostic.numbered start (finding.below count) = Diagnostic.numbered (start + count) finding := by
  have hline : start + ((finding.offset + count : Nat) : Int) = start + count + finding.offset := by
    omega
  simp only [Diagnostic.numbered, Finding.below, hline]

/-- Another number for the first line moves a diagnostic by the difference. -/
theorem isMoved_numbered (start shift : Int) (finding : Finding) :
    (Diagnostic.numbered start finding).IsMoved shift
      (Diagnostic.numbered (start + shift) finding) := by
  have hline : start + finding.offset + shift = start + shift + finding.offset := by omega
  refine ⟨rfl, rfl, ?_⟩
  simp only [Diagnostic.numbered, Datum.plus_int, hline]

/-- Diagnostics compose. A source that ends in a line feed and leaves nothing open keeps its diagnostics
    when another source is put behind it, and the other source has the diagnostics that it has from the
    next line on. A number added to that of the first line is added to all numbers. -/
theorem lint_append (math : Bool) (start : Int) :
    (∀ front back : String, front.toList.getLast? = some '\n' → LeavesNothingOpen math front →
      ∃ first second, lint front (.int start) math = .ok first ∧
        lint back (.int (start + (lines front.toList).length)) math = .ok second ∧
          lint (front ++ back) (.int start) math = .ok (first ++ second)) ∧
      ∀ (source : String) (shift : Int), ∃ diagnostics moved,
        lint source (.int start) math = .ok diagnostics ∧
          lint source (.int (start + shift)) math = .ok moved ∧
            List.Forall₂ (Diagnostic.IsMoved shift) diagnostics moved := by
  constructor
  · intro front back hend hopen
    refine ⟨_, _, lint_int front start math, lint_int back _ math, ?_⟩
    rw [lint_int, findings_append hend hopen, List.map_append, List.map_map]
    congr 2
    apply List.map_congr_left
    intro finding _
    exact numbered_below start _ finding
  · intro source shift
    refine ⟨_, _, lint_int source start math, lint_int source (start + shift) math, ?_⟩
    rw [List.forall₂_map_left_iff, List.forall₂_map_right_iff, List.forall₂_same]
    intro finding _
    exact isMoved_numbered start shift finding

/-- A quotation that ends around an open fence, before a heading with words that are no attributes. -/
def brokenQuote : String :=
  "> ```\n# T \x7b: ! \x7d\n"

/-- Nothing is left of the fence that the quotation has ended around, so the tildes open one of their
    own. -/
theorem lint_append_brokenQuote :
    brokenQuote.toList.getLast? = some '\n' ∧ LeavesNothingOpen true brokenQuote ∧
      lint brokenQuote (.int 5) true =
          .ok [Diagnostic.numbered 5 ⟨.unclosedFence ⟨backtick, 3⟩, 0⟩,
            Diagnostic.numbered 5 ⟨.illegalAttributes ["!"], 1⟩] ∧
        lint (brokenQuote ++ "~~~\nx") (.int 5) true =
          .ok [Diagnostic.numbered 5 ⟨.unclosedFence ⟨backtick, 3⟩, 0⟩,
            Diagnostic.numbered 5 ⟨.illegalAttributes ["!"], 1⟩,
            Diagnostic.numbered 7 ⟨.unclosedFence ⟨'~', 3⟩, 0⟩] := by
  have hend : brokenQuote.toList.getLast? = some '\n' := by decide
  have hopen : LeavesNothingOpen true brokenQuote := by decide +kernel
  have hcount : (lines brokenQuote.toList).length = 2 := by decide
  have hfront : findings true brokenQuote.toList =
      [⟨.unclosedFence ⟨backtick, 3⟩, 0⟩, ⟨.illegalAttributes ["!"], 1⟩] := by decide +kernel
  have hback : findings true "~~~\nx".toList = [⟨.unclosedFence ⟨'~', 3⟩, 0⟩] := by decide +kernel
  obtain ⟨first, second, hfirst, hsecond, hboth⟩ :=
    (lint_append true 5).1 brokenQuote "~~~\nx" hend hopen
  rw [lint_int, hfront] at hfirst
  rw [lint_int, hback, hcount] at hsecond
  cases hfirst
  cases hsecond
  refine ⟨hend, hopen, ?_, hboth⟩
  rw [lint_int, hfront]
  rfl

end MarkTree.Source
