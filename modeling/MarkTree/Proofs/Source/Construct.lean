import MarkTree.Proofs.Source.Opener
import MarkTree.Source.Lint

namespace MarkTree.Source

open MarkTree.Text

/-- A construct that runs over several lines. A fence is opened on a quoted line or on another one. -/
inductive Construct where
  | fence (fence : Fence) (quoted : Bool)
  | comment
  | math
deriving DecidableEq

/-- The body of the line is a fence, on its own or behind one list marker. -/
def OpensFence (fence : Fence) (line : List Char) : Prop :=
  fence.IsOpener (body line) ∨ ∃ item, IsListItem (body line) item ∧ fence.IsOpener item

/-- A text starts with four spaces or a tab. -/
def IsIndented (text : List Char) : Prop :=
  [' ', ' ', ' ', ' '] <+: text ∨ ['\t'] <+: text

/-- Behind the first comment opener of the text there is no comment closer. -/
def LeavesComment (text : List Char) : Prop :=
  ∃ before after, IsFirstCut commentOpener text before after ∧ ¬ commentCloser <:+: after

/-- The text starts with the math delimiter, and it is not both longer than two of them and ended by
    one. -/
def LeavesMath (text : List Char) : Prop :=
  mathDelimiter <+: strip text ∧ ¬ (4 < (strip text).length ∧ mathDelimiter <:+ strip text)

/-- The line opens no fence and is no indented code, and its first comment is not closed in it. Code spans
    do not count. -/
structure OpensComment (line : List Char) : Prop where
  noFence : ∀ fence, ¬ OpensFence fence line
  notIndented : ¬ IsIndented (body line)
  leaves : LeavesComment (withoutCodeSpans (body line))

/-- Math is looked for, and the line opens no fence and no comment, is no indented code and starts math
    that is not closed in it. Code spans do not count. -/
structure OpensMath (math : Bool) (line : List Char) : Prop where
  enabled : math = true
  noFence : ∀ fence, ¬ OpensFence fence line
  notIndented : ¬ IsIndented (body line)
  noComment : ¬ LeavesComment (withoutCodeSpans (body line))
  leaves : LeavesMath (withoutCodeSpans (body line))

/-- The line opens the construct. -/
def Opens (math : Bool) (line : List Char) : Construct → Prop
  | .fence fence quoted => OpensFence fence line ∧ isQuoted line = quoted
  | .comment => OpensComment line
  | .math => OpensMath math line

/-- The line opens nothing. -/
def IsPlain (math : Bool) (line : List Char) : Prop :=
  ∀ construct, ¬ Opens math line construct

/-- The construct goes on behind the line. A fence opened on a quoted line goes on over quoted lines
    only, and is closed by their bodies; one opened on another line is closed by whole lines. -/
def Construct.Continues : Construct → List Char → Prop
  | .fence opened true, line => isQuoted line = true ∧ ¬ opened.IsCloser (body line)
  | .fence opened false, line => ¬ opened.IsCloser line
  | .comment, line => ¬ commentCloser <:+: body line
  | .math, line => ¬ mathDelimiter <+: strip (body line)

/-- The line is the last one of the construct. -/
def Construct.Ends : Construct → List Char → Prop
  | .fence opened true, line => isQuoted line = true ∧ opened.IsCloser (body line)
  | .fence opened false, line => opened.IsCloser line
  | .comment, line => commentCloser <:+: body line
  | .math, line => mathDelimiter <+: strip (body line)

/-- A line opens a fence if one is found in its body. -/
theorem opensFence_iff {fence : Fence} {line : List Char} :
    OpensFence fence line ↔ openedFence? (body line) = some fence :=
  openedFence?_eq_some_iff.symm

theorem noFence_iff {line : List Char} :
    (∀ fence, ¬ OpensFence fence line) ↔ openedFence? (body line) = none := by
  simp only [opensFence_iff]
  exact Option.eq_none_iff_forall_ne_some.symm

theorem isIndented_iff {text : List Char} : IsIndented text ↔ isIndentedCode text = true := by
  rw [isIndentedCode, Bool.or_eq_true, startsWith_iff, startsWith_iff, IsIndented]

/-- A text leaves a comment open if its first comment is not closed. -/
theorem leavesComment_iff {text : List Char} : LeavesComment text ↔ opensComment text = true := by
  unfold opensComment
  constructor
  · rintro ⟨before, after, hcut, hcloser⟩
    rw [cut_eq_some_iff.mpr hcut]
    simpa [← contains_iff] using hcloser
  · intro h
    split at h
    · rename_i before after hcut
      refine ⟨before, after, cut_eq_some_iff.mp hcut, fun hcloser => ?_⟩
      rw [contains_iff.mpr hcloser] at h
      cases h
    · cases h

/-- A text leaves display math open if it starts some and does not close it. -/
theorem leavesMath_iff {text : List Char} :
    LeavesMath text ↔ startsMath text = true ∧ closesMath text = false := by
  rw [LeavesMath, startsMath, startsWith_iff, ← Bool.not_eq_true, closesMath, Bool.and_eq_true,
    decide_eq_true_iff, endsWith_iff]

/-- A line opens a comment if it opens no fence, is not indented as code and leaves one open outside its
    code spans. -/
theorem opensComment_iff {line : List Char} :
    OpensComment line ↔ openedFence? (body line) = none ∧ isIndentedCode (body line) = false ∧
      opensComment (withoutCodeSpans (body line)) = true := by
  rw [← noFence_iff, ← Bool.not_eq_true, ← isIndented_iff, ← leavesComment_iff]
  exact ⟨fun h => ⟨h.noFence, h.notIndented, h.leaves⟩, fun h => ⟨h.1, h.2.1, h.2.2⟩⟩

/-- A line opens display math if it opens neither a fence nor a comment, is not indented as code, and math
    is looked for and left open. -/
theorem opensMath_iff {math : Bool} {line : List Char} :
    OpensMath math line ↔ openedFence? (body line) = none ∧ isIndentedCode (body line) = false ∧
      opensComment (withoutCodeSpans (body line)) = false ∧ math = true ∧
        startsMath (withoutCodeSpans (body line)) = true ∧
          closesMath (withoutCodeSpans (body line)) = false := by
  rw [← noFence_iff, ← Bool.not_eq_true, ← isIndented_iff, ← Bool.not_eq_true, ← leavesComment_iff,
    ← leavesMath_iff]
  exact ⟨fun h => ⟨h.noFence, h.notIndented, h.noComment, h.enabled, h.leaves⟩,
    fun h => ⟨h.2.2.2.1, h.1, h.2.1, h.2.2.1, h.2.2.2.2⟩⟩

/-- The construct that a line of this kind opens. -/
def LineKind.construct? : LineKind → Option Construct
  | .fence opened quoted => some (.fence opened quoted)
  | .comment => some .comment
  | .math => some .math
  | .badList _ | .plain => none

/-- A heading opens nothing, whatever its attribute list says, so only the tests before it count. -/
theorem construct?_of (math : Bool) (line : List Char) :
    (LineKind.of math line).construct? =
      match openedFence? (body line) with
      | some opened => some (.fence opened (isQuoted line))
      | none =>
        if isIndentedCode (body line) then none
        else if opensComment (withoutCodeSpans (body line)) then some .comment
        else if math && startsMath (withoutCodeSpans (body line)) &&
          !closesMath (withoutCodeSpans (body line)) then some .math
        else none := by
  unfold LineKind.of
  dsimp only
  cases openedFence? (body line) with
  | some opened => rfl
  | none =>
    dsimp only
    cases isIndentedCode (body line) with
    | true => rfl
    | false =>
      cases opensComment (withoutCodeSpans (body line)) with
      | true => rfl
      | false =>
        cases math && startsMath (withoutCodeSpans (body line)) with
        | true => cases closesMath (withoutCodeSpans (body line)) <;> rfl
        | false =>
          simp only [Bool.false_eq_true, ↓reduceIte, Bool.false_and]
          split
          · split <;> rfl
          · rfl

/-- What reading a line finds is what the line opens. -/
theorem opens_iff {math : Bool} {line : List Char} {construct : Construct} :
    Opens math line construct ↔ (LineKind.of math line).construct? = some construct := by
  rw [construct?_of]
  cases construct with
  | fence fence quoted =>
    rw [Opens, opensFence_iff]
    cases openedFence? (body line) with
    | some opened => simp
    | none =>
      cases isIndentedCode (body line) <;> cases opensComment (withoutCodeSpans (body line)) <;>
        cases math && startsMath (withoutCodeSpans (body line)) &&
          !closesMath (withoutCodeSpans (body line)) <;> simp
  | comment =>
    rw [Opens, opensComment_iff]
    cases openedFence? (body line) with
    | some opened => simp
    | none => simp
  | math =>
    rw [Opens, opensMath_iff]
    cases openedFence? (body line) with
    | some opened => simp
    | none =>
      cases isIndentedCode (body line) <;> cases opensComment (withoutCodeSpans (body line)) <;>
        simp [and_assoc]

theorem isPlain_iff {math : Bool} {line : List Char} :
    IsPlain math line ↔ (LineKind.of math line).construct? = none := by
  simp only [IsPlain, opens_iff]
  exact Option.eq_none_iff_forall_ne_some.symm

end MarkTree.Source
