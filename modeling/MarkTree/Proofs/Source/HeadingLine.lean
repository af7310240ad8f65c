import MarkTree.Proofs.Source.Balanced
import MarkTree.Proofs.Source.Body
import MarkTree.Proofs.Source.HeadingList
import MarkTree.Proofs.Text.Lines

namespace MarkTree.Source

open MarkTree.Text

theorem dropIndent?_marked (rest : List Char) : dropIndent? ('#' :: rest) = some ('#' :: rest) := by
  rw [dropIndent?]
  simp

theorem isQuoted_marked (rest : List Char) : isQuoted ('#' :: rest) = false := by
  rw [isQuoted, dropIndent?_marked]
  rfl

theorem openedFence?_marked (rest : List Char) : openedFence? ('#' :: rest) = none := by
  have hmark : '#' ≠ backtick := by decide
  have hstart : Fence.start? ('#' :: rest) = none := by
    rw [Fence.start?, dropIndent?_marked]
    simp [hmark]
  have hdigit : isDigit '#' = false := by decide
  have hitem : behindMarker? ('#' :: rest) = none := by
    rw [behindMarker?, dropIndent?_marked]
    simp [hdigit]
  rw [openedFence?, dropListMarker, hitem]
  simp [hstart]

theorem isIndentedCode_marked (rest : List Char) : isIndentedCode ('#' :: rest) = false := by
  rw [← Bool.not_eq_true, ← isIndented_iff]
  rintro (hstarts | hstarts)
  · cases (List.cons_prefix_cons.mp hstarts).1
  · cases (List.cons_prefix_cons.mp hstarts).1

theorem startsMath_marked (rest : List Char) : startsMath ('#' :: rest) = false := by
  rw [← Bool.not_eq_true, startsMath, startsWith_iff]
  intro hstarts
  have hleft : stripLeft ('#' :: rest) = '#' :: rest := rfl
  have hstrip : strip ('#' :: rest) <+: '#' :: rest := by
    rw [strip, hleft]
    exact stripRight_prefix _
  have hmark := (List.cons_prefix_cons.mp (hstarts.trans hstrip)).1
  cases hmark

/-- A text without backticks has no code spans. -/
theorem withoutCodeSpans_of_not_mem {text : List Char} (htext : backtick ∉ text) :
    withoutCodeSpans text = text := by
  induction text with
  | nil =>
    unfold withoutCodeSpans
    rfl
  | cons c rest ih =>
    have hc : c ≠ backtick := (List.ne_of_not_mem_cons htext).symm
    have hrest : backtick ∉ rest := List.not_mem_of_not_mem_cons htext
    have hspan : afterSpan? (c :: rest) = none := by
      simp [afterSpan?, hc]
    rw [withoutCodeSpans]
    split
    · rename_i hfound
      rw [hspan] at hfound
      cases hfound
    · dsimp only
      rw [ih hrest]

/-- A text without the start of a comment opens none. -/
theorem opensComment_of_not_infix {text : List Char} (htext : ¬ commentOpener <:+: text) :
    opensComment text = false := by
  rw [← Bool.not_eq_true, ← leavesComment_iff]
  rintro ⟨before, after, hcut, -⟩
  exact htext ⟨before, after, hcut.eq.symm⟩

/-- The finding about an attribute list with words that are not understood. -/
def listFindings (offset : Nat) (body : List Char) : List Finding :=
  if (AttributeList.read body).illegal = [] then []
  else [⟨.illegalAttributes (AttributeList.read body).illegal, offset⟩]

/-- A line that starts with a mark opens nothing, and all there is to find is about the list at its end. -/
theorem openLine_marked {rest : List Char} (hbacktick : backtick ∉ rest)
    (hcomment : ¬ commentOpener <:+: '#' :: rest) (math : Bool) (offset : Nat) :
    openLine math offset ('#' :: rest) =
      ((headingList? ('#' :: rest)).elim [] (listFindings offset), .none) := by
  have hspans : withoutCodeSpans ('#' :: rest) = '#' :: rest :=
    withoutCodeSpans_of_not_mem (List.not_mem_cons_of_ne_of_not_mem (by decide) hbacktick)
  rw [openLine, LineKind.of, body_of_not_quoted (isQuoted_marked rest), openedFence?_marked]
  simp only [isIndentedCode_marked, hspans, opensComment_of_not_infix hcomment, startsMath_marked,
    Bool.and_false, Bool.false_eq_true, ↓reduceIte]
  cases headingList? ('#' :: rest) with
  | none => rfl
  | some list =>
    by_cases hillegal : (AttributeList.read list).illegal = []
    · simp [hillegal, listFindings]
    · simp [hillegal, listFindings]

/-- The text of a heading with this level and content. -/
def headingLine (level : Nat) (content : String) : String :=
  String.ofList (List.replicate level '#') ++ " " ++ content

/-- What is reported of an attribute list: one warning with the words that are not understood, if there
    are any. -/
def listReport (start : Int) (body : List Char) : List Diagnostic :=
  if (AttributeList.read body).illegal = [] then []
  else [{ severity := "warning", line := .int start
          message := "Illegal attributes " ++ quotedList (AttributeList.read body).illegal ++
            " ignored in IAL" }]

/-- The findings about a list are reported as the report of the list. -/
theorem map_listFindings (start : Int) (body : List Char) :
    (listFindings 0 body).map (Diagnostic.numbered start) = listReport start body := by
  unfold listFindings listReport
  split
  · rfl
  · have hline : start + ((0 : Nat) : Int) = start := Int.add_zero start
    rw [List.map_singleton, Diagnostic.numbered, hline]
    rfl

theorem toList_headingLine (level : Nat) (content : String) :
    (headingLine level content).toList = List.replicate level '#' ++ ' ' :: content.toList := by
  simp [headingLine]

/-- A row of one to six marks, a space and a content make a heading. -/
theorem isHeadingLine_headingLine {level : Nat} (hrange : 1 ≤ level ∧ level ≤ 6) (content : String) :
    IsHeadingLine (headingLine level content).toList content.toList :=
  ⟨0, Nat.zero_le 3, level, hrange.1, hrange.2, ' ', rfl, by rw [toList_headingLine]; rfl⟩

/-- A heading without a line break in its content is one line. -/
theorem lines_headingLine (level : Nat) {content : String}
    (hbreak : ∀ c ∈ content.toList, isLineBreak c = false) :
    lines (headingLine level content).toList = [(headingLine level content).toList] := by
  have hmark : isLineBreak '#' = false := by decide
  have hspace : isLineBreak ' ' = false := by decide
  rw [toList_headingLine, lines_of_no_lineBreak, if_neg (by simp)]
  simpa [or_imp, forall_and, hmark, hspace] using hbreak

/-- The line starts with a mark, and its marks bring in no backtick and no comment. -/
theorem exists_marked {level : Nat} {content : String} (hlevel : 1 ≤ level)
    (hbacktick : backtick ∉ content.toList) (hcomment : ¬ commentOpener <:+: content.toList) :
    ∃ rest, (headingLine level content).toList = '#' :: rest ∧ backtick ∉ rest ∧
      ¬ commentOpener <:+: '#' :: rest := by
  obtain ⟨more, rfl⟩ : ∃ more, level = more + 1 := ⟨level - 1, by omega⟩
  refine ⟨List.replicate more '#' ++ ' ' :: content.toList, ?_, ?_, ?_⟩
  · rw [toList_headingLine, List.replicate_succ, List.cons_append]
  · have hmarks : backtick ∉ List.replicate more '#' := fun hmem =>
      absurd (List.eq_of_mem_replicate hmem) (by decide)
    have hspace : backtick ≠ ' ' := by decide
    simp [hmarks, hspace, hbacktick]
  · have hmarks : '<' ∉ List.replicate (more + 1) '#' ++ [' '] := by simp
    refine fun hinside => hcomment (infix_of_not_mem hmarks ?_)
    rwa [List.append_assoc, List.singleton_append, List.replicate_succ, List.cons_append]

section HeadingLine

variable {level : Nat} {content : String} (hrange : 1 ≤ level ∧ level ≤ 6)
  (hbreak : ∀ c ∈ content.toList, isLineBreak c = false) (hbacktick : backtick ∉ content.toList)
  (hcomment : ¬ commentOpener <:+: content.toList)
include hrange hbreak hbacktick hcomment

/-- A heading has the findings of the list at its end, if it has one, and no others. -/
theorem findings_headingLine (math : Bool) :
    findings math (headingLine level content).toList =
      ((trailingList? content.toList).map Prod.snd).elim [] (listFindings 0) := by
  have hlist := headingList?_eq (isHeadingLine_headingLine hrange content)
  obtain ⟨rest, htext, hbacktick', hcomment'⟩ := exists_marked hrange.1 hbacktick hcomment
  have hline := openLine_marked hbacktick' hcomment' math 0
  rw [← htext, hlist] at hline
  rw [findings_eq, lines_headingLine level hbreak, scanLines_cons, scanLine, hline]
  simp [scanLines, OpenConstruct.atEnd]

/-- A heading on one line, without backticks and comments, is reported for the list at its end alone. -/
theorem lint_headingLine (start : Int) (math : Bool) :
    lint (headingLine level content) (.int start) math =
      .ok ((trailingList? content.toList).elim [] fun (_, body) => listReport start body) := by
  rw [lint_int, findings_headingLine hrange hbreak hbacktick hcomment]
  cases trailingList? content.toList with
  | none => rfl
  | some found => exact congrArg Except.ok (map_listFindings start found.2)

end HeadingLine

end MarkTree.Source
