import MarkTree.Proofs.Source.Body
import MarkTree.Proofs.Source.CodeSpan
import MarkTree.Proofs.Source.Concatenation
import MarkTree.Proofs.Text.Strip

namespace MarkTree.Source

open MarkTree.Text

/-- What a construct that hides later lines begins with, fences apart. -/
def Problem.opener? : Problem → Option (List Char)
  | .unclosedComment => some commentOpener
  | .unclosedMath => some mathDelimiter
  | .unclosedFence _ | .illegalAttributes _ => none

/-- What an open comment or open math begins with, and the line it has been opened on. -/
def OpenConstruct.opened? : OpenConstruct → Option (List Char × Nat)
  | .comment since => some (commentOpener, since)
  | .math since => some (mathDelimiter, since)
  | .none | .fence .. => Option.none

/-- The line shows the opener, or its body does once the code spans are taken out. -/
def Shows (opener line : List Char) : Prop :=
  opener <:+: line ∨ JoinedBySpan opener (body line)

variable {math : Bool} {state : OpenConstruct} {offset since : Nat} {line opener : List Char}

/-- A line shows what stands outside of its code spans. -/
theorem shows_of_visible (hne : opener ≠ []) (hvisible : opener <:+: withoutCodeSpans (body line)) :
    Shows opener line := by
  obtain ⟨piece, hmem, hpiece⟩ | hjoined := (infix_withoutCodeSpans_iff hne).mp hvisible
  · have hbody := hpiece.trans ((areCutFrom_textPieces _).each piece hmem)
    exact .inl (hbody.trans (body_suffix line).isInfix)
  · exact .inr hjoined

/-- A line that opens a comment shows the start of one. -/
theorem OpensComment.shows (hopens : OpensComment line) : Shows commentOpener line := by
  obtain ⟨before, after, hcut, -⟩ := hopens.leaves
  exact shows_of_visible (by decide) ⟨before, after, hcut.eq.symm⟩

/-- What is left of a text without its outer blanks stands in the text. -/
theorem isInfix_strip (text : List Char) : strip text <:+: text := by
  have hright := stripRight_prefix (stripLeft text)
  exact hright.isInfix.trans (List.dropWhile_suffix _).isInfix

/-- A line that opens display math shows the delimiter. -/
theorem OpensMath.shows (hopens : OpensMath math line) : Shows mathDelimiter line :=
  shows_of_visible (by decide) (hopens.leaves.1.isInfix.trans (isInfix_strip _))

/-- A line that is read afresh opens a comment or math only if it shows the opener. -/
theorem opened?_openLine (hopened : (openLine math offset line).2.opened? = some (opener, since)) :
    since = offset ∧ Shows opener line := by
  unfold openLine at hopened
  cases hkind : LineKind.of math line with
  | comment =>
    have hopens : Opens math line .comment := opens_iff.mpr (by rw [hkind]; rfl)
    rw [hkind] at hopened
    cases hopened
    exact ⟨rfl, OpensComment.shows hopens⟩
  | math =>
    have hopens : Opens math line .math := opens_iff.mpr (by rw [hkind]; rfl)
    rw [hkind] at hopened
    cases hopened
    exact ⟨rfl, OpensMath.shows hopens⟩
  | fence | badList | plain =>
    rw [hkind] at hopened
    cases hopened

/-- What a line reports on its own is never about an opener. -/
theorem opener?_of_mem_openLine {finding : Finding} (hmem : finding ∈ (openLine math offset line).1) :
    finding.problem.opener? = none := by
  unfold openLine at hmem
  split at hmem <;> simp_all [Problem.opener?]

/-- A line is read afresh, behind a quotation with the report of a fence, or it ends what is open, or it
    goes on with it. -/
theorem scanLine_cases (math : Bool) (state : OpenConstruct) (offset : Nat) (line : List Char) :
    (∃ reported, (∀ finding ∈ reported, finding.problem.opener? = none) ∧
        scanLine math state offset line =
          (reported ++ (openLine math offset line).1, (openLine math offset line).2)) ∨
      scanLine math state offset line = ([], .none) ∨ scanLine math state offset line = ([], state) := by
  cases state with
  | none => exact .inl ⟨[], by simp, rfl⟩
  | fence fence quoted start =>
    simp only [scanLine]
    split
    · exact .inl ⟨[⟨.unclosedFence fence, start⟩], by simp [Problem.opener?], rfl⟩
    · split <;> simp
  | comment start | math start =>
    simp only [scanLine]
    split <;> simp

/-- What is open behind a line has been open before it, or the line shows its opener. -/
theorem opened?_scanLine (hopened : (scanLine math state offset line).2.opened? = some (opener, since)) :
    state.opened? = some (opener, since) ∨ since = offset ∧ Shows opener line := by
  obtain ⟨reported, -, hline⟩ | hline | hline := scanLine_cases math state offset line <;>
    rw [hline] at hopened
  · exact .inr (opened?_openLine hopened)
  · cases hopened
  · exact .inl hopened

/-- Comments and math are not reported before the end of the source. -/
theorem opener?_of_mem_scanLine {finding : Finding} (hmem : finding ∈ (scanLine math state offset line).1) :
    finding.problem.opener? = none := by
  obtain ⟨reported, hreported, hline⟩ | hline | hline := scanLine_cases math state offset line <;>
    rw [hline] at hmem
  · obtain hfence | hfresh := List.mem_append.mp hmem
    · exact hreported finding hfence
    · exact opener?_of_mem_openLine hfresh
  · cases hmem
  · cases hmem

/-- What is open behind some lines was open in front of them, or is shown by the line that opened it. -/
theorem opened?_scanLines (sourceLines : List (List Char)) : ∀ state offset,
    (scanLines math state offset sourceLines).2.opened? = some (opener, since) →
      state.opened? = some (opener, since) ∨
        ∃ index line, sourceLines[index]? = some line ∧ since = offset + index ∧ Shows opener line := by
  induction sourceLines with
  | nil => exact fun state offset hopened => .inl hopened
  | cons line rest ih =>
    intro state offset hopened
    rw [scanLines_cons] at hopened
    obtain hnext | ⟨index, other, hother, rfl, hshows⟩ := ih _ _ hopened
    · obtain hstate | ⟨rfl, hshows⟩ := opened?_scanLine hnext
      · exact .inl hstate
      · exact .inr ⟨0, line, rfl, rfl, hshows⟩
    · exact .inr ⟨index + 1, other, hother, by omega, hshows⟩

/-- What lines report before the end is never about an opener. -/
theorem opener?_of_mem_scanLines {finding : Finding} (sourceLines : List (List Char)) :
    ∀ state offset, finding ∈ (scanLines math state offset sourceLines).1 →
      finding.problem.opener? = none := by
  induction sourceLines with
  | nil => exact fun state offset hmem => nomatch hmem
  | cons line rest ih =>
    intro state offset hmem
    rw [scanLines_cons] at hmem
    obtain hline | hrest := List.mem_append.mp hmem
    · exact opener?_of_mem_scanLine hline
    · exact ih _ _ hrest

/-- A comment or math that is found unclosed is open at the end of the source. -/
theorem opened?_of_mem_findings {source : List Char} {finding : Finding}
    (hmem : finding ∈ findings math source) (hopener : finding.problem.opener? = some opener) :
    (scanLines math .none 0 (lines source)).2.opened? = some (opener, finding.offset) := by
  rw [findings_eq] at hmem
  obtain hscan | hend := List.mem_append.mp hmem
  · rw [opener?_of_mem_scanLines _ _ _ hscan] at hopener
    cases hopener
  · generalize (scanLines math .none 0 (lines source)).2 = last at hend ⊢
    cases last <;> simp only [OpenConstruct.atEnd, List.mem_singleton, List.not_mem_nil] at hend <;>
      subst hend <;> cases hopener <;> rfl

/-- A finding about an opener names a line that shows it. -/
theorem exists_line_of_mem_findings {source : List Char} {finding : Finding}
    (hmem : finding ∈ findings math source) (hopener : finding.problem.opener? = some opener) :
    ∃ line, (lines source)[finding.offset]? = some line ∧ Shows opener line := by
  obtain hstart | ⟨index, line, hline, hoffset, hshows⟩ :=
    opened?_scanLines _ _ _ (opened?_of_mem_findings hmem hopener)
  · cases hstart
  · rw [Nat.zero_add] at hoffset
    exact ⟨line, hoffset ▸ hline, hshows⟩

/-- The second letter of a message tells what it is about. -/
theorem Problem.second_message (problem : Problem) :
    problem.message.toList[1]? = some (match problem with
      | .unclosedFence _ => 'e'
      | .unclosedComment => 'a'
      | .unclosedMath => 'i'
      | .illegalAttributes _ => 'l') := by
  cases problem with
  | unclosedFence opened =>
    have hmessage : (unclosedFence opened).message =
        "Fenced Code Block opened with " ++ opened.spell ++ " not closed at end of input" := rfl
    simp [hmessage]
  | illegalAttributes words =>
    have hmessage : (illegalAttributes words).message =
        "Illegal attributes " ++ quotedList words ++ " ignored in IAL" := rfl
    simp [hmessage]
  | unclosedComment | unclosedMath => rfl

/-- The messages about comments and math are nobody else's. -/
theorem Problem.opener?_of_message {problem other : Problem} (hother : other.opener? = some opener)
    (hmessage : problem.message = other.message) : problem.opener? = some opener := by
  have hsecond := problem.second_message
  rw [hmessage, other.second_message] at hsecond
  cases other with
  | unclosedFence | illegalAttributes => cases hother
  | unclosedComment | unclosedMath => cases problem <;> simp_all

/-- A source without the openers, which no code span keeps apart either, shows none. -/
theorem not_shows_of_source {source : List Char} (hsource : ¬ opener <:+: source)
    (hspans : ∀ line ∈ lines source, ¬ JoinedBySpan opener (body line)) :
    ∀ line ∈ lines source, ¬ Shows opener line := by
  rintro line hmem (hline | hjoined)
  · exact hsource (hline.trans ((areCutFrom_lines source).each line hmem))
  · exact hspans line hmem hjoined

/-- Where no line shows an opener, no comment or math is open. -/
theorem opened?_of_not_shows (front : List (List Char))
    (hshows : ∀ opener ∈ [commentOpener, mathDelimiter], ∀ line ∈ front, ¬ Shows opener line) :
    (scanLines math .none 0 front).2.opened? = none := by
  cases hlast : (scanLines math .none 0 front).2.opened? with
  | none => rfl
  | some opened =>
    obtain hstart | ⟨index, line, hline, -, hline'⟩ := opened?_scanLines front .none 0 hlast
    · cases hstart
    · refine absurd hline' (hshows _ ?_ line (List.mem_of_getElem? hline))
      generalize (scanLines math .none 0 front).2 = last at hlast
      cases last <;> cases hlast <;> simp

/-- Where nothing but a fence is open, a line that opens a fence is seen, unless it stands in another
    one. -/
theorem fence_of_opened? {fence : Fence} {front : List (List Char)}
    (hfront : (scanLines math .none 0 front).2.opened? = none) (hfence : OpensFence fence line) :
    (∃ opened quoted, (scanLines math .none 0 front).2.construct? = some (.fence opened quoted)) ∨
      (scanLines math .none 0 (front ++ [line])).2.construct? = some (.fence fence (isQuoted line)) := by
  rw [scanLines_append]
  cases hlast : (scanLines math .none 0 front).2 with
  | none =>
    have hopens : Opens math line (.fence fence (isQuoted line)) := ⟨hfence, rfl⟩
    exact .inr (openLine_of_opens (0 + front.length) hopens).2
  | fence opened quoted => exact .inl ⟨opened, quoted, rfl⟩
  | comment | math =>
    rw [hlast] at hfront
    cases hfront

/-- A comment or math that is reported as unclosed at a line has its opener in that line, or the parts of
    the opener stand around code spans of it. A source that holds no opener in either way has no such
    diagnostic, and each of its lines that opens a fence, outside of other fences, is seen. -/
theorem lint_openers (source : String) (start : Int) (math : Bool) :
    ∃ diagnostics, lint source (.int start) math = .ok diagnostics ∧
      (∀ problem opener, Problem.opener? problem = some opener → ∀ diagnostic ∈ diagnostics,
        diagnostic.message = problem.message →
          ∃ (offset : Nat) (line : List Char), diagnostic.line = .int (start + offset) ∧
            (lines source.toList)[offset]? = some line ∧
              (opener <:+: line ∨ JoinedBySpan opener (body line))) ∧
      ((∀ opener ∈ [commentOpener, mathDelimiter], ¬ opener <:+: source.toList ∧
          ∀ line ∈ lines source.toList, ¬ JoinedBySpan opener (body line)) →
        (∀ problem, (Problem.opener? problem).isSome → ∀ diagnostic ∈ diagnostics,
            diagnostic.message ≠ problem.message) ∧
          ∀ front line back fence, lines source.toList = front ++ line :: back → OpensFence fence line →
            (∃ opened quoted,
                (scanLines math .none 0 front).2.construct? = some (.fence opened quoted)) ∨
              (scanLines math .none 0 (front ++ [line])).2.construct? =
                some (.fence fence (isQuoted line))) := by
  have hblamed {problem opener} (hopener : Problem.opener? problem = some opener)
      {finding : Finding} (hmem : finding ∈ findings math source.toList)
      (hmessage : finding.problem.message = problem.message) :
      ∃ line, (lines source.toList)[finding.offset]? = some line ∧ Shows opener line :=
    exists_line_of_mem_findings hmem (Problem.opener?_of_message hopener hmessage)
  refine ⟨_, lint_int source start math, ?_, fun hsource => ?_⟩
  · intro problem opener hopener diagnostic hmem hmessage
    obtain ⟨finding, hfinding, rfl⟩ := List.mem_map.mp hmem
    obtain ⟨line, hline, hshows⟩ := hblamed hopener hfinding hmessage
    exact ⟨finding.offset, line, rfl, hline, hshows⟩
  · have hshows : ∀ opener ∈ [commentOpener, mathDelimiter], ∀ line ∈ lines source.toList,
        ¬ Shows opener line := fun opener hmem =>
      not_shows_of_source (hsource opener hmem).1 (hsource opener hmem).2
    constructor
    · intro problem hproblem diagnostic hmem hmessage
      obtain ⟨opener, hopener⟩ := Option.isSome_iff_exists.mp hproblem
      obtain ⟨finding, hfinding, rfl⟩ := List.mem_map.mp hmem
      obtain ⟨line, hline, hline'⟩ := hblamed hopener hfinding hmessage
      have hlisted : opener ∈ [commentOpener, mathDelimiter] := by
        cases problem <;> cases hopener <;> simp
      exact hshows opener hlisted line (List.mem_of_getElem? hline) hline'
    · intro front line back fence hlines hfence
      refine fence_of_opened? (opened?_of_not_shows front fun opener hmem other hother => ?_) hfence
      exact hshows opener hmem other (hlines ▸ List.mem_append_left _ hother)

/-- A comment opener that a code span has a part of, then a fence. -/
def spannedOpener : String :=
  "\x60<\x60!--\n~~~\nx"

theorem lint_openers_spannedOpener :
    (∀ opener ∈ [commentOpener, mathDelimiter], ¬ opener <:+: spannedOpener.toList ∧
        ∀ line ∈ lines spannedOpener.toList, ¬ JoinedBySpan opener (body line)) ∧
      lint spannedOpener (.int 1) true = .ok [Diagnostic.numbered 1 ⟨.unclosedFence ⟨'~', 3⟩, 1⟩] ∧
        (∀ diagnostic ∈ [Diagnostic.numbered 1 ⟨.unclosedFence ⟨'~', 3⟩, 1⟩],
          diagnostic.message ≠ Problem.unclosedComment.message) ∧
          (scanLines true .none 0 ((lines spannedOpener.toList).take 2)).2.construct? =
            some (.fence ⟨'~', 3⟩ false) := by
  have hfindings : findings true spannedOpener.toList = [⟨.unclosedFence ⟨'~', 3⟩, 1⟩] := by
    decide +kernel
  have hsource : ∀ opener ∈ [commentOpener, mathDelimiter], ¬ opener <:+: spannedOpener.toList ∧
      ∀ line ∈ lines spannedOpener.toList, ¬ JoinedBySpan opener (body line) := by
    have hvisible : ∀ opener ∈ [commentOpener, mathDelimiter], opener ≠ [] ∧
        contains opener spannedOpener.toList = false ∧ ∀ line ∈ lines spannedOpener.toList,
          contains opener (withoutCodeSpans (body line)) = false := by
      decide +kernel
    intro opener hmem
    obtain ⟨hne, hsource, hlines⟩ := hvisible opener hmem
    refine ⟨by simp [← contains_iff, hsource], fun line hline hjoined => ?_⟩
    have hinside := (infix_withoutCodeSpans_iff hne).mpr (.inr hjoined)
    rw [← contains_iff, hlines line hline] at hinside
    cases hinside
  obtain ⟨diagnostics, hlint, -, hclean⟩ := lint_openers spannedOpener 1 true
  obtain ⟨hmessages, hfences⟩ := hclean hsource
  have hlint' := hlint
  rw [lint_int, hfindings] at hlint'
  cases hlint'
  refine ⟨hsource, hlint, hmessages .unclosedComment rfl, ?_⟩
  have hopens : OpensFence ⟨'~', 3⟩ ['~', '~', '~'] := opensFence_iff.mpr (by decide)
  have hlines : lines spannedOpener.toList =
      ["\x60<\x60!--".toList] ++ ['~', '~', '~'] :: ["x".toList] := by decide
  obtain ⟨opened, quoted, hinner⟩ | hseen := hfences _ _ _ _ hlines hopens
  · have hnone : (scanLines true .none 0 ["\x60<\x60!--".toList]).2.construct? = none := by
      decide +kernel
    rw [hnone] at hinner
    cases hinner
  · rw [hlines]
    exact hseen

/-- The code span in the first line keeps a comment opener apart, and the second line looks like a
    fence. -/
def joinedOpener : String :=
  "<!\x60a\x60--\n~~~\nx"

/-- Taken out, the code span leaves a comment opener behind that the source does not hold, and the comment
    hides the fence. -/
theorem lint_joinedOpener :
    ¬ commentOpener <:+: joinedOpener.toList ∧
      lint joinedOpener (.int 1) true = .ok [Diagnostic.numbered 1 ⟨.unclosedComment, 0⟩] := by
  have hfindings : findings true joinedOpener.toList = [⟨.unclosedComment, 0⟩] := by
    decide +kernel
  constructor
  · rw [← contains_iff]
    decide
  · rw [lint_int, hfindings]
    rfl

end MarkTree.Source
