import MarkTree.Proofs.Source.Balanced
import MarkTree.Proofs.Source.Body
import MarkTree.Proofs.Text.Lines

namespace MarkTree.Source

open MarkTree.Text

/-- The open construct, a fence being taken as opened on a line that is not quoted. -/
def OpenConstruct.unquoted : OpenConstruct → OpenConstruct
  | .fence opened _ since => .fence opened false since
  | .none => .none
  | .comment since => .comment since
  | .math since => .math since

/-- The line is quoted the way the construct needs it. Inside a fence opened on a quoted line all lines
    are quoted; inside one opened on another line no quoted line has a body that closes the fence. -/
def Construct.Suits : Construct → List Char → Prop
  | .fence _ true, line => isQuoted line = true
  | .fence opened false, line => opened.IsCloser (body line) → opened.IsCloser line
  | .comment, _ => True
  | .math, _ => True

/-- As the scan goes over the lines, every line inside a construct suits the construct. -/
def SuitsFrom (math : Bool) : OpenConstruct → (offset : Nat) → List (List Char) → Prop
  | _, _, [] => True
  | state, offset, line :: rest =>
    (∀ construct ∈ state.construct?, construct.Suits line) ∧
      SuitsFrom math (scanLine math state offset line).2 (offset + 1) rest

variable {math : Bool} {state : OpenConstruct} {offset : Nat}

/-- What a line starts, a fence being taken as standing on a line that is not quoted. -/
def LineKind.unquoted : LineKind → LineKind
  | .fence opened _ => .fence opened false
  | .comment => .comment
  | .math => .math
  | .badList words => .badList words
  | .plain => .plain

/-- The body of a line is of the same kind, but for the quoting. -/
theorem kind_of_body (line : List Char) :
    LineKind.of math (body line) = (LineKind.of math line).unquoted := by
  unfold LineKind.of
  dsimp only
  rw [body_body, isQuoted_body]
  cases openedFence? (body line) with
  | some opened => rfl
  | none =>
    dsimp only
    split
    · rfl
    · split
      · rfl
      · split
        · split <;> rfl
        · split
          · split <;> rfl
          · rfl

/-- The body of a line gives the same findings and opens the same, but for the quoting. -/
theorem openLine_body (line : List Char) :
    (openLine math offset line).1 = (openLine math offset (body line)).1 ∧
      (openLine math offset line).2.unquoted = (openLine math offset (body line)).2 := by
  unfold openLine
  rw [kind_of_body]
  cases LineKind.of math line <;> exact ⟨rfl, rfl⟩

/-- A line that starts with a fence is not quoted. -/
theorem Fence.Begins.not_quoted {fence : Fence} {text info : List Char} (h : fence.Begins text info) :
    isQuoted text = false := by
  obtain ⟨n, -, rfl⟩ := h.eq
  obtain ⟨width, hwidth⟩ : ∃ k, fence.width = k + 1 := ⟨fence.width - 1, by have := h.width; omega⟩
  rw [hwidth, List.replicate_succ, List.cons_append]
  have hmark := h.mark
  refine isQuoted_of_stop (fun c hmem => ?_) (fun c hmem => ?_) <;>
    (obtain rfl : fence.mark = c := by simpa using hmem) <;>
    (rcases hmark with hmark | hmark <;> rw [hmark] <;> decide)

/-- A fence is closed by a line that suits it just if it is closed by the body. -/
theorem closedBy_of_suits {opened : Fence} {line : List Char}
    (hsuits : (Construct.fence opened false).Suits line) :
    opened.closedBy line = opened.closedBy (body line) := by
  rw [Bool.eq_iff_iff, Fence.closedBy_iff, Fence.closedBy_iff]
  refine ⟨fun hcloser => ?_, hsuits⟩
  have ⟨_, _, hbegins, _⟩ := hcloser
  rw [body_of_not_quoted hbegins.not_quoted]
  exact hcloser

/-- A line that suits the open construct is read as its body is. -/
theorem scanLine_body (math : Bool) (offset : Nat) {line : List Char}
    (hsuits : ∀ construct ∈ state.construct?, construct.Suits line) :
    (scanLine math state offset line).1 = (scanLine math state.unquoted offset (body line)).1 ∧
      (scanLine math state offset line).2.unquoted =
        (scanLine math state.unquoted offset (body line)).2 := by
  cases state with
  | none => exact openLine_body line
  | fence opened quoted since =>
    have hline := hsuits _ rfl
    cases quoted with
    | true =>
      have hquoted : isQuoted line = true := hline
      cases hclosed : opened.closedBy (body line) <;>
        simp [scanLine, OpenConstruct.unquoted, hquoted, hclosed]
    | false =>
      have hsame := closedBy_of_suits hline
      cases hclosed : opened.closedBy (body line) <;>
        simp [scanLine, OpenConstruct.unquoted, hsame, hclosed]
  | comment since =>
    rw [OpenConstruct.unquoted, scanLine, scanLine, body_body]
    split <;> exact ⟨rfl, rfl⟩
  | math since =>
    rw [OpenConstruct.unquoted, scanLine, scanLine, body_body]
    split <;> exact ⟨rfl, rfl⟩

/-- Lines that suit what is open before each of them are read as their bodies are. -/
theorem scanLines_bodies (lines : List (List Char)) : ∀ state offset, SuitsFrom math state offset lines →
    (scanLines math state offset lines).1 =
        (scanLines math state.unquoted offset (lines.map body)).1 ∧
      (scanLines math state offset lines).2.unquoted =
        (scanLines math state.unquoted offset (lines.map body)).2 := by
  induction lines with
  | nil => exact fun _ _ _ => ⟨rfl, rfl⟩
  | cons line rest ih =>
    rintro state offset ⟨hline, hrest⟩
    obtain ⟨hfound, hnext⟩ := scanLine_body math offset hline
    obtain ⟨hmore, hlast⟩ := ih _ _ hrest
    rw [hnext] at hmore hlast
    rw [List.map_cons, scanLines_cons, scanLines_cons]
    exact ⟨by rw [hfound, hmore], hlast⟩

/-- The findings in a list of lines. -/
def findingsIn (math : Bool) (lines : List (List Char)) : List Finding :=
  (scanLines math .none 0 lines).1 ++ (scanLines math .none 0 lines).2.atEnd

/-- What is reported at the end does not depend on the quoting. -/
theorem atEnd_unquoted (state : OpenConstruct) : state.unquoted.atEnd = state.atEnd := by
  cases state <;> rfl

/-- Lines that suit what is open have the findings of their bodies. -/
theorem findingsIn_bodies {lines : List (List Char)} (hsuits : SuitsFrom math .none 0 lines) :
    findingsIn math lines = findingsIn math (lines.map body) := by
  obtain ⟨hfound, hlast⟩ := scanLines_bodies lines .none 0 hsuits
  rw [findingsIn, findingsIn, hfound, ← atEnd_unquoted, hlast]
  rfl

instance (construct : Construct) (line : List Char) : Decidable (construct.Suits line) :=
  match construct with
  | .fence _ true => inferInstanceAs (Decidable (isQuoted line = true))
  | .fence opened false =>
    decidable_of_iff (opened.closedBy (body line) = true → opened.closedBy line = true)
      (by rw [Fence.closedBy_iff, Fence.closedBy_iff, Construct.Suits])
  | .comment | .math => inferInstanceAs (Decidable True)

instance SuitsFrom.decidable : (state : OpenConstruct) → (offset : Nat) → (lines : List (List Char)) →
    Decidable (SuitsFrom math state offset lines)
  | _, _, [] => inferInstanceAs (Decidable True)
  | state, offset, line :: rest =>
    have := SuitsFrom.decidable (scanLine math state offset line).2 (offset + 1) rest
    inferInstanceAs (Decidable ((∀ construct ∈ state.construct?, construct.Suits line) ∧
      SuitsFrom math (scanLine math state offset line).2 (offset + 1) rest))

/-- If a fence is open, it was opened on a line quoted this way. -/
def OpenConstruct.IsOn (quoted : Bool) : OpenConstruct → Prop
  | .fence _ other _ => other = quoted
  | .none | .comment _ | .math _ => True

/-- What a line opens is opened on a line that is quoted like it. -/
theorem isOn_openLine (math : Bool) (offset : Nat) (line : List Char) :
    (openLine math offset line).2.IsOn (isQuoted line) := by
  unfold openLine
  cases hkind : LineKind.of math line with
  | fence opened quoted =>
    have hopens : Opens math line (.fence opened quoted) := by
      rw [opens_iff, hkind]
      rfl
    exact hopens.2.symm
  | _ => trivial

/-- Where all lines are quoted, or none is, the construct that is open stays on such a line. -/
theorem isOn_scanLine {line : List Char} {quoted : Bool} (hline : isQuoted line = quoted)
    (hstate : state.IsOn quoted) : (scanLine math state offset line).2.IsOn quoted := by
  cases state with
  | none =>
    rw [scanLine, ← hline]
    exact isOn_openLine math offset line
  | fence opened other since =>
    obtain rfl : other = quoted := hstate
    have hon := isOn_openLine math offset line
    rw [hline] at hon
    unfold scanLine
    dsimp only
    split
    · exact hon
    · by_cases hclosed : opened.closedBy (if other = true then body line else line) = true
      · rw [if_pos hclosed]
        trivial
      · rw [if_neg hclosed]
        rfl
  | comment since =>
    unfold scanLine
    dsimp only
    split <;> trivial
  | math since =>
    unfold scanLine
    dsimp only
    split <;> trivial

/-- Lines that are all quoted suit each other, and so do lines of which none is. -/
theorem suitsFrom_of_uniform {quoted : Bool} (lines : List (List Char)) : ∀ state offset,
    (∀ line ∈ lines, isQuoted line = quoted) → state.IsOn quoted →
      SuitsFrom math state offset lines := by
  induction lines with
  | nil => exact fun _ _ _ _ => trivial
  | cons line rest ih =>
    intro state offset hlines hstate
    obtain ⟨hline, hrest⟩ := List.forall_mem_cons.mp hlines
    refine ⟨fun construct hconstruct => ?_, ih _ _ hrest (isOn_scanLine hline hstate)⟩
    cases state with
    | none => cases hconstruct
    | fence opened other since =>
      cases hconstruct
      obtain rfl : other = quoted := hstate
      cases other with
      | true => exact hline
      | false =>
        rw [Construct.Suits, body_of_not_quoted hline]
        exact id
    | comment since =>
      cases hconstruct
      trivial
    | math since =>
      cases hconstruct
      trivial

theorem kind_of_nil : LineKind.of math [] = .plain := by
  have hvisible : withoutCodeSpans [] = [] := by
    rw [withoutCodeSpans]
    rfl
  have hbody : body [] = [] := rfl
  unfold LineKind.of
  dsimp only
  rw [hbody, hvisible]
  cases math <;> rfl

/-- An empty line changes nothing, unless a quotation ends with it. -/
theorem scanLine_nil (hstate : state.IsOn false) : scanLine math state offset [] = ([], state) := by
  cases state with
  | none => rw [scanLine, openLine, kind_of_nil]
  | fence opened quoted since =>
    obtain rfl : quoted = false := hstate
    rfl
  | comment since => rfl
  | math since => rfl

theorem scanLines_concat_nil (lines : List (List Char)) : ∀ state offset,
    (∀ line ∈ lines, isQuoted line = false) → state.IsOn false →
      scanLines math state offset (lines ++ [[]]) = scanLines math state offset lines := by
  induction lines with
  | nil =>
    intro state offset _ hstate
    rw [List.nil_append, scanLines_cons, scanLine_nil hstate]
    rfl
  | cons line rest ih =>
    intro state offset hlines hstate
    obtain ⟨hline, hrest⟩ := List.forall_mem_cons.mp hlines
    rw [List.cons_append, scanLines_cons, scanLines_cons,
      ih _ _ hrest (isOn_scanLine hline hstate)]

theorem findingsIn_concat_nil {lines : List (List Char)}
    (hlines : ∀ line ∈ lines, isQuoted line = false) :
    findingsIn math (lines ++ [[]]) = findingsIn math lines := by
  rw [findingsIn, scanLines_concat_nil lines .none 0 hlines trivial, findingsIn]

/-- The findings in joined texts are those in the bodies of the texts, given that each line suits what is
    open before it. -/
theorem findings_intercalate {texts : List (List Char)}
    (htexts : ∀ text ∈ texts, ∀ c ∈ text, isLineBreak c = false)
    (hsuits : SuitsFrom math .none 0 (lines (['\n'].intercalate texts))) :
    findings math (['\n'].intercalate texts) = findingsIn math (texts.map body) := by
  rw [show findings math (['\n'].intercalate texts) =
    findingsIn math (lines (['\n'].intercalate texts)) from rfl, findingsIn_bodies hsuits]
  rcases List.eq_nil_or_concat texts with rfl | ⟨front, last, rfl⟩
  · rfl
  · rw [List.concat_eq_append] at htexts ⊢
    obtain ⟨hfront, hlast⟩ := List.forall_mem_append.mp htexts
    rw [lines_intercalate hfront (hlast last List.mem_cons_self)]
    split
    · rename_i hempty
      have hbodies : ∀ line ∈ front.map body, isQuoted line = false :=
        List.forall_mem_map.mpr fun line _ => isQuoted_body line
      rw [hempty, List.append_nil, List.map_append]
      exact (findingsIn_concat_nil hbodies).symm
    · rfl

/-- The lines of joined texts are among the texts, if these hold no line break. -/
theorem mem_of_mem_lines_intercalate {texts : List (List Char)} {line : List Char}
    (htexts : ∀ text ∈ texts, ∀ c ∈ text, isLineBreak c = false)
    (hline : line ∈ lines (['\n'].intercalate texts)) : line ∈ texts := by
  rcases List.eq_nil_or_concat texts with rfl | ⟨front, last, rfl⟩
  · cases hline
  · rw [List.concat_eq_append] at htexts hline ⊢
    obtain ⟨hfront, hlast⟩ := List.forall_mem_append.mp htexts
    rw [lines_intercalate hfront (hlast last List.mem_cons_self)] at hline
    split at hline
    · rw [List.append_nil] at hline
      exact List.mem_append_left _ hline
    · exact hline

/-- Texts that are changed in their quote markers alone, so that all are quoted or none is, have the
    findings of their bodies. -/
theorem findings_intercalate_map (quoted : Bool) {change : List Char → List Char}
    {texts : List (List Char)} (htexts : ∀ text ∈ texts, ∀ c ∈ change text, isLineBreak c = false)
    (hquoted : ∀ text, isQuoted (change text) = quoted) (hbody : ∀ text, body (change text) = body text) :
    findings math (['\n'].intercalate (texts.map change)) = findingsIn math (texts.map body) := by
  have hchanged : ∀ text ∈ texts.map change, ∀ c ∈ text, isLineBreak c = false :=
    List.forall_mem_map.mpr htexts
  have huniform : ∀ line ∈ lines (['\n'].intercalate (texts.map change)), isQuoted line = quoted := by
    intro line hline
    obtain ⟨text, -, rfl⟩ := List.mem_map.mp (mem_of_mem_lines_intercalate hchanged hline)
    exact hquoted text
  rw [findings_intercalate hchanged (suitsFrom_of_uniform _ .none 0 huniform trivial), List.map_map]
  exact congrArg _ (List.map_congr_left fun text _ => hbody text)

/-- A source in which every line is put into quotes has the diagnostics of the bodies of its lines. They
    are those of the source itself when every line suits the construct that is open before it. -/
theorem lint_blockquote {texts : List String}
    (htexts : ∀ text ∈ texts, ∀ c ∈ text.toList, isLineBreak c = false) (start : Int) (math : Bool) :
    ∃ diagnostics,
      lint ("\n".intercalate (texts.map fun text => "> " ++ text)) (.int start) math =
          .ok diagnostics ∧
        lint ("\n".intercalate (texts.map fun text => String.ofList (body text.toList))) (.int start)
            math = .ok diagnostics ∧
          (SuitsFrom math .none 0 (lines ("\n".intercalate texts).toList) →
            lint ("\n".intercalate texts) (.int start) math = .ok diagnostics) := by
  have hjoined (parts : List String) :
      ("\n".intercalate parts).toList = ['\n'].intercalate (parts.map String.toList) :=
    String.toList_intercalate
  have hplain : ∀ text ∈ texts.map String.toList, ∀ c ∈ text, isLineBreak c = false :=
    List.forall_mem_map.mpr htexts
  have hquotes : findings math ("\n".intercalate (texts.map fun text => "> " ++ text)).toList =
      findingsIn math ((texts.map String.toList).map body) := by
    have hmap : (texts.map fun text => "> " ++ text).map String.toList =
        (texts.map String.toList).map fun text => '>' :: ' ' :: text := by
      rw [List.map_map, List.map_map]
      exact List.map_congr_left fun text _ => String.toList_append
    rw [hjoined, hmap]
    refine findings_intercalate_map true (fun text hmem c hc => ?_) isQuoted_quoted body_quoted
    rcases List.mem_cons.mp hc with rfl | hc
    · rfl
    · rcases List.mem_cons.mp hc with rfl | hc
      · rfl
      · exact hplain text hmem c hc
  have hbodies : findings math ("\n".intercalate (texts.map fun text =>
      String.ofList (body text.toList))).toList =
        findingsIn math ((texts.map String.toList).map body) := by
    have hmap : (texts.map fun text => String.ofList (body text.toList)).map String.toList =
        (texts.map String.toList).map body := by
      rw [List.map_map, List.map_map]
      exact List.map_congr_left fun text _ => String.toList_ofList
    rw [hjoined, hmap]
    refine findings_intercalate_map false (fun text hmem c hc => ?_) isQuoted_body body_body
    exact hplain text hmem c ((body_suffix text).subset hc)
  refine ⟨_, lint_int _ start math, ?_, fun hsuits => ?_⟩
  · rw [lint_int, hbodies, hquotes]
  · rw [hjoined] at hsuits
    rw [lint_int, hquotes, hjoined, findings_intercalate hplain hsuits]

/-- A source with a fence in a quotation, and behind it a fence around a quoted fence of the other
    mark. -/
def quotedPage : List String :=
  ["> ```", "> > x", "> ```", "~~~", "> ```", "~~~"]

theorem lint_blockquote_page :
    (∀ text ∈ quotedPage, ∀ c ∈ text.toList, isLineBreak c = false) ∧
      SuitsFrom true .none 0 (lines ("\n".intercalate quotedPage).toList) ∧
        lint ("\n".intercalate (quotedPage.map fun text => "> " ++ text)) (.int 1) true =
          lint ("\n".intercalate quotedPage) (.int 1) true := by
  have hsuits : SuitsFrom true .none 0 (lines ("\n".intercalate quotedPage).toList) := by
    decide +kernel
  have hall : (quotedPage.all fun text => text.toList.all fun c => !isLineBreak c) = true := by decide
  have htexts : ∀ text ∈ quotedPage, ∀ c ∈ text.toList, isLineBreak c = false := by
    simpa only [List.all_eq_true, Bool.not_eq_true'] using hall
  obtain ⟨diagnostics, hquoted, -, hplain⟩ := lint_blockquote htexts 1 true
  exact ⟨htexts, hsuits, hquoted.trans (hplain hsuits).symm⟩

/-- Inside a fence that is not quoted a quoted fence is code. In the quotation of the source both are
    quoted, and the second closes the first. -/
theorem lint_blockquote_ne :
    lint "```\n> ```\n```" (.int 1) true = .ok [] ∧
      lint "> ```\n> > ```\n> ```" (.int 1) true =
        .ok [Diagnostic.numbered 1 ⟨.unclosedFence ⟨backtick, 3⟩, 2⟩] := by
  have hplain : findings true "```\n> ```\n```".toList = [] := by decide
  have hquoted : findings true "> ```\n> > ```\n> ```".toList =
      [⟨.unclosedFence ⟨backtick, 3⟩, 2⟩] := by decide
  rw [lint_int, lint_int, hplain, hquoted]
  exact ⟨rfl, rfl⟩

end MarkTree.Source
