import MarkTree.Proofs.Source.Construct

namespace MarkTree.Source

open MarkTree.Text

/-- Lines put together from plain lines and closed constructs. -/
inductive Balanced (math : Bool) : List (List Char) → Prop where
  | nil : Balanced math []
  | plain {line : List Char} {rest : List (List Char)} (hline : IsPlain math line)
      (hrest : Balanced math rest) : Balanced math (line :: rest)
  | closed {opener closer : List Char} {inner rest : List (List Char)} {construct : Construct}
      (hopens : Opens math opener construct) (hinner : ∀ line ∈ inner, construct.Continues line)
      (hcloser : construct.Ends closer) (hrest : Balanced math rest) :
      Balanced math (opener :: (inner ++ closer :: rest))

/-- The lines bring an open construct to its end, and what is behind it is balanced. -/
def Closes (math : Bool) (construct : Construct) (lines : List (List Char)) : Prop :=
  ∃ inner closer rest, lines = inner ++ closer :: rest ∧ (∀ line ∈ inner, construct.Continues line) ∧
    construct.Ends closer ∧ Balanced math rest

/-- The construct that is open in a state of the scan. -/
def OpenConstruct.construct? : OpenConstruct → Option Construct
  | .none => Option.none
  | .fence opened quoted _ => some (.fence opened quoted)
  | .comment _ => some .comment
  | .math _ => some .math

/-- A state without an open construct is the state outside of all. -/
theorem OpenConstruct.eq_none_of_construct? {state : OpenConstruct}
    (hstate : state.construct? = Option.none) : state = .none := by
  cases state with
  | none => rfl
  | _ => cases hstate

/-- The problem is a construct that is not closed. -/
def Problem.isUnclosed : Problem → Bool
  | .illegalAttributes _ => false
  | .unclosedFence _ | .unclosedComment | .unclosedMath => true

variable {math : Bool} {line : List Char} {rest : List (List Char)} {construct : Construct}

/-- A plain line does not count. -/
theorem Balanced.cons_iff_of_isPlain (hline : IsPlain math line) :
    Balanced math (line :: rest) ↔ Balanced math rest := by
  constructor
  · intro h
    cases h with
    | plain _ hrest => exact hrest
    | closed hopens => exact absurd hopens (hline _)
  · exact .plain hline

/-- Behind a line that opens a construct the source has to close it. -/
theorem Balanced.cons_iff_of_opens (hopens : Opens math line construct) :
    Balanced math (line :: rest) ↔ Closes math construct rest := by
  constructor
  · intro h
    cases h with
    | plain hline _ => exact absurd hopens (hline _)
    | @closed _ closer inner rest construct' hopens' hinner hcloser hrest =>
      -- A line opens one construct only.
      have hsame := (opens_iff.mp hopens).symm.trans (opens_iff.mp hopens')
      cases hsame
      exact ⟨inner, closer, rest, rfl, hinner, hcloser, hrest⟩
  · rintro ⟨inner, closer, rest, rfl, hinner, hcloser, hrest⟩
    exact .closed hopens hinner hcloser hrest

theorem not_closes_nil : ¬ Closes math construct [] := by
  rintro ⟨inner, closer, rest, heq, -⟩
  cases inner <;> cases heq

/-- No line both goes on with a construct and ends it. -/
theorem Construct.Continues.not_ends (hline : construct.Continues line) : ¬ construct.Ends line := by
  cases construct with
  | fence opened quoted =>
    cases quoted with
    | true => exact fun hends => hline.2 hends.2
    | false => exact hline
  | comment => exact hline
  | math => exact hline

/-- A line that neither goes on with the construct nor ends it stands behind a quotation that a fence was
    open in. -/
theorem Construct.eq_fence_of_broken (hcontinues : ¬ construct.Continues line)
    (hends : ¬ construct.Ends line) :
    ∃ fence, construct = .fence fence true ∧ isQuoted line = false := by
  cases construct with
  | fence opened quoted =>
    cases quoted with
    | true =>
      refine ⟨opened, rfl, ?_⟩
      rw [← Bool.not_eq_true]
      exact fun hquoted => hcontinues ⟨hquoted, fun hcloser => hends ⟨hquoted, hcloser⟩⟩
    | false => exact absurd (Classical.not_not.mp hcontinues) hends
  | comment | math => exact absurd (Classical.not_not.mp hcontinues) hends

/-- A line that continues a construct does not count. -/
theorem closes_cons_iff_of_continues (hline : construct.Continues line) :
    Closes math construct (line :: rest) ↔ Closes math construct rest := by
  constructor
  · rintro ⟨inner, closer, behind, heq, hinner, hcloser, hbehind⟩
    cases inner with
    | nil =>
      cases heq
      exact absurd hcloser hline.not_ends
    | cons first inner =>
      cases heq
      exact ⟨inner, closer, behind, rfl, fun l hmem => hinner l (List.mem_cons_of_mem _ hmem), hcloser,
        hbehind⟩
  · rintro ⟨inner, closer, behind, rfl, hinner, hcloser, hbehind⟩
    refine ⟨line :: inner, closer, behind, rfl, ?_, hcloser, hbehind⟩
    exact List.forall_mem_cons.mpr ⟨hline, hinner⟩

/-- Behind the line that ends a construct the source goes on outside of it. -/
theorem closes_cons_iff_of_ends (hline : construct.Ends line) :
    Closes math construct (line :: rest) ↔ Balanced math rest := by
  constructor
  · rintro ⟨inner, closer, behind, heq, hinner, hcloser, hbehind⟩
    cases inner with
    | nil =>
      cases heq
      exact hbehind
    | cons first inner =>
      cases heq
      exact absurd hline (hinner line List.mem_cons_self).not_ends
  · exact fun hrest => ⟨[], line, rest, rfl, nofun, hline, hrest⟩

theorem not_closes_cons (hcontinues : ¬ construct.Continues line) (hends : ¬ construct.Ends line) :
    ¬ Closes math construct (line :: rest) := by
  rintro ⟨inner, closer, behind, heq, hinner, hcloser, -⟩
  cases inner with
  | nil =>
    cases heq
    exact hends hcloser
  | cons first inner =>
    cases heq
    exact hcontinues (hinner line List.mem_cons_self)

variable {state : OpenConstruct} {offset : Nat}

/-- A line that continues the open construct is passed over. -/
theorem scanLine_of_continues (hstate : state.construct? = some construct)
    (hline : construct.Continues line) : scanLine math state offset line = ([], state) := by
  cases state with
  | none => cases hstate
  | fence opened quoted since =>
    cases hstate
    cases quoted with
    | true =>
      obtain ⟨hquoted, hcloser⟩ := hline
      rw [← Fence.closedBy_iff] at hcloser
      simp [scanLine, hquoted, hcloser]
    | false =>
      rw [Construct.Continues, ← Fence.closedBy_iff] at hline
      simp [scanLine, hline]
  | comment since =>
    cases hstate
    rw [Construct.Continues, ← contains_iff] at hline
    simp [scanLine, hline]
  | math since =>
    cases hstate
    rw [Construct.Continues, ← startsWith_iff] at hline
    simp [scanLine, startsMath, hline]

/-- A line that ends the open construct leads outside, without a finding. -/
theorem scanLine_of_ends (hstate : state.construct? = some construct) (hline : construct.Ends line) :
    scanLine math state offset line = ([], .none) := by
  cases state with
  | none => cases hstate
  | fence opened quoted since =>
    cases hstate
    cases quoted with
    | true =>
      obtain ⟨hquoted, hcloser⟩ := hline
      rw [← Fence.closedBy_iff] at hcloser
      simp [scanLine, hquoted, hcloser]
    | false =>
      rw [Construct.Ends, ← Fence.closedBy_iff] at hline
      simp [scanLine, hline]
  | comment since =>
    cases hstate
    rw [Construct.Ends, ← contains_iff] at hline
    simp [scanLine, hline]
  | math since =>
    cases hstate
    rw [Construct.Ends, ← startsWith_iff] at hline
    simp [scanLine, startsMath, hline]

/-- A line behind the quotation that a fence was open in reports the fence. -/
theorem exists_reported_of_cut {fence : Fence} (math : Bool) (offset : Nat)
    (hstate : state.construct? = some (.fence fence true)) (hline : isQuoted line = false) :
    ∃ finding ∈ (scanLine math state offset line).1, finding.problem = .unclosedFence fence := by
  cases state with
  | fence opened quoted since =>
    cases hstate
    exact ⟨⟨.unclosedFence fence, since⟩, by simp [scanLine, hline], rfl⟩
  | none | comment | math => cases hstate

/-- A line that neither goes on with the construct nor ends it makes the scan report a fence. -/
theorem exists_unclosed_of_broken (math : Bool) (offset : Nat)
    (hstate : state.construct? = some construct) (hcontinues : ¬ construct.Continues line)
    (hends : ¬ construct.Ends line) :
    ∃ finding ∈ (scanLine math state offset line).1, finding.problem.isUnclosed = true := by
  obtain ⟨fence, rfl, hline⟩ := Construct.eq_fence_of_broken hcontinues hends
  obtain ⟨finding, hmem, hproblem⟩ := exists_reported_of_cut math offset hstate hline
  exact ⟨finding, hmem, by rw [hproblem]; rfl⟩

/-- A line that opens a construct has no findings, and the construct is open behind it. -/
theorem openLine_of_opens (offset : Nat) (hopens : Opens math line construct) :
    (openLine math offset line).1 = [] ∧
      (openLine math offset line).2.construct? = some construct := by
  rw [opens_iff] at hopens
  unfold openLine
  cases hkind : LineKind.of math line <;> rw [hkind] at hopens <;> cases hopens <;> exact ⟨rfl, rfl⟩

/-- A plain line reports nothing as unclosed and opens nothing. -/
theorem openLine_of_isPlain (offset : Nat) (hline : IsPlain math line) :
    (∀ finding ∈ (openLine math offset line).1, finding.problem.isUnclosed = false) ∧
      (openLine math offset line).2 = .none := by
  rw [isPlain_iff] at hline
  unfold openLine
  cases hkind : LineKind.of math line <;> rw [hkind] at hline <;> cases hline <;>
    simp [Problem.isUnclosed]

theorem scanLines_cons (math : Bool) (state : OpenConstruct) (offset : Nat) (line : List Char)
    (rest : List (List Char)) :
    scanLines math state offset (line :: rest) =
      ((scanLine math state offset line).1 ++
          (scanLines math (scanLine math state offset line).2 (offset + 1) rest).1,
        (scanLines math (scanLine math state offset line).2 (offset + 1) rest).2) := rfl

/-- The findings of a source are those of its lines and those at its end. -/
theorem findings_eq (math : Bool) (source : List Char) :
    findings math source =
      (scanLines math .none 0 (lines source)).1 ++ (scanLines math .none 0 (lines source)).2.atEnd :=
  rfl

/-- Nothing unclosed has been found, and nothing is open at the end. -/
def IsClean (result : List Finding × OpenConstruct) : Prop :=
  (∀ finding ∈ result.1, finding.problem.isUnclosed = false) ∧ result.2 = .none

theorem isClean_scanLines_cons :
    IsClean (scanLines math state offset (line :: rest)) ↔
      (∀ finding ∈ (scanLine math state offset line).1, finding.problem.isUnclosed = false) ∧
        IsClean (scanLines math (scanLine math state offset line).2 (offset + 1) rest) := by
  rw [scanLines_cons, IsClean, IsClean, List.forall_mem_append, and_assoc]

/-- A scan is clean when the lines close what is open and are balanced from there on. -/
theorem isClean_scanLines_iff (lines : List (List Char)) : ∀ state offset,
    IsClean (scanLines math state offset lines) ↔
      match state.construct? with
      | none => Balanced math lines
      | some construct => Closes math construct lines := by
  induction lines with
  | nil =>
    intro state offset
    cases state with
    | none => simp [scanLines, IsClean, OpenConstruct.construct?, Balanced.nil]
    | _ => simp [scanLines, IsClean, OpenConstruct.construct?, not_closes_nil]
  | cons line rest ih =>
    intro state offset
    rw [isClean_scanLines_cons, ih]
    cases hstate : state.construct? with
    | none =>
      obtain rfl := OpenConstruct.eq_none_of_construct? hstate
      by_cases hplain : IsPlain math line
      · obtain ⟨hfound, hnext⟩ := openLine_of_isPlain offset hplain
        simp only [scanLine, hnext, OpenConstruct.construct?, Balanced.cons_iff_of_isPlain hplain,
          and_iff_right_iff_imp]
        exact fun _ => hfound
      · obtain ⟨construct, hopens⟩ := Classical.not_forall_not.mp hplain
        obtain ⟨hfound, hnext⟩ := openLine_of_opens offset hopens
        simp [scanLine, hfound, hnext, Balanced.cons_iff_of_opens hopens]
    | some construct =>
      by_cases hcontinues : construct.Continues line
      · simp [scanLine_of_continues hstate hcontinues, hstate, closes_cons_iff_of_continues hcontinues]
      · by_cases hends : construct.Ends line
        · simp [scanLine_of_ends hstate hends, OpenConstruct.construct?, closes_cons_iff_of_ends hends]
        · obtain ⟨finding, hmem, hunclosed⟩ :=
            exists_unclosed_of_broken math offset hstate hcontinues hends
          refine ⟨fun h => ?_, fun h => absurd h (not_closes_cons hcontinues hends)⟩
          rw [h.1 finding hmem] at hunclosed
          cases hunclosed

/-- The diagnostic of a finding when the first line has this number. -/
def Diagnostic.numbered (start : Int) (finding : Finding) : Diagnostic :=
  { severity := finding.problem.severity.name
    line := .int (start + finding.offset)
    message := finding.problem.message }

/-- Numbering lines from an integer never fails. -/
theorem lint_int (source : String) (start : Int) (math : Bool) :
    lint source (.int start) math =
      .ok ((findings math source.toList).map (Diagnostic.numbered start)) := by
  have hfinding : Diagnostic.ofFinding (.int start) = fun finding =>
      (.ok (Diagnostic.numbered start finding) : Except Fault Diagnostic) := by
    funext finding
    rw [Diagnostic.ofFinding, Datum.plus_int]
    rfl
  unfold lint
  dsimp only
  split
  · rename_i hempty
    rw [List.isEmpty_iff.mp hempty]
    rfl
  · rw [Datum.plus_int, hfinding]
    exact List.mapM_pure

/-- The diagnostic says that a fence, a comment or display math is not closed. -/
def Diagnostic.ReportsUnclosed (diagnostic : Diagnostic) : Prop :=
  ∃ problem : Problem, problem.isUnclosed = true ∧ diagnostic.message = problem.message

/-- Messages about attribute lists start with another letter than all the others. -/
theorem Problem.head?_message (problem : Problem) :
    problem.message.toList.head? = some 'I' ↔ problem.isUnclosed = false := by
  cases problem with
  | unclosedFence opened =>
    have hmessage : (unclosedFence opened).message =
        "Fenced Code Block opened with " ++ opened.spell ++ " not closed at end of input" := rfl
    simp [hmessage, isUnclosed]
  | illegalAttributes words =>
    have hmessage : (illegalAttributes words).message =
        "Illegal attributes " ++ quotedList words ++ " ignored in IAL" := rfl
    simp [hmessage, isUnclosed]
  | unclosedComment =>
    have hfirst : unclosedComment.message.toList.head? = some 'F' := rfl
    simp [hfirst, isUnclosed]
  | unclosedMath =>
    have hfirst : unclosedMath.message.toList.head? = some 'D' := rfl
    simp [hfirst, isUnclosed]

/-- A diagnostic reports something unclosed just if its finding does. -/
theorem not_reportsUnclosed_numbered (start : Int) (finding : Finding) :
    ¬ (Diagnostic.numbered start finding).ReportsUnclosed ↔ finding.problem.isUnclosed = false := by
  constructor
  · intro hreports
    rw [← Bool.not_eq_true]
    exact fun hunclosed => hreports ⟨finding.problem, hunclosed, rfl⟩
  · rintro hclosed ⟨problem, hunclosed, hmessage⟩
    rw [← Problem.head?_message, show finding.problem.message = problem.message from hmessage,
      Problem.head?_message] at hclosed
    rw [hclosed] at hunclosed
    cases hunclosed

/-- What is open at the end is reported. -/
theorem forall_findings_iff (math : Bool) (source : List Char) :
    (∀ finding ∈ findings math source, finding.problem.isUnclosed = false) ↔
      IsClean (scanLines math .none 0 (lines source)) := by
  rw [findings, IsClean, List.forall_mem_append]
  refine and_congr_right fun _ => ?_
  cases (scanLines math .none 0 (lines source)).2 <;> simp [OpenConstruct.atEnd, Problem.isUnclosed]

/-- The diagnostics of a source are free of unclosed constructs exactly when its lines are balanced. -/
theorem lint_balanced_iff (source : String) (start : Int) (math : Bool) :
    ∃ diagnostics, lint source (.int start) math = .ok diagnostics ∧
      ((∀ diagnostic ∈ diagnostics, ¬ diagnostic.ReportsUnclosed) ↔
        Balanced math (lines source.toList)) := by
  refine ⟨_, lint_int source start math, ?_⟩
  simp only [List.forall_mem_map, not_reportsUnclosed_numbered, forall_findings_iff]
  exact isClean_scanLines_iff (lines source.toList) .none 0

end MarkTree.Source
