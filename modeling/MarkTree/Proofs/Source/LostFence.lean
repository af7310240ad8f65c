import Mathlib.Data.List.Induction
import MarkTree.Proofs.Source.Concatenation

namespace MarkTree.Source

open MarkTree.Text

/-- The lines end inside the construct. It is opened behind balanced lines and goes on over all the others. -/
def EndsInside (math : Bool) (construct : Construct) (lines : List (List Char)) : Prop :=
  ∃ front opener inner, lines = front ++ opener :: inner ∧ Balanced math front ∧
    Opens math opener construct ∧ ∀ line ∈ inner, construct.Continues line

/-- A quotation ends around an open fence: the fence was opened on a quoted line, and the next line that
    does not belong to it is not quoted. -/
def CutsFence (math : Bool) (lines : List (List Char)) : Prop :=
  ∃ front line rest fence, lines = front ++ line :: rest ∧
    EndsInside math (.fence fence true) front ∧ isQuoted line = false

/-- A fence is lost in the lines. Those in front of the first fence that is lost are balanced. -/
def LosesFence (math : Bool) (lines : List (List Char)) : Prop :=
  CutsFence math lines ∨ ∃ fence quoted, EndsInside math (.fence fence quoted) lines

/-- What is open behind lines in which no fence has been cut off. -/
def LeavesOpen (math : Bool) (lines : List (List Char)) : Option Construct → Prop
  | none => Balanced math lines
  | some construct => EndsInside math construct lines

variable {math : Bool} {construct : Construct} {state : OpenConstruct} {offset : Nat}
  {line : List Char} {front : List (List Char)}

/-- Two balanced sources are balanced one behind the other. -/
theorem Balanced.append {back : List (List Char)} (hfront : Balanced math front)
    (hback : Balanced math back) : Balanced math (front ++ back) := by
  induction hfront with
  | nil => exact hback
  | plain hline _ ih => exact .plain hline ih
  | closed hopens hinner hcloser _ ih =>
    rw [List.cons_append, List.append_assoc, List.cons_append]
    exact .closed hopens hinner hcloser ih

/-- A balanced source that goes on with a line that opens a construct ends inside it. -/
theorem Balanced.endsInside (hfront : Balanced math front) (hopens : Opens math line construct) :
    EndsInside math construct (front ++ [line]) :=
  ⟨front, line, [], rfl, hfront, hopens, nofun⟩

/-- A line that continues the construct stays inside it. -/
theorem EndsInside.continue (hinside : EndsInside math construct front)
    (hline : construct.Continues line) : EndsInside math construct (front ++ [line]) := by
  obtain ⟨before, opener, inner, rfl, hbefore, hopens, hinner⟩ := hinside
  refine ⟨before, opener, inner ++ [line], by simp, hbefore, hopens, ?_⟩
  exact List.forall_mem_append.mpr ⟨hinner, List.forall_mem_singleton.mpr hline⟩

/-- A line that ends the construct makes the source balanced. -/
theorem EndsInside.close (hinside : EndsInside math construct front)
    (hline : construct.Ends line) : Balanced math (front ++ [line]) := by
  obtain ⟨before, opener, inner, rfl, hbefore, hopens, hinner⟩ := hinside
  rw [List.append_assoc, List.cons_append]
  exact hbefore.append (.closed hopens hinner hline .nil)

/-- A fence that is cut off stays cut off, whatever follows. -/
theorem CutsFence.append (hcut : CutsFence math front) (back : List (List Char)) :
    CutsFence math (front ++ back) := by
  obtain ⟨before, next, rest, fence, rfl, hinside, hnext⟩ := hcut
  exact ⟨before, next, rest ++ back, fence, by simp, hinside, hnext⟩

/-- Every error is about something unclosed. -/
theorem Problem.isUnclosed_of_error {problem : Problem} (herror : problem.severity = .error) :
    problem.isUnclosed = true := by
  cases problem with
  | unclosedFence => rfl
  | _ => cases herror

/-- A line behind others that leave something open is read without an error and leaves open what the
    longer lines do, unless a quotation ends at it. -/
theorem leavesOpen_scanLine (offset : Nat) (line : List Char)
    (hopen : LeavesOpen math front state.construct?) :
    CutsFence math (front ++ [line]) ∨
      (∀ finding ∈ (scanLine math state offset line).1, finding.problem.severity ≠ .error) ∧
        LeavesOpen math (front ++ [line]) (scanLine math state offset line).2.construct? := by
  cases hstate : state.construct? with
  | none =>
    rw [hstate] at hopen
    obtain rfl := OpenConstruct.eq_none_of_construct? hstate
    right
    by_cases hplain : IsPlain math line
    · obtain ⟨hfound, hnext⟩ := openLine_of_isPlain offset hplain
      refine ⟨fun finding hmem herror => ?_, ?_⟩
      · have hunclosed := Problem.isUnclosed_of_error herror
        rw [hfound finding hmem] at hunclosed
        cases hunclosed
      · rw [scanLine, hnext]
        exact hopen.append (.plain hplain .nil)
    · obtain ⟨construct, hopens⟩ := Classical.not_forall_not.mp hplain
      obtain ⟨hfound, hnext⟩ := openLine_of_opens offset hopens
      rw [scanLine, hfound, hnext]
      exact ⟨List.forall_mem_nil _, hopen.endsInside hopens⟩
  | some construct =>
    rw [hstate] at hopen
    by_cases hcontinues : construct.Continues line
    · right
      rw [scanLine_of_continues hstate hcontinues, hstate]
      exact ⟨List.forall_mem_nil _, hopen.continue hcontinues⟩
    · by_cases hends : construct.Ends line
      · right
        rw [scanLine_of_ends hstate hends]
        exact ⟨List.forall_mem_nil _, hopen.close hends⟩
      · left
        obtain ⟨fence, rfl, hline⟩ := Construct.eq_fence_of_broken hcontinues hends
        exact ⟨front, line, [], fence, rfl, hopen, hline⟩

/-- Where no quotation ends around a fence, the scan meets no error before the end of the lines, and what
    it leaves open is what they leave open. -/
theorem leavesOpen_scanLines (lines : List (List Char)) :
    CutsFence math lines ∨
      (∀ finding ∈ (scanLines math .none 0 lines).1, finding.problem.severity ≠ .error) ∧
        LeavesOpen math lines (scanLines math .none 0 lines).2.construct? := by
  -- What has been read decides what is open, so lines are added at the end.
  induction lines using List.reverseRecOn with
  | nil => exact .inr ⟨nofun, .nil⟩
  | append_singleton front line ih =>
    obtain hcut | ⟨hfront, hopen⟩ := ih
    · exact .inl (hcut.append [line])
    · obtain hcut | ⟨hline, hnext⟩ := leavesOpen_scanLine (0 + front.length) line hopen
      · exact .inl hcut
      · right
        rw [scanLines_append, scanLines_cons]
        simp only [scanLines, List.append_nil]
        exact ⟨List.forall_mem_append.mpr ⟨hfront, hline⟩, hnext⟩

/-- Lines that continue the open construct are passed over. -/
theorem scanLines_of_continues (inner : List (List Char)) (hstate : state.construct? = some construct)
    (hinner : ∀ line ∈ inner, construct.Continues line) : ∀ offset,
    scanLines math state offset inner = ([], state) := by
  induction inner with
  | nil => exact fun _ => rfl
  | cons line inner ih =>
    intro offset
    obtain ⟨hline, hinner⟩ := List.forall_mem_cons.mp hinner
    rw [scanLines_cons, scanLine_of_continues hstate hline, ih hinner]
    rfl

/-- A source that ends inside a construct is scanned up to there. -/
theorem EndsInside.construct?_scanLines {lines : List (List Char)}
    (hinside : EndsInside math construct lines) :
    (scanLines math .none 0 lines).2.construct? = some construct := by
  obtain ⟨front, opener, inner, rfl, hfront, hopens, hinner⟩ := hinside
  obtain ⟨-, hnone⟩ := (isClean_scanLines_iff front .none 0).mpr hfront
  obtain ⟨-, hnext⟩ := openLine_of_opens (0 + front.length) hopens
  rw [scanLines_append, hnone, scanLines_cons, scanLine, scanLines_of_continues inner hnext hinner]
  exact hnext

/-- The error about a fence that a quotation ends around is met at the line behind the quotation. -/
theorem CutsFence.exists_error {lines : List (List Char)} (hcut : CutsFence math lines) :
    ∃ finding ∈ (scanLines math .none 0 lines).1, finding.problem.severity = .error := by
  obtain ⟨front, line, rest, fence, rfl, hinside, hline⟩ := hcut
  obtain ⟨finding, hmem, hproblem⟩ :=
    exists_reported_of_cut math (0 + front.length) hinside.construct?_scanLines hline
  rw [scanLines_append, scanLines_cons]
  refine ⟨finding, List.mem_append_right _ (List.mem_append_left _ hmem), ?_⟩
  rw [hproblem]
  rfl

/-- The errors in a source are the fences that are lost in its lines. -/
theorem exists_error_iff (math : Bool) (source : List Char) :
    (∃ finding ∈ findings math source, finding.problem.severity = .error) ↔
      LosesFence math (lines source) := by
  rw [findings_eq]
  constructor
  · rintro ⟨finding, hmem, herror⟩
    obtain hcut | ⟨hfound, hopen⟩ := leavesOpen_scanLines (lines source)
    · exact .inl hcut
    · right
      obtain hscan | hend := List.mem_append.mp hmem
      · exact absurd herror (hfound finding hscan)
      · generalize (scanLines math .none 0 (lines source)).2 = last at hopen hend
        cases last with
        | none => cases hend
        | fence opened quoted since => exact ⟨opened, quoted, hopen⟩
        | comment | math =>
          obtain rfl := List.mem_singleton.mp hend
          cases herror
  · rintro (hcut | ⟨fence, quoted, hinside⟩)
    · obtain ⟨finding, hmem, herror⟩ := hcut.exists_error
      exact ⟨finding, List.mem_append_left _ hmem, herror⟩
    · have hstate := hinside.construct?_scanLines
      generalize (scanLines math .none 0 (lines source)).2 = last at hstate
      cases last with
      | fence opened quoted' since =>
        exact ⟨⟨.unclosedFence opened, since⟩, by simp [OpenConstruct.atEnd], rfl⟩
      | none | comment | math => cases hstate

/-- A source is in error exactly when a fence is lost in it. -/
theorem status_numbered (math : Bool) (start : Int) (source : List Char) :
    status ((findings math source).map (Diagnostic.numbered start)) = "error" ↔
      LosesFence math (lines source) := by
  have hname (severity : Severity) : severity.name = "error" ↔ severity = .error := by
    cases severity <;> decide
  have hstatus (errors : Bool) : (if errors then "error" else "ok") = "error" ↔ errors = true := by
    cases errors <;> decide
  rw [status, hstatus, ← exists_error_iff, List.any_map, List.any_eq_true]
  simp [Diagnostic.numbered, hname]

end MarkTree.Source
