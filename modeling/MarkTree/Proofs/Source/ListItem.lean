import MarkTree.Proofs.Source.Body
import MarkTree.Proofs.Source.LostFence

namespace MarkTree.Source

open MarkTree.Text

/-- A list marker with the spaces around it: what stands in front of the text of a list item. -/
def IsItemStart (start : List Char) : Prop :=
  ∃ n ≤ 3, ∃ marker, IsListMarker marker ∧ ∃ k,
    start = List.replicate n ' ' ++ (marker ++ List.replicate (k + 1) ' ')

/-- So many spaces, then a fence and nothing else. -/
def fenceBehind (spaces : Nat) (fence : Fence) : List Char :=
  List.replicate spaces ' ' ++ List.replicate fence.width fence.mark

section Fence

variable {fence : Fence} (hmark : fence.mark = backtick ∨ fence.mark = '~') (hwidth : 3 ≤ fence.width)
include hmark hwidth

/-- A fence may stand behind three spaces at most. -/
theorem begins_fenceBehind {spaces : Nat} (hle : spaces ≤ 3) :
    fence.Begins (fenceBehind spaces fence) [] :=
  ⟨⟨spaces, hle, by rw [List.append_nil]; rfl⟩, hmark, hwidth, nofun⟩

/-- A fence closes itself behind three spaces at most. -/
theorem isCloser_fenceBehind_iff {spaces : Nat} : fence.IsCloser (fenceBehind spaces fence) ↔ spaces ≤ 3 := by
  constructor
  · rintro ⟨closing, blanks, hbegins, -⟩
    by_contra hwide
    have hstart := Fence.start?_eq_some_iff.mpr hbegins
    rw [Fence.start?, fenceBehind, dropIndent?_of_spaces (by omega)] at hstart
    cases hstart
  · intro hle
    exact ⟨fence, [], begins_fenceBehind hmark hwidth hle, rfl, Nat.le_refl _, List.forall_mem_nil _⟩

/-- Behind the start of a list item a fence is opened. -/
theorem opens_item {start : List Char} (hstart : IsItemStart start) (math : Bool) :
    Opens math (start ++ fenceBehind 0 fence) (.fence fence false) := by
  obtain ⟨n, hle, marker, hmarker, k, rfl⟩ := hstart
  have hbegins := begins_fenceBehind hmark hwidth (Nat.zero_le 3)
  have hspace : ∀ c ∈ (fenceBehind 0 fence).head?, c ≠ ' ' := by
    intro c hmem
    obtain rfl : c = fence.mark := by
      apply List.eq_of_mem_replicate
      exact List.mem_of_mem_head? hmem
    rcases hmark with hc | hc <;> rw [hc] <;> decide
  have hitem : IsListItem (List.replicate n ' ' ++ (marker ++ List.replicate (k + 1) ' ') ++
      fenceBehind 0 fence) (fenceBehind 0 fence) :=
    ⟨n, hle, marker, hmarker, k, by simp only [List.append_assoc], hspace⟩
  obtain ⟨behind, hbehind, -⟩ := isListItem_iff.mp hitem
  have hquoted := isQuoted_of_behindMarker? hbehind
  refine ⟨?_, hquoted⟩
  rw [OpensFence, body_of_not_quoted hquoted]
  exact .inr ⟨_, hitem, [], hbegins, nofun⟩

end Fence

/-- A line without the mark of a fence does not close it. -/
theorem Fence.not_isCloser_of_not_mem {fence : Fence} {line : List Char} (hline : fence.mark ∉ line) :
    ¬ fence.IsCloser line := by
  rintro ⟨closing, blanks, hbegins, hsame, -⟩
  obtain ⟨n, -, heq⟩ := hbegins.eq
  have hwidth := hbegins.width
  apply hline
  rw [heq, ← hsame]
  apply List.mem_append_right
  apply List.mem_append_left
  exact List.mem_replicate.mpr ⟨by omega, rfl⟩

theorem openLine_of_fence {math : Bool} {line : List Char} {fence : Fence} {quoted : Bool}
    (hopens : Opens math line (.fence fence quoted)) (offset : Nat) :
    openLine math offset line = ([], .fence fence quoted offset) := by
  rw [opens_iff] at hopens
  unfold openLine
  cases hkind : LineKind.of math line <;> rw [hkind] at hopens <;> cases hopens
  rfl

/-- Lines that open a fence, go on with it and may close it again have a finding if they do not. -/
theorem findings_fenced {math : Bool} {opener closer : List Char} {inside : List (List Char)}
    {fence : Fence} {source : List Char} (hlines : lines source = opener :: (inside ++ [closer]))
    (hopens : Opens math opener (.fence fence false)) (hinside : ∀ line ∈ inside, ¬ fence.IsCloser line) :
    (fence.IsCloser closer → findings math source = []) ∧
      (¬ fence.IsCloser closer → findings math source = [⟨.unclosedFence fence, 0⟩]) := by
  have hstate : (OpenConstruct.fence fence false 0).construct? = some (.fence fence false) := rfl
  have hbody : scanLines math (.fence fence false 0) (0 + 1) inside = ([], .fence fence false 0) :=
    scanLines_of_continues inside hstate hinside (0 + 1)
  rw [findings_eq, hlines, scanLines_cons, scanLine, openLine_of_fence hopens, scanLines_append, hbody,
    scanLines_cons]
  constructor
  · intro hcloser
    rw [scanLine_of_ends hstate hcloser]
    rfl
  · intro hcloser
    rw [scanLine_of_continues hstate hcloser]
    rfl

theorem isDigit_of_isLineBreak {c : Char} (hc : isLineBreak c = true) : isDigit c = false := by
  have hpoint : c.toNat ∈ [10, 11, 12, 13, 28, 29, 30, 0x85, 0x2028, 0x2029] := by
    simp only [isLineBreak, Bool.or_eq_true, Bool.and_eq_true, decide_eq_true_eq, beq_iff_eq] at hc
    simp only [List.mem_cons, List.not_mem_nil, or_false]
    omega
  have hall : ∀ point ∈ [10, 11, 12, 13, 28, 29, 30, 0x85, 0x2028, 0x2029],
      isDigit (Char.ofNat point) = false := by decide
  rw [← Char.ofNat_toNat c]
  exact hall c.toNat hpoint

theorem IsListMarker.isLineBreak_of_mem {marker : List Char} (hmarker : IsListMarker marker) :
    ∀ c ∈ marker, isLineBreak c = false := by
  cases hmarker with
  | bullet hmark =>
    rw [List.forall_mem_singleton]
    rcases hmark with rfl | rfl | rfl <;> decide
  | numbered hdigits _ _ hstop =>
    rw [List.forall_mem_append, List.forall_mem_singleton]
    constructor
    · intro c hmem
      rw [← Bool.not_eq_true]
      intro hbreak
      have hdigit := hdigits c hmem
      rw [isDigit_of_isLineBreak hbreak] at hdigit
      cases hdigit
    · rcases hstop with rfl | rfl <;> decide

theorem isLineBreak_of_mem_replicate {c d : Char} {n : Nat} (hd : isLineBreak d = false)
    (hmem : c ∈ List.replicate n d) : isLineBreak c = false :=
  List.eq_of_mem_replicate hmem ▸ hd

theorem IsItemStart.isLineBreak_of_mem {start : List Char} (hstart : IsItemStart start) :
    ∀ c ∈ start, isLineBreak c = false := by
  obtain ⟨n, -, marker, hmarker, k, rfl⟩ := hstart
  have hspace : isLineBreak ' ' = false := by decide
  rw [List.forall_mem_append, List.forall_mem_append]
  exact ⟨fun c => isLineBreak_of_mem_replicate hspace, hmarker.isLineBreak_of_mem,
    fun c => isLineBreak_of_mem_replicate hspace⟩

theorem isLineBreak_of_mem_fenceBehind {fence : Fence}
    (hmark : fence.mark = backtick ∨ fence.mark = '~') (spaces : Nat) :
    ∀ c ∈ fenceBehind spaces fence, isLineBreak c = false := by
  have hspace : isLineBreak ' ' = false := by decide
  have hfence : isLineBreak fence.mark = false := by
    rcases hmark with hc | hc <;> rw [hc] <;> decide
  rw [fenceBehind, List.forall_mem_append]
  exact ⟨fun c => isLineBreak_of_mem_replicate hspace, fun c => isLineBreak_of_mem_replicate hfence⟩

/-- A fence in a list item that is closed where the text of the item starts has no diagnostic if the
    marker and its spaces are at most three characters wide. Behind a wider marker it is reported as
    unclosed. -/
theorem lint_listItem {start : String} (hstart : IsItemStart start.toList) {fence : Fence}
    (hmark : fence.mark = backtick ∨ fence.mark = '~') (hwidth : 3 ≤ fence.width) {inside : List String}
    (hinside : ∀ text ∈ inside, ∀ c ∈ text.toList, isLineBreak c = false ∧ c ≠ backtick ∧ c ≠ '~')
    (first : Int) (math : Bool) :
    lint ("\n".intercalate ((start ++ fence.spell) ::
        (inside ++ [String.ofList (List.replicate start.length ' ') ++ fence.spell]))) (.int first) math =
      .ok (if start.length ≤ 3 then [] else [Diagnostic.numbered first ⟨.unclosedFence fence, 0⟩]) := by
  have hopener : (start ++ fence.spell).toList = start.toList ++ fenceBehind 0 fence := by
    simp [Fence.spell, fenceBehind]
  have hcloser : (String.ofList (List.replicate start.length ' ') ++ fence.spell).toList =
      fenceBehind start.length fence := by
    simp [Fence.spell, fenceBehind]
  have hlines : lines ("\n".intercalate ((start ++ fence.spell) ::
      (inside ++ [String.ofList (List.replicate start.length ' ') ++ fence.spell]))).toList =
        (start.toList ++ fenceBehind 0 fence) ::
          (inside.map String.toList ++ [fenceBehind start.length fence]) := by
    have hne : fenceBehind start.length fence ≠ [] := by
      have hmem : fence.mark ∈ fenceBehind start.length fence :=
        List.mem_append_right _ (List.mem_replicate.mpr ⟨by omega, rfl⟩)
      exact List.ne_nil_of_mem hmem
    have hfront : ∀ line ∈ (start.toList ++ fenceBehind 0 fence) :: inside.map String.toList,
        ∀ c ∈ line, isLineBreak c = false := by
      rw [List.forall_mem_cons, List.forall_mem_append, List.forall_mem_map]
      exact ⟨⟨hstart.isLineBreak_of_mem, isLineBreak_of_mem_fenceBehind hmark 0⟩,
        fun text hmem c hc => (hinside text hmem c hc).1⟩
    have hjoined := lines_intercalate hfront (isLineBreak_of_mem_fenceBehind hmark start.length)
    rw [if_neg hne, List.cons_append] at hjoined
    rw [String.toList_intercalate, List.map_cons, List.map_append, List.map_singleton, hopener, hcloser]
    exact hjoined
  have hbody : ∀ line ∈ inside.map String.toList, ¬ fence.IsCloser line := by
    rw [List.forall_mem_map]
    intro text hmem
    apply Fence.not_isCloser_of_not_mem
    intro hmarked
    obtain ⟨-, hbacktick, htilde⟩ := hinside text hmem _ hmarked
    rcases hmark with hc | hc
    · exact hbacktick hc
    · exact htilde hc
  obtain ⟨hclosed, hunclosed⟩ := findings_fenced hlines (opens_item hmark hwidth hstart math) hbody
  rw [isCloser_fenceBehind_iff hmark hwidth] at hclosed hunclosed
  rw [lint_int]
  by_cases hnarrow : start.length ≤ 3
  · rw [if_pos hnarrow, hclosed hnarrow]
    rfl
  · rw [if_neg hnarrow, hunclosed hnarrow]
    rfl

/-- The widest marker whose fence is seen to be closed. An empty line and a quote belong to the fence. -/
theorem lint_listItem_numbered :
    IsItemStart "1. ".toList ∧ lint "1. ~~~\n\n> x\n   ~~~" (.int 1) true = .ok [] := by
  have hdigits : ∀ c ∈ ['1'], isDigit c = true := List.forall_mem_singleton.mpr (by decide)
  have hmarker : IsListMarker (['1'] ++ ['.']) := .numbered hdigits (by decide) (by decide) (.inl rfl)
  have hstart : IsItemStart "1. ".toList := ⟨0, Nat.zero_le 3, _, hmarker, 0, by decide⟩
  have hinside : ∀ text ∈ ["", "> x"], ∀ c ∈ text.toList,
      isLineBreak c = false ∧ c ≠ backtick ∧ c ≠ '~' := by
    simp [isLineBreak, backtick]
  have hmark : (⟨'~', 3⟩ : Fence).mark = '~' := rfl
  exact ⟨hstart, lint_listItem hstart (.inr hmark) (Nat.le_refl 3) hinside 1 true⟩

/-- A number of two digits makes the marker too wide: the fence is closed where the text of the item starts,
    and it is reported. -/
theorem lint_wideListItem :
    IsItemStart "10. ".toList ∧
      lint "10. ```\nx\n    ```" (.int 1) true =
        .ok [Diagnostic.numbered 1 ⟨.unclosedFence ⟨backtick, 3⟩, 0⟩] := by
  have hdigits : ∀ c ∈ ['1', '0'], isDigit c = true := by
    rw [List.forall_mem_cons, List.forall_mem_singleton]
    decide
  have hmarker : IsListMarker (['1', '0'] ++ ['.']) := .numbered hdigits (by decide) (by decide) (.inl rfl)
  have hstart : IsItemStart "10. ".toList := ⟨0, Nat.zero_le 3, _, hmarker, 0, by decide⟩
  have hfindings : findings true "10. ```\nx\n    ```".toList = [⟨.unclosedFence ⟨backtick, 3⟩, 0⟩] := by
    decide
  rw [lint_int, hfindings]
  exact ⟨hstart, rfl⟩

end MarkTree.Source
