import MarkTree.Text.Search

namespace MarkTree.Text

section Run

variable {α : Type} {p : α → Bool} {run rest : List α}

/-- A run goes on as long as the test passes. -/
theorem takeWhile_append_of_run (hrun : ∀ c ∈ run, p c = true) (hrest : ∀ c ∈ rest.head?, p c = false) :
    (run ++ rest).takeWhile p = run := by
  rw [List.takeWhile_append_of_pos hrun]
  cases rest with
  | nil => simp
  | cons c rest => simp [hrest c rfl]

/-- Dropping a run stops where the run ends. -/
theorem dropWhile_append_of_run (hrun : ∀ c ∈ run, p c = true) (hrest : ∀ c ∈ rest.head?, p c = false) :
    (run ++ rest).dropWhile p = rest := by
  rw [List.dropWhile_append_of_pos hrun]
  cases rest with
  | nil => rfl
  | cons c rest => simp [hrest c rfl]

theorem of_mem_takeWhile {text : List α} {c : α} (hmem : c ∈ text.takeWhile p) : p c = true :=
  List.all_eq_true.mp List.all_takeWhile c hmem

/-- Behind a run the test fails. -/
theorem of_mem_head?_dropWhile {text : List α} {c : α} (hmem : c ∈ (text.dropWhile p).head?) :
    p c = false := by
  have hnot := List.head?_dropWhile_not p text
  rw [Option.mem_def.mp hmem] at hnot
  simpa using hnot

/-- A text parts into a run of characters that pass and the rest behind it in one way. -/
theorem takeWhile_dropWhile_eq_iff {text : List α} :
    (text.takeWhile p = run ∧ text.dropWhile p = rest) ↔
      text = run ++ rest ∧ (∀ c ∈ run, p c = true) ∧ ∀ c ∈ rest.head?, p c = false := by
  constructor
  · rintro ⟨rfl, rfl⟩
    exact ⟨List.takeWhile_append_dropWhile.symm, fun c hmem => of_mem_takeWhile hmem,
      fun c hmem => of_mem_head?_dropWhile hmem⟩
  · rintro ⟨rfl, hrun, hrest⟩
    exact ⟨takeWhile_append_of_run hrun hrest, dropWhile_append_of_run hrun hrest⟩

end Run

/-- A run of one character at the start of a text. -/
theorem replicate_append_dropWhile (c : Char) (text : List Char) :
    List.replicate (text.takeWhile (· == c)).length c ++ text.dropWhile (· == c) = text := by
  have hrun : text.takeWhile (· == c) = List.replicate (text.takeWhile (· == c)).length c :=
    List.eq_replicate_iff.mpr ⟨rfl, fun d hmem => by simpa using of_mem_takeWhile hmem⟩
  rw [← hrun, List.takeWhile_append_dropWhile]

/-- The text is split around the first occurrence of `needle` in it. -/
structure IsFirstCut (needle text before after : List Char) : Prop where
  eq : text = before ++ needle ++ after
  first : ∀ front back, text = front ++ needle ++ back → before.length ≤ front.length

/-- A text has one first occurrence at most. -/
theorem IsFirstCut.unique {needle text before after before' after' : List Char}
    (h : IsFirstCut needle text before after) (h' : IsFirstCut needle text before' after') :
    before = before' ∧ after = after' := by
  have hlength := Nat.le_antisymm (h.first _ _ h'.eq) (h'.first _ _ h.eq)
  have heq : before ++ (needle ++ after) = before' ++ (needle ++ after') := by
    rw [← List.append_assoc, ← List.append_assoc, ← h.eq, h'.eq]
  obtain ⟨hbefore, hbehind⟩ := List.append_inj heq hlength
  exact ⟨hbefore, List.append_cancel_left hbehind⟩

theorem exists_cut_of_append (needle front back : List Char) :
    ∃ before after, cut needle (front ++ needle ++ back) = some (before, after) ∧
      before.length ≤ front.length := by
  induction front with
  | nil =>
    refine ⟨[], back, ?_, Nat.le_refl 0⟩
    cases needle with
    | nil => cases back <;> simp [cut]
    | cons c needle => simp [cut]
  | cons c front ih =>
    obtain ⟨before, after, hcut, hle⟩ := ih
    simp only [List.cons_append, cut]
    split
    · exact ⟨[], _, rfl, Nat.zero_le _⟩
    · exact ⟨c :: before, after, by rw [hcut]; rfl, Nat.succ_le_succ hle⟩

/-- Cutting finds the first occurrence. -/
theorem cut_eq_some_iff {needle text before after : List Char} :
    cut needle text = some (before, after) ↔ IsFirstCut needle text before after := by
  have hfound {before after : List Char} (hcut : cut needle text = some (before, after)) :
      IsFirstCut needle text before after := by
    refine ⟨eq_of_cut hcut, fun front back heq => ?_⟩
    obtain ⟨_, _, hcut', hle⟩ := exists_cut_of_append needle front back
    rw [← heq, hcut] at hcut'
    cases hcut'
    exact hle
  constructor
  · exact hfound
  · intro h
    obtain ⟨before', after', hcut, -⟩ := exists_cut_of_append needle before after
    rw [← h.eq] at hcut
    obtain ⟨rfl, rfl⟩ := h.unique (hfound hcut)
    exact hcut

/-- A text contains another one when that one stands somewhere inside it. -/
theorem contains_iff {needle text : List Char} : contains needle text = true ↔ needle <:+: text := by
  rw [contains, Option.isSome_iff_exists]
  constructor
  · rintro ⟨⟨before, after⟩, hcut⟩
    exact ⟨before, after, (eq_of_cut hcut).symm⟩
  · rintro ⟨front, back, rfl⟩
    obtain ⟨before, after, hcut, -⟩ := exists_cut_of_append needle front back
    exact ⟨(before, after), hcut⟩

/-- A text whose first character is not in the front of another one stands in it behind the front. -/
theorem infix_of_not_mem {c : Char} {text front back : List Char} (hc : c ∉ front)
    (hinside : c :: text <:+: front ++ back) : c :: text <:+: back := by
  induction front with
  | nil => exact hinside
  | cons d front ih =>
    rcases List.infix_cons_iff.mp hinside with hstarts | hinside
    · exact absurd (List.cons_prefix_cons.mp hstarts).1 (List.ne_of_not_mem_cons hc)
    · exact ih (List.not_mem_of_not_mem_cons hc) hinside

theorem startsWith_iff {start text : List Char} : startsWith start text = true ↔ start <+: text :=
  List.isPrefixOf_iff_prefix

theorem endsWith_iff {ending text : List Char} : endsWith ending text = true ↔ ending <:+ text :=
  List.isSuffixOf_iff_suffix

end MarkTree.Text
