import MarkTree.Text.Line

namespace MarkTree.Text

/-- A character that is no line break belongs to the first line. -/
theorem lines_cons_of_not_lineBreak {c : Char} (hc : isLineBreak c = false) (rest : List Char) :
    lines (c :: rest) = consHead c (lines rest) := by
  rw [lines]
  · simp [hc]
  · rintro rest' rfl -
    cases hc

/-- A text without line breaks in front of a line feed is a line. -/
theorem lines_append_lineFeed {line : List Char} (hline : ∀ c ∈ line, isLineBreak c = false)
    (rest : List Char) : lines (line ++ '\n' :: rest) = line :: lines rest := by
  induction line with
  | nil => rfl
  | cons c line ih =>
    obtain ⟨hc, hline⟩ := List.forall_mem_cons.mp hline
    rw [List.cons_append, lines_cons_of_not_lineBreak hc, ih hline]
    rfl

/-- A text without line breaks is a line, unless it is empty. -/
theorem lines_of_no_lineBreak {line : List Char} (hline : ∀ c ∈ line, isLineBreak c = false) :
    lines line = if line = [] then [] else [line] := by
  induction line with
  | nil => rfl
  | cons c line ih =>
    obtain ⟨hc, hline⟩ := List.forall_mem_cons.mp hline
    rw [lines_cons_of_not_lineBreak hc, ih hline]
    cases line <;> rfl

/-- The lines of texts joined by line feeds are the texts, but an empty one at the end is no line. -/
theorem lines_intercalate {front : List (List Char)} {last : List Char}
    (hfront : ∀ line ∈ front, ∀ c ∈ line, isLineBreak c = false)
    (hlast : ∀ c ∈ last, isLineBreak c = false) :
    lines (['\n'].intercalate (front ++ [last])) = front ++ if last = [] then [] else [last] := by
  induction front with
  | nil => simpa using lines_of_no_lineBreak hlast
  | cons line front ih =>
    obtain ⟨hline, hfront⟩ := List.forall_mem_cons.mp hfront
    rw [List.cons_append, List.intercalate_cons_of_ne_nil (by simp), List.append_assoc,
      List.singleton_append, lines_append_lineFeed hline, ih hfront, List.cons_append]

/-- A line break at the front ends an empty line, unless it is the first half of a pair. -/
theorem lines_cons_of_lineBreak {c : Char} {rest : List Char} (hc : isLineBreak c = true)
    (hpair : c = '\r' → rest.head? ≠ some '\n') : lines (c :: rest) = [] :: lines rest := by
  rw [lines]
  · rw [if_pos hc]
  · rintro rest' rfl rfl
    exact hpair rfl rfl

theorem lines_ne_nil {text : List Char} (hne : text ≠ []) : lines text ≠ [] := by
  fun_cases lines text with
  | case1 => exact absurd rfl hne
  | case2 | case3 => apply List.cons_ne_nil
  | case4 c rest => cases hrest : lines rest <;> apply List.cons_ne_nil

/-- A text that ends in a line feed keeps its lines when another text is put behind it, and so does the
    other text. -/
theorem lines_append {front : List Char} (hend : front.getLast? = some '\n') (back : List Char) :
    lines (front ++ back) = lines front ++ lines back := by
  have htail {c d : Char} {rest : List Char} (h : (c :: d :: rest).getLast? = some '\n') :
      (d :: rest).getLast? = some '\n' := by
    rwa [List.getLast?_cons_cons] at h
  fun_induction lines front with
  | case1 => cases hend
  | case2 rest ih =>
    rw [List.cons_append, List.cons_append, lines]
    cases rest with
    | nil => rfl
    | cons c rest => rw [ih (htail (htail hend)), List.cons_append]
  | case3 c rest hpair hbreak ih =>
    cases rest with
    | nil =>
      obtain rfl : c = '\n' := by simpa using hend
      rw [List.singleton_append, lines_cons_of_lineBreak hbreak nofun, lines_nil, List.singleton_append]
    | cons d rest =>
      have hpair' : c = '\r' → (d :: rest ++ back).head? ≠ some '\n' := by
        intro hc hd
        obtain rfl : d = '\n' := by simpa using hd
        exact hpair rest hc rfl
      rw [List.cons_append, lines_cons_of_lineBreak hbreak hpair', ih (htail hend), List.cons_append]
  | case4 c rest hpair hbreak ih =>
    rw [Bool.not_eq_true] at hbreak
    cases rest with
    | nil =>
      obtain rfl : c = '\n' := by simpa using hend
      cases hbreak
    | cons d rest =>
      -- The front has a line of its own, so the character goes into that one.
      have hne : lines (d :: rest) ≠ [] := lines_ne_nil (List.cons_ne_nil d rest)
      rw [List.cons_append, lines_cons_of_not_lineBreak hbreak, ih (htail hend), consHead_append hne]

/-- Every piece stands somewhere in the text, and the first one at its start. -/
structure AreCutFrom (pieces : List (List Char)) (text : List Char) : Prop where
  first : ∀ piece ∈ pieces.head?, piece <+: text
  each : ∀ piece ∈ pieces, piece <:+: text

/-- Pieces that are cut from the end of a text, with an empty one in front. -/
theorem AreCutFrom.nil_cons {pieces : List (List Char)} {rest text : List Char}
    (hpieces : AreCutFrom pieces rest) (hrest : rest <:+ text) : AreCutFrom ([] :: pieces) text where
  first := by simp
  each := List.forall_mem_cons.mpr
    ⟨List.nil_infix, fun piece hmem => (hpieces.each piece hmem).trans hrest.isInfix⟩

/-- The first piece takes the character in front of it. -/
theorem AreCutFrom.consHead {pieces : List (List Char)} {rest : List Char}
    (hpieces : AreCutFrom pieces rest) (c : Char) : AreCutFrom (consHead c pieces) (c :: rest) := by
  cases pieces with
  | nil =>
    have hfirst : [c] <+: c :: rest := ⟨rest, rfl⟩
    exact ⟨by simp [Text.consHead], by simpa [Text.consHead] using hfirst.isInfix⟩
  | cons piece pieces =>
    have hfirst : c :: piece <+: c :: rest :=
      List.cons_prefix_cons.mpr ⟨rfl, hpieces.first piece rfl⟩
    refine ⟨by simpa [Text.consHead] using hfirst, List.forall_mem_cons.mpr ⟨hfirst.isInfix, ?_⟩⟩
    exact fun other hmem => List.infix_cons (hpieces.each other (List.mem_cons_of_mem _ hmem))

/-- The lines of a text are cut from it in order. -/
theorem areCutFrom_lines (text : List Char) : AreCutFrom (lines text) text := by
  fun_induction lines text with
  | case1 => exact ⟨by simp, by simp⟩
  | case2 rest ih => exact ih.nil_cons ((List.suffix_cons _ _).trans (List.suffix_cons _ _))
  | case3 c rest _ _ ih => exact ih.nil_cons (List.suffix_cons _ _)
  | case4 c rest _ _ ih => exact ih.consHead c

end MarkTree.Text
