import MarkTree.Proofs.Source.Opener

namespace MarkTree.Source

open MarkTree.Text

/-- A line is quoted if a mark stands at its front, behind three spaces at most. -/
theorem isQuoted_iff {line : List Char} :
    isQuoted line = true ↔ ∃ n ≤ 3, ∃ rest, line = List.replicate n ' ' ++ '>' :: rest := by
  unfold isQuoted
  constructor
  · intro h
    split at h
    · rename_i rest hindent
      obtain ⟨n, hle, heq, -⟩ := dropIndent?_eq_some_iff.mp hindent
      exact ⟨n, hle, rest, heq⟩
    · cases h
  · rintro ⟨n, hle, rest, rfl⟩
    have hindent := dropIndent?_eq_some_iff.mpr
      ⟨n, hle, rfl, show ∀ c ∈ ('>' :: rest).head?, c ≠ ' ' by simp⟩
    simp only [hindent]

/-- More than three spaces are no quote marker, whatever is behind them. -/
theorem isQuoted_of_spaces {n : Nat} (hmany : 3 < n) (rest : List Char) :
    isQuoted (List.replicate n ' ' ++ rest) = false := by
  rw [isQuoted, dropIndent?_of_spaces hmany]

/-- Nor are spaces in front of anything else than a quote marker. -/
theorem isQuoted_of_stop {n : Nat} {rest : List Char} (hspace : ∀ c ∈ rest.head?, c ≠ ' ')
    (hmark : ∀ c ∈ rest.head?, c ≠ '>') : isQuoted (List.replicate n ' ' ++ rest) = false := by
  by_cases hle : n ≤ 3
  · rw [isQuoted, dropIndent?_eq_some_iff.mpr ⟨n, hle, rfl, hspace⟩]
    split
    · rename_i tail hindent
      cases hindent
      exact absurd rfl (hmark '>' rfl)
    · rfl
  · exact isQuoted_of_spaces (by omega) rest

/-- A line that starts with a list marker is not quoted. -/
theorem isQuoted_of_behindMarker? {line behind : List Char} (h : behindMarker? line = some behind) :
    isQuoted line = false := by
  have hdigit : isDigit '>' = false := by decide
  unfold isQuoted
  split
  · rename_i rest hindent
    simp [behindMarker?, hindent, hdigit] at h
  · rfl

/-- What is left of a line without its quote markers is not quoted. The spaces that have been passed over
    since the last marker stand in front of the rest of the text. -/
theorem isQuoted_dropMarkers (start : List Char) (spaces : Nat) (text : List Char) (hle : spaces ≤ 3)
    (hstart : start = List.replicate spaces ' ' ++ text) :
    isQuoted (dropMarkers start spaces text) = false := by
  fun_induction dropMarkers start spaces text with
  | case1 start spaces rest ih => exact ih (by omega) rfl
  | case2 start spaces rest hnot ih => exact ih (by omega) rfl
  | case3 start spaces rest hlt ih =>
    refine ih (by omega) ?_
    rw [hstart, List.replicate_succ', List.append_assoc, List.singleton_append]
  | case4 start spaces rest hge =>
    have hfour : List.replicate spaces ' ' ++ ' ' :: rest = List.replicate (spaces + 1) ' ' ++ rest := by
      rw [List.replicate_succ', List.append_assoc, List.singleton_append]
    rw [hstart, hfour]
    exact isQuoted_of_spaces (by omega) rest
  | case5 start spaces text hmarker hmark hspace =>
    rw [hstart]
    refine isQuoted_of_stop (fun c hmem => ?_) (fun c hmem => ?_)
    · rintro rfl
      obtain ⟨rest, rfl⟩ := List.head?_eq_some_iff.mp hmem
      exact hspace rest rfl
    · rintro rfl
      obtain ⟨rest, rfl⟩ := List.head?_eq_some_iff.mp hmem
      exact hmark rest rfl

/-- Nothing is taken off a line that is not quoted. -/
theorem dropMarkers_of_not_quoted (start : List Char) (spaces : Nat) (text : List Char)
    (hle : spaces ≤ 3) (hstart : start = List.replicate spaces ' ' ++ text)
    (hnot : isQuoted start = false) : dropMarkers start spaces text = start := by
  have hmark {start : List Char} {spaces : Nat} {rest : List Char} (hle : spaces ≤ 3)
      (hstart : start = List.replicate spaces ' ' ++ '>' :: rest) : isQuoted start = true :=
    isQuoted_iff.mpr ⟨spaces, hle, rest, hstart⟩
  fun_induction dropMarkers start spaces text with
  | case1 start spaces rest => exact absurd (hmark hle hstart) (Bool.eq_false_iff.mp hnot)
  | case2 start spaces rest => exact absurd (hmark hle hstart) (Bool.eq_false_iff.mp hnot)
  | case3 start spaces rest hlt ih =>
    refine ih (by omega) ?_ hnot
    rw [hstart, List.replicate_succ', List.append_assoc, List.singleton_append]
  | case4 | case5 => rfl

/-- A body is not quoted. -/
theorem isQuoted_body (line : List Char) : isQuoted (body line) = false :=
  isQuoted_dropMarkers line 0 line (Nat.zero_le 3) rfl

theorem body_of_not_quoted {line : List Char} (hline : isQuoted line = false) : body line = line :=
  dropMarkers_of_not_quoted line 0 line (Nat.zero_le 3) rfl hline

theorem body_body (line : List Char) : body (body line) = body line :=
  body_of_not_quoted (isQuoted_body line)

/-- One more quote marker in front of a line makes it quoted and leaves its body alone. -/
theorem isQuoted_quoted (line : List Char) : isQuoted ('>' :: ' ' :: line) = true :=
  isQuoted_iff.mpr ⟨0, Nat.zero_le 3, ' ' :: line, rfl⟩

/-- A mark and a space in front of a line do not change its body. -/
theorem body_quoted (line : List Char) : body ('>' :: ' ' :: line) = body line := by
  rw [body, dropMarkers, body]

/-- The rest of a line behind its quote markers is the end of the line. -/
theorem dropMarkers_suffix (start : List Char) (spaces : Nat) (text : List Char)
    (hsuffix : text <:+ start) : dropMarkers start spaces text <:+ start := by
  fun_induction dropMarkers start spaces text with
  | case1 start spaces rest ih =>
    exact (ih List.suffix_rfl).trans (((List.suffix_cons _ _).trans (List.suffix_cons _ _)).trans hsuffix)
  | case2 start spaces rest hnot ih =>
    exact (ih List.suffix_rfl).trans ((List.suffix_cons _ _).trans hsuffix)
  | case3 start spaces rest hlt ih => exact ih ((List.suffix_cons _ _).trans hsuffix)
  | case4 | case5 => exact List.suffix_rfl

/-- A body is the end of its line. -/
theorem body_suffix (line : List Char) : body line <:+ line :=
  dropMarkers_suffix line 0 line List.suffix_rfl

end MarkTree.Source
