namespace MarkTree.Source

def backtick : Char := '\x60'

/-- The text behind the first run of exactly `width` backticks. `count` backticks stand right before
    the text. -/
def afterRun? (width : Nat) : (count : Nat) → List Char → Option (List Char)
  | count, [] => if count == width then some [] else none
  | count, c :: rest =>
    if c == backtick then afterRun? width (count + 1) rest
    else if count == width then some (c :: rest)
    else afterRun? width 0 rest

/-- The text behind the code span that starts here. -/
def afterSpan? (text : List Char) : Option (List Char) :=
  let width := (text.takeWhile (· == backtick)).length
  if width == 0 then none else afterRun? width 0 (text.dropWhile (· == backtick))

theorem afterRun?_length {width count : Nat} {text rest : List Char}
    (h : afterRun? width count text = some rest) : rest.length ≤ text.length := by
  induction text generalizing count with
  | nil =>
    simp only [afterRun?] at h
    split at h
    · cases h; simp
    · cases h
  | cons c tail ih =>
    simp only [afterRun?] at h
    split at h
    · exact Nat.le_succ_of_le (ih h)
    · split at h
      · cases h; simp
      · exact Nat.le_succ_of_le (ih h)

/-- A span takes at least one character. -/
theorem afterSpan?_length {text rest : List Char} (h : afterSpan? text = some rest) :
    rest.length < text.length := by
  unfold afterSpan? at h
  dsimp only at h
  split at h
  · cases h
  · next hwidth =>
    have hrest := afterRun?_length h
    cases text with
    | nil => simp at hwidth
    | cons c tail =>
      by_cases hc : (c == backtick) = true
      · simp only [List.dropWhile_cons, hc, if_true] at hrest
        have := (List.dropWhile_suffix (· == backtick) (l := tail)).length_le
        simp only [List.length_cons]
        omega
      · simp [hc] at hwidth

/-- A text without its code spans. A span opens with a run of backticks and closes with the next run of
    the same length; where the whole run has no partner, its later backticks may still open a span. -/
def withoutCodeSpans (text : List Char) : List Char :=
  match _h : afterSpan? text with
  | some rest => withoutCodeSpans rest
  | none =>
    match text with
    | [] => []
    | c :: rest => c :: withoutCodeSpans rest
termination_by text.length
decreasing_by
  · exact afterSpan?_length _h
  · simp

end MarkTree.Source
