namespace MarkTree.Text

/-- A code point lies in one of the ranges, ends included. A property of the Unicode Character Database
    (version 14.0) is a table of such ranges for the characters above ASCII; what holds below U+0080 is
    said in words where the table is used, so that ASCII text never searches one. The ranges ascend, so
    the search stops at the first one that begins above the code point. -/
def inRanges (point : Nat) : List (Nat × Nat) → Bool
  | [] => false
  | (low, high) :: rest => if point < low then false else point ≤ high || inRanges point rest

end MarkTree.Text
