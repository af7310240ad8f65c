import MarkTree.Text.Blank

namespace MarkTree.Text

/-- Line feed, vertical tab, form feed, carriage return, the three larger information separators,
    next line, line separator and paragraph separator. -/
def isLineBreak (c : Char) : Bool :=
  let point := c.toNat
  (10 ≤ point && point ≤ 13) || (28 ≤ point && point ≤ 30) || point == 0x85 || point == 0x2028 ||
    point == 0x2029

/-- The lines of a text, without their breaks. A carriage return and the line feed after it are one break,
    and a break at the very end opens no line. -/
def lines : List Char → List (List Char)
  | [] => []
  | '\r' :: '\n' :: rest => [] :: lines rest
  | c :: rest => if isLineBreak c then [] :: lines rest else consHead c (lines rest)

/-- Text read from a file has one kind of line end: every carriage return, with the line feed after
    it if there is one, is read as a line feed. -/
def unifyLineEnds : List Char → List Char
  | [] => []
  | '\r' :: '\n' :: rest => '\n' :: unifyLineEnds rest
  | '\r' :: rest => '\n' :: unifyLineEnds rest
  | c :: rest => c :: unifyLineEnds rest

@[simp] theorem lines_nil : lines [] = [] := rfl

end MarkTree.Text
