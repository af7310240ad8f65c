namespace MarkTree.Text

/-- Spaces, line ends, the four information separators and the spaces of other scripts. Zero-width
    characters are not blank. -/
def isBlank (c : Char) : Bool :=
  let point := c.toNat
  (9 ≤ point && point ≤ 13) || (28 ≤ point && point ≤ 32) || point == 0x85 || point == 0xA0 ||
    point == 0x1680 || (0x2000 ≤ point && point ≤ 0x200A) || point == 0x2028 || point == 0x2029 ||
    point == 0x202F || point == 0x205F || point == 0x3000

/-- A text of blank characters alone, possibly empty. -/
def allBlank (text : List Char) : Bool :=
  text.all isBlank

def stripLeft (text : List Char) : List Char :=
  text.dropWhile isBlank

def stripRight (text : List Char) : List Char :=
  (text.reverse.dropWhile isBlank).reverse

/-- A text without the blanks at its two ends. -/
def strip (text : List Char) : List Char :=
  stripRight (stripLeft text)

/-- A text without the line feeds at its end. -/
def dropLineFeedsRight (text : List Char) : List Char :=
  (text.reverse.dropWhile (· == '\n')).reverse

/-- A text without the line feeds at its two ends. -/
def trimLineFeeds (text : List Char) : List Char :=
  dropLineFeedsRight (text.dropWhile (· == '\n'))

/-- A character put in front of the first piece, or as a piece of its own when there is none. -/
def consHead (c : Char) : List (List Char) → List (List Char)
  | [] => [[c]]
  | piece :: pieces => (c :: piece) :: pieces

def startsBlank : List Char → Bool
  | [] => false
  | c :: _ => isBlank c

/-- The words of a text, in order: its maximal runs of characters that are not blank. -/
def words : List Char → List (List Char)
  | [] => []
  | c :: rest =>
    if isBlank c then words rest
    else if startsBlank rest then [c] :: words rest
    else consHead c (words rest)

/-- The words of a text, as strings. -/
def wordsOf (text : String) : List String :=
  (words text.toList).map String.ofList

/-- A character that goes into the first of some pieces leaves what is behind them alone. -/
theorem consHead_append {pieces : List (List Char)} (hne : pieces ≠ []) (c : Char)
    (more : List (List Char)) : consHead c (pieces ++ more) = consHead c pieces ++ more := by
  cases pieces with
  | nil => exact absurd rfl hne
  | cons piece pieces => rfl

/-- A character that is put in front of the first piece stands at the front of the whole. -/
theorem flatten_consHead (c : Char) (pieces : List (List Char)) :
    (consHead c pieces).flatten = c :: pieces.flatten := by
  cases pieces <;> rfl

@[simp] theorem words_nil : words [] = [] := rfl

theorem words_cons_blank {c : Char} {rest : List Char} (hc : isBlank c = true) :
    words (c :: rest) = words rest := by
  simp [words, hc]

end MarkTree.Text
