import MarkTree.Source.CodeSpan
import MarkTree.Source.TrailingList
import MarkTree.Text.Digit
import MarkTree.Text.Search

namespace MarkTree.Source

open MarkTree.Text

/-- Takes blockquote markers off the front of a line: up to three spaces, the mark, and one more space
    if there is one. `start` is what is left after the last marker, and `spaces` counts the spaces
    since. -/
def dropMarkers (start : List Char) : (spaces : Nat) → List Char → List Char
  | _, '>' :: ' ' :: rest => dropMarkers rest 0 rest
  | _, '>' :: rest => dropMarkers rest 0 rest
  | spaces, ' ' :: rest => if spaces < 3 then dropMarkers start (spaces + 1) rest else start
  | _, _ => start

/-- A line without its leading blockquote markers. -/
def body (line : List Char) : List Char :=
  dropMarkers line 0 line

/-- At most three spaces, then the rest of the text, which starts with none. -/
def dropIndent? (text : List Char) : Option (List Char) :=
  if (text.takeWhile (· == ' ')).length ≤ 3 then some (text.dropWhile (· == ' ')) else none

/-- The line begins with a blockquote marker. -/
def isQuoted (line : List Char) : Bool :=
  match dropIndent? line with
  | some ('>' :: _) => true
  | _ => false

/-- A run of at least three backticks or tildes. -/
structure Fence where
  mark : Char
  width : Nat
deriving DecidableEq, Repr

namespace Fence

def spell (fence : Fence) : String :=
  String.ofList (List.replicate fence.width fence.mark)

/-- The fence at the start of a text behind at most three spaces, and the text behind the fence. -/
def start? (text : List Char) : Option (Fence × List Char) :=
  match dropIndent? text with
  | some (mark :: rest) =>
    let width := (rest.takeWhile (· == mark)).length + 1
    if (mark == backtick || mark == '~') && 3 ≤ width then
      some ({ mark, width }, rest.dropWhile (· == mark))
    else none
  | _ => none

/-- The text closes the fence: a fence of the same mark, at least as long, and nothing but blanks. -/
def closedBy (fence : Fence) (text : List Char) : Bool :=
  match start? text with
  | some (closing, rest) =>
    closing.mark == fence.mark && fence.width ≤ closing.width && allBlank rest
  | none => false

end Fence

/-- The text behind a list marker: at most three spaces, then a bullet or one to nine digits with a
    point or parenthesis. -/
def behindMarker? (text : List Char) : Option (List Char) :=
  match dropIndent? text with
  | some (c :: rest) =>
    if c == '-' || c == '+' || c == '*' then some rest
    else
      let digits := (c :: rest).takeWhile isDigit
      match (c :: rest).dropWhile isDigit with
      | stop :: tail =>
        if (stop == '.' || stop == ')') && 1 ≤ digits.length && digits.length ≤ 9 then some tail
        else none
      | [] => none
  | _ => none

/-- A text without the list marker in front of it and the spaces behind the marker, of which there has
    to be one. -/
def dropListMarker (text : List Char) : List Char :=
  match behindMarker? text with
  | some (' ' :: rest) => rest.dropWhile (· == ' ')
  | _ => text

/-- The fence that a body opens, on its own or behind a list marker. The info string of a fence of
    backticks holds no backtick. -/
def openedFence? (body : List Char) : Option Fence :=
  match (Fence.start? body).or (Fence.start? (dropListMarker body)) with
  | some (fence, info) =>
    if fence.mark == backtick && info.contains backtick then none else some fence
  | none => none

/-- Four spaces or a tab in front. -/
def isIndentedCode (body : List Char) : Bool :=
  startsWith [' ', ' ', ' ', ' '] body || startsWith ['\t'] body

def commentOpener : List Char := ['<', '!', '-', '-']

def commentCloser : List Char := ['-', '-', '>']

def mathDelimiter : List Char := ['$', '$']

/-- The first comment of a text is not closed in it. -/
def opensComment (visible : List Char) : Bool :=
  match cut commentOpener visible with
  | some (_, behind) => !contains commentCloser behind
  | none => false

/-- A text that starts with the math delimiter. -/
def startsMath (text : List Char) : Bool :=
  startsWith mathDelimiter (strip text)

/-- A text that starts with the math delimiter is math on one line if it also ends with it. -/
def closesMath (text : List Char) : Bool :=
  4 < (strip text).length && endsWith mathDelimiter (strip text)

/-- The body of the attribute list at the end of a heading. -/
def headingList? (body : List Char) : Option (List Char) :=
  match dropIndent? body with
  | some text =>
    let marks := (text.takeWhile (· == '#')).length
    match text.dropWhile (· == '#') with
    | blank :: title =>
      if 1 ≤ marks && marks ≤ 6 && isBlank blank then (trailingList? title).map Prod.snd else none
    | [] => none
  | none => none

/-- What a line outside every open construct starts. -/
inductive LineKind where
  /-- The start of a fenced code block, with the line quoted or not. -/
  | fence (fence : Fence) (quoted : Bool)
  | comment
  | math
  /-- A heading with words in its attribute list that cannot be understood. -/
  | badList (illegal : List String)
  | plain
deriving DecidableEq, Repr

/-- What a line starts, behind its blockquote markers. It may open a fence, also behind one list marker;
    otherwise, unless it is indented code, a comment or display math; otherwise it may be a heading with
    an attribute list. Display math is looked for only if `math` says so. -/
def LineKind.of (math : Bool) (line : List Char) : LineKind :=
  let body := body line
  match openedFence? body with
  | some opened => .fence opened (isQuoted line)
  | none =>
    if isIndentedCode body then .plain
    else
      let visible := withoutCodeSpans body
      if opensComment visible then .comment
      else if math && startsMath visible then if closesMath visible then .plain else .math
      else
        match headingList? body with
        | some list =>
          let illegal := (AttributeList.read list).illegal
          if illegal.isEmpty then .plain else .badList illegal
        | none => .plain

end MarkTree.Source
