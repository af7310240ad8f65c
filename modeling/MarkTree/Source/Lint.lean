import MarkTree.Datum.Sum
import MarkTree.Source.Line
import MarkTree.Text.Line
import MarkTree.Text.Quoted

namespace MarkTree.Source

open MarkTree.Text

/-- The construct that is open before a line, with the offset of the line that opened it. -/
inductive OpenConstruct where
  | none
  | fence (fence : Fence) (quoted : Bool) (since : Nat)
  | comment (since : Nat)
  | math (since : Nat)
deriving DecidableEq, Repr

/-- What is wrong with a source. -/
inductive Problem where
  | unclosedFence (fence : Fence)
  | unclosedComment
  | unclosedMath
  | illegalAttributes (words : List String)
deriving DecidableEq, Repr

inductive Severity where
  | error
  | warning
deriving DecidableEq, Repr

namespace Severity

def name : Severity → String
  | .error => "error"
  | .warning => "warning"

end Severity

namespace Problem

/-- An unclosed fence is an error, all else is a warning. -/
def severity : Problem → Severity
  | .unclosedFence _ => .error
  | _ => .warning

def message : Problem → String
  | .unclosedFence fence =>
    "Fenced Code Block opened with " ++ fence.spell ++ " not closed at end of input"
  | .unclosedComment => "Failed to find closing --> for HTML comment"
  | .unclosedMath => "Display math opened with $$ not closed at end of input"
  | .illegalAttributes words => "Illegal attributes " ++ quotedList words ++ " ignored in IAL"

end Problem

/-- A problem and the offset of the line it is about. -/
structure Finding where
  problem : Problem
  offset : Nat
deriving DecidableEq, Repr

/-- The findings and the open construct after a line that no open construct swallows. -/
def openLine (math : Bool) (offset : Nat) (line : List Char) : List Finding × OpenConstruct :=
  match LineKind.of math line with
  | .fence fence quoted => ([], .fence fence quoted offset)
  | .comment => ([], .comment offset)
  | .math => ([], .math offset)
  | .badList words => ([{ problem := .illegalAttributes words, offset }], .none)
  | .plain => ([], .none)

/-- One line. A quoted fence ends with the quotation, and the line after it is read afresh. -/
def scanLine (math : Bool) (state : OpenConstruct) (offset : Nat) (line : List Char) :
    List Finding × OpenConstruct :=
  match state with
  | .none => openLine math offset line
  | .fence fence quoted since =>
    if quoted && !isQuoted line then
      let (found, next) := openLine math offset line
      ({ problem := .unclosedFence fence, offset := since } :: found, next)
    else if fence.closedBy (if quoted then body line else line) then ([], .none)
    else ([], state)
  | .comment _ => if contains commentCloser (body line) then ([], .none) else ([], state)
  | .math _ => if startsMath (body line) then ([], .none) else ([], state)

/-- What is still open at the end of the source. -/
def OpenConstruct.atEnd : OpenConstruct → List Finding
  | .none => []
  | .fence opened _ since => [{ problem := .unclosedFence opened, offset := since }]
  | .comment since => [{ problem := .unclosedComment, offset := since }]
  | .math since => [{ problem := .unclosedMath, offset := since }]

/-- The findings in the lines from an offset on, and the construct open after them. Lines are counted from
    zero; a diagnostic gives the number that the caller's first line leads to. -/
def scanLines (math : Bool) : OpenConstruct → (offset : Nat) → List (List Char) →
    List Finding × OpenConstruct
  | state, _, [] => ([], state)
  | state, offset, line :: rest =>
    let (found, next) := scanLine math state offset line
    let (more, last) := scanLines math next (offset + 1) rest
    (found ++ more, last)

/-- All findings in a source, by offset of lines. -/
def findings (math : Bool) (source : List Char) : List Finding :=
  let (found, last) := scanLines math .none 0 (lines source)
  found ++ last.atEnd

/-- A message about a line of the source. -/
structure Diagnostic where
  severity : String
  line : Datum
  message : String
deriving DecidableEq

namespace Diagnostic

/-- The diagnostic of a finding, when the first line has the number `start`. -/
def ofFinding (start : Datum) (finding : Finding) : Except Fault Diagnostic := do
  let line ← start.plus (.int finding.offset)
  return { severity := finding.problem.severity.name, line, message := finding.problem.message }

end Diagnostic

/-- The diagnostics of a source whose first line has the number `start`. The number is used for every
    line, so a source with lines needs one that can be added to. -/
def lint (source : String) (start : Datum) (math : Bool) : Except Fault (List Diagnostic) :=
  let text := source.toList
  if text.isEmpty then .ok []
  else do
    let _ ← start.plus (.int 0)
    (findings math text).mapM (Diagnostic.ofFinding start)

/-- A source is in error if one of its diagnostics is an error. -/
def status (messages : List Diagnostic) : String :=
  if messages.any fun message => message.severity == "error" then "error" else "ok"

end MarkTree.Source
