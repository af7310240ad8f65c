import MarkTree.Number.Reading
import MarkTree.Packages.Requirement
import MarkTree.Packages.Specifier

namespace MarkTree.Packages

/-- The length of the longest row of digits in a text. -/
def longestNumber (text : String) : Nat :=
  let count := fun (row, longest) (c : Char) =>
    let row := if c.isDigit then row + 1 else 0
    (row, max longest row)
  (text.toList.foldl count (0, 0)).2

/-- A recorded version, read. It may be no version, or have a number with more digits than are read. -/
def readRecorded (text : String) : Except Breakdown Version :=
  match Version.read? text with
  | none => .error { kindName := "InvalidVersion" }
  | some version =>
    if Number.maxDigits < longestNumber text then .error { kindName := "ValueError" } else .ok version

/-- The environment of a program that runs on its own: these modules can be imported, these packages are
    recorded with these versions, and versions are compared here. Pre-releases count as other versions
    do. -/
def Environment.ofRegister (modules : List String) (installed : List (String × String)) :
    Environment where
  importing module :=
    if modules.contains module then .found else .absent ("No module named " ++ Text.quoted module)
  recorded package := .ok (installed.lookup package)
  understands specifier := .ok (readSpecifier? specifier).isSome
  admits specifier text := do
    let version ← readRecorded text
    return (readSpecifier? specifier).any (satisfies · version)

end MarkTree.Packages
