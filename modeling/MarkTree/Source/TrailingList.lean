import MarkTree.Source.AttributeList

namespace MarkTree.Source

open MarkTree.Text

def openBrace : Char := '\x7b'

def closeBrace : Char := '\x7d'

/-- The text up to the first closing brace, if nothing but blanks follows that brace. -/
def closedBody? (text : List Char) : Option (List Char) :=
  match text.dropWhile (· != closeBrace) with
  | [] => none
  | _ :: rest => if allBlank rest then some (text.takeWhile (· != closeBrace)) else none

/-- The attribute list at the end of a text: what is before its opening brace, and its body. It starts at
    a `{:` whose first closing brace has only blanks behind it; of several such starts the first one
    counts, so everything from there to the brace is the list. -/
def trailingList? : List Char → Option (List Char × List Char)
  | [] => none
  | c :: rest =>
    let here :=
      match rest with
      | ':' :: tail => if c == openBrace then closedBody? tail else none
      | _ => none
    match here with
    | some body => some ([], body)
    | none => (trailingList? rest).map fun (before, body) => (c :: before, body)

end MarkTree.Source
