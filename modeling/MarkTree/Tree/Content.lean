import MarkTree.Tree.Node

namespace MarkTree.Node

mutual

/-- The contents of the text nodes, in reading order. -/
def contents : Node → List Datum
  | .text content => [content]
  | .element _ _ children _ => contentsOf children
  | .comment _ _ | .bare | .foreign _ => []

def contentsOf : List Node → List Datum
  | [] => []
  | node :: nodes => contents node ++ contentsOf nodes

end

/-- Joins texts; every one of the data has to be a text. -/
def joinTexts : List Datum → Except Fault String
  | [] => .ok ""
  | .str first :: rest => do return first ++ (← joinTexts rest)
  | _ :: _ => .error .notAddable

/-- The text of a document: the contents of its text nodes in reading order, joined. Comments have
    none. -/
def textContent (document : Document) : Except Fault String :=
  joinTexts (contentsOf document)

end MarkTree.Node
