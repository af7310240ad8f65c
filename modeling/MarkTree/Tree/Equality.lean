import MarkTree.Tree.Node

namespace MarkTree.Node

/-- Attributes with equal names and values in the same order. -/
def equalAttributes : (as bs : List Attribute) → Bool
  | [], [] => true
  | (name, value) :: as, (name', value') :: bs =>
    name.value.equal name'.value && value.equal value' && equalAttributes as bs
  | _, _ => false

mutual

/-- Equality of nodes by value. Labels are compared by what they read, metadata by value; a node without
    content equals no other node. -/
def equal : (a b : Node) → Bool
  | .text content, b =>
    match b with
    | .text content' => content.equal content'
    | _ => false
  | .comment content marker, b =>
    match b with
    | .comment content' marker' => content.equal content' && marker.equal marker'
    | _ => false
  | .element tag attributes children metadata, b =>
    match b with
    | .element tag' attributes' children' metadata' =>
      tag.value.equal tag'.value && equalAttributes attributes attributes' &&
        equalAll children children' && metadata.equal metadata'
    | _ => false
  | .bare, _ => false
  | .foreign _, _ => false

def equalAll : (as bs : List Node) → Bool
  | [], bs => bs.isEmpty
  | a :: as, bs =>
    match bs with
    | [] => false
    | b :: bs => equal a b && equalAll as bs

end

end MarkTree.Node
