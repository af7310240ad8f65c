import MarkTree.Proofs.Tree.Siblings

namespace MarkTree

/-- A node between its neighbours. -/
structure Place where
  before : Option Node
  node : Node
  after : Option Node

/-- A place together with the places of the elements around it, the innermost first. -/
structure Site extends Place where
  around : List Place

namespace Site

def depth (site : Site) : Nat :=
  site.around.length

/-- The site of the innermost element around. -/
def parent? (site : Site) : Option Site :=
  match site.around with
  | [] => none
  | place :: around => some ⟨place, around⟩

end Site

namespace Node

mutual

/-- The site of a node and of all nodes below it, in preorder. -/
def sitesFrom (around : List Place) (before after : Option Node) : Node → List Site
  | .element tag attributes children metadata =>
    let place : Place := ⟨before, .element tag attributes children metadata, after⟩
    ⟨place, around⟩ :: sitesAmong (place :: around) none children
  | .text content => [⟨⟨before, .text content, after⟩, around⟩]
  | .comment content marker => [⟨⟨before, .comment content marker, after⟩, around⟩]
  | .bare => [⟨⟨before, .bare, after⟩, around⟩]
  | .foreign kindName => [⟨⟨before, .foreign kindName, after⟩, around⟩]

/-- The sites of siblings that follow a node, and of all nodes below them, in preorder. -/
def sitesAmong (around : List Place) (before : Option Node) : List Node → List Site
  | [] => []
  | node :: rest => sitesFrom around before rest.head? node ++ sitesAmong around (some node) rest

end

/-- The sites of a document in preorder. -/
def sitesOf (document : Document) : List Site :=
  sitesAmong [] none document

variable (around : List Place) (before after : Option Node)

@[simp] theorem sitesAmong_nil : sitesAmong around before [] = [] := rfl

@[simp] theorem sitesAmong_cons (node : Node) (rest : List Node) :
    sitesAmong around before (node :: rest) =
      sitesFrom around before rest.head? node ++ sitesAmong around (some node) rest := rfl

@[simp] theorem sitesFrom_element (tag : Label) (attributes : List Attribute) (children : List Node)
    (metadata : Datum) :
    sitesFrom around before after (.element tag attributes children metadata) =
      ⟨⟨before, .element tag attributes children metadata, after⟩, around⟩ ::
        sitesAmong (⟨before, .element tag attributes children metadata, after⟩ :: around) none
          children := rfl

theorem sitesFrom_leaf {node : Node} (hleaf : node.isElement = false) :
    sitesFrom around before after node = [⟨⟨before, node, after⟩, around⟩] := by
  cases node with
  | element => simp [isElement] at hleaf
  | _ => rfl

/-- The nodes at the sites of siblings are the siblings and the nodes below them, wherever the siblings
    stand. -/
theorem map_node_sitesAmong (nodes : List Node) :
    ∀ around before, (sitesAmong around before nodes).map (·.node) = nodesOf nodes := by
  induction nodes using siblings_induction with
  | nil => simp
  | leaf node rest hleaf ih => simp [sitesFrom_leaf _ _ _ hleaf, nodesFrom_leaf hleaf, ih]
  | element tag attributes children metadata rest ihChildren ih => simp [ihChildren, ih]

/-- The nodes of a document stand at its sites, in preorder. -/
theorem map_node_sitesOf (document : Document) :
    (sitesOf document).map (·.node) = nodesOf document :=
  map_node_sitesAmong document [] none

end Node

end MarkTree
