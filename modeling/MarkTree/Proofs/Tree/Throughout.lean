import MarkTree.Proofs.Tree.Siblings

namespace MarkTree.Node

/-- Every node of a document is of a kind, at every depth. -/
def Throughout (P : Node → Prop) (document : Document) : Prop :=
  ∀ node ∈ nodesOf document, P node

section Throughout

variable {P Q : Node → Prop}

theorem Throughout.mono {document : Document} (hPQ : ∀ node, P node → Q node)
    (h : Throughout P document) : Throughout Q document :=
  fun node hmem => hPQ node (h node hmem)

@[simp] theorem throughout_nil : Throughout P [] := by
  simp [Throughout]

theorem throughout_cons {node : Node} {rest : List Node} :
    Throughout P (node :: rest) ↔ Throughout P [node] ∧ Throughout P rest := by
  simp [Throughout, or_imp, forall_and]

theorem throughout_append {front back : List Node} :
    Throughout P (front ++ back) ↔ Throughout P front ∧ Throughout P back := by
  simp [Throughout, or_imp, forall_and, nodesOf_append]

/-- A statement holds throughout siblings just if it does throughout each of them. -/
theorem throughout_iff_forall {nodes : List Node} :
    Throughout P nodes ↔ ∀ node ∈ nodes, Throughout P [node] := by
  induction nodes with
  | nil => simp
  | cons node rest ih => rw [throughout_cons, ih, List.forall_mem_cons]

theorem throughout_leaf {node : Node} (hleaf : node.isElement = false) :
    Throughout P [node] ↔ P node := by
  simp [Throughout, nodesFrom_leaf hleaf]

theorem throughout_element {tag : Label} {attributes : List Attribute} {children : List Node}
    {metadata : Datum} :
    Throughout P [.element tag attributes children metadata] ↔
      P (.element tag attributes children metadata) ∧ Throughout P children := by
  simp [Throughout]

theorem throughout_plain {tag : String} {attributes : List (String × Datum)} {children : List Node} :
    Throughout P [.plain tag attributes children] ↔
      P (.plain tag attributes children) ∧ Throughout P children :=
  throughout_element

/-- What holds throughout each node that is made holds throughout all that are made. -/
theorem throughout_filterMap {α : Type} {f : α → Option Node}
    (hf : ∀ item, ∀ node ∈ f item, Throughout P [node]) (items : List α) :
    Throughout P (items.filterMap f) := by
  refine throughout_iff_forall.mpr fun node hmem => ?_
  obtain ⟨item, -, hnode⟩ := List.mem_filterMap.mp hmem
  exact hf item node hnode

end Throughout

end MarkTree.Node
