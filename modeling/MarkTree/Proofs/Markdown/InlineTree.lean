import MarkTree.Proofs.Markdown.Faultless

namespace MarkTree.Markdown

open Node

/-- An inline token with a text for its type, a text for its raw source and tokens like it below; what is
    absent counts as empty. -/
inductive WellFormedInline : Entries → Prop where
  | intro {token : Entries} {type raw : String} {below : List Entries}
      (htype : typeOf token = .str type) (hraw : rawOf token = .str raw)
      (hbelow : fieldOr "children" (.list []) token = .list (below.map .dict))
      (hall : ∀ child ∈ below, WellFormedInline child) : WellFormedInline token

/-- The nodes of a list of inline tokens, or why it has none. A tight list item has its inline content as it
    is, so they are the nodes of such an item. -/
def inlineTreeOf (tokens : List Entries) : Except Failure (List Node) :=
  treeOf [tokenOf "block_text" "" [] tokens]

/-- A well-formed inline token is sound. -/
theorem WellFormedInline.sound {token : Entries} (h : WellFormedInline token) :
    (readInline token).Sound := by
  induction h with
  | intro htype hraw hbelow _ ih => exact sound_readInline htype hraw hbelow ih

theorem readBlock_plain (tokens : List Entries) :
    readBlock (tokenOf "block_text" "" [] tokens) = .plain (tokens.map readInline) := by
  have htype : typeOf (tokenOf "block_text" "" [] tokens) = .str "block_text" := rfl
  have hbelow : fieldOr "children" (.list []) (tokenOf "block_text" "" [] tokens) =
      .list (tokens.map .dict) := rfl
  rw [readBlock, htype, readInlines_nestedInList hbelow]
  rfl

/-- Inline tokens without a fault have the nodes that their reading gives. -/
theorem inlineTreeOf_eq_ok {tokens : List Entries} (htokens : ∀ token ∈ tokens, (readInline token).Sound) :
    inlineTreeOf tokens = .ok (Inline.toNodes (tokens.map readInline)) := by
  have hsound : ∀ token ∈ tokens.map readInline, token.Sound := List.forall_mem_map.mpr htokens
  have htrace : (readBlock (tokenOf "block_text" "" [] tokens)).trace.fault? = none := by
    rw [readBlock_plain]
    exact Inline.fault?_traces hsound none (by simp)
  rw [inlineTreeOf, treeOf_eq_ok (List.forall_mem_singleton.mpr htrace), documentOf_cons,
    readBlock_plain, documentOf_nil, List.append_nil]
  rfl

/-- A token with a node has that node alone. -/
theorem toNodes_singleton {token : Inline} {node : Node} (hnode : Inline.node? token = some node) :
    Inline.toNodes [token] = [node] := by
  have hnodes : Inline.nodes [token] = [node] := by
    rw [Inline.nodes, hnode]
    rfl
  rw [Inline.toNodes, hnodes]
  cases node <;> rfl

end MarkTree.Markdown
