import MarkTree.Proofs.Markdown.Faultless
import MarkTree.Proofs.Tree.Throughout

namespace MarkTree

namespace Node

/-- The nodes with neighbouring texts joined are of a kind that has all texts, if the nodes are. -/
theorem throughout_fuse {P : Node → Prop} (htext : ∀ content, P (.text content)) {nodes : List Node}
    (h : Throughout P nodes) : Throughout P (fuse nodes) := by
  have hjoin (a b : Datum) (_ : Throughout P [.text a]) (_ : Throughout P [.text b]) :
      Throughout P [.text (joinContent a b)] :=
    (throughout_leaf rfl).mpr (htext _)
  rw [throughout_iff_forall] at h ⊢
  exact (forall_mem_fuse hjoin h).1

end Node

namespace Markdown

open Node

/-- The nodes that inline tokens become. -/
inductive InlineNode : Node → Prop where
  | text (content : Datum) : InlineNode (.text content)
  | comment (inner : String) : InlineNode (ofComment inner)
  | styled (style : Emphasis) (children : List Node) : InlineNode (.plain style.tag [] children)
  | code (kind : CodeKind) (content : Datum) :
      InlineNode (.plain "code" [("class", .str kind.className)] [.text content])
  | lineBreak : InlineNode (.plain "br" [] [])
  | link (url title : Datum) (children : List Node) :
      InlineNode (.plain "a" (("href", url) :: optional "title" title) children)
  | image (url title : Datum) (alt : String) :
      InlineNode (.plain "img" (("src", url) :: ("alt", .str alt) :: optional "title" title) [])

/-- All that inline tokens become is of the kind. Texts side by side are joined in what has children. -/
structure HoldsInline (P : Node → Prop) : Prop where
  text (content : Datum) : P (.text content)
  comment (inner : String) : P (ofComment inner)
  styled (style : Emphasis) (children : List Node) : P (.plain style.tag [] (fuse children))
  code (kind : CodeKind) (content : Datum) :
    P (.plain "code" [("class", .str kind.className)] [.text content])
  lineBreak : P (.plain "br" [] [])
  link (url title : Datum) (children : List Node) :
    P (.plain "a" (("href", url) :: optional "title" title) (fuse children))
  image (url title : Datum) (alt : String) :
    P (.plain "img" (("src", url) :: ("alt", .str alt) :: optional "title" title) [])

/-- Inline tokens become nothing but inline nodes. -/
theorem holdsInline_inlineNode : HoldsInline InlineNode where
  text := .text
  comment := .comment
  styled style _ := .styled style _
  code := .code
  lineBreak := .lineBreak
  link url title _ := .link url title _
  image := .image

namespace Inline

variable {P : Node → Prop}

mutual

/-- What holds of all that inline tokens are made into holds throughout the node of one. -/
theorem throughout_node? (hP : HoldsInline P) :
    (token : Inline) → ∀ node ∈ node? token, Throughout P [node]
  | .text raw, _, hnode => by
    cases hnode
    exact (throughout_leaf rfl).mpr (hP.text _)
  | .styled style children, _, hnode => by
    cases hnode
    exact throughout_plain.mpr ⟨hP.styled _ _, throughout_fuse hP.text (throughout_nodes hP children)⟩
  | .code kind raw, _, hnode => by
    cases hnode
    exact throughout_plain.mpr ⟨hP.code _ _, (throughout_leaf rfl).mpr (hP.text _)⟩
  | .lineBreak, _, hnode => by
    cases hnode
    exact throughout_plain.mpr ⟨hP.lineBreak, throughout_nil⟩
  | .softBreak, _, hnode => by
    cases hnode
    exact (throughout_leaf rfl).mpr (hP.text _)
  | .link url title children, _, hnode => by
    cases hnode
    exact throughout_plain.mpr ⟨hP.link _ _ _, throughout_fuse hP.text (throughout_nodes hP children)⟩
  | .image url title description, _, hnode => by
    cases hnode
    exact throughout_plain.mpr ⟨hP.image _ _ _, throughout_nil⟩
  | .html raw, _, hnode => by
    cases hnode
    unfold ofInlineHtml
    split
    · exact (throughout_leaf rfl).mpr (hP.comment _)
    · exact (throughout_leaf rfl).mpr (hP.text _)
  | .unsupported _, _, hnode => by cases hnode
  | .malformed _, _, hnode => by cases hnode

/-- What holds of all that inline tokens are made into holds throughout the nodes of a list of them. -/
theorem throughout_nodes (hP : HoldsInline P) : (tokens : List Inline) → Throughout P (nodes tokens)
  | [] => throughout_nil
  | token :: rest => by
    have hfirst := throughout_node? hP token
    have hrest := throughout_nodes hP rest
    rw [nodes]
    split
    · rename_i node hnode
      exact throughout_cons.mpr ⟨hfirst node hnode, hrest⟩
    · exact hrest

end

/-- Joining texts keeps what holds of all inline nodes. -/
theorem throughout_toNodes (hP : HoldsInline P) (tokens : List Inline) : Throughout P (toNodes tokens) :=
  throughout_fuse hP.text (throughout_nodes hP tokens)

end Inline

def headingTags : List String :=
  ["h1", "h2", "h3", "h4", "h5", "h6"]

/-- The nodes that tables are made of. -/
inductive TableNode : Node → Prop where
  | inline {node : Node} (h : InlineNode node) : TableNode node
  | table (sections : List Section) :
      TableNode (.plain "table" [] (sections.filterMap Section.node?))
  | head (cells : List Cell) :
      TableNode (.plain "thead" [] [.plain "tr" [] (cells.filterMap (Cell.node? "th"))])
  | body (rows : List Row) : TableNode (.plain "tbody" [] (rows.filterMap Row.node?))
  | row (tag : String) (cells : List Cell) :
      TableNode (.plain "tr" [] (cells.filterMap (Cell.node? tag)))
  | cell {tag : String} (htag : tag = "th" ∨ tag = "td") {style : List (String × Datum)}
      (hstyle : ∀ pair ∈ style, pair.1 = "style") (children : List Node) :
      TableNode (.plain tag style children)

theorem throughout_inline (tokens : List Inline) : Throughout InlineNode (Inline.toNodes tokens) :=
  Inline.throughout_toNodes holdsInline_inlineNode tokens

theorem throughout_cell {tag : String} (htag : tag = "th" ∨ tag = "td") (cell : Cell) :
    ∀ node ∈ cell.node? tag, Throughout TableNode [node] := by
  intro node hnode
  cases cell with
  | cell align children =>
    cases hnode
    refine throughout_plain.mpr ⟨.cell htag ?_ _, (throughout_inline children).mono fun _ => .inline⟩
    split <;> simp
  | malformed => cases hnode

theorem throughout_row {tag : String} (htag : tag = "th" ∨ tag = "td") (cells : List Cell) :
    Throughout TableNode [.plain "tr" [] (cells.filterMap (Cell.node? tag))] :=
  throughout_plain.mpr ⟨.row tag cells, throughout_filterMap (throughout_cell htag) cells⟩

theorem throughout_section (part : Section) : ∀ node ∈ part.node?, Throughout TableNode [node] := by
  intro node hnode
  cases part with
  | head cells =>
    cases hnode
    exact throughout_plain.mpr ⟨.head cells, throughout_row (.inl rfl) cells⟩
  | body rows =>
    cases hnode
    refine throughout_plain.mpr ⟨.body rows, throughout_filterMap (fun row node hnode => ?_) rows⟩
    cases row with
    | row cells =>
      cases hnode
      exact throughout_row (.inr rfl) cells
    | malformed => cases hnode
  | other => cases hnode
  | malformed => cases hnode

/-- A table holds nodes of tables throughout. -/
theorem throughout_table (sections : List Section) :
    Throughout TableNode [.plain "table" [] (sections.filterMap Section.node?)] :=
  throughout_plain.mpr ⟨.table _, throughout_filterMap throughout_section sections⟩

/-- A heading is of a kind throughout if its children are: all that is added to them is a text. -/
theorem throughout_ofHeading {P : Node → Prop} {tag : String}
    (htext : ∀ content : String, P (.text (.str content)))
    (hheading : ∀ (attributes : List (String × String)) (children : List Node),
      P (.plain tag (attributes.map fun (name, value) => (name, .str value)) children))
    {children : List Node} (hchildren : Throughout P children) :
    Throughout P [ofHeading tag children] := by
  have hdrop : Throughout P children.dropLast :=
    throughout_iff_forall.mpr fun node hmem =>
      throughout_iff_forall.mp hchildren node ((List.dropLast_sublist children).subset hmem)
  unfold ofHeading
  split
  · split
    · refine throughout_plain.mpr ⟨hheading _ _, throughout_append.mpr ⟨hdrop, ?_⟩⟩
      split
      · exact throughout_nil
      · exact (throughout_leaf rfl).mpr (htext _)
    · exact throughout_plain.mpr ⟨hheading [] children, hchildren⟩
  · exact throughout_plain.mpr ⟨hheading [] children, hchildren⟩

/-- The nodes that blocks become. -/
inductive BlockNode : Node → Prop where
  | table {node : Node} (h : TableNode node) : BlockNode node
  | heading {tag : String} (htag : tag ∈ headingTags) (attributes : List (String × String))
      (children : List Node) :
      BlockNode (.plain tag (attributes.map fun (name, value) => (name, .str value)) children)
  | paragraph (children : List Node) : BlockNode (.plain "p" [] children)
  | codeBlock (source info : String) : BlockNode (Block.codeNode source info)
  | language {attributes : List (String × Datum)}
      (hclass : attributes = [] ∨ ∃ word, attributes = [("class", .str word)]) (content : Datum) :
      BlockNode (.plain "code" attributes [.text content])
  | quote (children : List Node) : BlockNode (.plain "blockquote" [] children)
  | list (ordered : Bool) (start : Datum) (items : List (List Block)) :
      BlockNode (.plain (if ordered then "ol" else "ul") (Block.startAttribute ordered start)
        (Block.itemNodes items))
  | item (children : List Node) : BlockNode (.plain "li" [] children)
  | rule : BlockNode (.plain "hr" [] [])
  | verbatim (tag content : String) :
      BlockNode (.element (.plain (.str tag)) [] [.text (.str content)]
        (.record [("verbatim", .bool true)]))

theorem blockNode_of_inline {node : Node} (h : InlineNode node) : BlockNode node :=
  .table (.inline h)

theorem throughout_text (content : Datum) : Throughout BlockNode [.text content] :=
  (throughout_leaf rfl).mpr (blockNode_of_inline (.text _))

/-- A level that is no truth value gives the tag of a heading, however large it is. -/
theorem headingTag_mem {level : Datum} (hlevel : ∀ flag, level ≠ .bool flag) :
    Block.headingTag level ∈ headingTags := by
  unfold Block.headingTag
  split
  · rename_i n hn
    split
    · rename_i hrange
      obtain rfl : level = .int n := by
        cases level with
        | int m => simpa [Datum.int?] using hn
        | bool flag => exact absurd rfl (hlevel flag)
        | _ => cases hn
      have hone : 1 ≤ n ∧ n ≤ 6 := by simpa using hrange
      obtain rfl | rfl | rfl | rfl | rfl | rfl :
          n = 1 ∨ n = 2 ∨ n = 3 ∨ n = 4 ∨ n = 5 ∨ n = 6 := by omega
      all_goals decide
    · decide
  · decide

theorem throughout_inlineBlock (tokens : List Inline) :
    Throughout BlockNode (Inline.toNodes tokens) :=
  (throughout_inline tokens).mono fun _ => blockNode_of_inline

theorem throughout_heading {level : Datum} (hlevel : ∀ flag, level ≠ .bool flag)
    (children : List Inline) : Throughout BlockNode (Block.heading level children).toNodes :=
  throughout_ofHeading (fun _ => blockNode_of_inline (.text _)) (.heading (headingTag_mem hlevel))
    (throughout_inlineBlock children)

theorem throughout_codeNode (source info : String) :
    Throughout BlockNode [Block.codeNode source info] := by
  unfold Block.codeNode
  refine throughout_plain.mpr ⟨.codeBlock source info, ?_⟩
  refine throughout_plain.mpr ⟨.language ?_ _, throughout_text _⟩
  split <;> simp

theorem throughout_mathNode (raw : String) : Throughout BlockNode [Block.mathNode raw] := by
  refine throughout_plain.mpr ⟨.paragraph _, ?_⟩
  exact throughout_plain.mpr ⟨blockNode_of_inline (.code .displayMath _), throughout_text _⟩

theorem throughout_ofHtmlBlock (raw : String) : Throughout BlockNode [ofHtmlBlock raw] := by
  unfold ofHtmlBlock
  split
  · exact (throughout_leaf rfl).mpr (blockNode_of_inline (.comment _))
  · intro node hmem
    simp only [nodesOf_cons, nodesFrom_element, nodesFrom_leaf (isElement_text _), nodesOf_nil,
      List.append_nil, List.mem_cons, List.not_mem_nil, or_false] at hmem
    rcases hmem with rfl | rfl
    · exact .verbatim _ _
    · exact blockNode_of_inline (.text _)

/-- What holds throughout the nodes of each block holds throughout the nodes of all. -/
theorem throughout_allNodes {P : Node → Prop} {blocks : List Block}
    (h : ∀ block ∈ blocks, Throughout P block.toNodes) : Throughout P (Block.allNodes blocks) := by
  induction blocks with
  | nil => exact throughout_nil
  | cons block rest ih =>
    obtain ⟨hblock, hrest⟩ := List.forall_mem_cons.mp h
    exact throughout_append.mpr ⟨hblock, ih hrest⟩

/-- What holds throughout each item, and of every `li`, holds throughout the items of a list. -/
theorem throughout_itemNodes {P : Node → Prop} (hitem : ∀ children, P (.plain "li" [] children))
    {items : List (List Block)} (h : ∀ item ∈ items, Throughout P (Block.allNodes item)) :
    Throughout P (Block.itemNodes items) := by
  induction items with
  | nil => exact throughout_nil
  | cons item rest ih =>
    obtain ⟨hfirst, hrest⟩ := List.forall_mem_cons.mp h
    exact throughout_cons.mpr ⟨throughout_plain.mpr ⟨hitem _, hfirst⟩, ih hrest⟩

theorem throughout_readCode (token : Entries) : Throughout BlockNode (readCode token).toNodes := by
  unfold readCode
  split
  · split
    · exact throughout_codeNode _ _
    · split
      · exact throughout_nil
      · exact throughout_codeNode _ _
  · exact throughout_nil

/-- Every node of a well-formed token is of one of the kinds, and so is every node of the item that it is
    in a list. -/
theorem WellFormed.throughout {Info : Datum → Prop} {token : Entries} (h : WellFormed Info token) :
    Throughout BlockNode (readBlock token).toNodes ∧
      Throughout BlockNode (Block.allNodes (readBlocks (nested token))) := by
  induction h with
  | @intro token attrs type raw below htype hraw hattrs hlevel _ hbelow hwell ih =>
    -- Both halves are needed at once: a list asks for the items, everything else for the blocks.
    have hbelowNodes : Throughout BlockNode (Block.allNodes (below.map readBlock)) :=
      throughout_allNodes (List.forall_mem_map.mpr fun child hmem => (ih child hmem).1)
    refine ⟨?_, by rwa [readBlocks_nested hbelow]⟩
    have hblock := readsAs htype hraw hbelow fun child hmem => (hwell child hmem).isNested
    generalize readBlock token = block at hblock
    cases hblock with
    | heading hheading =>
      refine throughout_heading ?_ _
      rw [detailOr, details_eq hattrs]
      exact hlevel (by simpa [htype] using hheading)
    | paragraph => exact throughout_plain.mpr ⟨.paragraph _, throughout_inlineBlock _⟩
    | plain => exact throughout_inlineBlock _
    | code => exact throughout_readCode token
    | quote => exact throughout_plain.mpr ⟨.quote _, hbelowNodes⟩
    | list _ ordered start =>
      refine throughout_plain.mpr ⟨.list ordered start _, throughout_itemNodes .item ?_⟩
      exact List.forall_mem_map.mpr fun child hmem => (ih child hmem).2
    | table => exact (throughout_table _).mono fun _ => .table
    | rule => exact throughout_plain.mpr ⟨.rule, throughout_nil⟩
    | html => exact throughout_ofHtmlBlock raw
    | math => exact throughout_mathNode raw
    | blank => exact throughout_nil
    | unsupported => exact throughout_nil

end Markdown

end MarkTree
