import MarkTree.Proofs.Markdown.Vocabulary

namespace MarkTree.Markdown

open Node

/-- The metadata of an element that keeps the source of a block of HTML. -/
def verbatimRecord : Datum :=
  .record [("verbatim", .bool true)]

def hasTag (name : String) : Node → Bool
  | .element tag _ _ _ => tag.reads name
  | .text _ | .comment _ _ | .bare | .foreign _ => false

/-- The tags, apart from those of headings, of elements that may have any children. -/
def flowTags : List String :=
  ["p", "blockquote", "li", "th", "td", "tr", "code", "em", "strong", "del", "a"]

/-- A row of a table whose cells all have this tag. -/
def IsRow (cellTag : String) (node : Node) : Prop :=
  ∃ cells, node = .plain "tr" [] cells ∧ ∀ cell ∈ cells, hasTag cellTag cell = true

/-- What the tag of an element asks of its children; there are no other tags. -/
def FitsTag (children : List Node) : String → Prop
  | "pre" => ∃ code, children = [code] ∧ hasTag "code" code = true
  | "ul" | "ol" => ∀ child ∈ children, hasTag "li" child = true
  | "table" => ∀ child ∈ children, hasTag "thead" child = true ∨ hasTag "tbody" child = true
  | "thead" => ∃ row, children = [row] ∧ IsRow "th" row
  | "tbody" => ∀ row ∈ children, IsRow "td" row
  | "img" | "hr" | "br" => children = []
  | tag => tag ∈ headingTags ∨ tag ∈ flowTags

/-- The shape of an element. -/
structure IsShaped (tag : Label) (attributes : List Attribute) (children : List Node) (metadata : Datum) :
    Prop where
  verbatim : metadata = verbatimRecord → attributes = [] ∧ ∃ content, children = [.text content]
  code : tag.reads "code" = true → (∃ content, children = [.text content]) ∧
    (attributes = [] ∨ ∃ value, attributes = [(.plain (.str "class"), value)])
  fits : metadata ≠ verbatimRecord → ∃ name, tag = .plain (.str name) ∧ FitsTag children name

@[simp] theorem hasTag_plain (name tag : String) (attributes : List (String × Datum))
    (children : List Node) : hasTag name (.plain tag attributes children) = (tag == name) := by
  rw [Bool.eq_iff_iff]
  simp [hasTag, plain, Label.reads, Label.value]

/-- The children of a list are its items. -/
theorem hasTag_of_mem_itemNodes {items : List (List Block)} :
    ∀ node ∈ Block.itemNodes items, hasTag "li" node = true := by
  induction items with
  | nil => simp [Block.itemNodes]
  | cons item rest ih => exact List.forall_mem_cons.mpr ⟨rfl, ih⟩

theorem hasTag_of_mem_cells {tag : String} {cells : List Cell} :
    ∀ node ∈ cells.filterMap (Cell.node? tag), hasTag tag node = true := by
  intro node hmem
  obtain ⟨cell, -, hnode⟩ := List.mem_filterMap.mp hmem
  cases cell with
  | cell => cases hnode; simp
  | malformed => cases hnode

/-- The children of a table are its head and its body. -/
theorem hasTag_of_mem_sections {sections : List Section} :
    ∀ node ∈ sections.filterMap Section.node?,
      hasTag "thead" node = true ∨ hasTag "tbody" node = true := by
  intro node hmem
  obtain ⟨part, -, hnode⟩ := List.mem_filterMap.mp hmem
  cases part with
  | head | body => cases hnode; simp
  | other | malformed => cases hnode

theorem isRow_plain (tag : String) (cells : List Cell) :
    IsRow tag (.plain "tr" [] (cells.filterMap (Cell.node? tag))) :=
  ⟨_, rfl, hasTag_of_mem_cells⟩

/-- The rows of a body hold cells for data. -/
theorem isRow_of_mem_rows {rows : List Row} :
    ∀ node ∈ rows.filterMap Row.node?, IsRow "td" node := by
  intro node hmem
  obtain ⟨row, -, hnode⟩ := List.mem_filterMap.mp hmem
  cases row with
  | row cells => cases hnode; exact isRow_plain "td" cells
  | malformed => cases hnode

/-- Headings and flow content admit any children. -/
theorem fitsTag_of_mem (children : List Node) {tag : String} (htag : tag ∈ headingTags ++ flowTags) :
    FitsTag children tag := by
  have hmem := List.mem_append.mp htag
  simp only [headingTags, flowTags, List.cons_append, List.nil_append, List.mem_cons,
    List.not_mem_nil, or_false] at htag
  unfold FitsTag
  split <;> first | exact hmem | simp at htag

theorem isShaped_plain {tag : String} {attributes : List (String × Datum)} {children : List Node}
    (htag : tag ≠ "code") (hfits : FitsTag children tag) :
    IsShaped (.plain (.str tag)) (attributes.map fun (name, value) => (.plain (.str name), value))
      children (.dict []) := by
  refine ⟨nofun, fun hcode => ?_, fun _ => ⟨tag, rfl, hfits⟩⟩
  simp [Label.reads, Label.value, htag] at hcode

/-- Code is shaped if it holds one text and has no attribute but a class. -/
theorem isShaped_code {attributes : List (String × Datum)}
    (hclass : attributes = [] ∨ ∃ word, attributes = [("class", word)]) (content : Datum) :
    IsShaped (.plain (.str "code")) (attributes.map fun (name, value) => (.plain (.str name), value))
      [.text content] (.dict []) := by
  refine ⟨nofun, fun _ => ⟨⟨_, rfl⟩, ?_⟩, fun _ => ⟨_, rfl, fitsTag_of_mem _ (by decide)⟩⟩
  rcases hclass with rfl | ⟨word, rfl⟩
  · exact .inl rfl
  · exact .inr ⟨_, rfl⟩

section Kinds

variable {tag : Label} {attributes : List Attribute} {children : List Node} {metadata : Datum}

theorem InlineNode.isShaped (h : InlineNode (.element tag attributes children metadata)) :
    IsShaped tag attributes children metadata := by
  generalize hnode : Node.element tag attributes children metadata = node at h
  cases h with
  | text => cases hnode
  | comment => cases hnode
  | styled style =>
    cases hnode
    have htag : style.tag ≠ "code" ∧ style.tag ∈ headingTags ++ flowTags := by
      cases style <;> decide
    exact @isShaped_plain _ [] _ htag.1 (fitsTag_of_mem _ htag.2)
  | code => cases hnode; exact isShaped_code (.inr ⟨_, rfl⟩) _
  | lineBreak => cases hnode; exact @isShaped_plain _ [] _ (by decide) (by simp [FitsTag])
  | link => cases hnode; exact isShaped_plain (by decide) (fitsTag_of_mem _ (by decide))
  | image => cases hnode; exact isShaped_plain (by decide) (by simp [FitsTag])

theorem TableNode.isShaped (h : TableNode (.element tag attributes children metadata)) :
    IsShaped tag attributes children metadata := by
  generalize hnode : Node.element tag attributes children metadata = node at h
  cases h with
  | inline h => exact (hnode ▸ h).isShaped
  | table => cases hnode; exact @isShaped_plain _ [] _ (by decide) hasTag_of_mem_sections
  | head cells =>
    cases hnode
    exact @isShaped_plain _ [] _ (by decide) ⟨_, rfl, isRow_plain "th" cells⟩
  | body => cases hnode; exact @isShaped_plain _ [] _ (by decide) isRow_of_mem_rows
  | row => cases hnode; exact @isShaped_plain _ [] _ (by decide) (fitsTag_of_mem _ (by decide))
  | cell htag =>
    cases hnode
    rcases htag with rfl | rfl
    · exact isShaped_plain (by decide) (fitsTag_of_mem _ (by decide))
    · exact isShaped_plain (by decide) (fitsTag_of_mem _ (by decide))

/-- The elements of blocks are shaped. -/
theorem BlockNode.isShaped (h : BlockNode (.element tag attributes children metadata)) :
    IsShaped tag attributes children metadata := by
  generalize hnode : Node.element tag attributes children metadata = node at h
  cases h with
  | table h => exact (hnode ▸ h).isShaped
  | heading htag =>
    cases hnode
    have hcode : ∀ tag ∈ headingTags, tag ≠ "code" := by decide
    exact isShaped_plain (hcode _ htag) (fitsTag_of_mem _ (List.mem_append_left _ htag))
  | paragraph | quote | item =>
    cases hnode
    exact @isShaped_plain _ [] _ (by decide) (fitsTag_of_mem _ (by decide))
  | codeBlock =>
    cases hnode
    exact @isShaped_plain _ [] _ (by decide) ⟨_, rfl, hasTag_plain "code" "code" _ _⟩
  | language hclass =>
    cases hnode
    exact isShaped_code (hclass.imp_right fun ⟨word, heq⟩ => ⟨_, heq⟩) _
  | list ordered =>
    cases hnode
    cases ordered <;> exact isShaped_plain (by decide) hasTag_of_mem_itemNodes
  | rule => cases hnode; exact @isShaped_plain _ [] _ (by decide) rfl
  | verbatim =>
    cases hnode
    exact ⟨fun _ => ⟨rfl, _, rfl⟩, fun _ => ⟨⟨_, rfl⟩, .inl rfl⟩, fun hnot => absurd rfl hnot⟩

end Kinds

/-- A well-formed heading becomes one element with the tag of a heading. -/
theorem heading_of_readBlock {token : Entries} (hheading : typeOf token = .str "heading")
    (h : WellFormed (fun _ => True) token) :
    ∃ tag ∈ headingTags, ∃ attributes children,
      (readBlock token).toNodes = [.plain tag attributes children] := by
  obtain ⟨htype, -, hattrs, hlevel, -, -, -⟩ := h
  obtain rfl : _ = "heading" := by simpa [htype] using hheading
  refine ⟨Block.headingTag (detailOr "level" (.int 1) token), headingTag_mem ?_, ?_⟩
  · rw [detailOr, details_eq hattrs]
    exact hlevel rfl
  · rw [readBlock_heading htype, Block.toNodes, ofHeading]
    split
    · split
      · exact ⟨_, _, rfl⟩
      · exact ⟨_, _, rfl⟩
    · exact ⟨_, _, rfl⟩

/-- Every element of the tree of well-formed tokens has the shape that its tag asks for, and a heading
    has one of six tags. There is a tree unless the info string of a code block is of no use. -/
theorem treeOf_shaped {tokens : List Entries}
    (htokens : ∀ token ∈ tokens, WellFormed (fun _ => True) token) :
    (AreWellFormed tokens → ∃ tree, treeOf tokens = .ok tree) ∧
      (∀ tree, treeOf tokens = .ok tree → ∀ tag attributes children metadata,
        .element tag attributes children metadata ∈ nodesOf tree →
          IsShaped tag attributes children metadata) ∧
      ∀ token ∈ tokens, typeOf token = .str "heading" → ∃ tag ∈ headingTags, ∃ attributes children,
        (readBlock token).toNodes = [.plain tag attributes children] := by
  refine ⟨fun hsound => ?_, fun tree htree tag attributes children metadata hmem => ?_, ?_⟩
  · exact ⟨_, treeOf_eq_ok fun token hmem => (hsound token hmem).sound.block⟩
  · rw [treeOf_eq] at htree
    split at htree
    · cases htree
    · cases htree
      have hkinds : Throughout BlockNode (documentOf tokens) :=
        throughout_allNodes (List.forall_mem_map.mpr fun token hmem => (htokens token hmem).throughout.1)
      exact (hkinds _ hmem).isShaped
  · exact fun token hmem hheading => heading_of_readBlock hheading (htokens token hmem)

namespace Sample

/-- A page with a heading of no known level, a quoted list and a block of HTML. -/
def page : List Entries :=
  [heading 9 "Cells", quote [bullets ["one", "two"]], html "<b>"]

theorem wellFormed_page {Info : Datum → Prop} : ∀ token ∈ page, WellFormed Info token := by
  simp only [page, List.forall_mem_cons, List.not_mem_nil, false_implies, implies_true, and_true]
  refine ⟨wellFormed_heading _ _, wellFormed_quote ?_, wellFormed_html _⟩
  exact List.forall_mem_singleton.mpr (wellFormed_bullets _)

end Sample

open Sample in
theorem treeOf_shaped_page :
    AreWellFormed page ∧ ∃ tree, treeOf page = .ok tree ∧
      (∀ tag attributes children metadata,
        .element tag attributes children metadata ∈ nodesOf tree →
          IsShaped tag attributes children metadata) ∧
      ∃ tag ∈ headingTags, ∃ attributes children,
        (readBlock (heading 9 "Cells")).toNodes = [.plain tag attributes children] := by
  obtain ⟨hexists, hshaped, hheading⟩ := treeOf_shaped wellFormed_page
  obtain ⟨tree, htree⟩ := hexists wellFormed_page
  exact ⟨wellFormed_page, tree, htree, hshaped tree htree, hheading _ (by simp [page]) rfl⟩

end MarkTree.Markdown
