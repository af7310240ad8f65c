import MarkTree.Proofs.Markdown.WellFormed
import MarkTree.Proofs.Tree.Siblings

namespace MarkTree

namespace Node

/-- What holds of nodes holds of them with neighbouring texts joined, if it holds of joined texts. -/
theorem forall_mem_fuse {P : Node → Prop}
    (hjoin : ∀ a b, P (.text a) → P (.text b) → P (.text (joinContent a b))) {nodes : List Node}
    (hnodes : ∀ node ∈ nodes, P node) :
    (∀ node ∈ fuse nodes, P node) ∧
      ∀ before, P (.text before) → ∀ node ∈ fuseOnto before nodes, P node := by
  induction nodes with
  | nil => exact ⟨by simp [fuse], fun before hbefore => by simpa [fuseOnto] using hbefore⟩
  | cons node rest ih =>
    obtain ⟨hnode, hrest⟩ := List.forall_mem_cons.mp hnodes
    obtain ⟨ihFuse, ihOnto⟩ := ih hrest
    cases node with
    | text content =>
      exact ⟨ihOnto content hnode, fun before hbefore => ihOnto _ (hjoin _ _ hbefore hnode)⟩
    | _ =>
      refine ⟨List.forall_mem_cons.mpr ⟨hnode, ihFuse⟩, fun before hbefore => ?_⟩
      exact List.forall_mem_cons.mpr ⟨hbefore, List.forall_mem_cons.mpr ⟨hnode, ihFuse⟩⟩

/-- A node that is a text has a text for its content. -/
def HasTextContent (node : Node) : Prop :=
  ∀ content, node = .text content → isTextDatum content = true

/-- Two texts that are joined have a text for content. -/
theorem hasTextContent_join (a b : Datum) (ha : HasTextContent (.text a)) (hb : HasTextContent (.text b)) :
    HasTextContent (.text (joinContent a b)) := by
  obtain ⟨s, rfl⟩ := isTextDatum_iff.mp (ha a rfl)
  obtain ⟨t, rfl⟩ := isTextDatum_iff.mp (hb b rfl)
  rintro content ⟨rfl⟩
  rfl

/-- Inline HTML becomes a node with a text for content. -/
theorem hasTextContent_ofInlineHtml (raw : String) : HasTextContent (ofInlineHtml raw) := by
  unfold ofInlineHtml
  split
  · rintro content ⟨⟩
  · rintro content ⟨rfl⟩
    rfl

end Node

namespace Markdown

@[simp] theorem Trace.fault?_append (first second : Trace) :
    (first ++ second).fault? = first.fault?.or second.fault? := by
  change (Trace.followedBy first second).fault? = _
  unfold Trace.followedBy
  cases hfault : first.fault? with
  | none => rfl
  | some fault => simp [hfault]

@[simp] theorem Trace.fault?_empty : Trace.empty.fault? = none := rfl

/-- A trace made of the traces of members has no fault if none of them has one. -/
theorem Trace.fault?_eq_none_of_members {α : Type} {one : α → Trace} {all : List α → Trace}
    (hnil : all [] = .empty) (hcons : ∀ item items, all (item :: items) = one item ++ all items)
    {items : List α} (hitems : ∀ item ∈ items, (one item).fault? = none) :
    (all items).fault? = none := by
  induction items with
  | nil => rw [hnil, fault?_empty]
  | cons item rest ih =>
    obtain ⟨hitem, hrest⟩ := List.forall_mem_cons.mp hitems
    rw [hcons, fault?_append, hitem, Option.none_or, ih hrest]

/-- Blocks without fault have no fault together. -/
theorem Block.fault?_traces {blocks : List Block} (h : ∀ block ∈ blocks, block.trace.fault? = none) :
    (traces blocks).fault? = none :=
  Trace.fault?_eq_none_of_members rfl (fun _ _ => rfl) h

/-- Tokens that are read without a fault have a tree. -/
theorem treeOf_eq_ok {tokens : List Entries}
    (htokens : ∀ token ∈ tokens, (readBlock token).trace.fault? = none) :
    treeOf tokens = .ok (documentOf tokens) := by
  rw [treeOf_eq, Block.fault?_traces (List.forall_mem_map.mpr htokens)]

namespace Inline

/-- The token has no fault in it, and if it is a text, texts can be joined with it. -/
structure Sound (token : Inline) : Prop where
  trace : token.trace.fault? = none
  text : ∀ node, node? token = some node → node.HasTextContent

/-- A sound token can be joined to any text in front of it, and what is left at its end is again a text or
    nothing. -/
theorem Sound.joined {token : Inline} (h : token.Sound) {before : Option Datum}
    (hbefore : ∀ content ∈ before, Node.isTextDatum content = true) :
    (joined before token).1.fault? = none ∧
      ∀ content ∈ (Inline.joined before token).2, Node.isTextDatum content = true := by
  unfold Inline.joined
  split
  · exact ⟨rfl, hbefore⟩
  · rename_i content hnode
    have hcontent := h.text _ hnode content rfl
    obtain ⟨text, rfl⟩ := Node.isTextDatum_iff.mp hcontent
    cases before with
    | none => exact ⟨rfl, by simpa using hcontent⟩
    | some front =>
      obtain ⟨front, rfl⟩ := Node.isTextDatum_iff.mp (hbefore front rfl)
      simp [Node.isTextDatum]
  · exact ⟨rfl, by simp⟩

variable {tokens : List Inline} (hsound : ∀ token ∈ tokens, token.Sound)
include hsound

/-- Sound tokens are read without fault, behind any text. -/
theorem fault?_traces : ∀ before : Option Datum,
    (∀ content ∈ before, Node.isTextDatum content = true) → (traces before tokens).fault? = none := by
  induction tokens with
  | nil => intros; rfl
  | cons token rest ih =>
    intro before hbefore
    obtain ⟨hfirst, hrest⟩ := List.forall_mem_cons.mp hsound
    obtain ⟨hjoining, hcontent⟩ := hfirst.joined hbefore
    simp [traces, hfirst.trace, hjoining, ih hrest _ hcontent]

/-- The description of an image is put together without fault if its tokens are sound. -/
theorem fault?_altTrace : (altTrace tokens).fault? = none := by
  have hall : (directTexts tokens).all Node.isTextDatum = true := by
    induction tokens with
    | nil => rfl
    | cons token rest ih =>
      obtain ⟨hfirst, hrest⟩ := List.forall_mem_cons.mp hsound
      cases token with
      | text raw => simp [directTexts, hfirst.text _ rfl raw rfl, ih hrest]
      | _ => exact ih hrest
  simp [altTrace, hall]

/-- Sound tokens become nodes whose contents are texts. -/
theorem hasTextContent_nodes : ∀ node ∈ nodes tokens, node.HasTextContent := by
  induction tokens with
  | nil => simp [nodes]
  | cons token rest ih =>
    obtain ⟨hfirst, hrest⟩ := List.forall_mem_cons.mp hsound
    rw [nodes]
    split
    · rename_i node hnode
      exact List.forall_mem_cons.mpr ⟨hfirst.text node hnode, ih hrest⟩
    · exact ih hrest

/-- The end of a heading can be searched if its tokens are sound. -/
theorem fault?_headingTrace : (Block.headingTrace (toNodes tokens)).fault? = none := by
  have htexts := (Node.forall_mem_fuse Node.hasTextContent_join (hasTextContent_nodes hsound)).1
  unfold Block.headingTrace
  split
  · rename_i content hlast
    rw [if_pos (htexts _ (List.mem_of_getLast? hlast) content rfl)]
    rfl
  · rfl

end Inline

/-- Nothing goes wrong with the token, whatever it is taken for. -/
structure Sound (token : Entries) : Prop where
  inline : (readInline token).Sound
  block : (readBlock token).trace.fault? = none
  item : (Block.traces (readBlocks (nested token))).fault? = none
  cell : (readCell (some token)).trace.fault? = none
  row : (readRow (some token)).trace.fault? = none
  part : (readSection (some token)).trace.fault? = none

section Below

variable {token : Entries} {type raw : String} {below : List Entries} {block : Block}

theorem sound_readInline_map (hall : ∀ child ∈ below, Sound child) :
    ∀ child ∈ below.map readInline, child.Sound := by
  intro child hmem
  obtain ⟨token, htoken, rfl⟩ := List.mem_map.mp hmem
  exact (hall token htoken).inline

theorem fault?_traces_map (hall : ∀ child ∈ below, Sound child) :
    (Inline.traces none (below.map readInline)).fault? = none :=
  Inline.fault?_traces (sound_readInline_map hall) none (by simp)

variable (htype : typeOf token = .str type) (hraw : rawOf token = .str raw)
  (hbelow : fieldOr "children" (.list []) token = .list (below.map .dict))
  (hall : ∀ child ∈ below, Sound child)

include htype hraw hbelow in
/-- An inline token is sound if the tokens below it are. -/
theorem sound_readInline (hinline : ∀ child ∈ below, (readInline child).Sound) :
    (readInline token).Sound := by
  have hsound : ∀ child ∈ below.map readInline, child.Sound := List.forall_mem_map.mpr hinline
  have hchildren := Inline.fault?_traces hsound none (by simp)
  rw [readInline, htype, readInlines_nestedInList hbelow]
  dsimp only
  split
  · rw [hraw]
    exact ⟨rfl, by rintro node ⟨⟩ content ⟨⟩; rfl⟩
  · exact ⟨hchildren, by rintro node ⟨⟩ content ⟨⟩⟩
  · exact ⟨hchildren, by rintro node ⟨⟩ content ⟨⟩⟩
  · exact ⟨hchildren, by rintro node ⟨⟩ content ⟨⟩⟩
  · exact ⟨rfl, by rintro node ⟨⟩ content ⟨⟩⟩
  · exact ⟨rfl, by rintro node ⟨⟩ content ⟨⟩⟩
  · exact ⟨rfl, by rintro node ⟨⟩ content ⟨⟩⟩
  · exact ⟨rfl, by rintro node ⟨⟩ content ⟨⟩⟩
  · exact ⟨rfl, by rintro node ⟨⟩ content ⟨⟩; rfl⟩
  · exact ⟨hchildren, by rintro node ⟨⟩ content ⟨⟩⟩
  · rw [isNested_eq hbelow, if_pos rfl, nested_eq hbelow, readInlines_map_some]
    exact ⟨Inline.fault?_altTrace hsound, by rintro node ⟨⟩ content ⟨⟩⟩
  · rw [hraw]
    refine ⟨rfl, ?_⟩
    rintro node ⟨⟩
    exact Node.hasTextContent_ofInlineHtml raw
  · exact ⟨rfl, by rintro node ⟨⟩⟩

include hall in
theorem fault?_blocks_map : (Block.traces (below.map readBlock)).fault? = none :=
  Block.fault?_traces (List.forall_mem_map.mpr fun child hmem => (hall child hmem).block)

include hbelow hall in
theorem fault?_readCell : (readCell (some token)).trace.fault? = none := by
  rw [readCell, readInlines_nestedInList hbelow]
  exact fault?_traces_map hall

include hall in
theorem fault?_cells_map : (cellsTrace ((below.map some).map readCell)).fault? = none := by
  rw [List.map_map]
  exact Trace.fault?_eq_none_of_members rfl (fun _ _ => rfl)
    (List.forall_mem_map.mpr fun child hmem => (hall child hmem).cell)

include hbelow hall in
theorem fault?_readRow : (readRow (some token)).trace.fault? = none := by
  rw [readRow, isNested_eq hbelow, if_pos rfl, nested_eq hbelow]
  exact fault?_cells_map hall

include hbelow hall in
theorem fault?_readSection : (readSection (some token)).trace.fault? = none := by
  rw [readSection, isNested_eq hbelow, if_pos rfl, if_pos rfl, nested_eq hbelow]
  split
  · exact fault?_cells_map hall
  · split
    · rw [Section.trace, List.map_map]
      exact Trace.fault?_eq_none_of_members rfl (fun _ _ => rfl)
        (List.forall_mem_map.mpr fun child hmem => (hall child hmem).row)
    · rfl

include hall in
/-- A block is read without fault if what is below its token is, whatever its type. -/
theorem fault?_readBlock (hblock : ReadsAs token raw below block)
    (hinfo : typeOf token = .str "block_code" → ∃ info, readCode token = .code raw info) :
    block.trace.fault? = none := by
  cases hblock with
  | heading =>
    rw [Block.trace, Trace.fault?_append, fault?_traces_map hall, Option.none_or]
    exact Inline.fault?_headingTrace (sound_readInline_map hall)
  | paragraph => exact fault?_traces_map hall
  | plain => exact fault?_traces_map hall
  | code htype =>
    obtain ⟨info, hcode⟩ := hinfo htype
    rw [hcode]
    rfl
  | quote => exact fault?_blocks_map hall
  | list =>
    exact Trace.fault?_eq_none_of_members rfl (fun _ _ => rfl)
      (List.forall_mem_map.mpr fun child hmem => (hall child hmem).item)
  | table =>
    exact Trace.fault?_eq_none_of_members rfl (fun _ _ => rfl)
      (List.forall_mem_map.mpr fun child hmem => (hall child hmem).part)
  | rule | html | math | blank | unsupported => rfl

end Below

/-- A code block whose info string is a text, or absent, is read as one. -/
theorem readCode_eq {token : Entries} {source info : String} (hraw : rawOf token = .str source)
    (hinfo : IsInfo info (detailOr "info" .null token)) : readCode token = .code source info := by
  rw [readCode, hraw]
  dsimp only
  rcases hinfo with hinfo | ⟨habsent, rfl⟩
  · rw [hinfo]
  · split
    · rename_i info hstr
      rw [hstr, Datum.truthy, bne_eq_false_iff_eq] at habsent
      rw [habsent]
    · rw [habsent]
      rfl

/-- Every well-formed token is sound. -/
theorem WellFormed.sound {token : Entries} (h : WellFormed HasInfo token) : Sound token := by
  induction h with
  | @intro token attrs type raw below htype hraw hattrs _ hinfo hbelow hwell hall =>
    -- A child may be read as a block, an inline token or a part of a table: the hypothesis covers all.
    have hblock := readsAs htype hraw hbelow fun child hmem => (hwell child hmem).isNested
    have hinline := sound_readInline htype hraw hbelow fun child hmem => (hall child hmem).inline
    refine ⟨hinline, fault?_readBlock hall hblock fun hcode => ?_, ?_, fault?_readCell hbelow hall,
      fault?_readRow hbelow hall, fault?_readSection hbelow hall⟩
    · obtain ⟨info, hinfo⟩ := hinfo (by simpa [htype] using hcode)
      rw [← details_eq hattrs] at hinfo
      exact ⟨info, readCode_eq hraw hinfo⟩
    · rw [readBlocks_nested hbelow]
      exact fault?_blocks_map hall

end Markdown

end MarkTree
