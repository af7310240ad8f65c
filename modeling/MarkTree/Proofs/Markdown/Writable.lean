import MarkTree.Proofs.Markdown.NormalTree
import MarkTree.Proofs.Normalize.Derivation
import MarkTree.Proofs.Tree.RoundTrip

namespace MarkTree

namespace Node

/-- All that the wire form of the node itself holds is plain: texts, a truth value for the marker of a
    comment, and a plain dictionary for metadata. -/
def IsWritable : Node → Prop
  | .text content => isTextDatum content = true
  | .comment content marker => isTextDatum content = true ∧ ∃ flag, marker = .bool flag
  | .element tag attributes _ metadata =>
    isTextLabel tag = true ∧ TextAttributes attributes ∧ metadata.IsPlain ∧
      ∃ entries, metadata = .dict entries
  | .bare | .foreign _ => False

/-- Normalizing siblings that can be written makes siblings that can be written. -/
theorem Normalizes.writable {before : Option Node} {nodes out : List Node}
    (h : Normalizes before nodes out) : Throughout IsWritable nodes → Throughout IsWritable out := by
  induction h with
  | nil => exact id
  | drop _ _ _ ih => exact fun hnodes => ih (throughout_cons.mp hnodes).2
  | keep _ _ _ ih =>
    intro hnodes
    obtain ⟨hnode, hrest⟩ := throughout_cons.mp hnodes
    exact throughout_cons.mpr ⟨hnode, ih hrest⟩
  | capture _ _ _ _ ih =>
    intro hnodes
    obtain ⟨hnode, hrest⟩ := throughout_cons.mp hnodes
    obtain ⟨⟨-, houter, hplain, hdict⟩, hinner⟩ := throughout_element.mp hnode
    obtain ⟨⟨-, hinner, hplain', hdict'⟩, hcontent⟩ := throughout_element.mp hinner
    rw [metadataRecord_eq hdict, metadataRecord_eq hdict']
    refine throughout_cons.mpr ⟨throughout_element.mpr ⟨?_, ?_⟩, ih hrest⟩
    · exact ⟨rfl, textAttributes_canonical houter, hplain, hdict⟩
    · refine throughout_element.mpr ⟨?_, hcontent⟩
      exact ⟨rfl, textAttributes_canonical (textAttributes_output hinner), hplain', hdict'⟩
  | formula _ _ _ ih =>
    intro hnodes
    exact throughout_cons.mpr ⟨(throughout_leaf rfl).mpr rfl, ih (throughout_cons.mp hnodes).2⟩
  | element _ _ _ _ ihChildren ih =>
    intro hnodes
    obtain ⟨hnode, hrest⟩ := throughout_cons.mp hnodes
    obtain ⟨⟨-, hattributes, hplain, hdict⟩, hchildren⟩ := throughout_element.mp hnode
    rw [metadataRecord_eq hdict]
    refine throughout_cons.mpr ⟨throughout_element.mpr ⟨?_, ihChildren hchildren⟩, ih hrest⟩
    exact ⟨isTextLabel_normalTag _ _, textAttributes_normal hattributes _, hplain, hdict⟩

theorem isPlain_noMetadata : (Datum.dict []).IsPlain := by
  have hnames : (([] : List (String × Datum)).map Prod.fst).Nodup := List.nodup_nil
  exact .dict hnames nofun

/-- An element with plain names can be written if its values are texts. -/
theorem isWritable_plain {tag : String} {attributes : List (String × Datum)} {children : List Node}
    (hattributes : ∀ pair ∈ attributes, isTextDatum pair.2 = true) :
    IsWritable (.plain tag attributes children) := by
  refine ⟨rfl, ?_, isPlain_noMetadata, [], rfl⟩
  intro pair hmem
  obtain ⟨given, hgiven, rfl⟩ := List.mem_map.mp hmem
  exact ⟨rfl, hattributes given hgiven⟩

theorem throughout_writable_plain {tag : String} {attributes : List (String × Datum)}
    {children : List Node} (hattributes : ∀ pair ∈ attributes, isTextDatum pair.2 = true)
    (hchildren : Throughout IsWritable children) :
    Throughout IsWritable [.plain tag attributes children] :=
  throughout_plain.mpr ⟨isWritable_plain hattributes, hchildren⟩

/-- Joining texts keeps what can be written. -/
theorem throughout_writable_fuse {nodes : List Node} (hnodes : Throughout IsWritable nodes) :
    Throughout IsWritable (fuse nodes) := by
  have hjoin (a b : Datum) (ha : Throughout IsWritable [.text a]) (hb : Throughout IsWritable [.text b]) :
      Throughout IsWritable [.text (joinContent a b)] := by
    obtain ⟨s, rfl⟩ := isTextDatum_iff.mp ((throughout_leaf rfl).mp ha)
    obtain ⟨t, rfl⟩ := isTextDatum_iff.mp ((throughout_leaf rfl).mp hb)
    exact (throughout_leaf rfl).mpr rfl
  rw [throughout_iff_forall] at hnodes ⊢
  exact (forall_mem_fuse hjoin hnodes).1

theorem throughout_writable_text (content : String) : Throughout IsWritable [.text (.str content)] :=
  (throughout_leaf rfl).mpr rfl

theorem throughout_writable_comment (inner : String) : Throughout IsWritable [ofComment inner] :=
  (throughout_leaf rfl).mpr ⟨rfl, _, rfl⟩

end Node

namespace Markdown

open Node

namespace Inline

mutual

/-- The contents, addresses and titles in the token are texts, if they are used. -/
def HoldsTexts : Inline → Prop
  | .text raw | .code _ raw => isTextDatum raw = true
  | .styled _ children => AllHoldTexts children
  | .link url title children =>
    isTextDatum url = true ∧ (title.truthy = true → isTextDatum title = true) ∧ AllHoldTexts children
  | .image url title _ => isTextDatum url = true ∧ (title.truthy = true → isTextDatum title = true)
  | .lineBreak | .softBreak | .html _ | .unsupported _ | .malformed _ => True

def AllHoldTexts : List Inline → Prop
  | [] => True
  | token :: rest => HoldsTexts token ∧ AllHoldTexts rest

end

theorem allHoldTexts_iff {tokens : List Inline} :
    AllHoldTexts tokens ↔ ∀ token ∈ tokens, token.HoldsTexts := by
  induction tokens with
  | nil => simp [AllHoldTexts]
  | cons token rest ih => rw [AllHoldTexts, ih, List.forall_mem_cons]

/-- An optional attribute has a text for value if it is there at all. -/
theorem text_of_mem_optional {name : String} {value : Datum}
    (hvalue : value.truthy = true → isTextDatum value = true) :
    ∀ pair ∈ Node.optional name value, isTextDatum pair.2 = true := by
  unfold Node.optional
  split
  · rename_i htruthy
    simpa using hvalue htruthy
  · exact nofun

mutual

/-- An inline token that holds texts becomes a node that can be written. -/
theorem throughout_writable_node? : (token : Inline) → token.HoldsTexts →
    ∀ node ∈ node? token, Throughout IsWritable [node]
  | .text raw, htexts, _, hnode => by
    cases hnode
    exact (throughout_leaf rfl).mpr htexts
  | .styled style children, htexts, _, hnode => by
    cases hnode
    exact throughout_writable_plain nofun
      (throughout_writable_fuse (throughout_writable_nodes children htexts))
  | .code kind raw, htexts, _, hnode => by
    cases hnode
    exact throughout_writable_plain (by simp [isTextDatum]) ((throughout_leaf rfl).mpr htexts)
  | .lineBreak, _, _, hnode => by
    cases hnode
    exact throughout_writable_plain nofun throughout_nil
  | .softBreak, _, _, hnode => by
    cases hnode
    exact throughout_writable_text _
  | .link url title children, ⟨hurl, htitle, hchildren⟩, _, hnode => by
    cases hnode
    exact throughout_writable_plain (List.forall_mem_cons.mpr ⟨hurl, text_of_mem_optional htitle⟩)
      (throughout_writable_fuse (throughout_writable_nodes children hchildren))
  | .image url title description, ⟨hurl, htitle⟩, _, hnode => by
    cases hnode
    refine throughout_writable_plain (List.forall_mem_cons.mpr ⟨hurl, ?_⟩) throughout_nil
    exact List.forall_mem_cons.mpr ⟨rfl, text_of_mem_optional htitle⟩
  | .html raw, _, _, hnode => by
    cases hnode
    unfold ofInlineHtml
    split
    · exact throughout_writable_comment _
    · exact throughout_writable_text _
  | .unsupported _, _, _, hnode => by cases hnode
  | .malformed _, _, _, hnode => by cases hnode

/-- Inline tokens that hold texts become nodes that can be written. -/
theorem throughout_writable_nodes : (tokens : List Inline) → AllHoldTexts tokens →
    Throughout IsWritable (nodes tokens)
  | [], _ => throughout_nil
  | token :: rest, ⟨htoken, hrest⟩ => by
    have hfirst := throughout_writable_node? token htoken
    have hothers := throughout_writable_nodes rest hrest
    rw [nodes]
    split
    · rename_i node hnode
      exact throughout_cons.mpr ⟨hfirst node hnode, hothers⟩
    · exact hothers

end

/-- Inline tokens that hold texts can be written after their texts have been joined. -/
theorem throughout_writable_toNodes {tokens : List Inline}
    (htexts : ∀ token ∈ tokens, token.HoldsTexts) : Throughout IsWritable (toNodes tokens) :=
  throughout_writable_fuse (throughout_writable_nodes tokens (allHoldTexts_iff.mpr htexts))

end Inline

/-- The address and the title in the details of the token are texts or absent, and so it is with the
    tokens below it. -/
inductive HasTextLinks : Entries → Prop where
  | intro {token : Entries} {below : List Entries}
      (hurl : isTextDatum (detailOr "url" (.str "") token) = true)
      (htitle : (detailOr "title" .null token).truthy = true →
        isTextDatum (detailOr "title" .null token) = true)
      (hbelow : fieldOr "children" (.list []) token = .list (below.map .dict))
      (hall : ∀ child ∈ below, HasTextLinks child) : HasTextLinks token

/-- Whatever the token is taken for, what is made of it can be written. -/
structure Writable (token : Entries) : Prop where
  inline : (readInline token).HoldsTexts
  block : Throughout IsWritable (readBlock token).toNodes
  item : Throughout IsWritable (Block.allNodes (readBlocks (nested token)))
  cell : ∀ tag, ∀ node ∈ (readCell (some token)).node? tag, Throughout IsWritable [node]
  row : ∀ node ∈ (readRow (some token)).node?, Throughout IsWritable [node]
  part : ∀ node ∈ (readSection (some token)).node?, Throughout IsWritable [node]

section Below

variable {token : Entries} {type raw : String} {below : List Entries}
  (hbelow : fieldOr "children" (.list []) token = .list (below.map .dict))
  (hall : ∀ child ∈ below, Writable child)

include hall in
theorem holdsTexts_map : ∀ child ∈ below.map readInline, child.HoldsTexts :=
  List.forall_mem_map.mpr fun child hmem => (hall child hmem).inline

include hall in
theorem throughout_writable_below : Throughout IsWritable (Inline.toNodes (below.map readInline)) :=
  Inline.throughout_writable_toNodes (holdsTexts_map hall)

include hall in
theorem throughout_writable_blocks : Throughout IsWritable (Block.allNodes (below.map readBlock)) :=
  throughout_allNodes (List.forall_mem_map.mpr fun child hmem => (hall child hmem).block)

include hall in
theorem throughout_writable_cells (tag : String) :
    Throughout IsWritable (((below.map some).map readCell).filterMap (Cell.node? tag)) := by
  refine throughout_iff_forall.mpr fun node hmem => ?_
  obtain ⟨cell, hcell, hnode⟩ := List.mem_filterMap.mp hmem
  rw [List.map_map] at hcell
  obtain ⟨child, hchild, rfl⟩ := List.mem_map.mp hcell
  exact (hall child hchild).cell tag node hnode

include hbelow hall in
theorem throughout_writable_cell (tag : String) :
    ∀ node ∈ (readCell (some token)).node? tag, Throughout IsWritable [node] := by
  intro node hnode
  rw [readCell, readInlines_nestedInList hbelow] at hnode
  cases hnode
  refine throughout_writable_plain ?_ (throughout_writable_below hall)
  split <;> simp [isTextDatum]

include hbelow hall in
theorem throughout_writable_row :
    ∀ node ∈ (readRow (some token)).node?, Throughout IsWritable [node] := by
  intro node hnode
  rw [readRow, isNested_eq hbelow, if_pos rfl, nested_eq hbelow] at hnode
  cases hnode
  exact throughout_writable_plain nofun (throughout_writable_cells hall "td")

include hbelow hall in
theorem throughout_writable_part :
    ∀ node ∈ (readSection (some token)).node?, Throughout IsWritable [node] := by
  intro node hnode
  rw [readSection, isNested_eq hbelow, if_pos rfl, if_pos rfl, nested_eq hbelow] at hnode
  split at hnode
  · cases hnode
    exact throughout_writable_plain nofun
      (throughout_writable_plain nofun (throughout_writable_cells hall "th"))
  · split at hnode
    · cases hnode
      refine throughout_writable_plain nofun (throughout_iff_forall.mpr fun node hmem => ?_)
      obtain ⟨row, hrow, hnode⟩ := List.mem_filterMap.mp hmem
      rw [List.map_map] at hrow
      obtain ⟨child, hchild, rfl⟩ := List.mem_map.mp hrow
      exact (hall child hchild).row node hnode
    · cases hnode

include hbelow hall in
/-- An inline token holds texts if its source, its address and its title are texts. -/
theorem holdsTexts_readInline (htype : typeOf token = .str type) (hraw : rawOf token = .str raw)
    (hurl : isTextDatum (detailOr "url" (.str "") token) = true)
    (htitle : (detailOr "title" .null token).truthy = true →
      isTextDatum (detailOr "title" .null token) = true) : (readInline token).HoldsTexts := by
  have hchildren := Inline.allHoldTexts_iff.mpr (holdsTexts_map hall)
  rw [readInline, htype, readInlines_nestedInList hbelow]
  dsimp only
  split
  · rw [hraw]
    rfl
  · exact hchildren
  · exact hchildren
  · exact hchildren
  · rw [hraw]
    rfl
  · rw [hraw]
    rfl
  · rw [hraw]
    rfl
  · trivial
  · trivial
  · exact ⟨hurl, htitle, hchildren⟩
  · rw [isNested_eq hbelow, if_pos rfl]
    exact ⟨hurl, htitle⟩
  · rw [hraw]
    trivial
  · trivial

theorem throughout_writable_codeNode (source info : String) :
    Throughout IsWritable [Block.codeNode source info] := by
  refine throughout_writable_plain nofun (throughout_writable_plain ?_ (throughout_writable_text _))
  split
  · exact nofun
  · simp [isTextDatum]

theorem throughout_writable_htmlBlock (raw : String) : Throughout IsWritable [ofHtmlBlock raw] := by
  unfold ofHtmlBlock
  split
  · exact throughout_writable_comment _
  · have hnames : ["verbatim"].Nodup := by decide
    have hplain : (Datum.record [("verbatim", .bool true)]).IsPlain :=
      .dict hnames (List.forall_mem_singleton.mpr (.bool true))
    exact throughout_element.mpr ⟨⟨rfl, nofun, hplain, _, rfl⟩, throughout_writable_text _⟩

include hall in
/-- A block can be written if what is below its token can, whatever its type. -/
theorem throughout_writable_block {block : Block} (hblock : ReadsAs token raw below block) :
    Throughout IsWritable block.toNodes := by
  cases hblock with
  | heading =>
    refine throughout_ofHeading (fun _ => rfl) (fun attributes children => ?_)
      (throughout_writable_below hall)
    exact isWritable_plain (List.forall_mem_map.mpr fun _ _ => rfl)
  | paragraph => exact throughout_writable_plain nofun (throughout_writable_below hall)
  | plain => exact throughout_writable_below hall
  | code =>
    unfold readCode
    split
    · split
      · exact throughout_writable_codeNode _ _
      · split
        · exact throughout_nil
        · exact throughout_writable_codeNode _ _
    · exact throughout_nil
  | quote => exact throughout_writable_plain nofun (throughout_writable_blocks hall)
  | list _ ordered start =>
    refine throughout_writable_plain ?_ (throughout_itemNodes (fun _ => isWritable_plain nofun) ?_)
    · unfold Block.startAttribute
      split
      · simp [isTextDatum]
      · exact nofun
    · exact List.forall_mem_map.mpr fun child hmem => (hall child hmem).item
  | table =>
    refine throughout_writable_plain nofun (throughout_iff_forall.mpr fun node hmem => ?_)
    obtain ⟨part, hpart, hnode⟩ := List.mem_filterMap.mp hmem
    obtain ⟨child, hchild, rfl⟩ := List.mem_map.mp hpart
    exact (hall child hchild).part node hnode
  | rule => exact throughout_writable_plain nofun throughout_nil
  | html => exact throughout_writable_htmlBlock raw
  | math =>
    exact throughout_writable_plain nofun
      (throughout_writable_plain (by simp [isTextDatum]) (throughout_writable_text _))
  | blank | unsupported => exact throughout_nil

end Below

/-- What a well-formed token becomes can be written, if links have texts. -/
theorem WellFormed.writable {token : Entries} (h : WellFormed HasInfo token) :
    HasTextLinks token → Writable token := by
  induction h with
  | @intro token attrs type raw below htype hraw _ _ _ hbelow hwell ih =>
    rintro ⟨hurl, htitle, hbelow', hall'⟩
    rename_i below'
    obtain rfl : below' = below := by
      have hsame := Datum.list.inj (hbelow'.symm.trans hbelow)
      exact (List.map_inj_right fun _ _ heq => Datum.dict.inj heq).mp hsame
    have hall : ∀ child ∈ below', Writable child := fun child hmem => ih child hmem (hall' child hmem)
    have hblock := readsAs htype hraw hbelow fun child hmem => (hwell child hmem).isNested
    refine ⟨holdsTexts_readInline hbelow hall htype hraw hurl htitle,
      throughout_writable_block hall hblock, ?_, throughout_writable_cell hbelow hall,
      throughout_writable_row hbelow hall, throughout_writable_part hbelow hall⟩
    rw [readBlocks_nested hbelow]
    exact throughout_writable_blocks hall

/-- A list of well-formed tokens with texts for addresses and titles. A stream that is no list stands for
    no tokens at all. -/
def IsPromised (stream : Datum) : Prop :=
  ∀ items, stream = .list items → ∃ tokens, items = tokens.map .dict ∧ AreWellFormed tokens ∧
    ∀ token ∈ tokens, HasTextLinks token

example (raw : String) : IsPromised (.list [.dict (Sample.paragraph raw)]) := by
  rintro _ ⟨⟩
  have htext : HasTextLinks (Sample.text raw) := @HasTextLinks.intro _ [] rfl nofun rfl nofun
  have hparagraph : HasTextLinks (Sample.paragraph raw) :=
    @HasTextLinks.intro _ [Sample.text raw] rfl nofun rfl (List.forall_mem_singleton.mpr htext)
  exact ⟨[Sample.paragraph raw], rfl, List.forall_mem_singleton.mpr (Sample.wellFormed_paragraph raw),
    List.forall_mem_singleton.mpr hparagraph⟩

section Promised

variable {stream : Datum} (hstream : IsPromised stream)
include hstream

end Promised

end Markdown

end MarkTree
