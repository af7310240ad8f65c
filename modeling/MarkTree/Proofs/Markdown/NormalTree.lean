import MarkTree.Proofs.Markdown.Vocabulary
import MarkTree.Proofs.Normalize.WellTyped

namespace MarkTree.Markdown

open Node

theorem usable_plain {tag : String} {attributes : List (String × Datum)}
    (hclass : ∀ pair ∈ attributes, pair.1 = "class" → isTextDatum pair.2 = true) :
    UsableElement (.plain (.str tag))
      (attributes.map fun (name, value) => (.plain (.str name), value)) (.dict []) := by
  refine ⟨rfl, ?_, ?_, ⟨[], rfl⟩⟩
  · intro pair hmem
    obtain ⟨given, -, rfl⟩ := List.mem_map.mp hmem
    rfl
  · intro pair hmem hreads
    obtain ⟨given, hgiven, rfl⟩ := List.mem_map.mp hmem
    have hname : given.1 = "class" := by simpa [Label.reads, Label.value] using hreads
    exact hclass given hgiven hname

theorem name_of_mem_optional {name : String} {value : Datum} :
    ∀ pair ∈ Node.optional name value, pair.1 = name := by
  unfold Node.optional
  split <;> simp

section Kinds

variable {tag : Label} {attributes : List Attribute} {children : List Node} {metadata : Datum}

theorem InlineNode.usable (h : InlineNode (.element tag attributes children metadata)) :
    UsableElement tag attributes metadata := by
  have htitle (value : Datum) : ∀ pair ∈ Node.optional "title" value,
      pair.1 = "class" → isTextDatum pair.2 = true := by
    intro pair hmem hname
    rw [name_of_mem_optional pair hmem] at hname
    exact absurd hname (by decide)
  generalize hnode : Node.element tag attributes children metadata = node at h
  cases h with
  | text => cases hnode
  | comment => cases hnode
  | styled | lineBreak => cases hnode; exact @usable_plain _ [] (by simp)
  | code => cases hnode; exact usable_plain (by simp [isTextDatum])
  | link url title =>
    cases hnode
    exact usable_plain (List.forall_mem_cons.mpr ⟨by simp, htitle title⟩)
  | image url title alt =>
    cases hnode
    refine usable_plain (List.forall_mem_cons.mpr ⟨by simp, ?_⟩)
    exact List.forall_mem_cons.mpr ⟨by simp, htitle title⟩

theorem TableNode.usable (h : TableNode (.element tag attributes children metadata)) :
    UsableElement tag attributes metadata := by
  generalize hnode : Node.element tag attributes children metadata = node at h
  cases h with
  | inline h => exact (hnode ▸ h).usable
  | table | head | body | row => cases hnode; exact @usable_plain _ [] (by simp)
  | cell _ hstyle =>
    cases hnode
    refine usable_plain fun pair hmem hname => ?_
    rw [hstyle pair hmem] at hname
    exact absurd hname (by decide)

/-- The elements of blocks are usable. -/
theorem BlockNode.usable (h : BlockNode (.element tag attributes children metadata)) :
    UsableElement tag attributes metadata := by
  generalize hnode : Node.element tag attributes children metadata = node at h
  cases h with
  | table h => exact (hnode ▸ h).usable
  | heading =>
    cases hnode
    refine usable_plain fun pair hmem _ => ?_
    obtain ⟨pair, -, rfl⟩ := List.mem_map.mp hmem
    rfl
  | paragraph | codeBlock | quote | item | rule => cases hnode; exact @usable_plain _ [] (by simp)
  | language hclass =>
    cases hnode
    rcases hclass with rfl | ⟨word, rfl⟩ <;> exact usable_plain (by simp [isTextDatum])
  | list ordered start =>
    cases hnode
    refine usable_plain fun pair hmem hname => ?_
    unfold Block.startAttribute at hmem
    split at hmem
    · obtain rfl := List.mem_singleton.mp hmem
      simp at hname
    · cases hmem
  | verbatim =>
    cases hnode
    exact ⟨rfl, by simp, by simp, ⟨_, rfl⟩⟩

end Kinds

/-- A tree of blocks is one that normalization can use. -/
theorem isUsable_of_throughout {document : Document} (h : Throughout BlockNode document) :
    IsUsable document :=
  fun _ _ _ _ hmem => (h _ hmem).usable

/-- Reading the token meets no fault and makes nodes of the known kinds. -/
structure Readable (token : Entries) : Prop where
  trace : (readBlock token).trace.fault? = none
  nodes : Throughout BlockNode (readBlock token).toNodes

/-- A token is readable if its block has no fault and becomes nodes of blocks. -/
theorem Readable.of_block {token : Entries} {block : Block} (hblock : readBlock token = block)
    (htrace : block.trace.fault? = none) (hnodes : Throughout BlockNode block.toNodes) :
    Readable token := by
  subst hblock
  exact ⟨htrace, hnodes⟩

/-- Well-formed tokens are readable. -/
theorem AreWellFormed.readable {tokens : List Entries} (h : AreWellFormed tokens) :
    ∀ token ∈ tokens, Readable token :=
  fun token hmem => ⟨(h token hmem).sound.block, (h token hmem).throughout.1⟩

section Readable

variable {tokens : List Entries} (htokens : ∀ token ∈ tokens, Readable token)
include htokens

/-- Readable tokens become a tree of blocks. -/
theorem throughout_documentOf : Throughout BlockNode (documentOf tokens) :=
  throughout_allNodes (List.forall_mem_map.mpr fun token hmem => (htokens token hmem).nodes)

theorem readable_quote {token : Entries} (hquote : readBlock token = .quote (tokens.map readBlock)) :
    Readable token := by
  refine .of_block hquote (Block.fault?_traces (List.forall_mem_map.mpr fun token hmem => ?_)) ?_
  · exact (htokens token hmem).trace
  · exact throughout_plain.mpr ⟨.quote _, throughout_documentOf htokens⟩

/-- Tokens that can be read have a normalized tree, the one that the walk makes of their nodes. -/
theorem normalTreeOf_eq_ok :
    normalTreeOf tokens = .ok (normalizedAll false (documentOf tokens)) := by
  have htree := treeOf_eq_ok fun token hmem => (htokens token hmem).trace
  have hnormal := normalize_eq_ok_of_usable (isUsable_of_throughout (throughout_documentOf htokens))
  rw [normalTreeOf, htree]
  change Failure.ofFault (normalize (documentOf tokens)) = _
  rw [hnormal]
  rfl

end Readable

/-- Blank lines become nothing. -/
theorem documentOf_blanks {blanks : List Entries}
    (hblanks : ∀ blank ∈ blanks, typeOf blank = .str "blank_line") :
    documentOf blanks = [] := by
  induction blanks with
  | nil => rfl
  | cons blank rest ih =>
    obtain ⟨hblank, hrest⟩ := List.forall_mem_cons.mp hblanks
    rw [documentOf_cons, readBlock_blank hblank, ih hrest]
    rfl

theorem readable_blank {blank : Entries} (hblank : typeOf blank = .str "blank_line") :
    Readable blank :=
  .of_block (readBlock_blank hblank) rfl throughout_nil

end MarkTree.Markdown
