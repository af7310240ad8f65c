import Mathlib.Data.List.Forall2
import MarkTree.Proofs.Markdown.CodeBlock
import MarkTree.Proofs.Markdown.Shape
import MarkTree.Proofs.Normalize.CodeTexts

namespace MarkTree.Markdown

open Node

mutual

/-- The code tokens of a token, the token itself or those in it, in reading order. -/
def codeTokensFrom (token : Entries) : List Entries :=
  match typeOf token with
  | .str "block_code" => [token]
  | .str "block_quote" => codeTokensAmong (nested token)
  | .str "list" => codeTokensOfItems (nested token)
  | _ => []
termination_by sizeOf token + 1
decreasing_by
  all_goals
    have := sizeOf_nested token
    omega

def codeTokensAmong (items : List (Option Entries)) : List Entries :=
  match items with
  | [] => []
  | none :: rest => codeTokensAmong rest
  | some token :: rest => codeTokensFrom token ++ codeTokensAmong rest
termination_by sizeOf items
decreasing_by
  all_goals
    simp only [List.cons.sizeOf_spec, Option.some.sizeOf_spec, Option.none.sizeOf_spec]
    omega

/-- The code tokens of the items of a list, each of which has tokens of its own. -/
def codeTokensOfItems (items : List (Option Entries)) : List Entries :=
  match items with
  | [] => []
  | none :: rest => codeTokensOfItems rest
  | some token :: rest => codeTokensAmong (nested token) ++ codeTokensOfItems rest
termination_by sizeOf items
decreasing_by
  all_goals simp only [List.cons.sizeOf_spec, Option.some.sizeOf_spec, Option.none.sizeOf_spec]
  · omega
  · have := sizeOf_nested token
    omega
  · omega

end

/-- The code tokens of a list of tokens, in reading order. -/
def codeTokens (tokens : List Entries) : List Entries :=
  tokens.flatMap codeTokensFrom

theorem codeTokensAmong_map_some (tokens : List Entries) :
    codeTokensAmong (tokens.map some) = codeTokens tokens := by
  induction tokens with
  | nil => rw [List.map_nil, codeTokensAmong, codeTokens, List.flatMap_nil]
  | cons token rest ih =>
    rw [List.map_cons, codeTokensAmong, ih, codeTokens, codeTokens, List.flatMap_cons]

theorem codeTokensOfItems_map_some (tokens : List Entries) :
    codeTokensOfItems (tokens.map some) = tokens.flatMap fun token => codeTokensAmong (nested token) := by
  induction tokens with
  | nil => rw [List.map_nil, codeTokensOfItems, List.flatMap_nil]
  | cons token rest ih => rw [List.map_cons, codeTokensOfItems, ih, List.flatMap_cons]

theorem codeTokensFrom_eq_nil {token : Entries} {type : String} (htype : typeOf token = .str type)
    (hcode : type ≠ "block_code") (hquote : type ≠ "block_quote") (hlist : type ≠ "list") :
    codeTokensFrom token = [] := by
  rw [codeTokensFrom, htype]
  split
  · rename_i heq
    exact absurd (Datum.str.inj heq) hcode
  · rename_i heq
    exact absurd (Datum.str.inj heq) hquote
  · rename_i heq
    exact absurd (Datum.str.inj heq) hlist
  · rfl

/-- A code block with a class, if there is one, and a text. -/
def codeElement (class? : Option String) (text : String) : Node :=
  .plain "pre" [] [.plain "code" (class?.toList.map fun name => ("class", .str name)) [.text (.str text)]]

/-- The element is the code block of the token: it has the source without the line feed at its end, and
    the first word of the info string for its class. -/
def IsCodeOf (token : Entries) (node : Node) : Prop :=
  ∃ source text info, rawOf token = .str source ∧ IsChomped source text ∧
    IsInfo info (detailOr "info" .null token) ∧ node = codeElement (Text.wordsOf info).head? text

/-- The content is the source of the token without the line feed at its end. -/
def IsSourceOf (token : Entries) (content : Datum) : Prop :=
  ∃ source text, rawOf token = .str source ∧ IsChomped source text ∧ content = .str text

/-- The first word of the info string of the token is the class of a formula. -/
def NamesFormula (token : Entries) : Prop :=
  ∃ info word, IsInfo info (detailOr "info" .null token) ∧ (Text.wordsOf info).head? = some word ∧
    (word = "math-inline" ∨ word = "math-display")

/-- A code block is made from the source and the first word of the info string. -/
theorem codeNode_eq (source info : String) :
    Block.codeNode source info = codeElement (Text.wordsOf info).head? (Block.codeSource source) := by
  rw [Block.codeNode, codeElement]
  cases Text.wordsOf info with
  | nil => rfl
  | cons word rest => rfl

/-- What is no `pre` is no code block. -/
theorem isCodeBlock_of_hasTag {node : Node} (hpre : hasTag "pre" node = false) :
    node.isCodeBlock = false := by
  unfold isCodeBlock
  split
  · rw [hasTag] at hpre
    rw [hpre, Bool.false_and]
  · rfl

/-- What is no `pre` may hold anything. -/
theorem isPreformatted_of_hasTag {node : Node} (hpre : hasTag "pre" node = false) :
    IsPreformatted node := by
  cases node with
  | element =>
    intro htag
    rw [hasTag, htag] at hpre
    cases hpre
  | _ => trivial

theorem InlineNode.hasTag_pre {node : Node} (h : InlineNode node) : hasTag "pre" node = false := by
  cases h with
  | text | comment => rfl
  | styled style => cases style <;> simp [Emphasis.tag]
  | code | lineBreak | link | image => simp

theorem TableNode.hasTag_pre {node : Node} (h : TableNode node) : hasTag "pre" node = false := by
  cases h with
  | inline h => exact h.hasTag_pre
  | table | head | body | row => simp
  | cell htag => rcases htag with rfl | rfl <;> simp

theorem headingTag_ne_pre {tag : String} (htag : tag ∈ headingTags) : tag ≠ "pre" := by
  rintro rfl
  exact absurd htag (by decide)

/-- Every `pre` of a tree holds code around a text, or a text. -/
theorem BlockNode.isPreformatted {node : Node} (h : BlockNode node) : IsPreformatted node := by
  cases h with
  | table h => exact isPreformatted_of_hasTag h.hasTag_pre
  | heading htag => exact isPreformatted_of_hasTag (by simp [headingTag_ne_pre htag])
  | paragraph | language | quote | item | rule => exact isPreformatted_of_hasTag (by simp)
  | list ordered => exact isPreformatted_of_hasTag (by cases ordered <;> simp)
  | codeBlock => exact fun _ => .inl ⟨_, _, _, _, by decide, rfl⟩
  | verbatim => exact fun _ => .inr ⟨_, rfl⟩

theorem codeBlocksOf_append (front back : List Node) :
    codeBlocksOf (front ++ back) = codeBlocksOf front ++ codeBlocksOf back := by
  rw [codeBlocksOf, nodesOf_append, List.filter_append]
  rfl

theorem codeBlocksOf_eq_nil {nodes : List Node}
    (hnodes : Throughout (fun node => hasTag "pre" node = false) nodes) : codeBlocksOf nodes = [] := by
  refine List.filter_eq_nil_iff.mpr fun node hmem => ?_
  rw [isCodeBlock_of_hasTag (hnodes node hmem)]
  exact Bool.false_ne_true

theorem codeBlocksOf_plain {tag : String} (htag : tag ≠ "pre") (attributes : List (String × Datum))
    (children : List Node) : codeBlocksOf [.plain tag attributes children] = codeBlocksOf children := by
  have hblock : isCodeBlock (.plain tag attributes children) = false :=
    isCodeBlock_of_hasTag (by simp [htag])
  have hnodes : nodesOf [.plain tag attributes children] =
      .plain tag attributes children :: nodesOf children := by
    simp [plain]
  rw [codeBlocksOf, hnodes, List.filter_cons_of_neg (by simp [hblock])]
  rfl

/-- Inline tokens hold no code block. -/
theorem codeBlocksOf_inline (tokens : List Inline) : codeBlocksOf (Inline.toNodes tokens) = [] :=
  codeBlocksOf_eq_nil ((throughout_inline tokens).mono fun _ => InlineNode.hasTag_pre)

theorem codeBlocksOf_heading {level : Datum} (hlevel : ∀ flag, level ≠ .bool flag)
    (children : List Inline) : codeBlocksOf (Block.heading level children).toNodes = [] := by
  have hchildren := (throughout_inline children).mono fun _ => InlineNode.hasTag_pre
  have hpre := headingTag_ne_pre (headingTag_mem hlevel)
  exact codeBlocksOf_eq_nil
    (throughout_ofHeading (fun _ => rfl) (fun _ _ => by simp [hpre]) hchildren)

theorem codeBlocksOf_ofHtmlBlock (raw : String) : codeBlocksOf [ofHtmlBlock raw] = [] := by
  unfold ofHtmlBlock
  split
  · rfl
  · simp [codeBlocksOf, nodesFrom_leaf (isElement_text _), isCodeBlock]

section Below

variable {below : List Entries}

/-- Tokens side by side have their code blocks in the tree, in order. -/
theorem codes_documentOf
    (hbelow : ∀ child ∈ below,
      List.Forall₂ IsCodeOf (codeTokensFrom child) (codeBlocksOf (readBlock child).toNodes)) :
    List.Forall₂ IsCodeOf (codeTokens below) (codeBlocksOf (documentOf below)) := by
  induction below with
  | nil => exact .nil
  | cons child rest ih =>
    obtain ⟨hchild, hrest⟩ := List.forall_mem_cons.mp hbelow
    rw [codeTokens, List.flatMap_cons, documentOf_cons, codeBlocksOf_append]
    exact List.rel_append hchild (ih hrest)

/-- The items of a list have their code blocks in the tree, in order. -/
theorem codes_itemNodes
    (hbelow : ∀ child ∈ below, List.Forall₂ IsCodeOf (codeTokensAmong (nested child))
      (codeBlocksOf (Block.allNodes (readBlocks (nested child))))) :
    List.Forall₂ IsCodeOf (below.flatMap fun child => codeTokensAmong (nested child))
      (codeBlocksOf (Block.itemNodes (below.map fun child => readBlocks (nested child)))) := by
  induction below with
  | nil => exact .nil
  | cons child rest ih =>
    obtain ⟨hchild, hrest⟩ := List.forall_mem_cons.mp hbelow
    rw [List.flatMap_cons, List.map_cons, Block.itemNodes, ← List.singleton_append, codeBlocksOf_append,
      codeBlocksOf_plain (by decide)]
    exact List.rel_append hchild (ih hrest)

end Below

/-- The code tokens of a token and the code blocks of its nodes are the same, one by one; so are those of
    the item that the token is in a list. -/
theorem WellFormed.codes {token : Entries} (h : WellFormed HasInfo token) :
    List.Forall₂ IsCodeOf (codeTokensFrom token) (codeBlocksOf (readBlock token).toNodes) ∧
      List.Forall₂ IsCodeOf (codeTokensAmong (nested token))
        (codeBlocksOf (Block.allNodes (readBlocks (nested token)))) := by
  induction h with
  | @intro token attrs type raw below htype hraw hattrs hlevel hinfo hbelow hwell ih =>
    have hdocument : List.Forall₂ IsCodeOf (codeTokens below) (codeBlocksOf (documentOf below)) :=
      codes_documentOf fun child hmem => (ih child hmem).1
    have hitem : codeTokensAmong (nested token) = codeTokens below := by
      rw [nested_eq hbelow, codeTokensAmong_map_some]
    refine ⟨?_, by rwa [hitem, readBlocks_nested hbelow]⟩
    have hblock := readsAs htype hraw hbelow fun child hmem => (hwell child hmem).isNested
    -- A block of any other kind has neither code tokens nor code blocks.
    have hnone {nodes : List Node} {type' : String} (htype' : typeOf token = .str type')
        (hcode : type' ≠ "block_code") (hquote : type' ≠ "block_quote") (hlist : type' ≠ "list")
        (hnodes : codeBlocksOf nodes = []) :
        List.Forall₂ IsCodeOf (codeTokensFrom token) (codeBlocksOf nodes) := by
      rw [codeTokensFrom_eq_nil htype' hcode hquote hlist, hnodes]
      exact .nil
    generalize readBlock token = block at hblock
    cases hblock with
    | code hcode =>
      obtain rfl : type = "block_code" := by simpa [htype] using hcode
      obtain ⟨info, hinfo⟩ := hinfo rfl
      rw [← details_eq hattrs] at hinfo
      rw [codeTokensFrom, hcode, readCode_eq hraw hinfo]
      exact .cons ⟨raw, _, info, hraw, isChomped_codeSource raw, hinfo, codeNode_eq raw info⟩ .nil
    | quote hquote =>
      rw [codeTokensFrom, hquote, hitem, Block.toNodes, codeBlocksOf_plain (by decide)]
      exact hdocument
    | list hlist ordered start =>
      rw [codeTokensFrom, hlist, nested_eq hbelow, codeTokensOfItems_map_some, Block.toNodes,
        codeBlocksOf_plain (by cases ordered <;> decide)]
      exact codes_itemNodes fun child hmem => (ih child hmem).2
    | heading hheading =>
      obtain rfl : type = "heading" := by simpa [htype] using hheading
      refine hnone htype (by decide) (by decide) (by decide) (codeBlocksOf_heading ?_ _)
      rw [detailOr, details_eq hattrs]
      exact hlevel rfl
    | paragraph htype =>
      refine hnone htype (by decide) (by decide) (by decide) ?_
      rw [Block.toNodes, codeBlocksOf_plain (by decide), codeBlocksOf_inline]
    | plain htype => exact hnone htype (by decide) (by decide) (by decide) (codeBlocksOf_inline _)
    | table htype =>
      refine hnone htype (by decide) (by decide) (by decide) (codeBlocksOf_eq_nil ?_)
      exact (throughout_table _).mono fun _ => TableNode.hasTag_pre
    | html htype =>
      exact hnone htype (by decide) (by decide) (by decide) (codeBlocksOf_ofHtmlBlock raw)
    | rule htype | math htype | blank htype =>
      exact hnone htype (by decide) (by decide) (by decide) rfl
    | unsupported htype hcode hquote hlist => exact hnone htype hcode hquote hlist rfl

/-- Code holds a formula only if its first word is the class of one. -/
theorem holdsFormula_codeElement {class? : Option String} {text : String}
    (hformula : (codeElement class? text).holdsFormula = true) :
    ∃ word, class? = some word ∧ (word = "math-inline" ∨ word = "math-display") := by
  cases class? with
  | none => cases hformula
  | some word =>
    refine ⟨word, rfl, ?_⟩
    by_contra hword
    obtain ⟨hinline, hdisplay⟩ := not_or.mp hword
    have hnone : (codeElement (some word) text).holdsFormula = false := by
      simp [codeElement, plain, holdsFormula, formula?, hinline, hdisplay]
    rw [hnone] at hformula
    cases hformula

section Codes

variable {tokens : List Entries} {nodes : List Node} (hcodes : List.Forall₂ IsCodeOf tokens nodes)
include hcodes

/-- The texts of the code blocks are the sources of the tokens. -/
theorem sources_of_codes : List.Forall₂ IsSourceOf tokens (nodes.filterMap codeText?) := by
  induction hcodes with
  | nil => exact .nil
  | cons hcode _ ih =>
    obtain ⟨source, text, info, hraw, hchomped, -, rfl⟩ := hcode
    have htext : codeText? (codeElement (Text.wordsOf info).head? text) = some (.str text) := rfl
    rw [List.filterMap_cons_some htext]
    exact .cons ⟨source, text, hraw, hchomped, rfl⟩ ih

/-- Where no language names a formula, no code block holds one. -/
theorem holdsFormula_of_codes (hlanguages : ∀ token ∈ tokens, ¬ NamesFormula token) :
    ∀ node ∈ nodes, node.holdsFormula = false := by
  induction hcodes with
  | nil => simp
  | cons hcode _ ih =>
    obtain ⟨hlanguage, hrest⟩ := List.forall_mem_cons.mp hlanguages
    obtain ⟨source, text, info, -, -, hinfo, rfl⟩ := hcode
    refine List.forall_mem_cons.mpr ⟨?_, ih hrest⟩
    rw [← Bool.not_eq_true]
    intro hformula
    obtain ⟨word, hword, hclass⟩ := holdsFormula_codeElement hformula
    exact hlanguage ⟨info, word, hinfo, hword, hclass⟩

end Codes

/-- All code tokens have their code blocks in the tree, in order, and those code blocks whose code is no
    formula or that an output marker announces are in the normalized tree with the same texts. So the
    texts are the sources of the code tokens as long as no language is the class of a formula. -/
theorem codeTexts_normalTreeOf {tokens : List Entries} (htokens : AreWellFormed tokens) :
    ∃ tree out, treeOf tokens = .ok tree ∧ normalTreeOf tokens = .ok out ∧
      List.Forall₂ IsCodeOf (codeTokens tokens) (codeBlocksOf tree) ∧
      codeTexts out = keptTextsAmong [] none tree ∧
      ((∀ token ∈ codeTokens tokens, ¬ NamesFormula token) →
        List.Forall₂ IsSourceOf (codeTokens tokens) (codeTexts out)) := by
  have hcodes : List.Forall₂ IsCodeOf (codeTokens tokens) (codeBlocksOf (documentOf tokens)) :=
    codes_documentOf fun token hmem => (htokens token hmem).codes.1
  have hkinds := throughout_documentOf htokens.readable
  have hwalk := normalizes_normalizedAll (documentOf tokens) none
  have htexts := hwalk.codeTexts_eq (isUsable_of_throughout hkinds)
    (hkinds.mono fun _ => BlockNode.isPreformatted) []
  refine ⟨_, _, treeOf_eq_ok fun token hmem => (htokens.readable token hmem).trace,
    normalTreeOf_eq_ok htokens.readable, hcodes, htexts, fun hlanguages => ?_⟩
  have hkept := keptTextsAmong_eq_codeTexts (holdsFormula_of_codes hcodes hlanguages) [] none
  have hsources := sources_of_codes hcodes
  rwa [← codeTexts_eq_filterMap, ← hkept, ← htexts] at hsources

namespace Sample

theorem namesFormula_fence {info source : String} (h : NamesFormula (fence info source)) :
    (Text.wordsOf info).head? = some "math-inline" ∨ (Text.wordsOf info).head? = some "math-display" := by
  obtain ⟨info', word, hinfo, hword, hclass⟩ := h
  have hdetail : detailOr "info" .null (fence info source) = .str info := rfl
  rw [hdetail] at hinfo
  obtain rfl : info' = info := by
    rcases hinfo with heq | ⟨habsent, rfl⟩
    · exact (Datum.str.inj heq).symm
    · rw [Datum.truthy, bne_eq_false_iff_eq] at habsent
      exact habsent.symm
  rw [hword]
  exact hclass.imp (congrArg some) (congrArg some)

/-- Code with a language in a quote, and code without one behind it. -/
def listing : List Entries :=
  [quote [paragraph "a", fence "py x" "b\n"], fence "" "c"]

theorem wellFormed_listing : AreWellFormed listing := by
  have hcode (info source : String) : WellFormed HasInfo (fence info source) :=
    wellFormed_fence (hasInfo_str info) source
  refine List.forall_mem_cons.mpr ⟨wellFormed_quote ?_, List.forall_mem_singleton.mpr (hcode _ _)⟩
  exact List.forall_mem_cons.mpr ⟨wellFormed_paragraph _, List.forall_mem_singleton.mpr (hcode _ _)⟩

theorem codeTokens_listing : codeTokens listing = [fence "py x" "b\n", fence "" "c"] := by
  decide +kernel

end Sample

open Sample in
theorem codeTexts_normalTreeOf_listing :
    AreWellFormed listing ∧ (∀ token ∈ codeTokens listing, ¬ NamesFormula token) ∧
      ∃ out, normalTreeOf listing = .ok out ∧
        List.Forall₂ IsSourceOf [fence "py x" "b\n", fence "" "c"] (codeTexts out) := by
  have hlanguages : ∀ token ∈ codeTokens listing, ¬ NamesFormula token := by
    rw [codeTokens_listing]
    refine List.forall_mem_cons.mpr ⟨fun h => ?_, List.forall_mem_singleton.mpr fun h => ?_⟩
    · exact absurd (namesFormula_fence h) (by decide)
    · exact absurd (namesFormula_fence h) (by decide)
  obtain ⟨_, out, -, hout, -, -, hsources⟩ := codeTexts_normalTreeOf wellFormed_listing
  exact ⟨wellFormed_listing, hlanguages, out, hout, codeTokens_listing ▸ hsources hlanguages⟩

open Sample in
/-- Code whose language is the class of formulas is lost: its text comes out between dollar signs. -/
theorem codeTexts_formula_language :
    AreWellFormed [fence "math-inline" "x\n"] ∧
      codeTokens [fence "math-inline" "x\n"] = [fence "math-inline" "x\n"] ∧
      ∃ out, normalTreeOf [fence "math-inline" "x\n"] = .ok out ∧
        out = [.element (.name "pre") [] [.text (.str "$x$")] (.dict [])] ∧
        ¬ List.Forall₂ IsSourceOf (codeTokens [fence "math-inline" "x\n"]) (codeTexts out) := by
  have hwell : AreWellFormed [fence "math-inline" "x\n"] :=
    List.forall_mem_singleton.mpr (wellFormed_fence (hasInfo_str _) _)
  have htokens : codeTokens [fence "math-inline" "x\n"] = [fence "math-inline" "x\n"] := by
    decide +kernel
  have hblock : readBlock (fence "math-inline" "x\n") = .code "x\n" "math-inline" :=
    readBlock_eq_code rfl rfl (.inl rfl)
  have hnode : Block.codeNode "x\n" "math-inline" = codeElement (some "math-inline") "x" := by
    have hwords : Text.wordsOf "math-inline" = ["math-inline"] := by decide
    have hsource : Block.codeSource "x\n" = "x" := by decide
    rw [codeNode_eq, hwords, hsource]
    rfl
  have hwalk : normalizedAll false [codeElement (some "math-inline") "x"] =
      [.element (.name "pre") [] [.text (.str "$x$")] (.dict [])] := by
    simp [codeElement, plain, normalizedAll, normalized, startsWithCodeBlock, math?, Label.reads,
      Label.value, admonition, normalTag, normalAttributes, canonicalAttributes, metadataRecord,
      Datum.toEntries, Label.canonical, Label.text, Datum.display]
  have hnormal := normalTreeOf_eq_ok hwell.readable
  rw [documentOf_cons, hblock, Block.toNodes, hnode, documentOf_nil, List.append_nil, hwalk] at hnormal
  refine ⟨hwell, htokens, _, hnormal, rfl, ?_⟩
  have hnone : codeTexts [.element (.name "pre") [] [.text (.str "$x$")] (.dict [])] = [] := rfl
  rw [htokens, hnone]
  intro hsources
  cases hsources

end MarkTree.Markdown
