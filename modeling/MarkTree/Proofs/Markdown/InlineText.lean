import MarkTree.Proofs.Markdown.Fusion
import MarkTree.Proofs.Markdown.HtmlComment

namespace MarkTree.Markdown

open Node
open Source (commentOpener commentCloser)

instance (raw : String) : Decidable (HasCommentEnds raw) :=
  decidable_of_iff (commentOpener <+: Text.strip raw.toList ∧ commentCloser <:+ Text.strip raw.toList)
    ⟨fun h => ⟨h.1, h.2⟩, fun h => ⟨h.begins, h.ends⟩⟩

/-- The raw source of a token, if it is a text. -/
def sourceOf (token : Entries) : String :=
  match rawOf token with
  | .str raw => raw
  | _ => ""

mutual

/-- The text of an inline token: its source, a line feed for a soft break, or what stands in the tokens
    below it. Line breaks, images, comments and tokens of other types have none. -/
def textOf (token : Entries) : String :=
  match typeOf token with
  | .str "text" | .str "codespan" | .str "inline_math" | .str "block_math" => sourceOf token
  | .str "inline_html" => if HasCommentEnds (sourceOf token) then "" else sourceOf token
  | .str "softbreak" => "\n"
  | .str "emphasis" | .str "strong" | .str "strikethrough" | .str "link" =>
    textAmong (nestedInList token)
  | _ => ""
termination_by sizeOf token + 1
decreasing_by
  all_goals
    have := sizeOf_nestedInList token
    omega

def textAmong (items : List (Option Entries)) : String :=
  match items with
  | [] => ""
  | none :: rest => textAmong rest
  | some token :: rest => textOf token ++ textAmong rest
termination_by sizeOf items
decreasing_by
  all_goals
    simp only [List.cons.sizeOf_spec, Option.some.sizeOf_spec, Option.none.sizeOf_spec]
    omega

end

/-- The text of a list of inline tokens, in order. -/
def textsOf (tokens : List Entries) : String :=
  String.join (tokens.map textOf)

/-- No two texts stand side by side, among the nodes themselves and among the children of any element. -/
structure IsFused (nodes : List Node) : Prop where
  top : AreApart nodes
  below : ∀ tag attributes children metadata,
    .element tag attributes children metadata ∈ nodesOf nodes → AreApart children

namespace Inline

theorem nodes_cons (token : Inline) (rest : List Inline) :
    nodes (token :: rest) = (node? token).toList ++ nodes rest := by
  rw [nodes]
  cases node? token <;> rfl

theorem nodes_append (front back : List Inline) : nodes (front ++ back) = nodes front ++ nodes back := by
  induction front with
  | nil => rfl
  | cons token rest ih => rw [List.cons_append, nodes_cons, ih, nodes_cons, List.append_assoc]

/-- Whatever inline tokens become, no two texts stand side by side in it. -/
theorem holdsInline_apart : HoldsInline HasApartChildren where
  text _ := trivial
  comment _ := trivial
  styled _ children := (areApart_fuse children).1
  code _ _ := areApart_singleton _
  lineBreak := List.IsChain.nil
  link _ _ children := (areApart_fuse children).1
  image _ _ _ := List.IsChain.nil

/-- No two texts stand side by side in the nodes of inline tokens, at any depth. -/
theorem isFused_toNodes (tokens : List Inline) : IsFused (toNodes tokens) where
  top := (areApart_fuse _).1
  below _ _ _ _ hmem := throughout_toNodes holdsInline_apart tokens _ hmem

end Inline

section Below

variable {token : Entries} {below : List Entries}

theorem sourceOf_eq {raw : String} (hraw : rawOf token = .str raw) : sourceOf token = raw := by
  rw [sourceOf, hraw]

theorem textsOf_cons (token : Entries) (rest : List Entries) :
    textsOf (token :: rest) = textOf token ++ textsOf rest := by
  rw [textsOf, List.map_cons, String.join_cons]
  rfl

theorem textAmong_map_some (tokens : List Entries) : textAmong (tokens.map some) = textsOf tokens := by
  induction tokens with
  | nil => rw [List.map_nil, textAmong, textsOf, List.map_nil, String.join_nil]
  | cons token rest ih =>
    rw [List.map_cons, textAmong, ih, textsOf_cons]

/-- The text below a token is the text of its children. -/
theorem textAmong_nestedInList
    (hbelow : fieldOr "children" (.list []) token = .list (below.map .dict)) :
    textAmong (nestedInList token) = textsOf below := by
  rw [nestedInList, hbelow]
  dsimp only
  rw [map_entries?_dict, textAmong_map_some]

/-- The nodes of tokens have the texts of the tokens, one behind the other. -/
theorem textContent_nodes
    (hbelow : ∀ token ∈ below, textContent (Inline.node? (readInline token)).toList = .ok (textOf token)) :
    textContent (Inline.nodes (below.map readInline)) = .ok (textsOf below) := by
  induction below with
  | nil => rfl
  | cons token rest ih =>
    obtain ⟨htoken, hrest⟩ := List.forall_mem_cons.mp hbelow
    rw [List.map_cons, Inline.nodes_cons, textsOf_cons]
    exact textContent_append_of_ok htoken (ih hrest)

/-- The text of the nodes is the text of the tokens if this holds of each token. -/
theorem textContent_toNodes (hsound : ∀ token ∈ below, (readInline token).Sound)
    (hbelow : ∀ token ∈ below, textContent (Inline.node? (readInline token)).toList = .ok (textOf token)) :
    textContent (Inline.toNodes (below.map readInline)) = .ok (textsOf below) := by
  rw [Inline.toNodes, (textContent_fuse (Inline.hasTextContent_nodes (List.forall_mem_map.mpr hsound))).1]
  exact textContent_nodes hbelow

end Below

/-- Inline HTML is text unless it has the ends of a comment. -/
theorem textContent_ofInlineHtml (raw : String) :
    textContent [ofInlineHtml raw] = .ok (if HasCommentEnds raw then "" else raw) := by
  rw [ofInlineHtml]
  split
  · rename_i inner hinner
    have hends : HasCommentEnds raw := by
      by_contra hnot
      rw [commentIn?_eq_none_iff.mpr hnot] at hinner
      cases hinner
    rw [if_pos hends]
    rfl
  · rename_i hnone
    rw [if_neg (commentIn?_eq_none_iff.mp hnone), textContent_text]

/-- The node of a token has the text that is read off the token. -/
theorem WellFormedInline.textContent_node? {token : Entries} (h : WellFormedInline token) :
    textContent (Inline.node? (readInline token)).toList = .ok (textOf token) := by
  induction h with
  | @intro token type raw below htype hraw hbelow hall ih =>
    have hchildren : textContent (Inline.toNodes (below.map readInline)) = .ok (textsOf below) :=
      textContent_toNodes (fun child hmem => (hall child hmem).sound) ih
    rw [textOf, readInline, htype, readInlines_nestedInList hbelow, textAmong_nestedInList hbelow,
      sourceOf_eq hraw]
    dsimp only
    split
    · rw [hraw]
      exact textContent_text raw
    · exact (textContent_plain _ _ _).trans hchildren
    · exact (textContent_plain _ _ _).trans hchildren
    · exact (textContent_plain _ _ _).trans hchildren
    · rw [hraw]
      exact (textContent_plain _ _ _).trans (textContent_text raw)
    · rw [hraw]
      exact (textContent_plain _ _ _).trans (textContent_text raw)
    · rw [hraw]
      exact (textContent_plain _ _ _).trans (textContent_text raw)
    · rfl
    · exact textContent_text "\n"
    · exact (textContent_plain _ _ _).trans hchildren
    · split <;> rfl
    · rw [hraw]
      exact textContent_ofInlineHtml raw
    · -- All types that have a text are told apart above.
      split
      case h_11 => rfl
      all_goals
        rename_i heq
        exact absurd (Datum.str.inj heq) ‹_›

/-- Inline tokens have nodes, the nodes of a list are those of its two parts with the texts at the seam
    joined, no two texts are left side by side at any depth, and the nodes have the text of the tokens. -/
theorem inlineTreeOf_append {front back : List Entries} (hfront : ∀ token ∈ front, WellFormedInline token)
    (hback : ∀ token ∈ back, WellFormedInline token) :
    ∃ first second, inlineTreeOf front = .ok first ∧ inlineTreeOf back = .ok second ∧
      inlineTreeOf (front ++ back) = .ok (joinSeam first second) ∧
        (IsFused first ∧ IsFused second ∧ IsFused (joinSeam first second)) ∧
          textContent first = .ok (textsOf front) ∧ textContent second = .ok (textsOf back) ∧
            textContent (joinSeam first second) = .ok (textsOf (front ++ back)) := by
  have hsound {tokens : List Entries} (htokens : ∀ token ∈ tokens, WellFormedInline token) :
      ∀ token ∈ tokens, (readInline token).Sound := fun token hmem => (htokens token hmem).sound
  have htexts {tokens : List Entries} (htokens : ∀ token ∈ tokens, WellFormedInline token) :
      textContent (Inline.toNodes (tokens.map readInline)) = .ok (textsOf tokens) :=
    textContent_toNodes (hsound htokens) fun token hmem => (htokens token hmem).textContent_node?
  have hcontents {tokens : List Entries} (htokens : ∀ token ∈ tokens, WellFormedInline token) :
      ∀ node ∈ Inline.nodes (tokens.map readInline), node.HasTextContent :=
    Inline.hasTextContent_nodes (List.forall_mem_map.mpr (hsound htokens))
  have hboth : ∀ token ∈ front ++ back, WellFormedInline token := List.forall_mem_append.mpr ⟨hfront, hback⟩
  have hseam : Inline.toNodes ((front ++ back).map readInline) =
      joinSeam (Inline.toNodes (front.map readInline)) (Inline.toNodes (back.map readInline)) := by
    rw [Inline.toNodes, List.map_append, Inline.nodes_append,
      (fuse_append (hcontents hfront) (hcontents hback)).1]
    rfl
  refine ⟨_, _, inlineTreeOf_eq_ok (hsound hfront), inlineTreeOf_eq_ok (hsound hback), ?_, ?_,
    htexts hfront, htexts hback, ?_⟩
  · rw [inlineTreeOf_eq_ok (hsound hboth), hseam]
  · rw [← hseam]
    exact ⟨Inline.isFused_toNodes _, Inline.isFused_toNodes _, Inline.isFused_toNodes _⟩
  · rw [← hseam, htexts hboth]

/-- A token with well-formed children is well formed. -/
theorem wellFormedInline_tokenOf {type raw : String} {attrs : Entries} {below : List Entries}
    (hall : ∀ child ∈ below, WellFormedInline child) :
    WellFormedInline (tokenOf type raw attrs below) :=
  .intro rfl rfl rfl hall

namespace Sample

def softBreak : Entries :=
  tokenOf "softbreak" "" [] []

def emphasis (below : List Entries) : Entries :=
  tokenOf "emphasis" "" [] below

theorem wellFormedInline_text (raw : String) : WellFormedInline (text raw) :=
  wellFormedInline_tokenOf nofun

theorem wellFormedInline_emphasis {below : List Entries} (hall : ∀ child ∈ below, WellFormedInline child) :
    WellFormedInline (emphasis below) :=
  wellFormedInline_tokenOf hall

end Sample

open Sample in
/-- Texts that meet at the seam, with a soft break in front and emphasis behind. -/
theorem inlineTreeOf_append_words :
    (∀ token ∈ [text "a", softBreak], WellFormedInline token) ∧
      (∀ token ∈ [text "b", emphasis [text "c"]], WellFormedInline token) ∧
        ∃ first second, inlineTreeOf [text "a", softBreak] = .ok first ∧
          inlineTreeOf [text "b", emphasis [text "c"]] = .ok second ∧
            inlineTreeOf [text "a", softBreak, text "b", emphasis [text "c"]] = .ok (joinSeam first second) ∧
              textContent (joinSeam first second) = .ok "a\nbc" := by
  have hfront : ∀ token ∈ [text "a", softBreak], WellFormedInline token :=
    List.forall_mem_cons.mpr ⟨wellFormedInline_text _,
      List.forall_mem_singleton.mpr (wellFormedInline_tokenOf nofun)⟩
  have hback : ∀ token ∈ [text "b", emphasis [text "c"]], WellFormedInline token :=
    List.forall_mem_cons.mpr ⟨wellFormedInline_text _, List.forall_mem_singleton.mpr
      (wellFormedInline_emphasis (List.forall_mem_singleton.mpr (wellFormedInline_text _)))⟩
  have htexts : textsOf ([text "a", softBreak] ++ [text "b", emphasis [text "c"]]) = "a\nbc" := by
    decide +kernel
  obtain ⟨first, second, hfirst, hsecond, hjoined, -, -, -, hcontent⟩ := inlineTreeOf_append hfront hback
  exact ⟨hfront, hback, first, second, hfirst, hsecond, hjoined, htexts ▸ hcontent⟩

end MarkTree.Markdown
