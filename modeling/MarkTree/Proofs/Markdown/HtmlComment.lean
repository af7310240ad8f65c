import MarkTree.Proofs.Markdown.CapturedOutput
import MarkTree.Proofs.Markdown.InlineTree
import MarkTree.Proofs.Markdown.Shape
import MarkTree.Proofs.Text.Search
import MarkTree.Source.Line

namespace MarkTree.Markdown

open Node Text
open Source (commentOpener commentCloser)

/-- Between blanks, the source begins and ends like a comment. -/
structure HasCommentEnds (raw : String) : Prop where
  begins : commentOpener <+: strip raw.toList
  ends : commentCloser <:+ strip raw.toList

/-- Between blanks, the source is one comment with this inner text. -/
structure IsComment (raw inner : String) : Prop where
  eq : strip raw.toList = commentOpener ++ inner.toList ++ commentCloser
  one : ¬ commentCloser <:+: inner.toList

/-- The source is no comment but has the ends of one, and this is the text that stands between them. -/
inductive IsMistaken (raw : String) : String → Prop where
  /-- The ends have hyphens in common. -/
  | overlapping (hraw : strip raw.toList = "<!-->".toList ∨ strip raw.toList = "<!--->".toList) :
      IsMistaken raw ""
  /-- A comment ends in front of more text, and the end of the source is another one. -/
  | joined (first behind : String)
      (hraw : strip raw.toList = commentOpener ++ first.toList ++ commentCloser ++ behind.toList ++ commentCloser)
      (hfirst : ¬ commentCloser <:+: first.toList) :
      IsMistaken raw (first ++ "-->" ++ behind)

inductive HtmlPlace where
  | block
  | inline

namespace HtmlPlace

def type : HtmlPlace → String
  | .block => "block_html"
  | .inline => "inline_html"

/-- The nodes of a token at the place, or why it has none. -/
def treeOf : HtmlPlace → Entries → Except Failure (List Node)
  | .block, token => Markdown.treeOf [token]
  | .inline, token => inlineTreeOf [token]

/-- The node keeps the source: as it is between inline tokens, and among blocks without the line feeds at
    its end, in an element without attributes. -/
def Keeps (raw : String) (node : Node) : HtmlPlace → Prop
  | .block => ∃ tag kept count, raw.toList = kept.toList ++ List.replicate count '\n' ∧
      kept.toList.getLast? ≠ some '\n' ∧
        node = .element (.plain (.str tag)) [] [.text (.str kept)] verbatimRecord
  | .inline => node = .text (.str raw)

/-- Nothing of the source is lost: the node is the one comment that the source is, or the source is no
    comment and the node keeps it. -/
def IsLossless (place : HtmlPlace) (raw : String) (node : Node) : Prop :=
  (∃ inner, IsComment raw inner ∧ node = ofComment inner) ∨
    (∀ inner, ¬ IsComment raw inner) ∧ place.Keeps raw node

end HtmlPlace

variable {raw inner : String}

/-- A source is not taken for a comment just if it lacks the ends of one. -/
theorem commentIn?_eq_none_iff : commentIn? raw = none ↔ ¬ HasCommentEnds raw := by
  have hends : (startsWith ['<', '!', '-', '-'] (strip raw.toList) &&
      endsWith ['-', '-', '>'] (strip raw.toList)) = true ↔ HasCommentEnds raw := by
    rw [Bool.and_eq_true, startsWith_iff, endsWith_iff]
    exact ⟨fun ⟨hbegins, hends⟩ => ⟨hbegins, hends⟩, fun h => ⟨h.begins, h.ends⟩⟩
  rw [← hends]
  simp [commentIn?]

/-- A text with both ends has a text between them, unless it is too short for both. -/
theorem exists_between_of_ends {text : List Char} (hbegins : commentOpener <+: text)
    (hends : commentCloser <:+ text) :
    (text = "<!-->".toList ∨ text = "<!--->".toList) ∨
      ∃ between, text = commentOpener ++ between ++ commentCloser := by
  obtain ⟨behind, rfl⟩ := hbegins
  by_cases hlong : commentCloser.length ≤ behind.length
  · obtain ⟨between, rfl⟩ := List.suffix_of_suffix_length_le hends (List.suffix_append _ _) hlong
    exact .inr ⟨between, (List.append_assoc _ _ _).symm⟩
  · have hshort : behind.length ≤ 2 := by
      have hcloser : commentCloser.length = 3 := rfl
      omega
    rw [List.suffix_iff_eq_drop] at hends
    refine .inl ?_
    match behind with
    | [] | [c] | [c, d] => simp_all [commentOpener, commentCloser, eq_comm]

/-- A comment is taken for a comment, with its inner text. -/
theorem IsComment.commentIn?_eq (h : IsComment raw inner) : commentIn? raw = some inner := by
  rw [Markdown.commentIn?_eq h.eq, String.ofList_toList]

/-- A source that only looks like a comment is taken for one, with what stands between its ends. -/
theorem IsMistaken.commentIn?_eq (h : IsMistaken raw inner) : commentIn? raw = some inner := by
  cases h with
  | overlapping hraw =>
    unfold commentIn?
    rcases hraw with hraw | hraw <;> rw [hraw] <;> rfl
  | joined first behind hraw =>
    have hinner : (first ++ "-->" ++ behind).toList = first.toList ++ commentCloser ++ behind.toList := by
      simp [commentCloser]
    rw [← String.ofList_toList (s := first ++ "-->" ++ behind)]
    refine Markdown.commentIn?_eq ?_
    rw [hraw, hinner]
    simp [commentOpener, commentCloser]

/-- A source that only looks like a comment is none. -/
theorem IsMistaken.not_isComment (h : IsMistaken raw inner) (other : String) : ¬ IsComment raw other := by
  intro hcomment
  have heq : inner = other := Option.some.inj (h.commentIn?_eq.symm.trans hcomment.commentIn?_eq)
  subst heq
  cases h with
  | overlapping hraw =>
    have hlength := congrArg List.length hcomment.eq
    rcases hraw with hraw | hraw <;> simp [hraw, commentOpener, commentCloser] at hlength
  | joined first behind hraw =>
    refine hcomment.one ⟨first.toList, behind.toList, ?_⟩
    simp [commentCloser]

/-- A source with the ends of a comment is one comment, or it is mistaken for one. -/
theorem HasCommentEnds.isComment_or (h : HasCommentEnds raw) :
    (∃ inner, IsComment raw inner) ∨ ∃ inner, IsMistaken raw inner := by
  obtain hshort | ⟨between, hbetween⟩ := exists_between_of_ends h.begins h.ends
  · exact .inr ⟨"", .overlapping hshort⟩
  cases hcut : cut commentCloser between with
  | none =>
    refine .inl ⟨String.ofList between, by rw [hbetween, String.toList_ofList], ?_⟩
    rw [String.toList_ofList, ← contains_iff, contains, hcut]
    exact Bool.false_ne_true
  | some parts =>
    obtain ⟨first, behind⟩ := parts
    have hfirst := cut_eq_some_iff.mp hcut
    refine .inr ⟨_, .joined (String.ofList first) (String.ofList behind) ?_ ?_⟩
    · rw [hbetween, hfirst.eq, String.toList_ofList, String.toList_ofList]
      simp only [List.append_assoc]
    · rw [String.toList_ofList]
      rintro ⟨front, back, heq⟩
      have hle := hfirst.first front (back ++ commentCloser ++ behind) (by
        rw [hfirst.eq, ← heq]
        simp only [List.append_assoc])
      have hlength := congrArg List.length heq
      simp only [List.length_append, commentCloser, List.length_cons, List.length_nil] at hlength
      omega

namespace HtmlPlace

/-- The node of a source at the place. -/
def nodeOf (raw : String) : HtmlPlace → Node
  | .block => ofHtmlBlock raw
  | .inline => ofInlineHtml raw

/-- What is taken for a comment becomes a comment, among blocks and between inline tokens. -/
theorem nodeOf_of_commentIn? (place : HtmlPlace) (hinner : commentIn? raw = some inner) :
    place.nodeOf raw = ofComment inner := by
  cases place with
  | block => rw [nodeOf, ofHtmlBlock, hinner]
  | inline => rw [nodeOf, ofInlineHtml, hinner]

/-- A text without the line feeds at its end is what stands in front of them. -/
theorem exists_lineFeeds (text : List Char) :
    ∃ count, text = dropLineFeedsRight text ++ List.replicate count '\n' ∧
      (dropLineFeedsRight text).getLast? ≠ some '\n' := by
  refine ⟨(text.reverse.takeWhile (· == '\n')).length, ?_, fun hlast => ?_⟩
  · have hreverse := congrArg List.reverse (replicate_append_dropWhile '\n' text.reverse)
    rw [List.reverse_append, List.reverse_replicate, List.reverse_reverse] at hreverse
    exact hreverse.symm
  · rw [dropLineFeedsRight, List.getLast?_reverse] at hlast
    exact absurd (of_mem_head?_dropWhile hlast) (by decide)

/-- What is not taken for a comment is kept. -/
theorem keeps_of_commentIn? (place : HtmlPlace) (hnone : commentIn? raw = none) :
    place.Keeps raw (place.nodeOf raw) := by
  cases place with
  | inline => rw [Keeps, nodeOf, ofInlineHtml, hnone]
  | block =>
    obtain ⟨count, hraw, hlast⟩ := exists_lineFeeds raw.toList
    refine ⟨openingTag raw, String.ofList (dropLineFeedsRight raw.toList), count, ?_, ?_, ?_⟩
    · rwa [String.toList_ofList]
    · rwa [String.toList_ofList]
    · rw [nodeOf, ofHtmlBlock, hnone]
      rfl

/-- A node that keeps the source is no comment. -/
theorem Keeps.ne_ofComment {place : HtmlPlace} {node : Node} (h : place.Keeps raw node) (inner : String) :
    node ≠ ofComment inner := by
  rintro rfl
  cases place with
  | inline => cases h
  | block =>
    obtain ⟨tag, kept, count, -, -, heq⟩ := h
    cases heq

/-- A token of HTML has the node of its source. -/
theorem treeOf_eq (place : HtmlPlace) {token : Entries} (htype : typeOf token = .str place.type)
    (hraw : rawOf token = .str raw) : place.treeOf token = .ok [place.nodeOf raw] := by
  cases place with
  | block =>
    have hblock : readBlock token = .html raw := readBlock_html htype hraw
    have htrace : (readBlock token).trace.fault? = none := by
      rw [hblock]
      rfl
    rw [treeOf, treeOf_eq_ok (List.forall_mem_singleton.mpr htrace), documentOf_cons, hblock]
    rfl
  | inline =>
    have hinline : readInline token = .html raw := by
      rw [readInline, htype, hraw]
      rfl
    have hsound : (readInline token).Sound := by
      rw [hinline]
      refine ⟨rfl, ?_⟩
      rintro node ⟨⟩
      exact hasTextContent_ofInlineHtml raw
    rw [treeOf, inlineTreeOf_eq_ok (List.forall_mem_singleton.mpr hsound), List.map_singleton, hinline,
      toNodes_singleton rfl]
    rfl

end HtmlPlace

/-- A token of HTML has one node. Nothing of its source is lost unless the source is no comment but has the
    ends of one, and then all that stands between the ends is taken for the comment. -/
theorem treeOf_html (place : HtmlPlace) {token : Entries} (htype : typeOf token = .str place.type)
    (hraw : rawOf token = .str raw) :
    ∃ node, place.treeOf token = .ok [node] ∧
      (place.IsLossless raw node ↔ ∀ inner, ¬ IsMistaken raw inner) ∧
      ∀ inner, IsMistaken raw inner → node = ofComment inner := by
  refine ⟨_, place.treeOf_eq htype hraw, ⟨?_, ?_⟩, fun inner hmistaken =>
    place.nodeOf_of_commentIn? hmistaken.commentIn?_eq⟩
  · rintro (⟨inner, hcomment, -⟩ | ⟨-, hkeeps⟩) other hmistaken
    · exact hmistaken.not_isComment inner hcomment
    · exact hkeeps.ne_ofComment other (place.nodeOf_of_commentIn? hmistaken.commentIn?_eq)
  · intro hnone
    by_cases hends : HasCommentEnds raw
    · obtain ⟨inner, hcomment⟩ | ⟨inner, hmistaken⟩ := hends.isComment_or
      · exact .inl ⟨inner, hcomment, place.nodeOf_of_commentIn? hcomment.commentIn?_eq⟩
      · exact absurd hmistaken (hnone inner)
    · have hkept := commentIn?_eq_none_iff.mpr hends
      refine .inr ⟨fun inner hcomment => ?_, place.keeps_of_commentIn? hkept⟩
      rw [hcomment.commentIn?_eq] at hkept
      cases hkept

open Sample in
/-- A comment with the opening delimiter of another one in it. -/
theorem treeOf_html_note :
    typeOf (html " <!-- a <!-- b -->\n") = .str HtmlPlace.block.type ∧
      rawOf (html " <!-- a <!-- b -->\n") = .str " <!-- a <!-- b -->\n" ∧
        treeOf [html " <!-- a <!-- b -->\n"] = .ok [ofComment " a <!-- b "] := by
  have hcomment : IsComment " <!-- a <!-- b -->\n" " a <!-- b " :=
    ⟨by decide, by decide +kernel⟩
  have htype : typeOf (html " <!-- a <!-- b -->\n") = .str HtmlPlace.block.type := rfl
  have hraw : rawOf (html " <!-- a <!-- b -->\n") = .str " <!-- a <!-- b -->\n" := rfl
  obtain ⟨node, htree, hlossless, -⟩ := treeOf_html .block htype hraw
  obtain ⟨inner, hinner, rfl⟩ | ⟨hnot, -⟩ := hlossless.mpr fun inner h => h.not_isComment _ hcomment
  · have heq : inner = " a <!-- b " :=
      Option.some.inj (hinner.commentIn?_eq.symm.trans hcomment.commentIn?_eq)
    exact ⟨htype, hraw, heq ▸ htree⟩
  · exact absurd hcomment (hnot _)

open Sample in
/-- The text between two comments in one line of HTML goes into a comment and is seen no more. -/
theorem treeOf_html_swallowed :
    treeOf [html "<!-- a --> b <!-- c -->\n"] = .ok [ofComment " a --> b <!-- c "] ∧
      ¬ HtmlPlace.block.IsLossless "<!-- a --> b <!-- c -->\n" (ofComment " a --> b <!-- c ") := by
  have hmistaken : IsMistaken "<!-- a --> b <!-- c -->\n" " a --> b <!-- c " :=
    .joined " a " " b <!-- c " (by decide) (by decide +kernel)
  have htype : typeOf (html "<!-- a --> b <!-- c -->\n") = .str HtmlPlace.block.type := rfl
  have htree := HtmlPlace.block.treeOf_eq htype rfl
  rw [HtmlPlace.nodeOf_of_commentIn? .block hmistaken.commentIn?_eq] at htree
  refine ⟨htree, ?_⟩
  rintro (⟨inner, hcomment, -⟩ | ⟨-, hkeeps⟩)
  · exact hmistaken.not_isComment inner hcomment
  · exact hkeeps.ne_ofComment _ rfl

end MarkTree.Markdown
