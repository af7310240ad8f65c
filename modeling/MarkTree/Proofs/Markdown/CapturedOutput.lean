import MarkTree.Proofs.Markdown.CodeBlock
import MarkTree.Proofs.Normalize.Append

namespace MarkTree.Markdown

open Node

/-- A source that begins and ends like a comment, with the ends apart, is taken for one. -/
theorem commentIn?_eq {raw : String} {inner : List Char}
    (hraw : Text.strip raw.toList = ['<', '!', '-', '-'] ++ inner ++ ['-', '-', '>']) :
    commentIn? raw = some (String.ofList inner) := by
  have hstart : Text.startsWith ['<', '!', '-', '-'] (Text.strip raw.toList) = true := by
    rw [Text.startsWith, List.isPrefixOf_iff_prefix, hraw, List.append_assoc]
    exact List.prefix_append _ _
  have hend : Text.endsWith ['-', '-', '>'] (Text.strip raw.toList) = true := by
    rw [Text.endsWith, List.isSuffixOf_iff_suffix, hraw]
    exact List.suffix_append _ _
  have hinner : ((Text.strip raw.toList).take ((Text.strip raw.toList).length - 3)).drop 4 = inner := by
    simp [hraw]
  unfold commentIn?
  simp only [hstart, hend, Bool.and_self, ↓reduceIte, hinner]

section Tokens

variable {front back blanks : List Entries} {html code : Entries} {raw source info : String}
  {inner : List Char}

/-- A comment with the marker for its text becomes an output marker. -/
theorem ofHtmlBlock_marker
    (hcomment : Text.strip raw.toList = ['<', '!', '-', '-'] ++ inner ++ ['-', '-', '>'])
    (hinner : Text.strip inner = outputMarker.toList) :
    ofHtmlBlock raw = .comment (.str (String.ofList inner)) (.bool true) := by
  rw [ofHtmlBlock, commentIn?_eq hcomment]
  simp [ofComment, hinner]

theorem readable_html (hblock : readBlock html = .html raw) : Readable html :=
  .of_block hblock rfl (throughout_ofHtmlBlock raw)

/-- An output marker, blank lines and a code block become the code block with the output class, between
    what the tokens in front of them and those behind them become. -/
theorem normalTreeOf_captured (hfront : AreWellFormed front) (hback : AreWellFormed back)
    (hhtml : typeOf html = .str "block_html") (hraw : rawOf html = .str raw)
    (hcomment : Text.strip raw.toList = ['<', '!', '-', '-'] ++ inner ++ ['-', '-', '>'])
    (hinner : Text.strip inner = outputMarker.toList)
    (hblanks : ∀ blank ∈ blanks, typeOf blank = .str "blank_line")
    (hcode : typeOf code = .str "block_code") (hsource : rawOf code = .str source)
    (hinfo : IsInfo info (detailOr "info" .null code)) :
    ∃ front' back' text, normalTreeOf front = .ok front' ∧ normalTreeOf back = .ok back' ∧
      IsChomped source text ∧
      normalTreeOf (front ++ [html] ++ blanks ++ [code] ++ back) =
        .ok (front' ++ [classedBlock (outputClassOf info) text] ++ back') := by
  have hhtmlBlock := readBlock_html hhtml hraw
  have hcodeBlock := readBlock_eq_code hcode hsource hinfo
  have hreadable : ∀ token ∈ front ++ [html] ++ blanks ++ [code] ++ back, Readable token := by
    simp only [List.forall_mem_append, List.forall_mem_singleton]
    have hblanksReadable : ∀ blank ∈ blanks, Readable blank :=
      fun blank hmem => readable_blank (hblanks blank hmem)
    exact ⟨⟨⟨⟨hfront.readable, readable_html hhtmlBlock⟩, hblanksReadable⟩, readable_code hcodeBlock⟩,
      hback.readable⟩
  -- The blank lines have no nodes, so the code block stands right behind the marker.
  have hnodes : documentOf (front ++ [html] ++ blanks ++ [code] ++ back) =
      documentOf front ++ (.comment (.str (String.ofList inner)) (.bool true) ::
        Block.codeNode source info :: documentOf back) := by
    simp [documentOf_blanks hblanks, hhtmlBlock, hcodeBlock, Block.toNodes,
      ofHtmlBlock_marker hcomment hinner]
  have hblock := isCodeBlock_codeNode source info
  refine ⟨_, _, Block.codeSource source, normalTreeOf_eq_ok hfront.readable,
    normalTreeOf_eq_ok hback.readable, isChomped_codeSource source, ?_⟩
  rw [normalTreeOf_eq_ok hreadable, hnodes]
  -- A marker at the end of the front announces nothing: what is behind it is the other marker.
  have hcut : announcesAcross (documentOf front) (.comment (.str (String.ofList inner)) (.bool true) ::
      Block.codeNode source info :: documentOf back) = false := by
    simp [announcesAcross, startsWithCodeBlock, isCodeBlock]
  rw [normalizedAll_append (fun _ => rfl) hcut, normalizedAll_announced rfl hblock,
    normalizedAll_withOutput_codeNode, List.append_assoc]

end Tokens

namespace Sample

def marker : Entries :=
  html "<!-- livebook:\x7b\"output\":true\x7d -->\n"

/-- A marker at the end, which announces nothing if another one follows. -/
def notes : List Entries :=
  [paragraph "a", marker]

theorem wellFormed_notes : AreWellFormed notes :=
  List.forall_mem_cons.mpr ⟨wellFormed_paragraph _, List.forall_mem_singleton.mpr (wellFormed_html _)⟩

end Sample

open Sample in
/-- The language of the code is the class of formulas. -/
theorem normalTreeOf_captured_formula :
    AreWellFormed notes ∧ ∃ front' back' text,
      normalTreeOf notes = .ok front' ∧ normalTreeOf notes = .ok back' ∧ IsChomped "x\n" text ∧
        normalTreeOf (notes ++ [marker] ++ [blankLine, blankLine] ++ [fence "math-inline x" "x\n"] ++
          notes) = .ok (front' ++ [classedBlock "math-inline output" text] ++ back') := by
  have hclass : outputClassOf "math-inline x" = "math-inline output" := by decide
  have hcomment : Text.strip "<!-- livebook:\x7b\"output\":true\x7d -->\n".toList =
      ['<', '!', '-', '-'] ++ (' ' :: outputMarker.toList ++ [' ']) ++ ['-', '-', '>'] := by decide
  have hblanks : ∀ blank ∈ [blankLine, blankLine], typeOf blank = .str "blank_line" := by
    simp only [List.forall_mem_cons, List.not_mem_nil, false_implies, implies_true, and_true]
    exact ⟨rfl, rfl⟩
  rw [← hclass]
  exact ⟨wellFormed_notes, normalTreeOf_captured wellFormed_notes wellFormed_notes rfl rfl hcomment
    (by decide) hblanks rfl rfl (.inl rfl)⟩

end MarkTree.Markdown
