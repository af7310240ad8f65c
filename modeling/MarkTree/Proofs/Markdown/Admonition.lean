import MarkTree.Proofs.Markdown.Heading
import MarkTree.Proofs.Normalize.CodeBlock
import MarkTree.Proofs.Normalize.Note

namespace MarkTree.Markdown

open Node Source

theorem normalized_plain {tag : String} (hcode : tag ≠ "code") (hquote : tag ≠ "blockquote")
    (attributes : List (String × Datum)) (children : List Node) :
    normalized (.plain tag attributes children) =
      .element (.name tag) (attributes.map fun (name, value) => (.name name, value))
        (normalizedAll false children) (.dict []) := by
  have hlabel : (Label.plain (.str tag)).reads "code" = false := by
    simpa [Label.reads, Label.value] using hcode
  have hempty : admonition (.plain (.str tag)) children = [] := by
    simp [admonition, Label.reads, Label.value, hquote]
  rw [plain, normalized, math?_eq_none_of_reads hlabel]
  simp [hempty, normalTag, normalAttributes, canonicalAttributes, metadataRecord, Datum.toEntries,
    Label.canonical]

theorem normalized_quote {children : List Node} {classes : List String}
    (hclasses : admonition (.plain (.str "blockquote")) children = classes) (hsome : classes ≠ []) :
    normalized (.plain "blockquote" [] children) =
      .element (.name "div")
        [(.name "class", .str ("admonition " ++ " ".intercalate classes)), (.name "role", .str "note")]
        (normalizedAll false children) (.dict []) := by
  rw [plain, normalized_note (hclasses ▸ hsome), hclasses]
  simp [admonitionAttributes, Attributes.splitFirst, Attributes.splitWhere, canonicalAttributes,
    metadataRecord, Datum.toEntries, Label.canonical]

/-- A heading keeps its title and the attributes of its list. -/
theorem normalized_titled {tag : String} (hcode : tag ≠ "code") (hquote : tag ≠ "blockquote")
    (title : String) (body : List Char) :
    normalized (titled tag title body) =
      .element (.name tag)
        ((AttributeList.read body).attributes.map fun (name, value) => (.name name, .str value))
        (if title = "" then [] else [.text (.str title)]) (.dict []) := by
  have htext : normalizedAll false (if title = "" then [] else [.text (.str title)]) =
      if title = "" then [] else [.text (.str title)] := by
    split
    · rfl
    · rfl
  rw [titled, normalized_plain hcode hquote, htext, List.map_map]
  rfl

/-- The words of the class that the heading gets are the classes of the list. -/
theorem admonition_titled {tag : String} (htag : tag = "h3" ∨ tag = "h4") (title : String)
    {body : List Char} (hclasses : dottedClasses body ≠ []) (rest : List Node) :
    admonition (.plain (.str "blockquote")) (titled tag title body :: rest) =
      (dottedClasses body).filter admonitionClasses.contains := by
  obtain ⟨others, hattributes⟩ := attributes_read hclasses
  have hwords := wordsOf_dottedClasses body
  simp [admonition, titled, plain, openingHeading?, htag, hattributes, admonitionTokens,
    Attributes.find?, Attributes.findWhere?, Label.reads, Label.value, hwords]

/-- A quote that opens with such a heading becomes a `div` if one of the classes is an admonition class. -/
theorem normalized_quote_titled {tag : String} (htag : tag = "h3" ∨ tag = "h4") (title : String)
    {body : List Char} (hclasses : ∃ name ∈ dottedClasses body, name ∈ admonitionClasses)
    (rest : List Node) :
    normalized (.plain "blockquote" [] (titled tag title body :: rest)) =
      .element (.name "div")
        [(.name "class", .str ("admonition " ++ " ".intercalate
            ((dottedClasses body).filter admonitionClasses.contains))),
          (.name "role", .str "note")]
        (.element (.name tag)
          ((AttributeList.read body).attributes.map fun (name, value) => (.name name, .str value))
          (if title = "" then [] else [.text (.str title)]) (.dict []) :: normalizedAll false rest)
        (.dict []) := by
  obtain ⟨name, hname, hclass⟩ := hclasses
  have hsome : (dottedClasses body).filter admonitionClasses.contains ≠ [] :=
    List.ne_nil_of_mem (List.mem_filter.mpr ⟨hname, by simpa using hclass⟩)
  have hadmonition := admonition_titled htag title (List.ne_nil_of_mem hname) rest
  have hother : tag ≠ "code" ∧ tag ≠ "blockquote" := by
    rcases htag with rfl | rfl <;> decide
  have hwalk : normalizedAll false (titled tag title body :: rest) =
      normalized (titled tag title body) :: normalizedAll false rest := rfl
  rw [normalized_quote hadmonition hsome, hwalk, normalized_titled hother.1 hother.2]

/-- A quote of blank lines, a heading with admonition classes at its end and further tokens becomes a
    `div` of the heading and what the further tokens become. -/
theorem normalTreeOf_admonition {quote heading text : Entries} {blanks rest : List Entries}
    {title padding body tail : String} {level : Int} (hquote : typeOf quote = .str "block_quote")
    (hbelow : fieldOr "children" (.list []) quote = .list ((blanks ++ heading :: rest).map .dict))
    (hblanks : ∀ blank ∈ blanks, typeOf blank = .str "blank_line") (hrest : AreWellFormed rest)
    (hheading : typeOf heading = .str "heading")
    (hlevel : detailOr "level" (.int 1) heading = .int level) (hrange : level = 3 ∨ level = 4)
    (hchild : fieldOr "children" (.list []) heading = .list [.dict text])
    (htext : typeOf text = .str "text")
    (hraw : rawOf text = .str (title ++ padding ++ "\x7b:" ++ body ++ "\x7d" ++ tail))
    (htitle : ¬ [openBrace, ':'] <:+: title.toList)
    (hend : ∀ c ∈ title.toList.getLast?, Text.isBlank c = false)
    (hpadding : Text.allBlank padding.toList = true) (hbody : closeBrace ∉ body.toList)
    (htail : Text.allBlank tail.toList = true)
    (hclasses : ∃ name ∈ dottedClasses body.toList, name ∈ admonitionClasses) :
    ∃ rest', normalTreeOf rest = .ok rest' ∧
      normalTreeOf [quote] = .ok [.element (.name "div")
        [(.name "class", .str ("admonition " ++ " ".intercalate
            ((dottedClasses body.toList).filter admonitionClasses.contains))),
          (.name "role", .str "note")]
        (.element (.name ("h" ++ toString level))
          ((AttributeList.read body.toList).attributes.map fun (name, value) =>
            (.name name, .str value))
          (if title = "" then [] else [.text (.str title)]) (.dict []) :: rest') (.dict [])] := by
  have hbelowReadable : ∀ token ∈ blanks ++ heading :: rest, Readable token := by
    have hheadingReadable := readable_heading_text hheading hchild htext hraw (by simp [hlevel])
    refine List.forall_mem_append.mpr ⟨fun blank hmem => readable_blank (hblanks blank hmem), ?_⟩
    exact List.forall_mem_cons.mpr ⟨hheadingReadable, hrest.readable⟩
  have hquoteBlock := readBlock_quote hquote hbelow
  have hquoteReadable := readable_quote hbelowReadable hquoteBlock
  -- The list starts at the brace behind the padding, so the title is what is left of the heading.
  have hlist : trailingList? (title ++ padding ++ "\x7b:" ++ body ++ "\x7d" ++ tail).toList =
      some (title.toList ++ padding.toList, body.toList) := by
    rw [← trailingList?_eq (ne_of_blank_behind htitle hpadding) hbody htail]
    simp [openBrace, closeBrace]
  have hnode := toNodes_heading_text hheading hchild htext hraw hlevel (by omega) hlist
    (stripRight_append hend hpadding)
  have hbelowNodes : Block.allNodes ((blanks ++ heading :: rest).map readBlock) =
      titled ("h" ++ toString level) title body.toList :: documentOf rest := by
    change documentOf (blanks ++ heading :: rest) = _
    rw [documentOf_append, documentOf_blanks hblanks, documentOf_cons, hnode]
    rfl
  have htag : "h" ++ toString level = "h3" ∨ "h" ++ toString level = "h4" := by
    rcases hrange with rfl | rfl
    · exact .inl rfl
    · exact .inr rfl
  refine ⟨_, normalTreeOf_eq_ok hrest.readable, ?_⟩
  rw [normalTreeOf_eq_ok (List.forall_mem_singleton.mpr hquoteReadable), documentOf_cons, hquoteBlock,
    Block.toNodes, hbelowNodes]
  change Except.ok [normalized _] = _
  rw [normalized_quote_titled htag title hclasses]

open Sample in
/-- The class of the heading that makes no admonition stays with the heading alone. -/
theorem normalTreeOf_admonition_tip :
    AreWellFormed [paragraph "a"] ∧ ∃ rest', normalTreeOf [paragraph "a"] = .ok rest' ∧
      normalTreeOf [quote ([blankLine] ++ heading 3 "Note \x7b: .wide .tip #n\x7d " :: [paragraph "a"])] =
        .ok [.element (.name "div")
          [(.name "class", .str "admonition tip"), (.name "role", .str "note")]
          (.element (.name "h3") [(.name "class", .str "wide tip"), (.name "id", .str "n")]
            [.text (.str "Note")] (.dict []) :: rest') (.dict [])] := by
  have hrest : AreWellFormed [paragraph "a"] := List.forall_mem_singleton.mpr (wellFormed_paragraph _)
  have hblanks : ∀ blank ∈ [blankLine], typeOf blank = .str "blank_line" :=
    List.forall_mem_singleton.mpr rfl
  have hend : ∀ c ∈ "Note".toList.getLast?, Text.isBlank c = false := by
    have hlast : "Note".toList.getLast? = some 'e' := by decide
    rw [hlast]
    rintro c ⟨⟩
    rfl
  have hclasses : dottedClasses " .wide .tip #n".toList = ["wide", "tip"] := by decide +kernel
  have hattributes : (AttributeList.read " .wide .tip #n".toList).attributes =
      [("class", "wide tip"), ("id", "n")] := by decide +kernel
  obtain ⟨rest', hnormalRest, hnormal⟩ := @normalTreeOf_admonition
    (quote ([blankLine] ++ heading 3 "Note \x7b: .wide .tip #n\x7d " :: [paragraph "a"])) _ _ _ _
    "Note" " " " .wide .tip #n" " " 3 rfl rfl hblanks hrest rfl rfl (.inl rfl) rfl rfl rfl
    (by decide) hend (by decide) (by decide) (by decide)
    ⟨"tip", by rw [hclasses]; decide, by decide⟩
  rw [hclasses, hattributes] at hnormal
  exact ⟨hrest, rest', hnormalRest, hnormal⟩

end MarkTree.Markdown
