import MarkTree.Proofs.Source.AttributeSplit

namespace MarkTree.Source

open MarkTree.Text

/-- The text is the tokens one behind the other, with at least one blank between two of them and any
    blanks around them. -/
inductive IsWritten : List AttributeToken → List Char → Prop where
  | blanks {blanks : List Char} (hblanks : allBlank blanks = true) : IsWritten [] blanks
  | token {blanks rest : List Char} {token : AttributeToken} {tokens : List AttributeToken}
      (hblanks : allBlank blanks = true) (hcomplete : token.IsComplete)
      (hapart : ∀ c ∈ rest.head?, isBlank c = true) (hrest : IsWritten tokens rest) :
      IsWritten (token :: tokens) (blanks ++ (token.spell ++ rest))

theorem AttributeToken.exists_spell_eq_cons {token : AttributeToken} (hcomplete : token.IsComplete) :
    ∃ c rest, token.spell = c :: rest ∧ isBlank c = false := by
  cases token with
  | dotted name => exact ⟨'.', name, rfl, rfl⟩
  | hashed name => exact ⟨'#', name, rfl, rfl⟩
  | pair key value quoting =>
    obtain ⟨⟨hne, hkey⟩, -⟩ := hcomplete
    cases key with
    | nil => exact absurd rfl hne
    | cons c key =>
      exact ⟨c, key ++ '=' :: quoting.written value, by rw [spell_pair, List.cons_append],
        isBlank_of_isName (hkey c List.mem_cons_self)⟩

/-- No token starts in a blank gap. -/
theorem noTokenIn_of_allBlank {gap : List Char} (hgap : allBlank gap = true) (behind : List Char) :
    NoTokenIn gap behind := by
  rintro front c back rfl ⟨token, rest, hcomplete, htext⟩
  obtain ⟨d, spelled, hspell, hsolid⟩ := AttributeToken.exists_spell_eq_cons hcomplete
  rw [hspell] at htext
  obtain rfl : c = d := (List.cons_eq_cons.mp htext).1
  have hblank : isBlank c = true := List.all_eq_true.mp hgap c (by simp)
  rw [hsolid] at hblank
  cases hblank

theorem isBlank_of_mem_head? {blank : Char} (hblank : isBlank blank = true) (rest : List Char) :
    ∀ c ∈ (blank :: rest).head?, isBlank c = true := by
  rintro c ⟨⟩
  exact hblank

/-- Every token ends at a blank. -/
theorem AttributeToken.endsAt_of_blank (token : AttributeToken) {rest : List Char}
    (hapart : ∀ c ∈ rest.head?, isBlank c = true) : token.EndsAt rest := by
  have hname : ∀ c ∈ rest.head?, isName c = false := by
    intro c hmem
    cases hname : isName c with
    | false => rfl
    | true => cases (hapart c hmem).symm.trans (isBlank_of_isName hname)
  cases token with
  | dotted | hashed => exact hname
  | pair key value quoting =>
    cases quoting with
    | double | single => trivial
    | bare =>
      intro c hmem
      simp [isBare, hapart c hmem]

/-- The split of a written list has its tokens, and all gaps are blank. -/
theorem IsWritten.exists_splits {tokens : List AttributeToken} {text : List Char}
    (h : IsWritten tokens text) :
    ∃ pieces rest, Splits text pieces rest ∧ pieces.map Prod.snd = tokens ∧
      ∀ gap ∈ pieces.map Prod.fst ++ [rest], allBlank gap = true := by
  induction h with
  | @blanks blanks hblanks =>
    exact ⟨[], blanks, .rest (noTokenIn_of_allBlank hblanks []), rfl, by simpa using hblanks⟩
  | @token blanks _ token _ hblanks hcomplete hapart _ ih =>
    obtain ⟨pieces, rest, hsplits, htokens, hgaps⟩ := ih
    exact ⟨(blanks, token) :: pieces, rest,
      .token (noTokenIn_of_allBlank hblanks _) hcomplete (token.endsAt_of_blank hapart) hsplits,
      congrArg _ htokens, List.forall_mem_cons.mpr ⟨hblanks, hgaps⟩⟩

/-- A list that is written as it should be is read as it was written: nothing of it is illegal, its dotted
    classes are gathered in one attribute in front, and its other attributes follow in their order, with
    their values as they are. -/
theorem read_written {tokens : List AttributeToken} {text : List Char} (h : IsWritten tokens text) :
    AttributeList.read text =
      { attributes := classEntry ((tokens.map AttributeToken.adds).filterMap Sum.getLeft?) ++
          (tokens.map AttributeToken.adds).filterMap Sum.getRight?
        illegal := [] } := by
  obtain ⟨pieces, rest, hsplits, rfl, hgaps⟩ := h.exists_splits
  have hattributes := hsplits.attributes_eq
  have hillegal : (AttributeList.read text).illegal = [] := by
    rw [hsplits.illegal_eq, List.flatMap_eq_nil_iff]
    intro gap hmem
    rw [words_of_allBlank (hgaps gap hmem)]
    rfl
  rw [List.map_map]
  cases hread : AttributeList.read text with
  | mk attributes illegal =>
    rw [hread] at hattributes hillegal
    cases hillegal
    exact congrArg (AttributeList.mk · []) hattributes

namespace Sample

/-- A value that holds a class, an id and another value. -/
def quotedTitle : AttributeToken :=
  .pair "title".toList ".x #y k=v ".toList .double

def bareLink : AttributeToken :=
  .pair "href".toList ".x#y=v".toList .bare

end Sample

open Sample in
/-- Two classes around two values. -/
theorem read_written_values :
    IsWritten [.dotted "tip".toList, quotedTitle, bareLink, .dotted "low".toList]
        " .tip title=\".x #y k=v \"\thref=.x#y=v .low\n".toList ∧
      AttributeList.read " .tip title=\".x #y k=v \"\thref=.x#y=v .low\n".toList =
        { attributes := [("class", "tip low"), ("title", ".x #y k=v "), ("href", ".x#y=v")]
          illegal := [] } := by
  have hspace : isBlank ' ' = true := by decide
  have hlow : IsWritten [.dotted "low".toList]
      ([' '] ++ ((AttributeToken.dotted "low".toList).spell ++ ['\n'])) :=
    .token (by decide) (by decide) (isBlank_of_mem_head? (by decide) []) (.blanks (by decide))
  have hlink : IsWritten [bareLink, .dotted "low".toList] (['\t'] ++ (bareLink.spell ++ _)) :=
    .token (by decide) (by decide) (isBlank_of_mem_head? hspace _) hlow
  have htitle : IsWritten [quotedTitle, bareLink, .dotted "low".toList]
      ([' '] ++ (quotedTitle.spell ++ _)) :=
    .token (by decide) (by decide) (isBlank_of_mem_head? (by decide) _) hlink
  have htip : IsWritten [.dotted "tip".toList, quotedTitle, bareLink, .dotted "low".toList]
      ([' '] ++ ((AttributeToken.dotted "tip".toList).spell ++ _)) :=
    .token (by decide) (by decide) (isBlank_of_mem_head? hspace _) htitle
  have htext : " .tip title=\".x #y k=v \"\thref=.x#y=v .low\n".toList =
      [' '] ++ ((AttributeToken.dotted "tip".toList).spell ++ ([' '] ++ (quotedTitle.spell ++
        (['\t'] ++ (bareLink.spell ++ ([' '] ++ ((AttributeToken.dotted "low".toList).spell ++
          ['\n']))))))) := by
    decide +kernel
  rw [htext]
  exact ⟨htip, (read_written htip).trans (by decide +kernel)⟩

end MarkTree.Source
