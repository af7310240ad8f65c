import MarkTree.Proofs.Source.AttributeSplit
import MarkTree.Source.TrailingList

namespace MarkTree.Source

open MarkTree.Text

/-- A list is closed by its closing brace if all behind it is blank. -/
theorem closedBody?_eq {body rest : List Char} (hbody : closeBrace ∉ body) (hrest : allBlank rest = true) :
    closedBody? (body ++ closeBrace :: rest) = some body := by
  have hrun : ∀ c ∈ body, (c != closeBrace) = true := by
    intro c hmem
    simpa using ne_of_mem_of_not_mem hmem hbody
  have hend : ∀ c ∈ (closeBrace :: rest).head?, (c != closeBrace) = false := by simp
  rw [closedBody?, dropWhile_append_of_run hrun hend, takeWhile_append_of_run hrun hend]
  simp [hrest]

theorem trailingList?_cons {c : Char} {rest : List Char} (hstart : c = openBrace → rest.head? ≠ some ':') :
    trailingList? (c :: rest) = (trailingList? rest).map fun (before, body) => (c :: before, body) := by
  by_cases hcolon : ∃ tail, rest = ':' :: tail
  · obtain ⟨tail, rfl⟩ := hcolon
    have hc : (c == openBrace) = false := beq_eq_false_iff_ne.mpr fun hc => hstart hc rfl
    rw [trailingList?]
    simp only [hc, Bool.false_eq_true, ↓reduceIte]
  · rw [trailingList?]
    exact fun tail heq => hcolon ⟨tail, heq⟩

/-- The list is found where its opening brace stands if no list could start in front of it. -/
theorem trailingList?_eq {before body rest : List Char}
    (hbefore : ∀ front back, before ≠ front ++ openBrace :: ':' :: back) (hbody : closeBrace ∉ body)
    (hrest : allBlank rest = true) :
    trailingList? (before ++ openBrace :: ':' :: (body ++ closeBrace :: rest)) = some (before, body) := by
  induction before with
  | nil => simp [trailingList?, closedBody?_eq hbody hrest]
  | cons c before ih =>
    have hlater : ∀ front back, before ≠ front ++ openBrace :: ':' :: back :=
      fun front back heq => hbefore (c :: front) back (by rw [heq, List.cons_append])
    have hstart : c = openBrace →
        (before ++ openBrace :: ':' :: (body ++ closeBrace :: rest)).head? ≠ some ':' := by
      rintro rfl hhead
      cases before with
      | nil => simp [openBrace] at hhead
      | cons d before =>
        obtain rfl : d = ':' := by simpa using hhead
        exact hbefore [] before rfl
    rw [List.cons_append, trailingList?_cons hstart, ih hlater]
    rfl

/-- No list starts in a text that none starts in when blanks are added to it. -/
theorem ne_of_blank_behind {text blanks : List Char} (htext : ¬ [openBrace, ':'] <:+: text)
    (hblanks : allBlank blanks = true) (front back : List Char) :
    text ++ blanks ≠ front ++ openBrace :: ':' :: back := by
  intro heq
  have hsolid : ∀ c ∈ blanks, isBlank c = true := List.all_eq_true.mp hblanks
  have hbrace : openBrace ∉ blanks := fun hmem => absurd (hsolid _ hmem) (by decide)
  have hcolon : ':' ∉ blanks := fun hmem => absurd (hsolid _ hmem) (by decide)
  rcases List.append_eq_append_iff.mp heq with ⟨more, -, hmore⟩ | ⟨more, rfl, hmore⟩
  · exact hbrace (by simp [hmore])
  · -- Both characters are in the text, or one of them is among the blanks.
    rcases more with _ | ⟨c, _ | ⟨d, more⟩⟩
    · rw [List.nil_append] at hmore
      exact hbrace (hmore ▸ List.mem_cons_self)
    · have hcolons : ':' :: back = blanks := (List.cons_eq_cons.mp hmore).2
      exact hcolon (hcolons ▸ List.mem_cons_self)
    · obtain ⟨hc, hrest⟩ := List.cons_eq_cons.mp hmore
      have hd : ':' = d := (List.cons_eq_cons.mp hrest).1
      subst hc hd
      exact htext ⟨front, more, by simp⟩

theorem stripRight_append {text blanks : List Char} (htext : ∀ c ∈ text.getLast?, isBlank c = false)
    (hblanks : allBlank blanks = true) : stripRight (text ++ blanks) = text := by
  have hrun : ∀ c ∈ blanks.reverse, isBlank c = true := by
    simpa [allBlank] using hblanks
  rw [stripRight, List.reverse_append, dropWhile_append_of_run hrun (by simpa using htext),
    List.reverse_reverse]

/-- The classes in the text of an attribute list, in order. -/
def dottedClasses (body : List Char) : List String :=
  ((scan body).tokens.map Prod.snd).filterMap AttributeToken.class?

/-- The dotted classes are those that the tokens of a split add. -/
theorem dottedClasses_eq {body rest : List Char} {pieces : List (List Char × AttributeToken)}
    (h : Splits body pieces rest) :
    dottedClasses body = (pieces.map fun piece => piece.2.adds).filterMap Sum.getLeft? := by
  simp only [dottedClasses, h.scan_eq, List.filterMap_map, Function.comp_def, class?_eq]

/-- The words of the class attribute that a list gives are the classes in it. -/
theorem wordsOf_dottedClasses (body : List Char) :
    wordsOf (" ".intercalate (dottedClasses body)) = dottedClasses body := by
  have hsplits := splits_scan body
  rw [dottedClasses_eq hsplits]
  exact hsplits.wordsOf_classes

/-- A list with a class in it gives the class attribute first. -/
theorem attributes_read {body : List Char} (hclasses : dottedClasses body ≠ []) :
    ∃ others, (AttributeList.read body).attributes =
      ("class", " ".intercalate (dottedClasses body)) :: others := by
  have hsome : (dottedClasses body).isEmpty = false := by simpa using hclasses
  rw [attributes_eq, ← dottedClasses, classEntry, hsome]
  exact ⟨_, rfl⟩

end MarkTree.Source
