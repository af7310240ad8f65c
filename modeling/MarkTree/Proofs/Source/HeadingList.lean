import MarkTree.Proofs.Source.Opener
import MarkTree.Proofs.Source.TrailingList
import MarkTree.Proofs.Text.Strip

namespace MarkTree.Source

open MarkTree.Text

/-- Of all fronts and bodies that a pattern allows, the ones with the shortest front. -/
structure IsFirst (Allows : List Char → List Char → Prop) (front body : List Char) : Prop where
  allowed : Allows front body
  first : ∀ front' body', Allows front' body' → front.length ≤ front'.length

/-- The text is an attribute list in braces, with nothing but blanks behind it. -/
def IsList (text body : List Char) : Prop :=
  ∃ blanks, text = openBrace :: ':' :: (body ++ closeBrace :: blanks) ∧ closeBrace ∉ body ∧
    allBlank blanks = true

/-- Behind the front, the rest of the text is an attribute list. -/
def HasList (text front body : List Char) : Prop :=
  ∃ list, text = front ++ list ∧ IsList list body

/-- Behind the front, the rest of the text is an attribute list with blanks before it. -/
def HasSpacedList (text front body : List Char) : Prop :=
  ∃ blanks, allBlank blanks = true ∧ HasList text (front ++ blanks) body

/-- The line is a heading with this content: at most three spaces, one to six marks, one blank and the
    content. -/
def IsHeadingLine (line content : List Char) : Prop :=
  ∃ n ≤ 3, ∃ level, 1 ≤ level ∧ level ≤ 6 ∧ ∃ blank, isBlank blank = true ∧
    line = List.replicate n ' ' ++ (List.replicate level '#' ++ blank :: content)

/-- The line is a heading, and behind the skipped text its content is an attribute list. -/
def HasHeadingList (line skipped body : List Char) : Prop :=
  ∃ content, IsHeadingLine line content ∧ HasList content skipped body

/-- Being first depends on nothing but what is allowed. -/
theorem IsFirst.congr {Allows Allows' : List Char → List Char → Prop} {front body : List Char}
    (hiff : ∀ front body, Allows front body ↔ Allows' front body) (h : IsFirst Allows front body) :
    IsFirst Allows' front body :=
  ⟨(hiff _ _).mp h.allowed, fun front' body' h' => h.first front' body' ((hiff _ _).mpr h')⟩

/-- A list is closed by its first closing brace, behind which all is blank. -/
theorem closedBody?_eq_some_iff {text body : List Char} :
    closedBody? text = some body ↔
      ∃ blanks, text = body ++ closeBrace :: blanks ∧ closeBrace ∉ body ∧ allBlank blanks = true := by
  constructor
  · intro h
    unfold closedBody? at h
    split at h
    · cases h
    · rename_i c blanks hdrop
      split at h
      · rename_i hblanks
        obtain rfl : text.takeWhile (· != closeBrace) = body := by simpa using h
        obtain rfl : c = closeBrace := by
          have hhead : c ∈ (text.dropWhile (· != closeBrace)).head? := by
            rw [hdrop]
            rfl
          simpa using of_mem_head?_dropWhile hhead
        have hsplit := List.takeWhile_append_dropWhile (p := (· != closeBrace)) (l := text)
        rw [hdrop] at hsplit
        refine ⟨blanks, hsplit.symm, fun hmem => ?_, hblanks⟩
        simpa using of_mem_takeWhile hmem
      · cases h
  · rintro ⟨blanks, rfl, hbody, hblanks⟩
    exact closedBody?_eq hbody hblanks

/-- A list starts with a brace and a colon, and goes on to where it is closed. -/
theorem isList_iff {text body : List Char} :
    IsList text body ↔ ∃ tail, text = openBrace :: ':' :: tail ∧ closedBody? tail = some body := by
  constructor
  · rintro ⟨blanks, rfl, hbody, hblanks⟩
    exact ⟨_, rfl, closedBody?_eq hbody hblanks⟩
  · rintro ⟨tail, rfl, htail⟩
    obtain ⟨blanks, rfl, hbody, hblanks⟩ := closedBody?_eq_some_iff.mp htail
    exact ⟨blanks, rfl, hbody, hblanks⟩

/-- Behind one front there is one list at most. -/
theorem HasList.unique {text front body body' : List Char} (h : HasList text front body)
    (h' : HasList text front body') : body = body' := by
  obtain ⟨list, rfl, hlist⟩ := h
  obtain ⟨list', heq, hlist'⟩ := h'
  obtain rfl := List.append_cancel_left heq
  obtain ⟨tail, rfl, htail⟩ := isList_iff.mp hlist
  obtain ⟨tail', heq', htail'⟩ := isList_iff.mp hlist'
  cases heq'
  exact Option.some.inj (htail.symm.trans htail')

/-- A text that is a list has it at its front. -/
theorem trailingList?_of_isList {text body : List Char} (h : IsList text body) :
    trailingList? text = some ([], body) := by
  obtain ⟨tail, rfl, htail⟩ := isList_iff.mp h
  simp [trailingList?, htail]

/-- Where no list starts, the list is found in the rest. -/
theorem trailingList?_of_not_isList {c : Char} {rest : List Char}
    (h : ∀ body, ¬ IsList (c :: rest) body) :
    trailingList? (c :: rest) = (trailingList? rest).map fun (before, body) => (c :: before, body) := by
  by_cases hstart : ∃ tail, c = openBrace ∧ rest = ':' :: tail
  · obtain ⟨tail, rfl, rfl⟩ := hstart
    have htail : closedBody? tail = none :=
      Option.eq_none_iff_forall_ne_some.mpr fun body hbody => h body (isList_iff.mpr ⟨tail, rfl, hbody⟩)
    simp [trailingList?, htail]
  · refine trailingList?_cons fun hc hhead => hstart ?_
    obtain ⟨tail, rfl⟩ := List.head?_eq_some_iff.mp hhead
    exact ⟨tail, hc, rfl⟩

/-- What is found is a list at the end of the text. -/
theorem hasList_of_trailingList? {text before body : List Char}
    (h : trailingList? text = some (before, body)) : HasList text before body := by
  induction text generalizing before with
  | nil => cases h
  | cons c rest ih =>
    by_cases hhere : ∃ body, IsList (c :: rest) body
    · obtain ⟨found, hlist⟩ := hhere
      rw [trailingList?_of_isList hlist] at h
      cases h
      exact ⟨_, rfl, hlist⟩
    · rw [trailingList?_of_not_isList (not_exists.mp hhere)] at h
      obtain ⟨⟨before', body'⟩, hrest, heq⟩ := Option.map_eq_some_iff.mp h
      cases heq
      obtain ⟨list, rfl, hlist⟩ := ih hrest
      exact ⟨list, rfl, hlist⟩

/-- Where a list ends the text, a list is found no later. -/
theorem exists_trailingList?_of_hasList {text front body : List Char} (h : HasList text front body) :
    ∃ before found, trailingList? text = some (before, found) ∧ before.length ≤ front.length := by
  obtain ⟨list, rfl, hlist⟩ := h
  induction front with
  | nil => exact ⟨[], body, trailingList?_of_isList hlist, Nat.le_refl 0⟩
  | cons c front ih =>
    obtain ⟨before, found, hfound, hle⟩ := ih
    rw [List.cons_append]
    by_cases hhere : ∃ body, IsList (c :: (front ++ list)) body
    · obtain ⟨body', hlist'⟩ := hhere
      exact ⟨[], body', trailingList?_of_isList hlist', Nat.zero_le _⟩
    · rw [trailingList?_of_not_isList (not_exists.mp hhere), hfound]
      exact ⟨c :: before, found, rfl, Nat.succ_le_succ hle⟩

/-- Nothing is found just if no list ends the text. -/
theorem trailingList?_eq_none_iff {text : List Char} :
    trailingList? text = none ↔ ∀ front body, ¬ HasList text front body := by
  constructor
  · intro hnone front body h
    obtain ⟨before, found, hfound, -⟩ := exists_trailingList?_of_hasList h
    rw [hnone] at hfound
    cases hfound
  · intro h
    refine Option.eq_none_iff_forall_ne_some.mpr fun ⟨before, body⟩ hfound => ?_
    exact h before body (hasList_of_trailingList? hfound)

/-- The list that is found is the first one. -/
theorem isFirst_of_trailingList? {text before body : List Char}
    (h : trailingList? text = some (before, body)) : IsFirst (HasList text) before body := by
  refine ⟨hasList_of_trailingList? h, fun front body' hfront => ?_⟩
  obtain ⟨before', found, hfound, hle⟩ := exists_trailingList?_of_hasList hfront
  rw [h] at hfound
  cases hfound
  exact hle

/-- The blanks at the end of what is before the first list belong to its leftmost match. -/
theorem IsFirst.spaced {text before body : List Char} (h : IsFirst (HasList text) before body) :
    IsFirst (HasSpacedList text) (stripRight before) body := by
  obtain ⟨blanks, hblanks, hbefore⟩ := exists_blanks_of_stripRight before
  refine ⟨⟨blanks, hblanks, hbefore ▸ h.allowed⟩, ?_⟩
  rintro front body' ⟨blanks', hblanks', hlist'⟩
  have hle := h.first _ _ hlist'
  obtain ⟨list, htext, -⟩ := h.allowed
  obtain ⟨list', htext', -⟩ := hlist'
  rw [htext] at htext'
  -- What is before the first list is a part of the front and of the blanks behind it.
  obtain ⟨rest, hrest⟩ := List.prefix_of_prefix_length_le (List.prefix_append before list)
    (htext' ▸ List.prefix_append (front ++ blanks') list') hle
  exact length_stripRight_le hblanks' hrest

/-- Behind one front there is one list at most, since a list does not start with a blank. -/
theorem HasSpacedList.unique {text front body body' : List Char} (h : HasSpacedList text front body)
    (h' : HasSpacedList text front body') : body = body' := by
  obtain ⟨blanks, hblanks, list, rfl, hlist⟩ := h
  obtain ⟨blanks', hblanks', list', heq, hlist'⟩ := h'
  rw [List.append_assoc, List.append_assoc] at heq
  have hbehind := List.append_cancel_left heq
  have hstart {list body : List Char} (hlist : IsList list body) :
      ∀ c ∈ list.head?, isBlank c = false := by
    obtain ⟨_, rfl, -⟩ := hlist
    rintro c ⟨⟩
    rfl
  have hdrop := congrArg (List.dropWhile isBlank) hbehind
  rw [dropWhile_append_of_run (List.all_eq_true.mp hblanks) (hstart hlist),
    dropWhile_append_of_run (List.all_eq_true.mp hblanks') (hstart hlist')] at hdrop
  subst hdrop
  exact HasList.unique ⟨list, rfl, hlist⟩ (⟨list, rfl, hlist'⟩ : HasList ([] ++ list) [] body')

/-- The leftmost match is one match. -/
theorem IsFirst.unique_spaced {text front front' body body' : List Char}
    (h : IsFirst (HasSpacedList text) front body) (h' : IsFirst (HasSpacedList text) front' body') :
    front = front' ∧ body = body' := by
  have hstarts {front body : List Char} (h : HasSpacedList text front body) : front <+: text := by
    obtain ⟨blanks, -, list, rfl, -⟩ := h
    rw [List.append_assoc]
    exact List.prefix_append _ _
  have hlength := Nat.le_antisymm (h.first _ _ h'.allowed) (h'.first _ _ h.allowed)
  have hle := Nat.le_of_eq hlength
  obtain rfl : front = front' :=
    (List.prefix_of_prefix_length_le (hstarts h.allowed) (hstarts h'.allowed) hle).eq_of_length hlength
  exact ⟨rfl, h.allowed.unique h'.allowed⟩

/-- Where no list ends the text, none does with blanks in front. -/
theorem not_hasSpacedList {text : List Char} (h : ∀ front body, ¬ HasList text front body)
    (front body : List Char) : ¬ HasSpacedList text front body :=
  fun ⟨_, _, hlist⟩ => h _ _ hlist

/-- A heading is taken apart into its marks, a blank and its content. -/
theorem IsHeadingLine.exists_split {line content : List Char} (h : IsHeadingLine line content) :
    ∃ text blank, dropIndent? line = some text ∧ text.dropWhile (· == '#') = blank :: content ∧
      isBlank blank = true ∧ 1 ≤ (text.takeWhile (· == '#')).length ∧
        (text.takeWhile (· == '#')).length ≤ 6 := by
  obtain ⟨n, hle, level, hone, hsix, blank, hblank, rfl⟩ := h
  have hrun : ∀ c ∈ List.replicate level '#', (c == '#') = true := by simp
  have hstop : ∀ c ∈ (blank :: content).head?, (c == '#') = false := by
    rintro c ⟨⟩
    refine beq_eq_false_iff_ne.mpr ?_
    rintro rfl
    cases hblank
  have hmark : ∀ c ∈ (List.replicate level '#' ++ blank :: content).head?, c ≠ ' ' := by
    obtain ⟨more, rfl⟩ : ∃ more, level = more + 1 := ⟨level - 1, by omega⟩
    simp [List.replicate_succ]
  refine ⟨_, blank, dropIndent?_eq_some_iff.mpr ⟨n, hle, rfl, hmark⟩, ?_, hblank, ?_⟩
  · exact dropWhile_append_of_run hrun hstop
  · rw [takeWhile_append_of_run hrun hstop, List.length_replicate]
    exact ⟨hone, hsix⟩

/-- A line has one content as a heading. -/
theorem IsHeadingLine.unique {line content content' : List Char} (h : IsHeadingLine line content)
    (h' : IsHeadingLine line content') : content = content' := by
  obtain ⟨text, blank, htext, hdrop, -⟩ := h.exists_split
  obtain ⟨text', blank', htext', hdrop', -⟩ := h'.exists_split
  rw [htext] at htext'
  cases htext'
  rw [hdrop] at hdrop'
  exact (List.cons_eq_cons.mp hdrop').2

/-- The content and the line of a heading have the same lists. -/
theorem hasHeadingList_iff {line content : List Char} (hline : IsHeadingLine line content)
    (skipped body : List Char) : HasList content skipped body ↔ HasHeadingList line skipped body := by
  constructor
  · exact fun h => ⟨content, hline, h⟩
  · rintro ⟨content', hline', h⟩
    rwa [hline.unique hline']

/-- The list that is found in the line is the one that is found in the content. -/
theorem headingList?_eq {line content : List Char} (hline : IsHeadingLine line content) :
    headingList? line = (trailingList? content).map Prod.snd := by
  obtain ⟨text, blank, htext, hdrop, hblank, hone, hsix⟩ := hline.exists_split
  have hshape : (decide (1 ≤ (text.takeWhile (· == '#')).length) &&
      decide ((text.takeWhile (· == '#')).length ≤ 6) && isBlank blank) = true := by
    simp [hone, hsix, hblank]
  rw [headingList?, htext]
  dsimp only
  rw [hdrop]
  dsimp only
  rw [if_pos hshape]

end MarkTree.Source
