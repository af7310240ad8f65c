import MarkTree.Proofs.Source.AttributeToken

namespace MarkTree.Source

open MarkTree.Text

/-- No token starts at any character of the gap, given the text behind the gap. -/
def NoTokenIn (gap behind : List Char) : Prop :=
  ∀ front c back, gap = front ++ c :: back → ¬ StartsToken (c :: (back ++ behind))

/-- The split of a text into pieces, which are tokens with the gaps in front of them, and a gap at the
    end. -/
inductive Splits : List Char → List (List Char × AttributeToken) → List Char → Prop where
  | rest {rest : List Char} (hrest : NoTokenIn rest []) : Splits rest [] rest
  | token {gap behind rest : List Char} {token : AttributeToken}
      {pieces : List (List Char × AttributeToken)} (hgap : NoTokenIn gap (token.spell ++ behind))
      (hcomplete : token.IsComplete) (hend : token.EndsAt behind) (hbehind : Splits behind pieces rest) :
      Splits (gap ++ (token.spell ++ behind)) ((gap, token) :: pieces) rest

theorem noTokenIn_nil (behind : List Char) : NoTokenIn [] behind := by
  intro front c back heq
  simp at heq

theorem noTokenIn_cons {c : Char} {gap behind : List Char} :
    NoTokenIn (c :: gap) behind ↔ ¬ StartsToken (c :: (gap ++ behind)) ∧ NoTokenIn gap behind := by
  constructor
  · intro hgap
    refine ⟨hgap [] c gap rfl, fun front d back heq => hgap (c :: front) d back ?_⟩
    rw [heq, List.cons_append]
  · rintro ⟨hfirst, hgap⟩ front d back heq
    rcases List.cons_eq_append_iff.mp heq with ⟨rfl, hback⟩ | ⟨front', rfl, hrest⟩
    · cases hback
      exact hfirst
    · exact hgap front' d back hrest

/-- A token at the front is scanned, with no gap before it. -/
theorem scan_of_token {text rest : List Char} {token : AttributeToken}
    (htoken : tokenAt? text = some (token, rest)) :
    scan text = { tokens := ([], token) :: (scan rest).tokens, rest := (scan rest).rest } := by
  rw [scan]
  split
  · rename_i heq
    cases htoken.symm.trans heq
    rfl
  · rename_i heq
    cases htoken.symm.trans heq

theorem scan_of_none {c : Char} {rest : List Char} (hnone : tokenAt? (c :: rest) = none) :
    scan (c :: rest) = (scan rest).consGap c := by
  rw [scan]
  split
  · rename_i heq
    cases hnone.symm.trans heq
  · rfl

theorem scan_nil : scan [] = { tokens := [], rest := [] } := by
  rw [scan]
  rfl

/-- A gap is passed over up to the token behind it. -/
theorem scan_gap {gap behind rest : List Char} {token : AttributeToken}
    {pieces : List (List Char × AttributeToken)} (hgap : NoTokenIn gap behind)
    (hbehind : scan behind = { tokens := ([], token) :: pieces, rest }) :
    scan (gap ++ behind) = { tokens := (gap, token) :: pieces, rest } := by
  induction gap with
  | nil => exact hbehind
  | cons c gap ih =>
    obtain ⟨hfirst, hgap⟩ := noTokenIn_cons.mp hgap
    rw [List.cons_append, scan_of_none (tokenAt?_eq_none_iff.mpr hfirst), ih hgap]
    rfl

/-- A text in which no token starts is a gap. -/
theorem scan_rest {rest : List Char} (hrest : NoTokenIn rest []) : scan rest = { tokens := [], rest } := by
  induction rest with
  | nil => exact scan_nil
  | cons c rest ih =>
    obtain ⟨hfirst, hrest⟩ := noTokenIn_cons.mp hrest
    rw [List.append_nil] at hfirst
    rw [scan_of_none (tokenAt?_eq_none_iff.mpr hfirst), ih hrest]
    rfl

/-- A text has no split but the one that the scan makes. -/
theorem Splits.scan_eq {text rest : List Char} {pieces : List (List Char × AttributeToken)}
    (h : Splits text pieces rest) : scan text = { tokens := pieces, rest } := by
  induction h with
  | rest hrest => exact scan_rest hrest
  | token hgap hcomplete hend _ ih =>
    have htoken := tokenAt?_eq_some_iff.mpr ⟨rfl, hcomplete, hend⟩
    exact scan_gap hgap (by rw [scan_of_token htoken, ih])

/-- A character at which no token starts can be put in front of a split text. -/
theorem Splits.consGap {c : Char} {text : List Char} {scanned : Scanned}
    (h : Splits text scanned.tokens scanned.rest) (hfirst : ¬ StartsToken (c :: text)) :
    Splits (c :: text) (scanned.consGap c).tokens (scanned.consGap c).rest := by
  obtain ⟨pieces, rest⟩ := scanned
  cases h with
  | rest hrest => exact .rest (noTokenIn_cons.mpr ⟨by rwa [List.append_nil], hrest⟩)
  | token hgap hcomplete hend hbehind =>
    exact .token (noTokenIn_cons.mpr ⟨hfirst, hgap⟩) hcomplete hend hbehind

/-- The scan splits every text. -/
theorem splits_scan (text : List Char) : Splits text (scan text).tokens (scan text).rest := by
  fun_induction scan text with
  | case1 text token rest htoken more ih =>
    obtain ⟨rfl, hcomplete, hend⟩ := tokenAt?_eq_some_iff.mp htoken
    exact .token (noTokenIn_nil _) hcomplete hend ih
  | case2 => exact .rest (noTokenIn_nil [])
  | case3 c rest hnone ih => exact ih.consGap (tokenAt?_eq_none_iff.mp hnone)

/-- What a token adds to a list: a class, or an attribute of another name. -/
def AttributeToken.adds : AttributeToken → String ⊕ (String × String)
  | .dotted name => .inl (String.ofList name)
  | .hashed name => .inr ("id", String.ofList name)
  | .pair key value _ => .inr (String.ofList key, String.ofList value)

/-- The attribute that holds some classes, if there are any. -/
def classEntry (classes : List String) : List (String × String) :=
  if classes.isEmpty then [] else [("class", " ".intercalate classes)]

theorem classEntry_eq_nil_iff {classes : List String} : classEntry classes = [] ↔ classes = [] := by
  cases classes with
  | nil => simp [classEntry]
  | cons => simp [classEntry]

theorem class?_eq (token : AttributeToken) : token.class? = token.adds.getLeft? := by
  cases token <;> rfl

theorem attribute?_eq (token : AttributeToken) : token.attribute? = token.adds.getRight? := by
  cases token <;> rfl

/-- All classes are in one attribute in front, the other attributes stand behind it. -/
theorem attributes_eq (body : List Char) :
    (AttributeList.read body).attributes =
      classEntry (((scan body).tokens.map Prod.snd).filterMap AttributeToken.class?) ++
        ((scan body).tokens.map Prod.snd).filterMap AttributeToken.attribute? := by
  simp only [AttributeList.read, classEntry]
  split <;> rfl

variable {text rest : List Char} {pieces : List (List Char × AttributeToken)}

/-- The attributes are what the tokens of a split add, the dotted classes in one entry at the front. -/
theorem Splits.attributes_eq (h : Splits text pieces rest) :
    (AttributeList.read text).attributes =
      classEntry ((pieces.map fun piece => piece.2.adds).filterMap Sum.getLeft?) ++
        (pieces.map fun piece => piece.2.adds).filterMap Sum.getRight? := by
  rw [Source.attributes_eq, h.scan_eq]
  simp only [List.filterMap_map, Function.comp_def, class?_eq, attribute?_eq]

/-- What could not be understood are the words of the gaps, in their order. -/
theorem Splits.illegal_eq (h : Splits text pieces rest) :
    (AttributeList.read text).illegal =
      (pieces.map Prod.fst ++ [rest]).flatMap fun gap => (words gap).map String.ofList := by
  rw [AttributeList.read, h.scan_eq]

/-- The text is what its pieces are written as. -/
theorem Splits.text_eq (h : Splits text pieces rest) :
    text = pieces.flatMap (fun piece => piece.1 ++ piece.2.spell) ++ rest := by
  induction h with
  | rest => rfl
  | token _ _ _ _ ih => rw [List.flatMap_cons, List.append_assoc, ← ih, List.append_assoc]

/-- The tokens of a split are such as can be written. -/
theorem Splits.isComplete (h : Splits text pieces rest) : ∀ piece ∈ pieces, piece.2.IsComplete := by
  induction h with
  | rest => simp
  | token _ hcomplete _ _ ih => exact List.forall_mem_cons.mpr ⟨hcomplete, ih⟩

/-- The characters of a text that are not blank stand in its tokens and in the words of its gaps. -/
theorem Splits.solid_eq (h : Splits text pieces rest) :
    (text.filter fun c => !isBlank c) =
      pieces.flatMap (fun piece =>
        (words piece.1).flatten ++ piece.2.spell.filter fun c => !isBlank c) ++
      (words rest).flatten := by
  have htext := congrArg (List.filter fun c => !isBlank c) h.text_eq
  simpa only [List.filter_append, List.filter_flatMap, flatten_words] using htext

/-- A class is one word of the class attribute. -/
theorem isOneWord_of_adds {token : AttributeToken} (hcomplete : token.IsComplete) {name : String}
    (hadds : token.adds = .inl name) : IsOneWord name.toList := by
  cases token with
  | dotted letters =>
    cases hadds
    rw [String.toList_ofList]
    exact isOneWord_of_isName hcomplete.1 hcomplete.2
  | hashed | pair => cases hadds

/-- The entry of the dotted classes has one word for each of them. -/
theorem Splits.wordsOf_classes (h : Splits text pieces rest) :
    let classes := (pieces.map fun piece => piece.2.adds).filterMap Sum.getLeft?
    wordsOf (" ".intercalate classes) = classes := by
  apply wordsOf_intercalate
  intro name hmem
  obtain ⟨added, hadded, hname⟩ := List.mem_filterMap.mp hmem
  obtain ⟨piece, hpiece, rfl⟩ := List.mem_map.mp hadded
  exact isOneWord_of_adds (h.isComplete piece hpiece) (Sum.getLeft?_eq_some_iff.mp hname)

/-- Reading loses nothing of a list. There is exactly one way to split its text into complete tokens and
    gaps in which no token starts. The illegal words are the words of the gaps, every token adds one class
    or one attribute, and what is not blank is in a token or in a word of a gap. -/
theorem read_splits (body : List Char) :
    ∃ pieces rest, Splits body pieces rest ∧
      (∀ pieces' rest', Splits body pieces' rest' → pieces' = pieces ∧ rest' = rest) ∧
      body = pieces.flatMap (fun piece => piece.1 ++ piece.2.spell) ++ rest ∧
      (∀ piece ∈ pieces, piece.2.IsComplete) ∧
      (AttributeList.read body).illegal =
        (pieces.map Prod.fst ++ [rest]).flatMap (fun gap => (words gap).map String.ofList) ∧
      (∃ classes others, classes = (pieces.map fun piece => piece.2.adds).filterMap Sum.getLeft? ∧
        others = (pieces.map fun piece => piece.2.adds).filterMap Sum.getRight? ∧
        (AttributeList.read body).attributes = classEntry classes ++ others ∧
        wordsOf (" ".intercalate classes) = classes) ∧
      (body.filter fun c => !isBlank c) =
        pieces.flatMap (fun piece =>
          (words piece.1).flatten ++ piece.2.spell.filter fun c => !isBlank c) ++
        (words rest).flatten := by
  have h := splits_scan body
  refine ⟨_, _, h, ?_, h.text_eq, h.isComplete, h.illegal_eq,
    ⟨_, _, rfl, rfl, h.attributes_eq, h.wordsOf_classes⟩, h.solid_eq⟩
  intro pieces' rest' h'
  rw [h'.scan_eq]
  exact ⟨rfl, rfl⟩

end MarkTree.Source
