import MarkTree.Proofs.Markdown.InlineText

namespace MarkTree.Markdown

open Node

/-- The token is a text, and not one with other tokens around it. -/
def isTextToken (token : Entries) : Bool :=
  decide (typeOf token = .str "text")

section Join

variable {α : Type} (p : α → Bool) (f : α → String) (items : List α)

/-- The texts that pass a test are together no longer than all texts. -/
theorem length_join_filter_le :
    (String.join ((items.filter p).map f)).length ≤ (String.join (items.map f)).length := by
  induction items with
  | nil => exact Nat.le_refl _
  | cons item rest ih =>
    rw [List.filter_cons]
    split
    · simpa only [List.map_cons, String.join_cons, String.length_append] using Nat.add_le_add_left ih _
    · simp only [List.map_cons, String.join_cons, String.length_append]
      omega

/-- Texts that are left out make no difference only if they are empty. -/
theorem join_filter_eq_iff :
    String.join ((items.filter p).map f) = String.join (items.map f) ↔
      ∀ item ∈ items, p item = false → f item = "" := by
  induction items with
  | nil => simp
  | cons item rest ih =>
    rw [List.forall_mem_cons, List.map_cons, String.join_cons]
    cases hitem : p item with
    | true =>
      rw [List.filter_cons_of_pos hitem, List.map_cons, String.join_cons, String.append_right_inj]
      exact ih.trans ⟨fun hrest => ⟨nofun, hrest⟩, And.right⟩
    | false =>
      rw [List.filter_cons_of_neg (by simp [hitem])]
      constructor
      · intro heq
        -- The texts that are kept are no longer than those behind the item, so the item has none.
        have hempty : f item = "" := by
          have hlength := congrArg String.length heq
          have hle := length_join_filter_le p f rest
          rw [String.length_append] at hlength
          exact String.length_eq_zero_iff.mp (by omega)
        rw [hempty, String.empty_append] at heq
        exact ⟨fun _ => hempty, ih.mp heq⟩
      · rintro ⟨hempty, hrest⟩
        rw [hempty rfl, String.empty_append, ih.mpr hrest]

end Join

/-- Only a text token adds to the direct texts of a description. -/
theorem directTexts_readInline (token : Entries) (rest : List Inline) :
    Inline.directTexts (readInline token :: rest) =
      if isTextToken token then rawOf token :: Inline.directTexts rest else Inline.directTexts rest := by
  rw [readInline, isTextToken]
  split
  · rename_i type htype
    rw [htype]
    split
    all_goals try rfl
    · split <;> rfl
    · split <;> rfl
    · rename_i hother _ _ _ _ _ _ _ _ _ _ _
      rw [decide_eq_false (hother <| Datum.str.inj ·)]
      rfl
  · rename_i hother
    rw [decide_eq_false (hother "text")]
    split <;> rfl

theorem textOf_text {token : Entries} (htype : typeOf token = .str "text") :
    textOf token = sourceOf token := by
  rw [textOf, htype]
  rfl

/-- The source of a text token is its text. -/
theorem WellFormedInline.display_rawOf {token : Entries} (h : WellFormedInline token)
    (htype : typeOf token = .str "text") : (rawOf token).display = textOf token := by
  obtain ⟨-, hraw, -, -⟩ := h
  rw [textOf_text htype, sourceOf_eq hraw, hraw]
  rfl

/-- The alternative text of a description is the text of the texts in it. -/
theorem altText_readInline {description : List Entries}
    (hdescription : ∀ child ∈ description, WellFormedInline child) :
    Inline.altText (description.map readInline) = textsOf (description.filter isTextToken) := by
  rw [Inline.altText]
  induction description with
  | nil => rfl
  | cons child rest ih =>
    obtain ⟨hchild, hrest⟩ := List.forall_mem_cons.mp hdescription
    rw [List.map_cons, directTexts_readInline, List.filter_cons]
    split
    · rename_i htext
      rw [List.map_cons, String.join_cons, ih hrest, hchild.display_rawOf (of_decide_eq_true htext),
        textsOf_cons]
    · exact ih hrest

section Image

variable {token : Entries} {description : List Entries} (htype : typeOf token = .str "image")
  (hbelow : fieldOr "children" (.list []) token = .list (description.map .dict))
  (hdescription : ∀ child ∈ description, WellFormedInline child)

include htype hbelow in
/-- An image is read with its address, its title and its description. -/
theorem readInline_image :
    readInline token = .image (detailOr "url" (.str "") token) (detailOr "title" .null token)
      (description.map readInline) := by
  rw [readInline, htype, isNested_eq hbelow, nested_eq hbelow, readInlines_map_some]
  rfl

include htype hbelow hdescription

/-- An image becomes one `img`, described by the text tokens right below it. -/
theorem inlineTreeOf_singleton_image :
    inlineTreeOf [token] = .ok [.plain "img" (("src", detailOr "url" (.str "") token) ::
      ("alt", .str (textsOf (description.filter isTextToken))) ::
        optional "title" (detailOr "title" .null token)) []] := by
  have hread := readInline_image htype hbelow
  have hsound : (readInline token).Sound := by
    rw [hread]
    refine ⟨Inline.fault?_altTrace (List.forall_mem_map.mpr fun child hmem => ?_), ?_⟩
    · exact (hdescription child hmem).sound
    · rintro node ⟨⟩ content ⟨⟩
  rw [inlineTreeOf_eq_ok (List.forall_mem_singleton.mpr hsound), ← altText_readInline hdescription]
  exact congrArg Except.ok (toNodes_singleton (by rw [hread]; rfl))

/-- An image has one element, and the alternative text is made of the texts that stand in the description
    directly. It is the text of the whole description if and only if no other token there has a text. -/
theorem inlineTreeOf_image :
    ∃ alt, inlineTreeOf [token] = .ok [.plain "img" (("src", detailOr "url" (.str "") token) ::
        ("alt", .str alt) :: optional "title" (detailOr "title" .null token)) []] ∧
      alt = textsOf (description.filter isTextToken) ∧
        (alt = textsOf description ↔
          ∀ child ∈ description, isTextToken child = false → textOf child = "") :=
  ⟨_, inlineTreeOf_singleton_image htype hbelow hdescription, rfl,
    join_filter_eq_iff isTextToken textOf description⟩

end Image

namespace Sample

def image (url : String) (description : List Entries) : Entries :=
  tokenOf "image" "" [(.str "url", .str url)] description

end Sample

open Sample in
/-- A line break in a description has no text, so nothing is lost. -/
theorem inlineTreeOf_image_lineBreak :
    (∀ child ∈ [text "a", tokenOf "linebreak" "" [] [], text "b"], WellFormedInline child) ∧
      ∃ alt, inlineTreeOf [image "u" [text "a", tokenOf "linebreak" "" [] [], text "b"]] =
          .ok [.plain "img" [("src", .str "u"), ("alt", .str alt)] []] ∧
        alt = textsOf [text "a", tokenOf "linebreak" "" [] [], text "b"] := by
  have hdescription : ∀ child ∈ [text "a", tokenOf "linebreak" "" [] [], text "b"],
      WellFormedInline child := by
    simp only [List.forall_mem_cons]
    exact ⟨wellFormedInline_text _, wellFormedInline_tokenOf nofun, wellFormedInline_text _, nofun⟩
  have htype : typeOf (image "u" [text "a", tokenOf "linebreak" "" [] [], text "b"]) = .str "image" := rfl
  obtain ⟨alt, htree, -, halt⟩ := inlineTreeOf_image htype rfl hdescription
  exact ⟨hdescription, alt, htree, halt.mpr (by decide +kernel)⟩

open Sample in
/-- The emphasized word is missing from the alternative text. -/
theorem inlineTreeOf_image_emphasis :
    ∃ alt, inlineTreeOf [image "u" [text "a ", emphasis [text "b"]]] =
        .ok [.plain "img" [("src", .str "u"), ("alt", .str alt)] []] ∧
      alt = "a " ∧ textsOf [text "a ", emphasis [text "b"]] = "a b" := by
  refine ⟨_, inlineTreeOf_singleton_image rfl rfl ?_, by decide +kernel, by decide +kernel⟩
  exact List.forall_mem_cons.mpr ⟨wellFormedInline_text _, List.forall_mem_singleton.mpr
    (wellFormedInline_emphasis (List.forall_mem_singleton.mpr (wellFormedInline_text _)))⟩

end MarkTree.Markdown
