import MarkTree.Proofs.Normalize.Frame
import MarkTree.Proofs.Text.Words

namespace MarkTree

namespace Attributes

/-- The words of the first class value. -/
def classWords (attributes : List Attribute) : List String :=
  match find? "class" attributes with
  | some (.str value) => Text.wordsOf value
  | _ => []

def occurrences (name : String) (attributes : List Attribute) : Nat :=
  attributes.countP fun pair => pair.1.reads name

/-- Every admonition class is one word. -/
theorem isOneWord_of_mem_admonitionClasses :
    ∀ name ∈ admonitionClasses, Text.IsOneWord name.toList := by
  have hsolid : ∀ name ∈ admonitionClasses,
      name.toList ≠ [] ∧ name.toList.all (fun c => !Text.isBlank c) = true := by decide
  intro name hmem
  obtain ⟨hne, hall⟩ := hsolid name hmem
  exact ⟨hne, by simpa using hall⟩

/-- The class of a note has the words of its text. -/
theorem wordsOf_admonition {tokens : List String}
    (htokens : ∀ name ∈ tokens, name ∈ admonitionClasses) :
    Text.wordsOf ("admonition " ++ " ".intercalate tokens) = "admonition" :: tokens := by
  have hone : Text.wordsOf "admonition" = ["admonition"] := by decide
  calc
    Text.wordsOf ("admonition " ++ " ".intercalate tokens) =
        Text.wordsOf "admonition" ++ Text.wordsOf (" ".intercalate tokens) :=
      Text.wordsOf_append_blank "admonition" _
    _ = "admonition" :: tokens := by
      rw [hone, Text.wordsOf_intercalate fun name hmem =>
        isOneWord_of_mem_admonitionClasses name (htokens name hmem)]
      rfl

/-- The class of a note has the words of the class it was added to, then `admonition` and the classes
    found in the heading. Blanks at the end of the old class make no difference. -/
theorem wordsOf_noteClass {tokens : List String} (htokens : ∀ name ∈ tokens, name ∈ admonitionClasses)
    (attributes : List Attribute) :
    Text.wordsOf (noteClass tokens attributes) = classWords attributes ++ "admonition" :: tokens := by
  have hadded := wordsOf_admonition htokens
  rw [noteClass, classWords]
  cases find? "class" attributes with
  | none => exact hadded
  | some value =>
    cases value with
    | str value =>
      have hstrip : Text.wordsOf (String.ofList (Text.stripRight value.toList)) = Text.wordsOf value := by
        rw [Text.wordsOf, String.toList_ofList, Text.words_stripRight, Text.wordsOf]
      exact (Text.wordsOf_append_blank _ _).trans (congrArg₂ _ hstrip hadded)
    | _ => exact hadded

theorem occurrences_cons (name : String) (pair : Attribute) (attributes : List Attribute) :
    occurrences name (pair :: attributes) = (pair.1.reads name).toNat + occurrences name attributes := by
  rw [occurrences, List.countP_cons, Nat.add_comm]
  cases pair.1.reads name <;> rfl

theorem occurrences_canonical {attributes : List Attribute} (hattributes : Node.TextAttributes attributes)
    (name : String) : occurrences name (Node.canonicalAttributes attributes) = occurrences name attributes := by
  rw [occurrences, Node.canonicalAttributes, List.countP_map]
  apply List.countP_congr
  intro pair hmem
  rw [Function.comp_apply, Label.reads_canonical (hattributes pair hmem).1]

/-- Taking off the first attribute of a name leaves one less of them. -/
theorem occurrences_eraseP (name : String) (attributes : List Attribute) :
    occurrences name (attributes.eraseP fun pair => pair.1.reads name) = occurrences name attributes - 1 := by
  induction attributes with
  | nil => rfl
  | cons pair rest ih =>
    rw [List.eraseP_cons, occurrences_cons]
    cases hreads : pair.1.reads name with
    | true =>
      rw [cond_true, Bool.toNat_true]
      omega
    | false =>
      rw [cond_false, occurrences_cons, hreads, ih, Bool.toNat_false]
      omega

/-- A name that is filtered out does not occur. -/
theorem occurrences_filter_self (name : String) (attributes : List Attribute) :
    occurrences name (attributes.filter fun pair => !pair.1.reads name) = 0 := by
  rw [occurrences, List.countP_eq_zero]
  intro pair hmem
  simpa using (List.mem_filter.mp hmem).2

/-- Taking off all attributes of another name changes nothing. -/
theorem occurrences_filter {name other : String} (hne : name ≠ other) (attributes : List Attribute) :
    occurrences name (attributes.filter fun pair => !pair.1.reads other) = occurrences name attributes := by
  rw [occurrences, List.countP_filter, occurrences]
  apply List.countP_congr
  intro pair _
  cases hreads : pair.1.reads name with
  | false => simp
  | true => simp [Label.reads_eq_false_of_reads hreads hne]

end Attributes

namespace Node

open Attributes

variable {attributes : List Attribute} {tokens : List String}

/-- The admonition classes of a heading are those among its class words, in their order. -/
theorem admonitionTokens_eq (attributes : List Attribute) :
    admonitionTokens attributes = (classWords attributes).filter admonitionClasses.contains := by
  rw [admonitionTokens, classWords]
  cases find? "class" attributes with
  | none => rfl
  | some value => cases value <;> rfl

/-- What is found among the classes of a heading is an admonition class. -/
theorem mem_of_mem_admonitionTokens :
    ∀ name ∈ admonitionTokens attributes, name ∈ admonitionClasses := by
  rw [admonitionTokens_eq]
  intro name hmem
  simpa using (List.mem_filter.mp hmem).2

/-- The note role is the only one of a note, and the class is added if there is none. -/
theorem occurrences_admonition (hattributes : TextAttributes attributes) (tokens : List String) :
    occurrences "role" (admonitionAttributes tokens attributes) = 1 ∧
      occurrences "class" (admonitionAttributes tokens attributes) = max 1 (occurrences "class" attributes) := by
  have hclass : (Label.plain (.str "class")).reads "class" = true := by decide
  have hrole : (Label.plain (.str "role")).reads "role" = true := by decide
  rw [admonitionAttributes_of_text hattributes]
  simp only [occurrences_cons]
  rw [occurrences_filter_self, occurrences_filter (by decide), occurrences_eraseP, hclass, hrole,
    Label.reads_eq_false_of_reads hclass (by decide), Label.reads_eq_false_of_reads hrole (by decide),
    Bool.toNat_true, Bool.toNat_false]
  omega

/-- The attributes of a note, canonical, as they read. -/
theorem named_note (hattributes : TextAttributes attributes) :
    named (canonicalAttributes (admonitionAttributes tokens attributes)) =
      (.str "class", .str (noteClass tokens attributes)) :: (.str "role", .str "note") ::
        named ((attributes.eraseP fun pair => pair.1.reads "class").filter fun pair =>
          !pair.1.reads "role") := by
  rw [named_canonical (textAttributes_admonition hattributes tokens),
    admonitionAttributes_of_text hattributes]
  rfl

/-- The class of a note has the words of the quote, and behind them those of the admonition. -/
theorem classWords_note (hattributes : TextAttributes attributes)
    (htokens : ∀ name ∈ tokens, name ∈ admonitionClasses) :
    classWords (canonicalAttributes (admonitionAttributes tokens attributes)) =
      classWords attributes ++ "admonition" :: tokens := by
  have hfind := find?_canonical (textAttributes_admonition hattributes tokens) "class"
  have hclass : find? "class" (admonitionAttributes tokens attributes) =
      some (.str (noteClass tokens attributes)) := by
    rw [admonitionAttributes_of_text hattributes]
    rfl
  rw [← wordsOf_noteClass htokens, classWords, canonicalAttributes, hfind, hclass]

/-- An admonition becomes a `div` around its normalized children. -/
theorem normalized_note {tag : Label} {children : List Node} (hsome : admonition tag children ≠ [])
    (attributes : List Attribute) (metadata : Datum) :
    normalized (.element tag attributes children metadata) =
      .element (.name "div")
        (canonicalAttributes (admonitionAttributes (admonition tag children) attributes))
        (normalizedAll false children) (metadataRecord metadata) := by
  have htag : tag.reads "blockquote" = true := by
    by_contra hother
    exact hsome (if_neg hother)
  have hcode := Label.reads_eq_false_of_reads htag (show "blockquote" ≠ "code" by decide)
  have hempty : (admonition tag children).isEmpty = false := by simpa using hsome
  rw [normalized, math?_eq_none_of_reads hcode]
  simp only [normalTag, normalAttributes, hempty, Bool.false_eq_true, ↓reduceIte]

end Node

open Attributes in
/-- A quote that opens with a heading of level three or four, among whose class words is an admonition
    class, becomes a `div`. It has the attributes of the quote behind a class and a note role of its own,
    its class has the words of both classes, and its children are those of the quote, normalized. -/
theorem normalize_note {tag tag' : Label} {attributes attributes' : List Attribute}
    {below rest : List Node} {metadata metadata' : Datum}
    (hwell : Node.wellTyped (.element tag attributes
      (.element tag' attributes' below metadata' :: rest) metadata) = true)
    (hquote : tag.reads "blockquote" = true)
    (hheading : tag'.reads "h3" = true ∨ tag'.reads "h4" = true)
    (hclass : ∃ name ∈ classWords attributes', name ∈ admonitionClasses) :
    ∃ (note : List Attribute) (heading : Node) (others : List Node),
      normalize [.element tag attributes (.element tag' attributes' below metadata' :: rest) metadata] =
          .ok [.element (.name "div") note (heading :: others) metadata] ∧
        normalize [.element tag' attributes' below metadata'] = .ok [heading] ∧
        normalize (.element tag' attributes' below metadata' :: rest) = .ok (heading :: others) ∧
        (∃ classes, named note = (.str "class", .str classes) :: (.str "role", .str "note") ::
          named ((attributes.eraseP fun pair => pair.1.reads "class").filter fun pair =>
            !pair.1.reads "role")) ∧
        occurrences "role" note = 1 ∧ occurrences "class" note = max 1 (occurrences "class" attributes) ∧
        classWords note = classWords attributes ++
          "admonition" :: (classWords attributes').filter admonitionClasses.contains := by
  have hparts := Node.wellTyped_element_iff.mp hwell
  obtain ⟨hfirst, hrest⟩ := Node.areWellTyped_cons.mp hparts.children
  have htokens : Node.admonition tag (.element tag' attributes' below metadata' :: rest) =
      admonitionTokens attributes' := by
    have hopens : (tag'.reads "h3" || tag'.reads "h4") = true := Bool.or_eq_true_iff.mpr hheading
    simp [Node.admonition, hquote, Node.openingHeading?, hopens]
  have hsome : admonitionTokens attributes' ≠ [] := by
    obtain ⟨name, hmem, hknown⟩ := hclass
    rw [Node.admonitionTokens_eq]
    exact List.ne_nil_of_mem (List.mem_filter.mpr ⟨hmem, by simpa using hknown⟩)
  have hdiv := Node.normalized_note (htokens ▸ hsome) attributes metadata
  have htext := Node.textAttributes_admonition hparts.attributes (admonitionTokens attributes')
  obtain ⟨hroles, hclasses⟩ :=
    Node.occurrences_admonition hparts.attributes (admonitionTokens attributes')
  rw [htokens, Node.metadataRecord_eq hparts.metadata] at hdiv
  refine ⟨Node.canonicalAttributes (Node.admonitionAttributes (admonitionTokens attributes') attributes),
    Node.normalized (.element tag' attributes' below metadata'), Node.normalizedAll false rest,
    ?_, ?_, ?_, ⟨_, Node.named_note hparts.attributes⟩, ?_, ?_, ?_⟩
  · rw [normalize_eq_ok (Node.areWellTyped_cons.mpr ⟨hwell, rfl⟩)]
    change Except.ok [Node.normalized _] = _
    rw [hdiv]
    rfl
  · exact normalize_eq_ok (Node.areWellTyped_cons.mpr ⟨hfirst, rfl⟩)
  · exact normalize_eq_ok hparts.children
  · rw [occurrences_canonical htext, hroles]
  · rw [occurrences_canonical htext, hclasses]
  · rw [Node.classWords_note hparts.attributes Node.mem_of_mem_admonitionTokens, Node.admonitionTokens_eq]

namespace Notebook

def tip : Node :=
  .plain "h4" [("class", .str "tip loud\u2003tip")] []

/-- A quote with two classes, the first of which ends in a blank, and two roles. -/
def aside : Node :=
  .plain "blockquote"
    [("role", .str "aside"), ("class", .str "wide "), ("class", .str "low"), ("role", .str "quote")]
    [tip, marker, output]

end Notebook

open Notebook Attributes in
/-- The first of the quote's classes is added to, and none of its roles is left. The heading has a class
    twice and one that makes no admonition. -/
theorem normalize_note_aside :
    aside.wellTyped = true ∧
      ∃ (note : List Attribute) (heading : Node) (others : List Node),
        normalize [aside] = .ok [.element (.name "div") note (heading :: others) (.dict [])] ∧
          normalize [tip] = .ok [heading] ∧
          normalize [tip, marker, output] = .ok (heading :: others) ∧
          (∃ classes, named note = [(.str "class", .str classes), (.str "role", .str "note"),
            (.str "class", .str "low")]) ∧
          occurrences "role" note = 1 ∧ occurrences "class" note = 2 ∧
          classWords note = ["wide", "admonition", "tip", "tip"] := by
  have hwell : aside.wellTyped = true := by decide
  exact ⟨hwell, normalize_note hwell (by decide) (.inr (by decide)) ⟨"tip", by decide, by decide⟩⟩

end MarkTree
