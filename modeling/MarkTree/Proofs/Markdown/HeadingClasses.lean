import MarkTree.Proofs.Markdown.Heading
import MarkTree.Proofs.Normalize.Note

namespace MarkTree.Markdown

open Node Source Text

/-- The value of a class that a token writes out. -/
def classValue? : AttributeToken → Option String
  | .pair key value _ => if String.ofList key = "class" then some (String.ofList value) else none
  | .dotted _ | .hashed _ => none

/-- The classes that a token writes, in one way or the other. -/
def classesOf : AttributeToken → List String
  | .dotted name => [String.ofList name]
  | .hashed _ => []
  | .pair key value _ => if String.ofList key = "class" then wordsOf (String.ofList value) else []

/-- The tokens of an attribute list, in order. -/
def tokensOf (body : List Char) : List AttributeToken :=
  (scan body).tokens.map Prod.snd

/-- The values of all classes that are written out. -/
def classValues (body : List Char) : List String :=
  (tokensOf body).filterMap classValue?

/-- All classes that are written in a list, in order. -/
def classesWritten (body : List Char) : List String :=
  (tokensOf body).flatMap classesOf

/-- All classes that are written in the list are in one attribute, which is the first. -/
structure IsGathered (body : List Char) : Prop where
  atMostOne : (AttributeList.read body).attributes.countP (fun pair => pair.1 == "class") ≤ 1
  leads : ∀ value, ("class", value) ∈ (AttributeList.read body).attributes →
    (AttributeList.read body).attributes.head? = some ("class", value) ∧
      wordsOf value = classesWritten body

/-- The classes that whoever looks for the class of the heading finds: those with a dot or, if there are
    none, those of the first value. -/
def leadingClasses (body : List Char) : List String :=
  if (dottedClasses body).isEmpty then (classValues body).head?.elim [] wordsOf else dottedClasses body

/-- The attributes of a heading with the list. -/
def headingAttributes (body : List Char) : List Attribute :=
  (AttributeList.read body).attributes.map fun (name, value) => (.plain (.str name), .str value)

variable {body : List Char}

theorem attribute?_of_classValue? {token : AttributeToken} {value : String}
    (hvalue : classValue? token = some value) : token.attribute? = some ("class", value) := by
  cases token with
  | dotted | hashed => cases hvalue
  | pair key letters quoting =>
    by_cases hkey : String.ofList key = "class"
    · simpa [AttributeToken.attribute?, classValue?, hkey] using hvalue
    · simp [classValue?, hkey] at hvalue

theorem classValue?_of_attribute? {token : AttributeToken} {value : String}
    (hattribute : token.attribute? = some ("class", value)) : classValue? token = some value := by
  cases token with
  | dotted name => cases hattribute
  | hashed name => simp [AttributeToken.attribute?] at hattribute
  | pair key letters quoting => simpa [AttributeToken.attribute?, classValue?] using hattribute

/-- A token without a dotted class makes an attribute. -/
theorem exists_attribute? {token : AttributeToken} (hdotted : token.class? = none) :
    ∃ pair, token.attribute? = some pair := by
  cases token with
  | dotted => cases hdotted
  | hashed | pair => exact ⟨_, rfl⟩

/-- The classes of a token are its dotted class, or the words of its class value. -/
theorem classesOf_eq (token : AttributeToken) :
    classesOf token = token.class?.toList ++ ((classValue? token).map wordsOf).getD [] := by
  cases token with
  | dotted | hashed => rfl
  | pair key value quoting =>
    by_cases hkey : String.ofList key = "class"
    · simp [classesOf, classValue?, AttributeToken.class?, hkey]
    · simp [classesOf, classValue?, AttributeToken.class?, hkey]

/-- The attributes are one entry for all dotted classes, and behind it the attributes in the order of
    their tokens. -/
theorem attributes_read_eq (body : List Char) :
    (AttributeList.read body).attributes =
      classEntry (dottedClasses body) ++ (tokensOf body).filterMap AttributeToken.attribute? :=
  attributes_eq body

theorem filter_classEntry (classes : List String) :
    (classEntry classes).filter (fun pair => pair.1 == "class") = classEntry classes := by
  unfold classEntry
  split <;> rfl

/-- The class attributes among the tokens are those of the class values. -/
theorem filter_attribute? (tokens : List AttributeToken) :
    (tokens.filterMap AttributeToken.attribute?).filter (fun pair => pair.1 == "class") =
      (tokens.filterMap classValue?).map (Prod.mk "class") := by
  induction tokens with
  | nil => rfl
  | cons token tokens ih =>
    cases token with
    | dotted name => exact ih
    | hashed name => exact ih
    | pair key value quoting =>
      by_cases hkey : String.ofList key = "class"
      · simp [AttributeToken.attribute?, classValue?, hkey, ih]
      · simp [AttributeToken.attribute?, classValue?, hkey, ih]

/-- The list gives an attribute for all dotted classes, and one for each class that is written out. -/
theorem filter_attributes (body : List Char) :
    (AttributeList.read body).attributes.filter (fun pair => pair.1 == "class") =
      classEntry (dottedClasses body) ++ (classValues body).map (Prod.mk "class") := by
  rw [attributes_read_eq, List.filter_append, filter_classEntry, filter_attribute?, classValues]

/-- A class attribute is the entry of the dotted classes or holds a class value. -/
theorem mem_attributes {value : String} :
    ("class", value) ∈ (AttributeList.read body).attributes ↔
      ("class", value) ∈ classEntry (dottedClasses body) ∨ value ∈ classValues body := by
  have hfilter : ("class", value) ∈ (AttributeList.read body).attributes ↔ ("class", value) ∈
      (AttributeList.read body).attributes.filter fun pair => pair.1 == "class" := by simp
  rw [hfilter, filter_attributes, List.mem_append, List.mem_map]
  simp

/-- There are as many class attributes as class values, and one more if a class is dotted. -/
theorem countP_attributes (body : List Char) :
    (AttributeList.read body).attributes.countP (fun pair => pair.1 == "class") =
      (classEntry (dottedClasses body)).length + (classValues body).length := by
  rw [List.countP_eq_length_filter, filter_attributes, List.length_append, List.length_map]

/-- Without dotted classes the first attribute is what the first token makes. -/
theorem head?_attributes (hdotted : dottedClasses body = []) {value : String} :
    (AttributeList.read body).attributes.head? = some ("class", value) ↔
      (tokensOf body).head?.bind classValue? = some value := by
  have hnone := List.filterMap_eq_nil_iff.mp hdotted
  rw [attributes_read_eq, classEntry_eq_nil_iff.mpr hdotted, List.nil_append]
  change ∀ token ∈ tokensOf body, token.class? = none at hnone
  cases htokens : tokensOf body with
  | nil => simp
  | cons token more =>
    rw [htokens] at hnone
    obtain ⟨pair, hpair⟩ := exists_attribute? (hnone token List.mem_cons_self)
    rw [List.filterMap_cons_some hpair, List.head?_cons, List.head?_cons, Option.bind_some, ← hpair]
    exact ⟨classValue?_of_attribute?, attribute?_of_classValue?⟩

/-- Without a class value the classes that are written are the dotted ones. -/
theorem classesWritten_eq_dotted (hvalues : classValues body = []) :
    classesWritten body = dottedClasses body := by
  rw [classValues, List.filterMap_eq_nil_iff] at hvalues
  change _ = (tokensOf body).filterMap AttributeToken.class?
  rw [classesWritten, List.filterMap_eq_flatMap_toList]
  apply List.flatMap_congr
  intro token hmem
  rw [classesOf_eq, hvalues token hmem, Option.map_none, Option.getD_none, List.append_nil]

/-- Without a dotted class the classes that are written are the words of the class values. -/
theorem classesWritten_eq_values (hdotted : dottedClasses body = []) :
    classesWritten body = (classValues body).flatMap wordsOf := by
  have hnone : ∀ token ∈ tokensOf body, token.class? = none := List.filterMap_eq_nil_iff.mp hdotted
  rw [classesWritten, classValues]
  generalize tokensOf body = tokens at hnone
  induction tokens with
  | nil => rfl
  | cons token tokens ih =>
    obtain ⟨hfirst, hnone⟩ := List.forall_mem_cons.mp hnone
    rw [List.flatMap_cons, classesOf_eq, hfirst, ih hnone]
    cases hvalue : classValue? token with
    | none => rw [List.filterMap_cons_none hvalue]; rfl
    | some value => rw [List.filterMap_cons_some hvalue, List.flatMap_cons]; rfl

theorem isGathered_of_values_eq_nil (hvalues : classValues body = []) : IsGathered body where
  atMostOne := by
    rw [countP_attributes, hvalues, classEntry]
    split <;> simp
  leads := by
    intro value hmem
    rw [mem_attributes, hvalues] at hmem
    rw [classesWritten_eq_dotted hvalues, attributes_read_eq]
    have hentry := hmem.resolve_right (List.not_mem_nil)
    unfold classEntry at hentry ⊢
    split at hentry
    · cases hentry
    · rename_i hsome
      rw [if_neg hsome]
      obtain rfl : value = " ".intercalate (dottedClasses body) := by simpa using hentry
      exact ⟨rfl, wordsOf_dottedClasses body⟩

/-- A single class value in front of all other tokens, with no dotted class, stands at the front. -/
theorem isGathered_of_first {value : String} (hdotted : dottedClasses body = [])
    (hvalues : classValues body = [value]) (hfirst : (tokensOf body).head?.bind classValue? = some value) :
    IsGathered body where
  atMostOne := by rw [countP_attributes, hvalues, classEntry_eq_nil_iff.mpr hdotted]; simp
  leads := by
    intro value' hmem
    rw [mem_attributes, hvalues, classEntry_eq_nil_iff.mpr hdotted] at hmem
    obtain rfl : value' = value := by simpa using hmem
    rw [head?_attributes hdotted, classesWritten_eq_values hdotted, hvalues]
    exact ⟨hfirst, by simp⟩

/-- All classes are gathered if they are all written with a dot, or if the first token is a class that is
    written out and no other token writes any. -/
theorem isGathered_iff :
    IsGathered body ↔ classValues body = [] ∨ ∃ value, dottedClasses body = [] ∧
      classValues body = [value] ∧ (tokensOf body).head?.bind classValue? = some value := by
  constructor
  · intro h
    have hcount := h.atMostOne
    rw [countP_attributes] at hcount
    cases hvalues : classValues body with
    | nil => exact .inl rfl
    | cons value more =>
      rw [hvalues, List.length_cons] at hcount
      have hmore : more = [] := List.length_eq_zero_iff.mp (by omega)
      have hdotted : dottedClasses body = [] :=
        classEntry_eq_nil_iff.mp (List.length_eq_zero_iff.mp (by omega))
      have hmem : ("class", value) ∈ (AttributeList.read body).attributes :=
        mem_attributes.mpr (.inr (hvalues ▸ List.mem_cons_self))
      exact .inr ⟨value, hdotted, by rw [hmore], (head?_attributes hdotted).mp (h.leads value hmem).1⟩
  · rintro (hvalues | ⟨value, hdotted, hvalues, hfirst⟩)
    · exact isGathered_of_values_eq_nil hvalues
    · exact isGathered_of_first hdotted hvalues hfirst

/-- Where the classes are gathered, the leading entry has all classes that are written. -/
theorem IsGathered.leadingClasses_eq (h : IsGathered body) : leadingClasses body = classesWritten body := by
  rw [leadingClasses]
  rcases isGathered_iff.mp h with hvalues | ⟨value, hdotted, hvalues, -⟩
  · rw [classesWritten_eq_dotted hvalues, hvalues]
    split
    · rename_i hnone
      exact (List.isEmpty_iff.mp hnone).symm
    · rfl
  · rw [classesWritten_eq_values hdotted, hdotted, hvalues]
    simp

theorem titled_eq (tag title : String) (body : List Char) :
    titled tag title body = .element (.plain (.str tag)) (headingAttributes body)
      (if title = "" then [] else [.text (.str title)]) (.dict []) := by
  rw [titled, plain, headingAttributes, List.map_map]
  rfl

/-- Looking for a name finds the first of the attributes that have it. -/
theorem find?_label (name : String) (pairs : List (String × String)) :
    Attributes.find? name (pairs.map fun (name, value) => (.plain (.str name), .str value)) =
      (pairs.filter fun pair => pair.1 == name).head?.map fun pair => .str pair.2 := by
  rw [List.head?_filter]
  induction pairs with
  | nil => rfl
  | cons pair pairs ih =>
    rw [Attributes.find?] at ih ⊢
    rw [List.map_cons, Attributes.findWhere?, ih]
    by_cases hname : pair.1 = name
    · simp [Label.reads, Label.value, hname]
    · rw [List.find?_cons_of_neg (by simpa using hname)]
      simp [Label.reads, Label.value, hname]

/-- The class that is looked up is the first of the entries. -/
theorem find?_headingAttributes (body : List Char) :
    Attributes.find? "class" (headingAttributes body) =
      (classEntry (dottedClasses body) ++ (classValues body).map (Prod.mk "class")).head?.map
        fun pair => .str pair.2 := by
  rw [headingAttributes, find?_label, filter_attributes]

/-- The class words of a heading are those of its leading entry. -/
theorem classWords_headingAttributes (body : List Char) :
    Attributes.classWords (headingAttributes body) = leadingClasses body := by
  rw [Attributes.classWords, find?_headingAttributes, leadingClasses, classEntry]
  cases (dottedClasses body).isEmpty with
  | true =>
    cases classValues body with
    | nil => rfl
    | cons => rfl
  | false => exact wordsOf_dottedClasses body

/-- A heading has no class that is no text. -/
theorem admonitionClass_headingAttributes (body : List Char) :
    admonitionClass (headingAttributes body) =
      .ok (" ".intercalate ((leadingClasses body).filter admonitionClasses.contains)) := by
  have hfault : classFault? (headingAttributes body) = none := by
    rw [classFault?, find?_headingAttributes]
    cases (classEntry (dottedClasses body) ++ (classValues body).map (Prod.mk "class")).head? with
    | none => rfl
    | some pair => rfl
  rw [admonitionClass, hfault, admonitionTokens_eq, classWords_headingAttributes]

/-- What becomes of the classes of a list. The classes with a dot make one attribute in front, and every
    class that is written out makes an attribute of its own. So all classes are gathered in the first
    attribute if all of them have a dot, or if the first token is a class that is written out and no other
    token writes any. A heading is recognised by its leading classes, which are all classes of a gathered
    list. -/
theorem read_classes (body : List Char) :
    (AttributeList.read body).attributes.filter (fun pair => pair.1 == "class") =
        classEntry (dottedClasses body) ++ (classValues body).map (Prod.mk "class") ∧
      (IsGathered body ↔ classValues body = [] ∨ ∃ value, dottedClasses body = [] ∧
        classValues body = [value] ∧ (tokensOf body).head?.bind classValue? = some value) ∧
      ∀ tag title, ∃ attributes children,
        titled tag title body = .element (.plain (.str tag)) attributes children (.dict []) ∧
        admonitionClass attributes =
          .ok (" ".intercalate ((leadingClasses body).filter admonitionClasses.contains)) ∧
        (IsGathered body → admonitionClass attributes =
          .ok (" ".intercalate ((classesWritten body).filter admonitionClasses.contains))) := by
  refine ⟨filter_attributes body, isGathered_iff, fun tag title => ⟨_, _, titled_eq tag title body,
    admonitionClass_headingAttributes body, fun hgathered => ?_⟩⟩
  rw [admonitionClass_headingAttributes, hgathered.leadingClasses_eq]

/-- Classes in quotes are found if they come first and no other token writes any. -/
theorem read_classes_quoted :
    IsGathered "class='wide tip' #n".toList ∧ ∃ attributes children,
      titled "h3" "Note" "class='wide tip' #n".toList =
        .element (.plain (.str "h3")) attributes children (.dict []) ∧
      admonitionClass attributes = .ok "tip" := by
  obtain ⟨-, hiff, hheading⟩ := read_classes "class='wide tip' #n".toList
  have hgathered := hiff.mpr (.inr ⟨"wide tip", by decide +kernel, by decide +kernel, by decide +kernel⟩)
  obtain ⟨attributes, children, heq, -, hclass⟩ := hheading "h3" "Note"
  have htokens : (classesWritten "class='wide tip' #n".toList).filter admonitionClasses.contains =
      ["tip"] := by decide +kernel
  rw [htokens] at hclass
  exact ⟨hgathered, attributes, children, heq, hclass hgathered⟩

/-- A class that is written out behind one with a dot is hidden by it. -/
theorem read_hiddenClass :
    (AttributeList.read ".wide class=warning".toList).attributes =
        [("class", "wide"), ("class", "warning")] ∧
      classesWritten ".wide class=warning".toList = ["wide", "warning"] ∧
      ¬ IsGathered ".wide class=warning".toList ∧
      "warning" ∈ admonitionClasses ∧
      admonitionClass (headingAttributes ".wide class=warning".toList) = .ok "" := by
  have hread : (AttributeList.read ".wide class=warning".toList).attributes =
      [("class", "wide"), ("class", "warning")] := by decide +kernel
  refine ⟨hread, by decide +kernel, fun hgathered => ?_, by decide, ?_⟩
  · have hcount := hgathered.atMostOne
    rw [hread] at hcount
    exact absurd hcount (by decide)
  · rw [headingAttributes, hread]
    decide +kernel

end MarkTree.Markdown
