import MarkTree.Proofs.Tree.Attributes
import MarkTree.Proofs.Tree.Site
import MarkTree.Tree.Normalize

namespace MarkTree

/-- How a formula is set. -/
inductive FormulaStyle where
  | inline
  | display
deriving DecidableEq

/-- The text of a formula between its delimiters. -/
def FormulaStyle.delimited : FormulaStyle → String → String
  | .inline, text => "$" ++ text ++ "$"
  | .display, text => "$$\n" ++ text ++ "\n$$"

namespace Node

/-- The style of a formula: a `code` element with a math class as its only attribute and a text as its
    only child. -/
def formula? : Node → Option FormulaStyle
  | .element tag [(name, value)] [.text _] _ =>
    if tag.reads "code" && name.reads "class" then
      if value == .str "math-inline" then some .inline
      else if value == .str "math-display" then some .display
      else none
    else none
  | _ => none

/-- A `blockquote` whose first child is an `h3` or `h4` with an admonition class among the words of its
    first class value. -/
def isAdmonition : Node → Bool
  | .element tag _ (.element tag' attributes _ _ :: _) _ =>
    tag.reads "blockquote" && (tag'.reads "h3" || tag'.reads "h4") &&
      match Attributes.find? "class" attributes with
      | some (.str value) => (Text.wordsOf value).any admonitionClasses.contains
      | _ => false
  | _ => false

end Node

namespace Attributes

/-- The class of a code block with output: its own, if it has any, and `output` behind it. -/
def outputClass (attributes : List Attribute) : String :=
  match find? "class" attributes with
  | some (.str value) => value ++ " output"
  | _ => "output"

/-- The class of the `div` for an admonition: the one of the quote, if it has any, without the blanks at
    its end, then `admonition` and the classes found in the heading. -/
def noteClass (tokens : List String) (attributes : List Attribute) : String :=
  let added := "admonition " ++ " ".intercalate tokens
  match find? "class" attributes with
  | some (.str value) => String.ofList (Text.stripRight value.toList) ++ " " ++ added
  | _ => added

end Attributes

namespace Place

/-- An output marker with a code block right behind it. -/
def isAnnouncement (place : Place) : Bool :=
  place.node.isOutputMarker && place.after.any Node.isCodeBlock

/-- A code block with an output marker right before it. -/
def isCaptured (place : Place) : Bool :=
  place.before.any Node.isOutputMarker && place.node.isCodeBlock

end Place

namespace Site

/-- The site is inside a code block with an output marker right before it, as a child of the `pre`. -/
def isInCaptured (site : Site) : Bool :=
  site.around.head?.any Place.isCaptured

/-- The style of a formula that is not the code of captured output. -/
def freeFormula? (site : Site) : Option FormulaStyle :=
  if site.isInCaptured then none else site.node.formula?

end Site

/-- The code of captured output is no free formula, whatever its class. -/
theorem Site.freeFormula?_of_captured {place : Place} (hcaptured : place.isCaptured = true)
    (code : Place) (around : List Place) : (⟨code, place :: around⟩ : Site).freeFormula? = none := by
  simp [freeFormula?, isInCaptured, hcaptured]

/-- A code block behind an output marker is captured. -/
theorem Place.isCaptured_codeBlock {before : Option Node} {tag tag' : Label}
    (hbefore : before.any Node.isOutputMarker = true) (htag : tag.reads "pre" = true)
    (htag' : tag'.reads "code" = true) (attributes attributes' : List Attribute)
    (content metadata metadata' : Datum) (after : Option Node) :
    Place.isCaptured ⟨before, .element tag attributes
      [.element tag' attributes' [.text content] metadata'] metadata, after⟩ = true := by
  simp [isCaptured, hbefore, Node.isCodeBlock, htag, htag']

/-- The children of the innermost of these elements are siblings that normalization walks. Those of a
    formula and those of a captured code block are not. -/
def IsOpen : List Place → Prop
  | [] => True
  | place :: around => place.isCaptured = false ∧ (⟨place, around⟩ : Site).freeFormula? = none

section IsOpen

variable {around : List Place} (hopen : IsOpen around) (place : Place)
include hopen

/-- Where no element around is captured, nothing is inside captured output. -/
theorem IsOpen.isInCaptured : (⟨place, around⟩ : Site).isInCaptured = false := by
  cases around with
  | nil => rfl
  | cons parent around => exact hopen.1

/-- Where no element around is captured, every formula is free. -/
theorem IsOpen.freeFormula? : (⟨place, around⟩ : Site).freeFormula? = place.node.formula? := by
  simp [Site.freeFormula?, hopen.isInCaptured]

/-- Nothing whose parent is such an element is the text of a formula. -/
theorem IsOpen.parent?_freeFormula? :
    (⟨place, around⟩ : Site).parent?.bind Site.freeFormula? = none := by
  cases around with
  | nil => rfl
  | cons parent around => exact hopen.2

/-- Such an element around another one that is neither captured nor a formula. -/
theorem IsOpen.cons {place : Place} (hfree : place.isCaptured = false)
    (hformula : place.node.formula? = none) : IsOpen (place :: around) :=
  ⟨hfree, by rw [hopen.freeFormula?, hformula]⟩

end IsOpen

namespace Node

/-- A formula is code around one text, and the walk makes it a text with its delimiters. -/
theorem formula?_eq_some {tag : Label} {attributes : List Attribute} {children : List Node}
    {metadata : Datum} {style : FormulaStyle}
    (hformula : formula? (.element tag attributes children metadata) = some style) :
    ∃ content, children = [.text content] ∧ tag.reads "code" = true ∧
      math? tag attributes children = some (.text (.str (style.delimited content.display))) := by
  unfold formula? at hformula
  split at hformula
  · rename_i tag' name value content metadata' heq
    simp only [element.injEq] at heq
    obtain ⟨rfl, rfl, rfl, rfl⟩ := heq
    simp only [Bool.and_eq_true, beq_iff_eq, Option.ite_none_right_eq_some] at hformula
    obtain ⟨⟨htag, hname⟩, hstyle⟩ := hformula
    refine ⟨content, rfl, htag, ?_⟩
    by_cases hinline : value = .str "math-inline"
    · simp only [hinline, ↓reduceIte, Option.some.injEq] at hstyle
      simp [math?, htag, hname, hinline, ← hstyle, FormulaStyle.delimited]
    · simp only [hinline, ↓reduceIte, Option.ite_none_right_eq_some, Option.some.injEq] at hstyle
      obtain ⟨hdisplay, rfl⟩ := hstyle
      simp [math?, htag, hname, hdisplay, FormulaStyle.delimited]
  · cases hformula

theorem formula?_leaf {node : Node} (hleaf : node.isElement = false) : node.formula? = none := by
  cases node with
  | element => simp [isElement] at hleaf
  | _ => rfl

theorem formula?_eq_none_of_reads {tag : Label} (htag : tag.reads "code" = false)
    (attributes : List Attribute) (children : List Node) (metadata : Datum) :
    formula? (.element tag attributes children metadata) = none := by
  cases hformula : formula? (.element tag attributes children metadata) with
  | none => rfl
  | some style =>
    obtain ⟨_, _, hcode, _⟩ := formula?_eq_some hformula
    rw [htag] at hcode
    cases hcode

theorem math?_eq_none {tag : Label} {attributes : List Attribute} {children : List Node}
    {metadata : Datum} (hformula : formula? (.element tag attributes children metadata) = none) :
    math? tag attributes children = none := by
  unfold math?
  split
  · rename_i name value content
    by_cases hcode : (tag.reads "code" && name.reads "class") = true
    · simp only [formula?, hcode, ↓reduceIte] at hformula ⊢
      by_cases hinline : (value == .str "math-inline") = true
      · simp [hinline] at hformula
      · by_cases hdisplay : (value == .str "math-display") = true
        · simp [hinline, hdisplay] at hformula
        · simp [hinline, hdisplay]
    · simp [hcode]
  · rfl

theorem outputAttributes_of_text {attributes : List Attribute}
    (hattributes : TextAttributes attributes) :
    outputAttributes attributes =
      (.plain (.str "class"), .str (Attributes.outputClass attributes)) ::
        attributes.eraseP fun pair => pair.1.reads "class" := by
  unfold outputAttributes Attributes.outputClass
  simp only [Attributes.splitFirst_fst, Attributes.splitFirst_snd]
  rcases Attributes.find?_eq_none_or_str hattributes "class" with hfind | ⟨value, hfind⟩ <;> simp [hfind]

theorem admonitionAttributes_of_text {attributes : List Attribute}
    (hattributes : TextAttributes attributes) (tokens : List String) :
    admonitionAttributes tokens attributes =
      (.plain (.str "class"), .str (Attributes.noteClass tokens attributes)) ::
        (.plain (.str "role"), .str "note") ::
          (attributes.eraseP fun pair => pair.1.reads "class").filter fun pair =>
            !pair.1.reads "role" := by
  unfold admonitionAttributes Attributes.noteClass
  simp only [Attributes.splitFirst_fst, Attributes.splitFirst_snd]
  rcases Attributes.find?_eq_none_or_str hattributes "class" with hfind | ⟨value, hfind⟩ <;>
    simp [hfind, stripRight]

/-- There are admonition classes just if a word of the class is one. -/
theorem isEmpty_admonitionTokens (attributes : List Attribute) :
    (!(admonitionTokens attributes).isEmpty) =
      match Attributes.find? "class" attributes with
      | some (.str value) => (Text.wordsOf value).any admonitionClasses.contains
      | _ => false := by
  unfold admonitionTokens
  cases Attributes.find? "class" attributes with
  | none => rfl
  | some value =>
    cases value with
    | str text =>
      rw [Bool.eq_iff_iff]
      simp [List.filter_eq_nil_iff]
    | _ => rfl

/-- An element is an admonition when the walk finds admonition classes for it. -/
theorem isAdmonition_element (tag : Label) (attributes : List Attribute) (children : List Node)
    (metadata : Datum) :
    isAdmonition (.element tag attributes children metadata) = !(admonition tag children).isEmpty := by
  rcases children with _ | ⟨first, rest⟩
  · simp [isAdmonition, admonition, openingHeading?]
  · cases first with
    | element tag' attributes' grandchildren metadata' =>
      by_cases hquote : tag.reads "blockquote" = true
      · by_cases hheading : (tag'.reads "h3" || tag'.reads "h4") = true
        · simp only [isAdmonition, admonition, openingHeading?, hquote, hheading, ↓reduceIte,
            Bool.true_and, Option.map_some, Option.getD_some, isEmpty_admonitionTokens]
        · simp [isAdmonition, admonition, openingHeading?, hheading]
      · simp [isAdmonition, admonition, hquote]
    | _ => simp [isAdmonition, admonition, openingHeading?]

end Node

namespace Notebook

def marker : Node :=
  .comment (.str "livebook:output") (.bool true)

def formula (style text : String) : Node :=
  .plain "code" [("class", .str style)] [.text (.str text)]

/-- A code block whose class would make its code a formula. -/
def output : Node :=
  .plain "pre" [("id", .str "cell")] [formula "math-display" "y"]

def warning : Node :=
  .plain "blockquote" [("role", .str "quote"), ("class", .str "wide ")]
    [.plain "h3" [("class", .str "warning")] [formula "math-inline" "z"], marker, output]

/-- A formula inside a formula, two markers in a row in front of output, and an admonition. -/
def page : Document :=
  [.plain "code" [("class", .str "math-inline")] [formula "math-inline" "x"], marker, marker, output,
    warning]

end Notebook

end MarkTree
