import MarkTree.Text.Blank
import MarkTree.Tree.Attributes

namespace MarkTree

/-- The heading classes that make an admonition. -/
def admonitionClasses : List String :=
  ["warning", "error", "info", "tip", "neutral"]

/-- The admonition classes among the words of the first class value, in order. -/
def admonitionTokens (attributes : List Attribute) : List String :=
  match Attributes.find? "class" attributes with
  | some (.str value) => (Text.wordsOf value).filter admonitionClasses.contains
  | _ => []

/-- A class value is used as a text, unless it counts as absent. -/
def classFault? (attributes : List Attribute) : Option Fault :=
  match Attributes.find? "class" attributes with
  | none | some (.str _) => none
  | some value => if value.truthy then some .notText else none

/-- The admonition classes of a heading, separated by single spaces; none if it is empty. -/
def admonitionClass (attributes : List Attribute) : Except Fault String :=
  match classFault? attributes with
  | some fault => .error fault
  | none => .ok (" ".intercalate (admonitionTokens attributes))

namespace Node

/-- The text that a `code` element holding math alone stands for. -/
def math? (tag : Label) (attributes : List Attribute) (children : List Node) : Option Node :=
  match attributes, children with
  | [(name, value)], [.text content] =>
    if tag.reads "code" && name.reads "class" then
      if value == .str "math-inline" then some (.text (.str ("$" ++ content.display ++ "$")))
      else if value == .str "math-display" then
        some (.text (.str ("$$\n" ++ content.display ++ "\n$$")))
      else none
    else none
  | _, _ => none

/-- The attributes of the heading that opens a list of nodes, if one of level three or four does. -/
def openingHeading? : List Node → Option (List Attribute)
  | .element tag attributes _ _ :: _ =>
    if tag.reads "h3" || tag.reads "h4" then some attributes else none
  | _ => none

/-- The admonition classes of a `blockquote`, none for any other element. -/
def admonition (tag : Label) (children : List Node) : List String :=
  if tag.reads "blockquote" then ((openingHeading? children).map admonitionTokens).getD [] else []

/-- A text without the blanks at its end; a value of another kind is left alone. -/
def stripRight : Datum → String
  | .str value => String.ofList (Text.stripRight value.toList)
  | value => value.display

/-- The attributes of an admonition: the class of the quote with the admonition classes added, the
    note role, then the other attributes of the quote, of which no role is left. -/
def admonitionAttributes (tokens : List String) (attributes : List Attribute) : List Attribute :=
  let (existing, others) := Attributes.splitFirst "class" attributes
  let added := "admonition " ++ " ".intercalate tokens
  let value :=
    match existing with
    | none | some .null => added
    | some existing => stripRight existing ++ " " ++ added
  (.plain (.str "class"), .str value) :: (.plain (.str "role"), .str "note") ::
    others.filter fun (name, _) => !name.reads "role"

/-- The attributes of a code block that holds captured output. -/
def outputAttributes (attributes : List Attribute) : List Attribute :=
  let (existing, others) := Attributes.splitFirst "class" attributes
  let value :=
    match existing with
    | none | some .null => "output"
    | some existing => existing.display ++ " output"
  (.plain (.str "class"), .str value) :: others

/-- A code block: `pre` around nothing but `code` around nothing but a text. -/
def isCodeBlock : Node → Bool
  | .element tag _ [.element tag' _ [.text _] _] _ => tag.reads "pre" && tag'.reads "code"
  | _ => false

/-- The code block with the `output` class, if the node is one. -/
def withOutput : Node → Node
  | .element tag attributes [.element tag' attributes' [.text content] metadata'] metadata =>
    .element tag attributes [.element tag' (outputAttributes attributes') [.text content] metadata']
      metadata
  | node => node

def startsWithCodeBlock : List Node → Bool
  | [] => false
  | node :: _ => node.isCodeBlock

/-- Metadata as the dictionary that it makes; an empty one if it makes none. -/
def metadataRecord (metadata : Datum) : Datum :=
  match metadata.toEntries with
  | .ok entries => .dict entries
  | .error _ => .dict []

def canonicalAttributes (attributes : List Attribute) : List Attribute :=
  attributes.map fun (name, value) => (name.canonical, value)

/-- The tag of an element after normalization, given its admonition classes. -/
def normalTag (tokens : List String) (tag : Label) : Label :=
  if tokens.isEmpty then tag.canonical else .name "div"

/-- The attributes of an element after normalization, given its admonition classes. -/
def normalAttributes (tokens : List String) (attributes : List Attribute) : List Attribute :=
  canonicalAttributes (if tokens.isEmpty then attributes else admonitionAttributes tokens attributes)

/-- A code block that holds captured output, normalized. The class it gains keeps the code in it from
    being math. -/
def normalizedCaptured : Node → Node
  | .element tag attributes [.element tag' attributes' [.text content] metadata'] metadata =>
    .element tag.canonical (canonicalAttributes attributes)
      [.element tag'.canonical (canonicalAttributes (outputAttributes attributes')) [.text content]
        (metadataRecord metadata')] (metadataRecord metadata)
  | node => node

mutual

def normalized : Node → Node
  | .element tag attributes children metadata =>
    match math? tag attributes children with
    | some mathText => mathText
    | none =>
      let tokens := admonition tag children
      .element (normalTag tokens tag) (normalAttributes tokens attributes)
        (normalizedAll false children) (metadataRecord metadata)
  | .text content => .text content
  | .comment content marker => .comment content marker
  | .bare => .bare
  | .foreign kindName => .foreign kindName

/-- Siblings, normalized. `captured` says that the first one is a code block whose output marker has
    just been dropped. -/
def normalizedAll : (captured : Bool) → List Node → List Node
  | _, [] => []
  | captured, node :: rest =>
    let drop := node.isOutputMarker && startsWithCodeBlock rest
    let others := normalizedAll drop rest
    if drop then others
    else if captured then normalizedCaptured node :: others
    else normalized node :: others

end

/-- A label is looked up among others. -/
def keyFault? (label : Label) : Option Fault :=
  if label.value.hashable then none else some .unhashable

/-- A label is made a canonical name. -/
def nameFault? (label : Label) : Option Fault :=
  match label.value.nameText with
  | .ok _ => none
  | .error fault => some fault

def attributeFault? : List Attribute → Option Fault
  | [] => none
  | (name, _) :: rest => (nameFault? name).or (attributeFault? rest)

/-- What may go wrong when a `blockquote` is examined: the tag of its first child is looked up, the
    class of a heading is taken apart, and the class of an admonition is trimmed. -/
def quoteFault? (attributes : List Attribute) : List Node → Option Fault
  | .element tag attributes' _ _ :: _ =>
    (keyFault? tag).or <|
      if tag.reads "h3" || tag.reads "h4" then
        (classFault? attributes').or <|
          if (admonitionTokens attributes').isEmpty then none
          else
            match Attributes.find? "class" attributes with
            | none | some .null | some (.str _) => none
            | some _ => some .notText
      else none
  | _ => none

/-- Metadata is used as a dictionary. -/
def metadataFault? (metadata : Datum) : Option Fault :=
  match metadata.toEntries with
  | .ok _ => none
  | .error fault => some fault

/-- The first fault that normalizing a code block meets when it holds captured output. -/
def capturedFault? : Node → Option Fault
  | .element tag attributes [.element tag' attributes' [.text _] metadata'] metadata =>
    let around := (nameFault? tag).or (attributeFault? attributes)
    let within := (nameFault? tag').or ((attributeFault? attributes').or (metadataFault? metadata'))
    around.or (within.or (metadataFault? metadata))
  | _ => none

mutual

/-- The first fault that normalizing a node meets. -/
def fault? : Node → Option Fault
  | .element tag attributes children metadata =>
    match math? tag attributes children with
    | some _ => none
    | none =>
      let here := if tag.reads "blockquote" then quoteFault? attributes children else none
      let around := here.or ((nameFault? tag).or (attributeFault? attributes))
      around.or ((faults? false children).or (metadataFault? metadata))
  | .text _ | .comment _ _ | .bare | .foreign _ => none

/-- The first fault that normalizing siblings meets, `captured` being as for `normalizedAll`. -/
def faults? : (captured : Bool) → List Node → Option Fault
  | _, [] => none
  | captured, node :: rest =>
    let drop := node.isOutputMarker && startsWithCodeBlock rest
    let others := faults? drop rest
    if captured then (capturedFault? node).or others else (fault? node).or others

end

end Node

/-- Normalizes a document. One walk makes three changes, wherever in the tree they apply:

    * a `code` element that holds math alone becomes a text with its dollar delimiters back;
    * a `blockquote` that opens with a classed heading becomes an admonition, a `div` with a note role;
    * a comment that announces captured output is dropped, and the code block right after it gains the
      `output` class.

    Every tag and attribute name of the result is canonical, and metadata becomes a dictionary. A tree that
    holds a value of a kind that the walk cannot use has a fault instead. -/
def normalize (document : Document) : Except Fault Document :=
  match Node.faults? false document with
  | some fault => .error fault
  | none => .ok (Node.normalizedAll false document)

end MarkTree
