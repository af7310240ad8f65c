import MarkTree.Datum.Display
import MarkTree.Datum.Entries

namespace MarkTree

/-- The name of a tag or attribute: a plain value as it was given, or a canonical name. -/
inductive Label where
  | plain (value : Datum)
  | name (text : String)
deriving DecidableEq, Inhabited

namespace Label

/-- The value that a label is compared and written as. -/
def value : Label → Datum
  | .plain value => value
  | .name text => .str text

/-- The text of a label. A plain value that is no text is spelled out. -/
def text (label : Label) : String :=
  label.value.display

def isCanonical : Label → Bool
  | .plain _ => false
  | .name _ => true

/-- The canonical name with the text of the label. -/
def canonical (label : Label) : Label :=
  .name label.text

def reads (name : String) (label : Label) : Bool :=
  label.value == .str name

@[simp] theorem value_name (t : String) : (name t).value = .str t := rfl

@[simp] theorem text_name (t : String) : (name t).text = t := rfl

@[simp] theorem text_plain_str (t : String) : (plain (.str t)).text = t := rfl

@[simp] theorem canonical_name (t : String) : (name t).canonical = name t := rfl

@[simp] theorem isCanonical_canonical (label : Label) : label.canonical.isCanonical = true := rfl

end Label

/-- A named value of an element. Names may repeat. -/
abbrev Attribute := Label × Datum

/-- A node of a document tree. An element has a tag, ordered attributes, children and metadata. Fields
    hold data of any kind, as they come from outside. -/
inductive Node where
  | text (content : Datum)
  /-- An HTML comment without its delimiters. The marker says whether it announces the captured output
      of a notebook cell. -/
  | comment (content marker : Datum)
  | element (tag : Label) (attributes : List Attribute) (children : List Node) (metadata : Datum)
  /-- A node without any content. -/
  | bare
  /-- A value that is no node, with the name of its kind. -/
  | foreign (kindName : String := "object")
deriving Inhabited

namespace Node

/-- An element with plain names. -/
def plain (tag : String) (attributes : List (String × Datum)) (children : List Node) : Node :=
  .element (.plain (.str tag)) (attributes.map fun (name, value) => (.plain (.str name), value))
    children (.dict [])

/-- A comment that announces captured output. -/
def isOutputMarker : Node → Bool
  | .comment _ marker => marker.truthy
  | _ => false

def isText : Node → Bool
  | .text _ => true
  | _ => false

mutual

/-- Every tag and attribute name in the tree is canonical. -/
def isCanonical : Node → Bool
  | .element tag attributes children _ =>
    tag.isCanonical && attributes.all (fun (name, _) => name.isCanonical) && areCanonical children
  | .text _ | .comment _ _ | .bare | .foreign _ => true

def areCanonical : List Node → Bool
  | [] => true
  | node :: nodes => isCanonical node && areCanonical nodes

end

/-- A label whose text is a text. -/
def isTextLabel (label : Label) : Bool :=
  match label.value with
  | .str _ => true
  | _ => false

def isTextDatum : Datum → Bool
  | .str _ => true
  | _ => false

mutual

/-- Contents, tags, attribute names and attribute values are texts, markers are truth values, and
    metadata is a dictionary. -/
def wellTyped : Node → Bool
  | .text content => isTextDatum content
  | .comment content marker =>
    isTextDatum content && (marker == .bool true || marker == .bool false)
  | .element tag attributes children metadata =>
    isTextLabel tag && attributes.all (fun (name, value) => isTextLabel name && isTextDatum value) &&
      areWellTyped children && metadata.entries?.isSome
  | .bare | .foreign _ => false

def areWellTyped : List Node → Bool
  | [] => true
  | node :: nodes => wellTyped node && areWellTyped nodes

end

end Node

/-- A document: nodes in reading order. -/
abbrev Document := List Node

end MarkTree
