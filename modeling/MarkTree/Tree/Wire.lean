import MarkTree.Json.Reader
import MarkTree.Json.Writer
import MarkTree.Tree.Node

namespace MarkTree

/-- Why a document has no wire form, or a wire form stands for no document. -/
inductive WireError where
  /-- A node of this kind has no wire form. -/
  | unknownNode (kindName : String)
  /-- The field `node_type` names no kind of node. -/
  | unknownType (value : Datum)
  /-- The text holds a value of this kind, not an array. -/
  | notArray (kindName : String)
  | unwritable (error : Json.WriteError)
  /-- The indentation is of a kind that gives no text. -/
  | badIndent (kindName : String)
  | unreadable (error : Json.ReadError)
  | fault (fault : Fault)
deriving DecidableEq

namespace WireError

/-- The message of an error about the wire form itself; there is none where JSON or a value fails. -/
def message? : WireError → Option String
  | .unknownNode kindName => some ("Unknown node type: " ++ kindName)
  | .unknownType value => some ("Unknown node_type: " ++ value.quoted)
  | .notArray kindName => some ("Expected a JSON array of nodes, got " ++ kindName)
  | .unwritable (.unsupported kindName) =>
    some ("Element metadata is not JSON serializable: Object of type " ++ kindName ++
      " is not JSON serializable")
  | .unwritable (.badKey kindName) =>
    some ("Element metadata is not JSON serializable: keys must be str, int, float, bool or None, not " ++
      kindName)
  | .badIndent kindName =>
    some ("Element metadata is not JSON serializable: can't multiply sequence by non-int of type " ++
      Text.quoted kindName)
  | .unwritable .overlong | .unreadable _ | .fault _ => none

end WireError

namespace Node

/-- Attributes as pairs of a name and a value. -/
def attributesToDatum (attributes : List Attribute) : Datum :=
  .list (attributes.map fun (name, value) => .list [.str name.text, value])

mutual

/-- The wire object of a node. The field `node_type` says which kind of node it stands for, and attributes
    are pairs, so that their order and repeated names survive. A node that has none counts as null. -/
def toDatum : Node → Datum
  | .text content => .record [("node_type", .str "Text"), ("content", content)]
  | .comment content marker =>
    .record [("node_type", .str "Comment"), ("content", content), ("is_output_marker", marker)]
  | .element tag attributes children metadata =>
    .record [("node_type", .str "Element"), ("tag", .str tag.text),
      ("attributes", attributesToDatum attributes), ("children", .list (toData children)),
      ("metadata", metadata)]
  | .bare | .foreign _ => .null

def toData : List Node → List Datum
  | [] => []
  | node :: nodes => toDatum node :: toData nodes

end

mutual

/-- The kind of the first node in reading order that has no wire form. -/
def unknown? : Node → Option String
  | .bare => some "Node"
  | .foreign kindName => some kindName
  | .element _ _ children _ => anyUnknown? children
  | .text _ | .comment _ _ => none

def anyUnknown? : List Node → Option String
  | [] => none
  | node :: nodes => (unknown? node).or (anyUnknown? nodes)

end

/-- The wire object of a node, if it has one. -/
def encode (node : Node) : Except WireError Datum :=
  match node.unknown? with
  | some kindName => .error (.unknownNode kindName)
  | none => .ok node.toDatum

/-- Reports a fault as an error of the wire form. -/
def orFault {α : Type} : Except Fault α → Except WireError α
  | .ok value => .ok value
  | .error fault => .error (.fault fault)

/-- A name read from the wire: any value that can be one, spelled out. -/
def decodeName (value : Datum) : Except WireError Label := do
  let text ← orFault value.nameText
  return .name text

def decodeTag (entries : Entries) : Except WireError Label :=
  match Entries.get? "tag" entries with
  | none => .error (.fault (.missingField "tag"))
  | some value => decodeName value

def decodeAttribute (value : Datum) : Except WireError Attribute := do
  let (name, value) ← orFault value.pair
  return (← decodeName name, value)

def decodeAttributes (entries : Entries) : Except WireError (List Attribute) := do
  let pairs ← orFault ((Entries.get? "attributes" entries).getD (.list [])).elements
  pairs.mapM decodeAttribute

def decodeMetadata (entries : Entries) : Except WireError Entries :=
  orFault ((Entries.get? "metadata" entries).getD (.dict [])).toEntries

/-- The field `content`, an empty text if absent. -/
def decodeContent (entries : Entries) : Datum :=
  (Entries.get? "content" entries).getD (.str "")

mutual

/-- The node that a wire object stands for. Reading is lenient about optional fields and about the kinds
    of names, and gives canonical names. -/
def decode : Datum → Except WireError Node
  | .dict entries =>
    let type := (Entries.get? "node_type" entries).getD .null
    if type = .str "Text" then .ok (.text (decodeContent entries))
    else if type = .str "Comment" then
      let marker := (Entries.get? "is_output_marker" entries).getD (.bool false)
      .ok (.comment (decodeContent entries) (.bool marker.truthy))
    else if type = .str "Element" then do
      let tag ← decodeTag entries
      let attributes ← decodeAttributes entries
      let children ← decodeChildren entries
      let metadata ← decodeMetadata entries
      return .element tag attributes children (.dict metadata)
    else .error (.unknownType type)
  | _ => .error (.fault .notRecord)

/-- The nodes of the field `children`, none if it is absent. -/
def decodeChildren : List (Datum × Datum) → Except WireError (List Node)
  | [] => .ok []
  | (key, value) :: rest =>
    if key = .str "children" then decodeSequence value else decodeChildren rest

/-- The nodes of a sequence. Characters and keys are no objects, so a text or dictionary holds nodes
    only if it is empty. -/
def decodeSequence : Datum → Except WireError (List Node)
  | .list items => decodeAll items
  | .str letters => if letters = "" then .ok [] else .error (.fault .notRecord)
  | .dict entries => if entries.isEmpty then .ok [] else .error (.fault .notRecord)
  | _ => .error (.fault .notIterable)

def decodeAll : List Datum → Except WireError (List Node)
  | [] => .ok []
  | item :: items => do
    let node ← decode item
    let nodes ← decodeAll items
    return node :: nodes

end

end Node

/-- A count of characters is a signed number of 64 bits. -/
def isCount (n : Int) : Bool :=
  -(Number.powerOfTwo 63 : Int) ≤ n && n < Number.powerOfTwo 63

/-- No text has more characters than this. -/
def longestText : Nat := Number.powerOfTwo 36

/-- The unit of indentation that a value asks for: none, so many spaces, or a text. -/
def indentUnit : Datum → Except WireError (Option String)
  | .null => .ok none
  | .str unit => .ok (some unit)
  | value =>
    match value.int? with
    | some width =>
      if !isCount width then .error (.fault .tooLarge)
      else if longestText < width.toNat then .error (.fault .tooLong)
      else .ok (some (String.ofList (List.replicate width.toNat ' ')))
    | none => .error (.badIndent value.kindName)

/-- The wire form of a document: a JSON array with one object for each node. Nodes without wire form are
    reported before values without one. -/
def encodeDocument (document : Document) (indent : Datum) : Except WireError String :=
  match Node.anyUnknown? document with
  | some kindName => .error (.unknownNode kindName)
  | none => do
    let unit ← indentUnit indent
    match Json.render unit (.list (Node.toData document)) with
    | .ok text => .ok text
    | .error error => .error (.unwritable error)

/-- The document that a wire form stands for. -/
def decodeDocument (text : String) : Except WireError Document :=
  match Json.read text with
  | .error error => .error (.unreadable error)
  | .ok (.list items) => Node.decodeAll items
  | .ok value => .error (.notArray value.kindName)

end MarkTree
