import MarkTree.Markdown.Nodes

namespace MarkTree.Markdown

/-- A token of an unsupported type that is passed over. -/
inductive Skipped where
  | block (type : Datum)
  | inline (type : Datum)
deriving DecidableEq

namespace Skipped

def message : Skipped → String
  | .block type => "Skipping unsupported markdown token type " ++ type.quoted
  | .inline type => "Skipping unsupported inline token type " ++ type.quoted

end Skipped

/-- What is noted while tokens are gone through, in reading order, and the fault that ends it, if there is
    one. A stream without fault has the tree that its blocks give. -/
structure Trace where
  skipped : List Skipped
  fault? : Option Fault
deriving DecidableEq

namespace Trace

def empty : Trace :=
  { skipped := [], fault? := none }

def skip (token : Skipped) : Trace :=
  { skipped := [token], fault? := none }

def stop (fault : Fault) : Trace :=
  { skipped := [], fault? := some fault }

/-- One trace after the other; nothing comes after a fault. -/
def followedBy (first second : Trace) : Trace :=
  match first.fault? with
  | some _ => first
  | none => { skipped := first.skipped ++ second.skipped, fault? := second.fault? }

instance : Append Trace :=
  ⟨followedBy⟩

end Trace

namespace Inline

/-- Every text that stands directly in a description is used as a text. -/
def altTrace (description : List Inline) : Trace :=
  if (directTexts description).all Node.isTextDatum then .empty else .stop .notAddable

/-- The content of the text that the next text would be joined with, after a token, and what joining
    the token with the one before it meets. -/
def joined (before : Option Datum) (token : Inline) : Trace × Option Datum :=
  match node? token with
  | none => (.empty, before)
  | some (.text content) =>
    match before with
    | none => (.empty, some content)
    | some content' =>
      match content'.plus content with
      | .ok sum => (.empty, some sum)
      | .error fault => (.stop fault, none)
  | some _ => (.empty, none)

mutual

def trace : Inline → Trace
  | .styled _ children => traces none children
  | .link _ _ children => traces none children
  | .image _ _ description => altTrace description
  | .unsupported type => .skip (.inline type)
  | .malformed fault => .stop fault
  | .text _ => .empty
  | .code _ _ => .empty
  | .lineBreak => .empty
  | .softBreak => .empty
  | .html _ => .empty

/-- The trace of inline tokens, with the content of the text in front of them. -/
def traces (before : Option Datum) : List Inline → Trace
  | [] => .empty
  | token :: rest =>
    let (joining, content) := joined before token
    trace token ++ joining ++ traces content rest

end

end Inline

def Cell.trace : Cell → Trace
  | .cell _ children => Inline.traces none children
  | .malformed fault => .stop fault

def cellsTrace : List Cell → Trace
  | [] => .empty
  | cell :: cells => cell.trace ++ cellsTrace cells

def Row.trace : Row → Trace
  | .row cells => cellsTrace cells
  | .malformed fault => .stop fault

def rowsTrace : List Row → Trace
  | [] => .empty
  | row :: rows => row.trace ++ rowsTrace rows

def Section.trace : Section → Trace
  | .head cells => cellsTrace cells
  | .body rows => rowsTrace rows
  | .other => .empty
  | .malformed fault => .stop fault

def sectionsTrace : List Section → Trace
  | [] => .empty
  | part :: parts => part.trace ++ sectionsTrace parts

namespace Block

/-- The last text of a heading is searched for an attribute list. -/
def headingTrace (children : List Node) : Trace :=
  match children.getLast? with
  | some (.text content) => if Node.isTextDatum content then .empty else .stop .notSearchable
  | _ => .empty

mutual

def trace : Block → Trace
  | .heading _ children =>
    Inline.traces none children ++ headingTrace (Inline.toNodes children)
  | .paragraph children => Inline.traces none children
  | .plain children => Inline.traces none children
  | .quote children => traces children
  | .list _ _ items => itemsTrace items
  | .table sections => sectionsTrace sections
  | .unsupported type => .skip (.block type)
  | .malformed fault => .stop fault
  | .code _ _ => .empty
  | .rule => .empty
  | .html _ => .empty
  | .math _ => .empty
  | .blank => .empty

def traces : List Block → Trace
  | [] => .empty
  | block :: blocks => trace block ++ traces blocks

def itemsTrace : List (List Block) → Trace
  | [] => .empty
  | item :: items => traces item ++ itemsTrace items

end

end Block

end MarkTree.Markdown
