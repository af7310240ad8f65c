import MarkTree.Datum.Equality
import MarkTree.Fault

namespace MarkTree.Markdown

/-- How a run of inline tokens is set off. -/
inductive Emphasis where
  | emphasis
  | strong
  | strikethrough
deriving DecidableEq, Repr

/-- What kind of source an inline code token holds. -/
inductive CodeKind where
  | code
  | inlineMath
  | displayMath
deriving DecidableEq, Repr

/-- A token inside a block. -/
inductive Inline where
  | text (raw : Datum)
  | styled (style : Emphasis) (children : List Inline)
  | code (kind : CodeKind) (raw : Datum)
  | lineBreak
  | softBreak
  | link (url title : Datum) (children : List Inline)
  /-- An image; its description is made of inline tokens. -/
  | image (url title : Datum) (description : List Inline)
  | html (raw : String)
  /-- A token of a type that has no meaning here. -/
  | unsupported (type : Datum)
  | malformed (fault : Fault)
deriving Inhabited

inductive Cell where
  | cell (align : Datum) (children : List Inline)
  | malformed (fault : Fault)
deriving Inhabited

/-- A row in the body of a table. -/
inductive Row where
  | row (cells : List Cell)
  | malformed (fault : Fault)
deriving Inhabited

/-- A part of a table. The head has its cells directly, without a row around them. -/
inductive Section where
  | head (cells : List Cell)
  | body (rows : List Row)
  | other
  | malformed (fault : Fault)
deriving Inhabited

/-- A token of the block level. Where the parser that made the tokens left something that cannot be used,
    a malformed token stands in its place and says what the fault is, so that everything in front of it
    can still be told. -/
inductive Block where
  | heading (level : Datum) (children : List Inline)
  | paragraph (children : List Inline)
  /-- The inline content of a tight list item. -/
  | plain (children : List Inline)
  /-- A code block with its info string. -/
  | code (source info : String)
  | quote (children : List Block)
  | list (ordered : Bool) (start : Datum) (items : List (List Block))
  | table (sections : List Section)
  | rule
  | html (raw : String)
  | math (raw : String)
  | blank
  /-- A token of a type that has no meaning here. -/
  | unsupported (type : Datum)
  | malformed (fault : Fault)
deriving Inhabited

end MarkTree.Markdown
