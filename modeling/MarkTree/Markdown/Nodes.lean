import MarkTree.Datum.Sum
import MarkTree.Markdown.Token
import MarkTree.Source.TrailingList
import MarkTree.Text.Lowercase
import MarkTree.Text.Search
import MarkTree.Tree.Node

namespace MarkTree

namespace Node

/-- Two neighbouring contents as one. -/
def joinContent (a b : Datum) : Datum :=
  match a.plus b with
  | .ok sum => sum
  | .error _ => a

mutual

/-- Joins neighbouring texts. -/
def fuse : List Node → List Node
  | [] => []
  | .text content :: rest => fuseOnto content rest
  | .comment content marker :: rest => .comment content marker :: fuse rest
  | .element tag attributes children metadata :: rest =>
    .element tag attributes children metadata :: fuse rest
  | .bare :: rest => .bare :: fuse rest
  | .foreign kindName :: rest => .foreign kindName :: fuse rest

/-- Joins the texts at the start of a list onto the text before it. -/
def fuseOnto (before : Datum) : List Node → List Node
  | [] => [.text before]
  | .text content :: rest => fuseOnto (joinContent before content) rest
  | .comment content marker :: rest => .text before :: .comment content marker :: fuse rest
  | .element tag attributes children metadata :: rest =>
    .text before :: .element tag attributes children metadata :: fuse rest
  | .bare :: rest => .text before :: .bare :: fuse rest
  | .foreign kindName :: rest => .text before :: .foreign kindName :: fuse rest

end

/-- The inner text of a source that starts and ends as a comment does. -/
def commentIn? (raw : String) : Option String :=
  let text := Text.strip raw.toList
  if Text.startsWith ['<', '!', '-', '-'] text && Text.endsWith ['-', '-', '>'] text then
    some (String.ofList ((text.take (text.length - 3)).drop 4))
  else none

/-- The inner text of a comment that announces captured output. -/
def outputMarker : String :=
  "livebook:\x7b\"output\":true\x7d"

/-- A comment with the given inner text. -/
def ofComment (inner : String) : Node :=
  .comment (.str inner) (.bool (Text.strip inner.toList == outputMarker.toList))

/-- The name in the first tag of a source, in small letters; `div` if it starts with no tag. -/
def openingTag (raw : String) : String :=
  match Text.stripLeft raw.toList with
  | '<' :: rest =>
    let name := (Text.stripLeft rest).takeWhile Text.isName
    match name with
    | c :: _ => if c.isAlpha then String.ofList (Text.lower name) else "div"
    | [] => "div"
  | _ => "div"

/-- A block of HTML: a comment, or an element that keeps the source as it is. -/
def ofHtmlBlock (raw : String) : Node :=
  match commentIn? raw with
  | some inner => ofComment inner
  | none =>
    .element (.plain (.str (openingTag raw))) []
      [.text (.str (String.ofList (Text.dropLineFeedsRight raw.toList)))]
      (.record [("verbatim", .bool true)])

/-- HTML between inline tokens: a comment, or its source as text. -/
def ofInlineHtml (raw : String) : Node :=
  match commentIn? raw with
  | some inner => ofComment inner
  | none => .text (.str raw)

/-- A text that is an attribute only if it says something. -/
def optional (name : String) (value : Datum) : List (String × Datum) :=
  if value.truthy then [(name, value)] else []

/-- A heading with the attribute list at the end of its last text taken off. -/
def ofHeading (tag : String) (children : List Node) : Node :=
  match children.getLast? with
  | some (.text (.str content)) =>
    match Source.trailingList? content.toList with
    | some (before, body) =>
      let attributes := (Source.AttributeList.read body).attributes
      let remaining := Text.stripRight before
      .plain tag (attributes.map fun (name, value) => (name, .str value))
        (children.dropLast ++
          if remaining.isEmpty then [] else [.text (.str (String.ofList remaining))])
    | none => .plain tag [] children
  | _ => .plain tag [] children

end Node

namespace Markdown

namespace Emphasis

def tag : Emphasis → String
  | .emphasis => "em"
  | .strong => "strong"
  | .strikethrough => "del"

end Emphasis

namespace CodeKind

/-- The class of an inline code element. -/
def className : CodeKind → String
  | .code => "inline"
  | .inlineMath => "math-inline"
  | .displayMath => "math-display"

end CodeKind

namespace Inline

/-- The contents of the texts that stand directly in a description. -/
def directTexts : List Inline → List Datum
  | [] => []
  | .text raw :: rest => raw :: directTexts rest
  | _ :: rest => directTexts rest

def altText (description : List Inline) : String :=
  String.join ((directTexts description).map Datum.display)

mutual

/-- The node of an inline token, if it has one. -/
def node? : Inline → Option Node
  | .text raw => some (.text raw)
  | .styled style children => some (.plain style.tag [] (Node.fuse (nodes children)))
  | .code codeKind raw => some (.plain "code" [("class", .str codeKind.className)] [.text raw])
  | .lineBreak => some (.plain "br" [] [])
  | .softBreak => some (.text (.str "\n"))
  | .link url title children =>
    some (.plain "a" (("href", url) :: Node.optional "title" title) (Node.fuse (nodes children)))
  | .image url title description =>
    some (.plain "img" (("src", url) :: ("alt", .str (altText description)) ::
      Node.optional "title" title) [])
  | .html raw => some (.ofInlineHtml raw)
  | .unsupported _ => none
  | .malformed _ => none

/-- The nodes of inline tokens, one by one. -/
def nodes : List Inline → List Node
  | [] => []
  | token :: rest =>
    match node? token with
    | some node => node :: nodes rest
    | none => nodes rest

end

/-- The nodes of inline tokens, neighbouring texts joined. -/
def toNodes (tokens : List Inline) : List Node :=
  Node.fuse (nodes tokens)

end Inline

/-- A cell with its alignment as a style. -/
def Cell.node? (tag : String) : Cell → Option Node
  | .cell align children =>
    let style : List (String × Datum) :=
      if align.truthy then [("style", .str ("text-align: " ++ align.display ++ ";"))] else []
    some (.plain tag style (Inline.toNodes children))
  | .malformed _ => none

def Row.node? : Row → Option Node
  | .row cells => some (.plain "tr" [] (cells.filterMap (Cell.node? "td")))
  | .malformed _ => none

def Section.node? : Section → Option Node
  | .head cells =>
    some (.plain "thead" [] [.plain "tr" [] (cells.filterMap (Cell.node? "th"))])
  | .body rows => some (.plain "tbody" [] (rows.filterMap Row.node?))
  | .other => none
  | .malformed _ => none

namespace Block

/-- The tag of a heading. Levels other than one to six count as one. -/
def headingTag (level : Datum) : String :=
  match level.int? with
  | some n => if 1 ≤ n && n ≤ 6 then "h" ++ level.display else "h1"
  | none => "h1"

/-- The source of a code block, without the line feed at its very end. -/
def codeSource (source : String) : String :=
  let text := source.toList
  if Text.endsWith ['\n'] text then String.ofList text.dropLast else source

/-- A code block. The first word of the info string is the class of the code. -/
def codeNode (source info : String) : Node :=
  let className : List (String × Datum) :=
    match Text.wordsOf info with
    | [] => []
    | word :: _ => [("class", .str word)]
  .plain "pre" [] [.plain "code" className [.text (.str (codeSource source))]]

def mathNode (raw : String) : Node :=
  .plain "p" []
    [.plain "code" [("class", .str CodeKind.displayMath.className)]
      [.text (.str (String.ofList (Text.trimLineFeeds raw.toList)))]]

/-- The number that an ordered list starts with, unless it is one. -/
def startAttribute (ordered : Bool) (start : Datum) : List (String × Datum) :=
  if ordered && !start.equal .null && !start.equal (.int 1) then [("start", .str start.display)]
  else []

mutual

/-- The nodes of a block. -/
def toNodes : Block → List Node
  | .heading level children => [.ofHeading (headingTag level) (Inline.toNodes children)]
  | .paragraph children => [.plain "p" [] (Inline.toNodes children)]
  | .plain children => Inline.toNodes children
  | .code source info => [codeNode source info]
  | .quote children => [.plain "blockquote" [] (allNodes children)]
  | .list ordered start items =>
    [.plain (if ordered then "ol" else "ul") (startAttribute ordered start) (itemNodes items)]
  | .table sections => [.plain "table" [] (sections.filterMap Section.node?)]
  | .rule => [.plain "hr" [] []]
  | .html raw => [.ofHtmlBlock raw]
  | .math raw => [mathNode raw]
  | .blank => []
  | .unsupported _ => []
  | .malformed _ => []

/-- The nodes of a sequence of blocks. -/
def allNodes : List Block → List Node
  | [] => []
  | block :: blocks => toNodes block ++ allNodes blocks

def itemNodes : List (List Block) → List Node
  | [] => []
  | item :: items => .plain "li" [] (allNodes item) :: itemNodes items

end

end Block

end Markdown

end MarkTree
