import MarkTree.Datum.Entries
import MarkTree.Markdown.Token

namespace MarkTree.Markdown

/-- A field of a token, or what stands in for it. All fields may be missing, and each kind of token has
    its own measure of tolerance for values of a wrong kind in them. -/
def fieldOr (name : String) (default : Datum) (token : Entries) : Datum :=
  (Entries.get? name token).getD default

def typeOf (token : Entries) : Datum :=
  fieldOr "type" (.str "") token

/-- The text of a token, of any kind. -/
def rawOf (token : Entries) : Datum :=
  fieldOr "raw" (.str "") token

/-- The details of a token; none if they are no dictionary. -/
def details (token : Entries) : Entries :=
  ((fieldOr "attrs" (.dict []) token).entries?).getD []

def detailOr (name : String) (default : Datum) (token : Entries) : Datum :=
  fieldOr name default (details token)

/-- The members of a list or dictionary or text that could be tokens. A text or dictionary has no such
    member, so one stands for all. -/
def members : Datum → List (Option Entries)
  | .list items => items.map Datum.entries?
  | .str letters => if letters = "" then [] else [none]
  | .dict entries => if entries.isEmpty then [] else [none]
  | _ => []

def nested (token : Entries) : List (Option Entries) :=
  members (fieldOr "children" (.list []) token)

/-- The nested tokens can be gone through. -/
def isNested (token : Entries) : Bool :=
  match fieldOr "children" (.list []) token with
  | .list _ | .str _ | .dict _ => true
  | _ => false

/-- The nested tokens of a token that looks into lists alone. -/
def nestedInList (token : Entries) : List (Option Entries) :=
  match fieldOr "children" (.list []) token with
  | .list items => items.map Datum.entries?
  | _ => []

theorem sizeOf_map_entries? (items : List Datum) :
    sizeOf (items.map Datum.entries?) ≤ sizeOf items := by
  induction items with
  | nil => simp
  | cons item items ih =>
    have hitem : sizeOf item.entries? ≤ sizeOf item := by
      cases item <;> simp [Datum.entries?]
    simp only [List.map_cons, List.cons.sizeOf_spec]
    omega

/-- Reading the members of a value makes nothing that is larger than the value, up to a constant. -/
theorem sizeOf_members (value : Datum) : sizeOf (members value) ≤ sizeOf value + 2 := by
  cases value with
  | list items =>
    have := sizeOf_map_entries? items
    simp only [members, Datum.list.sizeOf_spec]
    omega
  | str letters =>
    simp only [members]
    split <;> simp
  | dict entries =>
    simp only [members]
    split <;> simp
  | _ => simp [members]

/-- A field of a token is smaller than the token, so that reading may go on inside it. -/
theorem sizeOf_get? {name : String} {value : Datum} :
    (token : Entries) → Entries.get? name token = some value → sizeOf value + 3 ≤ sizeOf token
  | [], hget => by simp [Entries.get?] at hget
  | (key, value') :: rest, hget => by
    simp only [Entries.get?] at hget
    split at hget
    · next hkey =>
      cases hget
      simp only [List.cons.sizeOf_spec, Prod.mk.sizeOf_spec, hkey, Datum.str.sizeOf_spec]
      cases rest <;> simp <;> omega
    · have := sizeOf_get? rest hget
      simp only [List.cons.sizeOf_spec]
      omega

/-- The nested tokens are no larger than the token around them. -/
theorem sizeOf_nested (token : Entries) : sizeOf (nested token) ≤ sizeOf token := by
  unfold nested fieldOr
  cases hget : Entries.get? "children" token with
  | none =>
    cases token with
    | nil => simp [members]
    | cons head rest =>
      simp only [Option.getD_none, members, List.map_nil, List.nil.sizeOf_spec, List.cons.sizeOf_spec]
      omega
  | some value =>
    have hsize := sizeOf_get? token hget
    have := sizeOf_members value
    simp only [Option.getD_some]
    omega

/-- The tokens nested in the items of a list are together no larger than the list. -/
theorem sizeOf_nestedInList (token : Entries) : sizeOf (nestedInList token) ≤ sizeOf token := by
  have hnested := sizeOf_nested token
  unfold nested at hnested
  unfold nestedInList
  split
  · next items hitems => rwa [hitems] at hnested
  · cases token with
    | nil => simp
    | cons head rest =>
      simp only [List.nil.sizeOf_spec, List.cons.sizeOf_spec]
      omega

mutual

def readInline (token : Entries) : Inline :=
  match typeOf token with
  | .str type =>
    match type with
    | "text" => .text (rawOf token)
    | "emphasis" => .styled .emphasis (readInlines (nestedInList token))
    | "strong" => .styled .strong (readInlines (nestedInList token))
    | "strikethrough" => .styled .strikethrough (readInlines (nestedInList token))
    | "codespan" => .code .code (rawOf token)
    | "inline_math" => .code .inlineMath (rawOf token)
    | "block_math" => .code .displayMath (rawOf token)
    | "linebreak" => .lineBreak
    | "softbreak" => .softBreak
    | "link" =>
      .link (detailOr "url" (.str "") token) (detailOr "title" .null token)
        (readInlines (nestedInList token))
    | "image" =>
      if isNested token then
        .image (detailOr "url" (.str "") token) (detailOr "title" .null token)
          (readInlines (nested token))
      else .malformed .notIterable
    | "inline_html" =>
      match rawOf token with
      | .str raw => .html raw
      | _ => .malformed .notText
    | _ => .unsupported (.str type)
  | type => if type.hashable then .unsupported type else .malformed .unhashable
termination_by sizeOf token + 1
decreasing_by
  all_goals
    have := sizeOf_nestedInList token
    have := sizeOf_nested token
    omega

def readInlines (items : List (Option Entries)) : List Inline :=
  match items with
  | [] => []
  | none :: rest => .malformed .notRecord :: readInlines rest
  | some token :: rest => readInline token :: readInlines rest
termination_by sizeOf items
decreasing_by all_goals (simp only [List.cons.sizeOf_spec, Option.some.sizeOf_spec, Option.none.sizeOf_spec]; omega)

end

def readCell : Option Entries → Cell
  | none => .malformed .notRecord
  | some token => .cell (detailOr "align" .null token) (readInlines (nestedInList token))

/-- A row in the body of a table. Any token will do. -/
def readRow : Option Entries → Row
  | none => .malformed .notRecord
  | some token =>
    if isNested token then .row ((nested token).map readCell) else .malformed .notIterable

def readSection : Option Entries → Section
  | none => .malformed .notRecord
  | some token =>
    if typeOf token = .str "table_head" then
      if isNested token then .head ((nested token).map readCell) else .malformed .notIterable
    else if typeOf token = .str "table_body" then
      if isNested token then .body ((nested token).map readRow) else .malformed .notIterable
    else .other

/-- A code block: its source and info string have to be texts. -/
def readCode (token : Entries) : Block :=
  match rawOf token with
  | .str source =>
    match detailOr "info" .null token with
    | .str info => .code source info
    | info => if info.truthy then .malformed .notText else .code source ""
  | _ => .malformed .notText

mutual

def readBlock (token : Entries) : Block :=
  match typeOf token with
  | .str type =>
    match type with
    | "heading" => .heading (detailOr "level" (.int 1) token) (readInlines (nestedInList token))
    | "paragraph" => .paragraph (readInlines (nestedInList token))
    | "block_text" => .plain (readInlines (nestedInList token))
    | "block_code" => readCode token
    | "block_quote" =>
      if isNested token then .quote (readBlocks (nested token)) else .malformed .notIterable
    | "list" =>
      if isNested token then
        .list (detailOr "ordered" (.bool false) token).truthy (detailOr "start" (.int 1) token)
          (readItems (nested token))
      else .malformed .notIterable
    | "table" =>
      if isNested token then .table ((nested token).map readSection) else .malformed .notIterable
    | "thematic_break" => .rule
    | "block_html" =>
      match rawOf token with
      | .str raw => .html raw
      | _ => .malformed .notText
    | "block_math" =>
      match rawOf token with
      | .str raw => .math raw
      | _ => .malformed .notText
    | "blank_line" => .blank
    | _ => .unsupported (.str type)
  | type => if type.hashable then .unsupported type else .malformed .unhashable
termination_by sizeOf token + 1
decreasing_by
  all_goals
    have := sizeOf_nested token
    omega

def readBlocks (items : List (Option Entries)) : List Block :=
  match items with
  | [] => []
  | none :: rest => .malformed .notRecord :: readBlocks rest
  | some token :: rest => readBlock token :: readBlocks rest
termination_by sizeOf items
decreasing_by all_goals (simp only [List.cons.sizeOf_spec, Option.some.sizeOf_spec, Option.none.sizeOf_spec]; omega)

/-- The items of a list, each with its blocks. What is no token is passed over. -/
def readItems (items : List (Option Entries)) : List (List Block) :=
  match items with
  | [] => []
  | none :: rest => readItems rest
  | some token :: rest =>
    (if isNested token then readBlocks (nested token) else [.malformed .notIterable]) ::
      readItems rest
termination_by sizeOf items
decreasing_by
  all_goals simp only [List.cons.sizeOf_spec, Option.some.sizeOf_spec, Option.none.sizeOf_spec]
  · omega
  · have := sizeOf_nested token
    omega
  · omega

end

/-- The blocks of a token stream. What is no list has none. -/
def Block.ofStream : Datum → List Block
  | .list items => readBlocks (items.map Datum.entries?)
  | _ => []

end MarkTree.Markdown
