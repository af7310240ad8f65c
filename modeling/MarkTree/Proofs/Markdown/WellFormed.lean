import MarkTree.Pipeline

namespace MarkTree.Markdown

open Logging

/-- The tree of a list of tokens, or why it has none. -/
def treeOf (tokens : List Entries) : Except Failure Document :=
  (Pipeline.readTokens (.list (tokens.map .dict))).outcome.1

/-- The normalized tree of a list of tokens. -/
def normalTreeOf (tokens : List Entries) : Except Failure Document := do
  let tree ← treeOf tokens
  Failure.ofFault (normalize tree)

/-- What stands for the info string of a code block: the text itself, or a value that counts as absent. -/
def IsInfo (info : String) (value : Datum) : Prop :=
  value = .str info ∨ value.truthy = false ∧ info = ""

/-- What stands for the info string of a code block is of use. -/
def HasInfo (value : Datum) : Prop :=
  ∃ info, IsInfo info value

/-- A token with a text for its type, a text for its raw source, a dictionary of details and tokens like
    it below; what is absent counts as empty. The level of a heading is no truth value, and the info
    string of a code block passes a test. -/
inductive WellFormed (Info : Datum → Prop) : Entries → Prop where
  | intro {token attrs : Entries} {type raw : String} {below : List Entries}
      (htype : typeOf token = .str type) (hraw : rawOf token = .str raw)
      (hattrs : fieldOr "attrs" (.dict []) token = .dict attrs)
      (hlevel : type = "heading" → ∀ flag, fieldOr "level" (.int 1) attrs ≠ .bool flag)
      (hinfo : type = "block_code" → Info (fieldOr "info" .null attrs))
      (hbelow : fieldOr "children" (.list []) token = .list (below.map .dict))
      (hall : ∀ child ∈ below, WellFormed Info child) : WellFormed Info token

def AreWellFormed (tokens : List Entries) : Prop :=
  ∀ token ∈ tokens, WellFormed HasInfo token

/-- The details of a token are read from its field if they are a dictionary. -/
theorem details_eq {token attrs : Entries} (hattrs : fieldOr "attrs" (.dict []) token = .dict attrs) :
    details token = attrs := by
  rw [details, hattrs]
  rfl

theorem map_entries?_dict (tokens : List Entries) :
    (tokens.map Datum.dict).map Datum.entries? = tokens.map some := by
  rw [List.map_map]
  rfl

theorem readInlines_map_some (tokens : List Entries) :
    readInlines (tokens.map some) = tokens.map readInline := by
  induction tokens with
  | nil => rw [List.map_nil, readInlines, List.map_nil]
  | cons token rest ih => rw [List.map_cons, readInlines, ih, List.map_cons]

theorem readBlocks_map_some (tokens : List Entries) :
    readBlocks (tokens.map some) = tokens.map readBlock := by
  induction tokens with
  | nil => rw [List.map_nil, readBlocks, List.map_nil]
  | cons token rest ih => rw [List.map_cons, readBlocks, ih, List.map_cons]

theorem ofStream_map_dict (tokens : List Entries) :
    Block.ofStream (.list (tokens.map .dict)) = tokens.map readBlock := by
  rw [Block.ofStream, map_entries?_dict, readBlocks_map_some]

/-- The nodes of a list of tokens. -/
def documentOf (tokens : List Entries) : Document :=
  Block.allNodes (tokens.map readBlock)

@[simp] theorem documentOf_nil : documentOf [] = [] := rfl

@[simp] theorem documentOf_cons (token : Entries) (rest : List Entries) :
    documentOf (token :: rest) = (readBlock token).toNodes ++ documentOf rest := rfl

@[simp] theorem documentOf_append (front back : List Entries) :
    documentOf (front ++ back) = documentOf front ++ documentOf back := by
  induction front with
  | nil => rfl
  | cons token rest ih => rw [List.cons_append, documentOf_cons, ih, documentOf_cons, List.append_assoc]

/-- Noting the tokens that are passed over writes records and changes nothing else. -/
theorem exists_records_of_notes {α : Type} (level : Level) (logger : String) (skipped : List Skipped)
    (job : Logged α) (records : List Record) :
    ∃ records', (do
        for token in skipped do
          Logged.note level logger token.message
        job : Logged α) records = job records' := by
  induction skipped generalizing records with
  | nil => exact ⟨records, rfl⟩
  | cons token rest ih =>
    obtain ⟨records', hrest⟩ :=
      ih (records ++ [.plain level logger token.message])
    refine ⟨records', ?_⟩
    rw [List.forIn_cons]
    exact hrest

/-- Tokens have the tree of their blocks unless the trace of the blocks ends in a fault. -/
theorem treeOf_eq (tokens : List Entries) :
    treeOf tokens =
      match (Block.traces (tokens.map readBlock)).fault? with
      | some fault => .error (.fault fault)
      | none => .ok (documentOf tokens) := by
  obtain ⟨records, hnotes⟩ := exists_records_of_notes .debug Pipeline.parserLogger
    (Block.traces (tokens.map readBlock)).skipped _ []
  rw [treeOf, Logged.outcome, Pipeline.readTokens, ofStream_map_dict, hnotes]
  cases (Block.traces (tokens.map readBlock)).fault? <;> rfl

section Below

variable {token : Entries} {below : List Entries}
  (hbelow : fieldOr "children" (.list []) token = .list (below.map .dict))
include hbelow

/-- The tokens nested in a token with children are the children. -/
theorem nested_eq : nested token = below.map some := by
  rw [nested, hbelow, members, map_entries?_dict]

theorem isNested_eq : isNested token = true := by
  rw [isNested, hbelow]

/-- The children of a token are read as inline tokens. -/
theorem readInlines_nestedInList : readInlines (nestedInList token) = below.map readInline := by
  rw [nestedInList, hbelow]
  dsimp only
  rw [map_entries?_dict, readInlines_map_some]

/-- The children of a token are read as blocks. -/
theorem readBlocks_nested : readBlocks (nested token) = below.map readBlock := by
  rw [nested_eq hbelow, readBlocks_map_some]

end Below

/-- A well-formed token can be gone into. -/
theorem WellFormed.isNested {Info : Datum → Prop} {token : Entries} (h : WellFormed Info token) :
    isNested token = true := by
  obtain ⟨-, -, -, -, -, hbelow, -⟩ := h
  exact isNested_eq hbelow

theorem readItems_map_some {tokens : List Entries} (htokens : ∀ token ∈ tokens, isNested token = true) :
    readItems (tokens.map some) = tokens.map fun token => readBlocks (nested token) := by
  induction tokens with
  | nil => rw [List.map_nil, readItems, List.map_nil]
  | cons token rest ih =>
    obtain ⟨htoken, hrest⟩ := List.forall_mem_cons.mp htokens
    rw [List.map_cons, readItems, ih hrest, htoken, if_pos rfl, List.map_cons]

section Kinds

variable {token : Entries}

theorem readBlock_heading (htype : typeOf token = .str "heading") :
    readBlock token =
      .heading (detailOr "level" (.int 1) token) (readInlines (nestedInList token)) := by
  rw [readBlock, htype]
  rfl

theorem readBlock_code (htype : typeOf token = .str "block_code") :
    readBlock token = readCode token := by
  rw [readBlock, htype]
  rfl

theorem readBlock_html {raw : String} (htype : typeOf token = .str "block_html")
    (hraw : rawOf token = .str raw) : readBlock token = .html raw := by
  rw [readBlock, htype, hraw]
  rfl

theorem readBlock_blank (htype : typeOf token = .str "blank_line") : readBlock token = .blank := by
  rw [readBlock, htype]
  rfl

theorem readBlock_quote {below : List Entries} (htype : typeOf token = .str "block_quote")
    (hbelow : fieldOr "children" (.list []) token = .list (below.map .dict)) :
    readBlock token = .quote (below.map readBlock) := by
  rw [readBlock, htype, isNested_eq hbelow, readBlocks_nested hbelow]
  rfl

end Kinds

/-- What is read as a block from a token with other tokens below it, case by case. -/
inductive ReadsAs (token : Entries) (raw : String) (below : List Entries) : Block → Prop where
  | heading (htype : typeOf token = .str "heading") :
      ReadsAs token raw below (.heading (detailOr "level" (.int 1) token) (below.map readInline))
  | paragraph (htype : typeOf token = .str "paragraph") :
      ReadsAs token raw below (.paragraph (below.map readInline))
  | plain (htype : typeOf token = .str "block_text") :
      ReadsAs token raw below (.plain (below.map readInline))
  | code (htype : typeOf token = .str "block_code") : ReadsAs token raw below (readCode token)
  | quote (htype : typeOf token = .str "block_quote") :
      ReadsAs token raw below (.quote (below.map readBlock))
  | list (htype : typeOf token = .str "list") (ordered : Bool) (start : Datum) :
      ReadsAs token raw below
        (.list ordered start (below.map fun child => readBlocks (nested child)))
  | table (htype : typeOf token = .str "table") :
      ReadsAs token raw below (.table (below.map fun child => readSection (some child)))
  | rule (htype : typeOf token = .str "thematic_break") : ReadsAs token raw below .rule
  | html (htype : typeOf token = .str "block_html") : ReadsAs token raw below (.html raw)
  | math (htype : typeOf token = .str "block_math") : ReadsAs token raw below (.math raw)
  | blank (htype : typeOf token = .str "blank_line") : ReadsAs token raw below .blank
  | unsupported {type : String} (htype : typeOf token = .str type)
      (hcode : type ≠ "block_code") (hquote : type ≠ "block_quote") (hlist : type ≠ "list") :
      ReadsAs token raw below (.unsupported (.str type))

/-- What a token is read as is made of its source and of what is below it, whatever its type. -/
theorem readsAs {token : Entries} {type raw : String} {below : List Entries}
    (htype : typeOf token = .str type) (hraw : rawOf token = .str raw)
    (hbelow : fieldOr "children" (.list []) token = .list (below.map .dict))
    (hnested : ∀ child ∈ below, isNested child = true) :
    ReadsAs token raw below (readBlock token) := by
  rw [readBlock, htype]
  dsimp only
  split
  · rw [readInlines_nestedInList hbelow]
    exact .heading htype
  · rw [readInlines_nestedInList hbelow]
    exact .paragraph htype
  · rw [readInlines_nestedInList hbelow]
    exact .plain htype
  · exact .code htype
  · rw [isNested_eq hbelow, if_pos rfl, readBlocks_nested hbelow]
    exact .quote htype
  · rw [isNested_eq hbelow, if_pos rfl, nested_eq hbelow, readItems_map_some hnested]
    exact .list htype _ _
  · rw [isNested_eq hbelow, if_pos rfl, nested_eq hbelow, List.map_map]
    exact .table htype
  · exact .rule htype
  · rw [hraw]
    exact .html htype
  · rw [hraw]
    exact .math htype
  · exact .blank htype
  · rename_i hcode hquote hlist _ _ _ _ _
    exact .unsupported htype hcode hquote hlist

/-- A token with all four fields. -/
def tokenOf (type raw : String) (attrs : Entries) (below : List Entries) : Entries :=
  Entries.ofFields [("type", .str type), ("raw", .str raw), ("attrs", .dict attrs),
    ("children", .list (below.map .dict))]

/-- A token is well formed if its children are, its level is no truth value and its info string is as it
    should be. -/
theorem wellFormed_tokenOf {Info : Datum → Prop} {type raw : String} {attrs : Entries}
    {below : List Entries}
    (hlevel : type = "heading" → ∀ flag, fieldOr "level" (.int 1) attrs ≠ .bool flag)
    (hinfo : type = "block_code" → Info (fieldOr "info" .null attrs))
    (hall : ∀ child ∈ below, WellFormed Info child) :
    WellFormed Info (tokenOf type raw attrs below) :=
  .intro rfl rfl rfl hlevel hinfo rfl hall

theorem wellFormed_other {Info : Datum → Prop} {type raw : String} {attrs : Entries}
    {below : List Entries} (hheading : type ≠ "heading") (hcode : type ≠ "block_code")
    (hall : ∀ child ∈ below, WellFormed Info child) :
    WellFormed Info (tokenOf type raw attrs below) :=
  wellFormed_tokenOf (absurd · hheading) (absurd · hcode) hall

namespace Sample

def text (raw : String) : Entries :=
  tokenOf "text" raw [] []

def paragraph (raw : String) : Entries :=
  tokenOf "paragraph" "" [] [text raw]

def heading (level : Int) (raw : String) : Entries :=
  tokenOf "heading" "" [(.str "level", .int level)] [text raw]

def fence (info source : String) : Entries :=
  tokenOf "block_code" source [(.str "info", .str info)] []

def html (raw : String) : Entries :=
  tokenOf "block_html" raw [] []

def quote (below : List Entries) : Entries :=
  tokenOf "block_quote" "" [] below

def blankLine : Entries :=
  tokenOf "blank_line" "" [] []

/-- A tight list with an item for each text. -/
def bullets (raws : List String) : Entries :=
  tokenOf "list" "" []
    (raws.map fun raw => tokenOf "list_item" "" [] [tokenOf "block_text" "" [] [text raw]])

section WellFormed

variable {Info : Datum → Prop}

theorem wellFormed_text (raw : String) : WellFormed Info (text raw) :=
  wellFormed_other (by decide) (by decide) (by simp)

theorem wellFormed_paragraph (raw : String) : WellFormed Info (paragraph raw) :=
  wellFormed_other (by decide) (by decide) (by simpa using wellFormed_text raw)

theorem wellFormed_heading (level : Int) (raw : String) : WellFormed Info (heading level raw) :=
  wellFormed_tokenOf (fun _ => nofun) (by simp) (by simpa using wellFormed_text raw)

theorem wellFormed_fence {info : String} (hinfo : Info (.str info)) (source : String) :
    WellFormed Info (fence info source) :=
  wellFormed_tokenOf (by simp) (fun _ => hinfo) (by simp)

theorem wellFormed_html (raw : String) : WellFormed Info (html raw) :=
  wellFormed_other (by decide) (by decide) (by simp)

theorem wellFormed_quote {below : List Entries} (hall : ∀ child ∈ below, WellFormed Info child) :
    WellFormed Info (quote below) :=
  wellFormed_other (by decide) (by decide) hall

theorem wellFormed_bullets (raws : List String) : WellFormed Info (bullets raws) := by
  refine wellFormed_other (by decide) (by decide) (List.forall_mem_map.mpr fun raw _ => ?_)
  refine wellFormed_other (by decide) (by decide) (List.forall_mem_singleton.mpr ?_)
  exact wellFormed_other (by decide) (by decide) (List.forall_mem_singleton.mpr (wellFormed_text raw))

end WellFormed

end Sample

theorem hasInfo_str (info : String) : HasInfo (.str info) :=
  ⟨info, .inl rfl⟩

end MarkTree.Markdown
