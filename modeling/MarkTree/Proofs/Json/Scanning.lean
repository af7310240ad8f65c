import MarkTree.Proofs.Json.Integer
import MarkTree.Proofs.Json.Plain

namespace MarkTree.Json

mutual

/-- The tokens that a value is written in. -/
def tokensOf : Datum → List Token
  | .list [] => [.openList, .closeList]
  | .list (item :: items) => .openList :: tokensOf item ++ itemTokens items
  | .dict [] => [.openDict, .closeDict]
  | .dict ((key, value) :: entries) =>
    .openDict :: .scalar key :: .colon :: tokensOf value ++ entryTokens entries
  | .null => [.scalar .null]
  | .bool value => [.scalar (.bool value)]
  | .int value => [.scalar (.int value)]
  | .float value => [.scalar (.float value)]
  | .str text => [.scalar (.str text)]
  | .foreign _ => [.scalar .null]
  | .kind _ => [.scalar .null]

/-- The tokens behind the first item of a list. -/
def itemTokens : List Datum → List Token
  | [] => [.closeList]
  | item :: items => .comma :: tokensOf item ++ itemTokens items

/-- The tokens behind the first entry of a dictionary. -/
def entryTokens : List (Datum × Datum) → List Token
  | [] => [.closeDict]
  | (key, value) :: entries => .comma :: .scalar key :: .colon :: tokensOf value ++ entryTokens entries

end

/-- The scanner between tokens, when it has read these. -/
def Scan.after (tokens : List Token) : Scan :=
  { mode := .idle, tokens := tokens.reverse }

/-- The scanner has read these tokens. The last of them may be waiting for the character that ends it. -/
inductive Scan.HasRead : Scan → List Token → Prop
  | between (tokens : List Token) : HasRead (.after tokens) tokens
  | atom (tokens : List Token) {read : List Char} (hgood : readAtom read.reverse ≠ .bad) :
    HasRead ⟨.atom read, tokens.reverse⟩ (tokens ++ [readAtom read.reverse])

variable {s : Scan} {tokens : List Token} {c : Char} {text : List Char}

/-- A good token is put behind the others, and the scanner is between tokens. -/
theorem Scan.push_of_ne_bad {token : Token} (s : Scan) (hgood : token ≠ .bad) :
    s.push token = { mode := .idle, tokens := token :: s.tokens } := by
  unfold Scan.push
  split
  · exact absurd rfl hgood
  · rfl

theorem Scan.push_after {token : Token} (tokens : List Token) (hgood : token ≠ .bad) :
    (after tokens).push token = after (tokens ++ [token]) := by
  rw [push_of_ne_bad _ hgood, after, after, List.reverse_append]
  rfl

/-- A character that belongs to no literal ends the one that is waiting. -/
theorem Scan.HasRead.step_eq (h : s.HasRead tokens) (hc : isAtom c = false) :
    s.step c = (after tokens).step c := by
  cases h with
  | between => rfl
  | @atom tokens read hgood =>
    have hstep : (⟨.atom read, tokens.reverse⟩ : Scan).step c =
        ((⟨.atom read, tokens.reverse⟩ : Scan).push (readAtom read.reverse)).idle c := by
      simp only [step, hc]
      cases htoken : readAtom read.reverse with
      | bad => exact absurd htoken hgood
      | _ => rfl
    rw [hstep, push_of_ne_bad _ hgood, step, after, List.reverse_append]
    rfl

theorem isAtom_of_isBlank (hc : isBlank c = true) : isAtom c = false := by
  simp only [isBlank, Bool.or_eq_true, beq_iff_eq] at hc
  rcases hc with ((rfl | rfl) | rfl) | rfl <;> rfl

/-- A blank ends the token at hand, if there is one. -/
theorem Scan.HasRead.step_blank (h : s.HasRead tokens) (hc : isBlank c = true) :
    s.step c = after tokens := by
  rw [h.step_eq (isAtom_of_isBlank hc)]
  simp [step, after, idle, hc]

/-- Blanks between tokens are skipped. -/
theorem Scan.foldl_blanks_after (hblank : ∀ c ∈ text, isBlank c = true) (tokens : List Token) :
    text.foldl step (after tokens) = after tokens := by
  induction text with
  | nil => rfl
  | cons c rest ih =>
    obtain ⟨hc, hrest⟩ := List.forall_mem_cons.mp hblank
    rw [List.foldl_cons, (HasRead.between tokens).step_blank hc, ih hrest]

/-- Blanks change nothing about what has been read. -/
theorem Scan.HasRead.foldl_blanks (h : s.HasRead tokens) (hblank : ∀ c ∈ text, isBlank c = true) :
    (text.foldl step s).HasRead tokens := by
  cases text with
  | nil => exact h
  | cons c rest =>
    obtain ⟨hc, hrest⟩ := List.forall_mem_cons.mp hblank
    rw [List.foldl_cons, h.step_blank hc, foldl_blanks_after hrest]
    exact .between tokens

/-- A character that is a token by itself is no blank, starts no text and belongs to no literal. -/
theorem apart_of_punctuation {token : Token} (hc : punctuation? c = some token) :
    isBlank c = false ∧ (c == '\x22') = false ∧ isAtom c = false ∧ token ≠ .bad := by
  unfold punctuation? at hc
  split_ifs at hc with h h h h h h <;>
    (obtain rfl := beq_iff_eq.mp h; obtain rfl := Option.some.inj hc; exact ⟨rfl, rfl, rfl, nofun⟩)

/-- A mark ends the token at hand and is a token of its own. -/
theorem Scan.HasRead.step_punctuation {token : Token} (h : s.HasRead tokens)
    (hc : punctuation? c = some token) : s.step c = after (tokens ++ [token]) := by
  obtain ⟨hblank, hquote, hatom, hgood⟩ := apart_of_punctuation hc
  have hidle : (after tokens).step c = (after tokens).push token := by
    simp [step, after, idle, hblank, hquote, hatom, hc]
  rw [h.step_eq hatom, hidle, push_after tokens hgood]

/-- At the end of the text the tokens are those that have been read. -/
theorem Scan.HasRead.finish_eq (h : s.HasRead tokens) : s.finish = tokens := by
  cases h with
  | between => exact List.reverse_reverse tokens
  | @atom tokens read hgood =>
    have hpushed : (⟨.atom read, tokens.reverse⟩ : Scan).finish =
        ((⟨.atom read, tokens.reverse⟩ : Scan).push (readAtom read.reverse)).tokens.reverse := rfl
    rw [hpushed, push_of_ne_bad _ hgood, List.reverse_cons, List.reverse_reverse]

/-- A run of atom characters is gathered up to its end. -/
theorem foldl_step_atom (hatom : ∀ c ∈ text, isAtom c = true) (read : List Char) (tokens : List Token) :
    text.foldl Scan.step ⟨.atom read, tokens⟩ = ⟨.atom (text.reverse ++ read), tokens⟩ := by
  induction text generalizing read with
  | nil => rfl
  | cons c rest ih =>
    obtain ⟨hc, hrest⟩ := List.forall_mem_cons.mp hatom
    have hstep : Scan.step ⟨.atom read, tokens⟩ c = ⟨.atom (c :: read), tokens⟩ := by
      simp [Scan.step, hc]
    rw [List.foldl_cons, hstep, ih hrest, List.reverse_cons, List.append_assoc]
    rfl

/-- A text of characters of literals is scanned as the value that is read from it. -/
theorem hasRead_atom {value : Datum} (tokens : List Token) (hatom : ∀ c ∈ text, isAtom c = true)
    (hread : readAtom text = .scalar value) :
    (text.foldl Scan.step (.after tokens)).HasRead (tokens ++ [.scalar value]) := by
  cases text with
  | nil => cases hread
  | cons c rest =>
    obtain ⟨hc, hrest⟩ := List.forall_mem_cons.mp hatom
    have hblank : isBlank c = false := by
      rw [← Bool.not_eq_true]
      intro hblank
      rw [isAtom_of_isBlank hblank] at hc
      cases hc
    have hquote : (c == '\x22') = false := by
      rw [beq_eq_false_iff_ne]
      rintro rfl
      cases hc
    have hstep : (Scan.after tokens).step c = ⟨.atom [c], tokens.reverse⟩ := by
      simp [Scan.step, Scan.after, Scan.idle, hblank, hquote, hc]
    have hreverse : (rest.reverse ++ [c]).reverse = c :: rest := by simp
    have hgood : readAtom (rest.reverse ++ [c]).reverse ≠ .bad := by
      rw [hreverse, hread]
      nofun
    rw [List.foldl_cons, hstep, foldl_step_atom hrest, ← hread, ← hreverse]
    exact .atom tokens hgood

/-- A small number has two leading zeros in an escape of four digits. -/
theorem hex_four {n : Nat} (hsmall : n < 256) :
    Text.Quoted.hex 4 n = ['0', '0', Text.Quoted.hexDigit (n / 16), Text.Quoted.hexDigit (n % 16)] := by
  have hzero : n / 16 / 16 = 0 := by omega
  have hdigit : n / 16 % 16 = n / 16 := by omega
  simp only [Text.Quoted.hex, hzero, hdigit]
  rfl

/-- The digit that is written for a number below sixteen stands for the number. -/
theorem hexValue?_hexDigit {d : Nat} (hd : d < 16) : hexValue? (Text.Quoted.hexDigit d) = some d := by
  have hall : ∀ d < 16, hexValue? (Text.Quoted.hexDigit d) = some d := by decide
  exact hall d hd

/-- A character below the surrogates is read from its numeric escape. -/
theorem foldl_step_hex (hsmall : c.toNat < 256) (read : List Char) (tokens : List Token) :
    (Text.Quoted.hex 4 c.toNat).foldl Scan.step ⟨.code read none 4 0, tokens⟩ =
      ⟨.text (c :: read), tokens⟩ := by
  have hhigh := hexValue?_hexDigit (by omega : c.toNat / 16 < 16)
  have hlow := hexValue?_hexDigit (by omega : c.toNat % 16 < 16)
  have hzero : hexValue? '0' = some 0 := by decide
  have hvalue : c.toNat / 16 * 16 + c.toNat % 16 = c.toNat := by omega
  rw [hex_four hsmall]
  simp [Scan.step, Scan.coded, hzero, hhigh, hlow, hvalue]
  rw [if_neg (by omega), if_neg (by omega)]

/-- A backslash and a letter stand for one character. -/
theorem foldl_step_unescape {letter : Char} (hmeant : unescape? letter = some c) (read : List Char)
    (tokens : List Token) :
    ['\\', letter].foldl Scan.step ⟨.text read, tokens⟩ = ⟨.text (c :: read), tokens⟩ := by
  have hcode : (letter == 'u') = false := by
    rw [beq_eq_false_iff_ne]
    rintro rfl
    cases hmeant
  have hbackslash : Scan.step ⟨.text read, tokens⟩ '\\' = ⟨.escape read, tokens⟩ := rfl
  rw [List.foldl_cons, hbackslash, List.foldl_cons, List.foldl_nil]
  simp [Scan.step, Scan.escape, hcode, hmeant]

/-- A character is read from its spelling inside a text. -/
theorem foldl_step_escape (c : Char) (read : List Char) (tokens : List Token) :
    (escape c).foldl Scan.step ⟨.text read, tokens⟩ = ⟨.text (c :: read), tokens⟩ := by
  unfold escape
  split_ifs with hmark hfeed hreturn htab hback hpage hcontrol
  · refine foldl_step_unescape ?_ read tokens
    rw [Bool.or_eq_true, beq_iff_eq, beq_iff_eq] at hmark
    rcases hmark with rfl | rfl <;> rfl
  · obtain rfl := beq_iff_eq.mp hfeed
    exact foldl_step_unescape rfl read tokens
  · obtain rfl := beq_iff_eq.mp hreturn
    exact foldl_step_unescape rfl read tokens
  · obtain rfl := beq_iff_eq.mp htab
    exact foldl_step_unescape rfl read tokens
  · obtain rfl := beq_iff_eq.mp hback
    exact foldl_step_unescape rfl read tokens
  · obtain rfl := beq_iff_eq.mp hpage
    exact foldl_step_unescape rfl read tokens
  · have hcode : ['\\', 'u'].foldl Scan.step ⟨.text read, tokens⟩ = ⟨.code read none 4 0, tokens⟩ := rfl
    rw [List.foldl_append, hcode]
    exact foldl_step_hex (by omega) read tokens
  · rw [Bool.not_eq_true, Bool.or_eq_false_iff] at hmark
    rw [List.foldl_cons, List.foldl_nil]
    simp [Scan.step, Scan.text, hmark.1, hmark.2, hcontrol]

/-- Inside a text the escaped characters are read as the characters. -/
theorem foldl_step_flatMap_escape (text read : List Char) (tokens : List Token) :
    (text.flatMap escape).foldl Scan.step ⟨.text read, tokens⟩ =
      ⟨.text (text.reverse ++ read), tokens⟩ := by
  induction text generalizing read with
  | nil => rfl
  | cons c rest ih =>
    rw [List.flatMap_cons, List.foldl_append, foldl_step_escape, ih, List.reverse_cons,
      List.append_assoc]
    rfl

/-- A text that is written is one token. -/
theorem foldl_step_writeText (text : String) (tokens : List Token) :
    (writeText text).foldl Scan.step (.after tokens) = .after (tokens ++ [.scalar (.str text)]) := by
  have hopen : (Scan.after tokens).step '\x22' = ⟨.text [], tokens.reverse⟩ := rfl
  have hclose (read : List Char) : Scan.step ⟨.text read, tokens.reverse⟩ '\x22' =
      .after (tokens ++ [.scalar (.str (String.ofList read.reverse))]) := by
    simp [Scan.step, Scan.text, Scan.push, Scan.after]
  simp only [writeText, List.foldl_append, List.foldl_cons, List.foldl_nil, hopen,
    foldl_step_flatMap_escape, List.append_nil, hclose, List.reverse_reverse, String.ofList_toList]

/-- Behind a key the scanner expects a value. -/
theorem foldl_step_key (name : String) (tokens : List Token) :
    (writeKey (.str name) ++ [':', ' ']).foldl Scan.step (.after tokens) =
      .after (tokens ++ [.scalar (.str name), .colon]) := by
  rw [List.foldl_append, writeKey, foldl_step_writeText, List.foldl_cons,
    (Scan.HasRead.between _).step_punctuation rfl, List.append_assoc]
  rfl

/-- A value is scanned as its tokens, wherever a value may stand. -/
def IsScanned (indent : Option (List Char)) (value : Datum) : Prop :=
  ∀ depth tokens,
    ((write indent depth value).foldl Scan.step (.after tokens)).HasRead (tokens ++ tokensOf value)

section Values

variable {indent : Option (List Char)} (hindent : ∀ unit ∈ indent, ∀ c ∈ unit, isBlank c = true)

include hindent

theorem isBlank_lineBreak (depth : Nat) : ∀ c ∈ lineBreak indent depth, isBlank c = true := by
  intro c hmem
  cases indent with
  | none => cases hmem
  | some unit =>
    rcases List.mem_cons.mp hmem with rfl | hmem
    · rfl
    · obtain ⟨unit', hunit, hc⟩ := List.mem_flatten.mp hmem
      obtain rfl := List.eq_of_mem_replicate hunit
      exact hindent unit' rfl c hc

/-- A bracket behind a line end, or right behind a value, is scanned as itself. -/
theorem Scan.HasRead.foldl_lineBreak (h : s.HasRead tokens) (depth : Nat) {token : Token}
    (hc : punctuation? c = some token) :
    (lineBreak indent depth ++ [c]).foldl step s = after (tokens ++ [token]) := by
  rw [List.foldl_append, List.foldl_cons, List.foldl_nil]
  exact (h.foldl_blanks (isBlank_lineBreak hindent depth)).step_punctuation hc

/-- Between two items a comma is read, and nothing else. -/
theorem Scan.HasRead.foldl_separator (h : s.HasRead tokens) (depth : Nat) :
    (separator indent depth).foldl step s = after (tokens ++ [.comma]) := by
  have hcomma : s.step ',' = after (tokens ++ [.comma]) := h.step_punctuation rfl
  cases indent with
  | none =>
    rw [separator, List.foldl_cons, hcomma]
    rfl
  | some unit =>
    rw [separator, List.foldl_cons, hcomma]
    exact foldl_blanks_after (isBlank_lineBreak hindent depth) _

/-- The items of a list, with the closing bracket, are read as the tokens of the items. -/
theorem foldl_step_writeItems {items : List Datum} (hitems : ∀ item ∈ items, IsScanned indent item)
    (depth outer : Nat) : ∀ {s tokens}, s.HasRead tokens →
      (writeItems indent depth items ++ (lineBreak indent outer ++ [']'])).foldl Scan.step s =
        .after (tokens ++ itemTokens items) := by
  induction items with
  | nil =>
    intro s tokens h
    exact h.foldl_lineBreak hindent outer rfl
  | cons item items ih =>
    intro s tokens h
    obtain ⟨hitem, hitems⟩ := List.forall_mem_cons.mp hitems
    have hscanned := ih hitems (hitem depth (tokens ++ [.comma]))
    rw [writeItems, List.append_assoc, List.append_assoc, List.foldl_append,
      h.foldl_separator hindent depth, List.foldl_append, hscanned]
    simp [itemTokens]

/-- The entries of a record, with the closing bracket, are read as the tokens of the entries. -/
theorem foldl_step_writeEntries {fields : List (String × Datum)}
    (hfields : ∀ field ∈ fields, IsScanned indent field.2) (depth outer : Nat) :
    ∀ {s tokens}, s.HasRead tokens →
      (writeEntries indent depth (Entries.ofFields fields) ++
          (lineBreak indent outer ++ ['\x7d'])).foldl Scan.step s =
        .after (tokens ++ entryTokens (Entries.ofFields fields)) := by
  induction fields with
  | nil =>
    intro s tokens h
    exact h.foldl_lineBreak hindent outer rfl
  | cons field fields ih =>
    intro s tokens h
    obtain ⟨name, value⟩ := field
    obtain ⟨hvalue, hfields⟩ := List.forall_mem_cons.mp hfields
    have hscanned := ih hfields (hvalue depth (tokens ++ [.comma] ++ [.scalar (.str name), .colon]))
    have hkey := foldl_step_key name (tokens ++ [.comma])
    rw [List.foldl_append] at hkey
    rw [Entries.ofFields_cons, writeEntries]
    simp only [List.append_assoc, List.foldl_append] at hscanned hkey ⊢
    rw [h.foldl_separator hindent depth, hkey, hscanned]
    simp [entryTokens]

/-- Every plain value is scanned as its tokens, at any depth and with any blank indentation. -/
theorem isScanned {value : Datum} (hplain : value.IsPlain) : IsScanned indent value := by
  induction hplain with
  | null =>
    intro depth tokens
    have hatom : "null".toList.all isAtom = true := by decide
    exact hasRead_atom tokens (List.all_eq_true.mp hatom) rfl
  | bool value =>
    intro depth tokens
    cases value with
    | true =>
      have hatom : "true".toList.all isAtom = true := by decide
      exact hasRead_atom tokens (List.all_eq_true.mp hatom) rfl
    | false =>
      have hatom : "false".toList.all isAtom = true := by decide
      exact hasRead_atom tokens (List.all_eq_true.mp hatom) rfl
  | @int value hsize =>
    intro depth tokens
    exact hasRead_atom tokens (isNumeral_toString value).isAtom (readAtom_toString hsize)
  | str text =>
    intro depth tokens
    rw [write, writeScalar, foldl_step_writeText]
    exact .between _
  | @list items _ ih =>
    intro depth tokens
    have hopen : (Scan.after tokens).step '[' = .after (tokens ++ [.openList]) :=
      (Scan.HasRead.between tokens).step_punctuation rfl
    cases items with
    | nil =>
      have hclose : (Scan.after (tokens ++ [.openList])).step ']' =
          .after (tokens ++ [.openList] ++ [.closeList]) :=
        (Scan.HasRead.between _).step_punctuation rfl
      rw [write, List.foldl_cons, hopen, List.foldl_cons, hclose, List.foldl_nil, List.append_assoc]
      exact .between _
    | cons item items =>
      obtain ⟨hitem, hitems⟩ := List.forall_mem_cons.mp ih
      have hrest := foldl_step_writeItems hindent hitems (depth + 1) depth
        (hitem (depth + 1) (tokens ++ [.openList]))
      have hvalue : (write indent depth (.list (item :: items))).foldl Scan.step (.after tokens) =
          .after (tokens ++ tokensOf (.list (item :: items))) := by
        rw [write]
        simp only [List.cons_append, List.append_assoc, List.foldl_cons, List.foldl_append, hopen,
          Scan.foldl_blanks_after (isBlank_lineBreak hindent (depth + 1))] at hrest ⊢
        rw [hrest]
        simp [tokensOf]
      rw [hvalue]
      exact .between _
  | @dict fields _ _ ih =>
    intro depth tokens
    have hopen : (Scan.after tokens).step '\x7b' = .after (tokens ++ [.openDict]) :=
      (Scan.HasRead.between tokens).step_punctuation rfl
    cases fields with
    | nil =>
      have hclose : (Scan.after (tokens ++ [.openDict])).step '\x7d' =
          .after (tokens ++ [.openDict] ++ [.closeDict]) :=
        (Scan.HasRead.between _).step_punctuation rfl
      rw [Entries.ofFields_nil, write, List.foldl_cons, hopen, List.foldl_cons, hclose, List.foldl_nil,
        List.append_assoc]
      exact .between _
    | cons field fields =>
      obtain ⟨name, value⟩ := field
      obtain ⟨hvalue, hfields⟩ := List.forall_mem_cons.mp ih
      have hkey := foldl_step_key name (tokens ++ [.openDict])
      have hrest := foldl_step_writeEntries hindent hfields (depth + 1) depth
        (hvalue (depth + 1) (tokens ++ [.openDict] ++ [.scalar (.str name), .colon]))
      have hscanned : (write indent depth (.dict (Entries.ofFields ((name, value) :: fields)))).foldl
          Scan.step (.after tokens) =
            .after (tokens ++ tokensOf (.dict (Entries.ofFields ((name, value) :: fields)))) := by
        rw [Entries.ofFields_cons, write]
        simp only [List.cons_append, List.append_assoc, List.foldl_cons, List.foldl_append, hopen,
          Scan.foldl_blanks_after (isBlank_lineBreak hindent (depth + 1))] at hkey hrest ⊢
        rw [hkey, hrest]
        simp [tokensOf]
      rw [hscanned]
      exact .between _

/-- Whatever blanks it is indented with, a value is scanned as its tokens. -/
theorem tokens_write {value : Datum} (hplain : value.IsPlain) (depth : Nat) :
    Json.tokens (write indent depth value) = tokensOf value := by
  have hread := isScanned hindent hplain depth []
  rw [List.nil_append] at hread
  exact hread.finish_eq

end Values

end MarkTree.Json
