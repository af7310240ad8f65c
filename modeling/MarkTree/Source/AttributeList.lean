import MarkTree.Text.Blank
import MarkTree.Text.Word

namespace MarkTree.Source

open MarkTree.Text

/-- How the value of an attribute is written. -/
inductive Quoting where
  | double
  | single
  | bare
deriving DecidableEq, Repr

/-- A token of an attribute list, the text between the braces in `# Title {: .wide #intro lang=en}`: a
    class `.name`, an id `#name`, or a value `key=value`. -/
inductive AttributeToken where
  | dotted (name : List Char)
  | hashed (name : List Char)
  | pair (key value : List Char) (quoting : Quoting)
deriving DecidableEq, Repr

namespace AttributeToken

def spell : AttributeToken → List Char
  | .dotted name => '.' :: name
  | .hashed name => '#' :: name
  | .pair key value .double => key ++ ['=', '\x22'] ++ value ++ ['\x22']
  | .pair key value .single => key ++ ['=', '\x27'] ++ value ++ ['\x27']
  | .pair key value .bare => key ++ '=' :: value

end AttributeToken

/-- A character of an unquoted value. -/
def isBare (c : Char) : Bool :=
  !isBlank c && c != '\x22' && c != '\x27'

/-- A value up to its closing quote, with the text behind it. -/
def closeQuote? (quote : Char) (text : List Char) : Option (List Char × List Char) :=
  match text.dropWhile (· != quote) with
  | [] => none
  | _ :: rest => some (text.takeWhile (· != quote), rest)

/-- The value at the start of a text, with the text behind it. -/
def valueAt? (text : List Char) : Option (List Char × Quoting × List Char) :=
  match text with
  | '\x22' :: rest => (closeQuote? '\x22' rest).map fun (value, rest) => (value, .double, rest)
  | '\x27' :: rest => (closeQuote? '\x27' rest).map fun (value, rest) => (value, .single, rest)
  | _ =>
    let value := text.takeWhile isBare
    if value.isEmpty then none else some (value, .bare, text.dropWhile isBare)

/-- The name at the start of a text, if there is one, with the text behind it. -/
def nameAt? (text : List Char) : Option (List Char × List Char) :=
  let name := text.takeWhile isName
  if name.isEmpty then none else some (name, text.dropWhile isName)

/-- The attribute token at the start of a text, with the text behind it. -/
def tokenAt? (text : List Char) : Option (AttributeToken × List Char) :=
  match text with
  | '.' :: rest => (nameAt? rest).map fun (name, rest) => (.dotted name, rest)
  | '#' :: rest => (nameAt? rest).map fun (name, rest) => (.hashed name, rest)
  | _ =>
    match nameAt? text with
    | some (key, '=' :: rest) =>
      (valueAt? rest).map fun (value, quoting, rest) => (.pair key value quoting, rest)
    | _ => none

theorem length_dropWhile_le {α : Type} (p : α → Bool) (xs : List α) :
    (xs.dropWhile p).length ≤ xs.length :=
  (List.dropWhile_suffix p).length_le

theorem closeQuote?_length {quote : Char} {text value rest : List Char}
    (h : closeQuote? quote text = some (value, rest)) : rest.length < text.length := by
  unfold closeQuote? at h
  split at h
  · cases h
  · next c tail hdrop =>
    obtain ⟨-, rfl⟩ : _ ∧ tail = rest := by simpa using h
    have := length_dropWhile_le (· != quote) text
    rw [hdrop] at this
    simp only [List.length_cons] at this
    omega

theorem valueAt?_length {text value rest : List Char} {quoting : Quoting}
    (h : valueAt? text = some (value, quoting, rest)) : rest.length ≤ text.length := by
  unfold valueAt? at h
  split at h
  · obtain ⟨⟨v, r⟩, hclose, heq⟩ := Option.map_eq_some_iff.1 h
    obtain ⟨-, -, rfl⟩ : v = value ∧ Quoting.double = quoting ∧ r = rest := by simpa using heq
    have := closeQuote?_length hclose
    simp only [List.length_cons]
    omega
  · obtain ⟨⟨v, r⟩, hclose, heq⟩ := Option.map_eq_some_iff.1 h
    obtain ⟨-, -, rfl⟩ : v = value ∧ Quoting.single = quoting ∧ r = rest := by simpa using heq
    have := closeQuote?_length hclose
    simp only [List.length_cons]
    omega
  · dsimp only at h
    split at h
    · cases h
    · obtain ⟨-, -, rfl⟩ : _ ∧ Quoting.bare = quoting ∧ text.dropWhile isBare = rest := by
        simpa using h
      exact length_dropWhile_le isBare text

theorem nameAt?_length {text name rest : List Char} (h : nameAt? text = some (name, rest)) :
    rest.length ≤ text.length := by
  unfold nameAt? at h
  dsimp only at h
  split at h
  · cases h
  · obtain ⟨-, rfl⟩ : _ ∧ text.dropWhile isName = rest := by simpa using h
    exact length_dropWhile_le isName text

/-- A token takes at least one character. -/
theorem tokenAt?_length {text rest : List Char} {token : AttributeToken}
    (h : tokenAt? text = some (token, rest)) : rest.length < text.length := by
  unfold tokenAt? at h
  split at h
  · obtain ⟨⟨n, r⟩, hname, heq⟩ := Option.map_eq_some_iff.1 h
    obtain ⟨-, rfl⟩ : AttributeToken.dotted n = token ∧ r = rest := by simpa using heq
    have := nameAt?_length hname
    simp only [List.length_cons]
    omega
  · obtain ⟨⟨n, r⟩, hname, heq⟩ := Option.map_eq_some_iff.1 h
    obtain ⟨-, rfl⟩ : AttributeToken.hashed n = token ∧ r = rest := by simpa using heq
    have := nameAt?_length hname
    simp only [List.length_cons]
    omega
  · split at h
    · next key tail hname =>
      obtain ⟨⟨v, q, r⟩, hvalue, heq⟩ := Option.map_eq_some_iff.1 h
      obtain ⟨-, rfl⟩ : AttributeToken.pair key v q = token ∧ r = rest := by simpa using heq
      have h1 := valueAt?_length hvalue
      have h2 := nameAt?_length hname
      simp only [List.length_cons] at h2
      omega
    · cases h

/-- A text split into its attribute tokens, each with the gap in front of it, and the gap at the
    end. -/
structure Scanned where
  tokens : List (List Char × AttributeToken)
  rest : List Char
deriving DecidableEq, Repr

/-- Puts a character in front of the first gap. -/
def Scanned.consGap (c : Char) : Scanned → Scanned
  | { tokens := [], rest } => { tokens := [], rest := c :: rest }
  | { tokens := (gap, token) :: more, rest } => { tokens := (c :: gap, token) :: more, rest }

/-- Takes the leftmost token there is, again and again. What stands between two tokens is a gap, and the
    words of the gaps are what could not be understood; nothing of the text is lost. -/
def scan (text : List Char) : Scanned :=
  match _h : tokenAt? text with
  | some (token, rest) =>
    let more := scan rest
    { more with tokens := ([], token) :: more.tokens }
  | none =>
    match text with
    | [] => { tokens := [], rest := [] }
    | c :: rest => (scan rest).consGap c
termination_by text.length
decreasing_by
  · exact tokenAt?_length _h
  · simp

/-- What an inline attribute list says: its attributes, all classes gathered in one entry in front, and
    the words that could not be understood. -/
structure AttributeList where
  attributes : List (String × String)
  illegal : List String
deriving DecidableEq, Repr

/-- The class that a token adds. -/
def AttributeToken.class? : AttributeToken → Option String
  | .dotted name => some (String.ofList name)
  | _ => none

/-- The attribute that a token adds, if it is no class. -/
def AttributeToken.attribute? : AttributeToken → Option (String × String)
  | .dotted _ => none
  | .hashed name => some ("id", String.ofList name)
  | .pair key value _ => some (String.ofList key, String.ofList value)

/-- Reads the text between the braces of an inline attribute list. -/
def AttributeList.read (body : List Char) : AttributeList :=
  let scanned := scan body
  let tokens := scanned.tokens.map Prod.snd
  let classes := tokens.filterMap AttributeToken.class?
  let others := tokens.filterMap AttributeToken.attribute?
  let gaps := scanned.tokens.map Prod.fst ++ [scanned.rest]
  { attributes :=
      if classes.isEmpty then others else ("class", " ".intercalate classes) :: others
    illegal := gaps.flatMap fun gap => (words gap).map String.ofList }

end MarkTree.Source
