import MarkTree.Text.Blank
import MarkTree.Text.Search

namespace MarkTree.Packages

open MarkTree.Text

/-- The stages of a pre-release, in order. -/
inductive Stage where
  | alpha
  | beta
  | candidate
deriving DecidableEq, Repr

namespace Stage

def name : Stage → String
  | .alpha => "a"
  | .beta => "b"
  | .candidate => "rc"

def rank : Stage → Nat
  | .alpha => 1
  | .beta => 2
  | .candidate => 3

end Stage

inductive LabelPart where
  | number (value : Nat)
  | word (letters : String)
deriving DecidableEq, Repr

/-- A version number: an epoch, a release such as `3.0.1`, and marks for pre-releases, post-releases and
    development releases, with a local label at the end. -/
structure Version where
  epoch : Nat
  release : List Nat
  pre : Option (Stage × Nat)
  post : Option Nat
  dev : Option Nat
  label : Option (List LabelPart)
deriving DecidableEq, Repr

def digitNumber (c : Char) : Nat :=
  c.toNat - 48

def numberOf (digits : List Char) : Nat :=
  digits.foldl (fun value c => value * 10 + digitNumber c) 0

/-- The number at the start of a text, with the text behind it. -/
def numberAt? (text : List Char) : Option (Nat × List Char) :=
  let digits := text.takeWhile Char.isDigit
  if digits.isEmpty then none else some (numberOf digits, text.dropWhile Char.isDigit)

/-- The number at the start of a text, zero if there is none, with the text behind it. -/
def numberOrZero (text : List Char) : Nat × List Char :=
  (numberAt? text).getD (0, text)

def isSeparator (c : Char) : Bool :=
  c == '.' || c == '-' || c == '_'

/-- A text without the separator it starts with. -/
def dropSeparator : List Char → List Char
  | [] => []
  | c :: rest => if isSeparator c then rest else c :: rest

/-- The text behind a word in letters of any case. -/
def dropWord? (word : String) (text : List Char) : Option (List Char) :=
  if (text.take word.length).map Char.toLower == word.toList then some (text.drop word.length)
  else none

/-- The meaning of the first word of a list that a text starts with, and the text behind it. -/
def wordAt? {α : Type} (words : List (String × α)) (text : List Char) : Option (α × List Char) :=
  words.findSome? fun (word, meaning) => (dropWord? word text).map fun rest => (meaning, rest)

/-- A word with a number: both may have a separator in front, and the number may be left out. -/
def taggedAt? {α : Type} (words : List (String × α)) (text : List Char) :
    Option (α × Nat × List Char) :=
  (wordAt? words (dropSeparator text)).map fun (meaning, rest) =>
    let (value, rest) := numberOrZero (dropSeparator rest)
    (meaning, value, rest)

def stageWords : List (String × Stage) :=
  [("alpha", .alpha), ("a", .alpha), ("beta", .beta), ("b", .beta), ("preview", .candidate),
    ("pre", .candidate), ("c", .candidate), ("rc", .candidate)]

def postWords : List (String × Unit) :=
  [("post", ()), ("rev", ()), ("r", ())]

def devWords : List (String × Unit) :=
  [("dev", ())]

/-- The numbers of a release whose first number has begun, and the text behind the last one. -/
def releaseFrom (current : Nat) : List Char → List Nat × List Char
  | '.' :: d :: rest =>
    if d.isDigit then
      let (more, rest) := releaseFrom (digitNumber d) rest
      (current :: more, rest)
    else ([current], '.' :: d :: rest)
  | c :: rest =>
    if c.isDigit then releaseFrom (current * 10 + digitNumber c) rest else ([current], c :: rest)
  | [] => ([current], [])

/-- The release at the start of a text, with the text behind it. -/
def releaseAt? : List Char → Option (List Nat × List Char)
  | c :: rest => if c.isDigit then some (releaseFrom (digitNumber c) rest) else none
  | [] => none

/-- The epoch at the start of a text, zero if there is none, with the text behind it. -/
def epochAt (text : List Char) : Nat × List Char :=
  match numberAt? text with
  | some (epoch, '!' :: rest) => (epoch, rest)
  | _ => (0, text)

/-- The post-release mark at the start of a text; a hyphen before a number is one too. -/
def postAt? (text : List Char) : Option (Nat × List Char) :=
  let hyphened :=
    match text with
    | '-' :: rest => numberAt? rest
    | _ => none
  hyphened.or ((taggedAt? postWords text).map fun (_, value, rest) => (value, rest))

def labelPart? (part : List Char) : Option LabelPart :=
  if part.isEmpty || !part.all Char.isAlphanum then none
  else if part.all Char.isDigit then some (.number (numberOf part))
  else some (.word (String.ofList (part.map Char.toLower)))

/-- The local label that fills a text. -/
def readLabel? (text : List Char) : Option (Option (List LabelPart)) :=
  match text with
  | [] => some none
  | '+' :: rest =>
    let parts := splitAt '.' (rest.map fun c => if isSeparator c then '.' else c)
    (parts.mapM labelPart?).map some
  | _ => none

/-- A text without the letter that may stand in front of a version. -/
def dropLeadingV : List Char → List Char
  | [] => []
  | c :: rest => if c == 'v' || c == 'V' then rest else c :: rest

/-- The version that a text stands for. -/
def Version.read? (text : String) : Option Version := do
  let (epoch, rest) := epochAt (dropLeadingV (strip text.toList))
  let (release, rest) ← releaseAt? rest
  let (pre, rest) :=
    match taggedAt? stageWords rest with
    | some (stage, value, rest) => (some (stage, value), rest)
    | none => (none, rest)
  let (post, rest) :=
    match postAt? rest with
    | some (value, rest) => (some value, rest)
    | none => (none, rest)
  let (dev, rest) :=
    match taggedAt? devWords rest with
    | some (_, value, rest) => (some value, rest)
    | none => (none, rest)
  let label ← readLabel? rest
  return { epoch, release, pre, post, dev, label }

def LabelPart.text : LabelPart → String
  | .number value => toString value
  | .word letters => letters

namespace Version

def text (version : Version) : String :=
  let epoch := if version.epoch == 0 then "" else toString version.epoch ++ "!"
  let release := ".".intercalate (version.release.map toString)
  let pre :=
    match version.pre with
    | some (stage, value) => stage.name ++ toString value
    | none => ""
  let post :=
    match version.post with
    | some value => ".post" ++ toString value
    | none => ""
  let dev :=
    match version.dev with
    | some value => ".dev" ++ toString value
    | none => ""
  let label :=
    match version.label with
    | some parts => "+" ++ ".".intercalate (parts.map LabelPart.text)
    | none => ""
  epoch ++ release ++ pre ++ post ++ dev ++ label

/-- Lists are compared at the first place where they differ; of two that do not, the shorter one comes
    first. -/
def compareLists {α : Type} (compareItems : α → α → Ordering) : List α → List α → Ordering
  | [], [] => .eq
  | [], _ :: _ => .lt
  | _ :: _, [] => .gt
  | a :: as, b :: bs => (compareItems a b).then (compareLists compareItems as bs)

def compareStrings (a b : String) : Ordering :=
  compareLists compare a.toList b.toList

/-- Words come before numbers. -/
def compareParts : LabelPart → LabelPart → Ordering
  | .number m, .number n => compare m n
  | .word a, .word b => compareStrings a b
  | .word _, .number _ => .lt
  | .number _, .word _ => .gt

/-- A release without the zeros at its end, which do not count. -/
def trimmed (release : List Nat) : List Nat :=
  (release.reverse.dropWhile (· == 0)).reverse

/-- Where a version stands among those of one release: development releases first, then the
    pre-releases by stage, the release itself, its post-releases; and before each of them its own
    development releases. -/
def rank (version : Version) : List Nat :=
  let pre :=
    match version.pre with
    | some (stage, value) => [stage.rank, value]
    | none => if version.post.isNone && version.dev.isSome then [0, 0] else [4, 0]
  let post :=
    match version.post with
    | some value => [1, value]
    | none => [0, 0]
  let dev :=
    match version.dev with
    | some value => [0, value]
    | none => [1, 0]
  pre ++ post ++ dev

/-- A version without label comes before those with one. -/
def compareLabels : Option (List LabelPart) → Option (List LabelPart) → Ordering
  | none, none => .eq
  | none, some _ => .lt
  | some _, none => .gt
  | some a, some b => compareLists compareParts a b

def order (a b : Version) : Ordering :=
  (compare a.epoch b.epoch).then <|
    (compareLists compare (trimmed a.release) (trimmed b.release)).then <|
      (compareLists compare a.rank b.rank).then (compareLabels a.label b.label)

/-- Equal in the order of versions. -/
def same (a b : Version) : Bool :=
  (a.order b).isEq

def isPre (version : Version) : Bool :=
  version.pre.isSome || version.dev.isSome

/-- A version without its local label. -/
def published (version : Version) : Version :=
  { version with label := none }

end Version

end MarkTree.Packages
