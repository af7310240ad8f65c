import MarkTree.Datum.Basic
import MarkTree.Number.Reading

namespace MarkTree.Json

open MarkTree.Number

/-- A lexical unit of JSON. -/
inductive Token where
  | openList
  | closeList
  | openDict
  | closeDict
  | comma
  | colon
  /-- A literal, a number or a text. -/
  | scalar (value : Datum)
  /-- An integer with more digits than are read. -/
  | overlong
  /-- No token of JSON starts here. Nothing is read after it. -/
  | bad
deriving DecidableEq

/-- What the scanner is in the middle of. Characters read so far stand in reverse. -/
inductive Mode where
  /-- Between tokens. -/
  | idle
  | atom (read : List Char)
  | text (read : List Char)
  /-- Behind a backslash. -/
  | escape (read : List Char)
  /-- Within the four digits of a numeric escape: how many are left, and the value so far. A first half
      of a surrogate pair that has been read just before waits in `high`. -/
  | code (read : List Char) (high : Option Nat) (left value : Nat)
  /-- Behind the first half of a surrogate pair. -/
  | half (read : List Char) (high : Nat)
  /-- Behind the first half of a surrogate pair and a backslash. -/
  | halfEscape (read : List Char) (high : Nat)
  | stuck
deriving DecidableEq, Repr

/-- The scanner: what it is in the middle of, and the tokens read, latest first. It takes one character at
    a time, so scanning a text after another one continues from where the first has ended. A literal or
    number is the longest run of characters that occur in one; it is read when the run ends. -/
structure Scan where
  mode : Mode
  tokens : List Token

def Scan.start : Scan :=
  { mode := .idle, tokens := [] }

/-- JSON has four blank characters. -/
def isBlank (c : Char) : Bool :=
  c == ' ' || c == '\t' || c == '\n' || c == '\r'

/-- A character of a literal or number. -/
def isAtom (c : Char) : Bool :=
  c.isAlphanum || c == '-' || c == '+' || c == '.'

def hexValue? (c : Char) : Option Nat :=
  if c.isDigit then some (c.toNat - 48)
  else if 'a' ≤ c && c ≤ 'f' then some (c.toNat - 87)
  else if 'A' ≤ c && c ≤ 'F' then some (c.toNat - 55)
  else none

/-- The character that a backslash and a letter stand for. -/
def unescape? (c : Char) : Option Char :=
  if c == '\x22' || c == '\\' || c == '/' then some c
  else if c == 'b' then some '\x08'
  else if c == 'f' then some '\x0c'
  else if c == 'n' then some '\n'
  else if c == 'r' then some '\r'
  else if c == 't' then some '\t'
  else none

/-- A text goes on with a point and a digit. -/
def startsFraction : List Char → Bool
  | '.' :: digit :: _ => digit.isDigit
  | _ => false

/-- A text goes on with an exponent. -/
def startsExponent : List Char → Bool
  | mark :: rest => (mark == 'e' || mark == 'E') && (splitSign rest).2.head?.any Char.isDigit
  | [] => false

/-- A number without its sign: digits without a needless zero in front, a fraction, an exponent. The
    digits alone are an integer if neither of the other two follows them, and too many of them are
    noticed before anything that is wrong behind them. -/
def readNumber (negative : Bool) (text : List Char) : Token :=
  let whole := text.takeWhile Char.isDigit
  let rest := text.dropWhile Char.isDigit
  if whole.isEmpty || (whole.length > 1 && whole.head? == some '0') then .bad
  else if startsFraction rest || startsExponent rest then
    let (fraction, tail) :=
      match rest with
      | '.' :: more => (more.takeWhile Char.isDigit, more.dropWhile Char.isDigit)
      | _ => ([], rest)
    match readExponent? tail with
    | none => .bad
    | some exponent =>
      let value := ofDecimal (digitsValue (whole ++ fraction)) (exponent - fraction.length)
      .scalar (.float (if negative then -value else value))
  else if maxDigits < whole.length then .overlong
  else if rest.isEmpty then
    let value : Int := digitsValue whole
    .scalar (.int (if negative then -value else value))
  else .bad

def readAtom (text : List Char) : Token :=
  match String.ofList text with
  | "null" => .scalar .null
  | "true" => .scalar (.bool true)
  | "false" => .scalar (.bool false)
  | "NaN" => .scalar (.float (0.0 / 0.0))
  | "Infinity" => .scalar (.float (1.0 / 0.0))
  | "-Infinity" => .scalar (.float (-(1.0 / 0.0)))
  | _ =>
    match text with
    | '-' :: rest => readNumber true rest
    | _ => readNumber false text

/-- The token of one character that stands on its own. -/
def punctuation? (c : Char) : Option Token :=
  if c == '[' then some .openList
  else if c == ']' then some .closeList
  else if c == '\x7b' then some .openDict
  else if c == '\x7d' then some .closeDict
  else if c == ',' then some .comma
  else if c == ':' then some .colon
  else none

def Scan.fail (s : Scan) : Scan :=
  { mode := .stuck, tokens := .bad :: s.tokens }

def Scan.push (s : Scan) (token : Token) : Scan :=
  match token with
  | .bad => s.fail
  | _ => { mode := .idle, tokens := token :: s.tokens }

/-- A character between tokens. -/
def Scan.idle (s : Scan) (c : Char) : Scan :=
  if isBlank c then { s with mode := .idle }
  else if c == '\x22' then { s with mode := .text [] }
  else if isAtom c then { s with mode := .atom [c] }
  else
    match punctuation? c with
    | some token => s.push token
    | none => s.fail

def Scan.text (s : Scan) (read : List Char) (c : Char) : Scan :=
  if c == '\x22' then s.push (.scalar (.str (String.ofList read.reverse)))
  else if c == '\\' then { s with mode := .escape read }
  else if c.toNat < 32 then s.fail
  else { s with mode := .text (c :: read) }

/-- A half of a surrogate pair on its own stands for the replacement character. -/
def replacement : Char :=
  Char.ofNat 0xFFFD

def Scan.coded (s : Scan) (read : List Char) (high : Option Nat) (value : Nat) : Scan :=
  let isHigh := 0xD800 ≤ value && value < 0xDC00
  let isLow := 0xDC00 ≤ value && value < 0xE000
  match high with
  | some first =>
    if isLow then
      let point := 0x10000 + (first - 0xD800) * 0x400 + (value - 0xDC00)
      { s with mode := .text (Char.ofNat point :: read) }
    else if isHigh then { s with mode := .half (replacement :: read) value }
    else { s with mode := .text (Char.ofNat value :: replacement :: read) }
  | none =>
    if isHigh then { s with mode := .half read value }
    else if isLow then { s with mode := .text (replacement :: read) }
    else { s with mode := .text (Char.ofNat value :: read) }

/-- A character behind a backslash inside a text. -/
def Scan.escape (s : Scan) (read : List Char) (c : Char) : Scan :=
  if c == 'u' then { s with mode := .code read none 4 0 }
  else
    match unescape? c with
    | some meant => { s with mode := .text (meant :: read) }
    | none => s.fail

def Scan.step (s : Scan) (c : Char) : Scan :=
  match s.mode with
  | .idle => s.idle c
  | .atom read =>
    if isAtom c then { s with mode := .atom (c :: read) }
    else
      match readAtom read.reverse with
      | .bad => s.fail
      | token => (s.push token).idle c
  | .text read => s.text read c
  | .escape read => s.escape read c
  | .code read high left value =>
    match hexValue? c with
    | none => s.fail
    | some digit =>
      let value := value * 16 + digit
      if left ≤ 1 then s.coded read high value
      else { s with mode := .code read high (left - 1) value }
  | .half read high =>
    if c == '\\' then { s with mode := .halfEscape read high }
    else s.text (replacement :: read) c
  | .halfEscape read high =>
    if c == 'u' then { s with mode := .code read (some high) 4 0 }
    else s.escape (replacement :: read) c
  | .stuck => s

/-- The tokens read when the text ends here, in order. -/
def Scan.finish (s : Scan) : List Token :=
  match s.mode with
  | .idle | .stuck => s.tokens.reverse
  | .atom read => (s.push (readAtom read.reverse)).tokens.reverse
  | _ => s.fail.tokens.reverse

def tokens (text : List Char) : List Token :=
  (text.foldl Scan.step Scan.start).finish

end MarkTree.Json
