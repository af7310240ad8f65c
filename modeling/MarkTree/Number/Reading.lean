import MarkTree.Number.Binary
import MarkTree.Text.Blank
import MarkTree.Text.Digit

namespace MarkTree.Number

open MarkTree.Text

/-- No number of more digits than this is read or written. -/
def maxDigits : Nat := 4300

/-- A blank around a number: any but the four information separators. -/
def isPadding (c : Char) : Bool :=
  isBlank c && !(28 ≤ c.toNat && c.toNat ≤ 31)

/-- A text without the blanks around it. -/
def unpadded (text : List Char) : List Char :=
  ((text.dropWhile isPadding).reverse.dropWhile isPadding).reverse

/-- Every digit of another script becomes the plain digit of the same value. -/
def plainDigits (text : List Char) : List Char :=
  text.map fun c =>
    match digitValue? c with
    | some value => Char.ofNat (48 + value)
    | none => c

/-- Removes the underscores of a text; none if one of them is not between two digits. -/
def withoutUnderscores : (afterDigit : Bool) → List Char → Option (List Char)
  | _, [] => some []
  | afterDigit, '_' :: rest =>
    match rest with
    | d :: _ => if afterDigit && d.isDigit then withoutUnderscores false rest else none
    | [] => none
  | _, c :: rest => (withoutUnderscores c.isDigit rest).map (c :: ·)

/-- The value of a run of plain digits. -/
def digitsValue (digits : List Char) : Nat :=
  digits.foldl (fun value d => value * 10 + (d.toNat - 48)) 0

/-- A sign in front of a text: whether it is negative, and the text without it. -/
def splitSign : List Char → Bool × List Char
  | '-' :: rest => (true, rest)
  | '+' :: rest => (false, rest)
  | text => (false, text)

/-- An integer as typed by a user. Blanks around the number are ignored, digits of every script count, a
    sign may stand in front, and a single underscore may stand between two digits. -/
def readInt? (text : String) : Option Int := do
  let (negative, digits) := splitSign (plainDigits (unpadded text.toList))
  let digits ← withoutUnderscores false digits
  if digits.isEmpty || !digits.all Char.isDigit || digits.length > maxDigits then none
  else
    let value : Int := digitsValue digits
    some (if negative then -value else value)

/-- The exponent part at the end of a decimal. -/
def readExponent? : List Char → Option Int
  | [] => some 0
  | e :: rest =>
    if e == 'e' || e == 'E' then
      let (negative, digits) := splitSign rest
      if digits.isEmpty || !digits.all Char.isDigit then none
      else
        let value : Int := digitsValue digits
        some (if negative then -value else value)
    else none

/-- A decimal without sign: whole digits, a point and fraction digits, an exponent. One of the two runs
    of digits may be empty. -/
def readDecimal? (text : List Char) : Option Float := do
  let whole := text.takeWhile Char.isDigit
  let rest := text.dropWhile Char.isDigit
  let (fraction, rest) :=
    match rest with
    | '.' :: tail => (tail.takeWhile Char.isDigit, tail.dropWhile Char.isDigit)
    | _ => ([], rest)
  if whole.isEmpty && fraction.isEmpty then none
  else
    let exponent ← readExponent? rest
    some (ofDecimal (digitsValue (whole ++ fraction)) (exponent - fraction.length))

/-- A float as typed by a user; infinity and not-a-number have names, in any case. -/
def readFloat? (text : String) : Option Float := do
  let (negative, body) := splitSign (plainDigits (unpadded text.toList))
  let magnitude ←
    match String.ofList (body.map Char.toLower) with
    | "inf" | "infinity" => some (1.0 / 0.0)
    | "nan" => some (0.0 / 0.0)
    | _ => do readDecimal? (← withoutUnderscores false body)
  some (if negative then -magnitude else magnitude)

end MarkTree.Number
