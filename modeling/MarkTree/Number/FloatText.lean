import MarkTree.Number.Binary
import MarkTree.Number.Shortest

namespace MarkTree.Number

/-- How floats are spelled, so that what is peculiar to one format is in one value. -/
structure FloatLayout where
  /-- From this exponent of the leading digit on, digits stand in their places. -/
  leastPositional : Int
  /-- From this exponent of the leading digit on, an exponent is written. -/
  leastScientific : Int
  /-- An exponent has at least this many digits. -/
  exponentDigits : Nat
  nan : String
  infinity : String
deriving Repr

def zeros (count : Nat) : List Char :=
  List.replicate count '0'

/-- Digits with an exponent: one digit, a point and the others if there are any, then the exponent
    with its sign. -/
def scientific (layout : FloatLayout) (digits : List Char) (lead : Int) : List Char :=
  let mantissa :=
    match digits with
    | [] => []
    | [d] => [d]
    | d :: rest => d :: '.' :: rest
  let size := Nat.toDigits 10 lead.natAbs
  mantissa ++ ['e', if lead < 0 then '-' else '+'] ++
    zeros (layout.exponentDigits - size.length) ++ size

/-- Digits in their places, with at least one on each side of the point. -/
def positional (digits : List Char) (lead : Int) : List Char :=
  if lead < 0 then ['0', '.'] ++ zeros (-lead - 1).toNat ++ digits
  else
    let whole := lead.toNat + 1
    if digits.length ≤ whole then digits ++ zeros (whole - digits.length) ++ ['.', '0']
    else digits.take whole ++ ['.'] ++ digits.drop whole

/-- A float in a layout. -/
def writeFloat (layout : FloatLayout) (value : Float) : String :=
  match Binary.ofFloat value with
  | .nan => layout.nan
  | .infinite negative => (if negative then "-" else "") ++ layout.infinity
  | .finite negative mantissa exponent =>
    let decimal := shortest mantissa exponent
    let digits := Nat.toDigits 10 decimal.digits
    let lead := decimal.exponent + digits.length - 1
    let body :=
      if layout.leastPositional ≤ lead && lead < layout.leastScientific then positional digits lead
      else scientific layout digits lead
    (if negative then "-" else "") ++ String.ofList body

end MarkTree.Number
