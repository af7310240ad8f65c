import MarkTree.Number.Power

namespace MarkTree.Number

/-- What a double precision float stands for. A finite one is a sign, a mantissa and a power of two;
    comparing it with an integer or cutting off its fraction is then arithmetic on natural numbers. -/
inductive Binary where
  | nan
  | infinite (negative : Bool)
  /-- The number `mantissa * 2 ^ exponent`, negated if `negative`. -/
  | finite (negative : Bool) (mantissa : Nat) (exponent : Int)
deriving DecidableEq, Repr

/-- Reads sign, exponent and fraction off the 64 bits. Fraction bits under exponent zero have no
    leading one. -/
def Binary.ofBits (bits : Nat) : Binary :=
  let negative := bits / powerOfTwo 63 % 2 == 1
  let exponent : Nat := bits / powerOfTwo 52 % powerOfTwo 11
  let fraction : Nat := bits % powerOfTwo 52
  if exponent == 2047 then
    if fraction == 0 then .infinite negative else .nan
  else if exponent == 0 then .finite negative fraction (-1074)
  else .finite negative (fraction + powerOfTwo 52) ((exponent : Int) - 1075)

def Binary.ofFloat (value : Float) : Binary :=
  .ofBits value.toBits.toNat

def Binary.isInt : Binary → Int → Bool
  | .finite negative mantissa exponent, n =>
    let magnitude := n.natAbs
    let sameSize :=
      if exponent < 0 then mantissa == magnitude * powerOfTwo (-exponent).toNat
      else mantissa * powerOfTwo exponent.toNat == magnitude
    sameSize && (n == 0 || (n < 0) == negative)
  | _, _ => false

/-- The integer nearest to a finite float on the side of zero. -/
def Binary.truncate? : Binary → Option Int
  | .finite negative mantissa exponent =>
    let magnitude :=
      if exponent < 0 then mantissa / powerOfTwo (-exponent).toNat
      else mantissa * powerOfTwo exponent.toNat
    some (if negative then -(magnitude : Int) else magnitude)
  | _ => none

/-- The float nearest to `mantissa * 10 ^ exponent`. Beyond the range of floats the answer is zero or
    infinity; it is given without computing the power. -/
def ofDecimal (mantissa : Nat) (exponent : Int) : Float :=
  let size := exponent + (toString mantissa).length
  if mantissa == 0 || size < -400 then 0.0
  else if size > 400 then 1.0 / 0.0
  else if exponent < 0 then Float.ofScientific mantissa true (-exponent).toNat
  else Float.ofScientific mantissa false exponent.toNat

/-- The float nearest to an integer, unless none is finite. -/
def ofInt? (n : Int) : Option Float :=
  let magnitude := ofDecimal n.natAbs 0
  match Binary.ofFloat magnitude with
  | .finite .. => some (if n < 0 then -magnitude else magnitude)
  | _ => none

end MarkTree.Number
