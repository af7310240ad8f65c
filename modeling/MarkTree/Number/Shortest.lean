import MarkTree.Number.Power

namespace MarkTree.Number

/-- The decimal `digits * 10 ^ exponent`. -/
structure Decimal where
  digits : Nat
  exponent : Int
deriving DecidableEq, Repr

/-- How many decimal digits a number has; zero has one. -/
def digitCount (n : Nat) : Nat :=
  (Nat.toDigits 10 n).length

/-- The exponent of the leading decimal digit of a positive fraction. -/
def leadingExponent (numerator denominator : Nat) : Int :=
  if denominator ≤ numerator then (digitCount (numerator / denominator) : Int) - 1
  else
    let zeros := digitCount (denominator / numerator) - 1
    if denominator ≤ numerator * powerOfTen zeros then -(zeros : Int) else -(zeros : Int) - 1

/-- The reals that round to `mantissa * 2 ^ exponent`, in units of `2 ^ (exponent - 2)`: lower end,
    the value itself, upper end. Below a power of two the floats lie twice as close. -/
structure Rounding where
  low : Nat
  value : Nat
  high : Nat
  /-- The two ends themselves round to the value. -/
  closed : Bool

def Rounding.around (mantissa : Nat) (exponent : Int) : Rounding :=
  let closer := mantissa == powerOfTwo 52 && exponent > -1074
  { low := 4 * mantissa - (if closer then 1 else 2)
    value := 4 * mantissa
    high := 4 * mantissa + 2
    closed := mantissa % 2 == 0 }

/-- A point of the grid rounds to the value; both are given in the same unit. -/
def Rounding.admits (r : Rounding) (unit point : Nat) : Bool :=
  if r.closed then r.low * unit ≤ point && point ≤ r.high * unit
  else r.low * unit < point && point < r.high * unit

/-- The best point of the grid of multiples of `10 ^ place`, if one rounds to the value: the nearer
    neighbour of the value, the even one of two equally near. The two neighbours of the value on the grid
    are the only candidates: if any point of the grid rounds to the value, one of them does. -/
def onGrid? (r : Rounding) (scale place : Int) : Option Nat :=
  let unit := powerOfTwo scale.toNat * powerOfTen (-place).toNat
  let step := powerOfTen place.toNat * powerOfTwo (-scale).toNat
  let below := r.value * unit / step
  let above := below + 1
  let gapBelow := r.value * unit - below * step
  let gapAbove := above * step - r.value * unit
  match r.admits unit (below * step), r.admits unit (above * step) with
  | true, true =>
    if gapBelow < gapAbove || (gapBelow == gapAbove && below % 2 == 0) then some below
    else some above
  | true, false => some below
  | false, true => some above
  | false, false => none

/-- Tries grids of more and more digits. -/
def tryGrids (r : Rounding) (scale lead : Int) : (left count : Nat) → Decimal
  | 0, _ => { digits := r.value, exponent := 0 }
  | left + 1, count =>
    let place := lead + 1 - count
    match onGrid? r scale place with
    | some digits => { digits, exponent := place }
    | none => tryGrids r scale lead left (count + 1)

/-- Moves the zeros at the end of the digits into the exponent. -/
def Decimal.trim : (fuel : Nat) → Decimal → Decimal
  | 0, d => d
  | fuel + 1, d =>
    if d.digits != 0 && d.digits % 10 == 0 then
      trim fuel { digits := d.digits / 10, exponent := d.exponent + 1 }
    else d

/-- The shortest decimal that rounds to `mantissa * 2 ^ exponent`, and the nearest of those. Seventeen
    digits always suffice for a double precision float. -/
def shortest (mantissa : Nat) (exponent : Int) : Decimal :=
  if mantissa == 0 then { digits := 0, exponent := 0 }
  else
    let scale := exponent - 2
    let r := Rounding.around mantissa exponent
    let lead := leadingExponent (r.value * powerOfTwo scale.toNat) (powerOfTwo (-scale).toNat)
    (tryGrids r scale lead 17 1).trim 20

end MarkTree.Number
