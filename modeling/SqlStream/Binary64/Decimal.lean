import SqlStream.Binary64.Basic
import SqlStream.Text.Digits

/-!
# Doubles in decimal

Reading `significand · 10 ^ exponent` as a double, and the shortest decimal that reads back as a
given double.

Reading rounds twice: the significand becomes a double, and that is multiplied or divided by the
double nearest to a power of ten. Writing is exact: of the decimals with the fewest digits among
those nearer to the double than to any other, it takes the one nearest to the double. Which of two
equally near ones that is, and how it is written down, are a matter of style.
-/

namespace SqlStream.Binary64

open SqlStream.Text

/-! ## Reading -/

/-- Ten to a power. -/
def tenTo (n : Nat) : Nat := Nat.pow 10 n

/-- The largest power of ten that is a double. -/
def maxPowerOfTen : Nat := 308

/-- The double nearest to a power of ten. -/
def powerOfTen (n : Nat) : Binary64 :=
  ofRatio false (tenTo n) 1

/-- Multiplies a double that is not negative by a power of ten; `none` if the product is past the
largest double. -/
def scaleByTen (x : Binary64) (exponent : Int) : Option Binary64 :=
  if exponent.natAbs ≤ maxPowerOfTen then
    if 0 ≤ exponent then
      let product := x.multiply (powerOfTen exponent.natAbs)
      if product.isFinite then some product else none
    else some (x.divide (powerOfTen exponent.natAbs))
  else if x.isZero then some x
  else if 0 ≤ exponent then none
  else scaleByTen (x.divide (powerOfTen maxPowerOfTen)) (exponent + maxPowerOfTen)
termination_by exponent.natAbs
decreasing_by
  simp only [maxPowerOfTen] at *
  omega

/-- The double of a signed decimal number; `none` if it is past the largest double. -/
def ofDecimal? (negative : Bool) (significand : Nat) (exponent : Int) : Option Binary64 := do
  let x ← scaleByTen (ofRatio false significand 1) exponent
  return if negative then x.negate else x

/-! ## Writing -/

/-- Which of two decimals equally near to a double is taken: the one whose last digit is even, or
the one farther from zero. -/
inductive Tie where
  | toEven
  | away

/-- How doubles are written. Those whose first digit has a power of ten from `lowest` to 15 have the
point in place, the others have an exponent, and that has a sign in any case or only if it is
negative. -/
structure DecimalStyle where
  lowest : Int
  signed : Bool
  tie : Tie

/-- The decimal exponent of a positive quotient: the power of ten of its first digit. -/
def decimalExponent (num den : Nat) : Int :=
  if den ≤ num then ((decimalDigits (num / den)).length : Int) - 1
  else
    let places := (decimalDigits (den / num)).length
    if den ≤ num * tenTo (places - 1) then -((places : Int) - 1) else -(places : Int)

/-- The numbers that a positive double stands for, in units of `1 / den`: those from `low` to
`high`, and the ends too if they are `closed`. -/
structure RoundingInterval where
  low : Nat
  middle : Nat
  high : Nat
  den : Nat
  closed : Bool

/-- The interval of numbers that round to a positive finite double. It reaches half the way to each
neighbour, and the neighbour below a power of two is half as far as the one above. -/
def roundingInterval (x : Binary64) : RoundingInterval :=
  let below := if x.fraction = 0 && 1 < x.exponentField then 1 else 2
  let m := x.significand
  let (unit, den) := if 1074 ≤ x.scale then (1 <<< (x.scale - 1074), 1) else (1, 1 <<< (1074 - x.scale))
  ⟨(4 * m - below) * unit, 4 * m * unit, (4 * m + 2) * unit, 4 * den, m % 2 = 0⟩

/-- True if `n · 10 ^ exponent` lies in an interval. -/
def RoundingInterval.holds (interval : RoundingInterval) (n : Nat) (exponent : Int) : Bool :=
  let value := n * tenTo exponent.toNat * interval.den
  let unit := tenTo (-exponent).toNat
  let low := interval.low * unit
  let high := interval.high * unit
  (low < value && value < high) || (interval.closed && (low = value || value = high))

/-- The integer `n` for which `n · 10 ^ exponent` lies in an interval, and nearest to its middle. -/
def RoundingInterval.nearest? (tie : Tie) (interval : RoundingInterval) (exponent : Int) :
    Option Nat :=
  let step := tenTo exponent.toNat * interval.den
  let middle := interval.middle * tenTo (-exponent).toNat
  let floor := middle / step
  let rest := middle % step
  match interval.holds floor exponent && floor ≠ 0, interval.holds (floor + 1) exponent with
  | true, true =>
    if 2 * rest < step then some floor
    else if step < 2 * rest then some (floor + 1)
    else
      match tie with
      | .toEven => some (floor + floor % 2)
      | .away => some (floor + 1)
  | true, false => some floor
  | false, true => some (floor + 1)
  | false, false => none

/-- The shortest decimal `n · 10 ^ exponent` in an interval, found among those with at most
`digits` digits more than the ones already tried. -/
def RoundingInterval.shortest (tie : Tie) (interval : RoundingInterval) (exponent : Int) :
    Nat → Nat × Int
  | 0 => (interval.middle / interval.den, 0)
  | digits + 1 =>
    match interval.nearest? tie exponent with
    | some n => (n, exponent)
    | none => interval.shortest tie (exponent - 1) digits

/-- Takes the zeros off the end of a number and counts them into its exponent. -/
def stripZeros (digits : List Char) (exponent : Int) : List Char × Int :=
  let kept := (digits.reverse.dropWhile fun c => c == '0').reverse
  (kept, exponent + ((digits.length - kept.length : Nat) : Int))

/-- The digits of the shortest decimal of a positive finite double, and the power of ten of the
last digit. -/
def shortestDecimal (tie : Tie) (x : Binary64) : List Char × Int :=
  let interval := x.roundingInterval
  let first := decimalExponent interval.middle interval.den
  let found := interval.shortest tie first 17
  stripZeros (decimalDigits found.1) found.2

/-- Places a decimal point: `point` digits stand in front of it. -/
def positional (digits : List Char) (point : Int) : List Char :=
  if point ≤ 0 then '0' :: '.' :: (List.replicate (-point).toNat '0' ++ digits)
  else
    let front := (digits ++ List.replicate (point.toNat - digits.length) '0').take point.toNat
    let back := digits.drop point.toNat
    front ++ '.' :: (if back.isEmpty then ['0'] else back)

/-- Writes digits with an exponent, the point behind the first digit. -/
def scientific (signed : Bool) (digits : List Char) (exponent : Int) : List Char :=
  let significand :=
    match digits with
    | first :: [] => [first]
    | first :: rest => first :: '.' :: rest
    | [] => []
  let sign := if exponent < 0 then ['-'] else if signed then ['+'] else []
  significand ++ 'e' :: sign ++ decimalDigits exponent.natAbs

/-- The text of a finite double. -/
def text (style : DecimalStyle) (x : Binary64) : List Char :=
  let sign := if x.isNegative then ['-'] else []
  if x.isZero then sign ++ ['0', '.', '0']
  else
    let decimal := x.shortestDecimal style.tie
    let leading := decimal.2 + (decimal.1.length : Int) - 1
    sign ++
      if style.lowest ≤ leading ∧ leading ≤ 15 then positional decimal.1 (leading + 1)
      else scientific style.signed decimal.1 leading

/-- The name of a value that is not finite. -/
def specialName (x : Binary64) : String :=
  if x.isNaN then "NaN" else if x.isNegative then "-inf" else "inf"

end SqlStream.Binary64
