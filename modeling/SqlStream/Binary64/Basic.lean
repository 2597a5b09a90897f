/-!
# Double-precision numbers

A double is its 64 bits: a sign, an exponent field of 11 bits and a fraction of 52. Two doubles are
equal here if their bits are, so a NaN equals itself and the two zeros differ.

Rounding is exact arithmetic on natural numbers: `ofRatio` gives the double nearest to a quotient,
with ties to the even neighbour.
-/

namespace SqlStream

/-- A double-precision number, by its bits. -/
structure Binary64 where
  bits : UInt64
  deriving DecidableEq, Repr

namespace Binary64

/-! ## Fields -/

/-- The number of values of the fraction field. -/
def fractionSize : Nat := 1 <<< 52

/-- The number of values of the exponent field. -/
def exponentSize : Nat := 1 <<< 11

/-- The value of the sign bit in a word. -/
def signWeight : Nat := 1 <<< 63

/-- True if the sign bit is set. -/
def isNegative (x : Binary64) : Bool :=
  signWeight ≤ x.bits.toNat

/-- The exponent field. -/
def exponentField (x : Binary64) : Nat :=
  x.bits.toNat / fractionSize % exponentSize

/-- The fraction field. -/
def fraction (x : Binary64) : Nat :=
  x.bits.toNat % fractionSize

/-- True of all doubles but the infinities and the NaNs. -/
def isFinite (x : Binary64) : Bool :=
  x.exponentField ≠ exponentSize - 1

/-- True of the values that are no numbers. -/
def isNaN (x : Binary64) : Bool :=
  x.exponentField = exponentSize - 1 && x.fraction ≠ 0

/-- True of the two zeros. -/
def isZero (x : Binary64) : Bool :=
  x.exponentField = 0 && x.fraction = 0

/-- The significand of a finite double, as an integer. -/
def significand (x : Binary64) : Nat :=
  if x.exponentField = 0 then x.fraction else fractionSize + x.fraction

/-- The power of two that scales the significand of a finite double, raised by 1074. -/
def scale (x : Binary64) : Nat :=
  x.exponentField - 1

/-- The magnitude of a finite double as numerator and denominator. -/
def ratio (x : Binary64) : Nat × Nat :=
  if 1074 ≤ x.scale then (x.significand <<< (x.scale - 1074), 1)
  else (x.significand, 1 <<< (1074 - x.scale))

/-! ## Rounding -/

/-- The integer nearest to a quotient; a tie goes to the even one. -/
def divideToEven (num den : Nat) : Nat :=
  let quotient := num / den
  let rest := num % den
  if 2 * rest < den then quotient
  else if den < 2 * rest then quotient + 1
  else if quotient % 2 = 0 then quotient
  else quotient + 1

/-- The quotient of two numbers divided by a power of two, rounded to the nearest integer. -/
def divideScaled (num den : Nat) (power : Int) : Nat :=
  if 0 ≤ power then divideToEven num (den <<< power.toNat)
  else divideToEven (num <<< (-power).toNat) den

/-- The power of two by which a quotient is divided to get a significand of 53 bits, or fewer if the
exponent cannot go lower. -/
def scaleOfRatio (num den : Nat) : Int :=
  let guess : Int := (num.log2 : Int) - (den.log2 : Int) - 52
  let large :=
    if 0 ≤ guess then den <<< (52 + guess.toNat) ≤ num
    else den <<< 52 ≤ num <<< (-guess).toNat
  max (if large then guess else guess - 1) (-1074)

/-- The bits of the infinity, without a sign. -/
def infinityBits : Nat := (exponentSize - 1) * fractionSize

/-- The bits, without a sign, of the double nearest to a quotient. A significand that rounding
raises to 54 bits carries into the exponent field. -/
def magnitudeOfRatio (num den : Nat) : Nat :=
  if num = 0 then 0
  else
    let power := scaleOfRatio num den
    min ((power + 1074).toNat * fractionSize + divideScaled num den power) infinityBits

/-- The double with this sign and magnitude. -/
def ofMagnitude (negative : Bool) (magnitude : Nat) : Binary64 :=
  ⟨UInt64.ofNat ((if negative then signWeight else 0) + magnitude)⟩

/-- The double nearest to a quotient with a sign. -/
def ofRatio (negative : Bool) (num den : Nat) : Binary64 :=
  ofMagnitude negative (magnitudeOfRatio num den)

/-- The double nearest to an integer. -/
def ofInt (n : Int) : Binary64 :=
  ofRatio (n < 0) n.natAbs 1

/-- The same number with the other sign. -/
def negate (x : Binary64) : Binary64 :=
  ofMagnitude (!x.isNegative) (x.bits.toNat % signWeight)

/-- The rounded product of the magnitudes of two finite doubles. -/
def multiply (x y : Binary64) : Binary64 :=
  ofRatio false (x.ratio.1 * y.ratio.1) (x.ratio.2 * y.ratio.2)

/-- The rounded quotient of the magnitudes of two finite doubles, the second not zero. -/
def divide (x y : Binary64) : Binary64 :=
  ofRatio false (x.ratio.1 * y.ratio.2) (x.ratio.2 * y.ratio.1)

end Binary64

end SqlStream
