/-!
# Decimal numerals of bounded integers

Reading decimal text as an integer of limited size. A sign is allowed in front (a minus only where
negative numbers exist), leading zeros are allowed, blanks are not. The digits are read from the
left, and the first fault met is the one reported.
-/

namespace SqlStream.Text

/-- Why a text is no numeral of the wanted size. -/
inductive NumeralFault where
  | empty
  | invalidDigit
  | tooLarge
  | tooSmall
  deriving DecidableEq, Repr

/-- The wording of a fault. -/
def NumeralFault.message : NumeralFault → String
  | .empty => "cannot parse integer from empty string"
  | .invalidDigit => "invalid digit found in string"
  | .tooLarge => "number too large to fit in target type"
  | .tooSmall => "number too small to fit in target type"

/-- The value of a decimal digit. -/
def digitValue (c : Char) : Nat :=
  c.toNat - '0'.toNat

/-- Reads digits behind a part of value `n`; `overflow` is the fault of passing `limit`. -/
def readDigits (limit : Nat) (overflow : NumeralFault) : List Char → Nat → Except NumeralFault Nat
  | [], n => .ok n
  | c :: cs, n =>
    if c.isDigit then
      let next := n * 10 + digitValue c
      if next ≤ limit then readDigits limit overflow cs next else .error overflow
    else .error .invalidDigit

/-- Reads a numeral of a number from 0 to `limit`. -/
def readUnsigned (limit : Nat) (s : List Char) : Except NumeralFault Nat :=
  match s with
  | [] => .error .empty
  | ['+'] => .error .invalidDigit
  | '+' :: digits => readDigits limit .tooLarge digits 0
  | digits => readDigits limit .tooLarge digits 0

/-- Reads a numeral of a number from `-limit - 1` to `limit`. -/
def readSigned (limit : Nat) (s : List Char) : Except NumeralFault Int :=
  match s with
  | ['-'] => .error .invalidDigit
  | '-' :: digits => (readDigits (limit + 1) .tooSmall digits 0).map fun n => -(n : Int)
  | digits => (readUnsigned limit digits).map fun n => (n : Int)

/-- The largest 64-bit integer with a sign. -/
def maxInt64 : Nat := UInt64.size / 2 - 1

/-- The largest 64-bit integer without a sign. -/
def maxUInt64 : Nat := UInt64.size - 1

/-- Reads a 64-bit signed integer. -/
def readInt64 (s : String) : Except NumeralFault Int64 :=
  (readSigned maxInt64 s.toList).map Int64.ofInt

/-- Reads a 64-bit unsigned integer. -/
def readUInt64 (s : String) : Except NumeralFault UInt64 :=
  (readUnsigned maxUInt64 s.toList).map UInt64.ofNat

end SqlStream.Text
