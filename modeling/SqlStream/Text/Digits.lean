import SqlStream.Text.Numeral

/-!
# Digits of fixed and of free number

Writing numbers with a fixed number of decimal digits, as dates and times do, or with as many as
they need, and reading a fixed number of digits back.
-/

namespace SqlStream.Text

/-- The character of a digit below ten. -/
def digitChar (n : Nat) : Char :=
  Char.ofNat ('0'.toNat + n)

/-- The last `width` decimal digits of a number. -/
def fixedDigits : Nat → Nat → List Char
  | 0, _ => []
  | width + 1, n => fixedDigits width (n / 10) ++ [digitChar (n % 10)]

/-- The value of a string of digits. -/
def digitsValue (digits : List Char) : Nat :=
  digits.foldl (fun n c => n * 10 + digitValue c) 0

/-- Reads exactly `width` digits from the front of a text. -/
def readFixed (width : Nat) (s : List Char) : Option (Nat × List Char) :=
  let digits := s.take width
  if digits.length = width ∧ digits.all Char.isDigit then
    some (digitsValue digits, s.drop width)
  else none

/-- The decimal digits of a number, without leading zeros. -/
def decimalDigits (n : Nat) : List Char :=
  Nat.toDigits 10 n

end SqlStream.Text
