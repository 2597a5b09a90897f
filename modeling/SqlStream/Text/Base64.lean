import SqlStream.Chunks

/-!
# Base64

Bytes as text, three bytes to four characters of the standard alphabet. What is written carries no
padding. What is read may carry some or all of the padding that completes its last group, but no
more, and the bits that a short last group leaves over must be zero, so that a byte sequence has
one text up to padding.
-/

namespace SqlStream.Text.Base64

/-- The character of a number below 64. -/
def sextetChar (n : Nat) : Char :=
  if n < 26 then Char.ofNat ('A'.toNat + n)
  else if n < 52 then Char.ofNat ('a'.toNat + (n - 26))
  else if n < 62 then Char.ofNat ('0'.toNat + (n - 52))
  else if n = 62 then '+'
  else '/'

/-- The number of a character of the alphabet. -/
def sextet? (c : Char) : Option Nat :=
  if c.isUpper then some (c.toNat - 'A'.toNat)
  else if c.isLower then some (c.toNat - 'a'.toNat + 26)
  else if c.isDigit then some (c.toNat - '0'.toNat + 52)
  else if c = '+' then some 62
  else if c = '/' then some 63
  else none

/-- The sextets of one to three bytes. -/
def sextetsOfBytes : List UInt8 → List Nat
  | [a] => [a.toNat / 4, a.toNat % 4 * 16]
  | [a, b] => [a.toNat / 4, a.toNat % 4 * 16 + b.toNat / 16, b.toNat % 16 * 4]
  | [a, b, c] =>
    [a.toNat / 4, a.toNat % 4 * 16 + b.toNat / 16, b.toNat % 16 * 4 + c.toNat / 64, c.toNat % 64]
  | _ => []

/-- The bytes of two to four sextets, if no bit is left over. -/
def bytesOfSextets? : List Nat → Option (List UInt8)
  | [p, q] => if q % 16 = 0 then some [UInt8.ofNat (p * 4 + q / 16)] else none
  | [p, q, r] =>
    if r % 4 = 0 then
      some [UInt8.ofNat (p * 4 + q / 16), UInt8.ofNat (q % 16 * 16 + r / 4)]
    else none
  | [p, q, r, s] =>
    some [UInt8.ofNat (p * 4 + q / 16), UInt8.ofNat (q % 16 * 16 + r / 4),
      UInt8.ofNat (r % 4 * 64 + s)]
  | _ => none

/-- The text of a byte sequence, without padding. -/
def encode (bytes : List UInt8) : String :=
  String.ofList ((chunks 3 bytes).flatMap fun group => (sextetsOfBytes group).map sextetChar)

/-- How many padding characters complete the last group of a text of this length. -/
def paddingRoom (length : Nat) : Nat :=
  (4 - length % 4) % 4

/-- The byte sequence of a text, if it is the text of one. -/
def decode? (text : String) : Option (List UInt8) :=
  let data := text.toList.takeWhile fun c => c != '='
  let padding := text.toList.dropWhile fun c => c != '='
  if padding.all (fun c => c == '=') && padding.length ≤ paddingRoom data.length then do
    let sextets ← data.mapM sextet?
    let groups ← (chunks 4 sextets).mapM bytesOfSextets?
    return groups.flatten
  else none

/-! ## Padding and bits left over -/

example : encode [255, 0] = "/wA" := by decide +kernel

example : decode? "/wA=" = some [255, 0] := by decide +kernel

example : decode? "/wA==" = none := by decide +kernel

example : decode? "/wB=" = none := by decide +kernel

end SqlStream.Text.Base64
