import SqlStream.Binary64.Decimal
import SqlStream.Json.Basic

/-!
# Canonical JSON text

One text for each JSON value: no blanks, the members of an object in the order of the code points of
their names, and of members with one name the last only. A string is escaped only where it must be.
-/

namespace SqlStream.Json

open SqlStream.Text

/-- Doubles are written with a point in place from `0.00001` to below `1e+16`, an exponent has its
sign, and a tie goes to the even digit. -/
def decimalStyle : Binary64.DecimalStyle := ⟨-5, true, .toEven⟩

/-- The text of a number. -/
def numberText : JsonNumber → List Char
  | .integer n => (if n < 0 then ['-'] else []) ++ decimalDigits n.natAbs
  | .float x => x.text decimalStyle

/-- A hexadecimal digit in lower case. -/
def hexChar (n : Nat) : Char :=
  if n < 10 then Char.ofNat ('0'.toNat + n) else Char.ofNat ('a'.toNat + (n - 10))

/-- A character as it stands in a string. -/
def escapedChar (c : Char) : List Char :=
  if c = '"' then ['\\', '"']
  else if c = '\\' then ['\\', '\\']
  else if c = '\x08' then ['\\', 'b']
  else if c = '\x0c' then ['\\', 'f']
  else if c = '\n' then ['\\', 'n']
  else if c = '\r' then ['\\', 'r']
  else if c = '\t' then ['\\', 't']
  else if c.toNat < 32 then ['\\', 'u', '0', '0', hexChar (c.toNat / 16), hexChar (c.toNat % 16)]
  else [c]

/-- A string in quotes. -/
def quoted (s : String) : List Char :=
  '"' :: s.toList.flatMap escapedChar ++ ['"']

/-- Of neighbours with one name, keeps the last. -/
def lastOfEach {α : Type _} (members : List (String × α)) : List (String × α) :=
  (go members []).reverse
where
  go : List (String × α) → List (String × α) → List (String × α)
    | [], found => found
    | [member], found => member :: found
    | first :: second :: rest, found =>
      if first.1 = second.1 then go (second :: rest) found
      else go (second :: rest) (first :: found)

/-- Members in the order of their names, the last of each name. -/
def canonicalMembers {α : Type _} (members : List (String × α)) : List (String × α) :=
  lastOfEach (members.mergeSort fun a b => decide (a.1 ≤ b.1))

/-- Texts with commas between them. -/
def commaSeparated (texts : List (List Char)) : List Char :=
  [','].intercalate texts

/-- The canonical text of a value. -/
def canonical : Json → List Char
  | null => ['n', 'u', 'l', 'l']
  | bool true => ['t', 'r', 'u', 'e']
  | bool false => ['f', 'a', 'l', 's', 'e']
  | number n => numberText n
  | string s => quoted s
  | array items =>
    '[' :: commaSeparated (items.attach.map fun item => canonical item.1) ++ [']']
  | object members =>
    let texts := members.attach.map fun member => (member.1.1, canonical member.1.2)
    '\x7b' :: commaSeparated ((canonicalMembers texts).map fun member =>
      quoted member.1 ++ ':' :: member.2) ++ ['\x7d']
  | unreadable => []
termination_by value => sizeOf value
decreasing_by
  · have := List.sizeOf_lt_of_mem item.2
    simp only [array.sizeOf_spec]
    omega
  · have := List.sizeOf_lt_of_mem member.2
    have : sizeOf member.1.2 < sizeOf member.1 := by
      obtain ⟨⟨name, value⟩, _⟩ := member
      simp only [Prod.mk.sizeOf_spec]
      omega
    simp only [object.sizeOf_spec]
    omega

/-! ## How doubles are written -/

example : String.ofList (numberText (.float ⟨0x3ff8000000000000⟩)) = "1.5" := by decide +kernel

example : String.ofList (numberText (.float ⟨0x8000000000000000⟩)) = "-0.0" := by decide +kernel

example : String.ofList (numberText (.float ⟨0x3ee4f8b588e368f1⟩)) = "0.00001" := by decide +kernel

example : String.ofList (numberText (.float ⟨0x3eb0c6f7a0b5ed8d⟩)) = "1e-6" := by decide +kernel

example : String.ofList (numberText (.float ⟨0x4341c37937e08000⟩)) = "1e+16" := by decide +kernel

example : String.ofList (numberText (.float ⟨0x3ea4000000000000⟩)) = "5.960464477539062e-7" := by
  decide +kernel

end SqlStream.Json
