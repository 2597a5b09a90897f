/-!
# ASCII classes

Character classes and comparisons that look at ASCII alone. Characters outside ASCII belong to no
class here and compare equal only to themselves.
-/

namespace SqlStream.Text

/-- The blanks between words of SQL text: space, tab, line feed, form feed and carriage return. -/
def isBlank (c : Char) : Bool :=
  c = ' ' || c = '\t' || c = '\n' || c = '\x0c' || c = '\r'

/-- The digits `0` to `9` and the letters `a` to `f` in either case. -/
def isHexDigit (c : Char) : Bool :=
  c.isDigit || ('a' ≤ c && c ≤ 'f') || ('A' ≤ c && c ≤ 'F')

/-- Characters outside ASCII. -/
def isWide (c : Char) : Bool :=
  128 ≤ c.toNat

/-- Two texts that differ at most in the case of ASCII letters. -/
def sameIgnoringCase (s t : List Char) : Bool :=
  s.map Char.toLower == t.map Char.toLower

/-- How many characters at the front of a text belong to a class. -/
def countWhile (p : Char → Bool) (s : List Char) : Nat :=
  (s.takeWhile p).length

theorem countWhile_le_length (p : Char → Bool) (s : List Char) : countWhile p s ≤ s.length :=
  (List.takeWhile_sublist p).length_le

end SqlStream.Text
