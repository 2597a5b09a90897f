/-!
# Trimming

Taking white space off both ends of a text, and given characters and words off one end. White space
is what Unicode calls so.
-/

namespace SqlStream.Text

/-- The characters with the Unicode property `White_Space`. -/
def isWhiteSpace (c : Char) : Bool :=
  let n := c.toNat
  (0x09 ≤ n && n ≤ 0x0d) || n = 0x20 || n = 0x85 || n = 0xa0 || n = 0x1680 ||
    (0x2000 ≤ n && n ≤ 0x200a) || n = 0x2028 || n = 0x2029 || n = 0x202f || n = 0x205f ||
    n = 0x3000

/-- A text without the characters of a class at its end. -/
def trimEndOf (p : Char → Bool) (s : List Char) : List Char :=
  (s.reverse.dropWhile p).reverse

/-- A text without white space at its ends. -/
def trimSpace (s : List Char) : List Char :=
  trimEndOf isWhiteSpace (s.dropWhile isWhiteSpace)

/-- A text without a word at its front, if it begins with that. -/
def dropFront? (word s : List Char) : Option (List Char) :=
  if word.isPrefixOf s then some (s.drop word.length) else none

/-- A text without a word at its end, if it ends with that. -/
def dropEnd? (word s : List Char) : Option (List Char) :=
  if word.isSuffixOf s then some (s.take (s.length - word.length)) else none

end SqlStream.Text
