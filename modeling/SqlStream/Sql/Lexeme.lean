import SqlStream.Sql.Token

/-!
# Lexemes

A text is cut into *lexemes*: blanks, comments and tokens. Nothing is left out, so the texts of the
lexemes put together give the text back (`flatten_lexemes`); the tokens are the lexemes that are
neither blank nor comment.

The lexeme at the front of a text is found by its class, which its first few characters decide, and
by its length, counted by one scanner per class.
-/

namespace SqlStream.Sql

open SqlStream.Text

/-! ## Characters of words -/

/-- Characters that can begin a bare word. -/
def isWordStart (c : Char) : Bool :=
  c.isAlpha || c = '_' || isWide c

/-- Characters that can go on in a bare word or in the name of a placeholder. -/
def isWordChar (c : Char) : Bool :=
  c.isAlphanum || c = '_' || c = '$' || isWide c

/-! ## Scanners

Each scanner counts the characters that belong to a lexeme behind those already seen. -/

/-- Counts through the closing quote, or to the end of the text if there is none. With `doubled`, a
quote written twice stands for itself and does not close. -/
def quotedLength (close : Char) (doubled : Bool) (s : List Char) : Nat :=
  go s 0
where
  go : List Char → Nat → Nat
    | [], n => n
    | c :: cs, n =>
      if c = close then
        match cs with
        | [] => n + 1
        | d :: ds => if doubled && d = close then go ds (n + 2) else n + 1
      else go cs (n + 1)

/-- Counts through the end mark of a block comment, if the text has one. -/
def commentLength? (s : List Char) : Option Nat :=
  go s 0
where
  go : List Char → Nat → Option Nat
    | [], _ => none
    | '*' :: '/' :: _, n => some (n + 2)
    | _ :: cs, n => go cs (n + 1)

/-- Counts an exponent: `e` or `E`, a sign or none, and at least one digit. -/
def exponentLength : List Char → Nat
  | [] => 0
  | c :: cs =>
    if c = 'e' || c = 'E' then
      let sign := if cs.head? = some '+' || cs.head? = some '-' then 1 else 0
      let digits := countWhile Char.isDigit (cs.drop sign)
      if digits = 0 then 0 else 1 + sign + digits
    else 0

/-- Counts the digits behind a decimal point and an exponent. -/
def fractionLength (s : List Char) : Nat :=
  let digits := countWhile Char.isDigit s
  digits + exponentLength (s.drop digits)

/-- Counts what follows the first character `c` of a number, which is a digit or a decimal point. -/
def numberLength (c : Char) (cs : List Char) : Nat :=
  if c = '.' then fractionLength cs
  else if c = '0' && (cs.head? = some 'x' || cs.head? = some 'X') then
    1 + countWhile isHexDigit cs.tail
  else
    let digits := countWhile Char.isDigit cs
    match cs.drop digits with
    | '.' :: rest => digits + 1 + fractionLength rest
    | rest => digits + exponentLength rest

/-- Counts the characters of a name in which `::` may join words. -/
def joinedNameLength (s : List Char) : Nat :=
  go s 0
where
  go : List Char → Nat → Nat
    | [], n => n
    | c :: cs, n =>
      if isWordChar c then go cs (n + 1)
      else match c, cs with
        | ':', ':' :: rest => go rest (n + 2)
        | _, _ => n

/-- Counts a suffix in parentheses; nothing if the parenthesis is never closed. -/
def suffixLength : List Char → Nat
  | '(' :: rest =>
    let inside := countWhile (fun c => c != ')') rest
    if inside < rest.length then inside + 2 else 0
  | _ => 0

/-- Counts what follows the `$` of a placeholder: a joined name and a suffix in parentheses. -/
def dollarNameLength (s : List Char) : Nat :=
  let name := joinedNameLength s
  name + suffixLength (s.drop name)

/-! ## The lexeme at the front of a text -/

/-- What a lexeme is. -/
inductive LexemeKind where
  | blank
  /-- Two hyphens and all up to the end of the line. -/
  | lineComment
  /-- A block comment with its end mark. -/
  | blockComment
  | token (kind : TokenKind)
  deriving DecidableEq, Repr

/-- A stretch of the text and what it is. -/
structure Lexeme where
  kind : LexemeKind
  text : List Char
  deriving DecidableEq, Repr

/-- True if a predicate holds of the first character of a text. -/
def startsWith (p : Char → Bool) (s : List Char) : Bool :=
  s.head?.any p

/-- The class of the token that begins with `c` and goes on in `cs`, and how many characters of `cs`
belong to it. -/
def classifyToken (c : Char) (cs : List Char) : TokenKind × Nat :=
  if c = ';' then (.semicolon, 0)
  else if c = '\'' then (.stringLiteral, quotedLength '\'' true cs)
  else if c = '"' || c = '\x60' then (.identifier, quotedLength c true cs)
  else if c = '[' then (.identifier, quotedLength ']' false cs)
  else if (c = 'x' || c = 'X') && startsWith (fun d => d = '\'') cs then
    (.blobLiteral, 1 + quotedLength '\'' false cs.tail)
  else if c.isDigit || (c = '.' && startsWith Char.isDigit cs) then
    (.numericLiteral, numberLength c cs)
  else if c = '?' then (.parameter, countWhile Char.isDigit cs)
  else if (c = ':' || c = '@' || c = '#') && startsWith isWordChar cs then
    (.parameter, countWhile isWordChar cs)
  else if c = '$' && startsWith isWordChar cs then (.parameter, dollarNameLength cs)
  else if isWordStart c then
    let length := countWhile isWordChar cs
    (.ofWord (c :: cs.take length), length)
  else (.operator, 0)

/-- The class of the lexeme that begins with `c` and goes on in `cs`, and how many characters of
`cs` belong to it. -/
def classify (c : Char) (cs : List Char) : LexemeKind × Nat :=
  if isBlank c then (.blank, 0)
  else if c = '-' && startsWith (fun d => d = '-') cs then
    (.lineComment, countWhile (fun d => d != '\n') cs)
  else if c = '/' && startsWith (fun d => d = '*') cs then
    match commentLength? cs.tail with
    | some length => (.blockComment, 1 + length)
    | none => (.token .unterminatedComment, cs.length)
  else
    let front := classifyToken c cs
    (.token front.1, front.2)

/-- The lexemes of a text, in order. -/
def lexemes (s : List Char) : List Lexeme :=
  (go s []).reverse
where
  go (s : List Char) (found : List Lexeme) : List Lexeme :=
    match s with
    | [] => found
    | c :: cs =>
      let front := classify c cs
      go (cs.drop front.2) (⟨front.1, c :: cs.take front.2⟩ :: found)
  termination_by s.length
  decreasing_by
    simp only [List.length_drop, List.length_cons]
    omega

/-- The class of a token among the lexemes; `none` for blanks and complete comments. -/
def Lexeme.tokenKind? (lexeme : Lexeme) : Option TokenKind :=
  match lexeme.kind with
  | .token kind => some kind
  | _ => none

/-- The number of bytes of a text in UTF-8. -/
def byteLength (s : List Char) : Nat :=
  s.foldl (fun n c => n + c.utf8Size) 0

/-- The tokens among the lexemes of a text that starts at byte `offset`. -/
def tokensFrom (offset : Nat) (xs : List Lexeme) : List Token :=
  (go offset xs []).reverse
where
  go : Nat → List Lexeme → List Token → List Token
    | _, [], found => found
    | offset, x :: xs, found =>
      let next := offset + byteLength x.text
      match x.tokenKind? with
      | some kind => go next xs (⟨kind, offset, String.ofList x.text⟩ :: found)
      | none => go next xs found

/-- The tokens of a text. -/
def tokens (sql : String) : List Token :=
  tokensFrom 0 (lexemes sql.toList)

/-! ## Lexemes tile the text -/

/-- The lexemes found are put behind those found before. -/
theorem lexemes_go (s : List Char) (found : List Lexeme) :
    lexemes.go s found = (lexemes s).reverse ++ found := by
  suffices h : ∀ n, ∀ s : List Char, s.length ≤ n →
      ∀ found, lexemes.go s found = lexemes.go s [] ++ found by
    simpa [lexemes] using h s.length s (Nat.le_refl _) found
  intro n
  induction n with
  | zero =>
    intro s hs found
    have : s = [] := List.eq_nil_of_length_eq_zero (by omega)
    subst this
    simp [lexemes.go]
  | succ n ih =>
    intro s hs found
    cases s with
    | nil => simp [lexemes.go]
    | cons c cs =>
      have hlen : (cs.drop (classify c cs).2).length ≤ n := by
        simp at hs ⊢
        omega
      rw [lexemes.go, lexemes.go]
      rw [ih _ hlen, ih _ hlen [_]]
      simp

@[simp] theorem lexemes_nil : lexemes [] = [] := by
  simp [lexemes, lexemes.go]

/-- A text begins with the lexeme of its first character. -/
theorem lexemes_cons (c : Char) (cs : List Char) :
    lexemes (c :: cs) =
      ⟨(classify c cs).1, c :: cs.take (classify c cs).2⟩ ::
        lexemes (cs.drop (classify c cs).2) := by
  rw [lexemes, lexemes.go]
  simp [lexemes_go]

/-- The texts of the lexemes put together are the text. -/
theorem flatten_lexemes (s : List Char) : ((lexemes s).map Lexeme.text).flatten = s := by
  suffices h : ∀ n, ∀ s : List Char, s.length ≤ n → ((lexemes s).map Lexeme.text).flatten = s from
    h s.length s (Nat.le_refl _)
  intro n
  induction n with
  | zero =>
    intro s hs
    have : s = [] := List.eq_nil_of_length_eq_zero (by omega)
    subst this
    simp
  | succ n ih =>
    intro s hs
    cases s with
    | nil => simp
    | cons c cs =>
      have hlen : (cs.drop (classify c cs).2).length ≤ n := by
        simp at hs ⊢
        omega
      simp [lexemes_cons, ih _ hlen]

end SqlStream.Sql
