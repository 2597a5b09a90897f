import SqlStream.Binary64.Decimal
import SqlStream.Json.Basic
import SqlStream.Text.Digits

/-!
# Reading JSON text

A text is cut into *symbols* (punctuation, strings and other scalars), and the symbols are put
together by a machine whose state is the stack of arrays and objects that are open. Neither part
recurses on the depth of a value, so depth is no reason to refuse a text here.
-/

namespace SqlStream.Json

open SqlStream.Text

/-! ## Strings -/

/-- A string as far as it has been read. -/
structure Unescaped where
  /-- Its characters, last first. -/
  chars : List Char
  /-- The first half of a surrogate pair whose second half must follow. -/
  pending : Option Nat
  /-- No half of a pair has been met alone. -/
  readable : Bool

namespace Unescaped

/-- A string of which nothing has been read. -/
def start : Unescaped :=
  ⟨[], none, true⟩

/-- Adds a character. -/
def push (text : Unescaped) (c : Char) : Unescaped :=
  ⟨c :: text.chars, none, text.readable && text.pending.isNone⟩

/-- Adds a unit of UTF-16. -/
def pushUnit (text : Unescaped) (unit : Nat) : Unescaped :=
  if 0xD800 ≤ unit ∧ unit < 0xDC00 then
    ⟨text.chars, some unit, text.readable && text.pending.isNone⟩
  else if 0xDC00 ≤ unit ∧ unit < 0xE000 then
    match text.pending with
    | some first =>
      let code := 0x10000 + (first - 0xD800) * 0x400 + (unit - 0xDC00)
      ⟨Char.ofNat code :: text.chars, none, text.readable⟩
    | none => ⟨text.chars, none, false⟩
  else text.push (Char.ofNat unit)

/-- The string, if it is readable. -/
def string? (text : Unescaped) : Option String :=
  if text.readable && text.pending.isNone then some (String.ofList text.chars.reverse) else none

end Unescaped

/-- The value of a hexadecimal digit. -/
def hexDigit? (c : Char) : Option Nat :=
  if c.isDigit then some (c.toNat - '0'.toNat)
  else if 'a' ≤ c ∧ c ≤ 'f' then some (c.toNat - 'a'.toNat + 10)
  else if 'A' ≤ c ∧ c ≤ 'F' then some (c.toNat - 'A'.toNat + 10)
  else none

/-- The unit that four hexadecimal digits give. -/
def hexUnit? (a b c d : Char) : Option Nat := do
  let a ← hexDigit? a
  let b ← hexDigit? b
  let c ← hexDigit? c
  let d ← hexDigit? d
  return a * 4096 + b * 256 + c * 16 + d

/-- The character that a letter behind a backslash stands for. -/
def escaped? : Char → Option Char
  | '"' => some '"'
  | '\\' => some '\\'
  | '/' => some '/'
  | 'b' => some '\x08'
  | 'f' => some '\x0c'
  | 'n' => some '\n'
  | 'r' => some '\r'
  | 't' => some '\t'
  | _ => none

/-- Reads a string behind its opening quote: the string, `none` if it is unreadable, and what
follows the closing quote. Control characters may not stand in a string as they are. -/
def readString : Unescaped → List Char → Option (Option String × List Char)
  | text, '"' :: rest => some (text.string?, rest)
  | text, '\\' :: 'u' :: a :: b :: c :: d :: rest =>
    match hexUnit? a b c d with
    | some unit => readString (text.pushUnit unit) rest
    | none => none
  | text, '\\' :: c :: rest =>
    match escaped? c with
    | some d => readString (text.push d) rest
    | none => none
  | text, c :: rest => if c.toNat < 32 then none else readString (text.push c) rest
  | _, [] => none

/-! ## Numbers -/

/-- Puts digits behind a number as long as it stays in range; the number and the digits left. -/
def absorb : Nat → List Char → Nat × List Char
  | n, [] => (n, [])
  | n, c :: cs =>
    let next := n * 10 + digitValue c
    if next ≤ maxUInt64 then absorb next cs else (n, c :: cs)

/-- The parts of a number as it is written. -/
structure NumberParts where
  negative : Bool
  whole : List Char
  /-- The digits behind the point, if there is one. -/
  fraction : Option (List Char)
  exponent : Option Int

/-- The number with these parts. An integer is kept if it is in range. Otherwise as many leading
digits as fit 64 bits are the significand of a double; whole digits left over raise its exponent,
and digits of the fraction left over do not count. -/
def NumberParts.value (parts : NumberParts) : Json :=
  let whole := absorb 0 parts.whole
  let isInteger := parts.fraction.isNone && parts.exponent.isNone && whole.2.isEmpty
  if isInteger && !parts.negative then ofInt whole.1
  else if isInteger && whole.1 ≠ 0 && whole.1 ≤ maxInt64 + 1 then ofInt (-(whole.1 : Int))
  else
    let digits := parts.fraction.getD []
    let all := absorb whole.1 digits
    let absorbed := digits.length - all.2.length
    let exponent := (whole.2.length : Int) - (absorbed : Int) + parts.exponent.getD 0
    match Binary64.ofDecimal? parts.negative all.1 exponent with
    | some x => number (.float x)
    | none => unreadable

/-- Reads one digit or more. -/
def readDigitRun? (s : List Char) : Option (List Char × List Char) :=
  if (s.takeWhile Char.isDigit).isEmpty then none
  else some (s.takeWhile Char.isDigit, s.dropWhile Char.isDigit)

/-- Reads the digits in front of a point. A zero stands alone. -/
def readWhole? : List Char → Option (List Char × List Char)
  | '0' :: rest => if rest.head?.any Char.isDigit then none else some (['0'], rest)
  | s => readDigitRun? s

/-- Reads a point and the digits behind it, if a point follows. -/
def readFraction? : List Char → Option (Option (List Char) × List Char)
  | '.' :: rest => (readDigitRun? rest).map fun run => (some run.1, run.2)
  | rest => some (none, rest)

/-- Reads the digits of an exponent behind its sign. -/
def readExponentDigits? (negative : Bool) (s : List Char) : Option (Option Int × List Char) :=
  (readDigitRun? s).map fun run =>
    let n := digitsValue run.1
    (some (if negative then -(n : Int) else n), run.2)

/-- Reads an exponent, if one follows. -/
def readExponent? : List Char → Option (Option Int × List Char)
  | c :: rest =>
    if c = 'e' ∨ c = 'E' then
      match rest with
      | '-' :: digits => readExponentDigits? true digits
      | '+' :: digits => readExponentDigits? false digits
      | digits => readExponentDigits? false digits
    else some (none, c :: rest)
  | [] => some (none, [])

/-- Reads a minus sign, if one follows. -/
def readMinus : List Char → Bool × List Char
  | '-' :: rest => (true, rest)
  | rest => (false, rest)

/-- Reads a number and what follows it. -/
def readNumber? (s : List Char) : Option (Json × List Char) := do
  let whole ← readWhole? (readMinus s).2
  let fraction ← readFraction? whole.2
  let exponent ← readExponent? fraction.2
  return (NumberParts.value ⟨(readMinus s).1, whole.1, fraction.1, exponent.1⟩, exponent.2)

/-! ## Symbols -/

/-- A symbol of JSON text. -/
inductive Symbol where
  | openArray | closeArray | openObject | closeObject | comma | colon
  /-- A string, `none` if it is unreadable. -/
  | text (s : Option String)
  | scalar (value : Json)

/-- The blanks of JSON text: space, tab, line feed and carriage return. -/
def isSpace (c : Char) : Bool :=
  c = ' ' || c = '\t' || c = '\n' || c = '\r'

/-- Reads the symbol that begins with `c` and goes on in `cs`. -/
def readSymbol? (c : Char) (cs : List Char) : Option (Symbol × List Char) :=
  match c, cs with
  | '[', _ => some (.openArray, cs)
  | ']', _ => some (.closeArray, cs)
  | '\x7b', _ => some (.openObject, cs)
  | '\x7d', _ => some (.closeObject, cs)
  | ',', _ => some (.comma, cs)
  | ':', _ => some (.colon, cs)
  | 't', 'r' :: 'u' :: 'e' :: rest => some (.scalar (bool true), rest)
  | 'f', 'a' :: 'l' :: 's' :: 'e' :: rest => some (.scalar (bool false), rest)
  | 'n', 'u' :: 'l' :: 'l' :: rest => some (.scalar null, rest)
  | '"', _ => (readString .start cs).map fun (s, rest) => (.text s, rest)
  | _, _ => (readNumber? (c :: cs)).map fun (value, rest) => (.scalar value, rest)

/-! ### What a reader leaves is shorter -/

/-- To read a string takes characters, at least the quote at its end. -/
theorem length_readString {text : Unescaped} {s : List Char} {result : Option String × List Char}
    (h : readString text s = some result) : result.2.length < s.length := by
  fun_induction readString text s with
  | case1 =>
    simp only [Option.some.injEq] at h
    subst h
    simp
  | case2 text a b c d rest unit hunit ih =>
    have := ih h
    simp only [List.length_cons]
    omega
  | case3 => simp at h
  | case4 text c rest hc d hd ih =>
    have := ih h
    simp only [List.length_cons]
    omega
  | case5 => simp at h
  | case6 => simp at h
  | case7 text c rest _ _ _ hc ih =>
    have := ih h
    simp only [List.length_cons]
    omega
  | case8 => simp at h

/-- A run of digits has at least one. -/
theorem length_readDigitRun? {s : List Char} {run : List Char × List Char}
    (h : readDigitRun? s = some run) : run.2.length < s.length := by
  unfold readDigitRun? at h
  split at h
  · simp at h
  · rename_i hne
    simp only [Option.some.injEq] at h
    subst h
    have hs : (s.takeWhile Char.isDigit ++ s.dropWhile Char.isDigit).length = s.length := by
      rw [List.takeWhile_append_dropWhile]
    rw [List.length_append] at hs
    have : 0 < (s.takeWhile Char.isDigit).length := by
      cases ht : s.takeWhile Char.isDigit with
      | nil => simp [ht] at hne
      | cons => simp
    simp only
    omega

/-- So has the whole part of a number. -/
theorem length_readWhole? {s : List Char} {result : List Char × List Char}
    (h : readWhole? s = some result) : result.2.length < s.length := by
  unfold readWhole? at h
  split at h
  · split at h
    · simp at h
    · simp only [Option.some.injEq] at h
      subst h
      simp
  · exact length_readDigitRun? h

/-- A number may have no fraction, so reading one may take nothing. -/
theorem length_readFraction? {s : List Char} {result : Option (List Char) × List Char}
    (h : readFraction? s = some result) : result.2.length ≤ s.length := by
  unfold readFraction? at h
  split at h
  · obtain ⟨run, hrun, rfl⟩ := Option.map_eq_some_iff.1 h
    have := length_readDigitRun? hrun
    simp only [List.length_cons]
    omega
  · simp only [Option.some.injEq] at h
    subst h
    simp

/-- The digits of an exponent are taken from the front. -/
theorem length_readExponentDigits? {negative : Bool} {s : List Char}
    {result : Option Int × List Char} (h : readExponentDigits? negative s = some result) :
    result.2.length ≤ s.length := by
  obtain ⟨run, hrun, rfl⟩ := Option.map_eq_some_iff.1 h
  exact Nat.le_of_lt (length_readDigitRun? hrun)

/-- A number may have no exponent, so reading one may take nothing. -/
theorem length_readExponent? {s : List Char} {result : Option Int × List Char}
    (h : readExponent? s = some result) : result.2.length ≤ s.length := by
  unfold readExponent? at h
  split at h
  · split at h
    · split at h <;>
      · have := length_readExponentDigits? h
        simp only [List.length_cons] at this ⊢
        omega
    · simp only [Option.some.injEq] at h
      subst h
      simp
  · simp only [Option.some.injEq] at h
    subst h
    simp

/-- So may reading a sign. -/
theorem length_readMinus (s : List Char) : (readMinus s).2.length ≤ s.length := by
  unfold readMinus
  split <;> simp

/-- To read a number takes characters. -/
theorem length_readNumber? {s : List Char} {result : Json × List Char}
    (h : readNumber? s = some result) : result.2.length < s.length := by
  simp only [readNumber?, Option.bind_eq_bind, Option.bind_eq_some_iff, Option.pure_def,
    Option.some.injEq] at h
  obtain ⟨whole, hwhole, fraction, hfraction, exponent, hexponent, rfl⟩ := h
  have hw := length_readWhole? hwhole
  have hf := length_readFraction? hfraction
  have he := length_readExponent? hexponent
  have hs := length_readMinus s
  simp only
  omega

/-- A symbol is taken from the front, behind its first character. -/
theorem length_readSymbol? {c : Char} {cs : List Char} {result : Symbol × List Char}
    (h : readSymbol? c cs = some result) : result.2.length ≤ cs.length := by
  unfold readSymbol? at h
  split at h
  all_goals first
    | (simp only [Option.some.injEq] at h; subst h; simp; done)
    | (simp only [Option.some.injEq] at h; subst h; simp only [List.length_cons]; omega)
    | skip
  · obtain ⟨found, hfound, rfl⟩ := Option.map_eq_some_iff.1 h
    exact Nat.le_of_lt (length_readString hfound)
  · obtain ⟨found, hfound, rfl⟩ := Option.map_eq_some_iff.1 h
    exact Nat.le_of_lt_succ (length_readNumber? hfound)

/-- The symbols of a text, if all of it consists of symbols and blanks. -/
def symbols? (s : List Char) : Option (List Symbol) :=
  go s []
where
  go (s : List Char) (found : List Symbol) : Option (List Symbol) :=
    match s with
    | [] => some found.reverse
    | c :: cs =>
      if isSpace c then go cs found
      else
        match _ : readSymbol? c cs with
        | some result => go result.2 (result.1 :: found)
        | none => none
  termination_by s.length
  decreasing_by
    · simp
    · have := length_readSymbol? ‹_›
      simp only [List.length_cons]
      omega

/-! ## Values -/

/-- An array or object that is open. -/
inductive Open where
  /-- The items so far, last first. -/
  | array (items : List Json)
  /-- The members so far, last first, whether all names are readable, and the name of the member
  whose value comes next. -/
  | object (members : List (String × Json)) (readable : Bool) (name : String)

/-- What may come next. -/
inductive Expected where
  | value
  /-- A value, or the end of an array without items. -/
  | valueOrEnd
  | name
  /-- A name, or the end of an object without members. -/
  | nameOrEnd
  | colon
  /-- A value is complete; a comma or an end must follow if something is open. -/
  | next (complete : Json)

/-- The value that an object with these members, last first, denotes. -/
def ofMembers (members : List (String × Json)) (readable : Bool) : Json :=
  if readable then object members.reverse else unreadable

/-- Takes in a symbol that begins a value. -/
def beginValue? (stack : List Open) : Symbol → Option (Expected × List Open)
  | .scalar value => some (.next value, stack)
  | .text s => some (.next (s.elim unreadable string), stack)
  | .openArray => some (.valueOrEnd, .array [] :: stack)
  | .openObject => some (.nameOrEnd, .object [] true "" :: stack)
  | _ => none

/-- Takes in a symbol. -/
def takeSymbol? (state : Expected × List Open) (symbol : Symbol) :
    Option (Expected × List Open) :=
  match state.1, symbol, state.2 with
  | .valueOrEnd, .closeArray, .array _ :: stack => some (.next (array []), stack)
  | .valueOrEnd, _, stack | .value, _, stack => beginValue? stack symbol
  | .nameOrEnd, .closeObject, .object _ _ _ :: stack => some (.next (object []), stack)
  | .nameOrEnd, .text s, .object members readable _ :: stack
  | .name, .text s, .object members readable _ :: stack =>
    some (.colon, .object members (readable && s.isSome) (s.getD "") :: stack)
  | .colon, .colon, stack => some (.value, stack)
  | .next value, .comma, .array items :: stack => some (.value, .array (value :: items) :: stack)
  | .next value, .comma, .object members readable name :: stack =>
    some (.name, .object ((name, value) :: members) readable name :: stack)
  | .next value, .closeArray, .array items :: stack =>
    some (.next (array (value :: items).reverse), stack)
  | .next value, .closeObject, .object members readable name :: stack =>
    some (.next (ofMembers ((name, value) :: members) readable), stack)
  | _, _, _ => none

/-- The value that a sequence of symbols denotes. -/
def ofSymbols? (symbols : List Symbol) : Option Json := do
  match ← symbols.foldlM takeSymbol? (.value, []) with
  | (.next value, []) => some value
  | _ => none

/-- The value that a text denotes; `none` if the text is not grammatical. -/
def read? (text : String) : Option Json := do
  ofSymbols? (← symbols? text.toList)

/-- The value that a text denotes, if all its parts are readable and it is not too deep. -/
def readAll? (text : String) : Option Json := do
  let value ← read? text
  if value.readableWithin maxDepth then some value else none

end SqlStream.Json
