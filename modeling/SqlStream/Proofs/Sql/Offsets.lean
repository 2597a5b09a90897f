import SqlStream.Sql.Lexeme

/-!
# Byte offsets of tokens

Tokens carry the byte offset at which they start. The offsets of the tokens of a stretch of lexemes
depend on where the stretch starts alone: tokens of stretches side by side are those of each, and a
stretch that starts later has the same tokens, shifted.
-/

namespace SqlStream.Sql

/-! ## Bytes of texts -/

@[simp] theorem byteLength_nil : byteLength [] = 0 := rfl

theorem byteLength_foldl (s : List Char) (n : Nat) :
    s.foldl (fun n c => n + c.utf8Size) n = n + byteLength s := by
  unfold byteLength
  induction s generalizing n with
  | nil => rfl
  | cons c s ih => rw [List.foldl_cons, List.foldl_cons, ih, ih (0 + _)]; omega

@[simp] theorem byteLength_cons (c : Char) (s : List Char) :
    byteLength (c :: s) = c.utf8Size + byteLength s := by
  rw [byteLength, List.foldl_cons, byteLength_foldl, Nat.zero_add]

@[simp] theorem byteLength_append (s t : List Char) :
    byteLength (s ++ t) = byteLength s + byteLength t := by
  induction s with
  | nil => simp
  | cons c s ih => simp [ih, Nat.add_assoc]

/-- A text that is not empty has bytes. -/
theorem byteLength_pos {s : List Char} (h : s ≠ []) : 0 < byteLength s := by
  cases s with
  | nil => exact absurd rfl h
  | cons c s =>
    have := c.utf8Size_pos
    rw [byteLength_cons]
    omega

@[simp] theorem utf8ByteSize_ofList (s : List Char) :
    (String.ofList s).utf8ByteSize = byteLength s := by
  induction s with
  | nil => rfl
  | cons c s ih =>
    rw [← List.singleton_append, String.ofList_append, String.utf8ByteSize_append, ih,
      ← String.singleton_eq_ofList, String.utf8ByteSize_singleton, List.singleton_append,
      byteLength_cons]

/-! ## Tokens of lexemes -/

/-- The text of lexemes. -/
def texts (xs : List Lexeme) : List Char :=
  xs.flatMap Lexeme.text

@[simp] theorem texts_nil : texts [] = [] := rfl

@[simp] theorem texts_cons (x : Lexeme) (xs : List Lexeme) : texts (x :: xs) = x.text ++ texts xs :=
  rfl

@[simp] theorem texts_append (xs ys : List Lexeme) : texts (xs ++ ys) = texts xs ++ texts ys :=
  List.flatMap_append

/-- A lexeme with the class of a token is that token. -/
theorem Lexeme.kind_eq_of_tokenKind? {x : Lexeme} {kind : TokenKind}
    (h : x.tokenKind? = some kind) : x.kind = .token kind := by
  unfold Lexeme.tokenKind? at h
  split at h
  · next heq => rw [heq, Option.some.inj h]
  · cases h

/-- The token that a lexeme at a byte offset is, if it is one. -/
def Lexeme.tokenAt? (offset : Nat) (x : Lexeme) : Option Token :=
  x.tokenKind?.map fun kind => ⟨kind, offset, String.ofList x.text⟩

theorem tokensFrom_go (offset : Nat) (xs : List Lexeme) (found : List Token) :
    tokensFrom.go offset xs found = (tokensFrom offset xs).reverse ++ found := by
  suffices h : ∀ found, tokensFrom.go offset xs found = tokensFrom.go offset xs [] ++ found by
    rw [h, tokensFrom, List.reverse_reverse]
  induction xs generalizing offset with
  | nil => exact fun _ => rfl
  | cons x xs ih =>
    intro found
    simp only [tokensFrom.go]
    split
    · rw [ih, ih _ [_], List.append_assoc]
      rfl
    · exact ih _ found

@[simp] theorem tokensFrom_nil (offset : Nat) : tokensFrom offset [] = [] := rfl

theorem tokensFrom_cons (offset : Nat) (x : Lexeme) (xs : List Lexeme) :
    tokensFrom offset (x :: xs) =
      (x.tokenAt? offset).toList ++ tokensFrom (offset + byteLength x.text) xs := by
  rw [tokensFrom, tokensFrom.go, Lexeme.tokenAt?]
  cases x.tokenKind? with
  | none => exact congrArg List.reverse (by rw [tokensFrom_go, List.append_nil])
  | some kind =>
    simp only [tokensFrom_go, List.reverse_append, List.reverse_reverse]
    rfl

/-- The tokens of stretches side by side are those of each. -/
theorem tokensFrom_append (offset : Nat) (xs ys : List Lexeme) :
    tokensFrom offset (xs ++ ys) =
      tokensFrom offset xs ++ tokensFrom (offset + byteLength (texts xs)) ys := by
  induction xs generalizing offset with
  | nil => simp
  | cons x xs ih =>
    rw [List.cons_append, tokensFrom_cons, ih, tokensFrom_cons, texts_cons, byteLength_append,
      List.append_assoc, Nat.add_assoc]

/-- A token of a text, where the text stands `bytes` further on. -/
def Token.shift (bytes : Nat) (token : Token) : Token :=
  { token with start := bytes + token.start }

/-- A stretch that starts later has the same tokens, shifted. -/
theorem tokensFrom_add (bytes offset : Nat) (xs : List Lexeme) :
    tokensFrom (bytes + offset) xs = (tokensFrom offset xs).map (Token.shift bytes) := by
  induction xs generalizing offset with
  | nil => rfl
  | cons x xs ih =>
    rw [tokensFrom_cons, tokensFrom_cons, List.map_append, ← ih, Nat.add_assoc]
    congr 1
    cases h : x.tokenKind? <;> simp [Lexeme.tokenAt?, h, Token.shift]

/-- Every token of a stretch is one of its lexemes, and the tokens behind it are those of the
lexemes behind that one. -/
theorem exists_lexeme_of_tokensFrom_eq {offset : Nat} {xs : List Lexeme} {before behind : List Token}
    {token : Token} (h : tokensFrom offset xs = before ++ token :: behind) :
    ∃ pre x post, xs = pre ++ x :: post ∧
      x.tokenAt? (offset + byteLength (texts pre)) = some token ∧
      behind = tokensFrom (offset + byteLength (texts (pre ++ [x]))) post := by
  induction xs generalizing offset before with
  | nil => simp at h
  | cons x xs ih =>
    have hrest : ∀ {before'}, tokensFrom (offset + byteLength x.text) xs =
        before' ++ token :: behind → ∃ pre y post, x :: xs = pre ++ y :: post ∧
          y.tokenAt? (offset + byteLength (texts pre)) = some token ∧
          behind = tokensFrom (offset + byteLength (texts (pre ++ [y]))) post := by
      intro before' hxs
      obtain ⟨pre, y, post, rfl, hy, hbehind⟩ := ih hxs
      refine ⟨x :: pre, y, post, rfl, ?_, ?_⟩
      · rw [texts_cons, byteLength_append, ← Nat.add_assoc]
        exact hy
      · rw [List.cons_append, texts_cons, byteLength_append, ← Nat.add_assoc]
        exact hbehind
    rw [tokensFrom_cons] at h
    cases hx : x.tokenAt? offset with
    | none =>
      rw [hx] at h
      exact hrest h
    | some found =>
      rw [hx, Option.toList_some, List.singleton_append] at h
      cases before with
      | nil =>
        obtain ⟨rfl, hbehind⟩ := List.cons.inj h
        exact ⟨[], x, xs, rfl, hx, by simpa using hbehind.symm⟩
      | cons _ before => exact hrest (List.cons.inj h).2

/-- The tokens of a stretch are the lexemes that are tokens. -/
theorem exists_lexeme_of_mem_tokensFrom {offset : Nat} {xs : List Lexeme} {token : Token}
    (h : token ∈ tokensFrom offset xs) : ∃ pre x post, xs = pre ++ x :: post ∧
      x.tokenAt? (offset + byteLength (texts pre)) = some token := by
  obtain ⟨before, behind, heq⟩ := List.append_of_mem h
  obtain ⟨pre, x, post, hxs, hx, _⟩ := exists_lexeme_of_tokensFrom_eq heq
  exact ⟨pre, x, post, hxs, hx⟩

/-- A lexeme that is a token is among the tokens of its stretch. -/
theorem mem_tokensFrom_of_tokenAt? {offset : Nat} (pre post : List Lexeme) {x : Lexeme}
    {token : Token} (h : x.tokenAt? (offset + byteLength (texts pre)) = some token) :
    token ∈ tokensFrom offset (pre ++ x :: post) := by
  rw [tokensFrom_append, tokensFrom_cons, h]
  simp

/-- What is known of the lexeme that is a token. -/
theorem Lexeme.tokenAt?_eq_some {offset : Nat} {x : Lexeme} {token : Token}
    (h : x.tokenAt? offset = some token) :
    x.tokenKind? = some token.kind ∧ token.start = offset ∧
      token.stop = offset + byteLength x.text := by
  obtain ⟨kind, hkind, rfl⟩ := Option.map_eq_some_iff.mp h
  exact ⟨hkind, rfl, by simp [Token.stop]⟩

/-- The tokens of a stretch lie inside it. -/
theorem bounds_of_mem_tokensFrom {offset : Nat} {xs : List Lexeme} {token : Token}
    (h : token ∈ tokensFrom offset xs) :
    offset ≤ token.start ∧ token.stop ≤ offset + byteLength (texts xs) := by
  obtain ⟨pre, x, post, rfl, hx⟩ := exists_lexeme_of_mem_tokensFrom h
  obtain ⟨_, hstart, hstop⟩ := Lexeme.tokenAt?_eq_some hx
  simp only [texts_append, texts_cons, byteLength_append]
  omega

/-- Tokens are not empty where lexemes are not. -/
theorem start_lt_stop_of_mem_tokensFrom {offset : Nat} {xs : List Lexeme} {token : Token}
    (hne : ∀ x ∈ xs, x.text ≠ []) (h : token ∈ tokensFrom offset xs) : token.start < token.stop := by
  obtain ⟨pre, x, post, rfl, hx⟩ := exists_lexeme_of_mem_tokensFrom h
  obtain ⟨_, hstart, hstop⟩ := Lexeme.tokenAt?_eq_some hx
  have := byteLength_pos (hne x (by simp))
  omega

end SqlStream.Sql
