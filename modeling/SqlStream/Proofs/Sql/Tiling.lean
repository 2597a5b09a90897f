import SqlStream.Proofs.Sql.Bytewise
import SqlStream.Proofs.Sql.PlainScripts
import SqlStream.Proofs.Sql.Relexing

/-!
# Tokens tile a text

Tokens follow each other without touching more than their ends, each holds at least one byte, and
what is between them are blanks and comments. A text is sliced at the ends of tokens, at the ends of
statements, and at a few offsets inside a lexeme while it is read (`slicesAt`); a character begins
at each of these, so no slice can fail.
-/

namespace SqlStream.Sql

open SqlStream.Text

/-! ## Slices -/

/-- A text can be sliced between places, in their order, and nowhere else. -/
def IsSlice (sql : String) (start stop : Nat) : Prop :=
  start ≤ stop ∧ IsPlace sql start ∧ IsPlace sql stop

/-- A stretch of a text is a slice of it. -/
theorem Span.LiesIn.isSlice {sql : String} {span : Span} (h : span.LiesIn sql) :
    IsSlice sql span.start span.stop := by
  obtain ⟨before, behind, rfl, hstart⟩ := h
  refine ⟨Nat.le_add_right _ _, ?_, ?_⟩
  · exact String.Pos.Raw.isValid_iff_exists_append.mpr
      ⟨before, span.text ++ behind, String.append_assoc, congrArg String.Pos.Raw.mk hstart.symm⟩
  · refine String.Pos.Raw.isValid_iff_exists_append.mpr ⟨before ++ span.text, behind, rfl, ?_⟩
    rw [Span.stop, ← hstart, ← String.utf8ByteSize_append]
    rfl

/-- The text of lexemes lies where they stand. -/
theorem liesIn_of_texts {sql : String} {s text t : List Char} (h : sql.toList = s ++ text ++ t) :
    (⟨byteLength s, String.ofList text⟩ : Span).LiesIn sql := by
  refine ⟨String.ofList s, String.ofList t, ?_, utf8ByteSize_ofList s⟩
  rw [← String.ofList_append, ← String.ofList_append, ← h, String.ofList_toList]

/-! ## Blanks and comments -/

/-- Text between tokens: a blank, a comment without the end of a line, or a block comment that ends
at its first end mark. -/
inductive IsTrivia : List Char → Prop where
  | blank {c : Char} : isBlank c = true → IsTrivia [c]
  | lineComment {body : List Char} : '\n' ∉ body → IsTrivia ('-' :: '-' :: body)
  | blockComment {body : List Char} : ¬ ['*', '/'] <:+: body ++ ['*'] →
      IsTrivia ('/' :: '*' :: body ++ ['*', '/'])

/-- No end mark begins at the last `*` of a text, and none begins where a comment goes on. -/
theorem not_endMark_infix_cons {c : Char} {body : List Char} (rest : List Char)
    (hmark : ¬(c = '*' && startsWith (fun d => d = '/') (body ++ ['*', '/'] ++ rest)) = true)
    (hbody : ¬ ['*', '/'] <:+: body ++ ['*']) : ¬ ['*', '/'] <:+: c :: body ++ ['*'] := by
  rw [List.cons_append, List.infix_cons_iff, not_or]
  refine ⟨fun hprefix => ?_, hbody⟩
  rw [List.cons_prefix_cons] at hprefix
  obtain ⟨rfl, hslash⟩ := hprefix
  cases body with
  | nil => simp at hslash
  | cons d body =>
    rw [List.cons_append, List.cons_prefix_cons] at hslash
    obtain ⟨rfl, -⟩ := hslash
    exact hmark rfl

/-- A comment is counted up to its first end mark. -/
theorem take_commentLength? {s : List Char} {n : Nat} (h : commentLength? s = some n) :
    ∃ body, s.take n = body ++ ['*', '/'] ∧ ¬ ['*', '/'] <:+: body ++ ['*'] := by
  induction s generalizing n with
  | nil => cases h
  | cons c s ih =>
    rw [commentLength?_cons] at h
    split at h
    · rename_i hmark
      cases h
      cases s with
      | nil => simp at hmark
      | cons d s =>
        simp only [startsWith_cons, Bool.and_eq_true, decide_eq_true_eq] at hmark
        obtain ⟨rfl, rfl⟩ := hmark
        exact ⟨[], rfl, by decide⟩
    · rename_i hmark
      obtain ⟨m, hm, rfl⟩ := Option.map_eq_some_iff.mp h
      obtain ⟨body, hbody, hfirst⟩ := ih hm
      refine ⟨c :: body, ?_, not_endMark_infix_cons (s.drop m) ?_ hfirst⟩
      · rw [Nat.add_comm 1 m, List.take_succ_cons, hbody, List.cons_append]
      · rwa [← hbody, List.take_append_drop]

/-- A line comment goes up to the end of its line. -/
theorem isTrivia_lineComment {cs : List Char} (h : startsWith (fun d => d = '-') cs = true) :
    IsTrivia ('-' :: cs.take (countWhile (fun d => d != '\n') cs)) := by
  cases cs with
  | nil => simp at h
  | cons d cs =>
    obtain rfl : d = '-' := by simpa using h
    rw [take_countWhile, List.takeWhile_cons_of_pos (by decide)]
    refine .lineComment fun hmem => ?_
    exact absurd (List.all_eq_true.mp List.all_takeWhile _ hmem) (by simp)

/-- A block comment that is no token goes up to its first end mark. -/
theorem isTrivia_blockComment {cs : List Char} (h : startsWith (fun d => d = '*') cs = true)
    (hclosed : ∀ kind, (blockCommentEnd cs).1 ≠ .token kind) :
    IsTrivia ('/' :: cs.take (blockCommentEnd cs).2) := by
  cases cs with
  | nil => simp at h
  | cons d cs =>
    obtain rfl : d = '*' := by simpa using h
    rw [blockCommentEnd, List.tail_cons] at hclosed ⊢
    cases hend : commentLength? cs with
    | none =>
      rw [hend] at hclosed
      exact absurd rfl (hclosed .unterminatedComment)
    | some n =>
      obtain ⟨body, hbody, hfirst⟩ := take_commentLength? hend
      show IsTrivia ('/' :: ('*' :: cs).take (1 + n))
      rw [Nat.add_comm 1 n, List.take_succ_cons, hbody]
      exact .blockComment hfirst

theorem isTrivia_of_classify {c : Char} {cs : List Char}
    (h : ∀ kind, (classify c cs).1 ≠ .token kind) : IsTrivia (c :: cs.take (classify c cs).2) := by
  rw [classify_eq] at h ⊢
  split at h
  · next hblank =>
    rw [if_pos hblank]
    exact .blank hblank
  · next hblank =>
    rw [if_neg hblank]
    split at h
    · next hline =>
      rw [if_pos hline]
      rw [Bool.and_eq_true, decide_eq_true_eq] at hline
      obtain ⟨rfl, hline⟩ := hline
      exact isTrivia_lineComment hline
    · next hline =>
      rw [if_neg hline]
      split at h
      · next hblock =>
        rw [if_pos hblock]
        rw [Bool.and_eq_true, decide_eq_true_eq] at hblock
        obtain ⟨rfl, hblock⟩ := hblock
        exact isTrivia_blockComment hblock h
      · exact absurd rfl (h _)

/-- A lexeme that is no token is a blank or a comment. -/
theorem isTrivia_of_lexemes {s : List Char} {pre post : List Lexeme} {x : Lexeme}
    (h : lexemes s = pre ++ x :: post) (hx : x.tokenKind? = none) : IsTrivia x.text := by
  obtain ⟨c, cs, -, rfl, -⟩ := lexemes_eq_cons (lexemes_texts_suffix h)
  refine isTrivia_of_classify fun kind hkind => ?_
  rw [Lexeme.tokenKind?, hkind] at hx
  cases hx

/-! ## Tiles -/

/-- Tokens that tile a text, with blanks and comments between them. -/
structure Tiles (sql : String) (found : List Token) : Prop where
  length_le : found.length ≤ sql.utf8ByteSize
  ordered : found.Pairwise fun token next => token.stop ≤ next.start
  proper : ∀ token ∈ found, token.start < token.stop ∧
    (⟨token.start, token.text⟩ : Span).LiesIn sql
  /-- Every byte is in a token, or in a blank or a comment that shares no byte with a token. -/
  between : ∀ offset < sql.utf8ByteSize,
    (∃ token ∈ found, token.start ≤ offset ∧ offset < token.stop) ∨
    ∃ span : Span, span.LiesIn sql ∧ span.start ≤ offset ∧ offset < span.stop ∧
      IsTrivia span.text.toList ∧ ∀ token ∈ found, token.stop ≤ span.start ∨ span.stop ≤ token.start
  openLast : ∀ before token behind, found = before ++ token :: behind →
    token.kind = .unterminatedComment → behind = [] ∧ token.stop = sql.utf8ByteSize

theorem length_tokensFrom_le (offset : Nat) {xs : List Lexeme} (hne : ∀ x ∈ xs, x.text ≠ []) :
    (tokensFrom offset xs).length ≤ byteLength (texts xs) := by
  induction xs generalizing offset with
  | nil => exact Nat.le_refl 0
  | cons x xs ih =>
    rw [List.forall_mem_cons] at hne
    have hx := byteLength_pos hne.1
    have hrest := ih (offset + byteLength x.text) hne.2
    have hone : (x.tokenAt? offset).toList.length ≤ 1 := by
      cases x.tokenAt? offset <;> simp
    rw [tokensFrom_cons, List.length_append, texts_cons, byteLength_append]
    omega

/-- A token stops before the next one starts. -/
theorem pairwise_tokensFrom (offset : Nat) (xs : List Lexeme) :
    (tokensFrom offset xs).Pairwise fun token next => token.stop ≤ next.start := by
  induction xs generalizing offset with
  | nil => exact .nil
  | cons x xs ih =>
    rw [tokensFrom_cons]
    refine List.pairwise_append.mpr ⟨?_, ih _, ?_⟩
    · cases x.tokenAt? offset with
      | none => exact .nil
      | some token => exact List.pairwise_singleton _ _
    · intro token htoken next hnext
      have hstop := (Lexeme.tokenAt?_eq_some (Option.mem_toList.mp htoken)).2.2
      have hstart := (bounds_of_mem_tokensFrom hnext).1
      omega

/-- Every byte of lexemes is in one of them. -/
theorem exists_lexeme_of_lt {xs : List Lexeme} {offset : Nat} (h : offset < byteLength (texts xs)) :
    ∃ pre x post, xs = pre ++ x :: post ∧ byteLength (texts pre) ≤ offset ∧
      offset < byteLength (texts pre) + byteLength x.text := by
  induction xs generalizing offset with
  | nil => exact absurd h (Nat.not_lt_zero offset)
  | cons x xs ih =>
    by_cases hx : offset < byteLength x.text
    · exact ⟨[], x, xs, rfl, Nat.zero_le offset, by simpa using hx⟩
    · rw [texts_cons, byteLength_append] at h
      have hrest : offset - byteLength x.text < byteLength (texts xs) := by omega
      obtain ⟨pre, y, post, rfl, hle, hlt⟩ := ih hrest
      refine ⟨x :: pre, y, post, rfl, ?_, ?_⟩
      · rw [texts_cons, byteLength_append]
        omega
      · rw [texts_cons, byteLength_append]
        omega

/-- A lexeme of a text lies in it. -/
theorem liesIn_of_lexemes {sql : String} {pre post : List Lexeme} {x : Lexeme}
    (h : lexemes sql.toList = pre ++ x :: post) :
    (⟨byteLength (texts pre), String.ofList x.text⟩ : Span).LiesIn sql := by
  refine liesIn_of_texts (t := texts post) ?_
  rw [← texts_lexemes sql.toList, h, texts_append, texts_cons, List.append_assoc]

/-- The tokens of a text beside one of its lexemes that is no token. -/
theorem beside_of_mem_tokens {sql : String} {pre post : List Lexeme} {x : Lexeme}
    (h : lexemes sql.toList = pre ++ x :: post) (hx : x.tokenKind? = none) {token : Token}
    (hmem : token ∈ tokens sql) : token.stop ≤ byteLength (texts pre) ∨
      byteLength (texts pre) + byteLength x.text ≤ token.start := by
  rw [tokens, h, tokensFrom_append, tokensFrom_cons, Lexeme.tokenAt?, hx, Option.map_none,
    Option.toList_none, List.nil_append, List.mem_append] at hmem
  rcases hmem with hfront | hbehind
  · have hstop := (bounds_of_mem_tokensFrom hfront).2
    rw [Nat.zero_add] at hstop
    exact .inl hstop
  · have hstart := (bounds_of_mem_tokensFrom hbehind).1
    rw [Nat.zero_add] at hstart
    exact .inr hstart

theorem utf8ByteSize_eq_texts (sql : String) :
    sql.utf8ByteSize = byteLength (texts (lexemes sql.toList)) := by
  rw [texts_lexemes, ← utf8ByteSize_ofList, String.ofList_toList]

/-- The tokens of a text tile it. -/
theorem tiles_tokens (sql : String) : Tiles sql (tokens sql) where
  length_le := by
    rw [utf8ByteSize_eq_texts]
    exact length_tokensFrom_le 0 (relexes_lexemes sql.toList).text_ne_nil
  ordered := pairwise_tokensFrom 0 _
  proper token hmem := by
    refine ⟨start_lt_stop_of_mem_tokensFrom (relexes_lexemes sql.toList).text_ne_nil hmem, ?_⟩
    obtain ⟨pre, x, post, hxs, hx⟩ := exists_lexeme_of_mem_tokensFrom hmem
    obtain ⟨kind, -, rfl⟩ := Option.map_eq_some_iff.mp hx
    rw [Nat.zero_add]
    exact liesIn_of_lexemes hxs
  between offset hlt := by
    rw [utf8ByteSize_eq_texts] at hlt
    obtain ⟨pre, x, post, hxs, hle, hlt⟩ := exists_lexeme_of_lt hlt
    rw [← utf8ByteSize_ofList x.text] at hlt
    cases hx : x.tokenKind? with
    | some kind =>
      refine .inl ⟨⟨kind, byteLength (texts pre), String.ofList x.text⟩, ?_, hle, hlt⟩
      rw [tokens, hxs]
      exact mem_tokensFrom_of_tokenAt? pre post (by simp [Lexeme.tokenAt?, hx])
    | none =>
      have htrivia : IsTrivia (String.ofList x.text).toList := by
        rw [String.toList_ofList]
        exact isTrivia_of_lexemes hxs hx
      refine .inr ⟨⟨byteLength (texts pre), String.ofList x.text⟩, liesIn_of_lexemes hxs, hle, hlt,
        htrivia, fun token hmem => ?_⟩
      rw [Span.stop, utf8ByteSize_ofList]
      exact beside_of_mem_tokens hxs hx hmem
  openLast before token behind heq hkind := by
    obtain ⟨pre, x, post, hxs, hx, hbehind⟩ := exists_lexeme_of_tokensFrom_eq heq
    obtain ⟨hxkind, -, hstop⟩ := Lexeme.tokenAt?_eq_some hx
    obtain rfl : post = [] :=
      lexemes_unterminatedComment_last hxs
        (Lexeme.kind_eq_of_tokenKind? (by rw [hxkind, hkind]))
    refine ⟨hbehind, ?_⟩
    rw [hstop, utf8ByteSize_eq_texts, hxs]
    simp

/-! ## Slices inside lexemes -/

/-- The slices that are taken to read the lexeme at the front of a text, from `c` on: what follows
the mark of a block comment, what follows the name of a placeholder up to its parenthesis, and a
word. -/
def slicesAt (c : Char) (cs : List Char) : List (Nat × Nat) :=
  if c = '/' && startsWith (fun d => d = '*') cs then [(2, 1 + cs.length)]
  else if c = '$' && startsWith isWordChar cs then
    if startsWith (fun d => d = '(') (cs.drop (joinedNameLength cs)) then
      [(1 + joinedNameLength cs, 1 + cs.length)]
    else []
  else if (c = 'x' || c = 'X') && startsWith (fun d => d = '\'') cs then []
  else if isWordStart c then [(0, 1 + countWhile isWordChar cs)]
  else []

/-- The slices that are taken to read a lexeme in front of a text, from an offset on. -/
def Lexeme.slices (offset : Nat) (x : Lexeme) (behind : List Char) : List (Nat × Nat) :=
  match x.text with
  | [] => []
  | c :: rest =>
    (slicesAt c (rest ++ behind)).map fun slice => (offset + slice.1, offset + slice.2)

/-- The slices that are taken to read lexemes that start at an offset. -/
def slicesFrom (offset : Nat) : List Lexeme → List (Nat × Nat)
  | [] => []
  | x :: xs => x.slices offset (texts xs) ++ slicesFrom (offset + x.text.length) xs

/-- The slices that are taken to read a text, by its bytes. -/
def slices (sql : String) : List (Nat × Nat) :=
  slicesFrom 0 (lexemes (storedBytes sql))

/-- A slice does not stop in front of where it starts. -/
theorem slicesAt_le {c : Char} {cs : List Char} {slice : Nat × Nat}
    (h : slice ∈ slicesAt c cs) : slice.1 ≤ slice.2 := by
  have hname : joinedNameLength cs ≤ cs.length := local_joinedNameLength.length_le cs rfl
  unfold slicesAt at h
  split at h
  · rename_i hblock
    cases cs with
    | nil => simp at hblock
    | cons d cs =>
      obtain rfl := List.mem_singleton.mp h
      simp only [List.length_cons]
      omega
  · split at h
    · split at h
      · obtain rfl := List.mem_singleton.mp h
        simp only
        omega
      · cases h
    · split at h
      · cases h
      · split at h
        · obtain rfl := List.mem_singleton.mp h
          exact Nat.zero_le _
        · cases h

theorem slicesAt_of_isWide {c : Char} (hc : isWide c = true) (cs : List Char) :
    slicesAt c cs = [(0, 1 + countWhile isWordChar cs)] := by
  have hne : ∀ {d}, isWide d = false → c ≠ d := ne_of_isWide hc
  simp [slicesAt, hne (d := '/') rfl, hne (d := '$') rfl, hne (d := 'x') rfl, hne (d := 'X') rfl,
    broad_isWordStart c hc]

/-- Slices of a text from one of its characters to another, by bytes. -/
def byteSlices (s : List Char) (slices : List (Nat × Nat)) : List (Nat × Nat) :=
  slices.map fun slice => (byteLength (s.take slice.1), byteLength (s.take slice.2))

/-- A word that begins with a character outside ASCII. -/
theorem slicesAt_bytesOf_of_isWide {c b : Char} {bs : List Char} (hc : isWide c = true)
    (hbytes : bytesOfChar c = b :: bs) (s : List Char) :
    slicesAt b (bs ++ bytesOf s) = byteSlices (c :: s) (slicesAt c s) := by
  have hall : ∀ d ∈ b :: bs, isWide d = true := fun d hd =>
    isWide_of_mem_bytesOfChar hc (hbytes ▸ hd)
  have hbs : ∀ d ∈ bs, isWordChar d = true := fun d hd =>
    broad_isWordChar d (hall d (List.mem_cons_of_mem b hd))
  have hlength : c.utf8Size = 1 + bs.length := by
    rw [← length_bytesOfChar, hbytes, List.length_cons, Nat.add_comm]
  rw [slicesAt_of_isWide (hall b List.mem_cons_self), slicesAt_of_isWide hc,
    (countsPairs_countWhile isWordChar).append hbs,
    bytewise_countWhile (.inl broad_isWordChar) s rfl, byteSlices, List.map_singleton,
    Nat.add_comm 1 (countWhile isWordChar s), List.take_succ_cons, byteLength_cons, hlength,
    Nat.add_assoc]
  rfl

/-- A lexeme that begins with a character of ASCII. -/
theorem slicesAt_bytesOf_of_not_isWide {c : Char} (hc : isWide c = false) (s : List Char) :
    slicesAt c (bytesOf s) = byteSlices (c :: s) (slicesAt c s) := by
  have hword := bytewise_countWhile (.inl broad_isWordChar) s rfl
  have hname := bytewise_joinedNameLength s rfl
  have hend : ∀ n, 1 + byteLength (s.take n) = byteLength ((c :: s).take (1 + n)) :=
    fun n => (byteLength_take_one_add hc s n).symm
  have hall : 1 + (bytesOf s).length = byteLength ((c :: s).take (1 + s.length)) := by
    rw [← hend, List.take_length, length_bytesOf]
  have hmark : startsWith (fun d => d = '(') ((bytesOf s).drop (joinedNameLength (bytesOf s))) =
      startsWith (fun d => d = '(') (s.drop (joinedNameLength s)) := by
    rw [hname, drop_bytesOf]
    exact bytewiseTest_startsWith (.inl (narrow_eq rfl)) _
  rw [slicesAt, slicesAt, hmark, hname, hword, hall, hend, hend,
    bytewiseTest_startsWith (.inl (narrow_eq rfl)) s,
    bytewiseTest_startsWith (.inr broad_isWordChar) s,
    bytewiseTest_startsWith (.inl (narrow_eq rfl)) s]
  split
  · next hblock =>
    cases s with
    | nil => simp at hblock
    | cons d s =>
      simp only [startsWith_cons, Bool.and_eq_true, decide_eq_true_eq] at hblock
      obtain ⟨-, rfl⟩ := hblock
      rw [byteSlices, List.map_singleton, ← hend 1, List.take_one]
      rfl
  · split
    · split
      · rfl
      · rfl
    · split
      · rfl
      · split
        · rfl
        · rfl

/-- Slices of the bytes are between the same characters as slices of the text. -/
theorem slicesAt_bytesOf {c b : Char} {bs : List Char} (hbytes : bytesOfChar c = b :: bs)
    (s : List Char) : slicesAt b (bs ++ bytesOf s) = byteSlices (c :: s) (slicesAt c s) := by
  cases hc : isWide c with
  | true => exact slicesAt_bytesOf_of_isWide hc hbytes s
  | false =>
    rw [bytesOfChar_of_not_isWide hc] at hbytes
    obtain ⟨rfl, rfl⟩ := List.cons.inj hbytes
    exact slicesAt_bytesOf_of_not_isWide hc s

/-- A text can be sliced between two of its characters. -/
theorem isSlice_take {sql : String} {before s : List Char} (h : sql.toList = before ++ s)
    {n m : Nat} (hle : n ≤ m) :
    IsSlice sql (byteLength before + byteLength (s.take n))
      (byteLength before + byteLength (s.take m)) := by
  have hfront : s.take n ++ (s.take m).drop n = s.take m := by
    have htake := List.take_append_drop n (s.take m)
    rwa [List.take_take, Nat.min_eq_left hle] at htake
  have hlies : (⟨byteLength (before ++ s.take n), String.ofList ((s.take m).drop n)⟩ : Span).LiesIn
      sql := by
    refine liesIn_of_texts (t := s.drop m) ?_
    rw [h, List.append_assoc before, hfront, List.append_assoc, List.take_append_drop]
  have hslice := hlies.isSlice
  rwa [Span.stop, utf8ByteSize_ofList, ← byteLength_append, List.append_assoc, hfront,
    byteLength_append, byteLength_append] at hslice

/-- All slices that are taken to read a text by its bytes can be taken. -/
theorem isSlice_of_mem_slicesFrom {sql : String} {before : List Char} {xs : List Lexeme}
    (h : sql.toList = before ++ texts xs) {slice : Nat × Nat}
    (hmem : slice ∈ slicesFrom (byteLength before) (xs.map Lexeme.bytes)) :
    IsSlice sql slice.1 slice.2 := by
  induction xs generalizing before with
  | nil => cases hmem
  | cons x xs ih =>
    have hrest : byteLength before + x.bytes.text.length = byteLength (before ++ x.text) := by
      rw [byteLength_append, Lexeme.bytes, length_bytesOf]
    rw [List.map_cons, slicesFrom, hrest, texts_bytes] at hmem
    rcases List.mem_append.mp hmem with hhere | hbehind
    · cases hx : x.text with
      | nil =>
        rw [Lexeme.slices, Lexeme.bytes, hx] at hhere
        cases hhere
      | cons c rest =>
        obtain ⟨b, bs, hbytes⟩ := exists_bytesOfChar_eq_cons c
        have htext : x.bytes.text = b :: (bs ++ bytesOf rest) := by
          rw [Lexeme.bytes, hx, bytesOf_cons, hbytes, List.cons_append]
        rw [Lexeme.slices, htext] at hhere
        simp only [List.append_assoc, ← bytesOf_append, slicesAt_bytesOf hbytes, byteSlices,
          List.map_map] at hhere
        obtain ⟨⟨n, m⟩, hnm, rfl⟩ := List.mem_map.mp hhere
        rw [texts_cons, hx] at h
        exact isSlice_take h (slicesAt_le hnm)
    · refine ih ?_ hbehind
      rw [h, texts_cons, List.append_assoc]

theorem isSlice_of_mem_slices {sql : String} {slice : Nat × Nat} (h : slice ∈ slices sql) :
    IsSlice sql slice.1 slice.2 := by
  rw [slices, storedBytes_eq, lexemes_bytesOf] at h
  have htext : sql.toList = [] ++ texts (lexemes sql.toList) := (texts_lexemes sql.toList).symm
  exact isSlice_of_mem_slicesFrom htext h

example : slices "é=$x(ü)" = [(0, 2), (5, 9)] := by decide +kernel

/-! ## Slices at tokens -/

/-- A statement of a script is sliced from the start of a token to the end of a token. -/
theorem exists_tokens_of_mem_splitStatements {sql statement : String}
    (h : statement ∈ (splitStatements sql).1) :
    ∃ first ∈ tokens sql, ∃ last ∈ tokens sql,
      (⟨first.start, statement⟩ : Span).LiesIn sql ∧
        first.start + statement.utf8ByteSize = last.stop := by
  obtain ⟨bodies, inTrigger, hsplits⟩ := exists_splits (openCommentLast_lexemes sql.toList)
  rw [hsplits.splitStatements_eq.1] at h
  obtain ⟨body, hmem, rfl⟩ := List.mem_map.mp h
  obtain ⟨hstatement, -, pre, post, hxs⟩ := hsplits.of_mem hmem
  have hown : ∀ token ∈ tokensFrom (byteLength (texts pre)) body, token ∈ tokens sql := by
    intro token htoken
    rw [tokens, hxs, tokensFrom_append, tokensFrom_append, Nat.zero_add]
    exact List.mem_append_left _ (List.mem_append_right _ htoken)
  obtain ⟨first, hfirst, hstart⟩ := hstatement.exists_start (byteLength (texts pre))
  obtain ⟨last, hlast, hstop⟩ := hstatement.exists_stop (byteLength (texts pre))
  refine ⟨first, hown first hfirst, last, hown last hlast, ?_, ?_⟩
  · rw [hstart, statementText]
    refine liesIn_of_texts (t := texts post) ?_
    rw [← texts_lexemes sql.toList, hxs, texts_append, texts_append]
  · rw [hstart, hstop, statementText, utf8ByteSize_ofList]

/-- A word is no placeholder. -/
theorem ofWord_ne_parameter (s : List Char) : TokenKind.ofWord s ≠ .parameter := by
  unfold TokenKind.ofWord
  split <;> exact TokenKind.noConfusion

/-- A placeholder begins with a character of ASCII, so its mark can be cut off. -/
theorem isPlace_one_of_parameter {sql : String} {token : Token} (h : token ∈ tokens sql)
    (hkind : token.kind = .parameter) : IsPlace token.text 1 := by
  obtain ⟨pre, x, post, hxs, hx⟩ := exists_lexeme_of_mem_tokensFrom h
  obtain ⟨c, cs, -, rfl, -⟩ := lexemes_eq_cons (lexemes_texts_suffix hxs)
  have hclass := Lexeme.kind_eq_of_tokenKind? (Lexeme.tokenAt?_eq_some hx).1
  obtain ⟨kind, -, rfl⟩ := Option.map_eq_some_iff.mp hx
  have hc : isWide c = false := by
    cases hc : isWide c with
    | false => rfl
    | true =>
      rw [hkind, classify_of_isWide hc] at hclass
      exact absurd (LexemeKind.token.inj hclass) (ofWord_ne_parameter _)
  have htext : (String.ofList (c :: cs.take (classify c cs).2)).toList =
      [c] ++ cs.take (classify c cs).2 := String.toList_ofList
  have hplace := isPlace_of_append htext
  rwa [byteLength_cons, utf8Size_of_not_isWide hc] at hplace

/-- The tokens of a text tile it, and reading it by its bytes finds the same tokens at the same
offsets. All slices can be taken: those inside lexemes while they are read, those of the statements,
from the start of a token to the end of a token, and those behind the marks of placeholders. -/
theorem tokens_tile (sql : String) :
    Tiles sql (tokens sql) ∧ byteSpans sql = (tokens sql).map Token.span ∧
      (∀ slice ∈ slices sql, IsSlice sql slice.1 slice.2) ∧
      (∀ token ∈ tokens sql, IsSlice sql token.start token.stop) ∧
      (∀ statement ∈ (splitStatements sql).1, ∃ first ∈ tokens sql, ∃ last ∈ tokens sql,
        IsSlice sql first.start last.stop ∧ (⟨first.start, statement⟩ : Span).LiesIn sql ∧
          first.start + statement.utf8ByteSize = last.stop) ∧
      ∀ token ∈ tokens sql, token.kind = .parameter → IsPlace token.text 1 := by
  have htiles := tiles_tokens sql
  refine ⟨htiles, byteSpans_eq sql, fun _ => isSlice_of_mem_slices, ?_, ?_, ?_⟩
  · intro token hmem
    exact (htiles.proper token hmem).2.isSlice
  · intro statement hmem
    obtain ⟨first, hfirst, last, hlast, hlies, hstop⟩ := exists_tokens_of_mem_splitStatements hmem
    refine ⟨first, hfirst, last, hlast, ?_, hlies, hstop⟩
    rw [← hstop]
    exact hlies.isSlice
  · exact fun token => isPlace_one_of_parameter

end SqlStream.Sql
