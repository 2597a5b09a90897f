import SqlStream.Proofs.Sql.Offsets

/-!
# Lexemes depend on nothing behind them

Scanners look ahead as far as they like: a quote for the one that closes it, a comment for its end
mark, a placeholder for the parenthesis that closes its suffix. `Local` says that a scanner counts
characters of its text alone and that what it finds is settled by the characters that it counts.
Every scanner of a lexeme is local (`local_classify`). So a stretch of lexemes of a text has the
same lexemes when it is read on its own (`lexemes_texts`), wherever the text is cut behind it.
-/

namespace SqlStream.Sql

open SqlStream.Text

/-! ## Local scanners -/

/-- In texts that pass a test, what a scanner finds covers `length` characters of the text, and it
finds the same in every prefix that holds these and passes the test. -/
structure LocalOn {β : Type} (test : List Char → Bool) (length : β → Nat)
    (scan : List Char → β) : Prop where
  length_le : ∀ s, test s = true → length (scan s) ≤ s.length
  settled : ∀ s t, test s = true → length (scan (s ++ t)) ≤ s.length → scan s = scan (s ++ t)

/-- A scanner that is local in every text. -/
abbrev Local {β : Type} (length : β → Nat) (scan : List Char → β) : Prop :=
  LocalOn (fun _ => true) length scan

/-- A test of a text that looks at the first character at most. On the empty text it is false unless
it is true of every text. -/
structure FrontTest (test : List Char → Bool) : Prop where
  cons : ∀ c s t, test (c :: s) = test (c :: t)
  nil : ∀ t, test [] = true → test t = true

/-- No class starts the empty text. -/
@[simp] theorem startsWith_nil (p : Char → Bool) : startsWith p [] = false := by
  simp [startsWith]

/-- A text starts with its first character. -/
@[simp] theorem startsWith_cons (p : Char → Bool) (c : Char) (cs : List Char) :
    startsWith p (c :: cs) = p c := by
  simp [startsWith]

/-- `startsWith` looks at the first character. -/
theorem frontTest_startsWith (p : Char → Bool) : FrontTest (startsWith p) where
  cons _ _ _ := by simp
  nil _ h := by simp at h

/-- A front test stays one where something else must hold too. -/
theorem FrontTest.and {test : List Char → Bool} (h : FrontTest test) (known : Bool) :
    FrontTest fun s => known && test s where
  cons c s t := by simp [h.cons c s t]
  nil t ht := by
    simp only [Bool.and_eq_true] at ht ⊢
    exact ⟨ht.1, h.nil t ht.2⟩

/-- A front test stays one where something else is enough too. -/
theorem FrontTest.or {test : List Char → Bool} (h : FrontTest test) (known : Bool) :
    FrontTest fun s => known || test s where
  cons c s t := by simp [h.cons c s t]
  nil t ht := by
    simp only [Bool.or_eq_true] at ht ⊢
    exact ht.imp id (h.nil t)

namespace LocalOn

variable {test : List Char → Bool}

/-- A scanner that is local in every text is so in those that pass a test. -/
theorem of_local {β : Type} {length : β → Nat} {f : List Char → β} (hf : Local length f) :
    LocalOn test length f where
  length_le s _ := hf.length_le s rfl
  settled s t _ h := hf.settled s t rfl h

/-- A scanner stays local where something else must hold too. -/
theorem and {β : Type} {length : β → Nat} {f : List Char → β} (hf : LocalOn test length f)
    (known : Bool) : LocalOn (fun s => known && test s) length f where
  length_le s h := hf.length_le s (Bool.and_eq_true _ _ ▸ h).2
  settled s t ht h := hf.settled s t (Bool.and_eq_true _ _ ▸ ht).2 h

variable {f : List Char → Nat}

/-- A scanner with a name for what it counts. -/
theorem named {κ : Type} (kind : κ) (hf : LocalOn test id f) :
    LocalOn test Prod.snd fun s => (kind, f s) where
  length_le := hf.length_le
  settled s t ht h := by rw [hf.settled s t ht h]

/-- A scanner that begins behind the first character, which it counts. -/
theorem behind (hnil : test [] = false) (hf : Local id f) :
    LocalOn test id fun s => 1 + f s.tail where
  length_le s ht := by
    cases s with
    | nil => simp [hnil] at ht
    | cons c s =>
      have := hf.length_le s rfl
      simp only [id, List.tail_cons, List.length_cons] at this ⊢
      omega
  settled s t ht h := by
    cases s with
    | nil => simp [hnil] at ht
    | cons c s =>
      simp only [id, List.cons_append, List.tail_cons, List.length_cons] at h ⊢
      rw [hf.settled s t rfl (by simp only [id]; omega)]

end LocalOn

namespace Local

variable {β : Type} {length : β → Nat} {f g : List Char → β}

/-- Finding the same in every text, and no character of it. -/
theorem const {found : β} (h : length found = 0) : Local length fun _ => found where
  length_le _ _ := by simp [h]
  settled _ _ _ _ := rfl

/-- A choice that does not depend on the text. -/
theorem ite (p : Prop) [Decidable p] (hf : Local length f) (hg : Local length g) :
    Local length fun s => if p then f s else g s := by
  by_cases h : p
  · simpa [h] using hf
  · simpa [h] using hg

/-- A choice by the first character, where the scanner that a character can choose counts some. -/
theorem choose {test : List Char → Bool} (htest : FrontTest test) (hf : LocalOn test length f)
    (hg : Local length g) (hpos : ∀ s, test [] = false → test s = true → 0 < length (f s)) :
    Local length fun s => if test s then f s else g s where
  length_le s _ := by
    split
    · rename_i ht
      exact hf.length_le s ht
    · exact hg.length_le s rfl
  settled s t _ h := by
    have heq : test (s ++ t) = test s := by
      cases s with
      | cons c s => exact htest.cons c (s ++ t) s
      | nil =>
        cases hnil : test [] with
        | true => exact htest.nil t hnil
        | false =>
          -- a scanner that is chosen only with `t` in sight counts characters of `t`
          cases ht : test t with
          | false => exact ht
          | true =>
            have := hpos t hnil ht
            simp only [List.nil_append, ht, if_true, List.length_nil] at h
            omega
    simp only [heq] at h ⊢
    split
    · rename_i ht
      rw [if_pos ht] at h
      exact hf.settled s t ht h
    · rename_i ht
      rw [if_neg ht] at h
      exact hg.settled s t rfl h

variable {f g : List Char → Nat}

/-- A scanner that begins where another one stopped. -/
theorem andThen (hf : Local id f) (hg : Local id g) : Local id fun s => f s + g (s.drop (f s)) where
  length_le s _ := by
    have h1 := hf.length_le s rfl
    have h2 := hg.length_le (s.drop (f s)) rfl
    simp only [id, List.length_drop] at h1 h2 ⊢
    omega
  settled s t _ h := by
    simp only [id] at h
    have hfs : f s = f (s ++ t) := hf.settled s t rfl (by simp only [id]; omega)
    have hle : f s ≤ s.length := hf.length_le s rfl
    rw [← hfs, List.drop_append_of_le_length hle] at h ⊢
    rw [hg.settled (s.drop (f s)) t rfl (by simp only [id, List.length_drop]; omega)]

end Local

/-! ## Scanners of words and quotes -/

/-- Counts character by character as long as `p` holds, two characters at once where `q` and `r`
hold of a pair, and `last` characters where neither is so. -/
structure CountsPairs (p q r : Char → Bool) (last : Nat) (f : List Char → Nat) : Prop where
  last_le : last ≤ 1
  nil : f [] = 0
  cons : ∀ c cs, f (c :: cs) =
    if p c then 1 + f cs else if q c && startsWith r cs then 2 + f cs.tail else last

namespace CountsPairs

variable {p q r : Char → Bool} {last : Nat} {f : List Char → Nat}

/-- A count by pairs is at most the length of the text. -/
theorem length_le (h : CountsPairs p q r last f) : ∀ s, f s ≤ s.length
  | [] => Nat.le_of_eq h.nil
  | [c] => by
    have := h.last_le
    simp only [h.cons, h.nil, startsWith_nil, Bool.and_false, List.length_singleton]
    split <;> simp_all
  | c :: d :: s => by
    have hlast := h.last_le
    have h1 := h.length_le s
    have h2 := h.length_le (d :: s)
    simp only [h.cons c, List.tail_cons, List.length_cons] at h2 ⊢
    split
    · omega
    · split <;> omega

/-- A count that ends within a text is not changed by what follows the text. -/
theorem settled (h : CountsPairs p q r last f) :
    ∀ s t, f (s ++ t) ≤ s.length → f s = f (s ++ t)
  | [], t, hle => h.nil.trans (Nat.le_zero.mp hle).symm
  | [c], t, hle => by
    simp only [List.cons_append, List.nil_append, h.cons, h.nil, startsWith_nil, Bool.and_false,
      List.length_singleton] at hle ⊢
    cases hp : p c with
    | true =>
      simp only [hp, if_true] at hle ⊢
      omega
    | false =>
      cases ht : q c && startsWith r t with
      | false => simp
      | true =>
        -- the second character of the pair, in `t`, would be counted too
        simp only [hp, ht, if_true, Bool.false_eq_true, if_false] at hle
        omega
  | c :: d :: s, t, hle => by
    have ih := h.settled s t
    have ih' := h.settled (d :: s) t
    simp only [List.cons_append, h.cons c, List.tail_cons, List.length_cons,
      startsWith_cons] at hle ih' ⊢
    split
    · rename_i hp
      rw [if_pos hp] at hle
      rw [ih' (by omega)]
    · rename_i hp
      rw [if_neg hp] at hle
      split
      · rename_i hq
        rw [if_pos hq] at hle
        rw [ih (by omega)]
      · rfl

end CountsPairs

/-- A count that looks at pairs of characters at most is local. -/
theorem local_of_countsPairs {p q r : Char → Bool} {last : Nat} {f : List Char → Nat}
    (h : CountsPairs p q r last f) : Local id f where
  length_le s _ := h.length_le s
  settled s t _ hle := h.settled s t hle

/-- A leading run goes on as long as its characters are of the class. -/
theorem countWhile_cons (p : Char → Bool) (c : Char) (cs : List Char) :
    countWhile p (c :: cs) = if p c then countWhile p cs + 1 else 0 := by
  unfold countWhile
  rw [List.takeWhile_cons]
  split <;> rfl

/-- A count of the characters of a class stops in front of one that is not in it. -/
theorem head?_drop_countWhile (p : Char → Bool) (s : List Char) :
    ∀ c ∈ (s.drop (countWhile p s)).head?, p c = false := by
  induction s with
  | nil => simp
  | cons d s ih =>
    rw [countWhile_cons]
    split
    · rwa [List.drop_succ_cons]
    · rename_i hd
      simpa using hd

/-- A count of the characters of a class stops at the first that is not in it. -/
theorem local_countWhile (p : Char → Bool) : Local id (countWhile p) := by
  have h : CountsPairs p (fun _ => false) (fun _ => false) 0 (countWhile p) :=
    ⟨by omega, rfl, fun c cs => by simp [countWhile_cons, Nat.add_comm]⟩
  exact local_of_countsPairs h

/-- The quoted-text scanner adds to the count it starts from. -/
theorem quotedLength_go (close : Char) (doubled : Bool) (s : List Char) (n : Nat) :
    quotedLength.go close doubled s n = n + quotedLength close doubled s := by
  suffices h : ∀ m, quotedLength.go close doubled s (n + m) =
      n + quotedLength.go close doubled s m from h 0
  intro m
  fun_induction quotedLength.go close doubled s m generalizing n with
  | case1 m => rfl
  | case2 m => simp only [quotedLength.go, if_true, Nat.add_assoc]
  | case3 m d ds hd ih => simp only [quotedLength.go, hd, if_true, ← ih, Nat.add_assoc]
  | case4 m d ds hd => simp only [quotedLength.go, if_true, hd, Nat.add_assoc]; rfl
  | case5 c cs m hc ih =>
    rw [quotedLength.go.eq_def]
    simp only [hc, if_false, Nat.add_assoc, ih]

/-- A quote closes at its mark, unless a second one follows that makes it stand for itself. -/
theorem quotedLength_cons (close : Char) (doubled : Bool) (c : Char) (cs : List Char) :
    quotedLength close doubled (c :: cs) =
      if c != close then 1 + quotedLength close doubled cs
      else if doubled && startsWith (fun d => d = close) cs then
        2 + quotedLength close doubled cs.tail
      else 1 := by
  rw [quotedLength, quotedLength.go.eq_def]
  by_cases hc : c = close
  · cases cs with
    | nil => simp [hc]
    | cons d ds => simp [hc, quotedLength_go]
  · simp [hc, quotedLength_go]

/-- A quoted run ends at the mark that closes it, or with the text. -/
theorem local_quotedLength (close : Char) (doubled : Bool) :
    Local id (quotedLength close doubled) := by
  have h : CountsPairs (· != close) (fun _ => doubled) (fun d => d = close) 1
      (quotedLength close doubled) :=
    ⟨Nat.le_refl 1, rfl, quotedLength_cons close doubled⟩
  exact local_of_countsPairs h

/-! ## Scanners of comments and numbers -/

/-- The comment scanner adds to the count it starts from. -/
theorem commentLength?_go (s : List Char) (n : Nat) :
    commentLength?.go s n = (commentLength? s).map (n + ·) := by
  suffices h : ∀ m, commentLength?.go s (n + m) = (commentLength?.go s m).map (n + ·) from h 0
  intro m
  fun_induction commentLength?.go s m generalizing n with
  | case1 m => rfl
  | case2 tail m => simp [commentLength?.go, Nat.add_assoc]
  | case3 c cs m hmark ih => rw [commentLength?.go.eq_3 _ _ _ hmark, Nat.add_assoc, ih]

/-- The empty text ends no comment. -/
theorem commentLength?_nil : commentLength? [] = none := rfl

/-- A comment ends at the first `*/`. -/
theorem commentLength?_cons (c : Char) (cs : List Char) :
    commentLength? (c :: cs) =
      if c = '*' && startsWith (fun d => d = '/') cs then some 2
      else (commentLength? cs).map (1 + ·) := by
  by_cases hmark : c = '*' ∧ ∃ rest, cs = '/' :: rest
  · obtain ⟨rfl, rest, rfl⟩ := hmark
    simp [commentLength?, commentLength?.go]
  · have hother : ∀ rest, c = '*' → cs = '/' :: rest → False :=
      fun rest hc hcs => hmark ⟨hc, rest, hcs⟩
    rw [commentLength?, commentLength?.go.eq_3 _ _ _ hother, commentLength?_go, if_neg]
    · intro h
      cases cs with
      | nil => simp at h
      | cons d ds =>
        simp only [startsWith_cons, Bool.and_eq_true, decide_eq_true_eq] at h
        exact hother ds h.1 (by rw [h.2])

/-- A comment ends within the text. -/
theorem commentLength?_le {s : List Char} {n : Nat} (h : commentLength? s = some n) :
    n ≤ s.length := by
  induction s generalizing n with
  | nil => simp [commentLength?_nil] at h
  | cons c s ih =>
    rw [commentLength?_cons] at h
    split at h
    · rename_i hmark
      cases s with
      | nil => simp at hmark
      | cons d s =>
        cases h
        simp
    · obtain ⟨m, hm, rfl⟩ := Option.map_eq_some_iff.mp h
      have := ih hm
      simp only [List.length_cons]
      omega

/-- A comment that ends within a text ends there whatever follows. -/
theorem commentLength?_settled {s t : List Char} {n : Nat} (h : commentLength? (s ++ t) = some n)
    (hn : n ≤ s.length) : commentLength? s = some n := by
  induction s generalizing n with
  | nil =>
    -- an end mark has characters, so none of it is in the empty text
    cases t with
    | nil => exact h
    | cons c t =>
      rw [List.nil_append, commentLength?_cons] at h
      split at h
      · cases h
        simp at hn
      · obtain ⟨m, _, rfl⟩ := Option.map_eq_some_iff.mp h
        simp only [List.length_nil] at hn
        omega
  | cons c s ih =>
    rw [List.cons_append, commentLength?_cons] at h
    rw [commentLength?_cons]
    cases s with
    | nil =>
      split at h
      · cases h
        simp at hn
      · obtain ⟨m, hm, rfl⟩ := Option.map_eq_some_iff.mp h
        simp only [List.length_cons] at hn
        rw [if_neg (by simp), ih hm (by omega)]
        rfl
    | cons d s =>
      simp only [List.cons_append, startsWith_cons] at h ⊢
      split
      · rename_i hmark
        rwa [if_pos hmark] at h
      · rename_i hmark
        rw [if_neg hmark] at h
        obtain ⟨m, hm, rfl⟩ := Option.map_eq_some_iff.mp h
        simp only [List.length_cons] at hn
        rw [ih hm (by simp only [List.length_cons]; omega)]
        rfl

/-- What a block comment that begins with `/` is, by what follows this. -/
def blockCommentEnd (s : List Char) : LexemeKind × Nat :=
  match commentLength? s.tail with
  | some length => (.blockComment, 1 + length)
  | none => (.token .unterminatedComment, s.length)

/-- A comment ends at its mark, or with the text. -/
theorem local_blockCommentEnd :
    LocalOn (startsWith fun d => d = '*') Prod.snd blockCommentEnd where
  length_le s hs := by
    cases s with
    | nil => simp at hs
    | cons c s =>
      simp only [blockCommentEnd, List.tail_cons]
      split
      · rename_i n hn
        have := commentLength?_le hn
        simp only [List.length_cons]
        omega
      · exact Nat.le_refl _
  settled s t hs h := by
    cases s with
    | nil => simp at hs
    | cons c s =>
      simp only [blockCommentEnd, List.cons_append, List.tail_cons] at h ⊢
      cases hst : commentLength? (s ++ t) with
      | some n =>
        simp only [hst, List.length_cons] at h
        rw [commentLength?_settled hst (by omega)]
      | none =>
        -- the comment runs to the end of a text that is no longer than `s`
        simp only [hst, List.length_cons, List.length_append] at h
        have ht : t = [] := List.eq_nil_of_length_eq_zero (by omega)
        rw [ht, List.append_nil] at hst ⊢
        rw [hst]

/-- Counts the sign of an exponent, if it has one. -/
def signLength (s : List Char) : Nat :=
  if s.head? = some '+' || s.head? = some '-' then 1 else 0

/-- A sign is found from its characters and the next one. -/
theorem local_signLength : Local id signLength := by
  have htest : FrontTest fun s : List Char => s.head? = some '+' || s.head? = some '-' :=
    ⟨fun _ _ _ => by simp, fun _ h => by simp at h⟩
  exact Local.choose htest (LocalOn.behind rfl (Local.const rfl)) (Local.const rfl)
    (fun _ _ _ => by simp)

/-- An exponent is its letter, a sign and at least one digit. -/
theorem exponentLength_cons (c : Char) (cs : List Char) :
    exponentLength (c :: cs) =
      if c = 'e' || c = 'E' then
        if countWhile Char.isDigit (cs.drop (signLength cs)) = 0 then 0
        else 1 + signLength cs + countWhile Char.isDigit (cs.drop (signLength cs))
      else 0 := rfl

/-- What follows a nonempty text does not change its sign. -/
theorem signLength_settled (s t : List Char) (hs : s ≠ []) : signLength s = signLength (s ++ t) :=
  local_signLength.settled s t rfl <| by
    have hpos := List.length_pos_iff.mpr hs
    simp only [id, signLength]
    split <;> omega

/-- An exponent without digits is none. -/
theorem local_exponentLength : Local id exponentLength where
  length_le s _ := by
    cases s with
    | nil => exact Nat.le_refl _
    | cons c cs =>
      have := (local_signLength.andThen (local_countWhile Char.isDigit)).length_le cs rfl
      simp only [id, exponentLength_cons, List.length_cons] at this ⊢
      split
      · split <;> omega
      · omega
  settled s t _ h := by
    cases s with
    | nil => exact (Nat.le_zero.mp h).symm
    | cons c s =>
      simp only [id, List.cons_append, exponentLength_cons, List.length_cons] at h ⊢
      split
      · rename_i hc
        rw [if_pos hc] at h
        by_cases hs : s = []
        · -- digits in `t` would be counted with the `e`
          subst hs
          split at h
          · rename_i hd
            rw [if_pos hd]
            rfl
          · simp only [List.length_nil] at h
            omega
        · have hle : signLength s ≤ s.length := local_signLength.length_le s rfl
          have hdigits := (local_countWhile Char.isDigit).settled (s.drop (signLength s)) t rfl
          rw [← signLength_settled s t hs, List.drop_append_of_le_length hle] at h ⊢
          simp only [id, List.length_drop] at hdigits
          split at h
          · rename_i hd
            rw [hdigits (by omega), hd]
          · rw [hdigits (by omega)]
      · rfl

/-- A fraction is found from its characters and the next one. -/
theorem local_fractionLength : Local id fractionLength :=
  (local_countWhile Char.isDigit).andThen local_exponentLength

/-- Counts what follows the digits before a decimal point. -/
def decimalTailLength (s : List Char) : Nat :=
  if startsWith (fun d => d = '.') s then 1 + fractionLength s.tail else exponentLength s

/-- What follows the whole digits is found from its characters and the next one. -/
theorem local_decimalTailLength : Local id decimalTailLength :=
  Local.choose (frontTest_startsWith _) (LocalOn.behind rfl local_fractionLength)
    local_exponentLength (fun _ _ _ => by simp only [id]; omega)

/-- A number is a fraction, a hexadecimal number or whole digits with their tail. -/
theorem numberLength_eq (c : Char) (cs : List Char) :
    numberLength c cs =
      if c = '.' then fractionLength cs
      else if c = '0' && (cs.head? = some 'x' || cs.head? = some 'X') then
        1 + countWhile isHexDigit cs.tail
      else
        countWhile Char.isDigit cs + decimalTailLength (cs.drop (countWhile Char.isDigit cs)) := by
  unfold numberLength
  split
  · rfl
  · split
    · rfl
    · simp only
      generalize cs.drop (countWhile Char.isDigit cs) = rest
      split
      · simp [decimalTailLength, Nat.add_assoc]
      · rename_i hpoint
        rw [decimalTailLength, if_neg]
        intro h
        cases rest with
        | nil => simp at h
        | cons d ds =>
          simp only [startsWith_cons, decide_eq_true_eq] at h
          exact hpoint ds (by rw [h])

/-- A number ends where it can no longer go on. -/
theorem local_numberLength (c : Char) : Local id (numberLength c) := by
  have htest : FrontTest fun s : List Char => s.head? = some 'x' || s.head? = some 'X' :=
    ⟨fun _ _ _ => by simp, fun _ h => by simp at h⟩
  have hhex : LocalOn (fun s : List Char =>
      c = '0' && (s.head? = some 'x' || s.head? = some 'X')) id
      fun s => 1 + countWhile isHexDigit s.tail :=
    LocalOn.behind (by simp) (local_countWhile isHexDigit)
  have hplain := (local_countWhile Char.isDigit).andThen local_decimalTailLength
  have h := Local.ite (c = '.') local_fractionLength
    (Local.choose (htest.and (c = '0')) hhex hplain (fun _ _ _ => by simp only [id]; omega))
  rwa [show numberLength c = _ from funext (numberLength_eq c)]

/-! ## Scanners of placeholders -/

/-- The joined-name scanner adds to the count it starts from. -/
theorem joinedNameLength_go (s : List Char) (n : Nat) :
    joinedNameLength.go s n = n + joinedNameLength s := by
  suffices h : ∀ m, joinedNameLength.go s (n + m) = n + joinedNameLength.go s m from h 0
  intro m
  fun_induction joinedNameLength.go s m generalizing n with
  | case1 m => rfl
  | case2 c cs m hc ih =>
    rw [joinedNameLength.go.eq_def]
    simp only [hc, if_true, Nat.add_assoc, ih]
  | case3 m rest hc ih =>
    rw [joinedNameLength.go.eq_def]
    simp only [hc, Nat.add_assoc, ih]
    rfl
  | case4 c cs m hc hjoin =>
    rw [joinedNameLength.go.eq_def]
    simp [hc]

/-- A joined name goes on by a word character or by `::`. -/
theorem joinedNameLength_cons (c : Char) (cs : List Char) :
    joinedNameLength (c :: cs) =
      if isWordChar c then 1 + joinedNameLength cs
      else if c = ':' && startsWith (fun d => d = ':') cs then 2 + joinedNameLength cs.tail
      else 0 := by
  rw [joinedNameLength, joinedNameLength.go.eq_def]
  by_cases hc : isWordChar c = true
  · simp [hc, joinedNameLength_go]
  · simp only [hc, Bool.false_eq_true, if_false]
    split
    · simp [joinedNameLength_go]
    · rename_i hjoin
      rw [if_neg]
      intro h
      cases cs with
      | nil => simp at h
      | cons d ds =>
        simp only [startsWith_cons, Bool.and_eq_true, decide_eq_true_eq] at h
        exact hjoin ds h.1 (by rw [h.2])

/-- A joined name ends where neither a word nor `::` goes on. -/
theorem local_joinedNameLength : Local id joinedNameLength :=
  local_of_countsPairs ⟨by omega, rfl, joinedNameLength_cons⟩

/-- A count of the characters of a class goes on behind a text that is wholly of the class. -/
theorem countWhile_append (p : Char → Bool) (s t : List Char) :
    countWhile p (s ++ t) =
      if countWhile p s = s.length then s.length + countWhile p t else countWhile p s := by
  unfold countWhile
  rw [List.takeWhile_append]
  split <;> simp

/-- A suffix is a bracket with everything to the closing one, if there is one. -/
theorem suffixLength_cons (c : Char) (cs : List Char) :
    suffixLength (c :: cs) =
      if c = '(' then
        if countWhile (fun d => d != ')') cs < cs.length then
          countWhile (fun d => d != ')') cs + 2
        else 0
      else 0 := by
  by_cases hc : c = '('
  · subst hc
    rfl
  · rw [if_neg hc, suffixLength]
    intro rest h
    exact hc (List.cons.inj h).1

/-- A suffix ends at the first `)`; a suffix that is not closed is none, and stays none where its
text is cut. -/
theorem local_suffixLength : Local id suffixLength where
  length_le s _ := by
    cases s with
    | nil => exact Nat.le_refl _
    | cons c cs =>
      simp only [id, suffixLength_cons, List.length_cons]
      split
      · split <;> omega
      · omega
  settled s t _ h := by
    cases s with
    | nil => exact (Nat.le_zero.mp h).symm
    | cons c s =>
      have hle := countWhile_le_length (fun d => d != ')') s
      simp only [id, List.cons_append, suffixLength_cons, countWhile_append, List.length_append,
        List.length_cons] at h ⊢
      split
      · rename_i hc
        rw [if_pos hc] at h
        by_cases hopen : countWhile (fun d => d != ')') s = s.length
        · -- nothing closes the suffix in `s`, and what closes it in `t` would be counted
          simp only [hopen, if_true] at h ⊢
          split at h
          · omega
          · rename_i ht
            rw [if_neg ht, if_neg (Nat.lt_irrefl _)]
        · simp only [hopen, if_false] at h ⊢
          rw [if_pos (by omega), if_pos (by omega)]
      · rfl

/-- A `$` name is found from its characters and the next one. -/
theorem local_dollarNameLength : Local id dollarNameLength :=
  local_joinedNameLength.andThen local_suffixLength

/-! ## The lexeme at the front of a text -/

/-- A word is found from its characters and the next one. -/
theorem local_word (c : Char) : Local Prod.snd fun cs =>
    (TokenKind.ofWord (c :: cs.take (countWhile isWordChar cs)), countWhile isWordChar cs) where
  length_le s _ := countWhile_le_length isWordChar s
  settled s t _ h := by
    have hsame := (local_countWhile isWordChar).settled s t rfl h
    rw [← hsame, List.take_append_of_le_length (countWhile_le_length isWordChar s)]

/-- A leading run of a class the text starts with is not empty. -/
theorem countWhile_pos {p : Char → Bool} {s : List Char} (h : startsWith p s = true) :
    0 < countWhile p s := by
  cases s with
  | nil => simp at h
  | cons c s =>
    rw [startsWith_cons] at h
    rw [countWhile_cons, if_pos h]
    omega

/-- A `$` name that starts with a word character is not empty. -/
theorem dollarNameLength_pos {s : List Char} (h : startsWith isWordChar s = true) :
    0 < dollarNameLength s := by
  cases s with
  | nil => simp at h
  | cons c s =>
    rw [startsWith_cons] at h
    rw [dollarNameLength, joinedNameLength_cons, if_pos h]
    omega

/-- The class of a token and its length are settled by the characters of the token. -/
theorem local_classifyToken (c : Char) : Local Prod.snd (classifyToken c) := by
  unfold classifyToken
  refine .ite _ (.const rfl) ?_
  refine .ite _ (.named _ (local_quotedLength _ _)) ?_
  refine .ite _ (.named _ (local_quotedLength _ _)) ?_
  refine .ite _ (.named _ (local_quotedLength _ _)) ?_
  refine .choose ((frontTest_startsWith _).and _)
    (.named _ (.behind (by simp) (local_quotedLength _ _))) ?_
    (fun _ _ _ => Nat.add_pos_left Nat.one_pos _)
  refine .choose (((frontTest_startsWith _).and _).or _)
    (.of_local (.named _ (local_numberLength c))) ?_ ?hnumber
  refine .ite _ (.named _ (local_countWhile _)) ?_
  refine .choose ((frontTest_startsWith _).and _)
    (.of_local (.named _ (local_countWhile _))) ?_ ?hname
  refine .choose ((frontTest_startsWith _).and _)
    (.of_local (.named _ local_dollarNameLength)) ?_ ?hdollar
  refine .ite _ (local_word c) (.const rfl)
  case hnumber =>
    intro s hnil hs
    simp only [startsWith_nil, Bool.and_false, Bool.or_false] at hnil
    simp only [hnil, Bool.false_or, Bool.and_eq_true, decide_eq_true_eq] at hs
    have := countWhile_pos hs.2
    simp only [hs.1, numberLength_eq, if_true, fractionLength]
    omega
  case hname =>
    intro s _ hs
    rw [Bool.and_eq_true] at hs
    exact countWhile_pos hs.2
  case hdollar =>
    intro s _ hs
    rw [Bool.and_eq_true] at hs
    exact dollarNameLength_pos hs.2

/-- A lexeme is a run of blanks, a comment or a token, told by its first two characters. -/
theorem classify_eq (c : Char) (cs : List Char) :
    classify c cs =
      if isBlank c then (.blank, 0)
      else if c = '-' && startsWith (fun d => d = '-') cs then
        (.lineComment, countWhile (fun d => d != '\n') cs)
      else if c = '/' && startsWith (fun d => d = '*') cs then blockCommentEnd cs
      else (.token (classifyToken c cs).1, (classifyToken c cs).2) := by
  unfold classify blockCommentEnd
  rfl

/-- A lexeme that is a token, other than an open comment, is classified as one. -/
theorem classifyToken_of_classify {c : Char} {cs : List Char} {kind : TokenKind} {n : Nat}
    (h : classify c cs = (.token kind, n)) (hopen : kind ≠ .unterminatedComment) :
    classifyToken c cs = (kind, n) := by
  rw [classify_eq, blockCommentEnd] at h
  split at h
  · cases h
  · split at h
    · cases h
    · split at h
      · split at h
        · cases h
        · cases h
          exact absurd rfl hopen
      · obtain ⟨hkind, rfl⟩ := Prod.mk.inj h
        exact Prod.ext (LexemeKind.token.inj hkind) rfl

/-- The class of a lexeme and its length are settled by the characters of the lexeme. -/
theorem local_classify (c : Char) : Local Prod.snd (classify c) := by
  rw [show classify c = _ from funext (classify_eq c)]
  refine .ite _ (.const rfl) ?_
  refine .choose ((frontTest_startsWith _).and _)
    (.of_local (.named _ (local_countWhile _))) ?_ ?hline
  refine .choose ((frontTest_startsWith _).and _) (local_blockCommentEnd.and _) ?htoken ?hblock
  case hline =>
    intro s _ hs
    cases s with
    | nil => simp at hs
    | cons d s =>
      simp only [startsWith_cons, Bool.and_eq_true, decide_eq_true_eq] at hs
      exact countWhile_pos (by simp [hs.2])
  case hblock =>
    intro s _ hs
    cases s with
    | nil => simp at hs
    | cons d s =>
      unfold blockCommentEnd
      split
      · omega
      · simp
  case htoken =>
    refine ⟨(local_classifyToken c).length_le, fun s t hs h => ?_⟩
    rw [(local_classifyToken c).settled s t hs h]

/-! ## Stretches of lexemes -/

/-- The texts of the lexemes of a text put together are the text. -/
theorem texts_lexemes (s : List Char) : texts (lexemes s) = s := by
  rw [texts, List.flatMap_def, flatten_lexemes]

/-- A text with a first lexeme: its first character, its class, and the lexemes of the rest. -/
theorem lexemes_eq_cons {s : List Char} {x : Lexeme} {xs : List Lexeme} (h : lexemes s = x :: xs) :
    ∃ c cs, s = c :: cs ∧ x = ⟨(classify c cs).1, c :: cs.take (classify c cs).2⟩ ∧
      lexemes (cs.drop (classify c cs).2) = xs := by
  cases s with
  | nil => simp at h
  | cons c cs =>
    rw [lexemes_cons] at h
    obtain ⟨hx, hxs⟩ := List.cons.inj h
    exact ⟨c, cs, rfl, hx.symm, hxs⟩

/-- The first lexeme of a text, by its first character. -/
theorem classify_of_lexemes {x : Lexeme} {ys : List Lexeme} {t : List Char}
    (h : lexemes (x.text ++ t) = x :: ys) :
    ∃ c rest, x.text = c :: rest ∧ classify c (rest ++ t) = (x.kind, rest.length) ∧
      lexemes t = ys := by
  obtain ⟨c, cs, htext, hx, hrest⟩ := lexemes_eq_cons h
  have hn : (classify c cs).2 ≤ cs.length := (local_classify c).length_le cs rfl
  have hxtext : x.text = c :: cs.take (classify c cs).2 := by rw [hx]
  have hcs : cs.take (classify c cs).2 ++ t = cs := by simpa [hxtext] using htext
  have hdrop : cs.drop (classify c cs).2 = t :=
    List.append_cancel_left ((List.take_append_drop _ cs).trans hcs.symm)
  refine ⟨c, _, hxtext, ?_, by rw [← hdrop, hrest]⟩
  rw [hcs, List.length_take_of_le hn, hx]

/-- A text that begins with a lexeme, found by its first character. -/
theorem lexemes_of_classify {x : Lexeme} {c : Char} {rest t : List Char} (hx : x.text = c :: rest)
    (h : classify c (rest ++ t) = (x.kind, rest.length)) :
    lexemes (x.text ++ t) = x :: lexemes t := by
  rw [hx, List.cons_append, lexemes_cons, h, List.take_left, List.drop_left, ← hx]

/-- A lexeme in the middle of a text is not empty. -/
theorem texts_length_pos {xs : List Lexeme} {t : List Char} {ys : List Lexeme}
    (h : lexemes (texts xs ++ t) = xs ++ ys) (hne : xs ≠ []) : 0 < (texts xs).length := by
  cases xs with
  | nil => exact absurd rfl hne
  | cons x xs =>
    rw [texts_cons, List.append_assoc] at h
    obtain ⟨c, rest, hx, -, -⟩ := classify_of_lexemes h
    simp [hx]

/-- Behind any lexeme of a text, the lexemes go on as those of the text that is left. -/
theorem lexemes_texts_suffix {s : List Char} {pre post : List Lexeme}
    (h : lexemes s = pre ++ post) : lexemes (texts post) = post := by
  induction pre generalizing s with
  | nil =>
    rw [List.nil_append] at h
    rw [← h, texts_lexemes]
  | cons x pre ih =>
    obtain ⟨c, cs, _, _, hrest⟩ := lexemes_eq_cons h
    exact ih hrest

/-- Where a text is cut behind one of its lexemes, the lexemes before the cut stay as they are. -/
theorem lexemes_texts_prefix {t : List Char} {xs post : List Lexeme}
    (h : lexemes (texts xs ++ t) = xs ++ post) : lexemes (texts xs) = xs := by
  induction xs with
  | nil => simp
  | cons x xs ih =>
    rw [texts_cons, List.append_assoc] at h
    obtain ⟨c, rest, hx, hclass, hrest⟩ := classify_of_lexemes h
    have hsame : classify c (rest ++ texts xs) = (x.kind, rest.length) := by
      rw [← hclass, ← List.append_assoc]
      refine (local_classify c).settled _ t rfl ?_
      rw [List.append_assoc, hclass]
      simp
    rw [texts_cons, lexemes_of_classify hx hsame, ih hrest]

/-- A stretch of lexemes of a text, read on its own, has these lexemes. -/
theorem lexemes_texts {s : List Char} {pre xs post : List Lexeme}
    (h : lexemes s = pre ++ xs ++ post) : lexemes (texts xs) = xs := by
  rw [List.append_assoc] at h
  have hsuffix := lexemes_texts_suffix h
  rw [texts_append] at hsuffix
  exact lexemes_texts_prefix hsuffix

/-! ## Classes of tokens -/

/-- A token is a separator, or a word, or of one of the classes that hold neither. -/
theorem classifyToken_cases (c : Char) (cs : List Char) :
    (c = ';' ∧ classifyToken c cs = (.semicolon, 0)) ∨
    (classifyToken c cs).1 ∈ [.identifier, .stringLiteral, .numericLiteral, .blobLiteral, .parameter,
      .operator] ∨
    (isWordStart c = true ∧ classifyToken c cs =
      (.ofWord (c :: cs.take (countWhile isWordChar cs)), countWhile isWordChar cs)) := by
  unfold classifyToken
  split
  · exact .inl ⟨‹_›, rfl⟩
  · refine .inr ?_
    repeat' split
    all_goals first | exact .inr ⟨‹_›, rfl⟩ | exact .inl (by simp)

/-! ## Open comments -/

/-- A token is never an open comment. -/
theorem classifyToken_ne_unterminatedComment (c : Char) (cs : List Char) :
    (classifyToken c cs).1 ≠ .unterminatedComment := by
  have hword : ∀ word, TokenKind.ofWord word ≠ .unterminatedComment := by
    intro word
    unfold TokenKind.ofWord
    split <;> simp
  rcases classifyToken_cases c cs with ⟨-, hsep⟩ | hother | ⟨-, heq⟩
  · rw [hsep]
    nofun
  · intro hopen
    rw [hopen] at hother
    exact absurd hother (by decide)
  · rw [heq]
    exact hword _

/-- A comment that is not closed goes on to the end of the text. -/
theorem lexemes_unterminatedComment_last {s : List Char} {pre post : List Lexeme} {x : Lexeme}
    (h : lexemes s = pre ++ x :: post) (hx : x.kind = .token .unterminatedComment) : post = [] := by
  obtain ⟨c, cs, _, rfl, hrest⟩ := lexemes_eq_cons (lexemes_texts_suffix h)
  suffices hlen : (classify c cs).2 = cs.length by
    rw [← hrest, hlen, List.drop_length, lexemes_nil]
  simp only [classify_eq, blockCommentEnd] at hx ⊢
  split at hx
  · cases hx
  · split at hx
    · cases hx
    · split at hx
      · split at hx
        · cases hx
        · simp [*]
      · exact absurd (LexemeKind.token.inj hx) (classifyToken_ne_unterminatedComment c cs)

end SqlStream.Sql
