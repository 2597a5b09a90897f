import SqlStream.Proofs.Sql.Locality

/-!
# Separators end lexemes

A semicolon is a lexeme of its own, unless a quote, a comment or a suffix in parentheses is open in
front of it. `KeptOn` says that what a scanner finds in a text stays as it is when a separator and
another text take the place of what stood behind. Every scanner of a lexeme keeps what it finds
(`classify_kept`), so lexemes stay as they are in front of a separator (`lexemes_kept`).
-/

namespace SqlStream.Sql

open SqlStream.Text

/-! ## Scanners that keep what they find -/

/-- In texts that pass a test, what a scanner finds in the part in front of `old` it finds with a
separator and `new` in place of `old` too, provided that it ends there: `ends` says so of what is
found and of the length of the part. -/
def KeptOn {β : Type} (old new : List Char) (test : List Char → Bool) (length : β → Nat)
    (ends : β → Nat → Prop) (scan : List Char → β) : Prop :=
  ∀ s, test (s ++ old) = true → length (scan (s ++ old)) ≤ s.length →
    ends (scan (s ++ old)) s.length → scan (s ++ ';' :: new) = scan (s ++ old)

/-- A scanner that keeps what it finds in every text. -/
abbrev Kept {β : Type} (old new : List Char) (length : β → Nat) (ends : β → Nat → Prop)
    (scan : List Char → β) : Prop :=
  KeptOn old new (fun _ => true) length ends scan

section

variable {old new : List Char} {test : List Char → Bool}

namespace KeptOn

/-- A scanner that keeps what it finds in every text does so in those that pass a test. -/
theorem of_kept {β : Type} {length : β → Nat} {ends : β → Nat → Prop} {f : List Char → β}
    (hf : Kept old new length ends f) : KeptOn old new test length ends f :=
  fun s _ => hf s rfl

/-- A scanner keeps what it finds where something else must hold too. -/
theorem and {β : Type} {length : β → Nat} {ends : β → Nat → Prop} {f : List Char → β}
    (hf : KeptOn old new test length ends f) (known : Bool) :
    KeptOn old new (fun s => known && test s) length ends f :=
  fun s ht => hf s (Bool.and_eq_true _ _ ▸ ht).2

/-- A scanner with a name for what it counts. -/
theorem named {κ : Type} {kind : κ} {ends : Nat → Nat → Prop} {ends' : κ × Nat → Nat → Prop}
    {f : List Char → Nat} (hf : KeptOn old new test id ends f)
    (hends : ∀ n m, ends' (kind, n) m → ends n m) :
    KeptOn old new test Prod.snd ends' fun s => (kind, f s) := by
  intro s ht hle hend
  show (kind, f (s ++ ';' :: new)) = (kind, f (s ++ old))
  rw [hf s ht hle (hends _ _ hend)]

/-- A scanner that begins behind the first character, which it counts. -/
theorem behind {ends : Nat → Nat → Prop} {f : List Char → Nat}
    (hends : ∀ n m, ends (1 + n) (1 + m) → ends n m) (hf : Kept old new id ends f) :
    KeptOn old new test id ends fun s => 1 + f s.tail := by
  intro s ht hle hend
  cases s with
  | nil => exact absurd hle (by simp)
  | cons c s =>
    simp only [id, List.cons_append, List.tail_cons, List.length_cons] at hle hend ⊢
    rw [hf s rfl (by simp only [id]; omega) (hends _ _ (by rwa [Nat.add_comm 1 s.length]))]

end KeptOn

namespace Kept

variable {β : Type} {length : β → Nat} {ends : β → Nat → Prop}

/-- Finding the same in every text. -/
theorem const {found : β} : Kept old new length ends fun _ => found :=
  fun _ _ _ _ => rfl

/-- A choice that does not depend on the text. -/
theorem ite {f g : List Char → β} {p : Prop} [Decidable p] (hf : p → Kept old new length ends f)
    (hg : ¬p → Kept old new length ends g) :
    Kept old new length ends fun s => if p then f s else g s := by
  by_cases h : p
  · simpa [h] using hf h
  · simpa [h] using hg h

/-- A choice by the first character, which is not made by a separator, where the scanner that a
character can choose counts some. -/
theorem choose {f g : List Char → β} (htest : FrontTest test) (hsep : test [';'] = test [])
    (hf : KeptOn old new test length ends f) (hg : Kept old new length ends g)
    (hpos : ∀ s, test [] = false → test s = true → 0 < length (f s)) :
    Kept old new length ends fun s => if test s then f s else g s := by
  intro s _ hle hend
  have heq : test (s ++ ';' :: new) = test (s ++ old) := by
    cases s with
    | cons c s => exact htest.cons c (s ++ ';' :: new) (s ++ old)
    | nil =>
      rw [List.nil_append, List.nil_append, htest.cons ';' new [], hsep]
      cases hnil : test [] with
      | true => exact (htest.nil old hnil).symm
      | false =>
        -- what `old` alone would choose counts characters of `old`
        cases hold : test old with
        | false => rfl
        | true =>
          have := hpos old hnil hold
          simp only [List.nil_append, hold, if_true, List.length_nil] at hle
          omega
  simp only [heq] at hle hend ⊢
  split
  · rename_i ht
    rw [if_pos ht] at hle hend
    exact hf s ht hle hend
  · rename_i ht
    rw [if_neg ht] at hle hend
    exact hg s rfl hle hend

/-- A scanner that begins where another one stopped. -/
theorem andThen {P : Prop} {f g : List Char → Nat} (hf : Kept old new id (fun _ _ => P) f)
    (hg : Kept old new id (fun _ _ => P) g) :
    Kept old new id (fun _ _ => P) fun s => f s + g (s.drop (f s)) := by
  intro s _ hle hend
  simp only [id] at hle
  have hfs : f (s ++ ';' :: new) = f (s ++ old) := hf s rfl (by simp only [id]; omega) hend
  have hn : f (s ++ old) ≤ s.length := by omega
  show f (s ++ ';' :: new) + g ((s ++ ';' :: new).drop (f (s ++ ';' :: new))) =
    f (s ++ old) + g ((s ++ old).drop (f (s ++ old)))
  rw [List.drop_append_of_le_length hn] at hle
  rw [hfs, List.drop_append_of_le_length hn, List.drop_append_of_le_length hn,
    hg _ rfl (by simp only [id, List.length_drop]; omega) hend]

end Kept

/-! ## Scanners of words and quotes -/

/-- A count of characters and pairs keeps what it finds if it does so in front of the text and if no
separator ends a pair. -/
theorem CountsPairs.kept {p q r : Char → Bool} {last : Nat} {f : List Char → Nat}
    {ends : Nat → Nat → Prop} (h : CountsPairs p q r last f) (hr : r ';' = false)
    (hends : ∀ k n m, ends (k + n) (k + m) → ends n m)
    (hnil : f old = 0 → ends 0 0 → f (';' :: new) = 0) :
    ∀ s, f (s ++ old) ≤ s.length → ends (f (s ++ old)) s.length →
      f (s ++ ';' :: new) = f (s ++ old)
  | [], hle, hend => by
    have hzero : f old = 0 := Nat.le_zero.mp hle
    rw [List.nil_append, hzero] at hend
    rw [List.nil_append, List.nil_append, hzero, hnil hzero hend]
  | [c], hle, hend => by
    simp only [List.cons_append, List.nil_append, h.cons c, startsWith_cons, hr, Bool.and_false,
      Bool.false_eq_true, if_false, List.length_singleton] at hle hend ⊢
    split
    · rename_i hp
      rw [if_pos hp] at hle hend
      have hzero : f old = 0 := by omega
      rw [hzero] at hend
      rw [hzero, hnil hzero (hends 1 0 0 hend)]
    · rename_i hp
      rw [if_neg hp] at hle
      split
      · rename_i hpair
        rw [if_pos hpair] at hle
        omega
      · rfl
  | c :: d :: s, hle, hend => by
    have ih := h.kept hr hends hnil s
    have ih' := h.kept hr hends hnil (d :: s)
    simp only [List.cons_append, h.cons c, List.tail_cons, List.length_cons,
      startsWith_cons] at hle hend ih' ⊢
    split
    · rename_i hp
      rw [if_pos hp] at hle hend
      rw [ih' (by omega) (hends 1 _ _ (by rwa [Nat.add_comm 1 (s.length + 1)]))]
    · rename_i hp
      rw [if_neg hp] at hle hend
      split
      · rename_i hpair
        rw [if_pos hpair] at hle hend
        rw [ih (by omega) (hends 2 _ _ (by rwa [Nat.add_comm 2 s.length]))]
      · rfl

/-- A scanner that counts so keeps what it finds. -/
theorem kept_of_countsPairs {p q r : Char → Bool} {last : Nat} {f : List Char → Nat}
    {ends : Nat → Nat → Prop} (h : CountsPairs p q r last f) (hr : r ';' = false)
    (hends : ∀ k n m, ends (k + n) (k + m) → ends n m)
    (hnil : f old = 0 → ends 0 0 → f (';' :: new) = 0) : Kept old new id ends f :=
  fun s _ => h.kept hr hends hnil s

/-- A count of the characters of a class stops at a separator. -/
theorem kept_countWhile {p : Char → Bool} (hp : p ';' = false) (P : Prop) :
    Kept old new id (fun _ _ => P) (countWhile p) := by
  have h : CountsPairs p (fun _ => false) (fun _ => false) 0 (countWhile p) :=
    ⟨by omega, rfl, fun c cs => by simp [countWhile_cons, Nat.add_comm]⟩
  refine kept_of_countsPairs h rfl (fun _ _ _ hP => hP) fun _ _ => ?_
  rw [countWhile_cons, hp, if_neg Bool.false_ne_true]

/-- A joined name stops at a separator. -/
theorem kept_joinedNameLength (P : Prop) :
    Kept old new id (fun _ _ => P) joinedNameLength := by
  have h : CountsPairs isWordChar (fun c => c = ':') (fun d => d = ':') 0 joinedNameLength :=
    ⟨by omega, rfl, joinedNameLength_cons⟩
  refine kept_of_countsPairs h rfl (fun _ _ _ hP => hP) fun _ _ => ?_
  rw [joinedNameLength_cons]
  rfl

/-- A quote keeps what it finds unless it ends with the text. -/
theorem kept_quotedLength {close : Char} (hclose : close ≠ ';') (doubled : Bool) :
    Kept old new id (fun n m => old = [] → n < m) (quotedLength close doubled) := by
  have h : CountsPairs (· != close) (fun _ => doubled) (fun d => d = close) 1
      (quotedLength close doubled) :=
    ⟨Nat.le_refl 1, rfl, quotedLength_cons close doubled⟩
  refine kept_of_countsPairs h (by simpa using hclose.symm) (fun k n m hlt hold => ?_)
    fun hzero hlt => ?_
  · have := hlt hold
    omega
  · -- a quote counts the first character of what is behind it, if there is one
    cases old with
    | nil => exact absurd (hlt rfl) (Nat.lt_irrefl 0)
    | cons c cs =>
      rw [quotedLength_cons] at hzero
      split at hzero
      · omega
      · split at hzero <;> omega

/-! ## Scanners of comments and numbers -/

/-- A comment that is closed stays as it is. -/
theorem commentLength?_append {s : List Char} {n : Nat} (h : commentLength? s = some n)
    (t : List Char) : commentLength? (s ++ t) = some n := by
  induction s generalizing n with
  | nil => simp [commentLength?_nil] at h
  | cons c s ih =>
    rw [commentLength?_cons] at h
    rw [List.cons_append, commentLength?_cons]
    cases s with
    | nil => simp [commentLength?_nil] at h
    | cons d s =>
      simp only [List.cons_append, startsWith_cons] at h ⊢
      split
      · rename_i hmark
        rwa [if_pos hmark] at h
      · rename_i hmark
        rw [if_neg hmark] at h
        obtain ⟨m, hm, rfl⟩ := Option.map_eq_some_iff.mp h
        rw [← List.cons_append, ih hm]
        rfl

/-- A sign of an exponent is no separator. -/
theorem signLength_separator (s : List Char) : signLength (s ++ ';' :: new) = signLength s := by
  cases s <;> simp [signLength]

/-- An exponent stops at a separator. -/
theorem kept_exponentLength (P : Prop) :
    Kept old new id (fun _ _ => P) exponentLength := by
  have hsep : ∀ s, exponentLength (s ++ ';' :: new) = exponentLength s := by
    intro s
    cases s with
    | nil => rfl
    | cons c s =>
      have hle : signLength s ≤ s.length := local_signLength.length_le s rfl
      have hkept : Kept [] new id (fun _ _ => True) (countWhile Char.isDigit) :=
        kept_countWhile rfl True
      have hdigits := hkept (s.drop (signLength s)) rfl
        (by simpa using countWhile_le_length Char.isDigit (s.drop (signLength s))) trivial
      rw [List.append_nil] at hdigits
      rw [List.cons_append, exponentLength_cons, exponentLength_cons, signLength_separator,
        List.drop_append_of_le_length hle, hdigits]
  intro s _ hle _
  rw [hsep, local_exponentLength.settled s old rfl hle]

theorem kept_fractionLength (P : Prop) :
    Kept old new id (fun _ _ => P) fractionLength :=
  (kept_countWhile rfl P).andThen (kept_exponentLength P)

theorem kept_decimalTailLength (P : Prop) :
    Kept old new id (fun _ _ => P) decimalTailLength :=
  Kept.choose (frontTest_startsWith _) rfl (.behind (fun _ _ hP => hP) (kept_fractionLength P))
    (kept_exponentLength P) (fun _ _ _ => by simp only [id]; omega)

/-- A number stops at a separator. -/
theorem kept_numberLength (c : Char) (P : Prop) :
    Kept old new id (fun _ _ => P) (numberLength c) := by
  have htest : FrontTest fun s : List Char => s.head? = some 'x' || s.head? = some 'X' :=
    ⟨fun _ _ _ => by simp, fun _ h => by simp at h⟩
  have hhex : KeptOn old new (fun s : List Char =>
      c = '0' && (s.head? = some 'x' || s.head? = some 'X')) id (fun _ _ => P)
      fun s => 1 + countWhile isHexDigit s.tail :=
    .behind (fun _ _ hP => hP) (kept_countWhile (by decide) P)
  have hdigits : Kept old new id (fun _ _ => P) (countWhile Char.isDigit) := kept_countWhile rfl P
  have hplain := hdigits.andThen (kept_decimalTailLength P)
  have hother := Kept.choose (htest.and (c = '0')) (by simp) hhex hplain
    (fun _ _ _ => by simp only [id]; omega)
  have h := Kept.ite (p := c = '.') (fun _ => kept_fractionLength P) (fun _ => hother)
  rwa [show numberLength c = _ from funext (numberLength_eq c)]

/-! ## Scanners of placeholders -/

/-- A parenthesis closes a suffix if it is in the text. -/
theorem countWhile_ne_lt_iff {close : Char} {s : List Char} :
    countWhile (fun d => d != close) s < s.length ↔ close ∈ s := by
  induction s with
  | nil => simp
  | cons c s ih =>
    rw [countWhile_cons, List.mem_cons, List.length_cons]
    split
    · rename_i hc
      rw [← ih, Nat.add_lt_add_iff_right, or_iff_right]
      rintro rfl
      simp at hc
    · rename_i hc
      exact iff_of_true (Nat.succ_pos _) (.inl (by simpa using hc : c = close).symm)

/-- A suffix in parentheses stays as it is, and none comes up, if `new` closes no parenthesis that
`old` does not. -/
theorem kept_suffixLength :
    Kept old new id (fun _ _ => ')' ∈ new → ')' ∈ old) suffixLength := by
  intro s _ hle hmem
  cases s with
  | nil => exact (Nat.le_zero.mp hle).symm
  | cons c s =>
    have hclosed : ∀ t, countWhile (fun d => d != ')') (s ++ t) < (s ++ t).length ↔
        ')' ∈ s ∨ ')' ∈ t := fun t => countWhile_ne_lt_iff.trans List.mem_append
    simp only [id, List.cons_append, suffixLength_cons, hclosed, List.length_cons] at hle ⊢
    split
    · rename_i hc
      rw [if_pos hc] at hle
      by_cases hs : ')' ∈ s
      · have hin := countWhile_ne_lt_iff.mpr hs
        simp only [hs, true_or, if_true, countWhile_append, Nat.ne_of_lt hin, if_false]
      · -- nothing closes the suffix in `s`, and what closes it in `old` would be counted
        have hwhole : countWhile (fun d => d != ')') s = s.length :=
          Nat.le_antisymm (countWhile_le_length _ s) (Nat.le_of_not_lt (mt countWhile_ne_lt_iff.mp hs))
        have hold : ')' ∉ old := by
          intro hold
          simp only [hold, or_true, if_true, countWhile_append, hwhole] at hle
          omega
        have hnew : ')' ∉ new := mt hmem hold
        simp [hs, hold, hnew]
    · rfl

theorem kept_dollarNameLength :
    Kept old new id (fun _ _ => ')' ∈ new → ')' ∈ old) dollarNameLength :=
  (kept_joinedNameLength _).andThen kept_suffixLength

/-! ## The lexeme at the front of a text -/

/-- Tokens that go on to the end of the text if nothing closes them. -/
def TokenKind.mayStayOpen : TokenKind → Bool
  | identifier | stringLiteral | blobLiteral | unterminatedComment => true
  | _ => false

theorem isWordChar_separator : isWordChar ';' = false := by decide

theorem kept_word (c : Char) (ends : TokenKind × Nat → Nat → Prop) :
    Kept old new Prod.snd ends fun cs =>
      (TokenKind.ofWord (c :: cs.take (countWhile isWordChar cs)), countWhile isWordChar cs) := by
  intro s _ hle _
  have hkept : Kept old new id (fun _ _ => True) (countWhile isWordChar) := kept_countWhile rfl True
  have hsame := hkept s rfl hle trivial
  simp only [hsame, List.take_append_of_le_length hle]

/-- When a token that begins with `c` keeps its class and its length: it is not a quote that ends
with the text, and no parenthesis of `new` closes its suffix. -/
def TokenEnds (old new : List Char) (c : Char) (found : TokenKind × Nat) (length : Nat) : Prop :=
  (found.1.mayStayOpen = true → old = [] → found.2 < length) ∧
    (found.1 = .parameter → c = '$' → ')' ∈ new → ')' ∈ old)

/-- A token stays as it is in front of a separator. -/
theorem kept_classifyToken (c : Char) :
    Kept old new Prod.snd (TokenEnds old new c) (classifyToken c) := by
  have hquote : ∀ (kind : TokenKind) {close : Char} (doubled : Bool), kind.mayStayOpen = true →
      close ≠ ';' → Kept old new Prod.snd (TokenEnds old new c)
        fun s => (kind, quotedLength close doubled s) :=
    fun kind close doubled hopen hclose =>
      .named (kept_quotedLength hclose doubled) fun n m hends => hends.1 hopen
  have hdollar : KeptOn old new (fun s => c = '$' && startsWith isWordChar s) Prod.snd
      (TokenEnds old new c) fun s => (.parameter, dollarNameLength s) := by
    intro s ht
    simp only [Bool.and_eq_true, decide_eq_true_eq] at ht
    exact KeptOn.named kept_dollarNameLength (fun _ _ hends => hends.2 rfl ht.1) s rfl
  unfold classifyToken
  refine .ite (fun _ => .const) fun hc => ?_
  refine .ite (fun _ => hquote _ _ rfl (by decide)) fun _ => ?_
  refine .ite (fun _ => hquote _ _ rfl hc) fun _ => ?_
  refine .ite (fun _ => hquote _ _ rfl (by decide)) fun _ => ?_
  refine .choose ((frontTest_startsWith _).and _) (by simp) (.named (.behind
      (fun _ _ hlt hold => Nat.lt_of_add_lt_add_left (hlt hold)) (kept_quotedLength (by decide) _))
    fun n m hends => hends.1 rfl) ?_ (fun _ _ _ => Nat.add_pos_left Nat.one_pos _)
  refine .choose (((frontTest_startsWith _).and _).or _) (by simp)
    (.of_kept (.named (kept_numberLength c True) fun _ _ _ => trivial)) ?_ ?hnumber
  refine .ite (fun _ => .named (kept_countWhile rfl True) fun _ _ _ => trivial) fun _ => ?_
  refine .choose ((frontTest_startsWith _).and _) (by simp [isWordChar_separator])
    (.of_kept (.named (kept_countWhile (by decide) True) fun _ _ _ => trivial)) ?_ ?hname
  refine .choose ((frontTest_startsWith _).and _) (by simp [isWordChar_separator]) hdollar ?_ ?hdollar
  refine .ite (fun _ => kept_word c _) fun _ => .const
  case hnumber =>
    intro s hnil hs
    simp only [startsWith_nil, Bool.and_false, Bool.or_false] at hnil
    simp only [hnil, Bool.false_or, Bool.and_eq_true, decide_eq_true_eq] at hs
    have := countWhile_pos hs.2
    simp only [hs.1, numberLength_eq, if_true, fractionLength]
    omega
  case hname =>
    intro s _ hs
    rw [Bool.and_eq_true] at hs
    exact countWhile_pos hs.2
  case hdollar =>
    intro s _ hs
    rw [Bool.and_eq_true] at hs
    exact dollarNameLength_pos hs.2

/-- A line comment stays as it is if it ends before the text in front of the separator does. -/
theorem kept_lineComment :
    Kept old new id (fun n m => n < m) (countWhile fun d => d != '\n') := by
  have h : CountsPairs (fun d => d != '\n') (fun _ => false) (fun _ => false) 0
      (countWhile fun d => d != '\n') :=
    ⟨by omega, rfl, fun c cs => by simp [countWhile_cons, Nat.add_comm]⟩
  exact kept_of_countsPairs h rfl (fun _ _ _ => Nat.lt_of_add_lt_add_left)
    fun _ hlt => absurd hlt (Nat.lt_irrefl 0)

/-- When a lexeme that begins with `c` keeps its class and its length: it is not a line comment at
the separator, nor a token that a separator or what is behind it changes. -/
def LexemeEnds (old new : List Char) (c : Char) (found : LexemeKind × Nat) (length : Nat) : Prop :=
  (found.1 = .lineComment → found.2 < length) ∧
    ∀ kind, found.1 = .token kind → TokenEnds old new c (kind, found.2) length

/-- A block comment stays as it is, if it does not run to the end of the text. -/
theorem kept_blockCommentEnd (c : Char) :
    KeptOn old new (startsWith fun d => d = '*') Prod.snd (LexemeEnds old new c)
      blockCommentEnd := by
  intro s ht hle hends
  cases s with
  | nil =>
    cases old with
    | nil => simp at ht
    | cons d old =>
      unfold blockCommentEnd at hle
      split at hle <;> simp at hle
  | cons d s =>
    simp only [blockCommentEnd, List.cons_append, List.tail_cons] at hle hends ⊢
    cases hold : commentLength? (s ++ old) with
    | some n =>
      simp only [hold, List.length_cons] at hle
      rw [commentLength?_append (commentLength?_settled hold (by omega))]
    | none =>
      -- the comment runs to the end of `old`, which is empty if the comment ends before it
      simp only [hold, List.length_cons, List.length_append] at hle hends
      have := (hends.2 _ rfl).1 rfl (List.eq_nil_of_length_eq_zero (by omega))
      simp only at this
      omega

/-- A lexeme stays as it is in front of a separator. -/
theorem kept_classify (c : Char) :
    Kept old new Prod.snd (LexemeEnds old new c) (classify c) := by
  rw [show classify c = _ from funext (classify_eq c)]
  refine .ite (fun _ => .const) fun _ => ?_
  refine .choose ((frontTest_startsWith _).and _) (by simp)
    (.of_kept (.named kept_lineComment fun _ _ hends => hends.1 rfl)) ?_ ?hline
  refine .choose ((frontTest_startsWith _).and _) (by simp) ((kept_blockCommentEnd c).and _)
    ?htoken ?hblock
  case hline =>
    intro s _ hs
    cases s with
    | nil => simp at hs
    | cons d s =>
      simp only [startsWith_cons, Bool.and_eq_true, decide_eq_true_eq] at hs
      exact countWhile_pos (by simp [hs.2])
  case hblock =>
    intro s _ hs
    cases s with
    | nil => simp at hs
    | cons d s =>
      unfold blockCommentEnd
      split
      · omega
      · simp
  case htoken =>
    intro s _ hle hends
    simp only [kept_classifyToken c s rfl hle (hends.2 _ rfl)]

end

/-! ## Lexemes in front of a separator -/

/-- A separator is a lexeme of its own. -/
theorem lexemes_separator (s : List Char) :
    lexemes (';' :: s) = ⟨.token .semicolon, [';']⟩ :: lexemes s := by
  have hfront : classify ';' s = (.token .semicolon, 0) := by
    simp [classify_eq, classifyToken, show isBlank ';' = false by decide]
  rw [lexemes_cons, hfront]
  rfl

/-- The last lexeme is a token, and not one that goes on to the end of the text for want of a mark
that closes it, if nothing is behind it. -/
def EndsInToken (xs : List Lexeme) (old : List Char) : Prop :=
  ∀ x ∈ xs.getLast?, ∃ kind, x.kind = .token kind ∧ (kind.mayStayOpen = true → old ≠ [])

/-- The last lexeme is neither a line comment nor such a token. -/
def EndsClosed (xs : List Lexeme) (old : List Char) : Prop :=
  ∀ x ∈ xs.getLast?, x.kind ≠ .lineComment ∧
    ∀ kind, x.kind = .token kind → kind.mayStayOpen = true → old ≠ []

theorem EndsInToken.endsClosed {xs : List Lexeme} {old : List Char} (h : EndsInToken xs old) :
    EndsClosed xs old := by
  intro x hx
  obtain ⟨kind, hkind, hclosed⟩ := h x hx
  refine ⟨fun hline => by simp [hkind] at hline, fun kind' hkind' => ?_⟩
  cases hkind.symm.trans hkind'
  exact hclosed

/-- A placeholder that begins with `$`, the only lexeme whose end depends on what is far behind. -/
def Lexeme.isDollarParameter (x : Lexeme) : Bool :=
  x.kind = .token .parameter && x.text.head? = some '$'

/-- Lexemes stay as they are if a separator and `new` take the place of what stood behind, which the
last of them must not run into; if one of them is a placeholder that begins with `$`, `new` must not
bring a parenthesis that closes its suffix. -/
theorem lexemes_kept_of_endsClosed {old : List Char} {xs : List Lexeme}
    (h : lexemes (texts xs ++ old) = xs ++ lexemes old) (hlast : EndsClosed xs old)
    (new : List Char) (hdollar : xs.any Lexeme.isDollarParameter = true → ')' ∈ new → ')' ∈ old) :
    lexemes (texts xs ++ ';' :: new) = xs ++ ⟨.token .semicolon, [';']⟩ :: lexemes new := by
  induction xs with
  | nil => exact lexemes_separator new
  | cons x xs ih =>
    rw [texts_cons, List.append_assoc] at h
    obtain ⟨c, rest, hx, hclass, hrest⟩ := classify_of_lexemes h
    have hxs := ih hrest (fun y hy => hlast y (by cases xs <;> simp_all)) fun hany =>
      hdollar (by simp [hany])
    have hparam : x.kind = .token .parameter → c = '$' → ')' ∈ new → ')' ∈ old := fun hk hc =>
      hdollar (by simp [Lexeme.isDollarParameter, hk, hx, hc])
    have hends : LexemeEnds old new c (x.kind, rest.length) (rest ++ texts xs).length := by
      rw [List.length_append]
      by_cases hlst : xs = []
      · obtain ⟨hline, hclosed⟩ := hlast x (by simp [hlst])
        exact ⟨fun heq => absurd heq hline, fun kind hkind =>
          ⟨fun hopen hold => absurd hold (hclosed kind hkind hopen),
            fun hp => hparam (hp ▸ hkind)⟩⟩
      · have hpos := texts_length_pos hrest hlst
        exact ⟨fun _ => Nat.lt_add_of_pos_right hpos, fun kind hkind =>
          ⟨fun _ _ => Nat.lt_add_of_pos_right hpos, fun hp => hparam (hp ▸ hkind)⟩⟩
    have hsame : classify c (rest ++ texts xs ++ ';' :: new) = (x.kind, rest.length) := by
      rw [← hclass, ← List.append_assoc]
      have hkept : Kept old new Prod.snd (LexemeEnds old new c) (classify c) := kept_classify c
      have := hkept (rest ++ texts xs) rfl
      rw [List.append_assoc rest _ old, hclass] at this ⊢
      exact this (by simp) hends
    rw [texts_cons, List.append_assoc, lexemes_of_classify hx (by rwa [← List.append_assoc]), hxs]
    rfl

/-- Lexemes that end in a token stay as they are if a separator and `new` take the place of what
stood behind; if one of them is a placeholder that begins with `$`, `new` must not bring a
parenthesis that closes its suffix. -/
theorem lexemes_kept {old : List Char} {xs : List Lexeme}
    (h : lexemes (texts xs ++ old) = xs ++ lexemes old) (hlast : EndsInToken xs old)
    (new : List Char) (hdollar : xs.any Lexeme.isDollarParameter = true → ')' ∈ new → ')' ∈ old) :
    lexemes (texts xs ++ ';' :: new) = xs ++ ⟨.token .semicolon, [';']⟩ :: lexemes new :=
  lexemes_kept_of_endsClosed h hlast.endsClosed new hdollar

end SqlStream.Sql
