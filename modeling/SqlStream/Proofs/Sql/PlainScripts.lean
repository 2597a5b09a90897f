import SqlStream.Proofs.Sql.Division
import SqlStream.Text.Trim

/-!
# Plain scripts

A script without quotes, comments, triggers and placeholders that begin with `$` is split wherever
it has a semicolon. Two splitters agree on it: the one that reads tokens, and `pieces`, which cuts
the text at its semicolons and trims what is between them. They agree because every character that
is neither blank nor semicolon belongs to a token, and no token but the separator has one that is
(`Unmarked.plain`).
-/

namespace SqlStream.Sql

open SqlStream.Text

/-! ## Plain texts -/

/-- A word stands somewhere in a text, in any letter case, and is no part of a longer word. -/
def HasWord (word s : List Char) : Prop :=
  ∃ n < s.length, sameIgnoringCase word ((s.drop n).take word.length) = true ∧
    (s.take n).getLast?.any isWordChar = false ∧
    (s.drop (n + word.length)).head?.any isWordChar = false

instance (word s : List Char) : Decidable (HasWord word s) :=
  inferInstanceAs (Decidable (∃ n < s.length, _))

/-- A text in which no quote and no comment can begin, nor a placeholder with a suffix. -/
structure Unmarked (s : List Char) : Prop where
  marks : ∀ c ∈ s, c ∉ ['\'', '"', '\x60', '[', '$']
  lineComment : ¬['-', '-'] <:+: s
  blockComment : ¬['/', '*'] <:+: s

/-- A script in which no trigger can begin either. -/
structure PlainScript (s : List Char) : Prop extends Unmarked s where
  trigger : ¬HasWord "TRIGGER".toList s

/-- A part of an unmarked text is unmarked. -/
theorem Unmarked.of_infix {s t : List Char} (h : Unmarked s) (ht : t <:+: s) : Unmarked t where
  marks c hc := h.marks c (ht.subset hc)
  lineComment hpair := h.lineComment (hpair.trans ht)
  blockComment hpair := h.blockComment (hpair.trans ht)

/-! ## Pieces between separators -/

/-- A text without the blanks at its ends. -/
def trimBlanks (s : List Char) : List Char :=
  trimEndOf isBlank (s.dropWhile isBlank)

/-- The pieces of a text between its semicolons, trimmed, without those that are empty then. -/
def pieces (s : List Char) : List (List Char) :=
  ((s.splitOn ';').map trimBlanks).filter fun piece => !piece.isEmpty

@[simp] theorem pieces_nil : pieces [] = [] := by decide

/-- A semicolon separates pieces. -/
theorem pieces_append_separator (s t : List Char) :
    pieces (s ++ ';' :: t) = pieces s ++ pieces t := by
  rw [pieces, List.splitOn, List.splitOnP_append_cons s t (by decide), List.map_append,
    List.filter_append]
  rfl

/-- A blank in front of a text is trimmed. -/
theorem pieces_cons_of_isBlank {c : Char} (hc : isBlank c = true) (s : List Char) :
    pieces (c :: s) = pieces s := by
  have hsep : ¬(c == ';') = true := by
    rintro hsep
    rw [beq_iff_eq.mp hsep] at hc
    exact absurd hc (by decide)
  obtain ⟨piece, more, hsplit⟩ := List.exists_cons_of_ne_nil
    (List.splitOnP_ne_nil (p := fun d => d == ';') s)
  rw [pieces, pieces, List.splitOn, List.splitOn, List.splitOnP_cons_eq_if_modifyHead, if_neg hsep,
    hsplit, List.modifyHead_cons, List.map_cons, List.map_cons]
  simp only [trimBlanks, List.dropWhile_cons_of_pos hc]

/-- Blanks and semicolons in front of a text are no pieces. -/
theorem pieces_gap_append {gap : List Char} (hgap : ∀ c ∈ gap, isBlank c = true ∨ c = ';')
    (s : List Char) : pieces (gap ++ s) = pieces s := by
  induction gap with
  | nil => rfl
  | cons c gap ih =>
    have hrest := ih fun d hd => hgap d (List.mem_cons_of_mem _ hd)
    rw [List.cons_append]
    rcases hgap c List.mem_cons_self with hc | rfl
    · rw [pieces_cons_of_isBlank hc, hrest]
    · rw [← List.nil_append (';' :: _), pieces_append_separator, pieces_nil, List.nil_append, hrest]

/-- A text that is not empty and has no blank at its ends. -/
structure Trimmed (s : List Char) : Prop where
  ne_nil : s ≠ []
  head : ∀ c ∈ s.head?, isBlank c = false
  last : ∀ c ∈ s.getLast?, isBlank c = false

/-- Trimming takes off the blanks behind such a text and nothing else. -/
theorem Trimmed.trimBlanks_append {s trail : List Char} (h : Trimmed s)
    (htrail : ∀ c ∈ trail, isBlank c = true) : trimBlanks (s ++ trail) = s := by
  have hfront : (s ++ trail).dropWhile isBlank = s ++ trail := by
    cases s with
    | nil => exact absurd rfl h.ne_nil
    | cons c s => exact List.dropWhile_cons_of_neg (by simp [h.head c rfl])
  have hback : s.reverse.dropWhile isBlank = s.reverse := by
    have hlast := h.last
    rw [List.getLast?_eq_head?_reverse] at hlast
    cases hrev : s.reverse with
    | nil => rfl
    | cons c rest => exact List.dropWhile_cons_of_neg (by simp [hlast c (by rw [hrev]; rfl)])
  rw [trimBlanks, hfront, trimEndOf, List.reverse_append,
    List.dropWhile_append_of_pos fun c hc => htrail c (List.mem_reverse.mp hc), hback,
    List.reverse_reverse]

/-- Such a text without a semicolon is one piece. -/
theorem Trimmed.pieces_append {s trail : List Char} (h : Trimmed s) (hsep : ';' ∉ s)
    (htrail : ∀ c ∈ trail, isBlank c = true) : pieces (s ++ trail) = [s] := by
  have hmem : ';' ∉ s ++ trail := by
    rw [List.mem_append, not_or]
    exact ⟨hsep, fun hmem => absurd (htrail _ hmem) (by decide)⟩
  rw [pieces, List.splitOn_eq_singleton hmem, List.map_singleton, h.trimBlanks_append htrail]
  exact List.filter_eq_self.mpr (by simpa using h.ne_nil)

/-! ## Tokens hold neither blanks nor separators -/

/-- Characters that are neither blanks nor semicolons. -/
def isInner (c : Char) : Bool :=
  !isBlank c && c != ';'

/-- Characters of a class without blanks and semicolons. -/
theorem isInner_of_class {p : Char → Bool}
    (hp : [' ', '\t', '\n', '\x0c', '\r', ';'].all (!p ·) = true) {c : Char} (hc : p c = true) :
    isInner c = true := by
  have hne : ∀ d ∈ [' ', '\t', '\n', '\x0c', '\r', ';'], c ≠ d := by
    rintro d hd rfl
    simpa [hc] using List.all_eq_true.mp hp c hd
  simp only [List.mem_cons, List.not_mem_nil, or_false, forall_eq_or_imp, forall_eq] at hne
  simp [isInner, isBlank, hne]

/-- A scanner that counts characters that are neither blanks nor semicolons. -/
def CountsInner (f : List Char → Nat) : Prop :=
  ∀ s : List Char, ∀ c ∈ s.take (f s), isInner c = true

/-- What a leading run counts is the text as far as the class goes. -/
theorem take_countWhile (p : Char → Bool) (s : List Char) :
    s.take (countWhile p s) = s.takeWhile p :=
  (List.prefix_iff_eq_take.mp (List.takeWhile_prefix p)).symm

/-- A leading run without blanks and semicolons counts inner characters only. -/
theorem countsInner_countWhile {p : Char → Bool}
    (hp : [' ', '\t', '\n', '\x0c', '\r', ';'].all (!p ·) = true) :
    CountsInner (countWhile p) := by
  intro s c hc
  rw [take_countWhile] at hc
  exact isInner_of_class hp (List.all_eq_true.mp List.all_takeWhile c hc)

namespace CountsInner

variable {f g : List Char → Nat}

/-- A scanner that begins where another one stopped. -/
theorem andThen (hf : CountsInner f) (hg : CountsInner g) :
    CountsInner fun s => f s + g (s.drop (f s)) := by
  intro s c hc
  rw [List.take_add, List.mem_append] at hc
  exact hc.elim (hf s c) (hg _ c)

/-- A scanner that begins behind a first character. -/
theorem behind {c : Char} {cs : List Char} {n : Nat} (hc : isInner c = true)
    (hn : ∀ d ∈ cs.take n, isInner d = true) : ∀ d ∈ (c :: cs).take (1 + n), isInner d = true := by
  rw [Nat.add_comm, List.take_succ_cons]
  exact List.forall_mem_cons.mpr ⟨hc, hn⟩

end CountsInner

/-- Digits are inner characters. -/
theorem countsInner_digits : CountsInner (countWhile Char.isDigit) :=
  countsInner_countWhile (by decide)

/-- A sign is an inner character. -/
theorem countsInner_signLength : CountsInner signLength := by
  intro s c hc
  rw [signLength] at hc
  split at hc
  · rename_i hsign
    cases s with
    | nil => simp at hc
    | cons d s =>
      obtain rfl : c = d := by simpa using hc
      simp only [List.head?_cons, Option.some.injEq, Bool.or_eq_true, decide_eq_true_eq] at hsign
      rcases hsign with rfl | rfl <;> decide
  · simp at hc

/-- An exponent holds inner characters only. -/
theorem countsInner_exponentLength : CountsInner exponentLength := by
  intro s
  cases s with
  | nil => simp
  | cons d s =>
    rw [exponentLength_cons]
    split
    · rename_i hd
      split
      · simp
      · rw [Nat.add_assoc]
        refine CountsInner.behind ?_ (countsInner_signLength.andThen countsInner_digits s)
        simp only [Bool.or_eq_true, decide_eq_true_eq] at hd
        rcases hd with rfl | rfl <;> decide
    · simp

/-- A fraction holds inner characters only. -/
theorem countsInner_fractionLength : CountsInner fractionLength :=
  countsInner_digits.andThen countsInner_exponentLength

/-- What follows the whole digits of a number holds inner characters only. -/
theorem countsInner_decimalTailLength : CountsInner decimalTailLength := by
  intro s
  rw [decimalTailLength]
  split
  · rename_i hpoint
    cases s with
    | nil => simp
    | cons d s =>
      obtain rfl : d = '.' := by simpa using hpoint
      exact CountsInner.behind (by decide) (countsInner_fractionLength s)
  · exact countsInner_exponentLength s

/-- A number holds inner characters only. -/
theorem countsInner_numberLength (c : Char) : CountsInner (numberLength c) := by
  intro s
  rw [numberLength_eq]
  split
  · exact countsInner_fractionLength s
  · split
    · rename_i hmark
      cases s with
      | nil => simp
      | cons d s =>
        refine CountsInner.behind ?_ (countsInner_countWhile (p := isHexDigit) (by decide) s)
        simp only [List.head?_cons, Option.some.injEq, Bool.and_eq_true, Bool.or_eq_true,
          decide_eq_true_eq] at hmark
        rcases hmark.2 with rfl | rfl <;> decide
    · exact countsInner_digits.andThen countsInner_decimalTailLength s

/-- A word holds inner characters only. -/
theorem countsInner_word : CountsInner (countWhile isWordChar) :=
  countsInner_countWhile (by decide)

/-! ## Lexemes of plain texts -/

/-- What a lexeme of a text without marks is: a blank, a separator, or a token of characters that
are neither. -/
inductive Lexeme.IsPlain : Lexeme → Prop where
  | blank {c : Char} : isBlank c = true → IsPlain ⟨.blank, [c]⟩
  | separator : IsPlain ⟨.token .semicolon, [';']⟩
  | token {kind : TokenKind} {text : List Char} : kind.bounds = false → text ≠ [] →
      (∀ c ∈ text, isInner c = true) → IsPlain ⟨.token kind, text⟩

/-- Two characters at the front of a text stand in it side by side. -/
theorem pair_infix_of_startsWith {c d : Char} {s : List Char}
    (h : startsWith (fun e => e = d) s = true) : [c, d] <:+: c :: s := by
  cases s with
  | nil => simp at h
  | cons e s =>
    obtain rfl : e = d := by simpa using h
    exact ⟨[], s, rfl⟩

/-- A token that begins with a character that is neither blank nor semicolon has only such ones. -/
theorem Unmarked.plain_classifyToken {c : Char} {cs : List Char} (h : Unmarked (c :: cs))
    (hc : isInner c = true) :
    (classifyToken c cs).1.bounds = false ∧
      ∀ d ∈ cs.take (classifyToken c cs).2, isInner d = true := by
  have hmark := h.marks c List.mem_cons_self
  simp only [List.mem_cons, List.not_mem_nil, or_false, not_or] at hmark
  have hquote : startsWith (fun d => d = '\'') cs = false := by
    cases cs with
    | nil => rfl
    | cons d cs =>
      have := h.marks d (by simp)
      simp only [List.mem_cons, not_or] at this
      simpa using this.1
  have hsep : c ≠ ';' := by
    rintro rfl
    cases hc
  simp only [classifyToken, hsep, hmark, hquote, if_false, decide_false, Bool.or_self,
    Bool.and_false, Bool.false_and, Bool.false_eq_true]
  split
  · exact ⟨rfl, countsInner_numberLength c cs⟩
  · split
    · exact ⟨rfl, countsInner_digits cs⟩
    · split
      · exact ⟨rfl, countsInner_word cs⟩
      · split
        · exact ⟨bounds_ofWord _, countsInner_word cs⟩
        · exact ⟨rfl, by simp⟩

/-- The first lexeme of a text without marks is plain. -/
theorem Unmarked.plain_classify {c : Char} {cs : List Char} (h : Unmarked (c :: cs)) :
    Lexeme.IsPlain ⟨(classify c cs).1, c :: cs.take (classify c cs).2⟩ := by
  rw [classify_eq]
  split
  · exact .blank ‹_›
  · rename_i hblank
    split
    · rename_i hline
      rw [Bool.and_eq_true, decide_eq_true_eq] at hline
      obtain ⟨rfl, hline⟩ := hline
      exact absurd (pair_infix_of_startsWith hline) h.lineComment
    · split
      · rename_i hblock
        rw [Bool.and_eq_true, decide_eq_true_eq] at hblock
        obtain ⟨rfl, hblock⟩ := hblock
        exact absurd (pair_infix_of_startsWith hblock) h.blockComment
      · by_cases hsep : c = ';'
        · subst hsep
          exact .separator
        · have hc : isInner c = true := by simp [isInner, hblank, hsep]
          obtain ⟨hkind, hinner⟩ := h.plain_classifyToken hc
          exact .token hkind (List.cons_ne_nil _ _) (List.forall_mem_cons.mpr ⟨hc, hinner⟩)

/-- The lexemes of a text without marks are plain. -/
theorem Unmarked.plain {s : List Char} (h : Unmarked s) : ∀ x ∈ lexemes s, x.IsPlain := by
  intro x hx
  obtain ⟨pre, post, heq⟩ := List.append_of_mem hx
  have hsuffix := lexemes_texts_suffix heq
  obtain ⟨c, cs, htext, rfl, -⟩ := lexemes_eq_cons hsuffix
  refine Unmarked.plain_classify (h.of_infix ?_)
  rw [← htext, ← texts_lexemes s, heq, texts_append]
  exact (List.suffix_append _ _).isInfix

/-! ## Keywords are whole words -/

/-- A word that is a keyword spells it, whatever its case. -/
theorem sameIgnoringCase_of_ofWord {text : List Char} {word : Keyword}
    (h : TokenKind.ofWord text = .keyword word) :
    sameIgnoringCase word.spelling.toList text = true := by
  rw [TokenKind.ofWord, Keyword.ofWord?] at h
  split at h
  · rename_i found hfound
    cases h
    exact List.find?_some (p := fun k : Keyword => sameIgnoringCase k.spelling.toList text) hfound
  · cases h

/-- A keyword is a word, to the last character that can go on in it. -/
theorem classifyToken_keyword {c : Char} {cs : List Char} {word : Keyword} {n : Nat}
    (h : classifyToken c cs = (.keyword word, n)) :
    isWordStart c = true ∧ n = countWhile isWordChar cs ∧
      sameIgnoringCase word.spelling.toList (c :: cs.take n) = true := by
  rcases classifyToken_cases c cs with ⟨-, hsep⟩ | hother | ⟨hstart, hword⟩
  · rw [hsep] at h
    cases h
  · rw [h] at hother
    simp at hother
  · obtain ⟨hkind, rfl⟩ := Prod.mk.inj (hword.symm.trans h)
    exact ⟨hstart, rfl, sameIgnoringCase_of_ofWord hkind⟩

/-- What a lexeme that is a keyword says of the text at its place. -/
structure KeywordAt (word : Keyword) (text rest : List Char) : Prop where
  start : ∃ c cs, text = c :: cs ∧ isWordChar c = true
  spelled : sameIgnoringCase word.spelling.toList text = true
  stop : ∀ c ∈ rest.head?, isWordChar c = false

/-- What may start a word may stand in it. -/
theorem isWordChar_of_isWordStart {c : Char} (h : isWordStart c = true) : isWordChar c = true := by
  simp only [isWordStart, isWordChar, Char.isAlphanum, Bool.or_eq_true] at h ⊢
  grind

/-- A keyword among the lexemes of a text is a word there, and no longer one begins with it. -/
theorem keywordAt_of_lexemes {s : List Char} {pre post : List Lexeme} {x : Lexeme} {word : Keyword}
    (h : lexemes s = pre ++ x :: post) (hx : x.tokenKind? = some (.keyword word)) :
    KeywordAt word x.text (texts post) := by
  have hkind := Lexeme.kind_eq_of_tokenKind? hx
  obtain ⟨c, cs, -, rfl, hrest⟩ := lexemes_eq_cons (lexemes_texts_suffix h)
  have hclass : classify c cs = (.token (.keyword word), (classify c cs).2) := Prod.ext hkind rfl
  obtain ⟨hstart, hlength, hspelled⟩ := classifyToken_keyword (classifyToken_of_classify hclass nofun)
  refine ⟨⟨c, _, rfl, isWordChar_of_isWordStart hstart⟩, hspelled, ?_⟩
  rw [← hrest, texts_lexemes, hlength]
  exact head?_drop_countWhile isWordChar cs

/-! ## Triggers need the word -/

/-- Nowhere among tokens does `CREATE` begin a trigger. -/
def NoTrigger (kinds : List TokenKind) : Prop :=
  ∀ before behind, kinds = before ++ .keyword .CREATE :: behind → openTrigger behind = false

/-- Tokens that hold no trigger hold none in a later part. -/
theorem NoTrigger.of_append {before kinds : List TokenKind} (h : NoTrigger (before ++ kinds)) :
    NoTrigger kinds :=
  fun front behind heq => h (before ++ front) behind (by rw [heq, List.append_assoc])

/-- What stands behind tokens where a statement can end does not matter to them. -/
theorem NoTrigger.of_bounds {kinds more : List TokenKind} (h : NoTrigger (kinds ++ more))
    (hmore : ∀ kind ∈ more.head?, kind.bounds = true) : NoTrigger kinds := by
  intro before behind heq
  rw [← openTrigger_append hmore]
  exact h before (behind ++ more) (by rw [heq, List.append_assoc]; rfl)

/-- A token and the one behind it, where they stand among lexemes. -/
theorem exists_of_kindsOf_eq {xs : List Lexeme} {before behind : List TokenKind}
    {first second : TokenKind} (h : kindsOf xs = before ++ first :: second :: behind) :
    ∃ pre x gap y post, xs = pre ++ x :: (gap ++ y :: post) ∧ x.tokenKind? = some first ∧
      kindsOf gap = [] ∧ y.tokenKind? = some second := by
  obtain ⟨pre, rest, rfl, -, hrest⟩ := List.filterMap_eq_append_iff.mp h
  obtain ⟨loose, x, more, rfl, -, hx, hmore⟩ := List.filterMap_eq_cons_iff.mp hrest
  obtain ⟨gap, y, post, rfl, hgap, hy, -⟩ := List.filterMap_eq_cons_iff.mp hmore
  exact ⟨pre ++ loose, x, gap, y, post, by simp, hx, List.filterMap_eq_nil_iff.mpr hgap, hy⟩

/-- Plain lexemes without a token are blanks. -/
theorem isBlank_of_kindsOf_eq_nil {xs : List Lexeme} (hplain : ∀ x ∈ xs, x.IsPlain)
    (h : kindsOf xs = []) : ∀ c ∈ texts xs, isBlank c = true := by
  intro c hc
  obtain ⟨x, hx, hc⟩ := List.mem_flatMap.mp hc
  have hnone := List.filterMap_eq_nil_iff.mp h x hx
  cases hplain x hx with
  | blank hblank =>
    obtain rfl := List.mem_singleton.mp hc
    exact hblank
  | separator => cases hnone
  | token => cases hnone

/-- Texts that agree but for case have the same length. -/
theorem length_eq_of_sameIgnoringCase {s t : List Char} (h : sameIgnoringCase s t = true) :
    t.length = s.length := by
  simpa using (congrArg List.length (beq_iff_eq.mp h)).symm

/-- A blank stands in no word. -/
theorem isWordChar_of_isBlank {c : Char} (h : isBlank c = true) : isWordChar c = false := by
  simp only [isBlank, Bool.or_eq_true, decide_eq_true_eq] at h
  rcases h with (((rfl | rfl) | rfl) | rfl) | rfl <;> decide

/-- Where a keyword stands behind another one, its word is in the text: there is a blank between the
two, else they would be one word. -/
theorem hasWord_of_kindsOf_eq {s : List Char} (hs : Unmarked s) {before behind : List TokenKind}
    {first word : Keyword}
    (h : kindsOf (lexemes s) = before ++ .keyword first :: .keyword word :: behind) :
    HasWord word.spelling.toList s := by
  obtain ⟨pre, x, gap, y, post, hxs, hx, hgap, hy⟩ := exists_of_kindsOf_eq h
  obtain ⟨-, -, hstop⟩ := keywordAt_of_lexemes hxs hx
  rw [← List.cons_append, ← List.append_assoc] at hxs
  obtain ⟨⟨c, cs, hword, hc⟩, hspelled, hend⟩ := keywordAt_of_lexemes hxs hy
  have hblank : ∀ d ∈ texts gap, isBlank d = true :=
    isBlank_of_kindsOf_eq_nil (fun z hz => hs.plain z (by rw [hxs]; simp [hz])) hgap
  have hne : texts gap ≠ [] := by
    intro hnil
    have := hstop c (by rw [texts_append, hnil, texts_cons, hword]; rfl)
    rw [hc] at this
    cases this
  have htext : s = texts pre ++ x.text ++ texts gap ++ (y.text ++ texts post) := by
    rw [← texts_lexemes s, hxs]
    simp
  have hlength := length_eq_of_sameIgnoringCase hspelled
  generalize texts pre ++ x.text = front at htext
  refine ⟨(front ++ texts gap).length, ?_, ?_, ?_, ?_⟩
  · rw [htext, hword]
    simp only [List.length_append, List.length_cons]
    omega
  · rwa [htext, List.drop_left, ← hlength, List.take_left]
  · rw [htext, List.take_left, List.getLast?_append, List.getLast?_eq_some_getLast hne,
      Option.some_or]
    exact isWordChar_of_isBlank (hblank _ (List.getLast_mem hne))
  · rw [htext, ← List.drop_drop, List.drop_left, ← hlength, List.drop_left]
    exact (Option.any_eq_false ..).mpr hend

/-- In a plain script no trigger begins. -/
theorem PlainScript.noTrigger {s : List Char} (h : PlainScript s) :
    NoTrigger (kindsOf (lexemes s)) := by
  intro before behind hkinds
  refine Bool.eq_false_iff.mpr fun hopen => h.trigger ?_
  have htemporary : ∀ {first : Keyword} {rest : List TokenKind},
      behind = .keyword first :: rest → rest.head? = some (.keyword .TRIGGER) →
      HasWord "TRIGGER".toList s := by
    rintro first rest rfl hhead
    obtain ⟨rest, rfl⟩ := List.head?_eq_some_iff.mp hhead
    have hkinds : kindsOf (lexemes s) =
        (before ++ [.keyword .CREATE]) ++ .keyword first :: .keyword .TRIGGER :: rest := by
      simp [hkinds]
    have hword := hasWord_of_kindsOf_eq h.toUnmarked hkinds
    exact hword
  unfold openTrigger at hopen
  split at hopen
  · have hword := hasWord_of_kindsOf_eq h.toUnmarked hkinds
    exact hword
  · exact htemporary rfl (of_decide_eq_true hopen)
  · exact htemporary rfl (of_decide_eq_true hopen)
  · cases hopen

/-! ## The two splitters agree -/

/-- Where no trigger begins, a statement is plain and has no separator. -/
theorem plain_of_statementPhase? {kinds : List TokenKind} {phase : Phase}
    (hnone : NoTrigger kinds) (h : statementPhase? kinds = some phase) :
    phase = .plain ∧ ∀ kind ∈ kinds, kind.bounds = false := by
  cases kinds with
  | nil => cases h
  | cons kind kinds =>
    have hfirst : firstPhase kind kinds = .plain := by
      rw [firstPhase, if_neg]
      rw [Bool.and_eq_true, decide_eq_true_eq]
      rintro ⟨rfl, hopen⟩
      rw [hnone [] kinds rfl] at hopen
      cases hopen
    rw [statementPhase?] at h
    split at h
    · cases h
    · rename_i hkind
      rw [hfirst, Phase.plain_after?] at h
      split at h
      · cases h
      · rename_i hkinds
        cases h
        refine ⟨rfl, List.forall_mem_cons.mpr ⟨by simpa using hkind, fun other hother => ?_⟩⟩
        exact Bool.eq_false_iff.mpr fun hbounds => hkinds (List.any_eq_true.mpr ⟨_, hother, hbounds⟩)

/-- Plain lexemes with no token but separators are blanks and semicolons. -/
theorem isBlank_or_of_kindsOf {xs : List Lexeme} (hplain : ∀ x ∈ xs, x.IsPlain)
    (h : ∀ kind ∈ kindsOf xs, kind.bounds = true) :
    ∀ c ∈ texts xs, isBlank c = true ∨ c = ';' := by
  intro c hc
  obtain ⟨x, hx, hc⟩ := List.mem_flatMap.mp hc
  have hbounds := fun kind hkind => h kind (List.mem_filterMap.mpr ⟨x, hx, hkind⟩)
  cases hplain x hx with
  | blank hblank =>
    obtain rfl := List.mem_singleton.mp hc
    exact .inl hblank
  | separator => exact .inr (List.mem_singleton.mp hc)
  | token hkind =>
    rw [hbounds _ rfl] at hkind
    cases hkind

/-- Plain lexemes without a separator have no semicolon. -/
theorem separator_notMem_of_kindsOf {xs : List Lexeme} (hplain : ∀ x ∈ xs, x.IsPlain)
    (h : ∀ kind ∈ kindsOf xs, kind.bounds = false) : ';' ∉ texts xs := by
  intro hc
  obtain ⟨x, hx, hc⟩ := List.mem_flatMap.mp hc
  cases hplain x hx with
  | blank hblank =>
    rw [← List.mem_singleton.mp hc] at hblank
    exact absurd hblank (by decide)
  | separator => exact absurd (h .semicolon (List.mem_filterMap.mpr ⟨_, hx, rfl⟩)) (by decide)
  | token _ _ hinner => exact absurd (hinner _ hc) (by decide)

/-- A plain token has no blanks. -/
theorem Lexeme.IsPlain.of_isToken {x : Lexeme} (h : x.IsPlain) (hx : x.isToken = true) :
    x.text ≠ [] ∧ ∀ c ∈ x.text, isBlank c = false := by
  cases h with
  | blank => cases hx
  | separator => exact ⟨List.cons_ne_nil _ _, List.forall_mem_singleton.mpr rfl⟩
  | token _ hne hinner =>
    refine ⟨hne, fun c hc => ?_⟩
    have := hinner c hc
    rw [isInner, Bool.and_eq_true, Bool.not_eq_true'] at this
    exact this.1

/-- A statement of plain lexemes has no blank at its ends. -/
theorem IsStatement.trimmed {xs : List Lexeme} (h : IsStatement xs) (hplain : ∀ x ∈ xs, x.IsPlain) :
    Trimmed (texts xs) := by
  obtain ⟨x, hhead, hx⟩ := (Option.any_eq_true _ _).mp h.first
  obtain ⟨rest, rfl⟩ := List.head?_eq_some_iff.mp hhead
  obtain ⟨hne, hloose⟩ := (hplain x List.mem_cons_self).of_isToken hx
  refine ⟨by simp [hne], ?_, ?_⟩
  · rw [texts_cons, List.head?_append, List.head?_eq_some_head hne, Option.some_or]
    rintro c ⟨⟩
    exact hloose _ (List.head_mem hne)
  · obtain ⟨y, hlast, hy⟩ := (Option.any_eq_true _ _).mp h.last
    obtain ⟨front, hfront⟩ := List.getLast?_eq_some_iff.mp hlast
    obtain ⟨hne, hloose⟩ := (hplain y (by simp [hfront])).of_isToken hy
    rw [hfront, texts_append, List.getLast?_append, texts_cons, texts_nil, List.append_nil,
      List.getLast?_eq_some_getLast hne, Option.some_or]
    rintro c ⟨⟩
    exact hloose _ (List.getLast_mem hne)

/-- No comment is left open among plain lexemes. -/
theorem unterminatedComment_notMem_kindsOf {xs : List Lexeme} (hplain : ∀ x ∈ xs, x.IsPlain) :
    .unterminatedComment ∉ kindsOf xs := by
  intro hmem
  obtain ⟨x, hx, hkind⟩ := List.mem_filterMap.mp hmem
  cases hplain x hx with
  | blank => cases hkind
  | separator => cases hkind
  | token hbounds =>
    cases hkind
    cases hbounds

/-- The statements that the splitter finds among plain lexemes are the pieces of their text, and
the last one is no trigger. -/
theorem Splits.pieces_texts {xs : List Lexeme} {bodies : List (List Lexeme)} {inTrigger : Bool}
    (h : Splits xs bodies inTrigger) (hplain : ∀ x ∈ xs, x.IsPlain)
    (hnone : NoTrigger (kindsOf xs)) :
    pieces (texts xs) = bodies.map texts ∧ inTrigger = false := by
  have hgapPieces : ∀ {gap : List Lexeme} (s : List Char), (∀ x ∈ gap, x.IsPlain) →
      (∀ kind ∈ kindsOf gap, kind = .semicolon) → pieces (texts gap ++ s) = pieces s := by
    intro gap s hplain hgap
    refine pieces_gap_append (isBlank_or_of_kindsOf hplain fun kind hkind => ?_) s
    rw [hgap kind hkind]
    rfl
  induction h with
  | gap hgap =>
    have hblank := isBlank_or_of_kindsOf hplain hgap
    refine ⟨?_, rfl⟩
    rw [← List.append_nil (texts _), pieces_gap_append hblank, pieces_nil, List.map_nil]
  | @last gap body trail phase hgap hbody hphase htrail =>
    simp only [List.forall_mem_append] at hplain
    obtain ⟨hplainGap, hplainBody, hplainTrail⟩ := hplain
    have hloose : kindsOf trail = [] := by
      refine List.eq_nil_iff_forall_not_mem.mpr fun kind hkind => ?_
      rw [htrail kind hkind] at hkind
      exact unterminatedComment_notMem_kindsOf hplainTrail hkind
    rw [kindsOf_append, kindsOf_append, hloose, List.append_nil] at hnone
    obtain ⟨rfl, hbounds⟩ := plain_of_statementPhase? hnone.of_append hphase
    refine ⟨?_, rfl⟩
    rw [texts_append, texts_append, hgapPieces _ hplainGap hgap,
      (hbody.trimmed hplainBody).pieces_append (separator_notMem_of_kindsOf hplainBody hbounds)
        (isBlank_of_kindsOf_eq_nil hplainTrail hloose), List.map_singleton]
  | @statement gap body trail rest x bodies inTrigger hgap hbody hphase htrail hx _ ih =>
    simp only [List.forall_mem_append, List.forall_mem_cons] at hplain
    obtain ⟨hplainGap, hplainBody, hplainTrail, hplainSep, hplainRest⟩ := hplain
    have hkinds : kindsOf (trail ++ x :: rest) = .semicolon :: kindsOf rest := by
      rw [kindsOf_append, htrail, kindsOf_cons, hx]
      rfl
    rw [kindsOf_append, kindsOf_append, hkinds] at hnone
    have hbounds := (plain_of_statementPhase?
      (hnone.of_append.of_bounds (by rintro kind ⟨⟩; rfl)) hphase).2
    have hsep : x.text = [';'] := by
      cases hplainSep with
      | blank => cases hx
      | separator => rfl
      | token hkind =>
        cases hx
        cases hkind
    have hnoneRest : NoTrigger (kindsOf gap ++ (kindsOf body ++ [.semicolon]) ++ kindsOf rest) := by
      simpa using hnone
    obtain ⟨hrest, htrigger⟩ := ih hplainRest hnoneRest.of_append
    refine ⟨?_, htrigger⟩
    rw [texts_append, texts_append, texts_append, texts_cons, hsep, hgapPieces _ hplainGap hgap,
      ← List.append_assoc, List.singleton_append, pieces_append_separator, hrest,
      (hbody.trimmed hplainBody).pieces_append (separator_notMem_of_kindsOf hplainBody hbounds)
        (isBlank_of_kindsOf_eq_nil hplainTrail htrail), List.map_cons]
    rfl

/-- A plain script is split into the pieces of its text, and nothing is missing at its end. -/
theorem splitStatements_plain {sql : String} (h : PlainScript sql.toList) :
    (splitStatements sql).1 = (pieces sql.toList).map String.ofList ∧
      (splitStatements sql).2.needsMoreInput = false := by
  have hplain := h.toUnmarked.plain
  obtain ⟨bodies, inTrigger, hsplits⟩ := exists_splits (openCommentLast_lexemes sql.toList)
  obtain ⟨hpieces, rfl⟩ := hsplits.pieces_texts hplain h.noTrigger
  obtain ⟨hstatements, htrigger, hcomment⟩ := hsplits.splitStatements_eq
  rw [texts_lexemes] at hpieces
  constructor
  · rw [hstatements, hpieces, List.map_map]
    rfl
  · rw [SplitInfo.needsMoreInput, htrigger, hcomment,
      decide_eq_false (unterminatedComment_notMem_kindsOf hplain)]
    rfl

/-- Numbers, placeholders, operators, words that contain others and characters that are no blanks
to SQL next to separators. -/
theorem splitStatements_plain_of_mixed :
    PlainScript "\t;select .5e-3;CREATE trigger_log(é) ;;?1 + :b-0xfF / *\x0b\n; @c;".toList ∧
      (splitStatements "\t;select .5e-3;CREATE trigger_log(é) ;;?1 + :b-0xfF / *\x0b\n; @c;").1 =
        ["select .5e-3", "CREATE trigger_log(é)", "?1 + :b-0xfF / *\x0b", "@c"] ∧
      (splitStatements
        "\t;select .5e-3;CREATE trigger_log(é) ;;?1 + :b-0xfF / *\x0b\n; @c;").2.needsMoreInput =
          false := by
  have hmarks : ("\t;select .5e-3;CREATE trigger_log(é) ;;?1 + :b-0xfF / *\x0b\n; @c;".toList.all
      fun c => c ∉ ['\'', '"', '\x60', '[', '$']) = true := by decide +kernel
  have hplain :
      PlainScript "\t;select .5e-3;CREATE trigger_log(é) ;;?1 + :b-0xfF / *\x0b\n; @c;".toList :=
    ⟨⟨fun c hc => of_decide_eq_true (List.all_eq_true.mp hmarks c hc), by decide +kernel,
      by decide +kernel⟩, by decide +kernel⟩
  obtain ⟨hstatements, hcomplete⟩ := splitStatements_plain hplain
  exact ⟨hplain, hstatements.trans (by decide +kernel), hcomplete⟩

end SqlStream.Sql
