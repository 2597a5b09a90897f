import SqlStream.Proofs.Sql.Bytes
import SqlStream.Proofs.Sql.Locality

/-!
# Reading byte by byte

A text can be read by its bytes, each taken as the character of its number, as well as by its
characters. Scanners look for characters of ASCII alone and take all others alike, so they count as
many bytes as the characters have that they count (`Bytewise`). So reading by bytes finds the
lexemes that reading by characters does (`lexemes_bytesOf`), and the same tokens at the same offsets
(`byteSpans_eq`).
-/

namespace SqlStream.Sql

open SqlStream.Text

/-! ## Tests of characters -/

/-- True of a class of characters that holds no character outside ASCII. -/
def Narrow (p : Char → Bool) : Prop :=
  ∀ c, isWide c = true → p c = false

/-- True of a class of characters that holds all characters outside ASCII. -/
def Broad (p : Char → Bool) : Prop :=
  ∀ c, isWide c = true → p c = true

/-- A character of a narrow class is ASCII. -/
theorem Narrow.isWide_eq_false {p : Char → Bool} (hp : Narrow p) {c : Char} (h : p c = true) :
    isWide c = false := by
  cases hc : isWide c with
  | false => rfl
  | true => exact absurd h (by simp [hp c hc])

/-- True of a test of a text that gives the same of its bytes. -/
def BytewiseTest (test : List Char → Bool) : Prop :=
  ∀ s, test (bytesOf s) = test s

/-- A class that takes all characters outside ASCII alike is tested by the first byte. -/
theorem bytewiseTest_startsWith {p : Char → Bool} (hp : Narrow p ∨ Broad p) :
    BytewiseTest (startsWith p) := by
  intro s
  cases s with
  | nil => rfl
  | cons c s =>
    obtain ⟨b, bs, hbytes⟩ := exists_bytesOfChar_eq_cons c
    rw [bytesOf_cons, hbytes, List.cons_append, startsWith_cons, startsWith_cons]
    cases hc : isWide c with
    | false =>
      rw [bytesOfChar_of_not_isWide hc] at hbytes
      rw [(List.cons.inj hbytes).1]
    | true =>
      have hb : isWide b = true := isWide_of_mem_bytesOfChar hc (hbytes ▸ List.mem_cons_self)
      rcases hp with hp | hp <;> rw [hp b hb, hp c hc]

/-- A bytewise test stays one behind a further condition. -/
theorem BytewiseTest.and {test : List Char → Bool} (h : BytewiseTest test) (known : Bool) :
    BytewiseTest fun s => known && test s :=
  fun s => congrArg (known && ·) (h s)

/-- A bytewise test stays one beside another way to pass. -/
theorem BytewiseTest.or {test : List Char → Bool} (h : BytewiseTest test) (known : Bool) :
    BytewiseTest fun s => known || test s :=
  fun s => congrArg (known || ·) (h s)

/-- A character beyond ASCII is no ASCII character. -/
theorem ne_of_isWide {c d : Char} (hc : isWide c = true) (hd : isWide d = false) : c ≠ d := by
  rintro rfl
  exact Bool.false_ne_true (hd.symm.trans hc)

/-- Being one given ASCII character is a narrow class. -/
theorem narrow_eq {d : Char} (hd : isWide d = false) : Narrow fun c => c = d :=
  fun _ hc => decide_eq_false (ne_of_isWide hc hd)

/-- Being any character but one ASCII character is a broad class. -/
theorem broad_ne {d : Char} (hd : isWide d = false) : Broad fun c => c != d :=
  fun _ hc => bne_iff_ne.mpr (ne_of_isWide hc hd)

/-- A character outside ASCII comes behind all of ASCII. -/
theorem not_le_of_isWide {c d : Char} (hc : isWide c = true) (hd : isWide d = false) : ¬ c ≤ d := by
  have hlarge : 128 ≤ c.val.toNat := of_decide_eq_true hc
  have hsmall : ¬ 128 ≤ d.val.toNat := of_decide_eq_false hd
  intro hle
  have hnat : c.val.toNat ≤ d.val.toNat := UInt32.le_iff_toNat_le.mp hle
  omega

/-- Only ASCII characters are digits. -/
theorem narrow_isDigit : Narrow Char.isDigit := by
  intro c hc
  have hnine : ¬ c.val ≤ '9'.val := not_le_of_isWide hc rfl
  rw [Char.isDigit, decide_eq_false hnine, Bool.and_false]

/-- Only ASCII characters are hexadecimal digits. -/
theorem narrow_isHexDigit : Narrow isHexDigit := by
  intro c hc
  have hlower : ¬ c ≤ 'f' := not_le_of_isWide hc rfl
  have hupper : ¬ c ≤ 'F' := not_le_of_isWide hc rfl
  simp [isHexDigit, narrow_isDigit c hc, hlower, hupper]

/-- Only ASCII characters are blanks. -/
theorem narrow_isBlank : Narrow isBlank := by
  intro c hc
  have hspace : c ≠ ' ' := ne_of_isWide hc rfl
  have htab : c ≠ '\t' := ne_of_isWide hc rfl
  have hline : c ≠ '\n' := ne_of_isWide hc rfl
  have hform : c ≠ '\x0c' := ne_of_isWide hc rfl
  have hreturn : c ≠ '\r' := ne_of_isWide hc rfl
  simp [isBlank, hspace, htab, hline, hform, hreturn]

/-- Every character beyond ASCII may start a word. -/
theorem broad_isWordStart : Broad isWordStart := by
  intro c hc
  simp [isWordStart, hc]

/-- Every character beyond ASCII may stand in a word. -/
theorem broad_isWordChar : Broad isWordChar := by
  intro c hc
  simp [isWordChar, hc]

/-! ## Scanners that count bytes -/

/-- A character of ASCII at the front of a text is one byte of those that are counted. -/
theorem byteLength_take_one_add {c : Char} (hc : isWide c = false) (s : List Char) (n : Nat) :
    byteLength ((c :: s).take (1 + n)) = 1 + byteLength (s.take n) := by
  rw [Nat.add_comm 1 n, List.take_succ_cons, byteLength_cons, utf8Size_of_not_isWide hc]

/-- In texts that pass a test, a scanner counts as many bytes as the characters have that it
counts. -/
def BytewiseOn (test : List Char → Bool) (f : List Char → Nat) : Prop :=
  ∀ s, test s = true → f (bytesOf s) = byteLength (s.take (f s))

/-- A scanner that counts so in every text. -/
abbrev Bytewise (f : List Char → Nat) : Prop :=
  BytewiseOn (fun _ => true) f

namespace BytewiseOn

variable {test : List Char → Bool} {f : List Char → Nat}

/-- A count that is bytewise on every text is so on the texts of any test. -/
theorem of_bytewise (hf : Bytewise f) : BytewiseOn test f :=
  fun s _ => hf s rfl

/-- A scanner that counts the first character, which is one of ASCII, and goes on behind it. -/
theorem behind {p : Char → Bool} (htest : ∀ s, test s = true → startsWith p s = true)
    (hp : Narrow p) (hf : Bytewise f) : BytewiseOn test fun s => 1 + f s.tail := by
  intro s hs
  cases s with
  | nil => simpa using htest [] hs
  | cons c s =>
    have hpc := htest (c :: s) hs
    rw [startsWith_cons] at hpc
    have hc := hp.isWide_eq_false hpc
    show 1 + f (bytesOf (c :: s)).tail = byteLength ((c :: s).take (1 + f s))
    rw [bytesOf_cons_of_not_isWide hc, List.tail_cons, hf s rfl, byteLength_take_one_add hc]

end BytewiseOn

namespace Bytewise

variable {f g : List Char → Nat}

/-- Counting nothing is bytewise. -/
theorem zero : Bytewise fun _ => 0 :=
  fun _ _ => rfl

/-- A choice between two bytewise counts is bytewise. -/
theorem ite (p : Prop) [Decidable p] (hf : Bytewise f) (hg : Bytewise g) :
    Bytewise fun s => if p then f s else g s := by
  by_cases h : p
  · simpa [h] using hf
  · simpa [h] using hg

/-- A choice that the bytes make as well. -/
theorem choose {test : List Char → Bool} (htest : BytewiseTest test) (hf : BytewiseOn test f)
    (hg : Bytewise g) : Bytewise fun s => if test s then f s else g s := by
  intro s _
  simp only [htest s]
  split
  · rename_i hs
    exact hf s hs
  · exact hg s rfl

/-- A scanner that begins where another one stopped. -/
theorem andThen (hf : Bytewise f) (hg : Bytewise g) :
    Bytewise fun s => f s + g (s.drop (f s)) := by
  intro s _
  simp only [hf s rfl, drop_bytesOf, hg (s.drop (f s)) rfl]
  rw [← byteLength_append, ← List.take_add]

/-- A scanner that counts nothing in front of a character outside ASCII. -/
theorem of_narrow (hnil : f [] = 0) (hwide : ∀ c s, isWide c = true → f (c :: s) = 0)
    (hcons : ∀ c s, isWide c = false →
      f (c :: bytesOf s) = byteLength ((c :: s).take (f (c :: s)))) : Bytewise f := by
  intro s _
  cases s with
  | nil =>
    rw [bytesOf_nil, hnil]
    rfl
  | cons c s =>
    cases hc : isWide c with
    | true =>
      obtain ⟨b, bs, hbytes⟩ := exists_bytesOfChar_eq_cons c
      have hb : isWide b = true := isWide_of_mem_bytesOfChar hc (hbytes ▸ List.mem_cons_self)
      rw [bytesOf_cons, hbytes, List.cons_append, hwide b _ hb, hwide c s hc]
      rfl
    | false =>
      rw [bytesOf_cons_of_not_isWide hc]
      exact hcons c s hc

/-- A scanner that counts characters of its text counts none of the bytes exactly if it counts no
character. -/
theorem eq_zero_iff (hf : Bytewise f) {s : List Char} (hle : f s ≤ s.length) :
    f (bytesOf s) = 0 ↔ f s = 0 := by
  rw [hf s rfl]
  constructor
  · intro hzero
    have hnil : s.take (f s) = [] := Classical.byContradiction fun hne => by
      have := byteLength_pos hne
      omega
    have hlength := congrArg List.length hnil
    rwa [List.length_take_of_le hle] at hlength
  · intro hzero
    rw [hzero]
    rfl

end Bytewise

/-! ## Scanners of words and quotes -/

/-- All characters of a broad class at the front of a text are counted. -/
theorem CountsPairs.append {p q r : Char → Bool} {last : Nat} {f : List Char → Nat}
    (h : CountsPairs p q r last f) {s : List Char} (hs : ∀ c ∈ s, p c = true) (t : List Char) :
    f (s ++ t) = s.length + f t := by
  induction s with
  | nil => simp
  | cons c s ih =>
    rw [List.cons_append, h.cons, if_pos (hs c List.mem_cons_self),
      ih fun d hd => hs d (List.mem_cons_of_mem c hd), List.length_cons]
    omega

/-- A character outside ASCII is counted with all its bytes, or none of these is. -/
theorem CountsPairs.bytewise_of_isWide {p q r : Char → Bool} {last : Nat} {f : List Char → Nat}
    (h : CountsPairs p q r last f) (hp : Broad p ∨ Narrow p ∧ Narrow q ∧ last = 0) {c : Char}
    (hc : isWide c = true) {s : List Char} (hs : f (bytesOf s) = byteLength (s.take (f s))) :
    f (bytesOf (c :: s)) = byteLength ((c :: s).take (f (c :: s))) := by
  have hall : ∀ d ∈ bytesOfChar c, isWide d = true := fun d => isWide_of_mem_bytesOfChar hc
  rw [bytesOf_cons, h.cons c]
  rcases hp with hp | ⟨hp, hq, rfl⟩
  · rw [h.append (fun d hd => hp d (hall d hd)), if_pos (hp c hc), hs, Nat.add_comm 1 (f s),
      List.take_succ_cons, byteLength_cons, length_bytesOfChar]
  · obtain ⟨b, bs, hbytes⟩ := exists_bytesOfChar_eq_cons c
    have hb := hall b (hbytes ▸ List.mem_cons_self)
    rw [hbytes, List.cons_append, h.cons b, hp b hb, hq b hb, hp c hc, hq c hc]
    rfl

/-- A count of characters and pairs counts bytes, if it goes on at all characters outside ASCII, or
stops in front of each. -/
theorem CountsPairs.count_bytesOf {p q r : Char → Bool} {last : Nat} {f : List Char → Nat}
    (h : CountsPairs p q r last f) (hp : Broad p ∨ Narrow p ∧ Narrow q ∧ last = 0)
    (hr : Narrow r) : ∀ s, f (bytesOf s) = byteLength (s.take (f s))
  | [] => by
    rw [bytesOf_nil, h.nil]
    rfl
  | c :: s => by
    have ih := h.count_bytesOf hp hr s
    cases hc : isWide c with
    | true => exact h.bytewise_of_isWide hp hc ih
    | false =>
      rw [bytesOf_cons_of_not_isWide hc, h.cons c, h.cons c,
        bytewiseTest_startsWith (.inl hr) s]
      split
      · rw [ih, byteLength_take_one_add hc]
      · split
        · rename_i hpair
          cases s with
          | nil => simp at hpair
          | cons d s =>
            rw [startsWith_cons, Bool.and_eq_true] at hpair
            have hd := hr.isWide_eq_false hpair.2
            have ih' := h.count_bytesOf hp hr s
            rw [bytesOf_cons_of_not_isWide hd, List.tail_cons, List.tail_cons, ih',
              show 2 + f s = 1 + (1 + f s) by omega, byteLength_take_one_add hc,
              byteLength_take_one_add hd]
            omega
        · have hlast := h.last_le
          rcases Nat.le_one_iff_eq_zero_or_eq_one.mp hlast with rfl | rfl
          · rfl
          · simp [utf8Size_of_not_isWide hc]
termination_by s => s.length

/-- A count by single characters and pairs is bytewise if its classes are broad or ASCII. -/
theorem CountsPairs.bytewise {p q r : Char → Bool} {last : Nat} {f : List Char → Nat}
    (h : CountsPairs p q r last f) (hp : Broad p ∨ Narrow p ∧ Narrow q ∧ last = 0)
    (hr : Narrow r) : Bytewise f :=
  fun s _ => h.count_bytesOf hp hr s

/-- Counting a leading run is a count by pairs that has no pairs. -/
theorem countsPairs_countWhile (p : Char → Bool) :
    CountsPairs p (fun _ => false) (fun _ => false) 0 (countWhile p) where
  last_le := Nat.zero_le 1
  nil := rfl
  cons c cs := by simp [countWhile_cons, Nat.add_comm]

/-- The length of a leading run of a broad or narrow class is found from the bytes. -/
theorem bytewise_countWhile {p : Char → Bool} (hp : Broad p ∨ Narrow p) :
    Bytewise (countWhile p) :=
  (countsPairs_countWhile p).bytewise (hp.imp_right fun hp => ⟨hp, fun _ _ => rfl, rfl⟩)
    fun _ _ => rfl

/-- The length of a quoted text is found from the bytes. -/
theorem bytewise_quotedLength {close : Char} (hclose : isWide close = false) (doubled : Bool) :
    Bytewise (quotedLength close doubled) := by
  have h : CountsPairs (· != close) (fun _ => doubled) (fun d => d = close) 1
      (quotedLength close doubled) :=
    ⟨Nat.le_refl 1, rfl, quotedLength_cons close doubled⟩
  exact h.bytewise (.inl (broad_ne hclose)) (narrow_eq hclose)

/-- The length of a name joined by `::` is found from the bytes. -/
theorem bytewise_joinedNameLength : Bytewise joinedNameLength := by
  have h : CountsPairs isWordChar (fun c => c = ':') (fun d => d = ':') 0 joinedNameLength :=
    ⟨by omega, rfl, joinedNameLength_cons⟩
  exact h.bytewise (.inl broad_isWordChar) (narrow_eq rfl)

/-! ## Scanners of comments and numbers -/

/-- No byte of a character outside ASCII belongs to an end mark. -/
theorem commentLength?_append_of_isWide {s : List Char} (hs : ∀ c ∈ s, isWide c = true)
    (t : List Char) : commentLength? (s ++ t) = (commentLength? t).map (s.length + ·) := by
  induction s with
  | nil => simp
  | cons c s ih =>
    have hc : c ≠ '*' := ne_of_isWide (hs c List.mem_cons_self) rfl
    rw [List.cons_append, commentLength?_cons, if_neg (by simp [hc]),
      ih fun d hd => hs d (List.mem_cons_of_mem c hd), Option.map_map]
    refine congrArg (Option.map · _) (funext fun n => ?_)
    show 1 + (s.length + n) = s.length + 1 + n
    omega

/-- The bytes of a text end a block comment where its characters do. -/
theorem commentLength?_bytesOf (s : List Char) :
    commentLength? (bytesOf s) = (commentLength? s).map fun n => byteLength (s.take n) := by
  induction s with
  | nil => rfl
  | cons c s ih =>
    cases hc : isWide c with
    | true =>
      have hall : ∀ d ∈ bytesOfChar c, isWide d = true := fun d => isWide_of_mem_bytesOfChar hc
      rw [bytesOf_cons, commentLength?_append_of_isWide hall, ih, commentLength?_cons,
        if_neg (by simp [ne_of_isWide (d := '*') hc rfl]), Option.map_map, Option.map_map]
      refine congrArg (Option.map · _) (funext fun n => ?_)
      simp [Nat.add_comm 1 n]
    | false =>
      rw [bytesOf_cons_of_not_isWide hc, commentLength?_cons, commentLength?_cons,
        bytewiseTest_startsWith (.inl (narrow_eq rfl)) s]
      split
      · rename_i hmark
        cases s with
        | nil => simp at hmark
        | cons d s =>
          simp only [startsWith_cons, Bool.and_eq_true, decide_eq_true_eq] at hmark
          obtain ⟨rfl, rfl⟩ := hmark
          rfl
      · rw [ih, Option.map_map, Option.map_map]
        refine congrArg (Option.map · _) (funext fun n => ?_)
        exact (byteLength_take_one_add hc s n).symm

/-- Starting with one of two characters is a test of the first character. -/
theorem head?_eq_some_or (d e : Char) (s : List Char) :
    (decide (s.head? = some d) || decide (s.head? = some e)) =
      startsWith (fun c => c = d || c = e) s := by
  cases s <;> simp

/-- Being one of two ASCII characters is a narrow class. -/
theorem narrow_or {d e : Char} (hd : isWide d = false) (he : isWide e = false) :
    Narrow fun c => c = d || c = e := by
  intro c hc
  simp [ne_of_isWide hc hd, ne_of_isWide hc he]

/-- The length of a sign is found from the bytes. -/
theorem bytewise_signLength : Bytewise signLength := by
  have hsign : Narrow fun c => c = '+' || c = '-' := narrow_or rfl rfl
  have h : Bytewise fun s => if startsWith (fun c => c = '+' || c = '-') s then 1 else 0 :=
    .choose (bytewiseTest_startsWith (.inl hsign)) (.behind (fun _ hs => hs) hsign .zero) .zero
  have heq : signLength = fun s => if startsWith (fun c => c = '+' || c = '-') s then 1 else 0 :=
    funext fun s => by rw [signLength, head?_eq_some_or]
  rwa [heq]

/-- The digits behind the sign of an exponent are counted by bytes as by characters. -/
theorem bytewise_signedDigits :
    Bytewise fun s => signLength s + countWhile Char.isDigit (s.drop (signLength s)) :=
  bytewise_signLength.andThen (bytewise_countWhile (.inr narrow_isDigit))

/-- The length of an exponent is found from the bytes. -/
theorem bytewise_exponentLength : Bytewise exponentLength := by
  refine .of_narrow rfl (fun c s hc => ?_) (fun c s hc => ?_)
  · have hmark := narrow_or (d := 'e') (e := 'E') rfl rfl c hc
    rw [exponentLength_cons, if_neg (by simpa using hmark)]
  · have hsum := bytewise_signedDigits s rfl
    have hdrop : (bytesOf s).drop (signLength (bytesOf s)) = bytesOf (s.drop (signLength s)) := by
      rw [bytewise_signLength s rfl, drop_bytesOf]
    have hzero := (bytewise_countWhile (.inr narrow_isDigit)).eq_zero_iff
      (countWhile_le_length Char.isDigit (s.drop (signLength s)))
    rw [exponentLength_cons, exponentLength_cons]
    simp only [hdrop, hzero] at hsum ⊢
    split
    · split
      · rfl
      · rw [Nat.add_assoc, Nat.add_assoc, hsum, byteLength_take_one_add hc]
    · rfl

/-- The length of a number behind its point is found from the bytes. -/
theorem bytewise_fractionLength : Bytewise fractionLength :=
  (bytewise_countWhile (.inr narrow_isDigit)).andThen bytewise_exponentLength

/-- The length of a number behind its whole digits is found from the bytes. -/
theorem bytewise_decimalTailLength : Bytewise decimalTailLength :=
  Bytewise.choose (bytewiseTest_startsWith (.inl (narrow_eq rfl)))
    (.behind (fun _ hs => hs) (narrow_eq rfl) bytewise_fractionLength) bytewise_exponentLength

/-- The length of a number is found from the bytes. -/
theorem bytewise_numberLength (c : Char) : Bytewise (numberLength c) := by
  have hmark : Narrow fun d => d = 'x' || d = 'X' := narrow_or rfl rfl
  have hhex : BytewiseOn (fun s => c = '0' && startsWith (fun d => d = 'x' || d = 'X') s)
      fun s => 1 + countWhile isHexDigit s.tail :=
    .behind (fun _ hs => (Bool.and_eq_true _ _ ▸ hs).2) hmark
      (bytewise_countWhile (.inr narrow_isHexDigit))
  have hplain := (bytewise_countWhile (.inr narrow_isDigit)).andThen bytewise_decimalTailLength
  have h := Bytewise.ite (c = '.') bytewise_fractionLength
    (.choose ((bytewiseTest_startsWith (.inl hmark)).and (c = '0')) hhex hplain)
  have heq := funext (numberLength_eq c)
  simp only [head?_eq_some_or] at heq
  rwa [heq]

/-! ## Scanners of placeholders -/

/-- Less than all characters are less than all bytes. -/
theorem byteLength_take_lt_iff {s : List Char} {n : Nat} :
    byteLength (s.take n) < byteLength s ↔ n < s.length := by
  have hsum : byteLength (s.take n) + byteLength (s.drop n) = byteLength s := by
    rw [← byteLength_append, List.take_append_drop]
  constructor
  · intro hlt
    refine Nat.lt_of_not_le fun hle => ?_
    rw [List.drop_eq_nil_of_le hle, byteLength_nil] at hsum
    omega
  · intro hlt
    have hpos := byteLength_pos (mt List.drop_eq_nil_iff.mp (Nat.not_le.mpr hlt))
    omega

/-- The length of a bracketed suffix is found from the bytes. -/
theorem bytewise_suffixLength : Bytewise suffixLength := by
  refine .of_narrow rfl (fun c s hc => ?_) (fun c s hc => ?_)
  · rw [suffixLength_cons, if_neg (ne_of_isWide hc rfl)]
  · have hinside := bytewise_countWhile (p := fun d => d != ')') (.inl (broad_ne rfl)) s rfl
    rw [suffixLength_cons, suffixLength_cons, hinside, length_bytesOf]
    simp only [byteLength_take_lt_iff]
    split
    · split
      · rename_i hclosed
        -- behind what is inside stands the parenthesis that closes the suffix
        obtain ⟨d, hd⟩ : ∃ d, s[countWhile (fun d => d != ')') s]? = some d :=
          ⟨_, List.getElem?_eq_getElem hclosed⟩
        have hlast := head?_drop_countWhile (fun d => d != ')') s d (by rwa [List.head?_drop])
        obtain rfl : d = ')' := by simpa using hlast
        have hsuffix : ∀ n, s[n]? = some ')' →
            byteLength (s.take n) + 2 = byteLength ((c :: s).take (n + 2)) := by
          intro n hn
          rw [show n + 2 = 1 + (n + 1) by omega, byteLength_take_one_add hc, List.take_add_one, hn,
            byteLength_append, Nat.add_comm 1]
          rfl
        exact hsuffix _ hd
      · rfl
    · rfl

/-- The length of a `$` name is found from the bytes. -/
theorem bytewise_dollarNameLength : Bytewise dollarNameLength :=
  bytewise_joinedNameLength.andThen bytewise_suffixLength

/-! ## The lexeme at the front of a text -/

/-- In texts that pass a test, a scanner finds the same class in the bytes, and as many bytes as the
characters have that it counts. -/
def FindsBytewiseOn {κ : Type} (test : List Char → Bool) (scan : List Char → κ × Nat) : Prop :=
  ∀ s, test s = true → scan (bytesOf s) = ((scan s).1, byteLength (s.take (scan s).2))

/-- A scanner that finds so in every text. -/
abbrev FindsBytewise {κ : Type} (scan : List Char → κ × Nat) : Prop :=
  FindsBytewiseOn (fun _ => true) scan

namespace FindsBytewiseOn

variable {κ : Type} {test : List Char → Bool} {scan other : List Char → κ × Nat}

/-- A count with a name for what it counts. -/
theorem named (kind : κ) {f : List Char → Nat} (hf : BytewiseOn test f) :
    FindsBytewiseOn test fun s => (kind, f s) :=
  fun s hs => congrArg (kind, ·) (hf s hs)

/-- A choice between two scanners that find their tokens in the bytes does so too. -/
theorem ite (p : Prop) [Decidable p] (hscan : FindsBytewise scan) (hother : FindsBytewise other) :
    FindsBytewise fun s => if p then scan s else other s := by
  by_cases h : p
  · simpa [h] using hscan
  · simpa [h] using hother

/-- A choice that the bytes make as well. -/
theorem choose (htest : BytewiseTest test) (hscan : FindsBytewiseOn test scan)
    (hother : FindsBytewise other) :
    FindsBytewise fun s => if test s then scan s else other s := by
  intro s _
  simp only [htest s]
  split
  · rename_i hs
    exact hscan s hs
  · exact hother s rfl

end FindsBytewiseOn

/-- The case of a letter does not matter to whether it is of ASCII. -/
theorem isWide_toLower (c : Char) : isWide c.toLower = isWide c := by
  unfold Char.toLower
  split
  · rename_i hupper
    have hz : c.val.toNat ≤ 90 := UInt32.le_iff_toNat_le.mp hupper.2
    have hsum : (c.val + ('a'.val - 'A'.val)).toNat = c.val.toNat + 32 := by
      show (c.val.toNat + 32) % 4294967296 = c.val.toNat + 32
      omega
    rw [isWide, isWide, decide_eq_decide]
    show 128 ≤ (c.val + ('a'.val - 'A'.val)).toNat ↔ 128 ≤ c.val.toNat
    omega
  · rfl

/-- Two texts agree but for case if their heads and their tails do. -/
theorem sameIgnoringCase_cons (c d : Char) (s t : List Char) :
    sameIgnoringCase (c :: s) (d :: t) = (c.toLower == d.toLower && sameIgnoringCase s t) :=
  rfl

/-- A character of ASCII is no other one, whatever their case. -/
theorem sameIgnoringCase_of_isWide {c d : Char} (hc : isWide c = false) (hd : isWide d = true)
    (s t : List Char) : sameIgnoringCase (c :: s) (d :: t) = false := by
  have hne : c.toLower ≠ d.toLower := by
    refine (ne_of_isWide ?_ ?_).symm
    · rwa [isWide_toLower]
    · rwa [isWide_toLower]
  rw [sameIgnoringCase_cons, beq_false_of_ne hne, Bool.false_and]

/-- A word of ASCII is spelled by a text exactly if it is spelled by the bytes of it. -/
theorem sameIgnoringCase_bytesOf {word : List Char} (hword : ∀ c ∈ word, isWide c = false)
    (s : List Char) : sameIgnoringCase word (bytesOf s) = sameIgnoringCase word s := by
  induction s generalizing word with
  | nil => rfl
  | cons d s ih =>
    obtain ⟨b, bs, hbytes⟩ := exists_bytesOfChar_eq_cons d
    cases word with
    | nil =>
      rw [bytesOf_cons, hbytes]
      rfl
    | cons c word =>
      rw [List.forall_mem_cons] at hword
      cases hd : isWide d with
      | false =>
        rw [bytesOf_cons_of_not_isWide hd, sameIgnoringCase_cons, sameIgnoringCase_cons,
          ih hword.2]
      | true =>
        have hb : isWide b = true := isWide_of_mem_bytesOfChar hd (hbytes ▸ List.mem_cons_self)
        rw [bytesOf_cons, hbytes, List.cons_append, sameIgnoringCase_of_isWide hword.1 hb,
          sameIgnoringCase_of_isWide hword.1 hd]

/-- A word is the same keyword in bytes and in characters. -/
theorem ofWord_bytesOf (s : List Char) : TokenKind.ofWord (bytesOf s) = TokenKind.ofWord s := by
  have hspelling : ∀ keyword : Keyword, ∀ c ∈ keyword.spelling.toList, isWide c = false := by
    intro keyword c hc
    have hnone : keyword.spelling.toList.any isWide = false := by cases keyword <;> decide
    exact Bool.eq_false_iff.mpr (List.any_eq_false.mp hnone c hc)
  have hsame : ∀ keyword : Keyword, sameIgnoringCase keyword.spelling.toList (bytesOf s) =
      sameIgnoringCase keyword.spelling.toList s :=
    fun keyword => sameIgnoringCase_bytesOf (hspelling keyword) s
  simp only [TokenKind.ofWord, Keyword.ofWord?, hsame]

/-- A word behind an ASCII character is found in the bytes. -/
theorem findsBytewise_word {c : Char} (hc : isWide c = false) : FindsBytewise fun s =>
    (TokenKind.ofWord (c :: s.take (countWhile isWordChar s)), countWhile isWordChar s) := by
  intro s _
  have hword := bytewise_countWhile (.inl broad_isWordChar) s rfl
  refine Prod.ext ?_ hword
  show TokenKind.ofWord (c :: (bytesOf s).take (countWhile isWordChar (bytesOf s))) = _
  rw [hword, take_bytesOf, ← bytesOf_cons_of_not_isWide hc, ofWord_bytesOf]

/-- A token that begins with a character of ASCII. -/
theorem findsBytewise_classifyToken {c : Char} (hc : isWide c = false) :
    FindsBytewise (classifyToken c) := by
  unfold classifyToken
  refine .ite _ (.named _ Bytewise.zero) ?_
  refine .ite _ (.named _ (bytewise_quotedLength rfl _)) ?_
  refine .ite _ (.named _ (bytewise_quotedLength hc _)) ?_
  refine .ite _ (.named _ (bytewise_quotedLength rfl _)) ?_
  refine .choose ((bytewiseTest_startsWith (.inl (narrow_eq rfl))).and _)
    (.named _ (.behind (fun _ hs => (Bool.and_eq_true _ _ ▸ hs).2) (narrow_eq rfl)
      (bytewise_quotedLength rfl _))) ?_
  refine .choose (((bytewiseTest_startsWith (.inl narrow_isDigit)).and _).or _)
    (.named _ (.of_bytewise (bytewise_numberLength c))) ?_
  refine .ite _ (.named _ (bytewise_countWhile (.inr narrow_isDigit))) ?_
  refine .choose ((bytewiseTest_startsWith (.inr broad_isWordChar)).and _)
    (.named _ (.of_bytewise (bytewise_countWhile (.inl broad_isWordChar)))) ?_
  refine .choose ((bytewiseTest_startsWith (.inr broad_isWordChar)).and _)
    (.named _ (.of_bytewise bytewise_dollarNameLength)) ?_
  exact .ite _ (findsBytewise_word hc) (.named _ Bytewise.zero)

/-- A character outside ASCII begins a word. -/
theorem classify_of_isWide {c : Char} (hc : isWide c = true) (cs : List Char) :
    classify c cs = (.token (.ofWord (c :: cs.take (countWhile isWordChar cs))),
      countWhile isWordChar cs) := by
  have hne : ∀ {d}, isWide d = false → c ≠ d := ne_of_isWide hc
  have hquote : c ≠ '\'' := hne rfl
  have hword := broad_isWordStart c hc
  have htoken : classifyToken c cs =
      (.ofWord (c :: cs.take (countWhile isWordChar cs)), countWhile isWordChar cs) := by
    unfold classifyToken
    simp [hword, narrow_isDigit c hc, hquote, hne (d := ';') rfl, hne (d := '"') rfl,
      hne (d := '\x60') rfl, hne (d := '[') rfl, hne (d := 'x') rfl, hne (d := 'X') rfl,
      hne (d := '.') rfl, hne (d := '?') rfl, hne (d := ':') rfl, hne (d := '@') rfl,
      hne (d := '#') rfl, hne (d := '$') rfl]
  rw [classify_eq, narrow_isBlank c hc, htoken]
  simp [hne (d := '-') rfl, hne (d := '/') rfl]

/-- The end of a block comment is found in the bytes. -/
theorem findsBytewise_blockCommentEnd :
    FindsBytewiseOn (startsWith fun d => d = '*') blockCommentEnd := by
  intro s hs
  cases s with
  | nil => simp at hs
  | cons c s =>
    have hc : isWide c = false := (narrow_eq rfl).isWide_eq_false (by simpa using hs)
    rw [bytesOf_cons_of_not_isWide hc, blockCommentEnd, blockCommentEnd, List.tail_cons,
      List.tail_cons, commentLength?_bytesOf]
    cases commentLength? s with
    | some n => exact congrArg (LexemeKind.blockComment, ·) (byteLength_take_one_add hc s n).symm
    | none =>
      refine congrArg (LexemeKind.token .unterminatedComment, ·) ?_
      rw [← bytesOf_cons_of_not_isWide hc, length_bytesOf, List.take_length]

/-- A lexeme that begins with a character of ASCII. -/
theorem findsBytewise_classify {c : Char} (hc : isWide c = false) :
    FindsBytewise (classify c) := by
  rw [show classify c = _ from funext (classify_eq c)]
  refine .ite _ (.named _ Bytewise.zero) ?_
  refine .choose ((bytewiseTest_startsWith (.inl (narrow_eq rfl))).and _)
    (.named _ (.of_bytewise (bytewise_countWhile (.inl (broad_ne rfl))))) ?_
  refine .choose ((bytewiseTest_startsWith (.inl (narrow_eq rfl))).and _)
    (fun s hs => findsBytewise_blockCommentEnd s (Bool.and_eq_true _ _ ▸ hs).2) ?_
  intro s hs
  have htoken := findsBytewise_classifyToken hc s hs
  exact congrArg (fun found => (LexemeKind.token found.1, found.2)) htoken

/-- The class of a lexeme is that of its bytes, which are as many as its characters have. -/
theorem classify_bytesOf {c b : Char} {bs : List Char} (hbytes : bytesOfChar c = b :: bs)
    (s : List Char) : classify b (bs ++ bytesOf s) =
      ((classify c s).1, bs.length + byteLength (s.take (classify c s).2)) := by
  cases hc : isWide c with
  | false =>
    rw [bytesOfChar_of_not_isWide hc] at hbytes
    obtain ⟨rfl, rfl⟩ := List.cons.inj hbytes
    rw [List.nil_append, List.length_nil, Nat.zero_add]
    exact findsBytewise_classify hc s rfl
  | true =>
    have hall : ∀ d ∈ b :: bs, isWide d = true := fun d hd =>
      isWide_of_mem_bytesOfChar hc (hbytes ▸ hd)
    have hcount : countWhile isWordChar (bs ++ bytesOf s) =
        bs.length + byteLength (s.take (countWhile isWordChar s)) := by
      have hbs : ∀ d ∈ bs, isWordChar d = true := fun d hd =>
        broad_isWordChar d (hall d (List.mem_cons_of_mem b hd))
      rw [(countsPairs_countWhile isWordChar).append hbs,
        bytewise_countWhile (.inl broad_isWordChar) s rfl]
    have htext : b :: (bs ++ bytesOf s).take (countWhile isWordChar (bs ++ bytesOf s)) =
        bytesOf (c :: s.take (countWhile isWordChar s)) := by
      rw [hcount, List.take_length_add_append, take_bytesOf, bytesOf_cons, hbytes,
        List.cons_append]
    rw [classify_of_isWide (hall b List.mem_cons_self), classify_of_isWide hc, htext,
      ofWord_bytesOf, hcount]

/-! ## Lexemes and tokens -/

/-- A lexeme, by its bytes. -/
def Lexeme.bytes (x : Lexeme) : Lexeme :=
  { x with text := bytesOf x.text }

/-- The tokens in bytes spell the bytes of what the tokens spell. -/
theorem texts_bytes (xs : List Lexeme) : texts (xs.map Lexeme.bytes) = bytesOf (texts xs) := by
  induction xs with
  | nil => rfl
  | cons x xs ih =>
    rw [List.map_cons, texts_cons, ih, texts_cons, bytesOf_append]
    rfl

/-- Reading by bytes finds the lexemes that reading by characters does. -/
theorem lexemes_bytesOf (s : List Char) :
    lexemes (bytesOf s) = (lexemes s).map Lexeme.bytes := by
  generalize hlen : s.length = n
  induction n using Nat.strongRecOn generalizing s with
  | ind n ih =>
    cases s with
    | nil => simp
    | cons c s =>
      obtain ⟨b, bs, hbytes⟩ := exists_bytesOfChar_eq_cons c
      have hrest : (s.drop (classify c s).2).length < n := by
        rw [List.length_drop, ← hlen, List.length_cons]
        omega
      rw [bytesOf_cons, hbytes, List.cons_append, lexemes_cons, lexemes_cons, List.map_cons,
        ← ih _ hrest _ rfl, classify_bytesOf hbytes, List.drop_length_add_append, drop_bytesOf,
        List.take_length_add_append, take_bytesOf, Lexeme.bytes, bytesOf_cons, hbytes,
        List.cons_append]

/-- Where a token starts and stops, with its class. -/
def Token.span (token : Token) : TokenKind × Nat × Nat :=
  (token.kind, token.start, token.stop)

/-- The spans of the tokens among the lexemes of bytes, from an offset on. -/
def spansFrom (offset : Nat) : List Lexeme → List (TokenKind × Nat × Nat)
  | [] => []
  | x :: xs =>
    let next := offset + x.text.length
    (x.tokenKind?.map fun kind => (kind, offset, next)).toList ++ spansFrom next xs

/-- The spans of the tokens in bytes are the spans the tokens are given. -/
theorem spansFrom_bytes (offset : Nat) (xs : List Lexeme) :
    spansFrom offset (xs.map Lexeme.bytes) = (tokensFrom offset xs).map Token.span := by
  induction xs generalizing offset with
  | nil => rfl
  | cons x xs ih =>
    have hnext : offset + x.bytes.text.length = offset + byteLength x.text :=
      congrArg (offset + ·) (length_bytesOf x.text)
    rw [List.map_cons, spansFrom, hnext, ih, tokensFrom_cons, List.map_append, Lexeme.tokenAt?]
    congr 1
    show (x.tokenKind?.map _).toList = _
    cases x.tokenKind? with
    | none => rfl
    | some kind => simp [Token.span, Token.stop]

/-- The spans of the tokens that reading the bytes of a text finds. -/
def byteSpans (sql : String) : List (TokenKind × Nat × Nat) :=
  spansFrom 0 (lexemes (storedBytes sql))

/-- Reading by bytes finds the tokens that reading by characters does, at the same offsets. -/
theorem byteSpans_eq (sql : String) : byteSpans sql = (tokens sql).map Token.span := by
  rw [byteSpans, storedBytes_eq, lexemes_bytesOf, spansFrom_bytes]
  rfl

example : byteSpans "é=$x(ü)" = [(.identifier, 0, 2), (.operator, 2, 3), (.parameter, 3, 9)] := by
  decide +kernel

end SqlStream.Sql
