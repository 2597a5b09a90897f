import SqlStream.Proofs.Sql.Division
import SqlStream.Proofs.Sql.Separators

/-!
# Completed statements are final

A statement that a separator has ended stays as it is, whatever text follows: nothing in front of a
separator looks past it, apart from placeholders that begin with `$`, whose suffix may be closed by
a parenthesis far behind. So the splitter of a text and that of a longer one, as long as each call
returns a completed statement, stay at the same place (`SamePlace.next`), and their calls return the
same (`completed_calls_final`).
-/

namespace SqlStream.Sql

open SqlStream.Text

/-! ## Calls of a splitter -/

namespace Splitter

/-- The splitter behind its first calls. -/
def after (splitter : Splitter) : Nat → Splitter
  | 0 => splitter
  | n + 1 => splitter.next.2.after n

/-- What the first calls return, each with the info that the splitter gives then. -/
def calls (splitter : Splitter) : Nat → List (Option String × SplitInfo)
  | 0 => []
  | n + 1 => (splitter.next.1, splitter.next.2.info) :: splitter.next.2.calls n

/-- The next call returns a statement, and what ends it is a separator and not the end of the
text. -/
def Completes (splitter : Splitter) : Prop :=
  splitter.done = false ∧ splitter.next.1.isSome = true ∧ splitter.stretch.ending = .separator

instance (splitter : Splitter) : Decidable splitter.Completes :=
  inferInstanceAs (Decidable (_ ∧ _))

end Splitter

/-! ## Separators hide what is behind them -/

/-- A token that separates is one semicolon. -/
theorem classifyToken_semicolon {c : Char} {cs : List Char} {n : Nat}
    (h : classifyToken c cs = (.semicolon, n)) : c = ';' ∧ n = 0 := by
  rcases classifyToken_cases c cs with ⟨hc, hsep⟩ | hother | ⟨-, hword⟩
  · rw [hsep] at h
    exact ⟨hc, (Prod.mk.inj h).2.symm⟩
  · rw [h] at hother
    simp at hother
  · have hbounds := bounds_ofWord (c :: cs.take (countWhile isWordChar cs))
    rw [(Prod.mk.inj (hword.symm.trans h)).1] at hbounds
    cases hbounds

/-- A separator among the lexemes of a text is one semicolon. -/
theorem text_eq_of_semicolon {s : List Char} {pre post : List Lexeme} {x : Lexeme}
    (h : lexemes s = pre ++ x :: post) (hx : x.tokenKind? = some .semicolon) : x.text = [';'] := by
  have hkind := Lexeme.kind_eq_of_tokenKind? hx
  obtain ⟨c, cs, -, rfl, -⟩ := lexemes_eq_cons (lexemes_texts_suffix h)
  have hclass : classify c cs = (.token .semicolon, (classify c cs).2) := Prod.ext hkind rfl
  obtain ⟨rfl, hlength⟩ := classifyToken_semicolon (classifyToken_of_classify hclass nofun)
  rw [hlength]
  rfl

/-- A line comment goes on at a separator. -/
theorem classify_ne_lineComment (c : Char) (s t : List Char) :
    classify c (s ++ ';' :: t) ≠ (.lineComment, s.length) := by
  intro h
  rw [classify_eq, blockCommentEnd] at h
  split at h
  · cases h
  · split at h
    · have hstop := head?_drop_countWhile (fun d => d != '\n') (s ++ ';' :: t)
      rw [(Prod.mk.inj h).2, List.drop_left] at hstop
      exact absurd (hstop ';' rfl) (by decide)
    · split at h
      · split at h <;> cases h
      · cases h

/-- Lexemes in front of a separator do not run into it. -/
theorem endsClosed_of_separator {xs ys : List Lexeme} {rest : List Char}
    (h : lexemes (texts xs ++ ';' :: rest) = xs ++ ys) : EndsClosed xs (';' :: rest) := by
  intro x hx
  obtain ⟨front, rfl⟩ := List.getLast?_eq_some_iff.mp hx
  refine ⟨fun hline => ?_, fun _ _ _ => List.cons_ne_nil _ _⟩
  rw [texts_append, texts_cons, texts_nil, List.append_nil, List.append_assoc, List.append_assoc,
    List.singleton_append] at h
  have hrest : x.text ++ ';' :: rest = texts (x :: ys) := by
    refine (List.append_right_inj (texts front)).mp ?_
    rw [← texts_append, ← h, texts_lexemes]
  have hsuffix := lexemes_texts_suffix h
  rw [← hrest] at hsuffix
  obtain ⟨c, cs, -, hclass, -⟩ := classify_of_lexemes hsuffix
  rw [hline] at hclass
  exact classify_ne_lineComment c cs rest hclass

/-- In a text without `$`, lexemes up to a separator stay as they are if the text goes on. -/
theorem lexemes_append_of_separator {s : List Char} (hdollar : '$' ∉ s) {xs rest : List Lexeme}
    {x : Lexeme} (h : lexemes s = xs ++ x :: rest) (hx : x.tokenKind? = some .semicolon)
    (t : List Char) : lexemes (s ++ t) = xs ++ x :: lexemes (texts rest ++ t) := by
  have htext := text_eq_of_semicolon h hx
  obtain rfl : x = ⟨.token .semicolon, [';']⟩ := by
    rw [← htext, ← Lexeme.kind_eq_of_tokenKind? hx]
  have hs : s = texts xs ++ ';' :: texts rest := by
    rw [← texts_lexemes s, h, texts_append, texts_cons]
    rfl
  have hfront : lexemes (texts xs ++ ';' :: texts rest) = xs ++ lexemes (';' :: texts rest) := by
    have hrest := lexemes_texts_suffix h
    rw [texts_cons] at hrest
    rw [← hs, h, ← hrest]
    rfl
  have hparameter : xs.any Lexeme.isDollarParameter = false := by
    refine List.any_eq_false.mpr fun y hy hparam => hdollar ?_
    rw [Lexeme.isDollarParameter, Bool.and_eq_true, decide_eq_true_eq, decide_eq_true_eq] at hparam
    rw [hs]
    exact List.mem_append_left _ (List.mem_flatMap.mpr ⟨y, hy, List.mem_of_mem_head? hparam.2⟩)
  have hkept := lexemes_kept_of_endsClosed hfront (endsClosed_of_separator hfront)
    (texts rest ++ t) (by simp [hparameter])
  rwa [hs, List.append_assoc, List.cons_append]

/-! ## Splitters at the same place -/

/-- The splitter behind a statement that a separator ended, with `rest` left to it. -/
def Splitter.behindSeparator (splitter : Splitter) (rest : List Lexeme) : Splitter :=
  { source := splitter.source, rest, info := ⟨some .semicolon, false, false⟩, done := false }

/-- A call that completes a statement returns it and leaves what is behind the separator. What the
call does depends on the lexemes up to the separator alone. -/
theorem Splitter.Completes.next_eq {splitter : Splitter} (h : splitter.Completes) {s : List Char}
    (hrest : splitter.rest = lexemes s) :
    ∃ xs x rest body, lexemes s = xs ++ x :: rest ∧ x.tokenKind? = some .semicolon ∧
      ∀ other : Splitter, other.done = false → ∀ ys, other.rest = xs ++ x :: ys →
        other.next = (some (statementText body), other.behindSeparator ys) ∧
          other.stretch.ending = .separator := by
  obtain ⟨-, -, hend⟩ := h
  obtain ⟨bodies, inTrigger, hsplits⟩ := exists_splits (openCommentLast_lexemes s)
  rw [stretch, hrest] at hend
  generalize lexemes s = xs at hsplits hend
  cases hsplits with
  | gap hgap =>
    obtain ⟨final, hread⟩ := Stretch.read_gap hgap splitter.info.lastToken
    rw [hread] at hend
    exact absurd hend (Ending.behind_ne_separator _)
  | last hgap hbody hphase htrail =>
    obtain ⟨loose, final, -, hread⟩ :=
      Stretch.read_last hgap hbody hphase htrail splitter.info.lastToken
    rw [hread] at hend
    exact absurd hend (Ending.behind_ne_separator _)
  | @statement gap body trail rest x _ _ hgap hbody hphase htrail hx _ =>
    refine ⟨gap ++ (body ++ trail), x, rest, body, by simp, hx, fun other hdone ys hys => ?_⟩
    have hread : Stretch.read .between [] other.info.lastToken other.rest =
        ⟨trail.reverse ++ body.reverse, .plain, some .semicolon, ys, .separator⟩ := by
      rw [hys, List.append_assoc, List.append_assoc]
      exact Stretch.read_separated hgap hbody hphase htrail hx _
    refine ⟨?_, congrArg Stretch.ending hread⟩
    simp only [next, hdone, Bool.false_eq_true, if_false, hread]
    rw [Stretch.statement?_eq (by simp) hbody htrail rfl]
    rfl

/-- Two splitters at the same place, one of them in a text that goes on with `t`. -/
structure SamePlace (t : List Char) (short long : Splitter) : Prop where
  info : long.info = short.info
  done : long.done = short.done
  rest : ∃ s, '$' ∉ s ∧ short.rest = lexemes s ∧ long.rest = lexemes (s ++ t)

namespace SamePlace

variable {t : List Char} {short long : Splitter}

/-- Behind a call that completes a statement, splitters are at the same place again, and they have
returned the same. -/
theorem next (h : SamePlace t short long) (hcompletes : short.Completes) :
    SamePlace t short.next.2 long.next.2 ∧ long.next.1 = short.next.1 ∧ long.Completes := by
  obtain ⟨s, hdollar, hshort, hlong⟩ := h.rest
  obtain ⟨xs, x, rest, body, hlexemes, hx, hnext⟩ := hcompletes.next_eq hshort
  have hdoneLong : long.done = false := h.done.trans hcompletes.1
  obtain ⟨hnextShort, -⟩ := hnext short hcompletes.1 rest (hshort.trans hlexemes)
  obtain ⟨hnextLong, hend⟩ := hnext long hdoneLong _
    (hlong.trans (lexemes_append_of_separator hdollar hlexemes hx t))
  have hrest : '$' ∉ texts rest := by
    rw [← texts_lexemes s, hlexemes, texts_append, texts_cons] at hdollar
    exact fun hmem => hdollar (by simp [hmem])
  rw [hnextShort, Splitter.Completes, hnextLong]
  refine ⟨⟨rfl, rfl, texts rest, hrest, ?_, rfl⟩, rfl, hdoneLong, rfl, hend⟩
  rw [← List.singleton_append, ← List.append_assoc] at hlexemes
  exact (lexemes_texts_suffix hlexemes).symm

/-- As long as each call completes a statement, calls return the same, with the same info. -/
theorem calls (h : SamePlace t short long) {k : Nat} (hcompletes : ∀ i < k, (short.after i).Completes) :
    long.calls k = short.calls k ∧ ∀ i < k, (long.after i).Completes := by
  induction k generalizing short long with
  | zero => exact ⟨rfl, nofun⟩
  | succ k ih =>
    obtain ⟨hplace, hstatement, hlong⟩ := h.next (hcompletes 0 (Nat.succ_pos k))
    obtain ⟨hcalls, hafter⟩ := ih hplace fun i hi => hcompletes (i + 1) (Nat.succ_lt_succ hi)
    refine ⟨?_, fun i hi => ?_⟩
    · rw [Splitter.calls, Splitter.calls, hstatement, hplace.info, hcalls]
    · cases i with
      | zero => exact hlong
      | succ i => exact hafter i (Nat.lt_of_succ_lt_succ hi)

end SamePlace

/-- Statements of a script without `$` that separators have ended are final: whatever text the
script goes on with, the same calls return the same statements, with the same info behind each, and
again separators end them. -/
theorem completed_calls_final {s : String} (hdollar : '$' ∉ s.toList) (t : String) {k : Nat}
    (h : ∀ i < k, ((Splitter.ofScript s).after i).Completes) :
    (Splitter.ofScript (s ++ t)).calls k = (Splitter.ofScript s).calls k ∧
      ∀ i < k, ((Splitter.ofScript (s ++ t)).after i).Completes := by
  have hplace : SamePlace t.toList (Splitter.ofScript s) (Splitter.ofScript (s ++ t)) :=
    ⟨rfl, rfl, s.toList, hdollar, rfl, by rw [← String.toList_append]; rfl⟩
  exact hplace.calls h

/-- The quote that is open behind two statements is closed by the text that follows. -/
theorem completed_calls_final_of_open_quote :
    '$' ∉ "/* ; */ SELECT ?;CREATE TEMP TRIGGER g BEGIN DELETE FROM a; END; SELECT 'b".toList ∧
      (∀ i < 2, ((Splitter.ofScript
        "/* ; */ SELECT ?;CREATE TEMP TRIGGER g BEGIN DELETE FROM a; END; SELECT 'b").after
          i).Completes) ∧
      (Splitter.ofScript
        ("/* ; */ SELECT ?;CREATE TEMP TRIGGER g BEGIN DELETE FROM a; END; SELECT 'b" ++
          "; SELECT $c(') -- ;")).calls 2 =
        [(some "SELECT ?", ⟨some .semicolon, false, false⟩),
          (some "CREATE TEMP TRIGGER g BEGIN DELETE FROM a; END",
            ⟨some .semicolon, false, false⟩)] := by
  have hdollar : '$' ∉
      "/* ; */ SELECT ?;CREATE TEMP TRIGGER g BEGIN DELETE FROM a; END; SELECT 'b".toList := by
    decide +kernel
  have h : ∀ i < 2, ((Splitter.ofScript
      "/* ; */ SELECT ?;CREATE TEMP TRIGGER g BEGIN DELETE FROM a; END; SELECT 'b").after
        i).Completes := by decide +kernel
  exact ⟨hdollar, h,
    (completed_calls_final hdollar "; SELECT $c(') -- ;" h).1.trans (by decide +kernel)⟩

end SqlStream.Sql
