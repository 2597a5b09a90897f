import SqlStream.Proofs.Sql.Relexing

/-!
# Explained statements

`EXPLAIN` and `EXPLAIN QUERY PLAN` in front of a statement are lexemes of their own
(`exists_explainLexemes`), and the statement behind them is read as a plain one, whatever it was by
itself. So an explained statement is one statement exactly if there is no separator in it: an
explained trigger is cut at the separators of its body.
-/

namespace SqlStream.Sql

open SqlStream.Text

/-! ## Words in front of a statement -/

theorem isAlpha_of_isUpper {c : Char} (h : c.isUpper = true) : c.isAlpha = true :=
  (Bool.or_eq_true _ _).mpr (.inl h)

theorem isWordChar_of_isUpper {c : Char} (h : c.isUpper = true) : isWordChar c = true := by
  simp [isWordChar, Char.isAlphanum, isAlpha_of_isUpper h]

/-- Capitals come behind the digits. -/
theorem isDigit_of_isUpper {c : Char} (h : c.isUpper = true) : c.isDigit = false := by
  have hle : 'A'.val ≤ c.val := (of_decide_eq_true h).1
  have hlt : ¬c.val ≤ '9'.val := fun hdigit => absurd (UInt32.le_trans hle hdigit) (by decide)
  exact Bool.and_eq_false_iff.mpr (.inr (decide_eq_false hlt))

/-- Capitals in front of a blank are counted as one word. -/
theorem countWhile_word {cs : List Char} (hcs : cs.all Char.isUpper = true) (t : List Char) :
    countWhile isWordChar (cs ++ ' ' :: t) = cs.length := by
  have hall : ∀ c ∈ cs, isWordChar c = true :=
    fun c hc => isWordChar_of_isUpper (List.all_eq_true.mp hcs c hc)
  rw [countWhile, List.takeWhile_append_of_pos hall, List.takeWhile_cons_of_neg (by decide),
    List.append_nil]

/-- The lexemes of a word and of the blank behind it. -/
def wordLexemes (word : List Char) : List Lexeme :=
  [⟨.token (.ofWord word), word⟩, ⟨.blank, [' ']⟩]

/-- A word of capitals is a lexeme, and the blank behind it is another. -/
theorem lexemes_word {word : List Char} (hword : word ≠ []) (hcapitals : word.all Char.isUpper = true)
    (t : List Char) : lexemes (word ++ ' ' :: t) = wordLexemes word ++ lexemes t := by
  obtain ⟨c, cs, rfl⟩ := List.exists_cons_of_ne_nil hword
  rw [List.all_cons, Bool.and_eq_true] at hcapitals
  obtain ⟨hc, hcs⟩ := hcapitals
  have hne : ∀ d : Char, d.isUpper = false → ¬c = d := by
    rintro d hd rfl
    simp [hc] at hd
  have hquote : startsWith (fun d => d = '\'') (cs ++ ' ' :: t) = false := by
    cases cs with
    | nil => rfl
    | cons d cs =>
      simp only [List.all_cons, Bool.and_eq_true] at hcs
      have : d ≠ '\'' := by
        rintro rfl
        simp at hcs
      simp [this]
  have hclass : classify c (cs ++ ' ' :: t) = (.token (.ofWord (c :: cs)), cs.length) := by
    have hstart : isWordStart c = true := by simp [isWordStart, isAlpha_of_isUpper hc]
    simp [classify_eq, classifyToken, isBlank, hne, hquote, isDigit_of_isUpper hc, hstart,
      countWhile_word hcs]
  have hblank : classify ' ' t = (.blank, 0) := by
    rw [classify_eq, if_pos (by decide)]
  rw [List.cons_append, lexemes_cons, hclass, List.take_left, List.drop_left, lexemes_cons, hblank]
  rfl

/-- What can stand in front of a statement that is to be explained. -/
def explainTexts : List String :=
  ["EXPLAIN ", "EXPLAIN QUERY PLAN "]

/-- Lexemes that begin with `EXPLAIN` and have no separator and no open comment. -/
structure IsExplanation (front : List Lexeme) : Prop where
  first : front.head?.any Lexeme.isToken = true
  kinds : ∃ kinds, kindsOf front = .keyword .EXPLAIN :: kinds ∧ kinds.any TokenKind.bounds = false

/-- `EXPLAIN` in front of a text is read as by itself, and so is the text. -/
theorem exists_explainLexemes {explain : String} (h : explain ∈ explainTexts) (sql : String) :
    ∃ front, IsExplanation front ∧
      lexemes (explain ++ sql).toList = front ++ lexemes sql.toList := by
  have hword : ∀ t, lexemes ("EXPLAIN".toList ++ ' ' :: t) =
      wordLexemes "EXPLAIN".toList ++ lexemes t := lexemes_word (by decide) (by decide)
  simp only [explainTexts, List.mem_cons, List.not_mem_nil, or_false] at h
  rcases h with rfl | rfl
  · refine ⟨wordLexemes "EXPLAIN".toList, ⟨by decide, [], by decide, by decide⟩, ?_⟩
    rw [← hword, String.toList_append]
    rfl
  · refine ⟨wordLexemes "EXPLAIN".toList ++
      (wordLexemes "QUERY".toList ++ wordLexemes "PLAN".toList),
      ⟨by decide, [.identifier, .identifier], by decide, by decide⟩, ?_⟩
    rw [List.append_assoc, List.append_assoc, ← lexemes_word (by decide) (by decide),
      ← lexemes_word (by decide) (by decide), ← hword, String.toList_append]
    rfl

/-! ## An explained statement is plain -/

namespace IsExplanation

variable {front xs : List Lexeme}

theorem isStatement (h : IsExplanation front) (hxs : IsStatement xs) : IsStatement (front ++ xs) where
  first := by
    have := h.first
    cases front with
    | nil => cases this
    | cons x front => exact this
  last := by
    have := hxs.last
    rw [List.getLast?_append]
    cases hlast : xs.getLast? with
    | none => simp [hlast] at this
    | some x => rwa [hlast] at this
  closed := by
    intro x hx hopen
    rcases List.mem_append.mp hx with hx | hx
    · obtain ⟨kinds, hkinds, hbounds⟩ := h.kinds
      have hmem : .unterminatedComment ∈ kindsOf front := List.mem_filterMap.mpr ⟨x, hx, hopen⟩
      rw [hkinds, List.mem_cons] at hmem
      exact hmem.elim (fun heq => by cases heq) fun hmem =>
        List.any_eq_false.mp hbounds _ hmem rfl
    · exact hxs.closed x hx hopen

/-- Behind `EXPLAIN`, the tokens of a statement hold together if no separator is among them. -/
theorem statementPhase?_isSome (h : IsExplanation front) (hxs : IsStatement xs) :
    (statementPhase? (kindsOf (front ++ xs))).isSome = true ↔ .semicolon ∉ kindsOf xs := by
  obtain ⟨kinds, hkinds, hbounds⟩ := h.kinds
  have hplain : firstPhase (.keyword .EXPLAIN) (kinds ++ kindsOf xs) = .plain := rfl
  rw [kindsOf_append, hkinds, List.cons_append, statementPhase?, if_neg (by decide), hplain,
    Phase.plain_after?, List.any_append, hbounds, Bool.false_or]
  split
  · rename_i hany
    refine iff_of_false (by simp) fun hnone => ?_
    obtain ⟨kind, hmem, hkind⟩ := List.any_eq_true.mp hany
    rw [TokenKind.bounds, Bool.or_eq_true, decide_eq_true_eq, decide_eq_true_eq] at hkind
    rcases hkind with rfl | rfl
    · exact hnone hmem
    · exact hxs.closed.not_mem_kindsOf hmem
  · rename_i hany
    exact iff_of_true rfl fun hmem => hany (List.any_eq_true.mpr ⟨_, hmem, rfl⟩)

end IsExplanation

/-- An explained statement is one statement exactly if no separator is in it. -/
theorem explained_eq_singleton_iff {sql : String} (hsingle : (splitStatements sql).1 = [sql])
    {explain : String} (hexplain : explain ∈ explainTexts) :
    (splitStatements (explain ++ sql)).1 = [explain ++ sql] ↔
      ∀ token ∈ tokens sql, token.kind ≠ .semicolon := by
  obtain ⟨front, hfront, hlexemes⟩ := exists_explainLexemes hexplain sql
  obtain ⟨hstatement, -⟩ := (splitStatements_eq_singleton_iff sql).mp hsingle
  rw [splitStatements_eq_singleton_iff, tokenKinds_eq, hlexemes,
    hfront.statementPhase?_isSome hstatement, and_iff_right (hfront.isStatement hstatement),
    ← map_kind_tokensFrom 0, ← tokens, List.mem_map]
  exact ⟨fun h token hmem hkind => h ⟨token, hmem, hkind⟩,
    fun h ⟨token, hmem, hkind⟩ => h token hmem hkind⟩

/-- A trigger with nothing in its body is explained as one statement. -/
theorem explained_eq_singleton_of_trigger :
    (splitStatements "CREATE TRIGGER t BEGIN END").1 = ["CREATE TRIGGER t BEGIN END"] ∧
      "EXPLAIN " ∈ explainTexts ∧
      (splitStatements ("EXPLAIN " ++ "CREATE TRIGGER t BEGIN END")).1 =
        ["EXPLAIN " ++ "CREATE TRIGGER t BEGIN END"] := by
  have hsingle : (splitStatements "CREATE TRIGGER t BEGIN END").1 =
      ["CREATE TRIGGER t BEGIN END"] := by decide +kernel
  have hexplain : "EXPLAIN " ∈ explainTexts := by decide
  exact ⟨hsingle, hexplain,
    (explained_eq_singleton_iff hsingle hexplain).mpr (by decide +kernel)⟩

/-- A trigger with statements in its body is one statement, but explained it is cut in the body. -/
theorem explained_trigger_is_cut :
    (splitStatements
        "CREATE TRIGGER g AFTER INSERT ON t BEGIN DELETE FROM a; DELETE FROM b; END").1 =
        ["CREATE TRIGGER g AFTER INSERT ON t BEGIN DELETE FROM a; DELETE FROM b; END"] ∧
      (splitStatements ("EXPLAIN " ++
        "CREATE TRIGGER g AFTER INSERT ON t BEGIN DELETE FROM a; DELETE FROM b; END")).1 =
        ["EXPLAIN CREATE TRIGGER g AFTER INSERT ON t BEGIN DELETE FROM a", "DELETE FROM b", "END"] := by
  decide +kernel

end SqlStream.Sql
