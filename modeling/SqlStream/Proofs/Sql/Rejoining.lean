import SqlStream.Proofs.Sql.Division
import SqlStream.Proofs.Sql.Separators

/-!
# Splitting what was split

The statements of a script, joined by a separator and the end of a line, are split again into the
same statements: what stood behind a statement can be exchanged for the separator (`lexemes_kept`),
so the joined text has the lexemes of the statements with separators between them
(`Splits.lexemes_joined`), and these are divided as before (`Splits.joined`).
-/

namespace SqlStream.Sql

/-! ## Lexemes of joined statements -/

/-- A separator and the end of a line. -/
def separatorLexemes : List Lexeme :=
  [⟨.token .semicolon, [';']⟩, ⟨.blank, ['\n']⟩]

/-- The lexemes of statements, with separators between them. -/
def joinedLexemes (bodies : List (List Lexeme)) : List Lexeme :=
  separatorLexemes.intercalate bodies

@[simp] theorem joinedLexemes_nil : joinedLexemes [] = [] :=
  List.intercalate_nil

@[simp] theorem joinedLexemes_singleton (body : List Lexeme) : joinedLexemes [body] = body :=
  List.intercalate_singleton

theorem joinedLexemes_cons (body : List Lexeme) {bodies : List (List Lexeme)} (h : bodies ≠ []) :
    joinedLexemes (body :: bodies) = body ++ (separatorLexemes ++ joinedLexemes bodies) := by
  rw [joinedLexemes, List.intercalate_cons_of_ne_nil h, List.append_assoc]
  rfl

/-- Every lexeme of joined statements is of a statement or of a separator. -/
theorem mem_joinedLexemes {bodies : List (List Lexeme)} {x : Lexeme} (h : x ∈ joinedLexemes bodies) :
    (∃ body ∈ bodies, x ∈ body) ∨ x ∈ separatorLexemes := by
  induction bodies with
  | nil => simp at h
  | cons body bodies ih =>
    by_cases hnil : bodies = []
    · subst hnil
      exact .inl ⟨body, by simp, by simpa using h⟩
    · rw [joinedLexemes_cons body hnil, List.mem_append, List.mem_append] at h
      rcases h with hbody | hsep | hrest
      · exact .inl ⟨body, by simp, hbody⟩
      · exact .inr hsep
      · exact (ih hrest).imp (fun ⟨other, hmem, hx⟩ => ⟨other, by simp [hmem], hx⟩) id

/-- The text of joined lexemes is that of the statements, joined. -/
theorem ofList_texts_joinedLexemes (bodies : List (List Lexeme)) :
    String.ofList (texts (joinedLexemes bodies)) = ";\n".intercalate (bodies.map statementText) := by
  have hlist : texts (joinedLexemes bodies) = [';', '\n'].intercalate (bodies.map texts) := by
    induction bodies with
    | nil => rfl
    | cons body bodies ih =>
      by_cases hnil : bodies = []
      · simp [hnil]
      · rw [joinedLexemes_cons body hnil, List.map_cons,
          List.intercalate_cons_of_ne_nil (by simpa using hnil), ← ih, texts_append, texts_append,
          List.append_assoc]
        rfl
  rw [← String.toList_inj, String.toList_ofList, String.toList_intercalate, hlist, List.map_map]
  congr 2
  funext body
  simp [statementText]

/-- A statement ends in a token. -/
theorem IsStatement.endsInToken {body : List Lexeme} (h : IsStatement body) {old : List Char}
    (hold : old ≠ []) : EndsInToken body old := by
  intro x hx
  have hlast := h.last
  rw [Option.mem_def.mp hx, Option.any_some, Lexeme.isToken] at hlast
  obtain ⟨kind, hkind⟩ := Option.isSome_iff_exists.mp hlast
  exact ⟨kind, Lexeme.kind_eq_of_tokenKind? hkind, fun _ => hold⟩

/-- The end of a line is a blank by itself. -/
theorem lexemes_newline (s : List Char) :
    lexemes ('\n' :: s) = ⟨.blank, ['\n']⟩ :: lexemes s := by
  have hfront : classify '\n' s = (.blank, 0) := by
    rw [classify_eq, if_pos (by decide)]
  rw [lexemes_cons, hfront]
  rfl

namespace Splits

variable {xs : List Lexeme} {bodies : List (List Lexeme)} {inTrigger : Bool}

/-- Statements ended a trigger or not: joined, they are divided as before. -/
theorem joined (h : Splits xs bodies inTrigger) :
    Splits (joinedLexemes bodies) bodies inTrigger := by
  induction h with
  | gap => exact .gap (by simp)
  | last _ hbody hphase _ =>
    rw [joinedLexemes_singleton]
    exact .single hbody hphase
  | @statement gap body trail rest x bodies inTrigger _ hbody hphase _ _ hrest ih =>
    cases bodies with
    | nil =>
      cases hrest with
      | gap =>
        rw [joinedLexemes_singleton]
        exact single hbody hphase
    | cons next bodies =>
      rw [joinedLexemes_cons body (List.cons_ne_nil _ _)]
      have hline : Splits ([⟨.blank, ['\n']⟩] ++ joinedLexemes (next :: bodies)) (next :: bodies)
          inTrigger := ih.gap_append (by simp [Lexeme.tokenKind?])
      exact statement_of_body hbody hphase kindsOf_nil rfl hline

/-- Joined statements have the lexemes of the statements, with separators between them. -/
theorem lexemes_joined (h : Splits xs bodies inTrigger) (hxs : lexemes (texts xs) = xs) :
    lexemes (texts (joinedLexemes bodies)) = joinedLexemes bodies := by
  induction h with
  | gap => simp
  | @last gap body trail =>
    rw [joinedLexemes_singleton]
    exact lexemes_texts (hxs.trans (List.append_assoc _ _ _).symm)
  | @statement gap body trail rest x bodies inTrigger _ hbody _ _ _ hrest ih =>
    by_cases hnil : bodies = []
    · subst hnil
      rw [joinedLexemes_singleton]
      exact lexemes_texts (hxs.trans (List.append_assoc _ _ _).symm)
    · -- the separator and the statements behind it take the place of all that stood there
      have hbehind : lexemes (texts (trail ++ x :: rest)) = trail ++ x :: rest :=
        lexemes_texts_suffix (lexemes_texts_suffix hxs)
      have hrejoined : lexemes (texts (joinedLexemes bodies)) = joinedLexemes bodies := by
        rw [← List.singleton_append, ← List.append_assoc] at hbehind
        exact ih (lexemes_texts_suffix hbehind)
      have hold : texts (trail ++ x :: rest) ≠ [] := by
        intro heq
        simp [heq] at hbehind
      have hfront : lexemes (texts body ++ texts (trail ++ x :: rest)) =
          body ++ lexemes (texts (trail ++ x :: rest)) := by
        rw [← texts_append, lexemes_texts_suffix hxs, hbehind]
      have hkept := lexemes_kept hfront (hbody.endsInToken hold)
        ('\n' :: texts (joinedLexemes bodies)) ?_
      · rw [lexemes_newline, hrejoined] at hkept
        rwa [joinedLexemes_cons body hnil, texts_append]
      · intro _ hclose
        rcases List.mem_cons.mp hclose with hclose | hclose
        · cases hclose
        · obtain ⟨y, hy, hclose⟩ := List.mem_flatMap.mp hclose
          rcases mem_joinedLexemes hy with ⟨other, hmem, hy⟩ | hsep
          · obtain ⟨_, _, pre, post, rfl⟩ := hrest.of_mem hmem
            exact List.mem_flatMap.mpr ⟨y, by simp [hy], hclose⟩
          · rcases (by simpa [separatorLexemes] using hsep) with rfl | rfl <;> simp at hclose

/-- No comment is left open in joined statements. -/
theorem not_mem_kindsOf_joinedLexemes (h : Splits xs bodies inTrigger) :
    .unterminatedComment ∉ kindsOf (joinedLexemes bodies) := by
  intro hmem
  obtain ⟨x, hx, hopen⟩ := List.mem_filterMap.mp hmem
  rcases mem_joinedLexemes hx with ⟨body, hbody, hx⟩ | hsep
  · exact (h.of_mem hbody).1.closed x hx hopen
  · rcases (by simpa [separatorLexemes] using hsep) with rfl | rfl <;> simp [Lexeme.tokenKind?] at hopen

end Splits

/-! ## Joined statements are split as before -/

/-- The statements of a script, joined by a separator and the end of a line. -/
def rejoined (sql : String) : String :=
  ";\n".intercalate (splitStatements sql).1

/-- The statements of a script, joined, are split into the same statements; the text does not end in
a comment, and it ends in a trigger if the script does. Every statement by itself is split into
itself. -/
theorem splitStatements_rejoined (sql : String) :
    (splitStatements (rejoined sql)).1 = (splitStatements sql).1 ∧
      (splitStatements (rejoined sql)).2.incompleteComment = false ∧
      (splitStatements (rejoined sql)).2.incompleteTrigger =
        (splitStatements sql).2.incompleteTrigger ∧
      ∀ statement ∈ (splitStatements sql).1, (splitStatements statement).1 = [statement] := by
  obtain ⟨bodies, inTrigger, h⟩ := exists_splits (openCommentLast_lexemes sql.toList)
  obtain ⟨hstatements, htrigger, -⟩ := h.splitStatements_eq
  have hlexemes : lexemes (rejoined sql).toList = joinedLexemes bodies := by
    rw [rejoined, hstatements, ← ofList_texts_joinedLexemes, String.toList_ofList,
      h.lexemes_joined (by rw [texts_lexemes])]
  have hjoined := h.joined
  rw [← hlexemes] at hjoined
  obtain ⟨hagain, hagainTrigger, hagainComment⟩ := hjoined.splitStatements_eq
  refine ⟨by rw [hagain, hstatements], ?_, by rw [hagainTrigger, htrigger], ?_⟩
  · rw [hagainComment, hlexemes]
    exact decide_eq_false h.not_mem_kindsOf_joinedLexemes
  · intro statement hmem
    rw [hstatements] at hmem
    obtain ⟨body, hbody, rfl⟩ := List.mem_map.mp hmem
    obtain ⟨hisStatement, hphase, pre, post, hxs⟩ := h.of_mem hbody
    have hbodyLexemes : lexemes (statementText body).toList = body := by
      rw [statementText, String.toList_ofList, lexemes_texts hxs]
    rw [splitStatements_eq_singleton_iff, tokenKinds_eq, hbodyLexemes]
    exact ⟨hisStatement, hphase⟩

end SqlStream.Sql
