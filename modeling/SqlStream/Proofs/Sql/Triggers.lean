import SqlStream.Proofs.Sql.Relexing
import SqlStream.Proofs.Sql.Separators

/-!
# Trigger bodies stay whole

A trigger ends at the `END` that matches no `CASE`. In a trigger the phase of reading counts the
expressions `CASE … END` that are open (`Phase.trigger_after?`), so tokens in which these are
balanced leave it as it was, and no separator among them is one. `WholeTrigger` says what the text
of a trigger is; wherever such a text stands in front of a separator it is one statement, and cut
inside its body it is an incomplete one.
-/

namespace SqlStream.Sql

/-! ## Balanced expressions -/

/-- Tokens in which every `END` closes a `CASE` and every `CASE` is closed. -/
structure Balanced (kinds : List TokenKind) : Prop where
  prefix_le : ∀ n, (kinds.take n).count (.keyword .END) ≤ (kinds.take n).count (.keyword .CASE)
  count_eq : kinds.count (.keyword .END) = kinds.count (.keyword .CASE)

namespace Balanced

/-- A token that neither opens nor closes an expression. -/
theorem singleton {kind : TokenKind} (hcase : kind ≠ .keyword .CASE) (hend : kind ≠ .keyword .END) :
    Balanced [kind] where
  prefix_le n := by cases n <;> simp [hcase, hend]
  count_eq := by simp [hcase, hend]

theorem append {kinds more : List TokenKind} (h : Balanced kinds) (hmore : Balanced more) :
    Balanced (kinds ++ more) where
  prefix_le n := by
    have h1 := h.prefix_le n
    have h2 := hmore.prefix_le (n - kinds.length)
    rw [List.take_append, List.count_append, List.count_append]
    omega
  count_eq := by rw [List.count_append, List.count_append, h.count_eq, hmore.count_eq]

end Balanced

/-- A token in a trigger opens an expression, closes one that is open, or does neither. -/
theorem Phase.afterTriggerToken_eq {openCases : Nat} {kind : TokenKind}
    (h : [kind].count (.keyword .END) ≤ openCases) :
    afterTriggerToken openCases kind = .trigger
      (openCases + [kind].count (.keyword .CASE) - [kind].count (.keyword .END)) := by
  by_cases hcase : kind = .keyword .CASE
  · subst hcase
    rfl
  · by_cases hend : kind = .keyword .END
    · subst hend
      have hopen : 0 < openCases := h
      rw [afterTriggerToken, if_pos hopen]
      rfl
    · unfold afterTriggerToken
      split <;> simp_all

/-- Prefixes longer than the list are the list. -/
theorem balanced_iff {kinds : List TokenKind} :
    Balanced kinds ↔ (∀ n < kinds.length, (kinds.take n).count (.keyword .END) ≤
        (kinds.take n).count (.keyword .CASE)) ∧
      kinds.count (.keyword .END) = kinds.count (.keyword .CASE) := by
  refine ⟨fun h => ⟨fun n _ => h.prefix_le n, h.count_eq⟩, fun ⟨hshort, hcount⟩ => ⟨?_, hcount⟩⟩
  intro n
  by_cases hn : n < kinds.length
  · exact hshort n hn
  · rw [List.take_of_length_le (Nat.le_of_not_lt hn)]
    exact Nat.le_of_eq hcount

instance (kinds : List TokenKind) : Decidable (Balanced kinds) :=
  decidable_of_iff _ balanced_iff.symm

/-- In a trigger, the phase counts the expressions that are open. -/
theorem Phase.trigger_after? {kinds : List TokenKind} (hclosed : .unterminatedComment ∉ kinds)
    {openCases : Nat} (h : ∀ n, (kinds.take n).count (.keyword .END) ≤
      openCases + (kinds.take n).count (.keyword .CASE)) :
    (trigger openCases).after? kinds = some (.trigger
      (openCases + kinds.count (.keyword .CASE) - kinds.count (.keyword .END))) := by
  induction kinds generalizing openCases with
  | nil => simp
  | cons kind kinds ih =>
    rw [List.mem_cons, not_or] at hclosed
    have hkind : kind ≠ .unterminatedComment := fun heq => hclosed.1 heq.symm
    -- the first token alone, and the first token in front of others
    have hfirst : [kind].count (.keyword .END) ≤ openCases := by
      by_cases hend : kind = .keyword .END
      · subst hend
        simpa using h 1
      · simp [hend]
    have hcount : ∀ word more, (kind :: more).count word = [kind].count word + more.count word :=
      fun word more => by rw [← List.count_append, List.singleton_append]
    have hrest := fun n => h (n + 1)
    simp only [List.take_succ_cons, hcount _ (kinds.take _)] at hrest
    rw [after?_cons, afterToken?, if_neg hkind]
    simp only [Option.bind_some, afterTriggerToken_eq hfirst]
    rw [ih hclosed.2 (fun n => by have := hrest n; omega), hcount _ kinds, hcount _ kinds]
    congr 2
    omega

/-- Behind balanced tokens, a trigger has as many open expressions as before. -/
theorem Balanced.after? {kinds : List TokenKind} (h : Balanced kinds)
    (hclosed : .unterminatedComment ∉ kinds) :
    (Phase.trigger 0).after? kinds = some (.trigger 0) := by
  rw [Phase.trigger_after? hclosed (by simpa using h.prefix_le), h.count_eq]
  simp

/-- Cut among balanced tokens, a trigger is not at its end. -/
theorem Balanced.after?_take {kinds : List TokenKind} (h : Balanced kinds)
    (hclosed : .unterminatedComment ∉ kinds) (n : Nat) :
    ∃ openCases, (Phase.trigger 0).after? (kinds.take n) = some (.trigger openCases) := by
  refine ⟨_, Phase.trigger_after? (fun hmem => hclosed (List.mem_of_mem_take hmem)) fun m => ?_⟩
  rw [List.take_take, Nat.zero_add]
  exact h.prefix_le _

/-! ## Texts of triggers -/

/-- What may stand between `CREATE` and `TRIGGER`. -/
def triggerMarks : List (List TokenKind) :=
  [[], [.keyword .TEMP], [.keyword .TEMPORARY]]

/-- The tokens of a trigger through `TRIGGER`. -/
def triggerOpening (marks : List TokenKind) : List TokenKind :=
  [.keyword .CREATE] ++ marks ++ [.keyword .TRIGGER]

/-- The tokens of a trigger between `TRIGGER` and the `END` at its end. -/
def triggerInside (header body : List TokenKind) : List TokenKind :=
  header ++ [.keyword .BEGIN] ++ body

/-- A text that begins with its first token and ends with its last, and whose tokens are those of a
trigger: `CREATE`, maybe `TEMP` or `TEMPORARY`, `TRIGGER`, a header, `BEGIN`, a body and `END`. Its
last token ends no quote and no comment, so none of these is open. A placeholder that begins with
`$` is left out, because a text behind can close its suffix. -/
structure WholeTrigger (sql : String) (marks header body : List TokenKind) : Prop where
  starts : ∃ token ∈ tokens sql, token.start = 0
  stops : ∃ token ∈ tokens sql, token.stop = sql.utf8ByteSize
  kinds : (tokens sql).map Token.kind =
    triggerOpening marks ++ triggerInside header body ++ [.keyword .END]
  marks_mem : marks ∈ triggerMarks
  header : Balanced header
  body : Balanced body
  noDollar : ∀ token ∈ tokens sql, token.kind = .parameter → token.text.toList.head? ≠ some '$'

/-- From `CREATE` to `TRIGGER`, a trigger begins. -/
theorem statementPhase?_trigger {marks : List TokenKind} (h : marks ∈ triggerMarks)
    (kinds : List TokenKind) :
    statementPhase? (triggerOpening marks ++ kinds) = (Phase.trigger 0).after? kinds := by
  simp only [triggerMarks, List.mem_cons, List.not_mem_nil, or_false] at h
  rcases h with rfl | rfl | rfl <;> rfl

/-- Lexemes whose text has no bytes are none. -/
theorem eq_nil_of_byteLength {xs : List Lexeme} (hne : ∀ x ∈ xs, x.text ≠ [])
    (h : byteLength (texts xs) = 0) : xs = [] := by
  cases xs with
  | nil => rfl
  | cons x xs =>
    have := byteLength_pos (hne x (by simp))
    rw [texts_cons, byteLength_append] at h
    omega

theorem utf8ByteSize_eq (sql : String) : sql.utf8ByteSize = byteLength sql.toList := by
  rw [← utf8ByteSize_ofList, String.ofList_toList]

/-- A text that begins with its first token and ends with its last, and that has no open comment,
has the lexemes of a statement. -/
theorem isStatement_of_tokens {sql : String} (hstarts : ∃ token ∈ tokens sql, token.start = 0)
    (hstops : ∃ token ∈ tokens sql, token.stop = sql.utf8ByteSize)
    (hclosed : CommentsClosed (lexemes sql.toList)) : IsStatement (lexemes sql.toList) := by
  have hne := (relexes_lexemes sql.toList).text_ne_nil
  have htoken : ∀ {x : Lexeme} {offset : Nat} {token : Token}, x.tokenAt? offset = some token →
      x.isToken = true := fun hx => by
    rw [Lexeme.isToken, (Lexeme.tokenAt?_eq_some hx).1]
    rfl
  refine ⟨?_, ?_, hclosed⟩
  · obtain ⟨token, hmem, hstart⟩ := hstarts
    obtain ⟨pre, x, post, heq, hx⟩ := exists_lexeme_of_mem_tokensFrom hmem
    have hzero := (Lexeme.tokenAt?_eq_some hx).2.1
    rw [heq] at hne ⊢
    obtain rfl : pre = [] := eq_nil_of_byteLength (fun y hy => hne y (by simp [hy])) (by omega)
    simpa using htoken hx
  · obtain ⟨token, hmem, hstop⟩ := hstops
    obtain ⟨pre, x, post, heq, hx⟩ := exists_lexeme_of_mem_tokensFrom hmem
    have hend := (Lexeme.tokenAt?_eq_some hx).2.2
    rw [utf8ByteSize_eq, ← texts_lexemes sql.toList, heq] at hstop
    simp only [texts_append, texts_cons, byteLength_append] at hstop
    rw [heq] at hne ⊢
    obtain rfl : post = [] := eq_nil_of_byteLength (fun y hy => hne y (by simp [hy])) (by omega)
    simpa using htoken hx

/-- Texts of the same length at the start of a text are the same. -/
theorem eq_of_append_eq_append {a b s t : List Char} (h : a ++ s = b ++ t)
    (hlen : byteLength a = byteLength b) : a = b := by
  have hnil : ∀ c : List Char, byteLength c = 0 → c = [] := fun c hc =>
    Classical.byContradiction fun hne => by have := byteLength_pos hne; omega
  rcases List.append_eq_append_iff.mp h with ⟨c, rfl, _⟩ | ⟨c, rfl, _⟩
  · rw [byteLength_append] at hlen
    rw [hnil c (by omega), List.append_nil]
  · rw [byteLength_append] at hlen
    rw [hnil c (by omega), List.append_nil]

/-- A text cut behind one of its tokens has the lexemes up to this token. -/
theorem lexemes_cut {sql cut rest : String} {before behind : List Token} {token : Token}
    (htokens : tokens sql = before ++ token :: behind) (hcut : sql = cut ++ rest)
    (hstop : cut.utf8ByteSize = token.stop) :
    ∃ pre x post, lexemes sql.toList = pre ++ x :: post ∧ lexemes cut.toList = pre ++ [x] ∧
      x.tokenKind? = some token.kind ∧ kindsOf (pre ++ [x]) = (before ++ [token]).map Token.kind ∧
      kindsOf post = behind.map Token.kind := by
  obtain ⟨pre, x, post, heq, hx, hbehind⟩ := exists_lexeme_of_tokensFrom_eq htokens
  obtain ⟨hkind, -, hend⟩ := Lexeme.tokenAt?_eq_some hx
  have hsplit : lexemes sql.toList = pre ++ [x] ++ post := by simpa using heq
  have htext : cut.toList = texts (pre ++ [x]) := by
    refine eq_of_append_eq_append (s := rest.toList) (t := texts post) ?_ ?_
    · rw [← String.toList_append, ← hcut, ← texts_append, ← hsplit, texts_lexemes]
    · rw [← utf8ByteSize_eq, hstop, hend]
      simp
  have hpost : kindsOf post = behind.map Token.kind := by
    rw [hbehind, map_kind_tokensFrom]
  refine ⟨pre, x, post, heq, ?_, hkind, ?_, hpost⟩
  · have hwhole : lexemes (texts (pre ++ [x]) ++ texts post) = pre ++ [x] ++ post := by
      rw [← texts_append, ← hsplit, texts_lexemes]
    rw [htext, lexemes_texts_prefix hwhole]
  · have hall := map_kind_tokensFrom 0 (lexemes sql.toList)
    rw [← tokens, htokens, hsplit, kindsOf_append, hpost, ← List.singleton_append,
      ← List.append_assoc, List.map_append] at hall
    exact (List.append_cancel_right hall).symm

namespace WholeTrigger

variable {sql : String} {marks header body : List TokenKind}

theorem kindsOf_eq (h : WholeTrigger sql marks header body) :
    kindsOf (lexemes sql.toList) =
      triggerOpening marks ++ (triggerInside header body ++ [.keyword .END]) := by
  rw [← map_kind_tokensFrom 0, ← tokens, h.kinds, List.append_assoc]

theorem inside (h : WholeTrigger sql marks header body) : Balanced (triggerInside header body) :=
  (h.header.append (.singleton (by decide) (by decide))).append h.body

/-- The last token is the `END` of the trigger. -/
theorem eq_end_of_last (h : WholeTrigger sql marks header body) {pre : List Lexeme} {x : Lexeme}
    {kind : TokenKind} (heq : lexemes sql.toList = pre ++ [x]) (hx : x.tokenKind? = some kind) :
    kind = .keyword .END := by
  have hkinds := h.kindsOf_eq.trans (List.append_assoc _ _ _).symm
  rw [heq, kindsOf_append, kindsOf_cons, hx] at hkinds
  exact List.singleton_inj.mp (List.append_inj' hkinds rfl).2

theorem commentsClosed (h : WholeTrigger sql marks header body) :
    CommentsClosed (lexemes sql.toList) := by
  intro x hmem hx
  obtain ⟨pre, post, heq⟩ := List.append_of_mem hmem
  obtain rfl := openCommentLast_lexemes sql.toList pre x post heq hx
  cases h.eq_end_of_last heq hx

theorem isStatement (h : WholeTrigger sql marks header body) :
    IsStatement (lexemes sql.toList) :=
  isStatement_of_tokens h.starts h.stops h.commentsClosed

/-- No comment is open among the tokens of the trigger. -/
theorem not_mem_inside (h : WholeTrigger sql marks header body) :
    .unterminatedComment ∉ triggerInside header body := by
  intro hmem
  refine h.commentsClosed.not_mem_kindsOf ?_
  rw [h.kindsOf_eq]
  exact List.mem_append_right _ (List.mem_append_left _ hmem)

/-- The `END` at its end ends the trigger. -/
theorem statementPhase?_eq (h : WholeTrigger sql marks header body) :
    statementPhase? (kindsOf (lexemes sql.toList)) = some .plain := by
  rw [h.kindsOf_eq, statementPhase?_trigger h.marks_mem, Phase.after?_append,
    h.inside.after? h.not_mem_inside]
  rfl

/-- What stands behind a separator does not change the lexemes of a trigger. -/
theorem lexemes_append (h : WholeTrigger sql marks header body) (rest : List Char) :
    lexemes (sql.toList ++ ';' :: rest) =
      lexemes sql.toList ++ ⟨.token .semicolon, [';']⟩ :: lexemes rest := by
  have hlast : EndsInToken (lexemes sql.toList) [] := by
    intro x hx
    obtain ⟨pre, heq⟩ := List.getLast?_eq_some_iff.mp hx
    have hisToken := h.isStatement.last
    rw [hx, Option.any_some] at hisToken
    obtain ⟨kind, hkind⟩ := Option.isSome_iff_exists.mp hisToken
    obtain rfl := h.eq_end_of_last heq hkind
    exact ⟨_, Lexeme.kind_eq_of_tokenKind? hkind, fun hopen => by cases hopen⟩
  have hdollar : (lexemes sql.toList).any Lexeme.isDollarParameter = false := by
    refine List.any_eq_false.mpr fun x hx hparam => ?_
    rw [Lexeme.isDollarParameter, Bool.and_eq_true, decide_eq_true_eq, decide_eq_true_eq] at hparam
    obtain ⟨pre, post, heq⟩ := List.append_of_mem hx
    refine h.noDollar ⟨.parameter, byteLength (texts pre), String.ofList x.text⟩ ?_ rfl
      (by rw [String.toList_ofList]; exact hparam.2)
    rw [tokens, heq]
    refine mem_tokensFrom_of_tokenAt? pre post ?_
    rw [Nat.zero_add, Lexeme.tokenAt?, Lexeme.tokenKind?, hparam.1]
    rfl
  have halone : lexemes (texts (lexemes sql.toList) ++ []) = lexemes sql.toList ++ lexemes [] := by
    rw [texts_lexemes, List.append_nil, lexemes_nil, List.append_nil]
  have hkept := lexemes_kept halone hlast rest (by simp [hdollar])
  rwa [texts_lexemes] at hkept

/-- In front of a separator, a trigger is one statement, and the statements behind follow. -/
theorem splitStatements_append (h : WholeTrigger sql marks header body) (rest : String) :
    (splitStatements (sql ++ ";" ++ rest)).1 = sql :: (splitStatements rest).1 := by
  obtain ⟨bodies, inTrigger, hrest⟩ := exists_splits (openCommentLast_lexemes rest.toList)
  have hsplits : Splits (lexemes sql.toList ++ ⟨.token .semicolon, [';']⟩ :: lexemes rest.toList)
      (lexemes sql.toList :: bodies) inTrigger :=
    .statement_of_body h.isStatement h.statementPhase?_eq kindsOf_nil rfl hrest
  have htext : (sql ++ ";" ++ rest).toList = sql.toList ++ ';' :: rest.toList := by
    simp
  rw [← h.lexemes_append, ← htext] at hsplits
  rw [hsplits.splitStatements_eq.1, hrest.splitStatements_eq.1, List.map_cons, statementText,
    texts_lexemes, String.ofList_toList]

/-- A trigger by itself is complete. -/
theorem splitStatements_self (h : WholeTrigger sql marks header body) :
    (splitStatements sql).1 = [sql] ∧ (splitStatements sql).2.needsMoreInput = false := by
  have hsingle := (Splits.single h.isStatement h.statementPhase?_eq).splitStatements_eq
  refine ⟨?_, ?_⟩
  · rw [hsingle.1, List.map_singleton, statementText, texts_lexemes, String.ofList_toList]
  · rw [SplitInfo.needsMoreInput, hsingle.2.1, hsingle.2.2, decide_eq_false]
    · rfl
    · intro hmem
      obtain ⟨x, hx, hopen⟩ := List.mem_filterMap.mp hmem
      exact h.commentsClosed x hx hopen

/-- The tokens up to one from `TRIGGER` on are those through `TRIGGER` and some of those inside. -/
theorem exists_take_inside (h : WholeTrigger sql marks header body) {before behind : List Token}
    {token : Token} (htokens : tokens sql = before ++ token :: behind)
    (hfrom : marks.length < before.length) (hbehind : behind ≠ []) :
    ∃ n, (before ++ [token]).map Token.kind =
      triggerOpening marks ++ (triggerInside header body).take n := by
  have hkinds := h.kindsOf_eq
  rw [← map_kind_tokensFrom 0, ← tokens, htokens, ← List.singleton_append, ← List.append_assoc,
    List.map_append] at hkinds
  have hlength : (triggerOpening marks).length = marks.length + 2 := by simp [triggerOpening]
  have hpos := List.length_pos_iff.mpr hbehind
  have hall := congrArg List.length hkinds
  simp only [List.length_append, List.length_map, List.length_singleton] at hall
  refine ⟨before.length + 1 - (triggerOpening marks).length, ?_⟩
  calc (before ++ [token]).map Token.kind
      = (triggerOpening marks ++ (triggerInside header body ++ [TokenKind.keyword .END])).take
          (before.length + 1) := by
        rw [← hkinds, List.take_left' (by simp)]
    _ = triggerOpening marks ++
          (triggerInside header body).take (before.length + 1 - (triggerOpening marks).length) := by
        rw [List.take_append, List.take_of_length_le (by omega),
          List.take_append_of_le_length (by omega)]

/-- Cut behind a token from `TRIGGER` on, but in front of the `END` at its end, a trigger is one
statement that needs more. -/
theorem splitStatements_cut (h : WholeTrigger sql marks header body) {before behind : List Token}
    {token : Token} (htokens : tokens sql = before ++ token :: behind)
    (hfrom : marks.length < before.length) (hbehind : behind ≠ []) {cut rest : String}
    (hcut : sql = cut ++ rest) (hstop : cut.utf8ByteSize = token.stop) :
    (splitStatements cut).1 = [cut] ∧ (splitStatements cut).2.incompleteTrigger = true := by
  obtain ⟨pre, x, post, heq, hlexemes, hx, hkinds, hpost⟩ := lexemes_cut htokens hcut hstop
  obtain ⟨n, hn⟩ := h.exists_take_inside htokens hfrom hbehind
  obtain ⟨openCases, hinside⟩ := h.inside.after?_take h.not_mem_inside n
  have hphase : statementPhase? (kindsOf (lexemes cut.toList)) = some (.trigger openCases) := by
    rw [hlexemes, hkinds, hn, statementPhase?_trigger h.marks_mem, hinside]
  have hstatement : IsStatement (lexemes cut.toList) := by
    have hwhole := h.isStatement
    rw [heq] at hwhole
    rw [hlexemes]
    refine ⟨?_, by simp [Lexeme.isToken, hx], fun y hy => hwhole.closed y ?_⟩
    · have hfirst := hwhole.first
      cases pre <;> simpa using hfirst
    · rw [← List.singleton_append, ← List.append_assoc]
      exact List.mem_append_left _ hy
  have hsingle := (Splits.single hstatement hphase).splitStatements_eq
  refine ⟨?_, hsingle.2.1⟩
  rw [hsingle.1, List.map_singleton, statementText, texts_lexemes, String.ofList_toList]

end WholeTrigger

/-- The text of a trigger is one statement in front of a separator, whatever is behind, and it needs
no more input by itself. Cut behind a token from `TRIGGER` on, but in front of the `END` at its end,
it is one statement that is an incomplete trigger. -/
theorem triggers_stay_whole {sql : String} {marks header body : List TokenKind}
    (h : WholeTrigger sql marks header body) :
    (∀ rest, (splitStatements (sql ++ ";" ++ rest)).1 = sql :: (splitStatements rest).1) ∧
      (splitStatements sql).1 = [sql] ∧ (splitStatements sql).2.needsMoreInput = false ∧
      ∀ before token behind cut rest, tokens sql = before ++ token :: behind →
        marks.length < before.length → behind ≠ [] → sql = cut ++ rest →
        cut.utf8ByteSize = token.stop →
        (splitStatements cut).1 = [cut] ∧ (splitStatements cut).2.incompleteTrigger = true :=
  ⟨h.splitStatements_append, h.splitStatements_self.1, h.splitStatements_self.2,
    fun _ _ _ _ _ htokens hfrom hbehind hcut hstop =>
      h.splitStatements_cut htokens hfrom hbehind hcut hstop⟩

/-- A trigger whose body has separators and an expression. -/
theorem triggers_stay_whole_of_case :
    WholeTrigger "CREATE TEMP TRIGGER t BEGIN a; CASE b END; END" [.keyword .TEMP] [.identifier]
      [.identifier, .semicolon, .keyword .CASE, .identifier, .keyword .END, .semicolon] ∧
    (splitStatements ("CREATE TEMP TRIGGER t BEGIN a; CASE b END; END" ++ ";" ++ "c; d")).1 =
      "CREATE TEMP TRIGGER t BEGIN a; CASE b END; END" :: (splitStatements "c; d").1 := by
  have h : WholeTrigger "CREATE TEMP TRIGGER t BEGIN a; CASE b END; END" [.keyword .TEMP] [.identifier]
      [.identifier, .semicolon, .keyword .CASE, .identifier, .keyword .END, .semicolon] :=
    { starts := by decide +kernel
      stops := by decide +kernel
      kinds := by decide +kernel
      marks_mem := by decide
      header := by decide
      body := by decide
      noDollar := by decide +kernel }
  exact ⟨h, (triggers_stay_whole h).1 "c; d"⟩

end SqlStream.Sql
