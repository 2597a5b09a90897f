import SqlStream.Proofs.Sql.Division

/-!
# Splitting a script keeps its tokens

The statements of a script are read again, one by one: their placeholders are looked for, and
whether they control a transaction. That is sound because a statement read by itself has the tokens
that the script has at its place. Splitting is *faithful*: statements are stretches of the script in
order, each from the start of a token to the end of one, and every token is in exactly one of them,
apart from the semicolons between them and a comment left open at the end. A semicolon is between
statements exactly if it is not inside a trigger (`splitStatements_spans`, `Phase.next?_semicolon`).
-/

namespace SqlStream.Sql

/-! ## Spans -/

/-- A stretch of a script: the byte at which it starts, and its text. -/
structure Span where
  start : Nat
  text : String
  deriving DecidableEq, Repr

namespace Span

/-- The byte offset just behind a span. -/
def stop (span : Span) : Nat :=
  span.start + span.text.utf8ByteSize

/-- True of tokens that lie inside a span. -/
def covers (span : Span) (token : Token) : Bool :=
  span.start ≤ token.start && token.stop ≤ span.stop

/-- The tokens of a span read by itself, where they stand in the script. -/
def ownTokens (span : Span) : List Token :=
  (tokens span.text).map (Token.shift span.start)

/-- A script has the text of a span at its place. -/
def LiesIn (span : Span) (sql : String) : Prop :=
  ∃ before after, sql = before ++ span.text ++ after ∧ before.utf8ByteSize = span.start

end Span

/-- True of tokens that belong to no statement: semicolons outside all spans, and open comments. -/
def separates (spans : List Span) (token : Token) : Bool :=
  token.kind = .unterminatedComment ||
    token.kind = .semicolon && !spans.any fun span => span.covers token

/-- Spans that split tokens into statements without losing, inventing or changing any. -/
structure FaithfulSplit (source : List Token) (spans : List Span) : Prop where
  ordered : spans.Pairwise fun earlier later => earlier.stop ≤ later.start
  starts : ∀ span ∈ spans, ∃ token ∈ source, token.start = span.start
  stops : ∀ span ∈ spans, ∃ token ∈ source, token.stop = span.stop
  /-- Every token that is neither separator nor open comment is in exactly one span. -/
  covered : ∀ token ∈ source, token.kind ≠ .semicolon → token.kind ≠ .unterminatedComment →
    (spans.countP fun span => span.covers token) = 1
  /-- A span by itself has the tokens that the source has in it. -/
  relexed : ∀ span ∈ spans, span.ownTokens = source.filter span.covers
  /-- The tokens of all spans are the tokens of the source without those that separate. -/
  concatenated : spans.flatMap Span.ownTokens = source.filter fun token => !separates spans token
  closed : ∀ span ∈ spans, ∀ token ∈ tokens span.text, token.kind ≠ .unterminatedComment

/-! ## Spans and tokens apart from each other -/

/-- A token in front of a span is not in it. -/
theorem Span.covers_eq_false_of_before {span : Span} {token : Token}
    (hbefore : token.stop ≤ span.start) (hpos : token.start < token.stop) :
    span.covers token = false := by
  rw [Span.covers, Bool.and_eq_false_iff, decide_eq_false_iff_not, decide_eq_false_iff_not]
  omega

/-- A token behind a span is not in it. -/
theorem Span.covers_eq_false_of_behind {span : Span} {token : Token}
    (hbehind : span.stop ≤ token.start) (hpos : token.start < token.stop) :
    span.covers token = false := by
  rw [Span.covers, Bool.and_eq_false_iff, decide_eq_false_iff_not, decide_eq_false_iff_not]
  omega

/-- A token inside a span is in it. -/
theorem Span.covers_of_inside {span : Span} {token : Token} (hstart : span.start ≤ token.start)
    (hstop : token.stop ≤ span.stop) : span.covers token = true := by
  rw [Span.covers, Bool.and_eq_true, decide_eq_true_iff, decide_eq_true_iff]
  exact ⟨hstart, hstop⟩

/-- Where tokens of a source stand next to one span: some in front of it that belong to no
statement, its own, and the others behind it. -/
structure Beside (span : Span) (front own behind : List Token) : Prop where
  front_stop : ∀ token ∈ front, token.stop ≤ span.start
  front_kind : ∀ token ∈ front, token.kind = .semicolon ∨ token.kind = .unterminatedComment
  own_eq : own = span.ownTokens
  own_inside : ∀ token ∈ own, span.start ≤ token.start ∧ token.stop ≤ span.stop
  own_closed : ∀ token ∈ own, token.kind ≠ .unterminatedComment
  own_start : ∃ token ∈ own, token.start = span.start
  own_stop : ∃ token ∈ own, token.stop = span.stop
  behind_start : ∀ token ∈ behind, span.stop ≤ token.start

section

variable {span : Span} {spans : List Span} {front own behind : List Token}

/-- A span has its own tokens of the source. -/
theorem Beside.filter_covers (h : Beside span front own behind)
    (hpos : ∀ token ∈ front ++ own ++ behind, token.start < token.stop) :
    (front ++ own ++ behind).filter span.covers = own := by
  have hfront : front.filter span.covers = [] := by
    refine List.filter_eq_nil_iff.mpr ?_
    intro token htoken
    rw [Span.covers_eq_false_of_before (h.front_stop token htoken) (hpos token (by simp [htoken]))]
    exact Bool.false_ne_true
  have hown : own.filter span.covers = own := by
    refine List.filter_eq_self.mpr ?_
    intro token htoken
    obtain ⟨hstart, hstop⟩ := h.own_inside token htoken
    exact Span.covers_of_inside hstart hstop
  have hbehind : behind.filter span.covers = [] := by
    refine List.filter_eq_nil_iff.mpr ?_
    intro token htoken
    rw [Span.covers_eq_false_of_behind (h.behind_start token htoken) (hpos token (by simp [htoken]))]
    exact Bool.false_ne_true
  rw [List.filter_append, List.filter_append, hfront, hown, hbehind, List.nil_append, List.append_nil]

/-- A later span has only tokens behind an earlier one. -/
theorem Beside.filter_covers_later (h : Beside span front own behind) {later : Span}
    (hlater : span.stop ≤ later.start)
    (hpos : ∀ token ∈ front ++ own ++ behind, token.start < token.stop) :
    (front ++ own ++ behind).filter later.covers = behind.filter later.covers := by
  have hnone : (front ++ own).filter later.covers = [] := by
    refine List.filter_eq_nil_iff.mpr ?_
    intro token htoken
    have hstop : token.stop ≤ later.start := by
      rcases List.mem_append.mp htoken with hmem | hmem
      · have := h.front_stop token hmem
        have : span.start ≤ span.stop := Nat.le_add_right _ _
        omega
      · have := (h.own_inside token hmem).2
        omega
    rw [Span.covers_eq_false_of_before hstop (hpos token (List.mem_append_left _ htoken))]
    exact Bool.false_ne_true
  rw [List.filter_append, hnone, List.nil_append]

/-- The tokens in front of a span separate. -/
theorem Beside.separates_front (h : Beside span front own behind)
    (hspans : ∀ later ∈ spans, span.stop ≤ later.start)
    (hpos : ∀ token ∈ front, token.start < token.stop) :
    ∀ token ∈ front, separates (span :: spans) token = true := by
  intro token htoken
  have hnone : ∀ other ∈ span :: spans, ¬other.covers token = true := by
    intro other hother
    have hstop := h.front_stop token htoken
    have hle : token.stop ≤ other.start := by
      rcases List.mem_cons.mp hother with rfl | hother
      · exact hstop
      · have := hspans other hother
        have : span.start ≤ span.stop := Nat.le_add_right _ _
        omega
    rw [Span.covers_eq_false_of_before hle (hpos token htoken)]
    exact Bool.false_ne_true
  rcases h.front_kind token htoken with hkind | hkind
  · simp only [separates, hkind, List.any_eq_false.mpr hnone]
    decide
  · simp [separates, hkind]

/-- Its own do not. -/
theorem Beside.separates_own (h : Beside span front own behind) :
    ∀ token ∈ own, separates (span :: spans) token = false := by
  intro token htoken
  obtain ⟨hstart, hstop⟩ := h.own_inside token htoken
  simp [separates, h.own_closed token htoken, Span.covers_of_inside hstart hstop]

/-- Those behind it separate if they do without it. -/
theorem Beside.separates_behind (h : Beside span front own behind)
    (hpos : ∀ token ∈ behind, token.start < token.stop) :
    ∀ token ∈ behind, separates (span :: spans) token = separates spans token := by
  intro token htoken
  have hcovers :=
    Span.covers_eq_false_of_behind (h.behind_start token htoken) (hpos token htoken)
  simp only [separates, List.any_cons, hcovers, Bool.false_or]

section

variable (h : Beside span front own behind) (hspans : ∀ later ∈ spans, span.stop ≤ later.start)
  (hpos : ∀ token ∈ front ++ own ++ behind, token.start < token.stop)

include h hspans hpos

/-- Of the tokens beside a span, those that separate are the ones in front of it and those behind
that separate there. -/
theorem Beside.filter_separates :
    (front ++ own ++ behind).filter (separates (span :: spans)) =
      front ++ behind.filter (separates spans) := by
  have hfront := h.separates_front hspans fun token htoken => hpos token (by simp [htoken])
  have hbehind : ∀ token ∈ behind, separates (span :: spans) token = separates spans token :=
    h.separates_behind fun token htoken => hpos token (by simp [htoken])
  rw [List.filter_append, List.filter_append, List.filter_eq_self.mpr hfront,
    List.filter_eq_nil_iff.mpr fun token htoken => by simp [h.separates_own token htoken],
    List.filter_congr hbehind, List.append_nil]

/-- The others are its own and the others behind it. -/
theorem Beside.filter_not_separates :
    ((front ++ own ++ behind).filter fun token => !separates (span :: spans) token) =
      own ++ behind.filter fun token => !separates spans token := by
  have hfront := h.separates_front hspans fun token htoken => hpos token (by simp [htoken])
  have hbehind : ∀ token ∈ behind, separates (span :: spans) token = separates spans token :=
    h.separates_behind fun token htoken => hpos token (by simp [htoken])
  rw [List.filter_append, List.filter_append,
    List.filter_eq_nil_iff.mpr fun token htoken => by simp [hfront token htoken],
    List.filter_eq_self.mpr fun token htoken => by simp [h.separates_own token htoken],
    List.filter_congr fun token htoken => by rw [hbehind token htoken], List.nil_append]

end

/-- A faithful split goes on to the left. -/
theorem FaithfulSplit.cons (hsplit : FaithfulSplit behind spans) (h : Beside span front own behind)
    (hspans : ∀ later ∈ spans, span.stop ≤ later.start)
    (hpos : ∀ token ∈ front ++ own ++ behind, token.start < token.stop) :
    FaithfulSplit (front ++ own ++ behind) (span :: spans) where
  ordered := List.pairwise_cons.mpr ⟨hspans, hsplit.ordered⟩
  starts := by
    intro other hother
    rcases List.mem_cons.mp hother with rfl | hother
    · obtain ⟨token, hmem, hstart⟩ := h.own_start
      exact ⟨token, by simp [hmem], hstart⟩
    · obtain ⟨token, hmem, hstart⟩ := hsplit.starts other hother
      exact ⟨token, by simp [hmem], hstart⟩
  stops := by
    intro other hother
    rcases List.mem_cons.mp hother with rfl | hother
    · obtain ⟨token, hmem, hstop⟩ := h.own_stop
      exact ⟨token, by simp [hmem], hstop⟩
    · obtain ⟨token, hmem, hstop⟩ := hsplit.stops other hother
      exact ⟨token, by simp [hmem], hstop⟩
  covered := by
    intro token htoken hsemi hopen
    have hlt := hpos token htoken
    rw [List.append_assoc, List.mem_append, List.mem_append] at htoken
    rw [List.countP_cons]
    -- in front there are only tokens of no statement, so two places remain
    rcases htoken with hmem | hmem | hmem
    · rcases h.front_kind token hmem with hkind | hkind
      · exact absurd hkind hsemi
      · exact absurd hkind hopen
    · obtain ⟨hstart, hstop⟩ := h.own_inside token hmem
      have hnone : (spans.countP fun other => other.covers token) = 0 := by
        refine List.countP_eq_zero.mpr ?_
        intro other hother
        have := hspans other hother
        rw [Span.covers_eq_false_of_before (by omega) hlt]
        exact Bool.false_ne_true
      rw [hnone, if_pos (Span.covers_of_inside hstart hstop)]
    · rw [hsplit.covered token hmem hsemi hopen,
        Span.covers_eq_false_of_behind (h.behind_start token hmem) hlt, if_neg Bool.false_ne_true]
  relexed := by
    intro other hother
    rcases List.mem_cons.mp hother with rfl | hother
    · rw [h.filter_covers hpos, h.own_eq]
    · rw [h.filter_covers_later (hspans other hother) hpos]
      exact hsplit.relexed other hother
  concatenated := by
    rw [h.filter_not_separates hspans hpos, List.flatMap_cons, hsplit.concatenated, h.own_eq]
  closed := by
    intro other hother token htoken
    rcases List.mem_cons.mp hother with rfl | hother
    · exact h.own_closed (token.shift other.start) (by
        rw [h.own_eq]
        exact List.mem_map_of_mem htoken)
    · exact hsplit.closed other hother token htoken

end

/-! ## Statements as spans -/

/-- The tokens of a gap belong to no statement. -/
theorem kind_of_mem_tokensFrom_gap {offset : Nat} {gap : List Lexeme} {token : Token}
    (hgap : ∀ x ∈ gap, x.isGap = true) (h : token ∈ tokensFrom offset gap) :
    token.kind = .semicolon ∨ token.kind = .unterminatedComment := by
  obtain ⟨pre, x, post, rfl, hx⟩ := exists_lexeme_of_mem_tokensFrom h
  have hkind := (Lexeme.tokenAt?_eq_some hx).1
  have hisGap := hgap x (by simp)
  rw [Lexeme.isGap, hkind] at hisGap
  split at hisGap
  · next heq => cases heq
  · next heq => exact .inl (Option.some.inj heq)
  · next heq => exact .inr (Option.some.inj heq)
  · cases hisGap

theorem bounds_of_kind {token : Token}
    (h : token.kind = .semicolon ∨ token.kind = .unterminatedComment) :
    token.kind.bounds = true := by
  rcases h with hkind | hkind <;> rw [hkind] <;> rfl

/-- A lexeme that is a token is one wherever it stands. -/
theorem Lexeme.exists_tokenAt? {x : Lexeme} (h : x.isToken = true) (offset : Nat) :
    ∃ token, x.tokenAt? offset = some token := by
  obtain ⟨kind, hkind⟩ := Option.isSome_iff_exists.mp h
  exact ⟨_, by rw [Lexeme.tokenAt?, hkind]; rfl⟩

/-- A statement starts at the start of a token. -/
theorem IsStatement.exists_start {body : List Lexeme} (h : IsStatement body) (offset : Nat) :
    ∃ token ∈ tokensFrom offset body, token.start = offset := by
  cases body with
  | nil => exact absurd h.first (by simp)
  | cons x body =>
    have hx : x.isToken = true := by simpa using h.first
    obtain ⟨token, htoken⟩ := Lexeme.exists_tokenAt? hx offset
    exact ⟨token, mem_tokensFrom_of_tokenAt? [] body htoken, (Lexeme.tokenAt?_eq_some htoken).2.1⟩

/-- A statement ends at the end of a token. -/
theorem IsStatement.exists_stop {body : List Lexeme} (h : IsStatement body) (offset : Nat) :
    ∃ token ∈ tokensFrom offset body, token.stop = offset + byteLength (texts body) := by
  rcases List.eq_nil_or_concat body with rfl | ⟨pre, x, hbody⟩
  · exact absurd h.last (by simp)
  · rw [List.concat_eq_append] at hbody
    subst hbody
    have hx : x.isToken = true := by simpa using h.last
    obtain ⟨token, htoken⟩ := Lexeme.exists_tokenAt? hx (offset + byteLength (texts pre))
    refine ⟨token, mem_tokensFrom_of_tokenAt? pre [] htoken, ?_⟩
    rw [(Lexeme.tokenAt?_eq_some htoken).2.2]
    simp [Nat.add_assoc]

/-- No token of closed lexemes is an open comment. -/
theorem CommentsClosed.kind_of_mem_tokensFrom {body : List Lexeme} (h : CommentsClosed body)
    {offset : Nat} {token : Token} (htoken : token ∈ tokensFrom offset body) :
    token.kind ≠ .unterminatedComment := by
  obtain ⟨pre, x, post, rfl, hx⟩ := exists_lexeme_of_mem_tokensFrom htoken
  intro hkind
  refine h x (by simp) ?_
  rw [(Lexeme.tokenAt?_eq_some hx).1, hkind]

/-- The lexemes of a text have text, and every stretch of them is found again in its own text. -/
structure Relexes (xs : List Lexeme) : Prop where
  text_ne_nil : ∀ x ∈ xs, x.text ≠ []
  lexemes_texts : ∀ pre body post, xs = pre ++ body ++ post → lexemes (texts body) = body

theorem Relexes.of_append {pre xs : List Lexeme} (h : Relexes (pre ++ xs)) : Relexes xs where
  text_ne_nil x hx := h.text_ne_nil x (List.mem_append_right _ hx)
  lexemes_texts front body post heq :=
    h.lexemes_texts (pre ++ front) body post (by rw [heq]; simp only [List.append_assoc])

theorem relexes_lexemes (s : List Char) : Relexes (lexemes s) where
  text_ne_nil := by
    intro x hx
    obtain ⟨pre, post, heq⟩ := List.append_of_mem hx
    obtain ⟨c, cs, _, rfl, _⟩ := lexemes_eq_cons (lexemes_texts_suffix heq)
    exact List.cons_ne_nil _ _
  lexemes_texts _ _ _ heq := Sql.lexemes_texts heq

/-- The span of a statement whose lexemes start at a byte. -/
def statementSpan (offset : Nat) (body : List Lexeme) : Span :=
  ⟨offset, statementText body⟩

theorem stop_statementSpan (offset : Nat) (body : List Lexeme) :
    (statementSpan offset body).stop = offset + byteLength (texts body) := by
  rw [Span.stop, statementSpan, statementText, utf8ByteSize_ofList]

/-- A statement by itself has the tokens that it has in its script. -/
theorem ownTokens_statementSpan {body : List Lexeme} (h : lexemes (texts body) = body)
    (offset : Nat) : (statementSpan offset body).ownTokens = tokensFrom offset body := by
  show (tokensFrom 0 (lexemes (statementText body).toList)).map (Token.shift offset) = _
  rw [statementText, String.toList_ofList, h, ← tokensFrom_add, Nat.add_zero]

/-- The statements of a division are the spans of a faithful split, inside the lexemes they are
from. The tokens that separate them are those that reading finds in no statement. -/
theorem Division.faithfulSplit {xs : List Lexeme} {bodies : List (List Lexeme)}
    (h : Division xs bodies) (hxs : Relexes xs) (offset : Nat) :
    ∃ spans : List Span, spans.map Span.text = bodies.map statementText ∧
      FaithfulSplit (tokensFrom offset xs) spans ∧
      (tokensFrom offset xs).filter (separates spans) =
        Phase.between.separators (tokensFrom offset xs) ∧
      ∀ span ∈ spans, ∃ before after, texts xs = before ++ span.text.toList ++ after ∧
        span.start = offset + byteLength before := by
  -- along the division, where the rest of it starts behind the gap and the statement
  induction h generalizing offset with
  | @gap xs hgap =>
    have hkind := fun token (htoken : token ∈ tokensFrom offset xs) =>
      kind_of_mem_tokensFrom_gap hgap htoken
    have hseparates : (tokensFrom offset xs).filter (separates []) =
        Phase.between.separators (tokensFrom offset xs) := by
      have hall := Phase.separators_between
        (fun token htoken => bounds_of_kind (hkind token htoken)) []
      rw [List.append_nil, Phase.separators, List.append_nil] at hall
      rw [hall]
      refine List.filter_eq_self.mpr fun token htoken => ?_
      rcases hkind token htoken with heq | heq <;> simp [separates, heq]
    refine ⟨[], rfl, ?_, hseparates, by simp⟩
    refine ⟨.nil, by simp, by simp, ?_, by simp, ?_, by simp⟩
    · intro token htoken hsemi hopen
      rcases hkind token htoken with heq | heq
      · exact absurd heq hsemi
      · exact absurd heq hopen
    · refine (List.filter_eq_nil_iff.mpr fun token htoken => ?_).symm
      rcases hkind token htoken with heq | heq <;> simp [separates, heq]
  | @statement gap body rest bodies phase hgap hbody hphase hstop _ ih =>
    let start := offset + byteLength (texts gap)
    obtain ⟨spans, htexts, hsplit, hseparates, hplaces⟩ :=
      ih hxs.of_append (start + byteLength (texts body))
    have hspan : (statementSpan start body).stop = start + byteLength (texts body) :=
      stop_statementSpan start body
    have hlater : ∀ later ∈ spans, (statementSpan start body).stop ≤ later.start := by
      intro later hmem
      obtain ⟨before, _, _, hstart⟩ := hplaces later hmem
      omega
    have hsource : tokensFrom offset (gap ++ body ++ rest) = tokensFrom offset gap ++
        tokensFrom start body ++ tokensFrom (start + byteLength (texts body)) rest := by
      rw [tokensFrom_append, tokensFrom_append, texts_append, byteLength_append, ← Nat.add_assoc]
    have hbeside : Beside (statementSpan start body) (tokensFrom offset gap)
        (tokensFrom start body) (tokensFrom (start + byteLength (texts body)) rest) :=
      { front_stop := fun token htoken => (bounds_of_mem_tokensFrom htoken).2
        front_kind := fun token htoken => kind_of_mem_tokensFrom_gap hgap htoken
        own_eq := (ownTokens_statementSpan (hxs.lexemes_texts gap body rest rfl) start).symm
        own_inside := fun token htoken => by
          rw [hspan]
          exact bounds_of_mem_tokensFrom htoken
        own_closed := fun token htoken => hbody.closed.kind_of_mem_tokensFrom htoken
        own_start := hbody.exists_start start
        own_stop := by
          rw [hspan]
          exact hbody.exists_stop start
        behind_start := fun token htoken => by
          rw [hspan]
          exact (bounds_of_mem_tokensFrom htoken).1 }
    have hpos := fun token (htoken : token ∈ tokensFrom offset (gap ++ body ++ rest)) =>
      start_lt_stop_of_mem_tokensFrom hxs.text_ne_nil htoken
    refine ⟨statementSpan start body :: spans, ?_, ?_, ?_, ?_⟩
    · rw [List.map_cons, List.map_cons, htexts]
      rfl
    · rw [hsource] at hpos ⊢
      exact hsplit.cons hbeside hlater hpos
    · rw [hsource] at hpos ⊢
      rw [hbeside.filter_separates hlater hpos, hseparates, List.append_assoc,
        Phase.separators_between fun token htoken =>
          bounds_of_kind (kind_of_mem_tokensFrom_gap hgap htoken),
        Phase.separators_statement (by rwa [map_kind_tokensFrom]) (by rwa [map_kind_tokensFrom])]
    · intro span hmem
      rcases List.mem_cons.mp hmem with rfl | hmem
      · refine ⟨texts gap, texts rest, ?_, rfl⟩
        simp [statementSpan, statementText]
      · obtain ⟨before, after, htext, hstart⟩ := hplaces span hmem
        refine ⟨texts gap ++ texts body ++ before, after, ?_, ?_⟩
        · rw [texts_append, texts_append, htext]
          simp only [List.append_assoc]
        · rw [hstart, byteLength_append, byteLength_append]
          omega

/-- The statements of a script as stretches of it that split its tokens faithfully. Its separators
are the tokens that reading finds in no statement. -/
theorem splitStatements_spans (sql : String) :
    ∃ spans : List Span, spans.map Span.text = (splitStatements sql).1 ∧
      (∀ span ∈ spans, span.LiesIn sql) ∧ FaithfulSplit (tokens sql) spans ∧
      (tokens sql).filter (separates spans) = Phase.between.separators (tokens sql) := by
  obtain ⟨bodies, hdivision, hstatements⟩ := splitStatements_division sql
  obtain ⟨spans, htexts, hsplit, hseparates, hplaces⟩ :=
    hdivision.faithfulSplit (relexes_lexemes sql.toList) 0
  refine ⟨spans, by rw [htexts, hstatements], ?_, hsplit, hseparates⟩
  intro span hmem
  obtain ⟨before, after, htext, hstart⟩ := hplaces span hmem
  rw [texts_lexemes] at htext
  refine ⟨String.ofList before, String.ofList after, ?_, ?_⟩
  · rw [← String.ofList_toList (s := sql), htext, String.ofList_append, String.ofList_append,
      String.ofList_toList]
  · rw [utf8ByteSize_ofList, hstart, Nat.zero_add]

/-- The statements of a script are stretches of it that split its tokens faithfully, and a comment
left open is its last token. -/
theorem splitStatements_faithful (sql : String) :
    ∃ spans : List Span, spans.map Span.text = (splitStatements sql).1 ∧
      (∀ span ∈ spans, span.LiesIn sql) ∧ FaithfulSplit (tokens sql) spans ∧
      ∀ before token behind, tokens sql = before ++ token :: behind →
        token.kind = .unterminatedComment → behind = [] := by
  obtain ⟨spans, htexts, hplaces, hsplit, _⟩ := splitStatements_spans sql
  refine ⟨spans, htexts, hplaces, hsplit, ?_⟩
  -- tokens behind an open comment would be of lexemes behind it, and there are none
  intro before token behind heq hkind
  obtain ⟨pre, x, post, hxs, hx, hbehind⟩ := exists_lexeme_of_tokensFrom_eq heq
  have hlast : post = [] := by
    refine lexemes_unterminatedComment_last hxs (Lexeme.kind_eq_of_tokenKind? ?_)
    rw [(Lexeme.tokenAt?_eq_some hx).1, hkind]
  rw [hbehind, hlast, tokensFrom_nil]

end SqlStream.Sql
