import SqlStream.Proofs.Sql.Offsets
import SqlStream.Sql.Control
import SqlStream.Sql.Statement

/-!
# Phases of reading

Inside a statement, reading is a machine whose state is a `Phase` and whose input is the class of
the next token. It stops in front of a separator, unless it is in a trigger, and in front of a
comment that is left open. `statementPhase?` runs the machine through the tokens of a statement,
whose first three decide whether it is a trigger; the machine is what `Stretch.read` does with the
lexemes (`Stretch.read_inside`, `Stretch.read_statement`).
-/

namespace SqlStream.Sql

/-! ## The machine -/

/-- The classes of the tokens among lexemes, in order. -/
def kindsOf (xs : List Lexeme) : List TokenKind :=
  xs.filterMap Lexeme.tokenKind?

@[simp] theorem kindsOf_nil : kindsOf [] = [] := rfl

@[simp] theorem kindsOf_cons (x : Lexeme) (xs : List Lexeme) :
    kindsOf (x :: xs) = x.tokenKind?.toList ++ kindsOf xs := by
  rw [kindsOf, List.filterMap_cons]
  cases x.tokenKind? <;> rfl

@[simp] theorem kindsOf_append (xs ys : List Lexeme) :
    kindsOf (xs ++ ys) = kindsOf xs ++ kindsOf ys :=
  List.filterMap_append

/-- The classes of the tokens of a text are those of its lexemes. -/
theorem tokenKinds_eq (sql : String) : tokenKinds sql = kindsOf (lexemes sql.toList) := rfl

/-- The classes of the tokens of lexemes. -/
theorem map_kind_tokensFrom (offset : Nat) (xs : List Lexeme) :
    (tokensFrom offset xs).map Token.kind = kindsOf xs := by
  induction xs generalizing offset with
  | nil => rfl
  | cons x xs ih =>
    rw [tokensFrom_cons, List.map_append, ih, kindsOf_cons, Lexeme.tokenAt?]
    cases x.tokenKind? <;> rfl

/-- The phase after a token inside a statement; none where reading stops in front of the token. -/
def Phase.afterToken? (phase : Phase) (kind : TokenKind) : Option Phase :=
  if kind = .unterminatedComment then none
  else match phase with
    | .between => none
    | .plain => if kind = .semicolon then none else some .plain
    | .trigger openCases => some (.afterTriggerToken openCases kind)

/-- The phase after tokens inside a statement, if reading does not stop at one of them. -/
def Phase.after? (phase : Phase) (kinds : List TokenKind) : Option Phase :=
  kinds.foldlM Phase.afterToken? phase

/-- True if tokens behind `CREATE` make it the start of a trigger. -/
def openTrigger : List TokenKind → Bool
  | .keyword .TRIGGER :: _ => true
  | .keyword .TEMP :: rest | .keyword .TEMPORARY :: rest => rest.head? = some (.keyword .TRIGGER)
  | _ => false

/-- The phase after the first token of a statement. -/
def firstPhase (kind : TokenKind) (kinds : List TokenKind) : Phase :=
  if kind = .keyword .CREATE && openTrigger kinds then .trigger 0 else .plain

/-- Tokens at which no statement begins and at which one can end. -/
def TokenKind.bounds (kind : TokenKind) : Bool :=
  kind = .semicolon || kind = .unterminatedComment

/-- A word is no statement boundary. -/
theorem bounds_ofWord (word : List Char) : (TokenKind.ofWord word).bounds = false := by
  unfold TokenKind.ofWord
  split <;> rfl

/-- The phase after tokens that begin a statement; none if they do not hold together as one. -/
def statementPhase? : List TokenKind → Option Phase
  | [] => none
  | kind :: kinds => if kind.bounds then none else (firstPhase kind kinds).after? kinds

namespace Phase

@[simp] theorem after?_nil (phase : Phase) : phase.after? [] = some phase := rfl

@[simp] theorem after?_cons (phase : Phase) (kind : TokenKind) (kinds : List TokenKind) :
    phase.after? (kind :: kinds) = (phase.afterToken? kind).bind (·.after? kinds) :=
  List.foldlM_cons

/-- A phase goes through two runs of tokens one after the other. -/
theorem after?_append (phase : Phase) (kinds more : List TokenKind) :
    phase.after? (kinds ++ more) = (phase.after? kinds).bind (·.after? more) :=
  List.foldlM_append

/-- A token inside a trigger does not end the statement. -/
theorem afterTriggerToken_ne_between (openCases : Nat) (kind : TokenKind) :
    afterTriggerToken openCases kind ≠ .between := by
  unfold afterTriggerToken
  split
  · simp
  · split <;> simp
  · simp

/-- Tokens inside a statement do not lead between statements. -/
theorem afterToken?_ne_between {phase next : Phase} {kind : TokenKind}
    (h : phase.afterToken? kind = some next) : next ≠ .between := by
  unfold afterToken? at h
  split at h
  · cases h
  · split at h
    · cases h
    · split at h
      · cases h
      · cases h
        simp
    · cases h
      exact afterTriggerToken_ne_between _ _

/-- An open comment stops reading. -/
theorem not_mem_of_after? {phase next : Phase} {kinds : List TokenKind}
    (h : phase.after? kinds = some next) : .unterminatedComment ∉ kinds := by
  induction kinds generalizing phase with
  | nil => simp
  | cons kind kinds ih =>
    rw [after?_cons] at h
    obtain ⟨middle, hkind, hkinds⟩ := Option.bind_eq_some_iff.mp h
    rw [List.mem_cons, not_or]
    refine ⟨?_, ih hkinds⟩
    rintro rfl
    cases hkind

/-- Inside a statement, reading stops at an open comment, and in a plain one at a separator. -/
theorem afterToken?_eq_none {phase : Phase} {kind : TokenKind} (hphase : phase ≠ .between) :
    phase.afterToken? kind = none ↔
      kind = .unterminatedComment ∨ kind = .semicolon ∧ phase = .plain := by
  unfold afterToken?
  cases phase with
  | between => exact absurd rfl hphase
  | plain => by_cases hopen : kind = .unterminatedComment <;> simp [hopen]
  | trigger openCases => simp

/-- In a statement that the next separator ends, only a separator or an open comment stops
reading. -/
theorem plain_after? (kinds : List TokenKind) :
    plain.after? kinds = if kinds.any TokenKind.bounds then none else some .plain := by
  induction kinds with
  | nil => rfl
  | cons kind kinds ih =>
    rw [after?_cons, List.any_cons, afterToken?, TokenKind.bounds]
    by_cases hopen : kind = .unterminatedComment
    · simp [hopen]
    · by_cases hsemi : kind = .semicolon
      · simp [hsemi]
      · simp [hopen, hsemi, ih]

end Phase

/-- Nor do tokens of a whole stretch. -/
theorem Phase.after?_ne_between {phase next : Phase} {kinds : List TokenKind}
    (hphase : phase ≠ .between) (h : phase.after? kinds = some next) : next ≠ .between := by
  induction kinds generalizing phase with
  | nil =>
    cases h
    exact hphase
  | cons kind kinds ih =>
    rw [after?_cons] at h
    obtain ⟨middle, hkind, hkinds⟩ := Option.bind_eq_some_iff.mp h
    exact ih (afterToken?_ne_between hkind) hkinds

/-- A statement that has begun is no longer between statements. -/
theorem firstPhase_ne_between (kind : TokenKind) (kinds : List TokenKind) :
    firstPhase kind kinds ≠ .between := by
  unfold firstPhase
  split <;> simp

/-- The phase behind the tokens of a statement is inside a statement. -/
theorem statementPhase?_ne_between {kinds : List TokenKind} {phase : Phase}
    (h : statementPhase? kinds = some phase) : phase ≠ .between := by
  cases kinds with
  | nil => cases h
  | cons kind kinds =>
    rw [statementPhase?] at h
    split at h
    · cases h
    · exact Phase.after?_ne_between (firstPhase_ne_between kind kinds) h

/-! ## Tokens of no statement -/

/-- The phase after a token of a script, in front of others; none if the token is in no
statement. -/
def Phase.next? (phase : Phase) (kind : TokenKind) (behind : List TokenKind) : Option Phase :=
  if phase = .between then if kind.bounds then none else some (firstPhase kind behind)
  else phase.afterToken? kind

/-- The tokens that are in no statement, of tokens that are read in a phase: those between
statements, and those at which reading stops. -/
def Phase.separators (phase : Phase) : List Token → List Token
  | [] => []
  | token :: rest =>
    match phase.next? token.kind (rest.map Token.kind) with
    | none => token :: Phase.between.separators rest
    | some next => next.separators rest

/-- A semicolon is in no statement unless it is inside a trigger. -/
theorem Phase.next?_semicolon (phase : Phase) (behind : List TokenKind) :
    phase.next? .semicolon behind = none ↔ phase.inTrigger = false := by
  cases phase <;> simp [next?, afterToken?, inTrigger, TokenKind.bounds]

section

variable {phase next : Phase} {front rest : List Token}

/-- Between statements, tokens at which none begins are in none. -/
theorem Phase.separators_between (h : ∀ token ∈ front, token.kind.bounds = true)
    (rest : List Token) :
    Phase.between.separators (front ++ rest) = front ++ Phase.between.separators rest := by
  induction front with
  | nil => rfl
  | cons token front ih =>
    have hnext : Phase.between.next? token.kind ((front ++ rest).map Token.kind) = none := by
      rw [next?, if_pos rfl, if_pos (h token List.mem_cons_self)]
    rw [List.cons_append, separators, hnext, List.cons_append,
      ← ih fun other hmem => h other (List.mem_cons_of_mem _ hmem)]

/-- Inside a statement, the tokens that are read are in it. -/
theorem Phase.separators_inside (hphase : phase ≠ .between)
    (h : phase.after? (front.map Token.kind) = some next) (rest : List Token) :
    phase.separators (front ++ rest) = next.separators rest := by
  induction front generalizing phase with
  | nil =>
    cases h
    rfl
  | cons token front ih =>
    rw [List.map_cons, after?_cons] at h
    obtain ⟨middle, htoken, hfront⟩ := Option.bind_eq_some_iff.mp h
    have hnext : phase.next? token.kind ((front ++ rest).map Token.kind) = some middle := by
      rw [next?, if_neg hphase, htoken]
    rw [List.cons_append, separators, hnext]
    exact ih (afterToken?_ne_between htoken) hfront

/-- A token that stops reading is in no statement, and reading goes on between statements. -/
theorem Phase.separators_stop (hphase : phase ≠ .between)
    (h : ∀ kind ∈ (rest.map Token.kind).head?, phase.afterToken? kind = none) :
    phase.separators rest = Phase.between.separators rest := by
  cases rest with
  | nil => rfl
  | cons token rest =>
    have hstop : phase.afterToken? token.kind = none := h token.kind rfl
    have hbounds : token.kind.bounds = true := by
      rcases (afterToken?_eq_none hphase).mp hstop with hkind | ⟨hkind, _⟩ <;> rw [hkind] <;> rfl
    have hnext : phase.next? token.kind (rest.map Token.kind) = none := by
      rw [next?, if_neg hphase, hstop]
    rw [separators, hnext, ← List.singleton_append, ← List.singleton_append (l := rest),
      separators_between (by simpa using hbounds)]

end

/-! ## Looking ahead -/

/-- The first token is the first of the kinds. -/
theorem firstToken?_map_fst (xs : List Lexeme) :
    (firstToken? xs).map Prod.fst = (kindsOf xs).head? := by
  induction xs with
  | nil => rfl
  | cons x xs ih =>
    rw [firstToken?, kindsOf_cons]
    cases x.tokenKind? with
    | none => exact ih
    | some kind => rfl

/-- The kinds are the first token's and those of the rest. -/
theorem kindsOf_of_firstToken? {xs rest : List Lexeme} {kind : TokenKind}
    (h : firstToken? xs = some (kind, rest)) : kindsOf xs = kind :: kindsOf rest := by
  induction xs with
  | nil => cases h
  | cons x xs ih =>
    rw [firstToken?] at h
    rw [kindsOf_cons]
    cases hx : x.tokenKind? with
    | none =>
      rw [hx] at h
      exact ih h
    | some found =>
      rw [hx] at h
      cases h
      rfl

/-- What makes `CREATE` the start of a trigger is looked for among tokens. -/
theorem opensTrigger_eq (xs : List Lexeme) : opensTrigger xs = openTrigger (kindsOf xs) := by
  unfold opensTrigger
  cases hfirst : firstToken? xs with
  | none =>
    have hnil : kindsOf xs = [] := by
      rw [← List.head?_eq_none_iff, ← firstToken?_map_fst, hfirst]
      rfl
    rw [hnil]
    rfl
  | some found =>
    obtain ⟨kind, rest⟩ := found
    rw [kindsOf_of_firstToken? hfirst]
    simp only [firstToken?_map_fst]
    split <;> simp_all [openTrigger]

/-- The phase behind the first token is told by the kinds that follow. -/
theorem afterFirstToken_eq (kind : TokenKind) (xs : List Lexeme) :
    Phase.afterFirstToken kind xs = firstPhase kind (kindsOf xs) := by
  rw [Phase.afterFirstToken, opensTrigger_eq, firstPhase]

/-- A trigger is opened by `TRIGGER`, or by it behind `TEMP` or `TEMPORARY`. -/
theorem openTrigger_cons (kind : TokenKind) (kinds : List TokenKind) :
    openTrigger (kind :: kinds) =
      (kind = .keyword .TRIGGER || (kind = .keyword .TEMP || kind = .keyword .TEMPORARY) &&
        kinds.head? = some (.keyword .TRIGGER)) := by
  unfold openTrigger
  split <;> simp_all

/-- Where a statement can end, what is behind does not decide whether it is a trigger. -/
theorem openTrigger_append {kinds more : List TokenKind}
    (hmore : ∀ kind ∈ more.head?, kind.bounds = true) :
    openTrigger (kinds ++ more) = openTrigger kinds := by
  have hword : ∀ word, more.head? ≠ some (.keyword word) := fun word h => by
    simpa [TokenKind.bounds] using hmore _ h
  cases kinds with
  | nil =>
    cases more with
    | nil => rfl
    | cons kind more =>
      simp only [List.head?_cons, ne_eq, Option.some.injEq] at hword
      simp [openTrigger, hword]
  | cons kind kinds =>
    rw [List.cons_append, openTrigger_cons, openTrigger_cons]
    cases kinds with
    | nil => simp [hword]
    | cons => rfl

/-- The tokens of a statement are in it, if what is behind does not go on with it. -/
theorem Phase.separators_statement {phase : Phase} {own rest : List Token}
    (hphase : statementPhase? (own.map Token.kind) = some phase)
    (hstop : ∀ kind ∈ (rest.map Token.kind).head?, phase.afterToken? kind = none) :
    Phase.between.separators (own ++ rest) = Phase.between.separators rest := by
  have hin := statementPhase?_ne_between hphase
  cases own with
  | nil => cases hphase
  | cons token own =>
    rw [List.map_cons, statementPhase?] at hphase
    split at hphase
    · cases hphase
    · rename_i hbegins
      have hbounds : ∀ kind ∈ (rest.map Token.kind).head?, kind.bounds = true := by
        intro kind hmem
        rcases (afterToken?_eq_none hin).mp (hstop kind hmem) with rfl | ⟨rfl, _⟩ <;> rfl
      have hnext : Phase.between.next? token.kind ((own ++ rest).map Token.kind) =
          some (firstPhase token.kind (own.map Token.kind)) := by
        rw [next?, if_pos rfl, if_neg hbegins, List.map_append, firstPhase,
          openTrigger_append hbounds, firstPhase]
      rw [List.cons_append, separators, hnext]
      exact (separators_inside (firstPhase_ne_between _ _) hphase rest).trans
        (separators_stop hin hstop)

/-! ## Reading runs the machine -/

/-- The last token read, behind lexemes. -/
def lastKind (last : Option TokenKind) (xs : List Lexeme) : Option TokenKind :=
  (kindsOf xs).foldl (fun _ kind => some kind) last

/-- The last kind is found lexeme by lexeme. -/
theorem lastKind_cons (last : Option TokenKind) (x : Lexeme) (xs : List Lexeme) :
    lastKind last (x :: xs) = lastKind (x.tokenKind?.or last) xs := by
  rw [lastKind, kindsOf_cons, List.foldl_append]
  cases x.tokenKind? <;> rfl

namespace Stretch

/-- Inside a statement, reading takes a token unless it stops at it. -/
theorem read_token {phase next : Phase} {x : Lexeme} {kind : TokenKind}
    (hx : x.tokenKind? = some kind) (h : phase.afterToken? kind = some next) (taken : List Lexeme)
    (last : Option TokenKind) (xs : List Lexeme) :
    read phase taken last (x :: xs) = read next (x :: taken) (some kind) xs := by
  unfold Phase.afterToken? at h
  split at h
  · cases h
  · rename_i hopen
    rw [read]
    split
    · next hnone => rw [hx] at hnone; cases hnone
    · next hcomment => exact absurd (Option.some.inj (hx.symm.trans hcomment)) hopen
    · next found _ hfound =>
      obtain rfl := Option.some.inj (hx.symm.trans hfound)
      cases phase with
      | between => cases h
      | plain =>
        simp only at h ⊢
        split at h
        · cases h
        · rename_i hsemi
          cases h
          rw [if_neg hsemi]
      | trigger openCases =>
        cases h
        rfl

/-- Inside a statement, reading takes every lexeme up to the token that it stops at. -/
theorem read_inside {phase next : Phase} {xs : List Lexeme} (hphase : phase ≠ .between)
    (h : phase.after? (kindsOf xs) = some next) (taken : List Lexeme) (last : Option TokenKind)
    (ys : List Lexeme) :
    read phase taken last (xs ++ ys) = read next (xs.reverse ++ taken) (lastKind last xs) ys := by
  induction xs generalizing phase taken last with
  | nil =>
    cases h
    rfl
  | cons x xs ih =>
    rw [kindsOf_cons] at h
    rw [List.cons_append, List.reverse_cons, List.append_assoc, List.singleton_append, lastKind_cons]
    cases hx : x.tokenKind? with
    | none =>
      rw [hx] at h
      rw [read, hx]
      simp only [if_neg hphase]
      exact ih hphase h (x :: taken) last
    | some kind =>
      simp only [hx, Option.toList_some, List.singleton_append, Phase.after?_cons] at h
      obtain ⟨middle, hkind, hxs⟩ := Option.bind_eq_some_iff.mp h
      rw [read_token hx hkind]
      exact ih (Phase.afterToken?_ne_between hkind) hxs (x :: taken) (some kind)

/-- Between statements, reading skips blanks, comments and separators. -/
theorem read_between {gap : List Lexeme} (hgap : ∀ kind ∈ kindsOf gap, kind = .semicolon)
    (last : Option TokenKind) (ys : List Lexeme) :
    read .between [] last (gap ++ ys) = read .between [] (lastKind last gap) ys := by
  induction gap generalizing last with
  | nil => rfl
  | cons x gap ih =>
    rw [kindsOf_cons] at hgap
    have hrest := ih fun kind hkind => hgap kind (List.mem_append_right _ hkind)
    rw [List.cons_append, lastKind_cons, read]
    cases hx : x.tokenKind? with
    | none => exact hrest last
    | some kind =>
      obtain rfl : kind = .semicolon := hgap kind (by simp [hx])
      exact hrest _

end Stretch

end SqlStream.Sql
