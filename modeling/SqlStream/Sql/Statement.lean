import SqlStream.Sql.Lexeme

/-!
# Statements of a script

A script is a sequence of statements separated by semicolons. A statement runs from its first token
to its last; blanks and comments around it belong to no statement, and stretches without a token are
skipped. The body of a trigger holds semicolons of its own, so from `CREATE TRIGGER` on a semicolon
separates nothing until the `END` that matches no `CASE`.

A `Splitter` hands out the statements one at a time and reports how the text read so far ended. It
is a value: a saved copy goes on from where it was saved.
-/

namespace SqlStream.Sql

/-! ## Inside and between statements -/

/-- Where reading stands in a script. -/
inductive Phase where
  /-- No token of the next statement has been read. -/
  | between
  /-- In a statement that ends at the next semicolon. -/
  | plain
  /-- In a trigger, with `openCases` expressions `CASE … END` open. -/
  | trigger (openCases : Nat)
  deriving DecidableEq, Repr

/-- True in a trigger. -/
def Phase.inTrigger : Phase → Bool
  | trigger _ => true
  | _ => false

/-- The phase after a token in a trigger with `openCases` expressions open. -/
def Phase.afterTriggerToken (openCases : Nat) : TokenKind → Phase
  | .keyword .CASE => .trigger (openCases + 1)
  | .keyword .END => if 0 < openCases then .trigger (openCases - 1) else .plain
  | _ => .trigger openCases

/-- The first token among lexemes and what follows it. -/
def firstToken? : List Lexeme → Option (TokenKind × List Lexeme)
  | [] => none
  | x :: xs =>
    match x.tokenKind? with
    | some kind => some (kind, xs)
    | none => firstToken? xs

/-- True if what follows `CREATE` makes it the start of a trigger. -/
def opensTrigger (xs : List Lexeme) : Bool :=
  match firstToken? xs with
  | some (.keyword .TRIGGER, _) => true
  | some (.keyword .TEMP, rest) | some (.keyword .TEMPORARY, rest) =>
    (firstToken? rest).map Prod.fst = some (.keyword .TRIGGER)
  | _ => false

/-- The phase after the first token of a statement, which `rest` follows. -/
def Phase.afterFirstToken (kind : TokenKind) (rest : List Lexeme) : Phase :=
  if kind = .keyword .CREATE && opensTrigger rest then .trigger 0 else .plain

/-! ## One statement -/

/-- What ended a statement. -/
inductive Ending where
  | separator
  | endOfText
  | openComment
  deriving DecidableEq, Repr

/-- The lexemes up to the end of one statement. -/
structure Stretch where
  /-- The lexemes from the first token on, last first. -/
  taken : List Lexeme
  phase : Phase
  lastToken : Option TokenKind
  rest : List Lexeme
  ending : Ending

/-- Reads to the end of a statement. `last` is the last token read before. -/
def Stretch.read (phase : Phase) (taken : List Lexeme) (last : Option TokenKind) :
    List Lexeme → Stretch
  | [] => ⟨taken, phase, last, [], .endOfText⟩
  | x :: xs =>
    match x.tokenKind? with
    | none => read phase (if phase = .between then taken else x :: taken) last xs
    | some .unterminatedComment => ⟨taken, phase, last, [], .openComment⟩
    | some kind =>
      match phase with
      | .between =>
        if kind = .semicolon then read .between taken (some kind) xs
        else read (.afterFirstToken kind xs) (x :: taken) (some kind) xs
      | .plain =>
        if kind = .semicolon then ⟨taken, .plain, some kind, xs, .separator⟩
        else read .plain (x :: taken) (some kind) xs
      | .trigger openCases =>
        read (.afterTriggerToken openCases kind) (x :: taken) (some kind) xs

/-- The lexemes of the statement: those read, without the blanks and comments behind its last
token. -/
def Stretch.lexemes (stretch : Stretch) : List Lexeme :=
  (stretch.taken.dropWhile fun x => x.tokenKind?.isNone).reverse

/-- The text of a statement, if there is one. -/
def Stretch.statement? (stretch : Stretch) : Option String :=
  if stretch.phase = .between then none
  else some (String.ofList (stretch.lexemes.flatMap Lexeme.text))

theorem Stretch.length_rest_read (phase : Phase) (taken : List Lexeme) (last : Option TokenKind)
    (xs : List Lexeme) (h : (read phase taken last xs).ending = .separator) :
    (read phase taken last xs).rest.length < xs.length := by
  induction xs generalizing phase taken last with
  | nil => simp [read] at h
  | cons x xs ih =>
    rw [read] at h ⊢
    split
    · rename_i hx
      simp only [hx] at h
      exact Nat.lt_succ_of_lt (ih _ _ _ h)
    · rename_i hx
      simp [hx] at h
    · rename_i kind hkind hx
      simp only [hx] at h
      cases phase with
      | between =>
        simp only at h ⊢
        split
        · rename_i hsemi
          rw [if_pos hsemi] at h
          exact Nat.lt_succ_of_lt (ih _ _ _ h)
        · rename_i hsemi
          rw [if_neg hsemi] at h
          exact Nat.lt_succ_of_lt (ih _ _ _ h)
      | plain =>
        simp only at h ⊢
        split
        · simp
        · rename_i hsemi
          rw [if_neg hsemi] at h
          exact Nat.lt_succ_of_lt (ih _ _ _ h)
      | trigger openCases => exact Nat.lt_succ_of_lt (ih _ _ _ h)

/-! ## The splitter -/

/-- How the text read so far ended. -/
structure SplitInfo where
  /-- The last token read; `none` if there was none. -/
  lastToken : Option TokenKind := none
  /-- The text ended in a trigger. -/
  incompleteTrigger : Bool := false
  /-- The text ended in a block comment. -/
  incompleteComment : Bool := false
  deriving DecidableEq, Repr

/-- True if more text may complete what was read. -/
def SplitInfo.needsMoreInput (info : SplitInfo) : Bool :=
  info.incompleteTrigger || info.incompleteComment

/-- Hands out the statements of a script one at a time. -/
structure Splitter where
  source : List Lexeme
  rest : List Lexeme
  info : SplitInfo
  /-- The end of the text has been met. -/
  done : Bool
  deriving DecidableEq, Repr

namespace Splitter

/-- A splitter at the start of a script. -/
def ofScript (sql : String) : Splitter :=
  let xs := lexemes sql.toList
  ⟨xs, xs, {}, false⟩

/-- The same splitter at the start of its script. -/
def rewind (splitter : Splitter) : Splitter :=
  ⟨splitter.source, splitter.source, {}, false⟩

/-- The next statement, if there is one, and the splitter behind it. -/
def next (splitter : Splitter) : Option String × Splitter :=
  if splitter.done then (none, splitter)
  else
    let stretch := Stretch.read .between [] splitter.info.lastToken splitter.rest
    (stretch.statement?,
      { source := splitter.source
        rest := stretch.rest
        info := ⟨stretch.lastToken, stretch.phase.inTrigger, stretch.ending = .openComment⟩
        done := stretch.ending ≠ .separator })

/-- How much of the script is left to a splitter. -/
def remaining (splitter : Splitter) : Nat :=
  if splitter.done then 0 else splitter.rest.length + 1

theorem remaining_next (splitter : Splitter) (h : splitter.done = false) :
    splitter.next.2.remaining < splitter.remaining := by
  simp only [next, h, remaining, Bool.false_eq_true, if_false, decide_not, Bool.not_eq_true']
  split
  · omega
  · rename_i hne
    have := Stretch.length_rest_read .between [] splitter.info.lastToken splitter.rest
      (by simpa using hne)
    omega

/-- All statements that are left and the splitter behind them. -/
def drain (splitter : Splitter) : List String × Splitter :=
  go splitter []
where
  go (splitter : Splitter) (found : List String) : List String × Splitter :=
    if splitter.done then (found.reverse, splitter)
    else go splitter.next.2 (splitter.next.1.toList ++ found)
  termination_by splitter.remaining
  decreasing_by exact remaining_next splitter (by simp_all)

end Splitter

/-- The statements of a script and how its text ended. -/
def splitStatements (sql : String) : List String × SplitInfo :=
  let drained := (Splitter.ofScript sql).drain
  (drained.1, drained.2.info)

/-! ## What separates and what does not -/

example : (splitStatements "a; 'b;c'; -- d;\n").1 = ["a", "'b;c'"] := by decide +kernel

example : (splitStatements "CREATE TRIGGER t BEGIN a; CASE b END; END; c").1 =
    ["CREATE TRIGGER t BEGIN a; CASE b END; END", "c"] := by decide +kernel

end SqlStream.Sql
