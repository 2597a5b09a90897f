import SqlStream.Proofs.Batch.Server

/-!
# Servers that keep one transaction

A server knows of one transaction at a time: it is open or it is not. `BEGIN` fails if it is open,
`COMMIT` and `ROLLBACK` fail if it is not, and other statements leave it as it is
(`StatementKind.Runs`). Which texts do which is for the server to say (`Dialect`). A batch is a run
of such statements, some of which are left out (`BatchRuns`). No transaction is open behind the
batch of a transaction, whatever was open before it and whatever its statements do
(`BatchRuns.closed_of_transactional`).
-/

namespace SqlStream

open SqlStream.Sql SqlStream.Text SqlStream.Wire

/-! ## Statements -/

/-- What a statement does to the transaction of a server. -/
inductive StatementKind where
  | begins
  | commits
  | rollsBack
  | other
  deriving DecidableEq

/-- How a server reads the texts of statements: what each does to its transaction. Nothing is known
of it but that it takes the texts that the client sends of its own for what they say. -/
structure Dialect where
  kind : String → StatementKind
  begins : kind "BEGIN" = .begins
  commits : kind "COMMIT" = .commits
  rollsBack : kind "ROLLBACK" = .rollsBack

namespace Dialect

/-- What a statement on the wire does. -/
def kindOf (dialect : Dialect) (statement : Statement) : StatementKind :=
  statement.sql.elim .other dialect.kind

variable (dialect : Dialect)

@[simp] theorem kindOf_plainStatement (sql : String) :
    dialect.kindOf (plainStatement sql) = dialect.kind sql :=
  rfl

theorem kindOf_begin : dialect.kindOf (plainStatement "BEGIN") = .begins :=
  dialect.begins

theorem kindOf_commit : dialect.kindOf (plainStatement "COMMIT") = .commits :=
  dialect.commits

theorem kindOf_rollback : dialect.kindOf (plainStatement "ROLLBACK") = .rollsBack :=
  dialect.rollsBack

/-- The kinds of statements of plain text are those of the texts. -/
theorem map_kindOf_plainStatement (texts : List String) :
    (texts.map plainStatement).map dialect.kindOf = texts.map dialect.kind := by
  rw [List.map_map]
  rfl

/-- True of statements of which none begins or ends a transaction. -/
def ControlFree (statements : List Statement) : Prop :=
  ∀ statement ∈ statements, dialect.kindOf statement = .other

variable {dialect}

/-- Statements with the texts of a script are free of control if the script is. -/
theorem controlFree_of_texts {statements : List Statement} {texts : List String}
    (htexts : statements.map Statement.sql = texts.map some)
    (hfree : ∀ text ∈ texts, dialect.kind text = .other) : dialect.ControlFree statements := by
  intro statement hmem
  have htext : statement.sql ∈ texts.map some := htexts ▸ List.mem_map_of_mem hmem
  obtain ⟨text, hin, heq⟩ := List.mem_map.mp htext
  rw [kindOf, ← heq]
  exact hfree text hin

/-- So are plain statements with these texts. -/
theorem controlFree_plain {texts : List String} (hfree : ∀ text ∈ texts, dialect.kind text = .other) :
    dialect.ControlFree (texts.map plainStatement) :=
  controlFree_of_texts (List.map_map ..) hfree

/-- True of texts in which a word stands by itself, in any mixture of cases. -/
def hasWord (word sql : String) : Bool :=
  (lexemes sql.toList).any fun lexeme => sameIgnoringCase word.toList lexeme.text

/-- What a statement does if its first word tells, whatever stands behind it; but `ROLLBACK TO`
stays in its transaction. -/
def kindOfFirstWord (sql : String) : StatementKind :=
  match tokenKinds sql with
  | .keyword .BEGIN :: _ => .begins
  | .keyword .COMMIT :: _ | .keyword .END :: _ => .commits
  | .keyword .ROLLBACK :: _ => if hasWord "TO" sql then .other else .rollsBack
  | _ => .other

/-- The dialect of servers that know a statement by its first word. -/
def byFirstWord : Dialect where
  kind := kindOfFirstWord
  begins := by decide +kernel
  commits := by decide +kernel
  rollsBack := by decide +kernel

end Dialect

/-- What a statement may do: the transaction that is open before it, whether it succeeds, and the
transaction behind it. `BEGIN` and `COMMIT` may also fail for reasons of their own. -/
inductive StatementKind.Runs : StatementKind → Bool → Bool → Bool → Prop where
  | begun : Runs begins false true true
  | notBegun {isOpen : Bool} : Runs begins isOpen false isOpen
  | committed : Runs commits true true false
  | notCommitted {isOpen : Bool} : Runs commits isOpen false isOpen
  | rolledBack : Runs rollsBack true true false
  | notRolledBack : Runs rollsBack false false false
  | other {isOpen succeeds : Bool} : Runs other isOpen succeeds isOpen

namespace StatementKind.Runs

variable {before succeeds after : Bool}

/-- A transaction is open if `BEGIN` succeeded, and else as before. -/
theorem after_begin (h : Runs .begins before succeeds after) :
    after = if succeeds then true else before := by
  cases h <;> rfl

/-- No transaction is open if `COMMIT` succeeded, and else as before. -/
theorem after_commit (h : Runs .commits before succeeds after) :
    after = if succeeds then false else before := by
  cases h <;> rfl

/-- No transaction is open behind `ROLLBACK`, even if it fails. -/
theorem after_rollback (h : Runs .rollsBack before succeeds after) : after = false := by
  cases h <;> rfl

theorem after_other (h : Runs .other before succeeds after) : after = before := by
  cases h
  rfl

end StatementKind.Runs

/-! ## Batches -/

/-- A run of the steps of a batch, behind steps with the fates `past`: whether a transaction is open
before it, the fates of the steps, and whether one is open behind it. -/
inductive BatchRuns (dialect : Dialect) :
    List StepFate → Bool → List BatchStep → List StepFate → Bool → Prop where
  | done {past : List StepFate} {isOpen : Bool} : BatchRuns dialect past isOpen [] [] isOpen
  | ran {past fates : List StepFate} {step : BatchStep} {steps : List BatchStep} {fate : StepFate}
      {before next after : Bool} : step.mayRun past = true → fate ≠ .skipped →
      (dialect.kindOf step.statement).Runs before fate.isSuccess next →
      BatchRuns dialect (past ++ [fate]) next steps fates after →
      BatchRuns dialect past before (step :: steps) (fate :: fates) after
  | skipped {past fates : List StepFate} {step : BatchStep} {steps : List BatchStep}
      {before after : Bool} : step.mayRun past = false →
      BatchRuns dialect (past ++ [.skipped]) before steps fates after →
      BatchRuns dialect past before (step :: steps) (.skipped :: fates) after

namespace BatchRuns

variable {dialect : Dialect} {past fates : List StepFate} {steps rest : List BatchStep}
  {before after : Bool}

/-- A server that keeps one transaction is one that evaluates conditions. -/
theorem serverRunFrom (h : BatchRuns dialect past before steps fates after) :
    ServerRunFrom past steps fates := by
  induction h with
  | done => exact .done
  | ran hmay hfate _ _ ih => exact .ran hmay hfate ih
  | skipped hmay _ ih => exact .skipped hmay ih

/-- A run of steps in two parts. -/
theorem split (h : BatchRuns dialect past before (steps ++ rest) fates after) :
    ∃ first behind next, fates = first ++ behind ∧
      BatchRuns dialect past before steps first next ∧
      BatchRuns dialect (past ++ first) next rest behind after := by
  induction steps generalizing past before fates with
  | nil => exact ⟨[], fates, before, rfl, .done, by simpa using h⟩
  | cons step steps ih =>
    cases h with
    | @ran _ _ _ _ fate _ _ _ hmay hfate hruns hrest =>
      obtain ⟨first, behind, next, rfl, hfirst, hbehind⟩ := ih hrest
      refine ⟨fate :: first, behind, next, rfl, .ran hmay hfate hruns hfirst, ?_⟩
      rwa [List.append_assoc] at hbehind
    | skipped hmay hrest =>
      obtain ⟨first, behind, next, rfl, hfirst, hbehind⟩ := ih hrest
      refine ⟨.skipped :: first, behind, next, rfl, .skipped hmay hfirst, ?_⟩
      rwa [List.append_assoc] at hbehind

/-- What one step does, whether it runs or not. -/
theorem of_singleton {step : BatchStep} (h : BatchRuns dialect past before [step] fates after) :
    (∃ fate, fates = [fate] ∧ (dialect.kindOf step.statement).Runs before fate.isSuccess after) ∨
      (fates = [.skipped] ∧ step.mayRun past = false ∧ after = before) := by
  cases h with
  | ran _ _ hruns hrest =>
    cases hrest
    exact .inl ⟨_, rfl, hruns⟩
  | skipped hmay hrest =>
    cases hrest
    exact .inr ⟨rfl, hmay, rfl⟩

/-- Steps that neither begin nor end a transaction leave it as it is. -/
theorem unchanged_of_other (h : BatchRuns dialect past before steps fates after)
    (hother : ∀ step ∈ steps, dialect.kindOf step.statement = .other) : after = before := by
  induction h with
  | done => rfl
  | ran _ _ hruns _ ih =>
    rw [List.forall_mem_cons] at hother
    rw [hother.1] at hruns
    rw [ih hother.2, hruns.after_other]
  | skipped _ _ ih =>
    rw [List.forall_mem_cons] at hother
    exact ih hother.2

end BatchRuns

namespace BatchRuns

variable {dialect : Dialect} {statements : List Statement} {fates : List StepFate}
  {before after : Bool}

/-- Statements that neither begin nor end a transaction leave it as it is. -/
theorem unchanged_of_plain
    (h : BatchRuns dialect [] before (BatchPlan.steps ⟨statements, false⟩) fates after)
    (hfree : dialect.ControlFree statements) : after = before := by
  refine h.unchanged_of_other fun step hstep => ?_
  rw [BatchPlan.steps_plain, List.mem_map] at hstep
  obtain ⟨statement, hmem, rfl⟩ := hstep
  exact hfree statement hmem

/-- No transaction is open behind the batch of a transaction: it was committed, or `ROLLBACK`
ran. -/
theorem closed_of_transactional
    (h : BatchRuns dialect [] before (BatchPlan.steps ⟨statements, true⟩) fates after) :
    after = false := by
  rw [BatchPlan.steps_eq_append] at h
  obtain ⟨callers, added, reached, rfl, hcallers, hadded⟩ := h.split
  obtain ⟨commit, rollback, left, rfl, hcommit, hrollback⟩ := hadded.split
  have hlength : callers.length = statements.length + 1 := by
    rw [hcallers.serverRunFrom.length_eq]
    simp [chainedSteps]
  rcases hrollback.of_singleton with ⟨fate, rfl, hruns⟩ | ⟨rfl, hskipped, rfl⟩
  · rw [dialect.kindOf_rollback] at hruns
    exact hruns.after_rollback
  · -- `ROLLBACK` is left out only behind a `COMMIT` that succeeded
    have hsucceeded : (callers ++ commit)[statements.length + 1]?.any StepFate.isSuccess = true := by
      simpa [BatchStep.mayRun, Condition.holds] using hskipped
    rw [← hlength, List.getElem?_append_right (Nat.le_refl _), Nat.sub_self] at hsucceeded
    rcases hcommit.of_singleton with ⟨fate, rfl, hruns⟩ | ⟨rfl, _, _⟩
    · rw [dialect.kindOf_commit] at hruns
      rw [hruns.after_commit, if_pos (by simpa using hsucceeded)]
    · cases hsucceeded

end BatchRuns

end SqlStream
