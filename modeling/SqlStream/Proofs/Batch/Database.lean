import Mathlib.Data.List.Induction
import SqlStream.Proofs.Batch.TransactionBit
import SqlStream.Proofs.Stream.Calls

/-!
# What statements leave behind

A batch in which nothing fails does what its statements do one after another
(`BatchPerforms.runAll_of_plain`, `BatchPerforms.runAll_of_transactional`), whatever the server
makes of statements (`Engine`). A server that keeps one transaction also keeps what statements have
done: their effects are committed at once, or with the transaction that is open, or undone with it
(`Dialect.engine`). On it, statements of which none fails are all committed if they undo nothing and
leave nothing open, and not else (`Dialect.all_committed_iff`, `KeepsEffects`).
-/

namespace SqlStream

open SqlStream.Sql SqlStream.Wire

/-! ## Statements one after another -/

/-- What runs statements one at a time: the state behind a statement, unless the statement fails. -/
abbrev Engine (ς : Type) := ς → Statement → Option ς

namespace Engine

variable {ς : Type} {engine : Engine ς} {state after : ς} {statement : Statement}
  {statements : List Statement}

/-- Runs statements one after another, up to the first that fails. -/
def runAll (engine : Engine ς) (statements : List Statement) (state : ς) : Option ς :=
  statements.foldlM engine state

/-- A run carries its first statement out and goes on from there. -/
theorem runAll_cons : engine.runAll (statement :: statements) state = some after ↔
    ∃ next, engine state statement = some next ∧ engine.runAll statements next = some after := by
  rw [runAll, List.foldlM_cons, Option.bind_eq_bind, Option.bind_eq_some_iff]
  rfl

/-- A run with one more statement carries it out behind the others. -/
theorem runAll_concat : engine.runAll (statements ++ [statement]) state = some after ↔
    ∃ next, engine.runAll statements state = some next ∧ engine next statement = some after := by
  simp [runAll, Option.bind_eq_some_iff]

/-- A run in two parts carries one out behind the other. -/
theorem runAll_append {first rest : List Statement} :
    engine.runAll (first ++ rest) state = some after ↔
      ∃ next, engine.runAll first state = some next ∧ engine.runAll rest next = some after := by
  rw [runAll, List.foldlM_append, Option.bind_eq_bind, Option.bind_eq_some_iff]
  rfl

end Engine

/-! ## Batches -/

/-- A run of the steps of a batch in which nothing fails, behind steps with the fates `past`: the
state of the server before it, the fates of the steps, and the state behind it. -/
inductive BatchPerforms {ς : Type} (engine : Engine ς) :
    List StepFate → ς → List BatchStep → List StepFate → ς → Prop where
  | done {past : List StepFate} {state : ς} : BatchPerforms engine past state [] [] state
  | ran {past fates : List StepFate} {step : BatchStep} {steps : List BatchStep}
      {result : StatementResult} {before next after : ς} : step.mayRun past = true →
      engine before step.statement = some next →
      BatchPerforms engine (past ++ [.succeeded result]) next steps fates after →
      BatchPerforms engine past before (step :: steps) (.succeeded result :: fates) after
  | skipped {past fates : List StepFate} {step : BatchStep} {steps : List BatchStep}
      {before after : ς} : step.mayRun past = false →
      BatchPerforms engine (past ++ [.skipped]) before steps fates after →
      BatchPerforms engine past before (step :: steps) (.skipped :: fates) after

/-- Statements between `BEGIN` and `COMMIT`. -/
def framed (statements : List Statement) : List Statement :=
  plainStatement "BEGIN" :: (statements ++ [plainStatement "COMMIT"])

namespace BatchPerforms

open Engine

variable {ς : Type} {engine : Engine ς} {past fates : List StepFate} {steps : List BatchStep}
  {statements : List Statement} {before after : ς}

/-- A server on which nothing fails is one that evaluates conditions. -/
theorem serverRunFrom (h : BatchPerforms engine past before steps fates after) :
    ServerRunFrom past steps fates := by
  induction h with
  | done => exact .done
  | ran hmay _ _ ih => exact .ran hmay nofun ih
  | skipped hmay _ ih => exact .skipped hmay ih

/-- A step succeeds or is left out. -/
theorem fate_eq (h : BatchPerforms engine past before steps fates after) {fate : StepFate}
    (hmem : fate ∈ fates) : (∃ result, fate = .succeeded result) ∨ fate = .skipped := by
  induction h with
  | done => cases hmem
  | ran _ _ _ ih =>
    rcases List.mem_cons.mp hmem with rfl | hmem
    · exact .inl ⟨_, rfl⟩
    · exact ih hmem
  | skipped _ _ ih =>
    rcases List.mem_cons.mp hmem with rfl | hmem
    · exact .inr rfl
    · exact ih hmem

/-- Steps without conditions are statements one after another. -/
theorem runAll_of_plain
    (h : BatchPerforms engine past before (BatchPlan.steps ⟨statements, false⟩) fates after) :
    engine.runAll statements before = some after := by
  rw [BatchPlan.steps_plain] at h
  induction statements generalizing past fates before with
  | nil =>
    cases h
    rfl
  | cons statement statements ih =>
    cases h with
    | ran _ hrun hrest => exact runAll_cons.mpr ⟨_, hrun, ih hrest⟩
    | skipped hmay => cases hmay

/-- Statements one after another that do not fail may be run as steps without conditions. -/
theorem of_runAll (h : engine.runAll statements before = some after) :
    BatchPerforms engine past before (BatchPlan.steps ⟨statements, false⟩)
      (.replicate statements.length (.succeeded {})) after := by
  rw [BatchPlan.steps_plain]
  induction statements generalizing past before with
  | nil =>
    cases h
    exact .done
  | cons statement statements ih =>
    obtain ⟨next, hrun, hrest⟩ := runAll_cons.mp h
    exact .ran rfl hrun (ih hrest)

/-- Steps that each run if the one before succeeded are statements one after another, and what
follows them is behind one that succeeded. -/
theorem runAll_of_chained {index : Nat} {rest : List BatchStep}
    (h : BatchPerforms engine past before
      (((statements.zipIdx index).map fun (statement, previous) =>
        ⟨statement, some (.ok previous)⟩) ++ rest) fates after)
    (hlength : past.length = index + 1) (hlast : past[index]?.any StepFate.isSuccess = true) :
    ∃ fates' past' next, engine.runAll statements before = some next ∧
      BatchPerforms engine past' next rest fates' after ∧
      past'[index + statements.length]?.any StepFate.isSuccess = true := by
  induction statements generalizing index past fates before with
  | nil => exact ⟨fates, past, before, rfl, h, hlast⟩
  | cons statement statements ih =>
    rw [List.zipIdx_cons, List.map_cons, List.cons_append] at h
    cases h with
    | @ran _ _ _ _ result _ next _ _ hrun hrest =>
      obtain ⟨fates', past', reached, hall, hbehind, hsucceeded⟩ :=
        ih hrest (by simp [hlength]) (by simp [← hlength, StepFate.isSuccess])
      refine ⟨fates', past', reached, runAll_cons.mpr ⟨next, hrun, hall⟩, hbehind, ?_⟩
      rwa [List.length_cons, Nat.add_comm statements.length, ← Nat.add_assoc]
    | skipped hmay =>
      -- the step before this one succeeded
      rw [BatchStep.mayRun, Option.all_some, Condition.holds, hlast] at hmay
      cases hmay

/-- A transaction in which nothing fails is its statements between `BEGIN` and `COMMIT`. -/
theorem runAll_of_transactional
    (h : BatchPerforms engine [] before (BatchPlan.steps ⟨statements, true⟩) fates after) :
    engine.runAll (framed statements) before = some after := by
  have hsteps : BatchPlan.steps ⟨statements, true⟩ =
      ⟨plainStatement "BEGIN", none⟩ ::
        (chainedSteps (statements ++ [plainStatement "COMMIT"]) ++
          [⟨plainStatement "ROLLBACK", some (.not (.ok (statements.length + 1)))⟩]) := rfl
  rw [hsteps] at h
  cases h with
  | skipped hmay => cases hmay
  | ran _ hbegin hrest =>
    obtain ⟨_, _, reached, hall, hrollback, hcommitted⟩ := hrest.runAll_of_chained rfl rfl
    refine runAll_cons.mpr ⟨_, hbegin, hall.trans ?_⟩
    cases hrollback with
    | ran hmay =>
      -- `ROLLBACK` does not run behind a `COMMIT` that succeeded
      rw [List.length_append, Nat.zero_add] at hcommitted
      rw [BatchStep.mayRun, Option.all_some, Condition.holds, Condition.holds,
        Bool.not_eq_true'] at hmay
      cases hcommitted.symm.trans hmay
    | skipped _ hrest =>
      cases hrest
      rfl

end BatchPerforms

/-! ## Servers that keep what was done -/

/-- What a server keeps of the statements that ran: those whose effects are committed, in their
order, and those of the transaction that is open, if one is. -/
structure Database where
  committed : List Statement
  pending : Option (List Statement)
  deriving DecidableEq

namespace Database

/-- The statements whose effects are there, committed or not. -/
def effects (database : Database) : List Statement :=
  database.committed ++ database.pending.getD []

/-- Keeps the effect of a statement: within the transaction that is open, and committed if none
is. -/
def add (database : Database) (statement : Statement) : Database :=
  match database.pending with
  | some pending => { database with pending := some (pending ++ [statement]) }
  | none => { database with committed := database.committed ++ [statement] }

variable {database : Database} {statement : Statement}

/-- A statement that is carried out adds its effect to the others. -/
theorem effects_add : (database.add statement).effects = database.effects ++ [statement] := by
  unfold add effects
  cases database.pending <;> simp

/-- Carrying a statement out neither begins nor ends a transaction. -/
theorem isSome_pending_add :
    (database.add statement).pending.isSome = database.pending.isSome := by
  unfold add
  cases database.pending <;> rfl

/-- A transaction in which something was done is not empty. -/
theorem pending_add_ne_nil : (database.add statement).pending ≠ some [] := by
  unfold add
  cases database.pending <;> simp

end Database

namespace Dialect

open Database

/-- A server that keeps one transaction. `BEGIN` fails within a transaction, `COMMIT` and `ROLLBACK`
fail outside of one. -/
def engine (dialect : Dialect) : Engine Database := fun database statement =>
  match dialect.kindOf statement, database.pending with
  | .begins, none => some { database with pending := some [] }
  | .begins, some _ => none
  | .commits, some pending => some ⟨database.committed ++ pending, none⟩
  | .commits, none => none
  | .rollsBack, some _ => some { database with pending := none }
  | .rollsBack, none => none
  | .other, _ => some (database.add statement)

variable {dialect : Dialect} {database next : Database} {statement : Statement}

/-- `BEGIN` is carried out outside a transaction only. -/
theorem engine_begins (hkind : dialect.kindOf statement = .begins) :
    dialect.engine database statement = some next ↔
      database.pending = none ∧ next = ⟨database.committed, some []⟩ := by
  unfold engine
  rw [hkind]
  cases database.pending <;> simp [eq_comm]

/-- `COMMIT` is carried out in a transaction only and keeps what it did. -/
theorem engine_commits (hkind : dialect.kindOf statement = .commits) :
    dialect.engine database statement = some next ↔
      ∃ pending, database.pending = some pending ∧
        next = ⟨database.committed ++ pending, none⟩ := by
  unfold engine
  rw [hkind]
  cases database.pending <;> simp [eq_comm]

/-- `ROLLBACK` is carried out in a transaction only and undoes what it did. -/
theorem engine_rollsBack (hkind : dialect.kindOf statement = .rollsBack) :
    dialect.engine database statement = some next ↔
      ∃ pending, database.pending = some pending ∧ next = ⟨database.committed, none⟩ := by
  unfold engine
  rw [hkind]
  cases database.pending <;> simp [eq_comm]

/-- Every other statement is carried out. -/
theorem engine_other (hkind : dialect.kindOf statement = .other) :
    dialect.engine database statement = some (database.add statement) := by
  unfold engine
  rw [hkind]

/-- The transaction of the server is the one bit that its statements turn on and off. -/
theorem runs_of_engine (h : dialect.engine database statement = some next) :
    (dialect.kindOf statement).Runs database.pending.isSome true next.pending.isSome := by
  cases hkind : dialect.kindOf statement with
  | begins =>
    obtain ⟨hnone, rfl⟩ := (engine_begins hkind).mp h
    rw [hnone]
    exact .begun
  | commits =>
    obtain ⟨pending, hsome, rfl⟩ := (engine_commits hkind).mp h
    rw [hsome]
    exact .committed
  | rollsBack =>
    obtain ⟨pending, hsome, rfl⟩ := (engine_rollsBack hkind).mp h
    rw [hsome]
    exact .rolledBack
  | other =>
    cases (engine_other hkind).symm.trans h
    rw [isSome_pending_add]
    exact .other

/-- A server that keeps what statements did keeps one transaction. -/
theorem batchRuns {past fates : List StepFate} {steps : List BatchStep} {before after : Database}
    (h : BatchPerforms dialect.engine past before steps fates after) :
    BatchRuns dialect past before.pending.isSome steps fates after.pending.isSome := by
  induction h with
  | done => exact .done
  | ran hmay hrun _ ih => exact .ran hmay nofun (runs_of_engine hrun) ih
  | skipped hmay _ ih => exact .skipped hmay ih

/-- A transaction in which nothing was done is open just behind `BEGIN`. -/
theorem pending_eq_nil_iff (h : dialect.engine database statement = some next) :
    next.pending = some [] ↔ dialect.kindOf statement = .begins := by
  cases hkind : dialect.kindOf statement with
  | begins =>
    obtain ⟨_, rfl⟩ := (engine_begins hkind).mp h
    simp
  | commits =>
    obtain ⟨_, _, rfl⟩ := (engine_commits hkind).mp h
    simp
  | rollsBack =>
    obtain ⟨_, _, rfl⟩ := (engine_rollsBack hkind).mp h
    simp
  | other =>
    cases (engine_other hkind).symm.trans h
    simp [pending_add_ne_nil]

/-- Only `ROLLBACK` undoes anything; a statement that is no control has its effect. -/
theorem effects_engine (h : dialect.engine database statement = some next)
    (hkind : dialect.kindOf statement ≠ .rollsBack) :
    next.effects = database.effects ++ [statement].filter (dialect.kindOf · = .other) := by
  cases hkind' : dialect.kindOf statement with
  | begins =>
    obtain ⟨hnone, rfl⟩ := (engine_begins hkind').mp h
    simp [effects, hnone, hkind']
  | commits =>
    obtain ⟨pending, hsome, rfl⟩ := (engine_commits hkind').mp h
    simp [effects, hsome, hkind']
  | rollsBack => exact absurd hkind' hkind
  | other =>
    cases (engine_other hkind').symm.trans h
    simp [effects_add, hkind']

/-- `ROLLBACK` undoes the transaction that is open. -/
theorem effects_rollback (h : dialect.engine database statement = some next)
    (hkind : dialect.kindOf statement = .rollsBack) :
    ∃ pending, database.pending = some pending ∧ database.effects = next.effects ++ pending := by
  obtain ⟨pending, hsome, rfl⟩ := (engine_rollsBack hkind).mp h
  exact ⟨pending, hsome, by simp [effects, hsome]⟩

end Dialect

/-! ## Statements that are all committed -/

/-- True of statements that undo nothing and leave no transaction open, if none of them fails. -/
structure KeepsEffects (kinds : List StatementKind) : Prop where
  /-- Each `ROLLBACK` stands directly behind a `BEGIN`. -/
  undoes_nothing :
    AtEach (fun before kind => kind = .rollsBack → before.getLast? = some .begins) kinds
  /-- The last statement of control, if there is any, is no `BEGIN`. -/
  leaves_none_open : (kinds.filter (· ≠ .other)).getLast? ≠ some .begins

/-- Control without `ROLLBACK` that does not end in `BEGIN` keeps the effects. -/
theorem KeepsEffects.of_control {kinds control : List StatementKind}
    (hcontrol : kinds.filter (· ≠ .other) = control) (hnone : .rollsBack ∉ control)
    (hclosed : control.getLast? ≠ some .begins) : KeepsEffects kinds := by
  subst hcontrol
  refine ⟨?_, hclosed⟩
  rintro before kind behind rfl rfl
  exact absurd (List.mem_filter.mpr ⟨List.mem_append_cons_self, by decide⟩) hnone

namespace Dialect

section

variable {dialect : Dialect} {statements : List Statement} (h : dialect.ControlFree statements)

include h

/-- Of statements without control all are others. -/
theorem ControlFree.filter_other : statements.filter (dialect.kindOf · = .other) = statements :=
  List.filter_eq_self.mpr fun statement hmem => decide_eq_true (h statement hmem)

/-- Statements without control hold none. -/
theorem ControlFree.filter_control : (statements.map dialect.kindOf).filter (· ≠ .other) = [] := by
  rw [List.filter_map, List.map_eq_nil_iff, List.filter_eq_nil_iff]
  exact fun statement hmem => by simp [h statement hmem]

/-- Statements without control keep their effects. -/
theorem ControlFree.keepsEffects : KeepsEffects (statements.map dialect.kindOf) :=
  .of_control h.filter_control (by simp) (by simp)

/-- A transaction around statements that are no control undoes nothing and is closed. -/
theorem ControlFree.keepsEffects_framed : KeepsEffects ((framed statements).map dialect.kindOf) := by
  have hcontrol : ((framed statements).map dialect.kindOf).filter (· ≠ .other) =
      [.begins, .commits] := by
    rw [framed, List.map_cons, List.map_append, List.filter_cons, List.filter_append,
      h.filter_control]
    simp [dialect.kindOf_begin, dialect.kindOf_commit]
  exact .of_control hcontrol (by simp) (by simp)

end

open Engine Database

variable {dialect : Dialect} {committed : List Statement} {statements : List Statement}
  {database : Database}

/-- A transaction is open if the last statement of control began it. -/
theorem isSome_pending_iff
    (h : dialect.engine.runAll statements ⟨committed, none⟩ = some database) :
    database.pending.isSome = true ↔
      ((statements.map dialect.kindOf).filter (· ≠ .other)).getLast? = some .begins := by
  induction statements using List.reverseRecOn generalizing database with
  | nil =>
    cases h
    simp
  | append_singleton statements statement ih =>
    obtain ⟨before, hbefore, hrun⟩ := runAll_concat.mp h
    have hruns := runs_of_engine hrun
    rw [List.map_append, List.filter_append]
    cases hkind : dialect.kindOf statement with
    | begins =>
      rw [hkind] at hruns
      simp [hruns.after_begin, hkind]
    | commits =>
      rw [hkind] at hruns
      simp [hruns.after_commit, hkind]
    | rollsBack =>
      rw [hkind] at hruns
      simp [hruns.after_rollback, hkind]
    | other =>
      rw [hkind] at hruns
      simp [hruns.after_other, ih hbefore, hkind]

/-- A transaction is open and nothing was done in it if the last statement began it. -/
theorem pending_eq_nil_iff_getLast
    (h : dialect.engine.runAll statements ⟨committed, none⟩ = some database) :
    database.pending = some [] ↔ (statements.map dialect.kindOf).getLast? = some .begins := by
  rcases List.eq_nil_or_concat' statements with rfl | ⟨statements, statement, rfl⟩
  · cases h
    simp
  · obtain ⟨before, _, hrun⟩ := runAll_concat.mp h
    rw [pending_eq_nil_iff hrun]
    simp

/-- No effect is there but of the statements that are no control, in their order. -/
theorem effects_sublist (h : dialect.engine.runAll statements ⟨committed, none⟩ = some database) :
    database.effects.Sublist (committed ++ statements.filter (dialect.kindOf · = .other)) := by
  induction statements using List.reverseRecOn generalizing database with
  | nil =>
    cases h
    simp [effects]
  | append_singleton statements statement ih =>
    obtain ⟨before, hbefore, hrun⟩ := runAll_concat.mp h
    rw [List.filter_append, ← List.append_assoc]
    by_cases hkind : dialect.kindOf statement = .rollsBack
    · obtain ⟨pending, _, heffects⟩ := effects_rollback hrun hkind
      have hkept : database.effects.Sublist before.effects :=
        heffects ▸ List.sublist_append_left _ _
      exact (hkept.trans (ih hbefore)).trans (List.sublist_append_left _ _)
    · rw [effects_engine hrun hkind]
      exact (ih hbefore).append (List.Sublist.refl _)

/-- All effects are there if each `ROLLBACK` stands directly behind a `BEGIN`. -/
theorem effects_eq_iff (h : dialect.engine.runAll statements ⟨committed, none⟩ = some database) :
    database.effects = committed ++ statements.filter (dialect.kindOf · = .other) ↔
      AtEach (fun before kind => kind = .rollsBack → before.getLast? = some .begins)
        (statements.map dialect.kindOf) := by
  induction statements using List.reverseRecOn generalizing database with
  | nil =>
    cases h
    simp [effects, atEach_nil]
  | append_singleton statements statement ih =>
    obtain ⟨before, hbefore, hrun⟩ := runAll_concat.mp h
    have hbehind := pending_eq_nil_iff_getLast hbefore
    rw [List.filter_append, List.map_append, List.map_singleton, ← List.append_assoc,
      AtEach.concat_iff, ← ih hbefore]
    by_cases hkind : dialect.kindOf statement = .rollsBack
    · obtain ⟨pending, hsome, heffects⟩ := effects_rollback hrun hkind
      have hlength := (effects_sublist hbefore).length_le
      have hnoEffect : [statement].filter (dialect.kindOf · = .other) = [] := by simp [hkind]
      rw [hnoEffect, List.append_nil, ← hbehind, hsome, Option.some.injEq]
      simp only [hkind, true_imp_iff]
      constructor
      · intro hall
        have hnone : pending = [] := by
          rw [heffects, hall, List.length_append] at hlength
          exact List.length_eq_zero_iff.mp (by omega)
        rw [heffects, hall, hnone, List.append_nil]
        exact ⟨rfl, rfl⟩
      · rintro ⟨hall, hnone⟩
        rw [← hall, heffects, hnone, List.append_nil]
    · rw [effects_engine hrun hkind, List.append_left_inj]
      simp [hkind]

/-- Statements of which none fails are all committed if they undo nothing and leave no transaction
open, and not else. -/
theorem all_committed_iff (h : dialect.engine.runAll statements ⟨committed, none⟩ = some database) :
    database = ⟨committed ++ statements.filter (dialect.kindOf · = .other), none⟩ ↔
      KeepsEffects (statements.map dialect.kindOf) := by
  have hopen := isSome_pending_iff h
  have heffects := effects_eq_iff h
  constructor
  · rintro rfl
    exact ⟨heffects.mp (List.append_nil _), mt hopen.mpr Bool.false_ne_true⟩
  · rintro ⟨hundone, hclosed⟩
    have hnone : database.pending = none := by simpa using mt hopen.mp hclosed
    have hall := heffects.mpr hundone
    rw [effects, hnone, Option.getD_none, List.append_nil] at hall
    rw [← hall, ← hnone]

/-- Statements that are no control are all committed by a transaction around them. -/
theorem all_committed_of_framed (hfree : dialect.ControlFree statements)
    (h : dialect.engine.runAll (framed statements) ⟨committed, none⟩ = some database) :
    database = ⟨committed ++ statements, none⟩ := by
  have hothers : (framed statements).filter (dialect.kindOf · = .other) = statements := by
    simp [framed, dialect.kindOf_begin, dialect.kindOf_commit, hfree.filter_other]
  rw [← hothers]
  exact (all_committed_iff h).mpr hfree.keepsEffects_framed

end Dialect

end SqlStream
