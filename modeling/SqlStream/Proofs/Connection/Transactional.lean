import SqlStream.Proofs.Batch.Server
import SqlStream.Proofs.Connection.Calls
import SqlStream.Proofs.Exchange

/-!
# A transactional batch is all or nothing

A server that evaluates conditions carries out `COMMIT` only if every statement of a transactional
batch succeeded (`ServerRun.ran_iff`). The calls that send such a batch tell their caller so: the
outcome of a batch is that of its first failing statement, and a script gives a result exactly if it
was committed (`transactional_batch_all_or_nothing`).
-/

namespace SqlStream

open SqlStream.Sql SqlStream.Wire

/-! ## Reports of a run -/

/-- What a reply has at the index of a step with a given fate. -/
def StepFate.ReportedAs : StepFate → Option ServerError → Option StatementResult → Prop
  | succeeded result, error, given => error = none ∧ given = some result
  | failed reported, error, _ => error = some reported
  | skipped, error, given => error = none ∧ given = none

/-- True of a reply that reports the fate of every step at the index of the step. -/
def Wire.BatchResult.Reports (reply : BatchResult) (fates : List StepFate) : Prop :=
  ∀ (index : Nat) (fate : StepFate), fates[index]? = some fate →
    fate.ReportedAs (reply.errorAt index) (reply.resultAt index)

/-- The fate that is read from a report is the fate of the step. -/
theorem Wire.BatchResult.Reports.fateAt_eq {reply : BatchResult} {fates : List StepFate}
    (h : reply.Reports fates) {index : Nat} {fate : StepFate}
    (hfate : fates[index]? = some fate) : reply.fateAt index = fate := by
  have hreported := h index fate hfate
  cases fate with
  | succeeded result => exact BatchResult.fateAt_eq_succeeded.mpr hreported
  | failed error => exact BatchResult.fateAt_eq_failed.mpr hreported
  | skipped => exact BatchResult.fateAt_eq_skipped.mpr hreported

/-- A step has an error in the report if it failed. -/
theorem Wire.BatchResult.Reports.errorAt_eq_none_iff {reply : BatchResult} {fates : List StepFate}
    (h : reply.Reports fates) {index : Nat} (hindex : index < fates.length) :
    reply.errorAt index = none ↔ ¬ FailedAt fates index := by
  have hfate := List.getElem?_eq_getElem hindex
  have hreported := h index _ hfate
  unfold FailedAt
  rw [hfate]
  cases hget : fates[index] with
  | succeeded result =>
    rw [hget] at hreported
    simp [hreported.1]
  | failed error =>
    rw [hget] at hreported
    have herror : reply.errorAt index = some error := hreported
    simp [herror]
  | skipped =>
    rw [hget] at hreported
    simp [hreported.1]

/-- A transactional batch that was sent and run: it is not too large, the server gave its steps
their fates and reported each at its own index, and what the statements gave can be decoded. -/
structure Served {τ : Type} [Transport τ] (stream : τ) (statements : List Statement)
    (fates : List StepFate) (after : τ) : Prop where
  fits : BatchPlan.Fits ⟨statements, true⟩
  run : ServerRun (BatchPlan.steps ⟨statements, true⟩) fates
  answered : ∃ reply, reply.Reports fates ∧
    (Transport.send [BatchPlan.request ⟨statements, true⟩]).runOn stream =
      (.ok [.batch reply], after)
  decodable : ∀ index < statements.length, ∀ result,
    fates[index + 1]? = some (.succeeded result) → ∃ set, ResultSet.decode result = .ok set

/-- The fates of an answered batch are those in the reply. -/
theorem runOn_executeBatch {τ : Type} [Transport τ] {stream after : τ} {plan : BatchPlan}
    {reply : BatchResult} (hfits : plan.Fits)
    (h : (Transport.send [plan.request]).runOn stream = (.ok [.batch reply], after))
    (keepRollback : Bool) :
    (executeBatch plan keepRollback).runOn stream = (plan.callerFates reply keepRollback, after) := by
  rw [executeBatch_of_fits hfits, Call.runOn_bind_ok h]
  rfl

/-- A batch that is too large is refused, and the stream is left as it is. -/
theorem runOn_executeBatch_of_not_fits {τ : Type} [Transport τ] {plan : BatchPlan}
    (hfits : ¬ plan.Fits) (keepRollback : Bool) (stream : τ) :
    (executeBatch plan keepRollback).runOn stream =
      (.error (.batchTooLarge (UInt32.size + 1)), stream) := by
  rw [executeBatch_of_not_fits hfits, Call.runOn_ofExcept]

/-! ## What the reply says of the statements -/

section

variable {reply : BatchResult} {statements : List Statement} {fates : List StepFate}

/-- In a report, neither `BEGIN` nor `COMMIT` has an error if neither failed. -/
theorem Wire.BatchResult.Reports.addedSound_iff (h : reply.Reports fates)
    (hrun : ServerRun (BatchPlan.steps ⟨statements, true⟩) fates) :
    BatchPlan.AddedSound ⟨statements, true⟩ reply ↔
      ¬ FailedAt fates 0 ∧ ¬ FailedAt fates (statements.length + 1) := by
  have hlength := hrun.length_eq
  rw [← h.errorAt_eq_none_iff (by omega), ← h.errorAt_eq_none_iff (by omega)]
  exact ⟨fun hadded => hadded rfl, fun hadded _ => hadded⟩

/-- The fates reported for the statements are theirs. -/
theorem Wire.BatchResult.Reports.getElem?_reportedFates (h : reply.Reports fates)
    (hrun : ServerRun (BatchPlan.steps ⟨statements, true⟩) fates) {index : Nat}
    (hindex : index < statements.length) :
    (BatchPlan.reportedFates ⟨statements, true⟩ reply)[index]? = fates[index + 1]? := by
  have hlength := hrun.length_eq
  have hfate : fates[index + 1]? = some fates[index + 1] := List.getElem?_eq_getElem (by omega)
  rw [BatchPlan.reportedFates, List.getElem?_map, List.getElem?_range hindex, hfate]
  exact congrArg some (h.fateAt_eq hfate)

/-- A fate reported for a statement is that of one of the steps behind `BEGIN`. -/
theorem Wire.BatchResult.Reports.mem_reportedFates (h : reply.Reports fates)
    (hrun : ServerRun (BatchPlan.steps ⟨statements, true⟩) fates) {fate : StepFate}
    (hmem : fate ∈ BatchPlan.reportedFates ⟨statements, true⟩ reply) :
    ∃ index < statements.length, fates[index + 1]? = some fate := by
  obtain ⟨index, hindex, hget⟩ := List.getElem_of_mem hmem
  rw [BatchPlan.length_reportedFates] at hindex
  refine ⟨index, hindex, ?_⟩
  rw [← h.getElem?_reportedFates hrun hindex, ← hget]
  exact List.getElem?_eq_getElem _

end

/-! ## Batches -/

/-- The outcomes of statements that were executed up to a first one that failed, behind which none
ran. -/
structure StopsAtFirstFailure (fates : List StepFate) (outcomes : List StepOutcome) (first : Nat) :
    Prop where
  executed : ∀ index < first, ∃ result set, fates[index + 1]? = some (.succeeded result) ∧
    ResultSet.decode result = .ok set ∧ outcomes[index]? = some (.executed set)
  failed : first < outcomes.length → ∃ error, fates[first + 1]? = some (.failed error) ∧
    outcomes[first]? = some (.failed error)
  skipped : ∀ index, first < index → index < outcomes.length →
    fates[index + 1]? = some .skipped ∧ outcomes[index]? = some .skipped

theorem StepFate.outcome_succeeded {result : StatementResult} {outcome : StepOutcome} :
    (StepFate.succeeded result).outcome = .ok outcome ↔
      ∃ set, ResultSet.decode result = .ok set ∧ outcome = .executed set := by
  rw [StepFate.outcome, mapError_eq_ok_iff]
  cases ResultSet.decode result <;> simp [Except.map, eq_comm]

variable {τ : Type} [Transport τ] {connection : Connection τ} {statements : List Statement}
  {fates : List StepFate} {after : τ}

/-- The outcomes of a batch are read off the fates of its statements. -/
theorem runOn_batch {callers : List BatchStatement} {told : Except Error (List StepFate)}
    (hbuilt : (callers.mapM fun caller =>
      buildStatement (.text caller.sql) caller.arguments caller.wantRows) = .ok statements)
    (hne : statements ≠ [])
    (htold : (executeBatch ⟨statements, true⟩ connection.options.schemaDb).runOn connection.stream =
      (told, after)) :
    (Connection.batch callers true).runOn connection =
      (told >>= fun fates => fates.mapM StepFate.outcome, { connection with stream := after }) := by
  have hfull : ¬ statements.isEmpty = true := fun hempty => hne (List.isEmpty_iff.mp hempty)
  unfold Connection.batch
  rw [hbuilt, Call.runOn_ofExcept_bind]
  simp only [if_neg hfull]
  rw [Call.runOn_get_bind, Call.runOn_bind, Connection.runOn_onStream, htold]
  cases told <;> rfl

/-- The outcome of every statement can be told, because what it gave can be decoded. -/
theorem Served.outcomes_isOk (h : Served connection.stream statements fates after)
    {reply : BatchResult} (hreports : reply.Reports fates) :
    ((BatchPlan.reportedFates ⟨statements, true⟩ reply).mapM StepFate.outcome).isOk = true := by
  refine mapM_isOk_iff.mpr ?_
  intro fate hmem
  obtain ⟨index, hindex, hfate⟩ := hreports.mem_reportedFates h.run hmem
  cases fate with
  | succeeded result =>
    obtain ⟨set, hset⟩ := h.decodable index hindex result hfate
    exact isOk_iff.mpr ⟨_, StepFate.outcome_succeeded.mpr ⟨set, hset, rfl⟩⟩
  | failed error => rfl
  | skipped => rfl

/-- The outcomes of a transactional batch: there are some if `BEGIN` and `COMMIT` did not fail, and
they are those of the fates reported. -/
theorem outcomes_eq_ok_iff {reply : BatchResult} {outcomes : List StepOutcome} :
    (BatchPlan.callerFates ⟨statements, true⟩ reply false >>= fun fates =>
        fates.mapM StepFate.outcome) = .ok outcomes ↔
      BatchPlan.AddedSound ⟨statements, true⟩ reply ∧
        (BatchPlan.reportedFates ⟨statements, true⟩ reply).mapM StepFate.outcome =
          .ok outcomes := by
  simp [bind_eq_ok_iff, BatchPlan.callerFates_eq_ok_iff, and_assoc]

/-- Told outcomes are those of the statements' own fates, in their order. -/
theorem Wire.BatchResult.Reports.outcome_at {reply : BatchResult} {outcomes : List StepOutcome}
    (h : reply.Reports fates) (hrun : ServerRun (BatchPlan.steps ⟨statements, true⟩) fates)
    (htold : (BatchPlan.reportedFates ⟨statements, true⟩ reply).mapM StepFate.outcome =
      .ok outcomes) {index : Nat} (hindex : index < statements.length) {fate : StepFate}
    (hfate : fates[index + 1]? = some fate) :
    ∃ outcome, outcomes[index]? = some outcome ∧ fate.outcome = .ok outcome := by
  have hget := congrArg (fun told : List (Except Error StepOutcome) => told[index]?)
    (mapM_eq_ok_iff.mp htold)
  simp only [List.getElem?_map] at hget
  rw [h.getElem?_reportedFates hrun hindex, hfate] at hget
  obtain ⟨outcome, houtcome, hok⟩ := Option.map_eq_some_iff.mp hget.symm
  exact ⟨outcome, houtcome, hok.symm⟩

/-- If `BEGIN` succeeded, the outcomes told are those up to the first statement that failed. -/
theorem Wire.BatchResult.Reports.stopsAtFirstFailure {reply : BatchResult}
    {outcomes : List StepOutcome} (h : reply.Reports fates)
    (hrun : ServerRun (BatchPlan.steps ⟨statements, true⟩) fates) (hbegin : SucceededAt fates 0)
    (htold : (BatchPlan.reportedFates ⟨statements, true⟩ reply).mapM StepFate.outcome =
      .ok outcomes) :
    outcomes.length = statements.length ∧
      ∃ first ≤ statements.length, StopsAtFirstFailure fates outcomes first := by
  have hlength : outcomes.length = statements.length := by
    rw [← List.length_map Except.ok, ← mapM_eq_ok_iff.mp htold, List.length_map,
      BatchPlan.length_reportedFates]
  obtain ⟨first, hfirst, hbefore, hfailed, hbehind⟩ := hrun.exists_first_failed hbegin
  refine ⟨hlength, first, hfirst, ?executed, ?failed, ?skipped⟩
  case executed =>
    intro index hindex
    obtain ⟨result, hfate⟩ := hbefore index hindex
    obtain ⟨outcome, houtcome, hok⟩ := h.outcome_at hrun htold (by omega) hfate
    obtain ⟨set, hset, rfl⟩ := StepFate.outcome_succeeded.mp hok
    exact ⟨result, set, hfate, hset, houtcome⟩
  case failed =>
    intro hlt
    obtain ⟨error, hfate⟩ := hfailed (by omega)
    obtain ⟨outcome, houtcome, hok⟩ := h.outcome_at hrun htold (by omega) hfate
    cases hok
    exact ⟨error, hfate, houtcome⟩
  case skipped =>
    intro index hlt hindex
    have hfate := hbehind index hlt (by omega)
    obtain ⟨outcome, houtcome, hok⟩ := h.outcome_at hrun htold (by omega) hfate
    cases hok
    exact ⟨hfate, houtcome⟩

/-- A transactional batch fails if `BEGIN` or `COMMIT` did; else its outcomes are those of its
statements, up to the first that failed. -/
theorem Served.batch (h : Served connection.stream statements fates after)
    {callers : List BatchStatement}
    (hbuilt : (callers.mapM fun caller =>
      buildStatement (.text caller.sql) caller.arguments caller.wantRows) = .ok statements)
    (hne : statements ≠ []) (hschema : connection.options.schemaDb = false) :
    ∃ result, (Connection.batch callers true).runOn connection =
        (result, { connection with stream := after }) ∧
      (result.isOk = false ↔ FailedAt fates 0 ∨ FailedAt fates (statements.length + 1)) ∧
      ∀ outcomes, result = .ok outcomes → outcomes.length = statements.length ∧
        ∃ first ≤ statements.length, StopsAtFirstFailure fates outcomes first := by
  obtain ⟨reply, hreports, hsend⟩ := h.answered
  have hadded := hreports.addedSound_iff h.run
  refine ⟨_, runOn_batch hbuilt hne (runOn_executeBatch h.fits hsend _), ?_, ?_⟩
  · obtain ⟨told, htold⟩ := isOk_iff.mp (h.outcomes_isOk hreports)
    rw [hschema, Bool.eq_false_iff, ne_eq, isOk_iff]
    simp only [outcomes_eq_ok_iff, htold, hadded]
    -- outcomes can be told in any case, so only the steps that were added decide
    simp [← not_or]
  · intro outcomes hresult
    rw [hschema] at hresult
    obtain ⟨hsound, htold⟩ := outcomes_eq_ok_iff.mp hresult
    exact hreports.stopsAtFirstFailure h.run (h.run.begin_succeeded (hadded.mp hsound).1) htold

/-- Statements that must all succeed give results if none failed. -/
theorem Served.sound_iff (h : Served connection.stream statements fates after)
    {reply : BatchResult} (hreports : reply.Reports fates) :
    (∀ fate ∈ BatchPlan.reportedFates ⟨statements, true⟩ reply, fate.Sound) ↔
      ∀ index < statements.length, ¬ FailedAt fates (index + 1) := by
  constructor
  · rintro hsound index hindex ⟨error, hfate⟩
    have hmem : StepFate.failed error ∈ BatchPlan.reportedFates ⟨statements, true⟩ reply := by
      have hget := (hreports.getElem?_reportedFates h.run hindex).trans hfate
      exact List.mem_of_getElem? hget
    exact hsound _ hmem
  · intro hnone fate hmem
    obtain ⟨index, hindex, hfate⟩ := hreports.mem_reportedFates h.run hmem
    cases fate with
    | succeeded result => exact h.decodable index hindex result hfate
    | failed error => exact absurd ⟨error, hfate⟩ (hnone index hindex)
    | skipped => trivial

/-- The results of a script are read off the fates of its statements. -/
theorem runOn_batchCall {bound : List BoundStatement} {wantRows transactional keepRollback : Bool}
    {told : Except Error (List StepFate)} {stream : τ}
    (hbuilt : bound.mapM (Connection.buildBound wantRows) = .ok statements)
    (htold : (executeBatch ⟨statements, transactional⟩ keepRollback).runOn stream = (told, after)) :
    (batchCall bound wantRows transactional keepRollback).runOn stream =
      (told >>= fun fates => collectResults ((bound.map BoundStatement.sql).zip fates), after) := by
  unfold batchCall
  rw [hbuilt, Call.runOn_ofExcept_bind]
  show (executeBatch ⟨statements, transactional⟩ keepRollback >>= _).runOn stream = _
  rw [Call.runOn_bind, htold]
  cases told <;> rfl

section

variable {sql : String} {bound : List BoundStatement}
  (hmany : 2 ≤ (splitStatements sql).1.length)
  (hcontrol : ∀ statement ∈ (splitStatements sql).1, isTransactionControl statement = false)
  (hsmall : sql.utf8ByteSize ≤ connection.options.chunkThresholdBytes)
  (hfree : connection.inTransaction = false) (hbound : bindScript sql .none = .ok bound)
  (hbuilt : bound.mapM (Connection.buildBound false) = .ok statements)

include hmany hcontrol hsmall hfree hbound hbuilt

/-- A script that is no transaction yet is run as one. -/
theorem runOn_executeScript {told : Except Error (List StepFate)}
    (htold : (executeBatch ⟨statements, true⟩ connection.options.schemaDb).runOn connection.stream =
      (told, after)) :
    (Connection.executeScript sql).runOn connection =
      ((told >>= fun fates => collectResults ((bound.map BoundStatement.sql).zip fates)).map
        Summary.aggregate, { connection with stream := after }) := by
  have htransactional : (!connection.inTransaction &&
      !(splitStatements sql).1.any isTransactionControl) = true := by
    have hnone : (splitStatements sql).1.any isTransactionControl = false := by
      refine List.any_eq_false.mpr ?_
      intro statement hmem
      rw [Bool.not_eq_true]
      exact hcontrol statement hmem
    rw [hfree, hnone]
    rfl
  unfold Connection.executeScript
  rw [Call.runOn_get_bind, if_neg (by omega), Connection.runOn_executeSmallScript hbound hmany,
    htransactional, Call.runOn_map, Connection.runOn_onStream, runOn_batchCall hbuilt htold]

/-- A script that is sent as a transaction gives a result if it was committed. -/
theorem Served.executeScript (h : Served connection.stream statements fates after) :
    ∃ result, (Connection.executeScript sql).runOn connection =
        (result, { connection with stream := after }) ∧
      (result.isOk = true ↔ SucceededAt fates (statements.length + 1)) := by
  obtain ⟨reply, hreports, hsend⟩ := h.answered
  have hadded := hreports.addedSound_iff h.run
  let plan : BatchPlan := ⟨statements, true⟩
  have hnames : (bound.map BoundStatement.sql).length = plan.statements.length := by
    have hlength := congrArg List.length (mapM_eq_ok_iff.mp hbuilt)
    rw [List.length_map, List.length_map] at hlength
    rw [List.length_map, hlength]
  refine ⟨_, runOn_executeScript hmany hcontrol hsmall hfree hbound hbuilt
    (runOn_executeBatch h.fits hsend _), ?_⟩
  have hok : ∀ {result : Except Error (List ResultSet)},
      (result.map Summary.aggregate).isOk = true ↔ ∃ sets, result = .ok sets := by
    intro result
    cases result <;> simp [Except.map, Except.isOk, Except.toBool]
  have hcollect : ∀ sets, (plan.callerFates reply connection.options.schemaDb >>= fun fates =>
      collectResults ((bound.map BoundStatement.sql).zip fates)) = .ok sets ↔
        (¬ FailedAt fates 0 ∧ ¬ FailedAt fates (statements.length + 1)) ∧
          (∀ index < statements.length, ¬ FailedAt fates (index + 1)) ∧
          sets = (plan.reportedFates reply).filterMap StepFate.set? := by
    intro sets
    rw [BatchPlan.collect_eq_ok_iff hnames, hadded, h.sound_iff hreports]
  rw [hok, h.run.commit_succeeded_iff]
  constructor
  · rintro ⟨sets, hsets⟩ index hindex
    obtain ⟨⟨hbegin, hcommit⟩, hnone, _⟩ := (hcollect sets).mp hsets
    cases index with
    | zero => exact hbegin
    | succ index =>
      rcases Nat.lt_or_eq_of_le (Nat.le_of_succ_le_succ hindex) with hlt | rfl
      · exact hnone index hlt
      · exact hcommit
  · intro hnone
    exact ⟨_, (hcollect _).mpr ⟨⟨hnone 0 (by omega), hnone _ (Nat.le_refl _)⟩,
      fun index hindex => hnone _ (by omega), rfl⟩⟩

end

/-- In the batch of a transaction a statement runs exactly if `BEGIN` and all statements before it
succeeded, `COMMIT` exactly if all of them did, and `ROLLBACK` exactly if `COMMIT` was not carried
out. So a batch fails exactly if `BEGIN` or `COMMIT` did, and otherwise has the outcomes of its
statements up to the first that failed; and a script that is put into a transaction gives a result
exactly if it was committed. Of statements that are too many for the references of one batch, none
is sent: both calls fail, and the connection is left as it is. -/
theorem transactional_batch_all_or_nothing (statements : List Statement) (hne : statements ≠ []) :
    (∀ fates, ServerRun (BatchPlan.steps ⟨statements, true⟩) fates →
      (∀ index < statements.length,
        RanAt fates (index + 1) ↔ ∀ earlier ≤ index, SucceededAt fates earlier) ∧
      (RanAt fates (statements.length + 1) ↔
        ∀ earlier ≤ statements.length, SucceededAt fates earlier) ∧
      (RanAt fates (statements.length + 2) ↔ ¬ SucceededAt fates (statements.length + 1))) ∧
    (∀ {τ : Type} [Transport τ] (connection : Connection τ) (fates : List StepFate) (after : τ),
      Served connection.stream statements fates after →
      (∀ callers : List BatchStatement,
        (callers.mapM fun caller =>
          buildStatement (.text caller.sql) caller.arguments caller.wantRows) = .ok statements →
        connection.options.schemaDb = false →
        ∃ result, (Connection.batch callers true).runOn connection =
            (result, { connection with stream := after }) ∧
          (result.isOk = false ↔ FailedAt fates 0 ∨ FailedAt fates (statements.length + 1)) ∧
          ∀ outcomes, result = .ok outcomes → outcomes.length = statements.length ∧
            ∃ first ≤ statements.length, StopsAtFirstFailure fates outcomes first) ∧
      (∀ (sql : String) (bound : List BoundStatement),
        2 ≤ (splitStatements sql).1.length →
        (∀ statement ∈ (splitStatements sql).1, isTransactionControl statement = false) →
        sql.utf8ByteSize ≤ connection.options.chunkThresholdBytes →
        connection.inTransaction = false →
        bindScript sql .none = .ok bound →
        bound.mapM (Connection.buildBound false) = .ok statements →
        ∃ result, (Connection.executeScript sql).runOn connection =
            (result, { connection with stream := after }) ∧
          (result.isOk = true ↔ SucceededAt fates (statements.length + 1)))) ∧
    (UInt32.size ≤ statements.length + 1 → ∀ {τ : Type} [Transport τ] (connection : Connection τ),
      (∀ callers : List BatchStatement,
        (callers.mapM fun caller =>
          buildStatement (.text caller.sql) caller.arguments caller.wantRows) = .ok statements →
        (Connection.batch callers true).runOn connection =
          (.error (.batchTooLarge (UInt32.size + 1)), connection)) ∧
      (∀ (sql : String) (bound : List BoundStatement),
        2 ≤ (splitStatements sql).1.length →
        (∀ statement ∈ (splitStatements sql).1, isTransactionControl statement = false) →
        sql.utf8ByteSize ≤ connection.options.chunkThresholdBytes →
        connection.inTransaction = false →
        bindScript sql .none = .ok bound →
        bound.mapM (Connection.buildBound false) = .ok statements →
        (Connection.executeScript sql).runOn connection =
          (.error (.batchTooLarge (UInt32.size + 1)), connection))) := by
  refine ⟨?_, ?_, ?_⟩
  · intro fates hrun
    refine ⟨fun index hindex => ?_, ?_, ?_⟩
    · exact hrun.ran_iff (Nat.le_of_lt hindex)
    · exact hrun.ran_iff (Nat.le_refl _)
    · exact hrun.rollback_ran_iff
  · intro τ _ connection fates after hserved
    constructor
    · intro callers hbuilt hschema
      exact hserved.batch hbuilt hne hschema
    · intro sql bound hmany hcontrol hsmall hfree hbound hbuilt
      exact hserved.executeScript hmany hcontrol hsmall hfree hbound hbuilt
  · intro hlarge τ _ connection
    have htold := runOn_executeBatch_of_not_fits
      (mt BatchPlan.fits_transactional.mp (Nat.not_lt.mpr hlarge)) connection.options.schemaDb
      connection.stream
    constructor
    · intro callers hbuilt
      exact runOn_batch hbuilt hne htold
    · intro sql bound hmany hcontrol hsmall hfree hbound hbuilt
      exact runOn_executeScript hmany hcontrol hsmall hfree hbound hbuilt htold

/-- Two statements to run as a transaction. -/
def twoStatements : List Statement :=
  [plainStatement "a", plainStatement "b"]

/-- The fates of the steps of their batch if the second statement fails. -/
def failingSecond : List StepFate :=
  [.succeeded {}, .succeeded {}, .failed ⟨"no", none⟩, .skipped, .succeeded {}]

/-- A connection whose server answers a batch with these fates. -/
def preparedForFailingSecond : Connection (Http.Stream Http.Prepared) where
  stream := .new ⟨[Http.answeringBatch "[\x7b\x7d,\x7b\x7d,null,null,\x7b\x7d]"
    "[null,null,\x7b\"message\":\"no\"\x7d]"]⟩ "http://localhost" ""

theorem serverRun_failingSecond :
    ServerRun (BatchPlan.steps ⟨twoStatements, true⟩) failingSecond := by
  refine .ran rfl (by simp) (.ran rfl (by simp) (.ran rfl (by simp) (.skipped rfl ?_)))
  exact .ran rfl (by simp) .done

/-- The prepared answer is that of a server which lets the second statement fail. -/
theorem served_failingSecond :
    Served preparedForFailingSecond.stream twoStatements failingSecond
      ((Transport.send [BatchPlan.request ⟨twoStatements, true⟩]).runOn
        preparedForFailingSecond.stream).2 where
  fits := by decide +kernel
  run := serverRun_failingSecond
  answered := by
    let reply : BatchResult :=
      { stepResults := [some {}, some {}, none, none, some {}]
        stepErrors := [none, none, some ⟨"no", none⟩] }
    refine ⟨reply, ?_, Prod.ext (eq_ok_of_toOption (by decide +kernel)) rfl⟩
    intro index fate hfate
    match index with
    | 0 | 1 | 2 | 3 | 4 =>
      cases hfate
      simp [StepFate.ReportedAs, BatchResult.errorAt, BatchResult.resultAt, reply]
    | index + 5 => simp [failingSecond] at hfate
  decodable := by
    intro index hindex result hfate
    match index with
    | 0 =>
      cases hfate
      exact ⟨_, rfl⟩
    | 1 => cases hfate
    | index + 2 => exact absurd hindex (by simp [twoStatements])

theorem transactional_batch_all_or_nothing_of_failing_second :
    ¬ RanAt failingSecond 3 ∧ RanAt failingSecond 4 ∧
      ((Connection.batch [⟨"a", .none, false⟩, ⟨"b", .none, false⟩] true).runOn
        preparedForFailingSecond).1.isOk = true ∧
      ((Connection.executeScript "a; b").runOn preparedForFailingSecond).1.isOk = false := by
  obtain ⟨hsteps, hcalls, _⟩ :=
    transactional_batch_all_or_nothing twoStatements (by simp [twoStatements])
  obtain ⟨_, hcommit, hrollback⟩ := hsteps failingSecond serverRun_failingSecond
  obtain ⟨hbatch, hscript⟩ := hcalls preparedForFailingSecond failingSecond _ served_failingSecond
  have hsucceeded : ¬ SucceededAt failingSecond 3 := by
    rintro ⟨_, hfate⟩
    cases hfate
  refine ⟨fun hran => ?_, hrollback.mpr hsucceeded, ?_, ?_⟩
  · obtain ⟨_, hfate⟩ := hcommit.mp hran 2 (Nat.le_refl _)
    cases hfate
  · obtain ⟨result, hrun, hfailed, _⟩ :=
      hbatch [⟨"a", .none, false⟩, ⟨"b", .none, false⟩] rfl rfl
    rw [hrun, ← Bool.not_eq_false, hfailed]
    rintro (⟨_, hfate⟩ | ⟨_, hfate⟩) <;> cases hfate
  · have hbound : bindScript "a; b" .none =
        .ok [⟨"a", .positional []⟩, ⟨"b", .positional []⟩] :=
      eq_ok_of_toOption (by decide +kernel)
    obtain ⟨result, hrun, hok⟩ := hscript "a; b" _ (by decide +kernel) (by decide +kernel)
      (by decide +kernel) rfl hbound rfl
    rw [hrun, Bool.eq_false_iff, ne_eq, hok]
    exact hsucceeded

end SqlStream
