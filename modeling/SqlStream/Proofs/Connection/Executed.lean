import SqlStream.Proofs.Connection.Calls
import SqlStream.Proofs.Script.Chunked

/-!
# What a result says about the statements of a script

A call that gives a result was told of no failure. But a server may leave a step out, neither with a
result nor with an error, and such a step is passed over: a result means that all statements were
executed exactly if none was left out (`result_executed_iff_none_skipped`).
-/

namespace SqlStream

open SqlStream.Sql SqlStream.Wire

/-! ## Reports -/

/-- The statements that were asked for in an exchange, each with what the answer says of it. -/
def Exchange.reports (exchange : Exchange) : List (Option String × StepFate) :=
  match exchange.requests, exchange.outcome with
  | [.execute statement], .ok (.execute result :: _) => [(statement.sql, .succeeded result)]
  | [.batch batch], .ok (.batch reply :: _) =>
    (batch.steps.map fun step => step.statement.sql).zip
      ((List.range batch.steps.length).map reply.fateAt)
  | _, _ => []

/-- True of statements that were all reported as executed: with a result and without an error. -/
def AllExecuted (fates : List StepFate) : Prop :=
  ∀ fate ∈ fates, ∃ result, fate = .succeeded result

/-- True of statements of which none was left out of the reports. -/
def NoneSkipped (fates : List StepFate) : Prop :=
  ∀ fate ∈ fates, fate ≠ .skipped

/-- True of statements of which none was reported to have failed. -/
def NoneFailed (fates : List StepFate) : Prop :=
  ∀ fate ∈ fates, ∀ error, fate ≠ .failed error

/-- What exchanges report of a script: `fates` of its statements and, if the client added the
transaction, those of `BEGIN` and `COMMIT`, of which none failed. -/
structure Answered (statements : List String) (added : Bool) (log : List Exchange)
    (begun fates commit : List StepFate) : Prop where
  reports : ∃ rollback, log.flatMap Exchange.reports = [some "BEGIN"].zip begun ++
    ((statements.map some).zip fates ++ ([some "COMMIT"].zip commit ++
      [some "ROLLBACK"].zip rollback))
  length_begun : begun.length = added.toNat
  length_fates : fates.length = statements.length
  length_commit : commit.length = added.toNat
  noneFailed : NoneFailed (begun ++ (fates ++ commit))

/-- Of statements that did not fail, all were executed if none was left out. -/
theorem NoneFailed.allExecuted_iff {fates : List StepFate} (h : NoneFailed fates) :
    AllExecuted fates ↔ NoneSkipped fates := by
  refine forall_congr' fun fate => forall_congr' fun hmem => ?_
  cases hfate : fate with
  | succeeded result => simp
  | failed error => exact absurd hfate (h fate hmem error)
  | skipped => simp

theorem NoneFailed.of_append {first rest : List StepFate} (h : NoneFailed (first ++ rest)) :
    NoneFailed rest :=
  fun fate hmem => h fate (List.mem_append_right _ hmem)

theorem StepFate.Sound.ne_failed {fate : StepFate} (h : fate.Sound) (error : ServerError) :
    fate ≠ .failed error := by
  rintro rfl
  exact h

/-- Statements with sound fates did not fail between two that did not fail either. -/
theorem NoneFailed.framed {first last : StepFate} {fates : List StepFate}
    (hfirst : ∀ error, first ≠ .failed error) (hsound : ∀ fate ∈ fates, fate.Sound)
    (hlast : ∀ error, last ≠ .failed error) : NoneFailed ([first] ++ (fates ++ [last])) := by
  intro fate hmem
  rcases List.mem_append.mp hmem with hmem | hmem
  · rw [List.mem_singleton.mp hmem]
    exact hfirst
  · rcases List.mem_append.mp hmem with hmem | hmem
    · exact (hsound fate hmem).ne_failed
    · rw [List.mem_singleton.mp hmem]
      exact hlast

/-- Statements that did not fail have as many results as were not left out. -/
theorem length_filterMap_set? {fates : List StepFate} (h : ∀ fate ∈ fates, fate.Sound) :
    (fates.filterMap StepFate.set?).length = fates.length ↔ NoneSkipped fates := by
  rw [List.filterMap_length_eq_length]
  refine forall_congr' fun fate => forall_congr' fun hmem => ?_
  have hsound := h fate hmem
  cases fate with
  | succeeded result =>
    obtain ⟨set, hset⟩ := hsound
    simp [StepFate.set?, hset, Except.toOption]
  | failed error => exact hsound.elim
  | skipped => simp [StepFate.set?]

/-! ## One batch -/

/-- The steps of a batch have the texts of its statements, between those that were added. -/
theorem texts_steps (plan : BatchPlan) :
    (plan.steps.map fun step => step.statement.sql) =
      if plan.transactional then
        [some "BEGIN"] ++ (plan.statements.map Statement.sql ++ ([some "COMMIT"] ++ [some "ROLLBACK"]))
      else plan.statements.map Statement.sql := by
  have hchained : ∀ statements : List Statement,
      ((chainedSteps statements).map fun step => step.statement.sql) =
        statements.map Statement.sql := by
    intro statements
    have hfirst := congrArg (List.map Statement.sql) (List.zipIdx_map_fst 0 statements)
    rw [List.map_map] at hfirst
    rw [chainedSteps, List.map_map, ← hfirst]
    rfl
  unfold BatchPlan.steps
  split
  · rw [List.map_append, List.map_cons, hchained]
    simp [plainStatement]
  · rw [List.map_map]
    rfl

/-- What a batch reports of its statements. -/
theorem answered_of_plan {plan : BatchPlan} {reply : BatchResult} {others : List Response}
    {names : List String} (hnames : plan.statements.map Statement.sql = names.map some)
    (hadded : plan.AddedSound reply) (hsound : ∀ fate ∈ plan.reportedFates reply, fate.Sound) :
    ∃ begun commit, Answered names plan.transactional
      [⟨[plan.request], .ok (.batch reply :: others)⟩] begun (plan.reportedFates reply) commit := by
  obtain ⟨statements, transactional⟩ := plan
  have hcount : names.length = statements.length := by
    rw [← List.length_map some, ← hnames, List.length_map]
  have hlength : (BatchPlan.reportedFates ⟨statements, transactional⟩ reply).length =
      names.length := by
    rw [BatchPlan.length_reportedFates, hcount]
  have hreports : Exchange.reports
      ⟨[BatchPlan.request ⟨statements, transactional⟩], .ok (.batch reply :: others)⟩ =
        ((BatchPlan.steps ⟨statements, transactional⟩).map fun step => step.statement.sql).zip
          ((List.range (BatchPlan.steps ⟨statements, transactional⟩).length).map reply.fateAt) :=
    rfl
  have hsteps : (BatchPlan.steps ⟨statements, transactional⟩).length =
      statements.length + if transactional then 3 else 0 := by
    rw [← List.length_map (f := fun step : BatchStep => step.statement.sql), texts_steps]
    cases transactional <;> simp
  cases transactional with
  | false =>
    refine ⟨[], [], ⟨[], ?_⟩, rfl, hlength, rfl, ?_⟩
    · rw [List.flatMap_singleton, hreports, texts_steps, hsteps, hnames]
      simp [BatchPlan.reportedFates, BatchPlan.firstCaller]
    · intro fate hmem
      rw [List.append_nil] at hmem
      exact (hsound fate hmem).ne_failed
  | true =>
    refine ⟨[reply.fateAt 0], [reply.fateAt (statements.length + 1)],
      ⟨[reply.fateAt (statements.length + 2)], ?_⟩, rfl, hlength, rfl, ?_⟩
    · have hzip : (names.map some).length =
          ((List.range statements.length).map fun index => reply.fateAt (index + 1)).length := by
        rw [List.length_map, List.length_map, List.length_range, hcount]
      rw [List.flatMap_singleton, hreports, texts_steps, hsteps, hnames, if_pos rfl, if_pos rfl,
        map_fateAt_range, List.singleton_append, List.zip_cons_cons, List.zip_append hzip]
      rfl
    · obtain ⟨hbegin, hcommit⟩ := hadded rfl
      have hadd : ∀ {step error}, reply.errorAt step = none → reply.fateAt step ≠ .failed error := by
        intro step error hnone hfailed
        cases hnone.symm.trans (BatchResult.fateAt_eq_failed.mp hfailed)
      exact .framed (fun _ => hadd hbegin) hsound fun _ => hadd hcommit

/-- The statements of a batch are built from those of the script, with their texts. -/
theorem buildBound_texts {statements : List BoundStatement} {wantRows : Bool}
    {built : List Statement} (h : statements.mapM (Connection.buildBound wantRows) = .ok built) :
    built.map Statement.sql = (statements.map BoundStatement.sql).map some := by
  rw [List.map_map]
  refine map_eq_of_mapM_eq_ok (fun statement built hbuilt => ?_) h
  unfold Connection.buildBound at hbuilt
  cases hstatement : buildStatement (.text statement.sql) statement.arguments wantRows with
  | error error =>
    rw [hstatement] at hbuilt
    cases hbuilt
  | ok _ =>
    rw [hstatement] at hbuilt
    cases hbuilt
    exact buildStatement_text hstatement

/-- What exchanges report of statements that gave `sets`. -/
def AnsweredWith (statements : List String) (added : Bool) (log : List Exchange)
    (sets : List ResultSet) : Prop :=
  ∃ begun fates commit, Answered statements added log begun fates commit ∧
    (∀ fate ∈ fates, fate.Sound) ∧ sets = fates.filterMap StepFate.set?

/-- A batch that gives results is one exchange, which reports no failure. -/
theorem traces_batchCall {τ : Type} [Transport τ] (statements : List BoundStatement)
    (wantRows transactional keepRollback : Bool) :
    Traces (batchCall (τ := τ) statements wantRows transactional keepRollback)
      (batchCall statements wantRows transactional keepRollback) fun new result =>
        ∀ sets, result = .ok sets →
          AnsweredWith (statements.map BoundStatement.sql) transactional new sets := by
  unfold batchCall
  cases hbuilt : statements.mapM (Connection.buildBound wantRows) with
  | error error =>
    -- a script that cannot be encoded gives no results, and nothing is sent
    refine (Traces.ofExcept (.error error)).mono ?_
    rintro _ _ ⟨_, rfl⟩ _ hsets
    cases hsets
  | ok built =>
    let plan : BatchPlan := ⟨built, transactional⟩
    have hnames : plan.statements.map Statement.sql =
        (statements.map BoundStatement.sql).map some := buildBound_texts hbuilt
    have hcount : (statements.map BoundStatement.sql).length = plan.statements.length := by
      rw [← List.length_map some, ← hnames, List.length_map]
    refine (Traces.batch plan keepRollback fun fates =>
      collectResults ((statements.map BoundStatement.sql).zip fates)).mono ?_
    rintro new _ (⟨_, rfl, rfl⟩ | ⟨_, outcome, rfl, rfl⟩) sets hsets
    · cases hsets
    · obtain ⟨responses, rfl, hanswer⟩ := bind_eq_ok_iff.mp hsets
      obtain ⟨reply, hreply, hcollect⟩ := bind_eq_ok_iff.mp hanswer
      obtain ⟨others, rfl⟩ := expectBatch_eq_ok_iff.mp hreply
      obtain ⟨hadded, hsound, rfl⟩ := (BatchPlan.collect_eq_ok_iff hcount).mp hcollect
      obtain ⟨begun, commit, hanswered⟩ := answered_of_plan hnames hadded hsound
      exact ⟨begun, _, commit, hanswered, hsound, rfl⟩

/-! ## Chunks -/

/-- A statement that went well was executed. -/
theorem Attempt.reports_plain {sql : String} {log : List Exchange}
    (h : Attempt [plainRequest sql] log true) :
    ∃ result, log.flatMap Exchange.reports = [(some sql, .succeeded result)] := by
  cases h with
  | next hsucceeded hrest =>
    cases hrest
    obtain ⟨_, _, _, hrequest, rfl, hfulfils⟩ := hsucceeded
    cases hrequest
    cases hfulfils
    exact ⟨_, rfl⟩

/-- An answered chunk reports the fates of its statements. -/
theorem reports_chunk (chunk : List String) (reply : BatchResult) (others : List Response) :
    Exchange.reports ⟨[chunkRequest chunk], .ok (.batch reply :: others)⟩ =
      (chunk.map some).zip ((List.range chunk.length).map reply.fateAt) := by
  show List.zip (List.map _ (List.map _ chunk)) (List.map _ (List.range (List.map _ chunk).length)) = _
  rw [List.map_map, List.length_map]
  rfl

/-- Chunks that went well report sound fates of their statements. -/
theorem Attempt.reports_chunks {pieces : List (List String)} {log : List Exchange}
    (h : Attempt (pieces.map chunkRequest) log true) :
    ∃ fates, fates.length = pieces.flatten.length ∧ (∀ fate ∈ fates, fate.Sound) ∧
      log.flatMap Exchange.reports = (pieces.flatten.map some).zip fates := by
  induction pieces generalizing log with
  | nil =>
    cases h
    exact ⟨[], rfl, by simp, rfl⟩
  | cons chunk pieces ih =>
    cases h with
    | @next _ _ _ behind _ hsucceeded hrest =>
      obtain ⟨fates, hlength, hsound, hreports⟩ := ih hrest
      obtain ⟨_, _, _, hrequest, rfl, hfulfils⟩ := hsucceeded
      cases hrequest
      cases hfulfils with
      | @batch _ reply hsteps =>
        rw [List.length_map] at hsteps
        refine ⟨(List.range chunk.length).map reply.fateAt ++ fates, ?_, ?_, ?_⟩
        · simp [hlength]
        · intro fate hmem
          rcases List.mem_append.mp hmem with hmem | hmem
          · obtain ⟨step, hstep, rfl⟩ := List.mem_map.mp hmem
            exact BatchResult.sound_fateAt_iff.mpr (hsteps step (List.mem_range.mp hstep))
          · exact hsound fate hmem
        · rw [List.flatMap_cons, hreports, reports_chunk, List.flatten_cons, List.map_append,
            List.zip_append (by simp)]

/-- A script in chunks that went well reports no failure. -/
theorem Attempt.answered {statements : List String} {chunkSize : Nat} {wrap : Bool}
    {log : List Exchange} (h : Attempt (scriptPlan statements chunkSize wrap) log true) :
    ∃ begun fates commit, Answered statements wrap log begun fates commit := by
  obtain ⟨opening, behind, rfl, hopening, hbehind⟩ := h.split_complete
  obtain ⟨batches, closing, rfl, hbatches, hclosing⟩ := hbehind.split_complete
  obtain ⟨fates, hlength, hsound, hreports⟩ := hbatches.reports_chunks
  rw [flatten_chunks] at hlength hreports
  cases wrap with
  | false =>
    cases hopening
    cases hclosing
    refine ⟨[], fates, [], ⟨[], ?_⟩, rfl, hlength, rfl, ?_⟩
    · simpa using hreports
    · exact fun fate hmem => (hsound fate (by simpa using hmem)).ne_failed
  | true =>
    obtain ⟨begun, hbegun⟩ := hopening.reports_plain
    obtain ⟨committed, hcommitted⟩ := hclosing.reports_plain
    refine ⟨[.succeeded begun], fates, [.succeeded committed], ⟨[], ?_⟩, rfl, hlength, rfl, ?_⟩
    · rw [List.flatMap_append, List.flatMap_append, hbegun, hreports, hcommitted]
      simp
    · exact .framed nofun hsound nofun

/-- A script past the threshold that gives a result reports no failure. -/
theorem traces_executeChunked {τ : Type} [Transport τ] (sql : String) (chunkSize : Nat)
    (wrap : Bool) :
    Traces (executeChunked (τ := τ) sql chunkSize wrap) (executeChunked sql chunkSize wrap)
      fun new result => result.isOk = true → ∃ begun fates commit,
        Answered (chunkedStatements sql) (wrap && decide (2 ≤ (chunkedStatements sql).length)) new
          begun fates commit := by
  by_cases hmany : 2 ≤ (chunkedStatements sql).length
  · refine (traces_chunkedScript chunkSize wrap hmany).mono ?_
    intro new result hattempt hok
    rw [decide_eq_true hmany, Bool.and_true]
    exact (hok ▸ hattempt).answered
  · unfold executeChunked
    rcases hstatements : chunkedStatements sql with _ | ⟨only, _ | ⟨second, rest⟩⟩
    · refine (Traces.pure ({} : Summary)).mono ?_
      rintro _ _ ⟨rfl, rfl⟩ _
      refine ⟨[], [], [], ⟨[], rfl⟩, by simp, rfl, by simp, fun fate hmem => ?_⟩
      cases hmem
    · refine ((traces_executePlain only).attempt_bind fun set =>
        traces_pure (Summary.aggregate [set])).mono ?_
      intro new result hattempt hok
      obtain ⟨executed, hexecuted⟩ := (hok ▸ hattempt : Attempt [plainRequest only] _ _).reports_plain
      refine ⟨[], [.succeeded executed], [], ⟨[], ?_⟩, by simp, rfl, by simp, fun fate hmem => ?_⟩
      · simpa using hexecuted
      · simp [List.mem_singleton.mp hmem]
    · rw [hstatements] at hmany
      exact absurd (by simp) hmany

/-! ## Calls of a connection -/

/-- A connection whose stream is logged, with the exchanges noted so far. -/
def Connection.withLog {τ : Type} (connection : Connection τ) (log : List Exchange) :
    Connection (Logged τ) where
  stream := ⟨connection.stream, log⟩
  options := connection.options
  inTransaction := connection.inTransaction
  nextSqlId := connection.nextSqlId

/-- The statements of a script that are sent: past the threshold, those that control a transaction
are left out. -/
def Connection.sentStatements {τ : Type} (connection : Connection τ) (sql : String) : List String :=
  if connection.options.chunkThresholdBytes < sql.utf8ByteSize then chunkedStatements sql
  else (splitStatements sql).1

/-- True of a script of several statements that is put into a transaction. -/
def Connection.addsTransaction {τ : Type} (connection : Connection τ) (sql : String) : Bool :=
  !connection.inTransaction &&
    if connection.options.chunkThresholdBytes < sql.utf8ByteSize then
      decide (2 ≤ (chunkedStatements sql).length)
    else !(splitStatements sql).1.any isTransactionControl

/-- What is known of the exchanges of a stream is known of those of its connection. -/
theorem Traces.onStream {τ α : Type} {plain : Call τ α} {logged : Call (Logged τ) α}
    {P : List Exchange → Except Error α → Prop} (h : Traces plain logged P)
    {connection after : Connection τ} {result : Except Error α}
    (hrun : (Connection.onStream plain).runOn connection = (result, after)) :
    ∃ log, P log result ∧
      (Connection.onStream logged).runOn (connection.withLog []) = (result, after.withLog log) := by
  obtain ⟨log, hlog, hlogged⟩ := h connection.stream []
  rw [Connection.runOn_onStream] at hrun
  cases hrun
  refine ⟨log, hlog, ?_⟩
  show ((logged.runOn ⟨connection.stream, []⟩).1,
    (⟨(logged.runOn ⟨connection.stream, []⟩).2, connection.options, connection.inTransaction,
      connection.nextSqlId⟩ : Connection (Logged τ))) = _
  rw [hlogged]
  rfl

section

variable {τ : Type} [Transport τ] {connection after : Connection τ} {sql : String}

/-- Several statements that give results are one batch, which reports no failure. -/
theorem run_answered {arguments : Arguments} {wantRows : Bool} {sets : List ResultSet}
    (hmany : 2 ≤ (splitStatements sql).1.length)
    (hrun : (Connection.run sql arguments wantRows).runOn connection = (.ok sets, after)) :
    ∃ log, AnsweredWith (splitStatements sql).1 false log sets ∧
      (Connection.run sql arguments wantRows).runOn (connection.withLog []) =
        (.ok sets, after.withLog log) := by
  cases hbound : bindScript sql arguments with
  | error error =>
    rw [Connection.runOn_run_error hbound] at hrun
    cases hrun
  | ok bound =>
    rw [Connection.runOn_run hbound hmany] at hrun ⊢
    obtain ⟨log, hanswered, hlogged⟩ := (traces_batchCall bound wantRows false _).onStream hrun
    exact ⟨log, bindScript_texts hbound ▸ hanswered sets rfl, hlogged⟩

/-- A script that gives a result reports no failure of its statements. -/
theorem executeScript_answered {summary : Summary} (hmany : 2 ≤ (splitStatements sql).1.length)
    (hrun : (Connection.executeScript sql).runOn connection = (.ok summary, after)) :
    ∃ log begun fates commit,
      Answered (connection.sentStatements sql) (connection.addsTransaction sql) log begun fates
        commit ∧
      (Connection.executeScript sql).runOn (connection.withLog []) =
        (.ok summary, after.withLog log) := by
  unfold Connection.executeScript at hrun ⊢
  rw [Call.runOn_get_bind] at hrun ⊢
  unfold Connection.sentStatements Connection.addsTransaction
  by_cases hlarge : connection.options.chunkThresholdBytes < sql.utf8ByteSize
  · rw [if_pos hlarge] at hrun
    obtain ⟨log, hanswered, hlogged⟩ := (traces_executeChunked sql _ _).onStream hrun
    obtain ⟨begun, fates, commit, hanswered⟩ := hanswered rfl
    refine ⟨log, begun, fates, commit, ?_, ?_⟩
    · rw [if_pos hlarge, if_pos hlarge]
      exact hanswered
    · rw [if_pos (by exact hlarge)]
      exact hlogged
  · rw [if_neg hlarge] at hrun
    cases hbound : bindScript sql .none with
    | error error =>
      rw [Connection.runOn_executeSmallScript_error hbound] at hrun
      cases hrun
    | ok bound =>
      rw [Connection.runOn_executeSmallScript hbound hmany] at hrun
      obtain ⟨sets, hsets, rfl⟩ := Call.runOn_map_eq_ok.mp hrun
      obtain ⟨log, hanswered, hlogged⟩ := (traces_batchCall bound false _ _).onStream hsets
      obtain ⟨begun, fates, commit, hanswered, _⟩ := hanswered sets rfl
      refine ⟨log, begun, fates, commit, ?_, ?_⟩
      · rw [if_neg hlarge, if_neg hlarge, ← bindScript_texts hbound]
        exact bindScript_texts hbound ▸ hanswered
      · rw [if_neg (by exact hlarge), Connection.runOn_executeSmallScript hbound hmany,
          Call.runOn_map_eq_ok]
        exact ⟨sets, hlogged, rfl⟩

/-- The results of several statements are as many as were not left out. -/
theorem length_results_iff {log : List Exchange} {sets : List ResultSet}
    (h : AnsweredWith (splitStatements sql).1 false log sets) :
    ∃ begun fates commit,
      Answered (splitStatements sql).1 false log begun fates commit ∧
      (AllExecuted fates ↔ NoneSkipped fates) ∧
      (sets.length = (splitStatements sql).1.length ↔ NoneSkipped fates) := by
  obtain ⟨begun, fates, commit, hanswered, hsound, rfl⟩ := h
  refine ⟨begun, fates, commit, hanswered, ?_, ?_⟩
  · exact NoneFailed.allExecuted_iff fun fate hmem => (hsound fate hmem).ne_failed
  · rw [← hanswered.length_fates]
    exact length_filterMap_set? hsound

end

/-- A call that gives a result was told of no failure; so all statements that were sent, and a
`COMMIT` that was added, were executed exactly if the server left none of them out. A query has one
result for each statement under the same condition. -/
theorem result_executed_iff_none_skipped {τ : Type} [Transport τ] (connection : Connection τ)
    (sql : String) (arguments : Arguments) (hmany : 2 ≤ (splitStatements sql).1.length) :
    (∀ rows after, (Connection.query sql arguments).runOn connection = (.ok rows, after) →
      ∃ log begun fates commit,
        (Connection.query sql arguments).runOn (connection.withLog []) =
          (.ok rows, after.withLog log) ∧
        Answered (splitStatements sql).1 false log begun fates commit ∧
        (AllExecuted fates ↔ NoneSkipped fates) ∧
        (rows.sets.length = (splitStatements sql).1.length ↔ NoneSkipped fates)) ∧
    (∀ summary after, (Connection.execute sql arguments).runOn connection = (.ok summary, after) →
      ∃ log begun fates commit,
        (Connection.execute sql arguments).runOn (connection.withLog []) =
          (.ok summary, after.withLog log) ∧
        Answered (splitStatements sql).1 false log begun fates commit ∧
        (AllExecuted fates ↔ NoneSkipped fates)) ∧
    (∀ summary after, (Connection.executeScript sql).runOn connection = (.ok summary, after) →
      ∃ log begun fates commit,
        (Connection.executeScript sql).runOn (connection.withLog []) =
          (.ok summary, after.withLog log) ∧
        Answered (connection.sentStatements sql) (connection.addsTransaction sql) log begun fates
          commit ∧
        (AllExecuted (fates ++ commit) ↔ NoneSkipped (fates ++ commit))) := by
  refine ⟨fun rows after hrun => ?_, fun summary after hrun => ?_, fun summary after hrun => ?_⟩
  · unfold Connection.query at hrun ⊢
    rw [bind_pure_comp] at hrun ⊢
    obtain ⟨sets, hsets, rfl⟩ := Call.runOn_map_eq_ok.mp hrun
    obtain ⟨log, hanswered, hlogged⟩ := run_answered hmany hsets
    obtain ⟨begun, fates, commit, hfates⟩ := length_results_iff hanswered
    exact ⟨log, begun, fates, commit, Call.runOn_map_eq_ok.mpr ⟨sets, hlogged, rfl⟩, hfates⟩
  · unfold Connection.execute at hrun ⊢
    rw [bind_pure_comp] at hrun ⊢
    obtain ⟨sets, hsets, rfl⟩ := Call.runOn_map_eq_ok.mp hrun
    obtain ⟨log, hanswered, hlogged⟩ := run_answered hmany hsets
    obtain ⟨begun, fates, commit, hfates, hexecuted, _⟩ := length_results_iff hanswered
    exact ⟨log, begun, fates, commit, Call.runOn_map_eq_ok.mpr ⟨sets, hlogged, rfl⟩, hfates,
      hexecuted⟩
  · obtain ⟨log, begun, fates, commit, hanswered, hlogged⟩ := executeScript_answered hmany hrun
    exact ⟨log, begun, fates, commit, hlogged, hanswered,
      hanswered.noneFailed.of_append.allExecuted_iff⟩

/-- A connection whose server answers the first step of a batch and leaves out the others. -/
def preparedForOneStep : Connection (Http.Stream Http.Prepared) where
  stream := .new ⟨[Http.answeringBatch "[\x7b\x7d]" "[]"]⟩ "http://localhost" ""

/-- A query of two statements gives one result and no error if the server leaves one out. -/
theorem query_passes_over_skipped :
    (splitStatements "a; b").1.length = 2 ∧
      (((Connection.query "a; b" .none).runOn preparedForOneStep).1.toOption.map fun rows =>
        rows.sets.length) = some 1 := by
  decide +kernel

theorem result_executed_iff_none_skipped_of_two :
    2 ≤ (splitStatements "a; b").1.length ∧
      ∃ rows after log begun fates commit,
        (Connection.query "a; b" .none).runOn preparedForOneStep = (.ok rows, after) ∧
        rows.sets.length = 1 ∧
        Answered (splitStatements "a; b").1 false log begun fates commit ∧
        ¬ NoneSkipped fates := by
  have hmany : 2 ≤ (splitStatements "a; b").1.length := by decide +kernel
  have htwo : (splitStatements "a; b").1.length = 2 := by decide +kernel
  have hone : (((Connection.query "a; b" .none).runOn preparedForOneStep).1.toOption.map
      fun rows => rows.sets.length) = some 1 := by decide +kernel
  refine ⟨hmany, ?_⟩
  cases hrun : (Connection.query "a; b" .none).runOn preparedForOneStep with
  | mk result after =>
    rw [hrun] at hone
    cases result with
    | error error => cases hone
    | ok rows =>
      have hsets : rows.sets.length = 1 := Option.some.inj hone
      obtain ⟨log, begun, fates, commit, _, hanswered, _, hiff⟩ :=
        (result_executed_iff_none_skipped preparedForOneStep "a; b" .none hmany).1 rows after hrun
      refine ⟨rows, after, log, begun, fates, commit, rfl, hsets, hanswered, fun hnone => ?_⟩
      rw [hsets, htwo] at hiff
      cases hiff.mpr hnone

end SqlStream
