import Mathlib.Data.List.Induction
import SqlStream.Proofs.Connection.Executed
import SqlStream.Proofs.Stream.Invariants

/-!
# Calls that begin, end or run in a transaction

A caller begins, commits and undoes transactions, and runs batches and scripts in between. Each of
these calls comes to one call on the stream of the connection and to a note of whether a transaction
is open (`TransactionCall.runOn_run`). On a logged stream it notes its exchanges besides
(`TransactionCall.after_withLog`): one statement, one batch, or a script in chunks
(`TransactionCall.Exchanged`).
-/

namespace SqlStream

open SqlStream.Sql SqlStream.Wire

/-- A call of a caller that works with transactions. -/
inductive TransactionCall where
  | begin
  | commit
  | rollback
  | batch (statements : List BatchStatement) (transactional : Bool)
  | script (sql : String)

/-! ## One call on the stream -/

section

variable {τ : Type} [Transport τ]

/-- Runs statements as a batch, and reports the outcome of each. -/
def outcomesCall (statements : List BatchStatement) (transactional keepRollback : Bool) :
    Call τ (List StepOutcome) := do
  let built ← Call.ofExcept (statements.mapM fun statement =>
    buildStatement (.text statement.sql) statement.arguments statement.wantRows)
  if built.isEmpty then return []
  let fates ← executeBatch ⟨built, transactional⟩ keepRollback
  Call.ofExcept (fates.mapM StepFate.outcome)

/-- Runs the statements of a script that fits one message. -/
def boundCall (statements : List BoundStatement) (inTransaction keepRollback : Bool) :
    Call τ Summary :=
  match statements with
  | [] => return {}
  | [statement] => do
    let set ← Call.withStatement statement.sql
      (executeStatement (.text statement.sql) statement.arguments false)
    return .aggregate [set]
  | statements =>
    let hasControl := statements.any fun statement => isTransactionControl statement.sql
    Summary.aggregate <$> batchCall statements false (!inTransaction && !hasControl) keepRollback

/-- Runs a script, where `inTransaction` tells whether a transaction was begun. -/
def scriptCall (sql : String) (options : Options) (inTransaction : Bool) : Call τ Summary :=
  if options.chunkThresholdBytes < sql.utf8ByteSize then
    executeChunked sql options.chunkSize (!inTransaction)
  else do
    let statements ← Call.withStatement sql (Call.ofExcept (bindScript sql .none))
    boundCall statements inTransaction options.schemaDb

namespace Connection

variable (connection : Connection τ)

/-- A batch on the connection is one on its stream. -/
theorem runOn_batch_eq (statements : List BatchStatement) (transactional : Bool) :
    (batch statements transactional).runOn connection =
      (onStream (outcomesCall statements transactional
        connection.options.schemaDb)).runOn connection := by
  unfold batch outcomesCall
  rw [onStream_bind, onStream_ofExcept, Call.runOn_ofExcept_bind, Call.runOn_ofExcept_bind]
  cases statements.mapM fun statement =>
      buildStatement (.text statement.sql) statement.arguments statement.wantRows with
  | error error => rfl
  | ok built =>
    by_cases hempty : built.isEmpty = true
    · simp only [if_pos hempty, onStream_pure]
    · simp only [if_neg hempty, onStream_bind, onStream_ofExcept]
      rw [Call.runOn_get_bind]

/-- The statements of a script that fits one message are one call on the stream. -/
theorem runOn_executeSmallScript_eq (sql : String) :
    (executeSmallScript sql).runOn connection =
      (onStream (do
        let statements ← Call.withStatement sql (Call.ofExcept (bindScript sql .none))
        boundCall statements connection.inTransaction
          connection.options.schemaDb)).runOn connection := by
  rw [onStream_bind]
  unfold executeSmallScript
  show (Connection.bind sql .none >>= _).runOn connection =
    (Connection.bind sql .none >>= _).runOn connection
  cases hbound : bindScript sql .none with
  | error error =>
    rw [Call.runOn_bind_error (runOn_bind_error hbound),
      Call.runOn_bind_error (runOn_bind_error hbound)]
  | ok bound =>
    rw [Call.runOn_bind_ok (runOn_bind_ok hbound), Call.runOn_bind_ok (runOn_bind_ok hbound)]
    match bound with
    | [] => rfl
    | [statement] =>
      simp only [boundCall, onStream_bind, onStream_pure]
      rfl
    | first :: second :: rest =>
      simp only [boundCall, onStream_map]
      rw [Call.runOn_get_bind, bind_pure_comp, Call.runOn_map, Call.runOn_map, runOn_runBatch]

/-- A script is one call on the stream. -/
theorem runOn_executeScript_eq (sql : String) :
    (executeScript sql).runOn connection =
      (onStream (scriptCall sql connection.options connection.inTransaction)).runOn connection := by
  unfold executeScript scriptCall
  rw [Call.runOn_get_bind]
  by_cases hlarge : connection.options.chunkThresholdBytes < sql.utf8ByteSize
  · rw [if_pos hlarge, if_pos hlarge]
  · rw [if_neg hlarge, if_neg hlarge, runOn_executeSmallScript_eq]

/-- A text that is one statement without placeholders is run as it is. -/
theorem runOn_execute_of_single {sql : String}
    (hbound : bindScript sql .none = .ok [⟨sql, .none⟩]) :
    (execute sql .none).runOn connection =
      (onStream ((fun set => Summary.aggregate [set]) <$> executePlain sql)).runOn connection := by
  unfold execute run
  rw [bind_pure_comp, Call.runOn_map, Call.runOn_bind_ok (runOn_bind_ok hbound), onStream_map,
    Call.runOn_map]
  simp only [bind_pure_comp, Call.runOn_map]
  rw [runSingle, executePlain]
  cases ((onStream (Call.withStatement sql (executeStatement (.text sql) .none false))).runOn
    connection).1 <;> rfl

end Connection

namespace TransactionCall

/-- What a call does. What it gives is left out, except whether it fails. -/
def run : TransactionCall → Call (Connection τ) Unit
  | begin => Connection.beginTransaction
  | commit => Connection.commit
  | rollback => Connection.rollback
  | batch statements transactional => (fun _ => ()) <$> Connection.batch statements transactional
  | script sql => (fun _ => ()) <$> Connection.executeScript sql

/-- What a call does on the stream. -/
def streamCall (options : Options) (inTransaction : Bool) : TransactionCall → Call τ Unit
  | begin => (fun _ => ()) <$> executePlain "BEGIN"
  | commit => (fun _ => ()) <$> executePlain "COMMIT"
  | rollback => (fun _ => ()) <$> executePlain "ROLLBACK"
  | batch statements transactional =>
    (fun _ => ()) <$> outcomesCall statements transactional options.schemaDb
  | script sql => (fun _ => ()) <$> scriptCall sql options inTransaction

/-- What a connection notes of the transaction behind a call. -/
def noted (succeeded inTransaction : Bool) : TransactionCall → Bool
  | begin => if succeeded then true else inTransaction
  | commit => if succeeded then false else inTransaction
  | rollback => false
  | batch _ _ | script _ => inTransaction

/-- A call is one call on the stream, and a note of whether a transaction is open. -/
theorem runOn_run (call : TransactionCall) (connection : Connection τ) :
    call.run.runOn connection =
      let onStream := (call.streamCall connection.options connection.inTransaction).runOn
        connection.stream
      (onStream.1, { connection with
        stream := onStream.2
        inTransaction := call.noted onStream.1.isOk connection.inTransaction }) := by
  have hsingle : ∀ sql, bindScript sql .none = .ok [⟨sql, .none⟩] →
      (Connection.execute sql .none).runOn connection =
        (((executePlain sql).runOn connection.stream).1.map fun set => Summary.aggregate [set],
          { connection with stream := ((executePlain sql).runOn connection.stream).2 }) := by
    intro sql hbound
    rw [Connection.runOn_execute_of_single connection hbound, Connection.runOn_onStream,
      Call.runOn_map]
  cases call with
  | begin =>
    unfold run streamCall Connection.beginTransaction
    rw [Call.runOn_bind, hsingle "BEGIN" (eq_ok_of_toOption (by decide +kernel)), Call.runOn_map]
    cases (executePlain "BEGIN").runOn connection.stream with
    | mk result after => cases result <;> rfl
  | commit =>
    unfold run streamCall Connection.commit
    rw [Call.runOn_bind, hsingle "COMMIT" (eq_ok_of_toOption (by decide +kernel)), Call.runOn_map]
    cases (executePlain "COMMIT").runOn connection.stream with
    | mk result after => cases result <;> rfl
  | rollback =>
    unfold run streamCall Connection.rollback
    simp only
    rw [Call.runOn_bind, Call.runOn_observing,
      hsingle "ROLLBACK" (eq_ok_of_toOption (by decide +kernel)), Call.runOn_map]
    cases (executePlain "ROLLBACK").runOn connection.stream with
    | mk result after => cases result <;> rfl
  | batch statements transactional =>
    unfold run streamCall
    rw [Call.runOn_map, Call.runOn_map, Connection.runOn_batch_eq, Connection.runOn_onStream]
    rfl
  | script sql =>
    unfold run streamCall
    rw [Call.runOn_map, Call.runOn_map, Connection.runOn_executeScript_eq,
      Connection.runOn_onStream]
    rfl

end TransactionCall

end

/-! ## Exchanges -/

/-- The exchanges of a batch: that of its request, unless its statements cannot be put on the wire
or are too many. -/
def SentBatch (texts : List String) (transactional : Bool) (log : List Exchange) : Prop :=
  log = [] ∨ ∃ statements outcome, statements.map Statement.sql = texts.map some ∧
    log = [⟨[BatchPlan.request ⟨statements, transactional⟩], outcome⟩]

/-- The exchanges of a script, and whether it gives a result. -/
inductive ScriptExchanged (sql : String) (options : Options) (inTransaction : Bool) :
    List Exchange → Bool → Prop where
  /-- Nothing is sent of a script that cannot be bound or put on the wire or that is empty. -/
  | nothing {succeeded : Bool} : ScriptExchanged sql options inTransaction [] succeeded
  | single {statement : Statement} {text : String} {log : List Exchange} {succeeded : Bool} :
      text ∈ (splitStatements sql).1 → statement.sql = some text →
      Attempt [.execute statement] log succeeded →
      ScriptExchanged sql options inTransaction log succeeded
  | batch {log : List Exchange} {succeeded : Bool} :
      SentBatch (splitStatements sql).1
        (!inTransaction && !(splitStatements sql).1.any isTransactionControl) log →
      ScriptExchanged sql options inTransaction log succeeded
  | chunked {log : List Exchange} {succeeded : Bool} :
      options.chunkThresholdBytes < sql.utf8ByteSize → 2 ≤ (chunkedStatements sql).length →
      Attempt (scriptPlan (chunkedStatements sql) options.chunkSize (!inTransaction)) log
        succeeded →
      ScriptExchanged sql options inTransaction log succeeded

/-- The exchanges of a call, and whether it succeeds. -/
def TransactionCall.Exchanged (options : Options) (inTransaction : Bool) (log : List Exchange)
    (succeeded : Bool) : TransactionCall → Prop
  | begin => Attempt [plainRequest "BEGIN"] log succeeded
  | commit => Attempt [plainRequest "COMMIT"] log succeeded
  | rollback => Attempt [plainRequest "ROLLBACK"] log succeeded
  | batch statements transactional =>
    SentBatch (statements.map BatchStatement.sql) transactional log
  | script sql => ScriptExchanged sql options inTransaction log succeeded

section

variable {τ : Type} [Transport τ]

/-- A batch whose outcomes are reported is sent once at most. -/
theorem traces_outcomesCall (statements : List BatchStatement) (transactional keepRollback : Bool) :
    Traces (outcomesCall (τ := τ) statements transactional keepRollback)
      (outcomesCall statements transactional keepRollback) fun new _ =>
        SentBatch (statements.map BatchStatement.sql) transactional new := by
  unfold outcomesCall
  cases hbuilt : statements.mapM fun statement =>
      buildStatement (.text statement.sql) statement.arguments statement.wantRows with
  | error error => exact (Traces.ofExcept (.error error)).mono fun new _ h => .inl h.1
  | ok built =>
    have htexts : built.map Statement.sql = (statements.map BatchStatement.sql).map some := by
      rw [List.map_map]
      exact map_eq_of_mapM_eq_ok (fun _ _ => buildStatement_text) hbuilt
    by_cases hempty : built.isEmpty = true
    · simp only [Call.ofExcept_ok_bind, if_pos hempty]
      exact (Traces.pure []).mono fun new _ h => .inl h.1
    · simp only [Call.ofExcept_ok_bind, if_neg hempty]
      refine (Traces.batch ⟨built, transactional⟩ keepRollback fun fates =>
        fates.mapM StepFate.outcome).mono ?_
      rintro new _ (⟨_, rfl, _⟩ | ⟨_, outcome, rfl, _⟩)
      · exact .inl rfl
      · exact .inr ⟨built, outcome, htexts, rfl⟩

/-- A batch in which all must succeed is one exchange, if its statements can be put on the wire and
are not too many. -/
theorem traces_batchCall_of_built {statements : List BoundStatement} {wantRows : Bool}
    {built : List Statement} (hbuilt : statements.mapM (Connection.buildBound wantRows) = .ok built)
    {transactional : Bool} (hfits : BatchPlan.Fits ⟨built, transactional⟩) (keepRollback : Bool) :
    Traces (batchCall (τ := τ) statements wantRows transactional keepRollback)
      (batchCall statements wantRows transactional keepRollback) fun new _ =>
        ∃ outcome, new = [⟨[BatchPlan.request ⟨built, transactional⟩], outcome⟩] := by
  unfold batchCall
  rw [hbuilt]
  refine (Traces.batch ⟨built, transactional⟩ keepRollback fun fates =>
    collectResults ((statements.map BoundStatement.sql).zip fates)).mono ?_
  rintro new _ (⟨hlarge, _⟩ | ⟨_, outcome, rfl, _⟩)
  · exact absurd hfits hlarge
  · exact ⟨outcome, rfl⟩

/-- A batch in which all must succeed is sent once at most. -/
theorem traces_batchCall_sent (statements : List BoundStatement)
    (wantRows transactional keepRollback : Bool) :
    Traces (batchCall (τ := τ) statements wantRows transactional keepRollback)
      (batchCall statements wantRows transactional keepRollback) fun new _ =>
        SentBatch (statements.map BoundStatement.sql) transactional new := by
  unfold batchCall
  cases hbuilt : statements.mapM (Connection.buildBound wantRows) with
  | error error => exact (Traces.ofExcept (.error error)).mono fun new _ h => .inl h.1
  | ok built =>
    refine (Traces.batch ⟨built, transactional⟩ keepRollback fun fates =>
      collectResults ((statements.map BoundStatement.sql).zip fates)).mono ?_
    rintro new _ (⟨_, rfl, _⟩ | ⟨_, outcome, rfl, _⟩)
    · exact .inl rfl
    · exact .inr ⟨built, outcome, buildBound_texts hbuilt, rfl⟩

/-- A statement is one exchange, unless it cannot be put on the wire. -/
theorem traces_executeStatement (sql : String) (arguments : Arguments) (wantRows : Bool) :
    Traces (executeStatement (τ := τ) (.text sql) arguments wantRows)
      (executeStatement (.text sql) arguments wantRows) fun new result =>
        new = [] ∨ ∃ statement : Statement, statement.sql = some sql ∧
          Attempt [.execute statement] new result.isOk := by
  unfold executeStatement
  cases hbuilt : buildStatement (.text sql) arguments wantRows with
  | error error => exact (Traces.ofExcept (.error error)).mono fun new _ h => .inl h.1
  | ok statement =>
    simp only [Call.ofExcept_bind]
    exact (Traces.ask fun _ => expectExecute_isOk_iff).mono fun new result hattempt =>
      .inr ⟨statement, buildStatement_text hbuilt, hattempt⟩

/-- The statements of a script are one exchange, unless there are none. -/
theorem traces_boundCall {sql : String} {bound : List BoundStatement} (options : Options)
    (inTransaction : Bool) (hbound : bindScript sql .none = .ok bound) :
    Traces (boundCall (τ := τ) bound inTransaction options.schemaDb)
      (boundCall bound inTransaction options.schemaDb) fun new result =>
        ScriptExchanged sql options inTransaction new result.isOk := by
  have htexts := bindScript_texts hbound
  have hcontrol := bindScript_any_control hbound
  match bound with
  | [] =>
    refine (Traces.pure ({} : Summary)).mono ?_
    rintro _ _ ⟨rfl, _⟩
    exact .nothing
  | [statement] =>
    have hmem : statement.sql ∈ (splitStatements sql).1 := by simp [← htexts]
    have htrace := (traces_executeStatement (τ := τ) statement.sql statement.arguments
      false).withStatement statement.sql
    simp only [boundCall, bind_pure_comp]
    refine (htrace.map fun set => Summary.aggregate [set]).mono ?_
    rintro new _ ⟨_, ⟨outcome, hnew, rfl⟩, rfl⟩
    rw [isOk_map, isOk_mapError]
    rcases hnew with rfl | ⟨built, htext, hattempt⟩
    · exact .nothing
    · exact .single hmem htext hattempt
  | first :: second :: rest =>
    simp only [boundCall, hcontrol]
    refine ((traces_batchCall_sent (first :: second :: rest) false _ _).map
      Summary.aggregate).mono ?_
    rintro new result ⟨_, hsent, _⟩
    exact .batch (htexts ▸ hsent)

/-- A script that runs in chunks is one statement or a sequence of batches, unless it is empty. -/
theorem traces_chunkedCall {sql : String} {options : Options} (inTransaction : Bool)
    (hlarge : options.chunkThresholdBytes < sql.utf8ByteSize) :
    Traces (executeChunked (τ := τ) sql options.chunkSize (!inTransaction))
      (executeChunked sql options.chunkSize (!inTransaction)) fun new result =>
        ScriptExchanged sql options inTransaction new result.isOk := by
  by_cases hmany : 2 ≤ (chunkedStatements sql).length
  · exact (traces_chunkedScript _ _ hmany).mono fun new result => .chunked hlarge hmany
  · unfold executeChunked
    rcases hstatements : chunkedStatements sql with _ | ⟨only, _ | ⟨second, rest⟩⟩
    · refine (Traces.pure ({} : Summary)).mono ?_
      rintro _ _ ⟨rfl, _⟩
      exact .nothing
    · have hmem : only ∈ (splitStatements sql).1 :=
        (List.mem_filter.mp (hstatements ▸ List.mem_singleton_self only :
          only ∈ chunkedStatements sql)).1
      exact ((traces_executePlain only).attempt_bind fun set =>
        traces_pure (Summary.aggregate [set])).mono fun new result => .single hmem rfl
    · rw [hstatements] at hmany
      exact absurd (by simp) hmany

/-- Executing a script makes the exchanges of its script. -/
theorem traces_scriptCall (sql : String) (options : Options) (inTransaction : Bool) :
    Traces (scriptCall (τ := τ) sql options inTransaction) (scriptCall sql options inTransaction)
      fun new result => ScriptExchanged sql options inTransaction new result.isOk := by
  unfold scriptCall
  by_cases hlarge : options.chunkThresholdBytes < sql.utf8ByteSize
  · rw [if_pos hlarge, if_pos hlarge]
    exact traces_chunkedCall inTransaction hlarge
  · rw [if_neg hlarge, if_neg hlarge]
    cases hbound : bindScript sql .none with
    | error error =>
      refine (Traces.ofExcept (.error (error.withStatement sql))).mono ?_
      rintro _ _ ⟨rfl, _⟩
      exact .nothing
    | ok bound => exact traces_boundCall options inTransaction hbound

/-- A call makes its exchanges on a logged stream as on the stream itself. -/
theorem TransactionCall.traces_streamCall (call : TransactionCall) (options : Options)
    (inTransaction : Bool) :
    Traces (call.streamCall (τ := τ) options inTransaction) (call.streamCall options inTransaction)
      fun new result => call.Exchanged options inTransaction new result.isOk := by
  have hplain : ∀ sql, Traces (τ := τ) ((fun _ => ()) <$> executePlain sql)
      ((fun _ => ()) <$> executePlain sql) fun new result =>
        Attempt [plainRequest sql] new result.isOk := by
    intro sql
    refine ((traces_executePlain sql).map fun _ => ()).mono ?_
    rintro new _ ⟨outcome, hattempt, rfl⟩
    rwa [isOk_map]
  cases call with
  | begin => exact hplain "BEGIN"
  | commit => exact hplain "COMMIT"
  | rollback => exact hplain "ROLLBACK"
  | batch statements transactional =>
    exact ((traces_outcomesCall statements transactional options.schemaDb).map fun _ => ()).mono
      fun new _ ⟨_, hsent, _⟩ => hsent
  | script sql =>
    refine ((traces_scriptCall sql options inTransaction).map fun _ => ()).mono ?_
    rintro new _ ⟨outcome, hexchanged, rfl⟩
    rw [isOk_map]
    exact hexchanged

/-! ## Several calls -/

/-- The connection behind a call. -/
def TransactionCall.after (call : TransactionCall) (connection : Connection τ) : Connection τ :=
  (call.run.runOn connection).2

/-- What a connection notes depends on whether the call succeeded. -/
theorem TransactionCall.inTransaction_after (call : TransactionCall) (connection : Connection τ) :
    (call.after connection).inTransaction =
      call.noted (call.run.runOn connection).1.isOk connection.inTransaction := by
  rw [after, runOn_run]

/-- On a logged connection a call does what it does on the connection itself, and its exchanges are
noted behind those noted before. -/
theorem TransactionCall.after_withLog (call : TransactionCall) (connection : Connection τ)
    (log : List Exchange) :
    ∃ new, call.Exchanged connection.options connection.inTransaction new
        (call.run.runOn connection).1.isOk ∧
      call.after (connection.withLog log) = (call.after connection).withLog (log ++ new) := by
  obtain ⟨new, hnew, hlogged⟩ :=
    call.traces_streamCall connection.options connection.inTransaction connection.stream log
  rw [runOn_run]
  refine ⟨new, hnew, ?_⟩
  rw [after, after, runOn_run, runOn_run]
  simp only [Connection.withLog, hlogged]

/-- The connection behind several calls. -/
def connectionAfter (calls : List TransactionCall) (connection : Connection τ) : Connection τ :=
  calls.foldl (fun connection call => call.after connection) connection

@[simp] theorem connectionAfter_nil (connection : Connection τ) :
    connectionAfter [] connection = connection :=
  rfl

@[simp] theorem connectionAfter_concat (calls : List TransactionCall) (call : TransactionCall)
    (connection : Connection τ) :
    connectionAfter (calls ++ [call]) connection = call.after (connectionAfter calls connection) := by
  rw [connectionAfter, List.foldl_append]
  rfl

/-- The exchanges of several calls. -/
def exchangesOf (calls : List TransactionCall) (connection : Connection τ) : List Exchange :=
  (connectionAfter calls (connection.withLog [])).stream.log

@[simp] theorem exchangesOf_nil (connection : Connection τ) : exchangesOf [] connection = [] :=
  rfl

/-- On a logged connection calls do what they do on the connection itself. -/
theorem connectionAfter_withLog (calls : List TransactionCall) (connection : Connection τ) :
    connectionAfter calls (connection.withLog []) =
      (connectionAfter calls connection).withLog (exchangesOf calls connection) := by
  rw [exchangesOf]
  induction calls using List.reverseRecOn with
  | nil => rfl
  | append_singleton calls call ih =>
    rw [connectionAfter_concat, connectionAfter_concat, ih]
    obtain ⟨new, _, hafter⟩ := call.after_withLog (connectionAfter calls connection)
      (connectionAfter calls (connection.withLog [])).stream.log
    rw [hafter]
    rfl

/-- The exchanges of a further call come behind those of the calls before it. -/
theorem exchangesOf_concat (calls : List TransactionCall) (call : TransactionCall)
    (connection : Connection τ) :
    let reached := connectionAfter calls connection
    ∃ new, call.Exchanged reached.options reached.inTransaction new
        (call.run.runOn reached).1.isOk ∧
      exchangesOf (calls ++ [call]) connection = exchangesOf calls connection ++ new := by
  obtain ⟨new, hnew, hafter⟩ :=
    call.after_withLog (connectionAfter calls connection) (exchangesOf calls connection)
  refine ⟨new, hnew, ?_⟩
  rw [exchangesOf, connectionAfter_concat, connectionAfter_withLog, hafter]
  rfl

namespace StreamInvariant

variable {I : τ → Prop}

/-- A call of bound statements keeps what each exchange keeps. -/
theorem boundCall (hI : StreamInvariant I) (statements : List BoundStatement)
    (inTransaction keepRollback : Bool) :
    Call.Keeps I (boundCall statements inTransaction keepRollback) := by
  unfold SqlStream.boundCall
  split
  · exact .pure ({} : Summary)
  · exact ((hI.executeStatement _ _ _).withStatement _).bind fun set =>
      .pure (Summary.aggregate [set])
  · exact Call.Keeps.map ((Call.Keeps.ofExcept _).bind fun built =>
      (hI.executeBatch _ _).bind fun _ => .ofExcept _) _

/-- Executing a script keeps what each exchange keeps. -/
theorem scriptCall (hI : StreamInvariant I) (sql : String) (options : Options)
    (inTransaction : Bool) : Call.Keeps I (scriptCall sql options inTransaction) := by
  unfold SqlStream.scriptCall
  by_cases hlarge : options.chunkThresholdBytes < sql.utf8ByteSize
  · rw [if_pos hlarge]
    exact hI.executeChunked _ _ _
  · rw [if_neg hlarge]
    exact ((Call.Keeps.ofExcept _).withStatement sql).bind fun statements => hI.boundCall _ _ _

/-- A batch for its outcomes keeps what each exchange keeps. -/
theorem outcomesCall (hI : StreamInvariant I) (statements : List BatchStatement)
    (transactional keepRollback : Bool) :
    Call.Keeps I (outcomesCall statements transactional keepRollback) := by
  refine (Call.Keeps.ofExcept _).bind fun built => ?_
  by_cases hempty : built.isEmpty = true
  · simp only [if_pos hempty]
    exact .pure []
  · simp only [if_neg hempty]
    exact (hI.executeBatch _ _).bind fun _ => .ofExcept _

/-- What sending and closing keep, a call keeps. -/
theorem after (hI : StreamInvariant I) (call : TransactionCall) (connection : Connection τ)
    (h : I connection.stream) : I (call.after connection).stream := by
  have hstream : ∀ options inTransaction, Call.Keeps I (call.streamCall options inTransaction) := by
    intro options inTransaction
    cases call with
    | begin => exact (hI.executePlain _).map _
    | commit => exact (hI.executePlain _).map _
    | rollback => exact (hI.executePlain _).map _
    | batch statements transactional => exact (hI.outcomesCall _ _ _).map _
    | script sql => exact (hI.scriptCall _ _ _).map _
  rw [TransactionCall.after, TransactionCall.runOn_run]
  exact hstream _ _ connection.stream h

/-- What sending and closing keep, several calls keep. -/
theorem connectionAfter (hI : StreamInvariant I) (calls : List TransactionCall)
    (connection : Connection τ) (h : I connection.stream) :
    I (connectionAfter calls connection).stream := by
  induction calls using List.reverseRecOn with
  | nil => exact h
  | append_singleton calls call ih =>
    rw [connectionAfter_concat]
    exact hI.after call _ ih

end StreamInvariant

end

end SqlStream
