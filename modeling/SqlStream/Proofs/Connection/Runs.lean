import SqlStream.Proofs.Connection.TransactionCalls
import SqlStream.Proofs.Stream.SameCall

/-!
# Runs of a connection

Everything that a caller can do with a connection. Each call comes to one call on its stream and to
what it notes beside the stream (`ConnectionCall.runOn_run`), and on every transport it is the same
call (`ConnectionCall.sameCall`).
-/

namespace SqlStream

open SqlStream.Sql SqlStream.Wire

section

variable {τ υ : Type} [Transport τ] [Transport υ]

/-! ## Calls on a stream -/

/-- Runs statements with their arguments: one by itself, more as a batch that is no transaction. -/
def boundRun (statements : List BoundStatement) (wantRows keepRollback : Bool) :
    Call τ (List ResultSet) :=
  match statements with
  | [] => return []
  | [statement] => do
    let set ← Call.withStatement statement.sql
      (executeStatement (.text statement.sql) statement.arguments wantRows)
    return [set]
  | statements => batchCall statements wantRows false keepRollback

/-- Runs a script with its arguments. -/
def argumentsCall (sql : String) (arguments : Arguments) (wantRows keepRollback : Bool) :
    Call τ (List ResultSet) := do
  let statements ← Call.withStatement sql (Call.ofExcept (bindScript sql arguments))
  boundRun statements wantRows keepRollback

/-- A script with its arguments is one call on the stream. -/
theorem Connection.runOn_run_eq (connection : Connection τ) (sql : String) (arguments : Arguments)
    (wantRows : Bool) :
    (Connection.run sql arguments wantRows).runOn connection =
      (onStream (argumentsCall sql arguments wantRows
        connection.options.schemaDb)).runOn connection := by
  unfold argumentsCall Connection.run
  rw [onStream_bind]
  show (Connection.bind sql arguments >>= _).runOn connection =
    (Connection.bind sql arguments >>= _).runOn connection
  cases hbound : bindScript sql arguments with
  | error error =>
    rw [Call.runOn_bind_error (runOn_bind_error hbound),
      Call.runOn_bind_error (runOn_bind_error hbound)]
  | ok bound =>
    rw [Call.runOn_bind_ok (runOn_bind_ok hbound), Call.runOn_bind_ok (runOn_bind_ok hbound)]
    match bound with
    | [] => rfl
    | [statement] =>
      simp only [boundRun, onStream_bind, onStream_pure]
      rfl
    | first :: second :: rest => exact runOn_runBatch connection _ _ _

/-! ## The same on all transports -/

/-- Executing a statement is the same call over any transport. -/
theorem sameCall_executeStatement {P : Error.Origin → Prop} {origin : Error.Origin}
    (horigin : P origin) (hreply : P .reply) {source : SqlSource} {arguments : Arguments}
    {wantRows : Bool} (hbuilt : FailsAt origin (buildStatement source arguments wantRows)) :
    SameCall P (executeStatement (τ := τ) source arguments wantRows)
      (executeStatement (τ := υ) source arguments wantRows) :=
  (SameCall.ofExcept horigin hbuilt).bind fun _ => (SameCall.send _).bind fun _ =>
    (SameCall.ofExcept hreply (expectExecute_failsAt _)).bind fun _ =>
      .ofExcept hreply (decodeResult_failsAt _)

/-- Of statements without arguments only the reply is looked at. -/
theorem sameCall_executePlain (sql : String) :
    SameCall (· = .reply) (executePlain (τ := τ) sql) (executePlain (τ := υ) sql) := by
  have hbuilt : FailsAt .reply (buildStatement (.text sql) .none false) := .ok _
  exact (sameCall_executeStatement (P := (· = .reply)) rfl rfl hbuilt).withStatement sql

/-- Executing a batch is the same call over any transport. -/
theorem sameCall_executeBatch {P : Error.Origin → Prop} {origin : Error.Origin}
    (horigin : P origin) (hreply : P .reply) {plan : BatchPlan}
    (hbuilt : FailsAt origin plan.build) (keepRollback : Bool) :
    SameCall P (executeBatch (τ := τ) plan keepRollback)
      (executeBatch (τ := υ) plan keepRollback) :=
  (SameCall.ofExcept horigin hbuilt).bind fun _ => (SameCall.send _).bind fun _ =>
    (SameCall.ofExcept hreply (expectBatch_failsAt _)).bind fun _ =>
      .ofExcept hreply (callerFates_failsAt _ _ _)

/-- Carrying out the pieces of a script is the same call over any transport. -/
theorem sameCall_runChunks (summary : Summary) (pieces : List (List String)) :
    SameCall (· = .reply) (runChunks (τ := τ) summary pieces)
      (runChunks (τ := υ) summary pieces) := by
  induction pieces generalizing summary with
  | nil => exact .pure summary
  | cons chunk pieces ih =>
    have hbuilt : FailsAt .reply
        (chunk.mapM fun sql => buildStatement (.text sql) .none false) :=
      .mapM (fun _ => .ok _) chunk
    have hchunk : SameCall (· = .reply) (runChunk (τ := τ) chunk) (runChunk (τ := υ) chunk) :=
      (SameCall.ofExcept (P := (· = .reply)) rfl hbuilt).bind fun built =>
        have hplan : FailsAt .reply (BatchPlan.build ⟨built, false⟩) := .ok _
        (sameCall_executeBatch (P := (· = .reply)) rfl rfl hplan false).bind fun fates =>
          .ofExcept rfl (collectResults_failsAt (chunk.zip fates))
    exact hchunk.bind fun sets => ih (sets.foldl Summary.add summary)

/-- Of scripts that run in chunks only the replies are looked at. -/
theorem sameCall_executeChunked (sql : String) (chunkSize : Nat) (wrap : Bool) :
    SameCall (· = .reply) (executeChunked (τ := τ) sql chunkSize wrap)
      (executeChunked (τ := υ) sql chunkSize wrap) := by
  have hchunks := fun statements => sameCall_runChunks (τ := τ) (υ := υ) {}
    (chunks chunkSize statements)
  have hscript : ∀ statements, SameCall (· = .reply)
      (runScript (τ := τ) statements chunkSize wrap)
      (runScript (τ := υ) statements chunkSize wrap) := by
    intro statements
    unfold runScript
    cases wrap with
    | false =>
      simp only [if_neg Bool.false_ne_true]
      exact (hchunks statements).bind .pure
    | true =>
      simp only [if_true]
      exact (sameCall_executePlain "BEGIN").bind fun _ => (hchunks statements).bind fun summary =>
        (sameCall_executePlain "COMMIT").bind fun _ => .pure summary
  unfold executeChunked
  split
  · exact .pure ({} : Summary)
  · exact (sameCall_executePlain _).bind fun set => .pure (Summary.aggregate [set])
  · exact (hscript _).closingOnError

/-- A batch call is the same call over any transport. -/
theorem sameCall_batchCall (statements : List BoundStatement)
    (wantRows transactional keepRollback : Bool) :
    SameCall (· ≠ .stream) (batchCall (τ := τ) statements wantRows transactional keepRollback)
      (batchCall (τ := υ) statements wantRows transactional keepRollback) := by
  have hbuilt : FailsAt .asked (statements.mapM (Connection.buildBound wantRows)) :=
    .mapM (buildBound_failsAt wantRows) statements
  exact (SameCall.ofExcept (by decide) hbuilt).bind fun built =>
    (sameCall_executeBatch (by decide) (by decide) (build_failsAt _) _).bind fun _ =>
      .ofExcept (by decide) (collectResults_failsAt _)

/-- Executing a bound statement is the same call over any transport. -/
theorem sameCall_boundStatement (statement : BoundStatement) (wantRows : Bool) :
    SameCall (· ≠ .stream)
      (Call.withStatement statement.sql (executeStatement (τ := τ) (.text statement.sql)
        statement.arguments wantRows))
      (Call.withStatement statement.sql (executeStatement (τ := υ) (.text statement.sql)
        statement.arguments wantRows)) :=
  (sameCall_executeStatement (by decide) (by decide)
    (buildStatement_failsAt _ _ _)).withStatement statement.sql

/-- Binding a script is the same call over any transport. -/
theorem sameCall_bind (sql : String) (arguments : Arguments) :
    SameCall (τ := τ) (υ := υ) (· ≠ .stream)
      (Call.withStatement sql (Call.ofExcept (bindScript sql arguments)))
      (Call.withStatement sql (Call.ofExcept (bindScript sql arguments))) :=
  (SameCall.ofExcept (by decide) (bindScript_failsAt sql arguments)).withStatement sql

/-- A call with arguments is the same call over any transport. -/
theorem sameCall_argumentsCall (sql : String) (arguments : Arguments)
    (wantRows keepRollback : Bool) :
    SameCall (· ≠ .stream) (argumentsCall (τ := τ) sql arguments wantRows keepRollback)
      (argumentsCall (τ := υ) sql arguments wantRows keepRollback) := by
  refine (sameCall_bind sql arguments).bind fun statements => ?_
  unfold boundRun
  split
  · exact .pure []
  · exact (sameCall_boundStatement _ _).bind fun set => .pure [set]
  · exact sameCall_batchCall _ _ _ _

/-- Executing a script is the same call over any transport. -/
theorem sameCall_scriptCall (sql : String) (options : Options) (inTransaction : Bool) :
    SameCall (· ≠ .stream) (scriptCall (τ := τ) sql options inTransaction)
      (scriptCall (τ := υ) sql options inTransaction) := by
  unfold scriptCall
  split
  · exact (sameCall_executeChunked sql _ _).mono fun _ horigin => by simp [horigin]
  · refine (sameCall_bind sql .none).bind fun statements => ?_
    unfold boundCall
    split
    · exact .pure ({} : Summary)
    · exact (sameCall_boundStatement _ _).bind fun set => .pure (Summary.aggregate [set])
    · exact (sameCall_batchCall _ _ _ _).map Summary.aggregate

/-- A batch for its outcomes is the same call over any transport. -/
theorem sameCall_outcomesCall (statements : List BatchStatement)
    (transactional keepRollback : Bool) :
    SameCall (· ≠ .stream) (outcomesCall (τ := τ) statements transactional keepRollback)
      (outcomesCall (τ := υ) statements transactional keepRollback) := by
  have hbuilt : FailsAt .asked (statements.mapM fun statement =>
      buildStatement (.text statement.sql) statement.arguments statement.wantRows) :=
    .mapM (fun _ => buildStatement_failsAt _ _ _) statements
  refine (SameCall.ofExcept (by decide) hbuilt).bind fun built => ?_
  split
  · exact .pure []
  · exact (sameCall_executeBatch (by decide) (by decide) (build_failsAt _) _).bind fun fates =>
      .ofExcept (by decide) (.mapM outcome_failsAt fates)

end

/-! ## Calls of a caller -/

/-- A call of a caller. -/
inductive ConnectionCall where
  | query (sql : String) (arguments : Arguments)
  | execute (sql : String) (arguments : Arguments)
  | executeScript (sql : String)
  | batch (statements : List BatchStatement) (transactional : Bool)
  | beginTransaction
  | commit
  | rollback
  | prepare (sql : String)
  | storeSql (sql : String)
  | executeStored (sqlId : Int32) (arguments : Arguments) (wantRows : Bool)
  | closeSql (sqlId : Int32)
  | close
  | withOptions (options : Options)

/-- What a connection keeps beside its stream. -/
structure ConnectionNotes where
  options : Options
  inTransaction : Bool
  nextSqlId : Int32

section

variable {τ υ : Type}

/-- What a connection keeps beside its stream. -/
def Connection.notes (connection : Connection τ) : ConnectionNotes :=
  ⟨connection.options, connection.inTransaction, connection.nextSqlId⟩

/-- The connection with these notes and this stream. -/
def ConnectionNotes.on (notes : ConnectionNotes) (stream : τ) : Connection τ :=
  ⟨stream, notes.options, notes.inTransaction, notes.nextSqlId⟩

@[simp] theorem ConnectionNotes.stream_on (notes : ConnectionNotes) (stream : τ) :
    (notes.on stream).stream = stream :=
  rfl

@[simp] theorem ConnectionNotes.notes_on (notes : ConnectionNotes) (stream : τ) :
    (notes.on stream).notes = notes :=
  rfl

/-- A script with its arguments leaves the notes of a connection, whatever is made of its result. -/
theorem Connection.runOn_run_discarding {α : Type} [Transport τ] (connection : Connection τ)
    (sql : String) (arguments : Arguments) (wantRows : Bool) (f : List ResultSet → α) :
    ((fun _ => ()) <$> f <$> Connection.run sql arguments wantRows).runOn connection =
      let onStream := ((fun _ => ()) <$> argumentsCall sql arguments wantRows
        connection.notes.options.schemaDb).runOn connection.stream
      (onStream.1, connection.notes.on onStream.2) := by
  rw [Call.runOn_map, Call.runOn_map, Call.runOn_map, runOn_run_eq, runOn_onStream]
  simp only [notes]
  cases (argumentsCall sql arguments wantRows connection.options.schemaDb).runOn
    connection.stream with
  | mk result after => cases result <;> rfl

namespace ConnectionCall

/-- What a connection notes behind a call. -/
def noted (succeeded : Bool) (notes : ConnectionNotes) : ConnectionCall → ConnectionNotes
  | beginTransaction =>
    { notes with inTransaction := if succeeded then true else notes.inTransaction }
  | commit => { notes with inTransaction := if succeeded then false else notes.inTransaction }
  | rollback | close => { notes with inTransaction := false }
  | storeSql _ => { notes with nextSqlId := notes.nextSqlId + 1 }
  | withOptions options => { notes with options }
  | _ => notes

variable [Transport τ] [Transport υ]

/-- What a call does. What it gives is left out, except whether it fails. -/
def run : ConnectionCall → Call (Connection τ) Unit
  | query sql arguments => (fun _ => ()) <$> Connection.query sql arguments
  | execute sql arguments => (fun _ => ()) <$> Connection.execute sql arguments
  | executeScript sql => (fun _ => ()) <$> Connection.executeScript sql
  | batch statements transactional => (fun _ => ()) <$> Connection.batch statements transactional
  | beginTransaction => Connection.beginTransaction
  | commit => Connection.commit
  | rollback => Connection.rollback
  | prepare sql => (fun _ => ()) <$> Call.ofExcept (SqlStream.prepare sql)
  | storeSql sql => (fun _ => ()) <$> Connection.storeSql sql
  | executeStored sqlId arguments wantRows =>
    (fun _ => ()) <$> Connection.executeStored sqlId arguments wantRows
  | closeSql sqlId => Connection.closeSql sqlId
  | close => modify Connection.close
  | withOptions options => modify fun connection => connection.withOptions options

/-- What a call does on the stream. -/
def streamCall (notes : ConnectionNotes) : ConnectionCall → Call τ Unit
  | query sql arguments =>
    (fun _ => ()) <$> argumentsCall sql arguments true notes.options.schemaDb
  | execute sql arguments =>
    (fun _ => ()) <$> argumentsCall sql arguments false notes.options.schemaDb
  | executeScript sql => (fun _ => ()) <$> scriptCall sql notes.options notes.inTransaction
  | batch statements transactional =>
    (fun _ => ()) <$> outcomesCall statements transactional notes.options.schemaDb
  | beginTransaction => (fun _ => ()) <$> executePlain "BEGIN"
  | commit => (fun _ => ()) <$> executePlain "COMMIT"
  | rollback => (fun _ => ()) <$> executePlain "ROLLBACK"
  | prepare sql => (fun _ => ()) <$> Call.ofExcept (SqlStream.prepare sql)
  | storeSql sql =>
    (fun _ => ()) <$> Call.withStatement sql (Transport.send [.storeSql sql notes.nextSqlId])
  | executeStored sqlId arguments wantRows =>
    (fun _ => ()) <$> executeStatement (.stored sqlId) arguments wantRows
  | closeSql sqlId => (fun _ => ()) <$> Transport.send [.closeSql sqlId]
  | close => modify Transport.close
  | withOptions options => modify (Transport.configure options)

/-- A call is one call on the stream, and a note of what it changes beside the stream. -/
theorem runOn_run (call : ConnectionCall) (connection : Connection τ) :
    call.run.runOn connection =
      let onStream := (call.streamCall connection.notes).runOn connection.stream
      (onStream.1, (call.noted onStream.1.isOk connection.notes).on onStream.2) := by
  cases call with
  | query sql arguments =>
    simp only [run, Connection.query, bind_pure_comp]
    exact connection.runOn_run_discarding sql arguments true _
  | execute sql arguments =>
    simp only [run, Connection.execute, bind_pure_comp]
    exact connection.runOn_run_discarding sql arguments false _
  | executeScript sql => exact (TransactionCall.script sql).runOn_run connection
  | batch statements transactional =>
    exact (TransactionCall.batch statements transactional).runOn_run connection
  | beginTransaction => exact TransactionCall.begin.runOn_run connection
  | commit => exact TransactionCall.commit.runOn_run connection
  | rollback => exact TransactionCall.rollback.runOn_run connection
  | prepare sql =>
    simp only [run, streamCall, Call.runOn_map, Call.runOn_ofExcept]
    rfl
  | storeSql sql =>
    simp only [run, streamCall, Connection.storeSql]
    rw [Call.runOn_map, Call.runOn_map, Call.runOn_get_bind, Call.runOn_bind, Call.runOn_modify]
    simp only [Call.runOn_bind, Call.runOn_withStatement, Connection.runOn_onStream,
      Connection.notes]
    cases (Transport.send [.storeSql sql connection.nextSqlId]).runOn connection.stream with
    | mk result after => cases result <;> rfl
  | executeStored sqlId arguments wantRows =>
    simp only [run, streamCall, Connection.executeStored]
    rw [Call.runOn_map, Call.runOn_map, Connection.runOn_onStream]
    rfl
  | closeSql sqlId =>
    simp only [run, streamCall, Connection.closeSql]
    rw [Call.runOn_map, Call.runOn_bind, Connection.runOn_onStream]
    cases (Transport.send [.closeSql sqlId]).runOn connection.stream with
    | mk result after => cases result <;> rfl
  | close => rfl
  | withOptions options => rfl

/-- A call is the same on all transports. -/
theorem sameCall (call : ConnectionCall) (notes : ConnectionNotes) :
    SameCall (· ≠ .stream) (call.streamCall (τ := τ) notes) (call.streamCall (τ := υ) notes) := by
  have hplain : ∀ sql, SameCall (· ≠ .stream) ((fun _ => ()) <$> executePlain (τ := τ) sql)
      ((fun _ => ()) <$> executePlain (τ := υ) sql) := fun sql =>
    ((sameCall_executePlain sql).mono fun _ horigin => by simp [horigin]).map _
  cases call with
  | query sql arguments => exact (sameCall_argumentsCall _ _ _ _).map _
  | execute sql arguments => exact (sameCall_argumentsCall _ _ _ _).map _
  | executeScript sql => exact (sameCall_scriptCall _ _ _).map _
  | batch statements transactional => exact (sameCall_outcomesCall _ _ _).map _
  | beginTransaction => exact hplain "BEGIN"
  | commit => exact hplain "COMMIT"
  | rollback => exact hplain "ROLLBACK"
  | prepare sql => exact (SameCall.ofExcept (by decide) (prepare_failsAt sql)).map _
  | storeSql sql => exact ((SameCall.send _).withStatement sql).map _
  | executeStored sqlId arguments wantRows =>
    exact (sameCall_executeStatement (by decide) (by decide) (buildStatement_failsAt _ _ _)).map _
  | closeSql sqlId => exact (SameCall.send _).map _
  | close => exact .close
  | withOptions options => exact .configure options

/-- The connection behind a call. -/
def after (call : ConnectionCall) (connection : Connection τ) : Connection τ :=
  (call.run.runOn connection).2

/-- The exchanges that a call tries. -/
def exchanges (call : ConnectionCall) (connection : Connection τ) : List Exchange :=
  (call.after (connection.withLog [])).stream.log

end ConnectionCall

/-- The connection behind several calls. -/
def Connection.afterCalls [Transport τ] (calls : List ConnectionCall) (connection : Connection τ) :
    Connection τ :=
  calls.foldl (fun connection call => call.after connection) connection

/-- Two runs of calls are one run after the other. -/
theorem Connection.afterCalls_append [Transport τ] (calls later : List ConnectionCall)
    (connection : Connection τ) :
    connection.afterCalls (calls ++ later) = (connection.afterCalls calls).afterCalls later :=
  List.foldl_append

/-- One more call acts on what the run leaves. -/
theorem Connection.afterCalls_concat [Transport τ] (calls : List ConnectionCall)
    (call : ConnectionCall) (connection : Connection τ) :
    connection.afterCalls (calls ++ [call]) = call.after (connection.afterCalls calls) :=
  connection.afterCalls_append calls [call]

end

end SqlStream
