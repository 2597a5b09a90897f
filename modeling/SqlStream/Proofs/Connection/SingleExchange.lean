import SqlStream.Proofs.Connection.Runs

/-!
# Calls of one exchange

All calls but scripts in chunks ask the server once at most. Such a call fails because of what it is
asked for, and then it has not touched the stream, or it fails behind its only exchange, and then it
leaves the stream as the exchange did (`Call.AsksOnce`).
-/

namespace SqlStream

open SqlStream.Sql SqlStream.Wire

/-- Where a call finds the error that it fails with behind an exchange: where the exchange failed,
or in the answers that came. -/
def originBehind : Except Error (List Response) → Error.Origin
  | .error error => error.origin
  | .ok _ => .reply

/-- What is found in answers that came is found in a reply. -/
theorem originBehind_of_failsAt {outcome : Except Error (List Response)}
    (h : FailsAt .reply outcome) : originBehind outcome = .reply := by
  cases outcome with
  | error error => exact h error rfl
  | ok responses => rfl

section

variable {τ : Type} [Transport τ]

/-- An exchange finds nothing wrong with what is asked for. -/
theorem originBehind_ne_asked [FinalTransport τ] (requests : List Request) (stream : τ) :
    originBehind ((Transport.send requests).runOn stream).1 ≠ .asked := by
  cases hsent : ((Transport.send requests).runOn stream).1 with
  | error error => exact FinalTransport.origin_ne_asked hsent
  | ok responses => exact nofun

/-- True of a call that fails before it has touched the stream, or behind one exchange, in which the
end of the stream was not asked for. -/
def Call.AsksOnce {α : Type} (call : Call τ α) : Prop :=
  ∀ stream error, (call.runOn stream).1 = .error error →
    (error.origin = .asked ∧ (call.runOn stream).2 = stream) ∨
      ∃ requests, Session.closesStream requests = false ∧
        error.origin = originBehind ((Transport.send requests).runOn stream).1 ∧
        (call.runOn stream).2 = ((Transport.send requests).runOn stream).2

namespace Call.AsksOnce

variable {α β : Type} {call : Call τ α}

/-- What is looked at before anything is sent. -/
theorem ofExcept {result : Except Error α} (h : FailsAt .asked result) :
    AsksOnce (Call.ofExcept (σ := τ) result) :=
  fun _ _ hfailed => .inl ⟨h _ hfailed, rfl⟩

/-- A value asks nothing. -/
theorem pure (a : α) : AsksOnce (pure a : Call τ α) :=
  ofExcept (.ok a)

/-- What is found without asking may stand before a call that asks at most once. -/
theorem ofExcept_bind {result : Except Error α} (h : FailsAt .asked result) {next : α → Call τ β}
    (hnext : ∀ a, AsksOnce (next a)) : AsksOnce (Call.ofExcept result >>= next) := by
  cases result with
  | error error => exact ofExcept (.error (h error rfl))
  | ok a => exact hnext a

/-- One exchange, and a look at the answers. -/
theorem ask {requests : List Request} (hkeeps : Session.closesStream requests = false)
    {read : List Response → Except Error α} (hread : ∀ responses, FailsAt .reply (read responses)) :
    AsksOnce (Transport.send (τ := τ) requests >>= fun responses =>
      Call.ofExcept (read responses)) := by
  intro stream error hfailed
  refine .inr ⟨requests, hkeeps, ?_⟩
  cases hsend : (Transport.send requests).runOn stream with
  | mk outcome after =>
    cases outcome with
    | error cause =>
      rw [Call.runOn_bind_error hsend] at hfailed ⊢
      cases hfailed
      exact ⟨rfl, rfl⟩
    | ok responses =>
      rw [Call.runOn_bind_ok hsend] at hfailed ⊢
      exact ⟨hread responses error hfailed, rfl⟩

/-- Sending requests that do not close the stream asks once. -/
theorem send {requests : List Request} (hkeeps : Session.closesStream requests = false) :
    AsksOnce (Transport.send (τ := τ) requests) := by
  rw [← bind_pure (Transport.send requests)]
  exact ask hkeeps .ok

theorem map (h : AsksOnce call) (f : α → β) : AsksOnce (f <$> call) := by
  intro stream error hfailed
  rw [Call.runOn_map] at hfailed ⊢
  exact h stream error (map_eq_error_iff.mp hfailed)

theorem withStatement (h : AsksOnce call) (sql : String) :
    AsksOnce (Call.withStatement sql call) := by
  intro stream error hfailed
  rw [Call.runOn_withStatement] at hfailed ⊢
  obtain ⟨cause, hcause, rfl⟩ := mapError_eq_error_iff.mp hfailed
  rw [Error.origin_withStatement]
  exact h stream cause hcause

end Call.AsksOnce

/-! ## Statements and batches -/

/-- Executing a statement asks once. -/
theorem asksOnce_executeStatement (source : SqlSource) (arguments : Arguments) (wantRows : Bool) :
    Call.AsksOnce (executeStatement (τ := τ) source arguments wantRows) := by
  refine .ofExcept_bind (buildStatement_failsAt source arguments wantRows) fun statement => ?_
  simp only [Call.ofExcept_bind]
  exact .ask rfl fun responses => (expectExecute_failsAt responses).bind decodeResult_failsAt

theorem asksOnce_executePlain (sql : String) : Call.AsksOnce (executePlain (τ := τ) sql) :=
  (asksOnce_executeStatement _ _ _).withStatement sql

/-- A batch, and a look at the fates of its statements. -/
theorem asksOnce_executeBatch {α : Type} (plan : BatchPlan) (keepRollback : Bool)
    {read : List StepFate → Except Error α} (hread : ∀ fates, FailsAt .reply (read fates)) :
    Call.AsksOnce (executeBatch (τ := τ) plan keepRollback >>= fun fates =>
      Call.ofExcept (read fates)) := by
  by_cases hfits : plan.Fits
  · simp only [executeBatch_of_fits hfits, bind_assoc, Call.ofExcept_bind]
    exact .ask rfl fun responses => (expectBatch_failsAt responses).bind fun result =>
      (callerFates_failsAt plan result keepRollback).bind hread
  · simp only [executeBatch_of_not_fits hfits, Call.ofExcept_bind]
    exact .ofExcept (.error rfl)

/-- A batch call asks at most once. -/
theorem asksOnce_batchCall (statements : List BoundStatement)
    (wantRows transactional keepRollback : Bool) :
    Call.AsksOnce (batchCall (τ := τ) statements wantRows transactional keepRollback) :=
  .ofExcept_bind (.mapM (buildBound_failsAt wantRows) statements) fun built =>
    asksOnce_executeBatch ⟨built, transactional⟩ keepRollback fun _ => collectResults_failsAt _

/-- A call with arguments asks at most once. -/
theorem asksOnce_argumentsCall (sql : String) (arguments : Arguments)
    (wantRows keepRollback : Bool) :
    Call.AsksOnce (argumentsCall (τ := τ) sql arguments wantRows keepRollback) := by
  refine .ofExcept_bind ((bindScript_failsAt sql arguments).withStatement sql) fun statements => ?_
  unfold boundRun
  split
  · exact .pure []
  · rw [bind_pure_comp]
    exact ((asksOnce_executeStatement _ _ _).withStatement _).map _
  · exact asksOnce_batchCall _ _ _ _

/-- A script that fits one message. -/
theorem asksOnce_boundScript (sql : String) (inTransaction keepRollback : Bool) :
    Call.AsksOnce (Call.withStatement sql (Call.ofExcept (σ := τ) (bindScript sql .none)) >>=
      fun statements => boundCall statements inTransaction keepRollback) := by
  refine .ofExcept_bind ((bindScript_failsAt sql .none).withStatement sql) fun statements => ?_
  unfold boundCall
  split
  · exact .pure ({} : Summary)
  · rw [bind_pure_comp]
    exact ((asksOnce_executeStatement _ _ _).withStatement _).map _
  · exact (asksOnce_batchCall _ _ _ _).map _

/-- A batch for its outcomes asks at most once. -/
theorem asksOnce_outcomesCall (statements : List BatchStatement)
    (transactional keepRollback : Bool) :
    Call.AsksOnce (outcomesCall (τ := τ) statements transactional keepRollback) := by
  refine .ofExcept_bind (.mapM (fun _ => buildStatement_failsAt _ _ _) statements) fun built => ?_
  split
  · exact .pure []
  · exact asksOnce_executeBatch ⟨built, transactional⟩ keepRollback fun fates =>
      .mapM outcome_failsAt fates

/-! ## Calls of a caller -/

namespace ConnectionCall

/-- True of the call that runs a script in chunks: one past the threshold, with more than one
statement to run. -/
def RunsInChunks (options : Options) : ConnectionCall → Prop
  | executeScript sql =>
    options.chunkThresholdBytes < sql.utf8ByteSize ∧ 2 ≤ (chunkedStatements sql).length
  | _ => False

/-- A script that does not run in chunks asks at most once. -/
theorem asksOnce_scriptCall {sql : String} {options : Options}
    (hchunks : ¬ (executeScript sql).RunsInChunks options) (inTransaction : Bool) :
    Call.AsksOnce (scriptCall (τ := τ) sql options inTransaction) := by
  unfold scriptCall
  by_cases hpast : options.chunkThresholdBytes < sql.utf8ByteSize
  · have hfew : (chunkedStatements sql).length < 2 := Nat.lt_of_not_le fun hmany =>
      hchunks ⟨hpast, hmany⟩
    rw [if_pos hpast, executeChunked]
    match hstatements : chunkedStatements sql with
    | [] => exact .pure ({} : Summary)
    | [only] =>
      show Call.AsksOnce (executePlain only >>= fun set => Pure.pure (Summary.aggregate [set]))
      rw [bind_pure_comp]
      exact (asksOnce_executePlain only).map _
    | first :: second :: rest =>
      rw [hstatements] at hfew
      exact absurd hfew (by simp)
  · rw [if_neg hpast]
    exact asksOnce_boundScript sql inTransaction options.schemaDb

/-- A call that does not run in chunks asks the server once at most. -/
theorem asksOnce {call : ConnectionCall} (notes : ConnectionNotes)
    (hchunks : ¬ call.RunsInChunks notes.options) :
    Call.AsksOnce (call.streamCall (τ := τ) notes) := by
  cases call with
  | query sql arguments => exact (asksOnce_argumentsCall _ _ _ _).map _
  | execute sql arguments => exact (asksOnce_argumentsCall _ _ _ _).map _
  | executeScript sql => exact (asksOnce_scriptCall hchunks _).map _
  | batch statements transactional => exact (asksOnce_outcomesCall _ _ _).map _
  | beginTransaction => exact (asksOnce_executePlain "BEGIN").map _
  | commit => exact (asksOnce_executePlain "COMMIT").map _
  | rollback => exact (asksOnce_executePlain "ROLLBACK").map _
  | prepare sql => exact (Call.AsksOnce.ofExcept (prepare_failsAt sql)).map _
  | storeSql sql => exact ((Call.AsksOnce.send rfl).withStatement sql).map _
  | executeStored sqlId arguments wantRows => exact (asksOnce_executeStatement _ _ _).map _
  | closeSql sqlId => exact (Call.AsksOnce.send rfl).map _
  -- these two never fail
  | close => exact fun _ _ hfailed => nomatch hfailed
  | withOptions options => exact fun _ _ hfailed => nomatch hfailed

/-- A script in chunks closes its stream if it fails. -/
theorem streamCall_of_runsInChunks {call : ConnectionCall} (notes : ConnectionNotes)
    (hchunks : call.RunsInChunks notes.options) :
    ∃ script : Call τ Summary, call.streamCall notes = (fun _ => ()) <$> closingOnError script := by
  cases call with
  | executeScript sql =>
    obtain ⟨hpast, hmany⟩ := hchunks
    refine ⟨runScript (chunkedStatements sql) notes.options.chunkSize (!notes.inTransaction), ?_⟩
    rw [streamCall, scriptCall, if_pos hpast, executeChunked_eq _ _ hmany]
  | _ => exact hchunks.elim

/-- Of a script in chunks only the replies are looked at. -/
theorem sameCall_of_runsInChunks {υ : Type} [Transport υ] {call : ConnectionCall}
    (notes : ConnectionNotes) (hchunks : call.RunsInChunks notes.options) :
    SameCall (· = .reply) (call.streamCall (τ := τ) notes) (call.streamCall (τ := υ) notes) := by
  cases call with
  | executeScript sql =>
    rw [streamCall, streamCall, scriptCall, scriptCall, if_pos hchunks.1, if_pos hchunks.1]
    exact (sameCall_executeChunked sql _ _).map _
  | _ => exact hchunks.elim

end ConnectionCall

end

end SqlStream
