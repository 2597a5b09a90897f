import SqlStream.Proofs.Connection.Runs

/-!
# Errors in the parameters of a script

A script that runs without arguments cannot be bound if a placeholder of it wants a value or is
malformed. The client says so before it sends anything, but only of scripts that fit one message:
past the threshold the statements are sent as they are, and the error is never reported.
-/

namespace SqlStream

open SqlStream.Sql SqlStream.Wire

/-- True if running a script reports an error, or one that names a statement in it, and the stream
is left as it was, with no exchange. -/
def Connection.ReportsUnsent {τ : Type} [Transport τ] (connection : Connection τ) (sql : String)
    (error : Error) : Prop :=
  ∃ reported, reported.root = error ∧
    (Connection.executeScript sql).runOn (connection.withLog []) =
      (.error reported, connection.withLog [])

section

variable {τ : Type} [Transport τ] {connection : Connection τ} {sql : String} {error : Error}

/-- A script that fits one message is bound before it is sent. -/
theorem Connection.reportsUnsent_of_small (hbound : bindScript sql .none = .error error)
    (hsmall : sql.utf8ByteSize ≤ connection.options.chunkThresholdBytes) :
    connection.ReportsUnsent sql error := by
  have hparameters : error.InParameters := bindScript_failsWith sql .none error hbound
  refine ⟨error.withStatement sql, ?_, ?_⟩
  · rw [Error.root_withStatement, hparameters.root_eq]
  · have hlogged : ¬ (connection.withLog []).options.chunkThresholdBytes < sql.utf8ByteSize :=
      Nat.not_lt.mpr hsmall
    unfold executeScript
    rw [Call.runOn_get_bind, if_neg hlogged, runOn_executeSmallScript_error hbound]

/-- A script past the threshold does not fail because of what is asked for. -/
theorem Connection.origin_ne_asked_of_large [FinalTransport τ]
    (hlarge : connection.options.chunkThresholdBytes < sql.utf8ByteSize)
    (hfailed : ((Connection.executeScript sql).runOn connection).1 = .error error) :
    error.origin ≠ .asked := by
  rw [runOn_executeScript_eq, scriptCall, if_pos hlarge] at hfailed
  have hsame := sameCall_executeChunked (τ := τ) (υ := τ) sql connection.options.chunkSize
    (!connection.inTransaction)
  exact hsame.origin_ne_asked_of_reply hfailed

/-- Past the threshold an error in the parameters of a script is not reported. -/
theorem Connection.root_ne_of_large [FinalTransport τ] {reported : Error}
    (hbound : bindScript sql .none = .error error)
    (hlarge : connection.options.chunkThresholdBytes < sql.utf8ByteSize)
    (hfailed : ((Connection.executeScript sql).runOn connection).1 = .error reported) :
    reported.root ≠ error := by
  rintro rfl
  have hasked : reported.root.origin = .asked := bindScript_failsAt sql .none _ hbound
  rw [Error.origin_root] at hasked
  exact origin_ne_asked_of_large hlarge hfailed hasked

theorem Connection.not_reportsUnsent_of_large [FinalTransport τ]
    (hbound : bindScript sql .none = .error error)
    (hlarge : connection.options.chunkThresholdBytes < sql.utf8ByteSize) :
    ¬ connection.ReportsUnsent sql error := by
  rintro ⟨reported, hroot, hrun⟩
  have hlogged : (connection.withLog []).options.chunkThresholdBytes < sql.utf8ByteSize := hlarge
  exact root_ne_of_large hbound hlogged (congrArg Prod.fst hrun) hroot

end

/-- An error in the parameters of a script is reported before anything is sent exactly if the script
fits one message; past the threshold it is not reported at all. -/
theorem executeScript_reports_parameters_iff {τ : Type} [Transport τ] [FinalTransport τ]
    {sql : String} {error : Error} (hbound : bindScript sql .none = .error error)
    (connection : Connection τ) :
    (connection.ReportsUnsent sql error ↔
        sql.utf8ByteSize ≤ connection.options.chunkThresholdBytes) ∧
      (connection.options.chunkThresholdBytes < sql.utf8ByteSize →
        ∀ reported, ((Connection.executeScript sql).runOn connection).1 = .error reported →
          reported.root ≠ error) := by
  refine ⟨⟨fun hreports => ?_, Connection.reportsUnsent_of_small hbound⟩, ?_⟩
  · refine Nat.le_of_not_lt fun hlarge => ?_
    exact Connection.not_reportsUnsent_of_large hbound hlarge hreports
  · exact fun hlarge reported hfailed => Connection.root_ne_of_large hbound hlarge hfailed

/-- A connection for which two statements are past the threshold, and whose server runs them. -/
def preparedForUnfilled : Connection (Http.Stream Http.Prepared) where
  stream :=
    let executed := Http.answering "execute" "\x7b\x7d"
    .new ⟨[executed, Http.answeringBatch "[\x7b\x7d,\x7b\x7d]" "[]", executed]⟩
      "http://localhost" ""
  options := { chunkThresholdBytes := 16 }

theorem bindScript_unfilled :
    bindScript "SELECT ?; SELECT 2" .none = .error (.missingParameters 1 0) := by
  decide +kernel

theorem executeScript_reports_parameters_of_unfilled :
    bindScript "SELECT ?; SELECT 2" .none = .error (.missingParameters 1 0) ∧
      (preparedForUnfilled.withOptions {}).ReportsUnsent "SELECT ?; SELECT 2"
        (.missingParameters 1 0) ∧
      ¬ preparedForUnfilled.ReportsUnsent "SELECT ?; SELECT 2" (.missingParameters 1 0) := by
  refine ⟨bindScript_unfilled, ?_, fun hreports => ?_⟩
  · exact (executeScript_reports_parameters_iff bindScript_unfilled _).1.mpr (by decide)
  · have hsmall := (executeScript_reports_parameters_iff bindScript_unfilled _).1.mp hreports
    exact absurd hsmall (by decide)

/-- Past the threshold a placeholder without a value is sent to the server, and the script runs. -/
theorem executeScript_sends_unfilled :
    let run := (Connection.executeScript "SELECT ?; SELECT 2").runOn (preparedForUnfilled.withLog [])
    bindScript "SELECT ?; SELECT 2" .none = .error (.missingParameters 1 0) ∧
      preparedForUnfilled.session.isClosed = false ∧
      (run.1.isOk, run.2.stream.log.map Exchange.requests) =
        (true, [[plainRequest "BEGIN"], [chunkRequest ["SELECT ?", "SELECT 2"]],
          [plainRequest "COMMIT"]]) ∧
      ¬ preparedForUnfilled.ReportsUnsent "SELECT ?; SELECT 2" (.missingParameters 1 0) :=
  ⟨bindScript_unfilled, by decide +kernel, by decide +kernel,
    Connection.not_reportsUnsent_of_large bindScript_unfilled (by decide)⟩

end SqlStream
