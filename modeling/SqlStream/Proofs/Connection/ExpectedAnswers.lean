import SqlStream.Proofs.Answers
import SqlStream.Proofs.Connection.Runs

/-!
# Answers that callers expect

Sending gives answers of the kinds that the requests want (`SuitedTransport`). So the first answer
to a statement or a batch of a connection is one to a statement or a batch, and what a caller would
make of any other does not matter (`AlwaysExpected`).
-/

namespace SqlStream

open SqlStream.Sql SqlStream.Wire

/-! ## Transports -/

/-- A transport on which answers to requests are of the kinds that the requests want. -/
class SuitedTransport (τ : Type) [Transport τ] : Prop where
  suits {stream : τ} {requests : List Request} {responses : List Response}
    (hsent : ((Transport.send requests).runOn stream).1 = .ok responses) :
    List.Forall₂ Response.Suits responses requests

/-- The watermark does not change the kind of answer that a request wants. -/
theorem Wire.Response.suits_withWatermark_iff {index : UInt64} {request : Request}
    {response : Response} :
    response.Suits (request.withWatermark index) ↔ response.Suits request := by
  rw [← kind_eq_expected_iff, ← kind_eq_expected_iff]
  cases request <;> rfl

/-- Answers to requests as they went on the wire are answers to the requests themselves. -/
theorem Session.suits_of_stamp {session : Session} {requests : List Request}
    {results : List StreamResult} {responses : List Response}
    (h : checkResults (session.stamp requests) results = .ok responses) :
    List.Forall₂ Response.Suits responses requests := by
  have hall := suits_of_checkResults h
  unfold stamp at hall
  cases hindex : session.replicationIndex with
  | none =>
    rw [hindex] at hall
    exact hall
  | some index =>
    rw [hindex, List.forall₂_map_right_iff] at hall
    exact hall.imp fun _ _ => Response.suits_withWatermark_iff.mp

instance {σ : Type} [Http.Server σ] : SuitedTransport (Http.Stream σ) where
  suits {stream requests responses} hsent := by
    replace hsent : ((Http.Stream.send requests).runOn stream).1 = .ok responses := hsent
    by_cases hclosed : stream.session.isClosed = true
    · rw [Http.Stream.runOn_send_of_isClosed hclosed] at hsent
      cases hsent
    · rw [Http.Stream.runOn_send_of_not_isClosed (by simpa using hclosed)] at hsent
      simp only [Http.Stream.settle] at hsent
      split at hsent
      · cases hsent
      · exact Session.suits_of_stamp hsent

instance {σ : Type} [Channel.Peer σ] : SuitedTransport (Channel.Stream σ) where
  suits {stream requests responses} hsent := by
    replace hsent : ((Channel.Stream.send requests).runOn stream).1 = .ok responses := hsent
    by_cases hclosed : stream.session.isClosed = true
    · rw [Channel.Stream.runOn_send_of_isClosed hclosed] at hsent
      cases hsent
    · rw [Channel.Stream.runOn_send_of_not_isClosed (by simpa using hclosed)] at hsent
      simp only [Channel.Stream.settle] at hsent
      split at hsent
      · cases hsent
      · exact Session.suits_of_stamp hsent

/-! ## The first answer -/

/-- An answer that suits a statement is the result of a statement. -/
theorem eq_execute_of_suits {statement : Statement} {responses : List Response}
    (h : List.Forall₂ Response.Suits responses [.execute statement]) :
    ∃ result others, responses = .execute result :: others := by
  cases h with
  | cons hsuits _ =>
    cases hsuits with
    | execute result => exact ⟨result, _, rfl⟩

/-- An answer that suits a batch is the report of a batch. -/
theorem eq_batch_of_suits {steps : Batch} {responses : List Response}
    (h : List.Forall₂ Response.Suits responses [.batch steps]) :
    ∃ reply others, responses = .batch reply :: others := by
  cases h with
  | cons hsuits _ =>
    cases hsuits with
    | batch reply => exact ⟨reply, _, rfl⟩

section

variable {τ : Type} [Transport τ]

/-- Runs a statement, where `expect` reads the answers. -/
def executeStatementWith (expect : List Response → Except Error StatementResult)
    (source : SqlSource) (arguments : Arguments) (wantRows : Bool) : Call τ ResultSet := do
  let statement ← Call.ofExcept (buildStatement source arguments wantRows)
  let responses ← Transport.send [.execute statement]
  let result ← Call.ofExcept (expect responses)
  Call.ofExcept (decodeResult result)

/-- Runs a batch, where `expect` reads the answers. -/
def executeBatchWith (expect : List Response → Except Error BatchResult) (plan : BatchPlan)
    (keepRollback : Bool) : Call τ (List StepFate) := do
  let request ← Call.ofExcept plan.build
  let responses ← Transport.send [request]
  let result ← Call.ofExcept (expect responses)
  Call.ofExcept (plan.callerFates result keepRollback)

/-- What is done with answers matters for those of the kinds that the requests want only. -/
theorem send_bind_congr [SuitedTransport τ] {α : Type} {requests : List Request}
    {next other : List Response → Call τ α}
    (h : ∀ responses, List.Forall₂ Response.Suits responses requests →
      next responses = other responses) :
    (Transport.send requests >>= next) = (Transport.send requests >>= other) := by
  refine funext fun stream => ?_
  show (Transport.send requests >>= next).runOn stream =
    (Transport.send requests >>= other).runOn stream
  cases hsent : (Transport.send requests).runOn stream with
  | mk result after =>
    cases result with
    | error error => rw [Call.runOn_bind_error hsent, Call.runOn_bind_error hsent]
    | ok responses =>
      have hsuits := SuitedTransport.suits (congrArg Prod.fst hsent)
      rw [Call.runOn_bind_ok hsent, Call.runOn_bind_ok hsent, h responses hsuits]

/-- How other answers to a statement are read does not matter. -/
theorem executeStatement_eq_with [SuitedTransport τ]
    {expect : List Response → Except Error StatementResult}
    (hexpect : ∀ result others, expect (.execute result :: others) = .ok result)
    (source : SqlSource) (arguments : Arguments) (wantRows : Bool) :
    executeStatement (τ := τ) source arguments wantRows =
      executeStatementWith expect source arguments wantRows := by
  unfold executeStatement executeStatementWith
  refine congrArg _ (funext fun statement => send_bind_congr fun responses hsuits => ?_)
  obtain ⟨result, others, rfl⟩ := eq_execute_of_suits hsuits
  rw [hexpect]
  rfl

/-- How other answers to a batch are read does not matter. -/
theorem executeBatch_eq_with [SuitedTransport τ] {expect : List Response → Except Error BatchResult}
    (hexpect : ∀ reply others, expect (.batch reply :: others) = .ok reply) (plan : BatchPlan)
    (keepRollback : Bool) :
    executeBatch (τ := τ) plan keepRollback = executeBatchWith expect plan keepRollback := by
  unfold executeBatch executeBatchWith
  by_cases hfits : plan.Fits
  · rw [BatchPlan.build_of_fits hfits]
    refine send_bind_congr fun responses hsuits => ?_
    obtain ⟨reply, others, rfl⟩ := eq_batch_of_suits hsuits
    rw [hexpect]
    rfl
  · rw [BatchPlan.build_of_not_fits hfits]
    rfl

end

/-! ## The exchanges of a connection -/

/-- True of an exchange that was not answered, or by answers of the kinds that its requests want. -/
def Exchange.Suited (exchange : Exchange) : Prop :=
  ∀ responses, exchange.outcome = .ok responses →
    List.Forall₂ Response.Suits responses exchange.requests

section

variable {τ : Type} [Transport τ]

/-- All answers that are handed on suit their requests. -/
theorem streamInvariant_suited [SuitedTransport τ] :
    StreamInvariant fun logged : Logged τ => ∀ exchange ∈ logged.log, exchange.Suited where
  send requests logged hlogged exchange hmem := by
    rcases List.mem_append.mp hmem with hmem | hmem
    · exact hlogged exchange hmem
    · rw [List.mem_singleton.mp hmem]
      exact fun _ => SuitedTransport.suits (τ := τ)
  close _ hlogged := hlogged

/-- The answers that a call gets are of the kinds that its requests want. -/
theorem ConnectionCall.suited_of_mem_exchanges [SuitedTransport τ] {call : ConnectionCall}
    {connection : Connection τ} {exchange : Exchange}
    (hmem : exchange ∈ call.exchanges connection) : exchange.Suited := by
  rw [exchanges, after, runOn_run] at hmem
  exact (call.sameCall _).keeps streamInvariant_suited (fun _ _ hlogged => hlogged)
    ⟨connection.stream, []⟩ nofun exchange hmem

/-- What callers expect of answers always holds on a transport: all that is answered to a statement
or a batch begins with an answer to it, and nothing depends on how other answers would be read. -/
structure AlwaysExpected (τ : Type) [Transport τ] : Prop where
  statement {call : ConnectionCall} {connection : Connection τ} {statement : Statement}
    {responses : List Response} :
    ⟨[.execute statement], .ok responses⟩ ∈ call.exchanges connection →
      ∃ result, expectExecute responses = .ok result
  batch {call : ConnectionCall} {connection : Connection τ} {steps : Batch}
    {responses : List Response} :
    ⟨[.batch steps], .ok responses⟩ ∈ call.exchanges connection →
      ∃ reply, expectBatch responses = .ok reply
  executeStatement_eq {expect : List Response → Except Error StatementResult} :
    (∀ result others, expect (.execute result :: others) = .ok result) →
      executeStatement (τ := τ) = executeStatementWith expect
  executeBatch_eq {expect : List Response → Except Error BatchResult} :
    (∀ reply others, expect (.batch reply :: others) = .ok reply) →
      executeBatch (τ := τ) = executeBatchWith expect

/-- Calls get no answers but those they expect. -/
theorem alwaysExpected [SuitedTransport τ] : AlwaysExpected τ where
  statement hmem := by
    obtain ⟨result, others, rfl⟩ :=
      eq_execute_of_suits (ConnectionCall.suited_of_mem_exchanges hmem _ rfl)
    exact ⟨result, rfl⟩
  batch hmem := by
    obtain ⟨reply, others, rfl⟩ :=
      eq_batch_of_suits (ConnectionCall.suited_of_mem_exchanges hmem _ rfl)
    exact ⟨reply, rfl⟩
  executeStatement_eq hexpect := by
    funext source arguments wantRows
    exact executeStatement_eq_with hexpect source arguments wantRows
  executeBatch_eq hexpect := by
    funext plan keepRollback
    exact executeBatch_eq_with hexpect plan keepRollback

end

/-- To finish an exchange checks the fates of its requests, so connections always get the answers
that they expect. What the servers do is arbitrary. -/
theorem answers_checked (σ π : Type) [Http.Server σ] [Channel.Peer π] (session : Session)
    (sent : List Request) :
    (∀ response outcome, (session.finishPipeline sent response).1 = outcome ↔
      Checked sent response.results outcome) ∧
    (∀ results outcome, (session.finishChannel sent results).1 = outcome ↔
      Checked sent results outcome) ∧
    AlwaysExpected (Http.Stream σ) ∧ AlwaysExpected (Channel.Stream π) :=
  ⟨fun _ _ => checkResults_eq_iff, fun _ _ => checkResults_eq_iff, alwaysExpected, alwaysExpected⟩

end SqlStream
