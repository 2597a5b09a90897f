import Mathlib.Control.Monad.Basic
import SqlStream.Channel.Stream
import SqlStream.Http.Stream
import SqlStream.Proofs.Batch.Fates
import SqlStream.Proofs.Call

/-!
# Exchanges of a call

What a call hands to the server and what it is told. A *logged* stream is a stream that also notes
every exchange. Calls do on it what they do on the stream itself (`Traces`), so what is proved of
the exchanges noted holds of the calls as they run.
-/

namespace SqlStream

open SqlStream.Wire

/-! ## Transports that close -/

/-- A transport on which closing a stream ends it. -/
class LawfulTransport (τ : Type) [Transport τ] : Prop where
  isClosed_close (stream : τ) : (Transport.session (Transport.close stream)).isClosed = true

/-- What is sent to a server over HTTP leaves the session of the stream as it is. -/
theorem Http.Stream.session_post {σ : Type} [Http.Server σ] (body : PipelineRequest)
    (stream : Http.Stream σ) : (Http.Stream.post body stream).2.session = stream.session := by
  simp only [Http.Stream.post]
  split <;> rfl

instance {σ : Type} [Http.Server σ] : LawfulTransport (Http.Stream σ) where
  isClosed_close stream := by
    show (Http.Stream.close stream).session.isClosed = true
    simp only [Http.Stream.close, Session.close]
    cases stream.session.baton with
    | none => rfl
    | some baton =>
      rw [Http.Stream.session_post]
      rfl

instance {σ : Type} [Channel.Peer σ] : LawfulTransport (Channel.Stream σ) where
  isClosed_close stream := by
    show (Channel.Stream.close stream).session.isClosed = true
    unfold Channel.Stream.close
    by_cases h : stream.session.isClosed = true
    · rw [if_pos h]
      exact h
    · rw [if_neg h]
      rfl

/-! ## Exchanges -/

/-- Requests that were sent together, and what became of them. -/
structure Exchange where
  requests : List Request
  outcome : Except Error (List Response)
  deriving DecidableEq

/-- An answer that gives what a request asked for and reports no failure: no step of it failed, and
all results can be decoded. -/
inductive Wire.Response.Fulfils : Response → Request → Prop where
  | execute {statement : Statement} {result : StatementResult} {set : ResultSet} :
      ResultSet.decode result = .ok set → Fulfils (.execute result) (.execute statement)
  | batch {batch : Batch} {reply : BatchResult} :
      (∀ step < batch.steps.length, reply.errorAt step = none ∧
        ∀ result, reply.resultAt step = some result → ∃ set, ResultSet.decode result = .ok set) →
      Fulfils (.batch reply) (.batch batch)

/-- True of an exchange of one request that was answered, by an answer that fulfils the request. -/
def Exchange.Succeeded (exchange : Exchange) : Prop :=
  ∃ request response others, exchange.requests = [request] ∧
    exchange.outcome = .ok (response :: others) ∧ response.Fulfils request

/-! ## Logged streams -/

/-- A stream that notes its exchanges, the first one first. -/
structure Logged (τ : Type) where
  stream : τ
  log : List Exchange := []

variable {τ : Type}

instance [Transport τ] : Transport (Logged τ) where
  session logged := Transport.session logged.stream
  send requests := ExceptT.mk fun logged =>
    let (outcome, stream) := (Transport.send (τ := τ) requests).runOn logged.stream
    (outcome, ⟨stream, logged.log ++ [⟨requests, outcome⟩]⟩)
  close logged := { logged with stream := Transport.close logged.stream }
  configure options logged := { logged with stream := Transport.configure options logged.stream }

/-- A call on a logged stream that does what `plain` does on the stream; the exchanges that it notes
and its result satisfy `P`. -/
def Traces {α : Type} (plain : Call τ α) (logged : Call (Logged τ) α)
    (P : List Exchange → Except Error α → Prop) : Prop :=
  ∀ stream log, ∃ new, P new (plain.runOn stream).1 ∧
    logged.runOn ⟨stream, log⟩ =
      ((plain.runOn stream).1, ⟨(plain.runOn stream).2, log ++ new⟩)

namespace Traces

variable {α β : Type} {plain : Call τ α} {logged : Call (Logged τ) α}
  {P : List Exchange → Except Error α → Prop}

/-- What is known of exchanges and result may be weakened. -/
theorem mono {Q : List Exchange → Except Error α → Prop} (h : Traces plain logged P)
    (hPQ : ∀ new result, P new result → Q new result) : Traces plain logged Q := by
  intro stream log
  obtain ⟨new, hnew, hrun⟩ := h stream log
  exact ⟨new, hPQ new _ hnew, hrun⟩

/-- A result takes no exchange. -/
theorem ofExcept (result : Except Error α) :
    Traces (Call.ofExcept (σ := τ) result) (Call.ofExcept result) fun new outcome =>
      new = [] ∧ outcome = result :=
  fun _ _ => ⟨[], ⟨rfl, rfl⟩, by simp⟩

theorem pure (a : α) :
    Traces (τ := τ) (pure a) (pure a) fun new outcome => new = [] ∧ outcome = .ok a :=
  fun _ _ => ⟨[], ⟨rfl, rfl⟩, by simp⟩

/-- Sending is one exchange. -/
theorem send [Transport τ] (requests : List Request) :
    Traces (Transport.send (τ := τ) requests) (Transport.send requests) fun new outcome =>
      new = [⟨requests, outcome⟩] :=
  fun _ _ => ⟨_, rfl, rfl⟩

/-- The exchanges of two calls are those of the first and, if it succeeds, those of the second. -/
theorem bind {Q : α → List Exchange → Except Error β → Prop} {next : α → Call τ β}
    {loggedNext : α → Call (Logged τ) β} (h : Traces plain logged P)
    (hnext : ∀ a, Traces (next a) (loggedNext a) (Q a)) :
    Traces (plain >>= next) (logged >>= loggedNext) fun new result =>
      (∃ error, result = .error error ∧ P new (.error error)) ∨
        ∃ first rest a, new = first ++ rest ∧ P first (.ok a) ∧ Q a rest result := by
  intro stream log
  obtain ⟨first, hfirst, hrun⟩ := h stream log
  cases hplain : plain.runOn stream with
  | mk result after =>
    rw [hplain] at hfirst hrun
    cases result with
    | error error =>
      -- the second call is not made
      refine ⟨first, ?_, ?_⟩
      · rw [Call.runOn_bind_error hplain]
        exact .inl ⟨error, rfl, hfirst⟩
      · rw [Call.runOn_bind_error hplain, Call.runOn_bind_error hrun]
    | ok a =>
      obtain ⟨rest, hrest, hrunNext⟩ := hnext a after (log ++ first)
      refine ⟨first ++ rest, ?_, ?_⟩
      · rw [Call.runOn_bind_ok hplain]
        exact .inr ⟨first, rest, a, rfl, hfirst, hrest⟩
      · rw [Call.runOn_bind_ok hplain, Call.runOn_bind_ok hrun, hrunNext, List.append_assoc]

/-- A batch is one exchange, whose answer is read. Of one that is too large, nothing is sent. -/
theorem batch [Transport τ] (plan : BatchPlan) (keepRollback : Bool)
    (read : List StepFate → Except Error α) :
    Traces (τ := τ) (executeBatch plan keepRollback >>= fun fates => Call.ofExcept (read fates))
      (executeBatch plan keepRollback >>= fun fates => Call.ofExcept (read fates)) fun new result =>
        (¬ plan.Fits ∧ new = [] ∧ result = .error (.batchTooLarge (UInt32.size + 1))) ∨
        (plan.Fits ∧ ∃ outcome, new = [⟨[plan.request], outcome⟩] ∧
          result = outcome >>= fun responses => expectBatch responses >>= fun reply =>
            plan.callerFates reply keepRollback >>= read) := by
  by_cases hfits : plan.Fits
  · have hread := fun responses => Traces.ofExcept (τ := τ) (expectBatch responses >>= fun reply =>
      plan.callerFates reply keepRollback >>= read)
    simp only [executeBatch_of_fits hfits, bind_assoc, Call.ofExcept_bind]
    refine ((Traces.send [plan.request]).bind hread).mono ?_
    rintro new _ (⟨error, rfl, rfl⟩ | ⟨_, _, responses, rfl, rfl, rfl, rfl⟩)
    · exact .inr ⟨hfits, _, rfl, rfl⟩
    · exact .inr ⟨hfits, _, List.append_nil _, rfl⟩
  · simp only [executeBatch_of_not_fits hfits, Call.ofExcept_bind]
    refine (Traces.ofExcept _).mono ?_
    rintro _ _ ⟨rfl, rfl⟩
    exact .inl ⟨hfits, rfl, rfl⟩

/-- To put a result into other words takes no exchange. -/
theorem map (h : Traces plain logged P) (f : α → β) :
    Traces (f <$> plain) (f <$> logged) fun new result =>
      ∃ outcome, P new outcome ∧ result = outcome.map f := by
  intro stream log
  obtain ⟨new, hnew, hrun⟩ := h stream log
  refine ⟨new, ⟨_, hnew, ?_⟩, ?_⟩
  · rw [Call.runOn_map]
  · rw [Call.runOn_map, Call.runOn_map, hrun]

/-- To name a statement in the error takes no exchange. -/
theorem withStatement (h : Traces plain logged P) (sql : String) :
    Traces (Call.withStatement sql plain) (Call.withStatement sql logged) fun new result =>
      ∃ outcome, P new outcome ∧ result = outcome.mapError (Error.withStatement sql) := by
  intro stream log
  obtain ⟨new, hnew, hrun⟩ := h stream log
  refine ⟨new, ⟨_, hnew, rfl⟩, ?_⟩
  rw [Call.runOn_withStatement, Call.runOn_withStatement, hrun]

/-- To close the stream after a failure takes no exchange. -/
theorem closingOnError [Transport τ] (h : Traces plain logged P) :
    Traces (closingOnError plain) (closingOnError logged) P := by
  intro stream log
  obtain ⟨new, hnew, hrun⟩ := h stream log
  cases hplain : plain.runOn stream with
  | mk result after =>
    rw [hplain] at hnew hrun
    rw [runOn_closingOnError, runOn_closingOnError, hplain, hrun]
    cases result with
    | ok a => exact ⟨new, hnew, rfl⟩
    | error error => exact ⟨new, hnew, rfl⟩

end Traces

/-! ## A server with prepared replies -/

/-- A server of HTTP that gives replies prepared in advance, and cannot be reached behind them. -/
structure Http.Prepared where
  replies : List Http.HttpReply
  deriving DecidableEq

instance : Http.Server Http.Prepared where
  respond _ server :=
    match server.replies with
    | [] => (.failed "connection refused", server)
    | reply :: rest => (reply, ⟨rest⟩)

/-- A reply that keeps the stream open and gives one answer, with a result in JSON. -/
def Http.answering (kind result : String) : Http.HttpReply :=
  .answered 200 ("\x7b\"baton\":\"b\",\"results\":[\x7b\"type\":\"ok\",\"response\":\x7b\"type\":\"" ++
    kind ++ "\",\"result\":" ++ result ++ "\x7d\x7d]\x7d")

/-- The reply to a batch, with lists in JSON of what its steps gave and of their errors. -/
def Http.answeringBatch (results errors : String) : Http.HttpReply :=
  answering "batch" ("\x7b\"step_results\":" ++ results ++ ",\"step_errors\":" ++ errors ++ "\x7d")

end SqlStream
