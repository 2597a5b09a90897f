import SqlStream.Proofs.Channel.Exchange
import SqlStream.Proofs.Http.Exchange
import SqlStream.Proofs.Origin

/-!
# What all calls keep

Calls reach a stream only by sending on it and closing it. So what these two keep of a stream, every
call keeps, whether it succeeds or fails (`StreamInvariant`). Of a transport that refuses to send on
a closed stream (`SealedTransport`), calls keep a stream closed, and a stream on which anything was
refused is closed.
-/

namespace SqlStream

open SqlStream.Sql SqlStream.Wire

/-! ## Calls that keep a property of their state -/

/-- True of a call that keeps a property of the state, whether it succeeds or fails. -/
def Call.Keeps {σ α : Type} (I : σ → Prop) (call : Call σ α) : Prop :=
  ∀ state, I state → I (call.runOn state).2

namespace Call.Keeps

variable {σ α β : Type} {I : σ → Prop}

/-- A result changes nothing. -/
theorem ofExcept (result : Except Error α) : Keeps I (Call.ofExcept result) :=
  fun _ h => h

/-- Nor does a value. -/
theorem pure (a : α) : Keeps I (pure a : Call σ α) :=
  fun _ h => h

/-- What two calls keep, one behind the other keeps. -/
theorem bind {first : Call σ α} {next : α → Call σ β} (h : Keeps I first)
    (hnext : ∀ a, Keeps I (next a)) : Keeps I (first >>= next) := by
  intro state hstate
  have hafter := h state hstate
  cases hrun : first.runOn state with
  | mk result after =>
    rw [hrun] at hafter
    cases result with
    | error error => rwa [Call.runOn_bind_error hrun]
    | ok a =>
      rw [Call.runOn_bind_ok hrun]
      exact hnext a after hafter

/-- To put the result of a call into other words changes nothing. -/
theorem map {call : Call σ α} (h : Keeps I call) (f : α → β) : Keeps I (f <$> call) := by
  intro state hstate
  rw [Call.runOn_map]
  exact h state hstate

/-- To name a statement in its error changes nothing. -/
theorem withStatement {call : Call σ α} (h : Keeps I call) (sql : String) :
    Keeps I (Call.withStatement sql call) :=
  h

end Call.Keeps

/-! ## Streams -/

/-- A property of streams that sending and closing keep. -/
structure StreamInvariant {τ : Type} [Transport τ] (I : τ → Prop) : Prop where
  send (requests : List Request) : Call.Keeps I (Transport.send requests)
  close (stream : τ) : I stream → I (Transport.close stream)

namespace StreamInvariant

variable {τ : Type} [Transport τ] {I : τ → Prop}

/-- What sending and closing keep, several calls keep. -/
theorem streamAfter (hI : StreamInvariant I) (calls : List StreamCall) {stream : τ}
    (h : I stream) : I (streamAfter calls stream) := by
  induction calls generalizing stream with
  | nil => exact h
  | cons call calls ih =>
    refine ih (?_ : I (call.after stream))
    cases call with
    | send requests => exact hI.send requests stream h
    | close => exact hI.close stream h

/-- What closing keeps is kept by a call that closes if it fails. -/
theorem closingOnError (hI : StreamInvariant I) {α : Type} {call : Call τ α}
    (h : Call.Keeps I call) : Call.Keeps I (closingOnError call) := by
  intro stream hstream
  have hafter := h stream hstream
  rw [runOn_closingOnError]
  cases hrun : call.runOn stream with
  | mk result after =>
    rw [hrun] at hafter
    cases result with
    | ok a => exact hafter
    | error error => exact hI.close after hafter

/-- A statement is one exchange, so it keeps what sending keeps. -/
theorem executeStatement (hI : StreamInvariant I) (source : SqlSource) (arguments : Arguments)
    (wantRows : Bool) : Call.Keeps I (executeStatement source arguments wantRows) :=
  (Call.Keeps.ofExcept _).bind fun _ => (hI.send _).bind fun _ =>
    (Call.Keeps.ofExcept _).bind fun _ => .ofExcept _

/-- So does one without arguments. -/
theorem executePlain (hI : StreamInvariant I) (sql : String) : Call.Keeps I (executePlain sql) :=
  (hI.executeStatement (.text sql) .none false).withStatement sql

/-- So does a batch, whether or not it is too large to be sent. -/
theorem executeBatch (hI : StreamInvariant I) (plan : BatchPlan) (keepRollback : Bool) :
    Call.Keeps I (executeBatch plan keepRollback) :=
  (Call.Keeps.ofExcept _).bind fun _ => (hI.send _).bind fun _ =>
    (Call.Keeps.ofExcept _).bind fun _ => .ofExcept _

/-- So do chunks, one after another. -/
theorem runChunks (hI : StreamInvariant I) (summary : Summary) (pieces : List (List String)) :
    Call.Keeps I (runChunks summary pieces) := by
  induction pieces generalizing summary with
  | nil => exact .pure summary
  | cons chunk pieces ih =>
    have hchunk : Call.Keeps I (runChunk chunk) :=
      (Call.Keeps.ofExcept _).bind fun built =>
        (hI.executeBatch ⟨built, false⟩ false).bind fun _ => .ofExcept _
    exact hchunk.bind fun sets => ih (sets.foldl Summary.add summary)

/-- So does a script in chunks, with `BEGIN` and `COMMIT` around it. -/
theorem runScript (hI : StreamInvariant I) (statements : List String) (chunkSize : Nat)
    (wrap : Bool) : Call.Keeps I (runScript statements chunkSize wrap) := by
  have hchunks := hI.runChunks {} (chunks chunkSize statements)
  unfold SqlStream.runScript
  cases wrap with
  | false =>
    simp only [if_neg Bool.false_ne_true]
    exact hchunks.bind .pure
  | true =>
    simp only [if_true]
    exact (hI.executePlain "BEGIN").bind fun _ => hchunks.bind fun summary =>
      (hI.executePlain "COMMIT").bind fun _ => .pure summary

/-- Where a script in chunks fails, it keeps what closing keeps too. -/
theorem executeChunked (hI : StreamInvariant I) (sql : String) (chunkSize : Nat) (wrap : Bool) :
    Call.Keeps I (executeChunked sql chunkSize wrap) := by
  unfold SqlStream.executeChunked
  split
  · exact .pure ({} : Summary)
  · exact (hI.executePlain _).bind fun set => .pure (Summary.aggregate [set])
  · exact hI.closingOnError (hI.runScript _ chunkSize wrap)

end StreamInvariant

/-! ## Streams that stay closed -/

/-- A transport that sends nothing on a closed stream, and refuses only there. -/
class SealedTransport (τ : Type) [Transport τ] : Prop where
  send_of_isClosed {stream : τ} (hclosed : (Transport.session stream).isClosed = true)
    (requests : List Request) :
    (Transport.send requests).runOn stream = (.error .streamClosed, stream)
  isClosed_of_refused {stream : τ} {requests : List Request}
    (hrefused : ((Transport.send requests).runOn stream).1 = .error .streamClosed) :
    (Transport.session ((Transport.send requests).runOn stream).2).isClosed = true

instance {σ : Type} [Http.Server σ] : SealedTransport (Http.Stream σ) where
  send_of_isClosed hclosed requests := Http.Stream.runOn_send_of_isClosed hclosed requests
  isClosed_of_refused {stream requests} hrefused := by
    show ((Http.Stream.send requests).runOn stream).2.session.isClosed = true
    replace hrefused : ((Http.Stream.send requests).runOn stream).1 = .error .streamClosed := hrefused
    by_cases hclosed : stream.session.isClosed = true
    · rwa [Http.Stream.runOn_send_of_isClosed hclosed]
    · rw [Http.Stream.runOn_send_of_not_isClosed (by simpa using hclosed)] at hrefused ⊢
      simp only [Http.Stream.settle] at hrefused ⊢
      split at hrefused
      · -- a reply that cannot be read leaves the stream closed
        rw [Http.Stream.session_post]
        rfl
      · exact nomatch checkResults_failsWith _ _ _ hrefused

instance {σ : Type} [Channel.Peer σ] : SealedTransport (Channel.Stream σ) where
  send_of_isClosed hclosed requests := Channel.Stream.runOn_send_of_isClosed hclosed requests
  isClosed_of_refused {stream requests} hrefused := by
    show ((Channel.Stream.send requests).runOn stream).2.session.isClosed = true
    replace hrefused : ((Channel.Stream.send requests).runOn stream).1 = .error .streamClosed :=
      hrefused
    by_cases hclosed : stream.session.isClosed = true
    · rwa [Channel.Stream.runOn_send_of_isClosed hclosed]
    · rw [Channel.Stream.runOn_send_of_not_isClosed (by simpa using hclosed)] at hrefused ⊢
      simp only [Channel.Stream.settle] at hrefused ⊢
      split at hrefused
      · -- answers that do not arrive leave the stream closed
        rw [Channel.Stream.session_carry]
        rfl
      · exact nomatch checkResults_failsWith _ _ _ hrefused

section

variable {τ : Type} [Transport τ] [LawfulTransport τ] [SealedTransport τ]

/-- A closed stream stays closed. -/
theorem streamInvariant_isClosed :
    StreamInvariant fun stream : τ => (Transport.session stream).isClosed = true where
  send requests stream hclosed := by
    rwa [SealedTransport.send_of_isClosed hclosed]
  close stream _ := LawfulTransport.isClosed_close stream

/-- True of an exchange that did not take place, because the stream was closed. -/
def Exchange.Refused (exchange : Exchange) : Prop :=
  exchange.outcome = .error .streamClosed

/-- A stream on which anything was refused is closed. -/
theorem streamInvariant_refused :
    StreamInvariant fun logged : Logged τ => (∃ exchange ∈ logged.log, exchange.Refused) →
      (Transport.session logged.stream).isClosed = true where
  send requests logged hlogged := by
    rintro ⟨exchange, hmem, hrefused⟩
    show (Transport.session ((Transport.send requests).runOn logged.stream).2).isClosed = true
    rcases List.mem_append.mp hmem with hmem | hmem
    · rw [SealedTransport.send_of_isClosed (hlogged ⟨exchange, hmem, hrefused⟩)]
      exact hlogged ⟨exchange, hmem, hrefused⟩
    · rw [List.mem_singleton.mp hmem] at hrefused
      exact SealedTransport.isClosed_of_refused hrefused
  close logged _ := fun _ => LawfulTransport.isClosed_close logged.stream

end

end SqlStream
