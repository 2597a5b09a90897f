import SqlStream.Proofs.Channel.AnyOrder
import SqlStream.Proofs.Connection.ClosedForGood
import SqlStream.Proofs.Connection.SingleExchange

/-!
# Streams that end behind another error

A call that fails with the error of a bad connection leaves its stream closed. Errors that are found
in replies are no errors of that kind, and yet some of them are found on a stream that is closed
from then on: the reply has ended the stream, or a script failed between its chunks. There is no
other way (`isClosed_after_failure_iff`).
-/

namespace SqlStream

open SqlStream.Sql SqlStream.Wire

/-! ## Exchanges that end a stream -/

namespace Http

/-- True of a reply that ends the stream: it can be read, and has no baton. -/
def HttpReply.EndsStream (reply : HttpReply) : Prop :=
  ∃ response, reply.Reads response ∧ ∀ baton, response.baton = some baton → baton = ""

namespace Stream

variable {σ : Type} {stream : Stream σ} {requests sent : List Request} {reply : HttpReply}

/-- With a reply an exchange leaves the stream closed if the reply cannot be read or ends the
stream. -/
theorem isClosed_settle_iff (hway : stream.session.isClosed = true)
    (hkeeps : Session.closesStream sent = false) :
    (settle sent reply stream).2.session.isClosed = true ↔
      originBehind (settle sent reply stream).1 = .stream ∨ reply.EndsStream := by
  unfold settle
  cases hread : readReply reply with
  | error cause => exact iff_of_true hway (.inl (readReply_failsWith reply cause hread).origin_eq)
  | ok response =>
    have hreads := readReply_eq_ok_iff.mp hread
    have hreply : originBehind (checkResults sent response.results) = .reply :=
      originBehind_of_failsAt (checkResults_failsAt sent response.results)
    have hends : reply.EndsStream ↔ ∀ baton, response.baton = some baton → baton = "" := by
      refine ⟨?_, fun hnone => ⟨response, hreads, hnone⟩⟩
      rintro ⟨other, hother, hnone⟩
      rwa [hreads.unique hother]
    show (stream.session.finishPipeline sent response).2.isClosed = true ↔
      originBehind (checkResults sent response.results) = .stream ∨ _
    rw [Session.isClosed_eq_true_iff, hends, hreply]
    refine (Session.stateAfter_eq_closed_iff hkeeps).trans ⟨.inr, ?_⟩
    rintro (hstream | hnone)
    · cases hstream
    · exact hnone

variable [Server σ]

/-- What is posted got the reply that the stream reads. -/
theorem exists_endsStream_posted_iff (body : PipelineRequest) (stream : Stream σ) :
    (∃ posting ∈ posted body stream, posting.reply.EndsStream) ↔
      (post body stream).1.EndsStream := by
  constructor
  · rintro ⟨posting, hmem, hends⟩
    rwa [← reply_eq_of_mem_posted hmem]
  · intro hends
    have hposted : ∃ posting, posting ∈ posted body stream := by
      obtain ⟨response, hreads, _⟩ := hends
      rw [posted_of_reads hreads]
      exact ⟨_, List.mem_singleton_self _⟩
    obtain ⟨posting, hmem⟩ := hposted
    refine ⟨posting, hmem, ?_⟩
    rwa [reply_eq_of_mem_posted hmem]

/-- Behind an exchange a stream is closed if the exchange has failed or the reply has ended it. -/
theorem isClosed_send_iff (hopen : stream.session.isClosed = false)
    (hkeeps : Session.closesStream requests = false) :
    ((send requests).runOn stream).2.session.isClosed = true ↔
      originBehind ((send requests).runOn stream).1 = .stream ∨
        ∃ posting ∈ postings (.send requests) stream, posting.reply.EndsStream := by
  have hway : ∀ body, (post body stream.underWay).2.session.isClosed = true := by
    intro body
    rw [session_post]
    rfl
  have hstamped := (stream.session.closesStream_stamp requests).trans hkeeps
  rw [postings_send_of_not_isClosed hopen requests rfl, exists_endsStream_posted_iff,
    runOn_send_of_not_isClosed hopen]
  dsimp only
  exact isClosed_settle_iff (hway _) hstamped

end Stream

end Http

namespace Channel.Stream

variable {σ : Type} {stream : Stream σ} {requests sent : List Request}

/-- With the fates of its requests an exchange leaves the stream open. -/
theorem isClosed_settle_iff {result : Except Error (List StreamResult)}
    (hway : stream.session.isClosed = true) (hkeeps : Session.closesStream sent = false)
    (hresult : FailsWith Error.InStream result) :
    (settle sent result stream).2.session.isClosed = true ↔
      originBehind (settle sent result stream).1 = .stream := by
  cases result with
  | error cause => exact iff_of_true hway (hresult cause rfl).origin_eq
  | ok results =>
    have hreply : originBehind (checkResults sent results) = .reply :=
      originBehind_of_failsAt (checkResults_failsAt sent results)
    have hfinish : (stream.session.finishChannel sent results).2.isClosed = false := by
      rw [Session.finishChannel, hkeeps]
      rfl
    show (stream.session.finishChannel sent results).2.isClosed = true ↔
      originBehind (checkResults sent results) = .stream
    rw [hfinish, hreply]
    decide

/-- Behind an exchange a stream is closed if the exchange has failed. -/
theorem isClosed_send_iff [Peer σ] (hopen : stream.session.isClosed = false)
    (hkeeps : Session.closesStream requests = false) :
    ((send requests).runOn stream).2.session.isClosed = true ↔
      originBehind ((send requests).runOn stream).1 = .stream := by
  have hstamped := (stream.session.closesStream_stamp requests).trans hkeeps
  rw [runOn_send_of_not_isClosed hopen]
  refine isClosed_settle_iff ?_ hstamped (carry_failsWith _ _)
  rw [session_carry]
  rfl

end Channel.Stream

/-! ## Calls that fail -/

namespace ConnectionCall

section

variable {τ : Type} [Transport τ] {call : ConnectionCall} {connection : Connection τ}
  {error : Error}

/-- A call that does not run in chunks fails before it has touched the stream, or behind one
exchange. -/
theorem failed_cases (hchunks : ¬ call.RunsInChunks connection.options)
    (hfailed : (call.run.runOn connection).1 = .error error) :
    (error.origin = .asked ∧ (call.after connection).stream = connection.stream) ∨
      ∃ requests, Session.closesStream requests = false ∧
        error.origin = originBehind ((Transport.send requests).runOn connection.stream).1 ∧
        (call.after connection).stream =
          ((Transport.send requests).runOn connection.stream).2 := by
  rw [runOn_run] at hfailed
  rw [after, runOn_run]
  exact asksOnce connection.notes hchunks connection.stream error hfailed

/-- A script in chunks that fails closes its stream, whatever it fails with. -/
theorem isClosed_of_runsInChunks [LawfulTransport τ] (hchunks : call.RunsInChunks connection.options)
    (hfailed : (call.run.runOn connection).1 = .error error) :
    (call.after connection).session.isClosed = true := by
  obtain ⟨script, hcall⟩ := streamCall_of_runsInChunks (τ := τ) connection.notes hchunks
  rw [runOn_run] at hfailed
  rw [after, runOn_run]
  show (Transport.session ((call.streamCall connection.notes).runOn connection.stream).2).isClosed
    = true
  simp only [hcall, Call.runOn_map, runOn_closingOnError] at hfailed ⊢
  cases hscript : script.runOn connection.stream with
  | mk result stream =>
    rw [hscript] at hfailed
    cases result with
    | error cause => exact LawfulTransport.isClosed_close stream
    | ok summary => cases hfailed

/-- A call that fails leaves the stream closed if the stream cannot be used any more, and on an
error in a reply if it runs in chunks or its exchange has ended the stream. -/
theorem isClosed_after_iff [FinalTransport τ] [LawfulTransport τ] {Ended : Prop}
    (hopen : connection.session.isClosed = false)
    (hfailed : (call.run.runOn connection).1 = .error error)
    (hexchange : ∀ requests, Session.closesStream requests = false →
      (call.after connection).stream = ((Transport.send requests).runOn connection.stream).2 →
      ((call.after connection).session.isClosed = true ↔
        originBehind ((Transport.send requests).runOn connection.stream).1 = .stream ∨ Ended)) :
    (call.after connection).session.isClosed = true ↔
      error.isBadConnection = true ∨
        error.origin = .reply ∧ (call.RunsInChunks connection.options ∨ Ended) := by
  rw [Error.isBadConnection_eq_true_iff]
  by_cases hchunks : call.RunsInChunks connection.options
  · -- it is closed whatever the error, which is not one in what is asked for
    refine iff_of_true (isClosed_of_runsInChunks hchunks hfailed) ?_
    have hne : error.origin ≠ .asked := by
      rw [runOn_run] at hfailed
      exact (sameCall_of_runsInChunks (υ := τ) connection.notes
        hchunks).origin_ne_asked_of_reply hfailed
    cases horigin : error.origin with
    | asked => exact absurd horigin hne
    | reply => exact .inr ⟨rfl, .inl hchunks⟩
    | stream => exact .inl rfl
  · rcases failed_cases hchunks hfailed with
      ⟨horigin, hstream⟩ | ⟨requests, hkeeps, horigin, hstream⟩
    · have hafter : (call.after connection).session = connection.session :=
        congrArg Transport.session hstream
      rw [hafter, hopen, horigin]
      simp
    · have hne := originBehind_ne_asked requests connection.stream
      rw [hexchange requests hkeeps hstream, ← horigin, or_iff_right hchunks]
      rw [← horigin] at hne
      cases hfound : error.origin with
      | asked => exact absurd hfound hne
      | reply => simp
      | stream => simp

end

/-- With a noting server a call leaves the session that it leaves with the server itself. -/
theorem session_notingServer {σ : Type} [Http.Server σ] (call : ConnectionCall)
    (connection : Connection (Http.Stream σ)) :
    (call.after (connection.mapStream (Http.Stream.noting · []))).session =
      (call.after connection).session := by
  have hrelated : ∃ postings,
      connection.stream.noting [] = connection.stream.noting postings := ⟨[], rfl⟩
  obtain ⟨_, postings, himage⟩ :=
    (call.sameCall connection.notes).simulates Http.simulation_noting hrelated
  rw [after, after, runOn_run, runOn_run]
  exact congrArg Http.Stream.session himage

/-- Over HTTP an exchange may end the stream in its reply. -/
theorem isClosed_after_failure_http {σ : Type} [Http.Server σ]
    {connection : Connection (Http.Stream σ)} {call : ConnectionCall} {error : Error}
    (hopen : connection.session.isClosed = false)
    (hfailed : (call.run.runOn connection).1 = .error error) :
    (call.after connection).session.isClosed = true ↔
      error.isBadConnection = true ∨ error.origin = .reply ∧
        (call.RunsInChunks connection.options ∨
          ∃ posting ∈ call.postings connection, posting.reply.EndsStream) := by
  -- what is posted is noted by a noting server, and all else is as it is with the server itself
  rw [← session_notingServer]
  rw [← call.result_notingServer connection []] at hfailed
  have hopenNoting : (connection.mapStream (Http.Stream.noting · [])).session.isClosed = false :=
    hopen
  refine isClosed_after_iff hopenNoting hfailed fun requests hkeeps hstream => ?_
  have hnoting := Http.Stream.runOn_noting (.send requests) connection.stream []
  have hposted : call.postings connection =
      Http.Stream.postings (.send requests) connection.stream :=
    congrArg (fun stream => stream.server.postings) hstream
  have hsession : (call.after (connection.mapStream (Http.Stream.noting · []))).session =
      ((Http.Stream.send requests).runOn connection.stream).2.session :=
    congrArg Http.Stream.session (hstream.trans (congrArg Prod.snd hnoting))
  have hresult : ((Transport.send requests).runOn
      (connection.mapStream (Http.Stream.noting · [])).stream).1 =
        ((Http.Stream.send requests).runOn connection.stream).1 :=
    congrArg Prod.fst hnoting
  rw [hsession, hresult, hposted]
  exact Http.Stream.isClosed_send_iff hopen hkeeps

/-- On a channel the answers to an exchange leave the stream open. -/
theorem isClosed_after_failure_channel {σ : Type} [Channel.Peer σ]
    {connection : Connection (Channel.Stream σ)} {call : ConnectionCall} {error : Error}
    (hopen : connection.session.isClosed = false)
    (hfailed : (call.run.runOn connection).1 = .error error) :
    (call.after connection).session.isClosed = true ↔
      error.isBadConnection = true ∨ error.origin = .reply ∧
        call.RunsInChunks connection.options := by
  rw [← or_false (call.RunsInChunks connection.options)]
  refine isClosed_after_iff hopen hfailed fun requests hkeeps hstream => ?_
  have hsession : (call.after connection).session =
      ((Channel.Stream.send requests).runOn connection.stream).2.session :=
    congrArg Channel.Stream.session hstream
  rw [hsession, or_false]
  exact Channel.Stream.isClosed_send_iff hopen hkeeps

end ConnectionCall

/-- A call that fails on an open stream leaves it closed in these cases and no others: the error is
that of a bad connection, or it is found in a reply, and the call runs a script in chunks or, over
HTTP, the reply has ended the stream. -/
theorem isClosed_after_failure_iff {σ υ : Type} [Http.Server σ] [Channel.Peer υ]
    (http : Connection (Http.Stream σ)) (channel : Connection (Channel.Stream υ))
    (call : ConnectionCall) (error : Error) :
    (http.session.isClosed = false → (call.run.runOn http).1 = .error error →
      ((call.after http).session.isClosed = true ↔
        error.isBadConnection = true ∨ error.origin = .reply ∧
          (call.RunsInChunks http.options ∨
            ∃ posting ∈ call.postings http, posting.reply.EndsStream))) ∧
    (channel.session.isClosed = false → (call.run.runOn channel).1 = .error error →
      ((call.after channel).session.isClosed = true ↔
        error.isBadConnection = true ∨ error.origin = .reply ∧
          call.RunsInChunks channel.options)) :=
  ⟨ConnectionCall.isClosed_after_failure_http, ConnectionCall.isClosed_after_failure_channel⟩

/-- A connection whose server reports an error and ends the stream in one reply. -/
def endedByReply : Connection (Http.Stream Http.Prepared) where
  stream := .new
    ⟨[.answered 200 ("\x7b\"results\":[\x7b\"type\":\"error\",\"error\":" ++
      "\x7b\"message\":\"locked\"\x7d\x7d]\x7d")]⟩
    "http://localhost" ""

/-- The answers to `BEGIN` and to a chunk of two statements of which the first fails. -/
def failingChunkAnswers : List String :=
  ["\x7b\"type\":\"response_ok\",\"request_id\":0,\"response\":" ++
      "\x7b\"type\":\"execute\",\"result\":\x7b\x7d\x7d\x7d",
    "\x7b\"type\":\"response_ok\",\"request_id\":1,\"response\":" ++
      "\x7b\"type\":\"batch\",\"result\":\x7b\"step_results\":[null,null]," ++
      "\"step_errors\":[\x7b\"message\":\"locked\"\x7d,null]\x7d\x7d\x7d"]

/-- A connection on a channel on which a script in chunks fails. -/
def failingInChunks : Connection (Channel.Stream Channel.Silent) where
  stream :=
    { peer := {}
      inbox := failingChunkAnswers.map .frame
      session := { state := .active none } }
  options := { chunkThresholdBytes := 16 }

/-- The error of a server on which a table is locked. -/
def lockedError : Error :=
  .inStatement "SELECT 1" (.server { message := "locked" })

/-- A script of two statements. -/
def twoSelects : ConnectionCall :=
  .executeScript "SELECT 1; SELECT 22"

theorem twoSelects_runsInChunks : twoSelects.RunsInChunks failingInChunks.options :=
  ⟨by decide +kernel, by decide +kernel⟩

theorem twoSelects_fails : (twoSelects.run.runOn failingInChunks).1 = .error lockedError := by
  decide +kernel

theorem isClosed_after_failure_iff_of_locked :
    let select : ConnectionCall := .query "SELECT 1" .none
    ((select.run.runOn endedByReply).1 = .error lockedError ∧
        ∃ posting ∈ select.postings endedByReply, posting.reply.EndsStream) ∧
      (twoSelects.run.runOn failingInChunks).1 = .error lockedError ∧
      (twoSelects.after failingInChunks).session.isClosed = true := by
  intro select
  have hselect : (select.run.runOn endedByReply).1 = .error lockedError := by decide +kernel
  have hended : (select.after endedByReply).session.isClosed = true := by decide +kernel
  obtain ⟨hselected, _⟩ :=
    isClosed_after_failure_iff endedByReply failingInChunks select lockedError
  obtain ⟨_, hscript⟩ :=
    isClosed_after_failure_iff endedByReply failingInChunks twoSelects lockedError
  refine ⟨⟨hselect, ?_⟩, twoSelects_fails, ?_⟩
  · -- the error is found in a reply, and one statement does not run in chunks
    rcases (hselected rfl hselect).mp hended with hbad | ⟨_, hnone | hposting⟩
    · cases hbad
    · exact hnone.elim
    · exact hposting
  · exact (hscript rfl twoSelects_fails).mpr (.inr ⟨rfl, twoSelects_runsInChunks⟩)

/-- A script that fails between its chunks closes its stream, and its error does not say so. -/
theorem failed_script_hides_closed_stream :
    failingInChunks.session.isClosed = false ∧
      (∃ error, (twoSelects.run.runOn failingInChunks).1 = .error error ∧
        error.isBadConnection = false) ∧
      (twoSelects.after failingInChunks).session.isClosed = true :=
  ⟨rfl, ⟨lockedError, twoSelects_fails, rfl⟩,
    ConnectionCall.isClosed_of_runsInChunks twoSelects_runsInChunks twoSelects_fails⟩

end SqlStream
