import SqlStream.Proofs.Channel.Exchange
import SqlStream.Proofs.Http.Exchange

/-!
# The watermark of a stream

A session keeps the largest replication index of all results that it was told, also of those that
come with failures (`isLargest_observe`), and never a smaller one. Requests that run statements wait
for it, unless the caller set an index of its own. Both hold on any run of calls over either
transport (`watermark_is_largest_seen`).
-/

namespace SqlStream

open SqlStream.Wire

/-! ## Replication indices -/

/-- The replication indices in an answer: that of a statement, or those of the steps of a batch and
of the batch itself. -/
def Wire.Response.indices : Response → List UInt64
  | execute result => result.replicationIndex.toList
  | batch result =>
    (result.stepResults.flatMap fun step => (stepIndex step).toList) ++
      result.replicationIndex.toList
  | _ => []

/-- The replication indices in the fate of a request. -/
def Wire.StreamResult.indices : StreamResult → List UInt64
  | ok (some response) => response.indices
  | _ => []

/-- True of the largest of several replication indices; it is missing if there are none. -/
def IsLargest (indices : List UInt64) : Option UInt64 → Prop
  | none => indices = []
  | some index => index ∈ indices ∧ ∀ other ∈ indices, other ≤ index

theorem isLargest_toList (index : Option UInt64) : IsLargest index.toList index := by
  cases index with
  | none => exact rfl
  | some index => simp [IsLargest]

/-- The largest of two collections is the larger of the largest of each. -/
theorem IsLargest.append {indices others : List UInt64} {index other : Option UInt64}
    (h : IsLargest indices index) (hother : IsLargest others other) :
    IsLargest (indices ++ others) (maxIndex index other) := by
  cases index with
  | none =>
    obtain rfl : indices = [] := h
    exact hother
  | some index =>
    cases other with
    | none =>
      obtain rfl : others = [] := hother
      rwa [List.append_nil]
    | some other =>
      obtain ⟨hmem, hall⟩ := h
      obtain ⟨hmemOther, hallOther⟩ := hother
      show IsLargest _ (some (if index ≤ other then other else index))
      by_cases hle : index ≤ other
      · rw [if_pos hle]
        refine ⟨List.mem_append_right _ hmemOther, fun i hi => ?_⟩
        rcases List.mem_append.mp hi with hi | hi
        · exact UInt64.le_trans (hall i hi) hle
        · exact hallOther i hi
      · rw [if_neg hle]
        have hge : other ≤ index := (UInt64.le_total index other).resolve_left hle
        refine ⟨List.mem_append_left _ hmem, fun i hi => ?_⟩
        rcases List.mem_append.mp hi with hi | hi
        · exact hall i hi
        · exact UInt64.le_trans (hallOther i hi) hge

/-- Indices that are met one after another, on top of those known before. -/
theorem IsLargest.foldl_maxIndex {α : Type} {indices : α → List UInt64}
    {index : α → Option UInt64} (heach : ∀ x, IsLargest (indices x) (index x))
    {known : List UInt64} {watermark : Option UInt64} (h : IsLargest known watermark)
    (xs : List α) :
    IsLargest (known ++ xs.flatMap indices) ((xs.map index).foldl maxIndex watermark) := by
  induction xs generalizing known watermark with
  | nil => simpa using h
  | cons x xs ih =>
    rw [List.flatMap_cons, ← List.append_assoc]
    exact ih (h.append (heach x))

/-- Indices of which only the largest is kept are as good as all of them. -/
theorem IsLargest.trans {indices others : List UInt64} {index other : Option UInt64}
    (h : IsLargest indices index) (hother : IsLargest (index.toList ++ others) other) :
    IsLargest (indices ++ others) other := by
  cases index with
  | none =>
    obtain rfl : indices = [] := h
    exact hother
  | some index =>
    cases other with
    | none => cases hother
    | some other =>
      obtain ⟨hmem, hall⟩ := hother
      have hle : index ≤ other := hall index (List.mem_append_left _ (List.mem_singleton_self index))
      refine ⟨?_, fun i hi => ?_⟩
      · rcases List.mem_append.mp hmem with hsame | hmem
        · rw [List.mem_singleton.mp hsame]
          exact List.mem_append_left _ h.1
        · exact List.mem_append_right _ hmem
      · rcases List.mem_append.mp hi with hi | hi
        · exact UInt64.le_trans (h.2 i hi) hle
        · exact hall i (List.mem_append_right _ hi)

/-- The largest of more indices is no smaller. -/
theorem IsLargest.le {indices others : List UInt64} {index other : Option UInt64}
    (h : IsLargest indices index) (hother : IsLargest (indices ++ others) other) :
    index ≤ other := by
  cases index with
  | none => exact Option.none_le
  | some index =>
    have hmem : index ∈ indices ++ others := List.mem_append_left _ h.1
    cases other with
    | none =>
      rw [show indices ++ others = [] from hother] at hmem
      cases hmem
    | some other => exact Option.some_le_some.mpr (hother.2 index hmem)

theorem Wire.Response.isLargest_indices (response : Response) :
    IsLargest response.indices response.replicationIndex := by
  cases response with
  | execute result => exact isLargest_toList result.replicationIndex
  | batch result =>
    have hsteps := IsLargest.foldl_maxIndex (fun step => isLargest_toList (stepIndex step))
      (isLargest_toList none) result.stepResults
    exact hsteps.append (isLargest_toList result.replicationIndex)
  | storeSql => exact rfl
  | closeSql => exact rfl
  | close => exact rfl
  | unknown => exact rfl

theorem Wire.StreamResult.isLargest_indices (result : StreamResult) :
    IsLargest result.indices result.replicationIndex := by
  cases result with
  | ok response =>
    cases response with
    | none => exact rfl
    | some response => exact response.isLargest_indices
  | error cause => exact rfl
  | unknown => exact rfl

/-! ## Sessions -/

/-- All results that a session is told count, whether or not they answer requests. -/
theorem Session.isLargest_observe {known : List UInt64} {session : Session}
    (h : IsLargest known session.replicationIndex) (results : List StreamResult) :
    IsLargest (known ++ results.flatMap StreamResult.indices)
      (session.observe results).replicationIndex :=
  h.foldl_maxIndex StreamResult.isLargest_indices results

theorem Session.le_observe (session : Session) (results : List StreamResult) :
    session.replicationIndex ≤ (session.observe results).replicationIndex :=
  have h := isLargest_toList session.replicationIndex
  h.le (Session.isLargest_observe h results)

/-- What can be done to a session. -/
inductive SessionOperation where
  | markOpen
  | close
  | begin (requests : List Request)
  | finishPipeline (sent : List Request) (response : PipelineResponse)
  | finishChannel (sent : List Request) (results : List StreamResult)

/-- The session behind an operation. -/
def SessionOperation.apply : SessionOperation → Session → Session
  | markOpen, session => session.markOpen
  | close, session => session.close.2
  | begin requests, session =>
    match session.begin requests with
    | .ok (_, next) => next
    | .error _ => session
  | finishPipeline sent response, session => (session.finishPipeline sent response).2
  | finishChannel sent results, session => (session.finishChannel sent results).2

/-- No operation lowers the watermark. -/
theorem SessionOperation.le_apply (operation : SessionOperation) (session : Session) :
    session.replicationIndex ≤ (operation.apply session).replicationIndex := by
  have hsame : session.replicationIndex ≤ session.replicationIndex := session.le_observe []
  cases operation with
  | markOpen => exact hsame
  | close => exact hsame
  | begin requests =>
    by_cases hclosed : session.isClosed = true
    · rw [apply, Session.begin_of_isClosed hclosed]
      exact hsame
    · rw [apply, Session.begin_of_not_isClosed (by simpa using hclosed)]
      exact hsame
  | finishPipeline sent response =>
    rw [apply, Session.replicationIndex_finishPipeline]
    exact session.le_observe response.results
  | finishChannel sent results =>
    rw [apply, Session.replicationIndex_finishChannel]
    exact session.le_observe results

/-- What it is for a session to begin an exchange with the watermark: it hands out the requests with
it and nothing else of them changed, and keeps it; a session that is closed begins none. -/
def Session.BeginsStamped (session : Session) (requests : List Request) : Prop :=
  match session.begin requests with
  | .ok (payload, next) =>
    List.Forall₂ (Request.Stamped session.replicationIndex) requests payload.requests ∧
      next.replicationIndex = session.replicationIndex
  | .error error => error = .streamClosed ∧ session.isClosed = true

theorem Session.beginsStamped (session : Session) (requests : List Request) :
    session.BeginsStamped requests := by
  unfold BeginsStamped
  by_cases hclosed : session.isClosed = true
  · rw [begin_of_isClosed hclosed]
    exact ⟨rfl, hclosed⟩
  · rw [begin_of_not_isClosed (by simpa using hclosed)]
    exact ⟨session.stamped_stamp requests, rfl⟩

/-! ## Runs -/

section

variable {τ : Type}

/-- The replication indices that calls are told one after another, where `told` gives the results
that one call is told. -/
def indicesTold [Transport τ] (told : StreamCall → τ → List StreamResult) :
    List StreamCall → τ → List UInt64
  | [], _ => []
  | call :: calls, stream =>
    (told call stream).flatMap StreamResult.indices ++ indicesTold told calls (call.after stream)

/-- One call of a run that keeps the watermark. -/
structure CallKeepsWatermark [Transport τ] (wire : StreamCall → τ → List Request)
    (told : StreamCall → τ → List StreamResult) (call : StreamCall) (stream : τ) : Prop where
  /-- The watermark becomes the largest of what it was and what the call is told. -/
  raised : IsLargest
    ((Transport.session stream).replicationIndex.toList ++
      (told call stream).flatMap StreamResult.indices)
    (Transport.session (call.after stream)).replicationIndex
  /-- Requests on the wire are the first ones asked for, with the watermark. -/
  stamped : ∃ sent,
    List.Forall₂ (Request.Stamped (Transport.session stream).replicationIndex) call.requests sent ∧
      wire call stream <+: sent

/-- A transport that keeps the watermark, where `wire` gives the requests that a call puts on the
wire and `told` the results that it is told. -/
structure KeepsWatermark [Transport τ] (wire : StreamCall → τ → List Request)
    (told : StreamCall → τ → List StreamResult) : Prop where
  /-- Behind a run the watermark is the largest of what it was and all that the calls were told. -/
  largest (calls : List StreamCall) (start : τ) : IsLargest
    ((Transport.session start).replicationIndex.toList ++ indicesTold told calls start)
    (Transport.session (streamAfter calls start)).replicationIndex
  each (calls : List StreamCall) (call : StreamCall) (start : τ) :
    CallKeepsWatermark wire told call (streamAfter calls start)

/-- A transport keeps the watermark if each call does. -/
theorem KeepsWatermark.of_each [Transport τ] {wire : StreamCall → τ → List Request}
    {told : StreamCall → τ → List StreamResult}
    (h : ∀ call stream, CallKeepsWatermark wire told call stream) : KeepsWatermark wire told where
  each calls call start := h call (streamAfter calls start)
  largest calls start := by
    induction calls generalizing start with
    | nil =>
      rw [indicesTold, List.append_nil]
      exact isLargest_toList _
    | cons call calls ih =>
      rw [indicesTold, ← List.append_assoc]
      exact (h call start).raised.trans (ih (call.after start))

/-- A call keeps the watermark if the session takes note of what it is told, and puts its requests
on the wire as they begin the exchange. -/
theorem KeepsWatermark.of_session [Transport τ] {wire : StreamCall → τ → List Request}
    {told : StreamCall → τ → List StreamResult}
    (hafter : ∀ call stream, (Transport.session (call.after stream)).replicationIndex =
      ((Transport.session stream).observe (told call stream)).replicationIndex)
    (hwire : ∀ call stream, wire call stream <+: (Transport.session stream).stamp call.requests) :
    KeepsWatermark wire told := by
  refine .of_each fun call stream => ⟨?_, ?_⟩
  · rw [hafter]
    exact Session.isLargest_observe (isLargest_toList _) _
  · exact ⟨_, (Transport.session stream).stamped_stamp call.requests, hwire call stream⟩

end

/-! ## Streams over HTTP -/

namespace Http

/-- The results in a reply, if it was read. -/
def HttpReply.results (reply : HttpReply) : List StreamResult :=
  match readReply reply with
  | .ok response => response.results
  | .error _ => []

namespace Stream

variable {σ : Type} [Server σ]

/-- The requests that a call puts on the wire. -/
def wire (call : StreamCall) (stream : Stream σ) : List Request :=
  (postings call stream).flatMap fun posting => posting.request.body.requests

/-- The results that a call is told: those in the reply to what it sends. The reply to closing the
stream is not read. -/
def told (call : StreamCall) (stream : Stream σ) : List StreamResult :=
  match call with
  | .send _ => (postings call stream).flatMap fun posting => posting.reply.results
  | .close => []

/-- What a call puts on the wire are its requests, if anything. -/
theorem wire_prefix (call : StreamCall) (stream : Stream σ) :
    wire call stream <+: stream.session.stamp call.requests := by
  rw [wire, postings_eq]
  cases hbody : stream.handedOver call with
  | none => exact List.nil_prefix
  | some body =>
    obtain ⟨-, rfl⟩ := of_handedOver hbody
    rw [Option.elim_some]
    rcases posted_cases ⟨stream.session.baton, stream.session.stamp call.requests⟩
      stream.underWay with hnone | ⟨posting, hone⟩
    · rw [hnone]
      exact List.nil_prefix
    · have hmem := hone ▸ List.mem_singleton_self posting
      rw [hone, List.flatMap_singleton, eq_of_mem_posted hmem]
      exact List.prefix_rfl

/-- What is posted is told the results in the reply; what HTTP cannot send is told none. -/
theorem flatMap_results_posted (body : PipelineRequest) (stream : Stream σ) :
    ((posted body stream).flatMap fun posting => posting.reply.results) =
      (post body stream).1.results := by
  cases hobstacle : Server.obstacle? σ (stream.httpRequest body) with
  | none => rw [posted_of_no_obstacle hobstacle, List.flatMap_singleton]
  | some message =>
    rw [posted_of_obstacle hobstacle, post_of_obstacle hobstacle]
    rfl

/-- The session takes note of all results that a call is told. -/
theorem replicationIndex_after (call : StreamCall) (stream : Stream σ) :
    (call.after stream).session.replicationIndex =
      (stream.session.observe (told call stream)).replicationIndex := by
  cases call with
  | send requests =>
    show _ =
      (stream.session.observe ((postings (.send requests) stream).flatMap _)).replicationIndex
    by_cases hclosed : stream.session.isClosed = true
    · rw [after_send_of_isClosed hclosed, postings_of_isClosed hclosed]
      rfl
    · have hopen : stream.session.isClosed = false := by simpa using hclosed
      obtain ⟨body, hbody⟩ : ∃ body : PipelineRequest,
          body = ⟨stream.session.baton, stream.session.stamp requests⟩ := ⟨_, rfl⟩
      obtain ⟨server, hposted⟩ := post_eq_with_server body stream.underWay
      rw [after_send_of_not_isClosed hopen requests hbody,
        postings_send_of_not_isClosed hopen requests hbody, flatMap_results_posted, hposted,
        settle, HttpReply.results]
      cases readReply (post body stream.underWay).1 <;> rfl
  | close =>
    show (close stream).session.replicationIndex = stream.session.replicationIndex
    cases hbaton : stream.session.baton with
    | none => rw [close_of_no_baton hbaton]; rfl
    | some baton => rw [close_of_baton hbaton, session_post]; rfl

/-- Streams over HTTP keep the watermark. -/
theorem keepsWatermark : KeepsWatermark (wire (σ := σ)) told :=
  .of_session replicationIndex_after wire_prefix

end Stream

end Http

/-! ## Streams on a channel -/

namespace Channel.Stream

variable {σ : Type} [Peer σ]

/-- The requests that a call puts on the wire. -/
def wire (call : StreamCall) (stream : Stream σ) : List Request :=
  requestsOf (messages call stream)

/-- The results that a call is told: the fates of the requests it sends, if all become known. -/
def told (call : StreamCall) (stream : Stream σ) : List StreamResult :=
  match call with
  | .send requests =>
    if stream.session.isClosed then []
    else
      match ((carry (stream.session.stamp requests)).runOn stream.underWay).1 with
      | .ok results => results
      | .error _ => []
  | .close => []

/-- The session takes note of all results that a call is told. -/
theorem replicationIndex_after (call : StreamCall) (stream : Stream σ) :
    (call.after stream).session.replicationIndex =
      (stream.session.observe (told call stream)).replicationIndex := by
  cases call with
  | send requests =>
    rw [told]
    by_cases hclosed : stream.session.isClosed = true
    · rw [after_send_of_isClosed hclosed, if_pos hclosed]
      rfl
    · have hopen : stream.session.isClosed = false := by simpa using hclosed
      have hsession := session_carry (stream.session.stamp requests) stream.underWay
      rw [if_neg hclosed]
      cases hcarry : (carry (stream.session.stamp requests)).runOn stream.underWay with
      | mk result next =>
        rw [hcarry] at hsession
        rw [after_send_of_not_isClosed hopen requests rfl hcarry]
        cases result with
        | error error =>
          show next.session.replicationIndex = stream.session.replicationIndex
          rw [hsession]
          rfl
        | ok results =>
          show (next.session.finishChannel _ results).2.replicationIndex = _
          rw [Session.replicationIndex_finishChannel, hsession]
          rfl
  | close =>
    show (close stream).session.replicationIndex = stream.session.replicationIndex
    unfold close
    split <;> rfl

/-- Streams on a channel keep the watermark. -/
theorem keepsWatermark : KeepsWatermark (wire (σ := σ)) told :=
  .of_session replicationIndex_after requestsOf_messages_prefix

end Channel.Stream

/-! ## The watermark -/

/-- No operation of a session lowers its watermark, and the requests that begin an exchange are
given it and change in nothing else. Over either transport, on any run of calls against any server,
the watermark is the largest replication index of all results the calls were told, and all requests
on the wire carry it that run statements and have no index of their own. -/
theorem watermark_is_largest_seen :
    (∀ (operation : SessionOperation) (session : Session),
      session.replicationIndex ≤ (operation.apply session).replicationIndex) ∧
    (∀ (session : Session) (requests : List Request), session.BeginsStamped requests) ∧
    (∀ (σ : Type) [Http.Server σ],
      KeepsWatermark (Http.Stream.wire (σ := σ)) Http.Stream.told) ∧
    ∀ (σ : Type) [Channel.Peer σ],
      KeepsWatermark (Channel.Stream.wire (σ := σ)) Channel.Stream.told :=
  ⟨SessionOperation.le_apply, Session.beginsStamped, fun _ => Http.Stream.keepsWatermark,
    fun _ => Channel.Stream.keepsWatermark⟩

end SqlStream
