import SqlStream.Proofs.Exchange
import SqlStream.Proofs.Stream.Calls

/-!
# Exchanges over HTTP

What a call on a stream posts to the server and what it makes of the reply. A *noting* server also
notes both, and a stream to it does what it does to the server itself (`Stream.runOn_noting`). So
the postings of a call are those that it makes on a noting server.
-/

namespace SqlStream.Http

open SqlStream.Wire

/-- A request that was posted, and the reply to it. -/
structure Posting where
  request : HttpRequest
  reply : HttpReply
  deriving DecidableEq

/-- A reply of success whose body holds a reply to requests of a stream. -/
def HttpReply.Reads (reply : HttpReply) (response : PipelineResponse) : Prop :=
  ∃ status body, reply = .answered status body ∧ 200 ≤ status ∧ status < 300 ∧
    PipelineResponse.parse? body = some response

/-- A reply gives a response exactly if it reads as one. -/
theorem readReply_eq_ok_iff {reply : HttpReply} {response : PipelineResponse} :
    readReply reply = .ok response ↔ reply.Reads response := by
  cases reply with
  | failed message => simp [readReply, HttpReply.Reads]
  | timedOut message => simp [readReply, HttpReply.Reads]
  | answered status body =>
    by_cases hstatus : isSuccess status = true
    · have hbounds : 200 ≤ status ∧ status < 300 := by simpa [isSuccess] using hstatus
      cases hparse : PipelineResponse.parse? body <;>
        simp [readReply, HttpReply.Reads, hstatus, hparse, hbounds]
    · have hbounds : ¬ (200 ≤ status ∧ status < 300) := by simpa [isSuccess] using hstatus
      simp only [readReply, if_neg hstatus, HttpReply.Reads, reduceCtorEq, false_iff]
      rintro ⟨_, _, heq, hlow, hhigh, _⟩
      cases heq
      exact hbounds ⟨hlow, hhigh⟩

/-- A reply is read in one way. -/
theorem HttpReply.Reads.unique {reply : HttpReply} {response other : PipelineResponse}
    (h : reply.Reads response) (hother : reply.Reads other) : response = other := by
  rw [← readReply_eq_ok_iff] at h hother
  exact Except.ok.inj (h.symm.trans hother)

/-- A server that also notes what is posted to it. -/
structure Noting (σ : Type) where
  server : σ
  postings : List Posting

instance {σ : Type} [Server σ] : Server (Noting σ) where
  respond request noting :=
    let (reply, server) := Server.respond request noting.server
    (reply, ⟨server, noting.postings ++ [⟨request, reply⟩]⟩)
  obstacle? := Server.obstacle? σ

namespace Stream

variable {σ : Type}

/-- A stream whose server notes what is posted, behind postings noted before. -/
def noting (stream : Stream σ) (postings : List Posting) : Stream (Noting σ) :=
  { stream with server := ⟨stream.server, postings⟩ }

/-- Noting postings leaves the session as it is. -/
@[simp] theorem session_noting (stream : Stream σ) (postings : List Posting) :
    (stream.noting postings).session = stream.session :=
  rfl

/-- What a call hands over: the requests to send, or the one that closes a stream with a baton. -/
def handedOver (stream : Stream σ) : StreamCall → Option PipelineRequest
  | .send requests =>
    if stream.session.isClosed then none
    else some ⟨stream.session.baton, stream.session.stamp requests⟩
  | .close => stream.session.baton.map fun baton => ⟨some baton, [.close]⟩

/-- On an open stream a call hands over its requests with the baton and the watermark. -/
theorem handedOver_send_of_not_isClosed {stream : Stream σ}
    (hopen : stream.session.isClosed = false)
    (requests : List Request) :
    stream.handedOver (.send requests) =
      some ⟨stream.session.baton, stream.session.stamp requests⟩ := by
  rw [handedOver, if_neg (by simp [hopen])]

/-- What is handed over are the requests of the call as they go on the wire, with the baton of a
stream that is not closed. -/
theorem of_handedOver {stream : Stream σ} {call : StreamCall} {body : PipelineRequest}
    (hbody : stream.handedOver call = some body) :
    stream.session.isClosed = false ∧
      body = ⟨stream.session.baton, stream.session.stamp call.requests⟩ := by
  cases call with
  | send requests =>
    by_cases hclosed : stream.session.isClosed = true
    · rw [handedOver, if_pos hclosed] at hbody
      cases hbody
    · have hopen : stream.session.isClosed = false := by simpa using hclosed
      rw [handedOver_send_of_not_isClosed hopen] at hbody
      exact ⟨hopen, (Option.some.inj hbody).symm⟩
  | close =>
    rw [handedOver, Option.map_eq_some_iff] at hbody
    obtain ⟨baton, hbaton, rfl⟩ := hbody
    refine ⟨Session.isClosed_eq_false_iff.mpr fun hstate => ?_, ?_⟩
    · rw [Session.baton, hstate] at hbaton
      cases hbaton
    · rw [hbaton, StreamCall.requests, Session.stamp_close]

/-- What sending comes to, with the reply to the requests and the stream at that time. -/
def settle (sent : List Request) (reply : HttpReply) (stream : Stream σ) :
    Except Error (List Response) × Stream σ :=
  match readReply reply with
  | .error error => (.error error, stream)
  | .ok response =>
    let (responses, session) := stream.session.finishPipeline sent response
    (responses, { stream with session })

/-- Settling an exchange leaves the notes of postings as they are. -/
theorem settle_noting (sent : List Request) (reply : HttpReply) (stream : Stream σ)
    (postings : List Posting) :
    settle sent reply (stream.noting postings) =
      ((settle sent reply stream).1, (settle sent reply stream).2.noting postings) := by
  unfold settle
  cases readReply reply <;> rfl

variable [Server σ] {body : PipelineRequest} {stream : Stream σ}

/-- A request that HTTP can send becomes what the server makes of it. -/
theorem post_of_no_obstacle (hnone : Server.obstacle? σ (stream.httpRequest body) = none) :
    post body stream =
      let (reply, server) := Server.respond (stream.httpRequest body) stream.server
      (reply, { stream with server }) := by
  unfold post
  simp only [hnone]

/-- A request that HTTP cannot send fails without the server. -/
theorem post_of_obstacle {message : String}
    (hsome : Server.obstacle? σ (stream.httpRequest body) = some message) :
    post body stream = (.failed message, stream) := by
  unfold post
  simp only [hsome]

/-- What is handed over changes the server only. -/
theorem post_eq_with_server (body : PipelineRequest) (stream : Stream σ) :
    ∃ server, (post body stream).2 = { stream with server } := by
  cases hobstacle : Server.obstacle? σ (stream.httpRequest body) with
  | none =>
    rw [post_of_no_obstacle hobstacle]
    exact ⟨_, rfl⟩
  | some message =>
    rw [post_of_obstacle hobstacle]
    exact ⟨_, rfl⟩

/-- What is posted when requests are handed over. -/
@[irreducible]
def posted (body : PipelineRequest) (stream : Stream σ) : List Posting :=
  if Server.obstacle? σ (stream.httpRequest body) = none then
    [⟨stream.httpRequest body, (post body stream).1⟩]
  else []

/-- A request that can be sent is posted once. -/
theorem posted_of_no_obstacle (hnone : Server.obstacle? σ (stream.httpRequest body) = none) :
    posted body stream = [⟨stream.httpRequest body, (post body stream).1⟩] := by
  unfold posted
  rw [if_pos hnone]

/-- A request that cannot be sent is not posted. -/
theorem posted_of_obstacle {message : String}
    (hsome : Server.obstacle? σ (stream.httpRequest body) = some message) :
    posted body stream = [] := by
  unfold posted
  rw [if_neg (by simp [hsome])]

/-- Posting notes the postings it makes behind the earlier ones and does nothing else with them. -/
theorem post_noting (body : PipelineRequest) (stream : Stream σ) (postings : List Posting) :
    post body (stream.noting postings) =
      ((post body stream).1, (post body stream).2.noting (postings ++ posted body stream)) := by
  have hrequest : (stream.noting postings).httpRequest body = stream.httpRequest body := rfl
  cases hobstacle : Server.obstacle? σ (stream.httpRequest body) with
  | none =>
    rw [posted_of_no_obstacle hobstacle, post_of_no_obstacle hobstacle,
      post_of_no_obstacle (hrequest ▸ hobstacle), hrequest]
    rfl
  | some message =>
    rw [posted_of_obstacle hobstacle, post_of_obstacle hobstacle,
      post_of_obstacle (hrequest ▸ hobstacle), List.append_nil]

/-- What is posted is the request itself, unless HTTP cannot send it. -/
theorem map_request_posted (body : PipelineRequest) (stream : Stream σ) :
    (posted body stream).map Posting.request =
      if Server.obstacle? σ (stream.httpRequest body) = none then [stream.httpRequest body]
      else [] := by
  unfold posted
  split <;> rfl

/-- What is posted is the request, with the reply that the stream reads. -/
theorem eq_of_mem_posted {posting : Posting} (hmem : posting ∈ posted body stream) :
    posting = ⟨stream.httpRequest body, (post body stream).1⟩ := by
  unfold posted at hmem
  split at hmem
  · exact List.mem_singleton.mp hmem
  · cases hmem

/-- What is posted is noted with the reply that the stream reads. -/
theorem reply_eq_of_mem_posted {posting : Posting} (hmem : posting ∈ posted body stream) :
    posting.reply = (post body stream).1 := by
  rw [eq_of_mem_posted hmem]

/-- There is at most one posting at a time. -/
theorem posted_cases (body : PipelineRequest) (stream : Stream σ) :
    posted body stream = [] ∨ ∃ posting, posted body stream = [posting] := by
  cases hobstacle : Server.obstacle? σ (stream.httpRequest body) with
  | none => exact .inr ⟨_, posted_of_no_obstacle hobstacle⟩
  | some message => exact .inl (posted_of_obstacle hobstacle)

/-- A reply that was read is the reply to a request that was posted. -/
theorem posted_of_reads {response : PipelineResponse}
    (hreads : (post body stream).1.Reads response) :
    posted body stream = [⟨stream.httpRequest body, (post body stream).1⟩] := by
  cases hobstacle : Server.obstacle? σ (stream.httpRequest body) with
  | none => exact posted_of_no_obstacle hobstacle
  | some message =>
    -- what HTTP cannot send has failed
    rw [post_of_obstacle hobstacle] at hreads
    obtain ⟨_, _, heq, _⟩ := hreads
    cases heq

/-! ## Sending and closing -/

/-- A stream whose exchange is under way. -/
def underWay (stream : Stream σ) : Stream σ :=
  { stream with session := stream.session.close.2 }

/-- On a closed stream a call is refused and nothing changes. -/
theorem runOn_send_of_isClosed (hclosed : stream.session.isClosed = true)
    (requests : List Request) :
    (send requests).runOn stream = (.error .streamClosed, stream) := by
  unfold send
  rw [Call.runOn_get_bind, Session.begin_of_isClosed hclosed, Call.runOn_ofExcept_bind]

/-- Sending hands the requests over with the baton and settles with the reply. -/
theorem runOn_send_of_not_isClosed (hopen : stream.session.isClosed = false)
    (requests : List Request) :
    (send requests).runOn stream =
      let sent := stream.session.stamp requests
      let handed := post ⟨stream.session.baton, sent⟩ stream.underWay
      settle sent handed.1 handed.2 := by
  unfold send
  rw [Call.runOn_get_bind, Session.begin_of_not_isClosed hopen, Call.runOn_ofExcept_bind]
  simp only [Call.runOn_bind, Call.runOn_modify, Call.runOn_get, Call.runOn_set,
    Call.runOn_ofExcept, underWay, settle]
  generalize @post σ _ _ _ = handed
  cases readReply handed.1 <;> rfl

/-- A closed stream is left as it is. -/
theorem after_send_of_isClosed (hclosed : stream.session.isClosed = true)
    (requests : List Request) : (StreamCall.send requests).after stream = stream :=
  congrArg Prod.snd (runOn_send_of_isClosed hclosed requests)

/-- An open stream is left as settling the reply to the posted requests leaves it. -/
theorem after_send_of_not_isClosed (hopen : stream.session.isClosed = false)
    (requests : List Request) {body : PipelineRequest}
    (hbody : body = ⟨stream.session.baton, stream.session.stamp requests⟩) :
    (StreamCall.send requests).after stream =
      (settle body.requests (post body stream.underWay).1 (post body stream.underWay).2).2 := by
  subst hbody
  exact congrArg Prod.snd (runOn_send_of_not_isClosed hopen requests)

/-- A stream that holds a baton is closed with a request to the server. -/
theorem close_of_baton {baton : String} (hbaton : stream.session.baton = some baton) :
    close stream = (post ⟨some baton, [.close]⟩ stream.underWay).2 := by
  unfold close
  simp only [Session.close, hbaton]
  rfl

/-- A stream that holds no baton is closed without a request. -/
theorem close_of_no_baton (hbaton : stream.session.baton = none) :
    close stream = stream.underWay := by
  unfold close
  simp only [Session.close, hbaton]
  rfl

/-! ## Noting -/

/-- A stream with a noting server does what it does with the server itself, and what it hands over
is noted. -/
theorem runOn_noting (call : StreamCall) (stream : Stream σ) (postings : List Posting) :
    call.run.runOn (stream.noting postings) =
      ((call.run.runOn stream).1,
        (call.after stream).noting
          (postings ++ (stream.handedOver call).elim [] fun body => posted body stream.underWay)) := by
  have hway : (stream.noting postings).underWay = stream.underWay.noting postings := rfl
  unfold StreamCall.after
  cases call with
  | send requests =>
    show (send requests).runOn (stream.noting postings) =
      (((send requests).runOn stream).1, ((send requests).runOn stream).2.noting _)
    by_cases hclosed : stream.session.isClosed = true
    · rw [runOn_send_of_isClosed hclosed, runOn_send_of_isClosed (by exact hclosed)]
      simp [handedOver, hclosed]
    · have hopen : stream.session.isClosed = false := by simpa using hclosed
      rw [runOn_send_of_not_isClosed hopen, runOn_send_of_not_isClosed (by exact hopen), hway]
      simp [post_noting, settle_noting, handedOver, hopen]
  | close =>
    show (_, close (stream.noting postings)) = (_, (close stream).noting _)
    cases hbaton : stream.session.baton with
    | none =>
      rw [close_of_no_baton hbaton, close_of_no_baton (by exact hbaton), hway]
      simp [handedOver, hbaton]
    | some baton =>
      rw [close_of_baton hbaton, close_of_baton (by exact hbaton), hway, post_noting]
      simp [handedOver, hbaton]

/-- What a call posts. -/
def postings (call : StreamCall) (stream : Stream σ) : List Posting :=
  (call.after (stream.noting [])).server.postings

/-- A call posts what posting its handed-over body does. -/
theorem postings_eq (call : StreamCall) (stream : Stream σ) :
    postings call stream =
      (stream.handedOver call).elim [] fun body => posted body stream.underWay := by
  rw [postings, StreamCall.after, runOn_noting]
  rfl

/-- A closed stream posts nothing. -/
theorem postings_of_isClosed (hclosed : stream.session.isClosed = true) (call : StreamCall) :
    postings call stream = [] := by
  rw [postings_eq]
  cases hbody : stream.handedOver call with
  | none => rfl
  | some body => exact absurd hclosed (by simp [(of_handedOver hbody).1])

/-- An open stream posts its requests with the baton and the watermark. -/
theorem postings_send_of_not_isClosed (hopen : stream.session.isClosed = false)
    (requests : List Request) {body : PipelineRequest}
    (hbody : body = ⟨stream.session.baton, stream.session.stamp requests⟩) :
    postings (.send requests) stream = posted body stream.underWay := by
  rw [postings_eq, handedOver_send_of_not_isClosed hopen, Option.elim_some, hbody]

/-- There is at most one posting to a call. -/
theorem postings_cases (call : StreamCall) (stream : Stream σ) :
    postings call stream = [] ∨ ∃ posting, postings call stream = [posting] := by
  rw [postings_eq]
  cases stream.handedOver call with
  | none => exact .inl (Option.elim_none _ _)
  | some body =>
    rw [Option.elim_some]
    exact posted_cases body stream.underWay

end Stream

end SqlStream.Http
