import SqlStream.Proofs.Exchange
import SqlStream.Proofs.Stream.Calls

/-!
# Exchanges on a channel

What a call on a stream hands to the peer and what it makes of the answers. A *noting* peer also
notes what it is handed, and a stream to it does what it does to the peer itself
(`Stream.runOn_noting`).
-/

namespace SqlStream.Channel

open SqlStream.Wire

/-! ## Requests on the wire -/

/-- The request of a stream that a request on a channel stands for; none opens one. -/
def ChannelRequest.toRequest? : ChannelRequest → Option Request
  | openStream => none
  | closeStream => some .close
  | execute statement => some (.execute statement)
  | batch steps => some (.batch steps)
  | storeSql sql sqlId => some (.storeSql sql sqlId)
  | closeSql sqlId => some (.closeSql sqlId)

@[simp] theorem ChannelRequest.toRequest?_ofRequest (request : Request) :
    (ofRequest request).toRequest? = some request := by
  cases request <;> rfl

/-- The request of a stream that a message holds. -/
def ClientMessage.request? : ClientMessage → Option Request
  | hello _ => none
  | request _ asked => asked.toRequest?

/-- The requests of the stream that messages hold. -/
def requestsOf (messages : List ClientMessage) : List Request :=
  messages.filterMap ClientMessage.request?

/-- What sending a request comes to: its number, if the peer takes it. -/
def Delivery.result (requestId : Int32) : Delivery → Except Error Int32
  | accepted => .ok requestId
  | refused message => .error (.broken (.transportFailed message))

/-- A peer that also notes what it is handed. -/
structure Noting (σ : Type) where
  peer : σ
  messages : List ClientMessage

instance {σ : Type} [Peer σ] : Peer (Noting σ) where
  take message noting :=
    let (delivery, incoming, peer) := Peer.take message noting.peer
    (delivery, incoming, ⟨peer, noting.messages ++ [message]⟩)

namespace Stream

variable {σ : Type}

/-- A stream whose peer notes what it is handed, behind messages noted before. -/
def noting (stream : Stream σ) (messages : List ClientMessage) : Stream (Noting σ) :=
  { stream with peer := ⟨stream.peer, messages⟩ }

@[simp] theorem session_noting (stream : Stream σ) (messages : List ClientMessage) :
    (stream.noting messages).session = stream.session :=
  rfl

/-- A stream whose exchange is under way. -/
def underWay (stream : Stream σ) : Stream σ :=
  { stream with session := stream.session.close.2 }

/-- What sending comes to, with the fates of the requests and the stream at that time. -/
def settle (sent : List Request) (result : Except Error (List StreamResult)) (stream : Stream σ) :
    Except Error (List Response) × Stream σ :=
  match result with
  | .error error => (.error error, stream)
  | .ok results =>
    let (responses, session) := stream.session.finishChannel sent results
    (responses, { stream with session })

/-- Settling an exchange leaves the notes of messages as they are. -/
theorem settle_noting (sent : List Request) (result : Except Error (List StreamResult))
    (stream : Stream σ) (messages : List ClientMessage) :
    settle sent result (stream.noting messages) =
      ((settle sent result stream).1, (settle sent result stream).2.noting messages) := by
  cases result <;> rfl

variable [Peer σ]

/-! ## Handing requests over -/

/-- Hands requests to the peer one after another; their numbers. -/
def sendAll (requests : List Request) : Call (Stream σ) (List Int32) :=
  requests.mapM fun request => sendRequest (.ofRequest request)

/-- Hands requests to the peer and waits for their fates. -/
def carry (requests : List Request) : Call (Stream σ) (List StreamResult) := do
  let requestIds ← sendAll requests
  let (results, inbox) := awaitAnswers (requestIds.map fun id => (id, none)) (← get).inbox
  modify fun stream => { stream with inbox }
  Call.ofExcept results

/-- A request is sent under the next number, which is used up. -/
theorem runOn_sendRequest (request : ChannelRequest) (stream : Stream σ) :
    (sendRequest request).runOn stream =
      let requestId := stream.nextRequestId
      let handed := deliver (.request requestId request)
        { stream with nextRequestId := requestId + 1 }
      (handed.1.result requestId, handed.2) := by
  unfold sendRequest takeRequestId sendFrame
  simp only [Call.runOn_bind, Call.runOn_modify, Call.runOn_get, Call.runOn_set, Call.runOn_pure]
  cases (deliver (.request stream.nextRequestId request)
    { stream with nextRequestId := stream.nextRequestId + 1 }).1 <;> rfl

/-- Sending a request leaves the session as it is. -/
@[simp] theorem session_sendRequest (request : ChannelRequest) (stream : Stream σ) :
    ((sendRequest request).runOn stream).2.session = stream.session := by
  rw [runOn_sendRequest]
  rfl

/-- Requests are sent one after the other. -/
theorem sendAll_cons (request : Request) (requests : List Request) :
    sendAll (σ := σ) (request :: requests) = do
      let requestId ← sendRequest (.ofRequest request)
      let requestIds ← sendAll requests
      return requestId :: requestIds :=
  List.mapM_cons

/-- Sending requests leaves the session as it is. -/
theorem session_sendAll (requests : List Request) (stream : Stream σ) :
    ((sendAll requests).runOn stream).2.session = stream.session := by
  induction requests generalizing stream with
  | nil => rfl
  | cons request requests ih =>
    rw [sendAll_cons]
    have hfirst := session_sendRequest (.ofRequest request) stream
    cases hsend : (sendRequest (.ofRequest request)).runOn stream with
    | mk result next =>
      rw [hsend] at hfirst
      cases result with
      | error error => rw [Call.runOn_bind_error hsend, hfirst]
      | ok requestId =>
        rw [Call.runOn_bind_ok hsend, Call.runOn_bind, ← hfirst, ← ih next]
        cases (sendAll requests).runOn next with
        | mk result last => cases result <;> rfl

/-- While requests are under way the session stays as it is. -/
theorem session_carry (requests : List Request) (stream : Stream σ) :
    ((carry requests).runOn stream).2.session = stream.session := by
  unfold carry
  rw [Call.runOn_bind, ← session_sendAll requests stream]
  cases (sendAll requests).runOn stream with
  | mk result next => cases result <;> rfl

/-! ## Sending and closing -/

variable {stream : Stream σ}

/-- On a closed stream a call is refused and nothing changes. -/
theorem runOn_send_of_isClosed (hclosed : stream.session.isClosed = true)
    (requests : List Request) :
    (send requests).runOn stream = (.error .streamClosed, stream) := by
  unfold send
  rw [Call.runOn_get_bind, Session.begin_of_isClosed hclosed, Call.runOn_ofExcept_bind]

/-- Sending hands the requests over and settles with their fates. -/
theorem runOn_send_of_not_isClosed (hopen : stream.session.isClosed = false)
    (requests : List Request) :
    (send requests).runOn stream =
      let sent := stream.session.stamp requests
      let carried := (carry sent).runOn stream.underWay
      settle sent carried.1 carried.2 := by
  unfold send carry sendAll
  rw [Call.runOn_get_bind, Session.begin_of_not_isClosed hopen, Call.runOn_ofExcept_bind]
  simp only [Call.runOn_bind, Call.runOn_modify, Call.runOn_get, Call.runOn_ofExcept, underWay]
  generalize (List.mapM _ _ : Call (Stream σ) (List Int32)).runOn _ = handed
  obtain ⟨result, next⟩ := handed
  cases result with
  | error error => rfl
  | ok requestIds =>
    simp only
    cases (awaitAnswers (requestIds.map fun id => (id, none)) next.inbox).1 <;> rfl

/-- A closed stream is left as it is. -/
theorem after_send_of_isClosed (hclosed : stream.session.isClosed = true)
    (requests : List Request) : (StreamCall.send requests).after stream = stream :=
  congrArg Prod.snd (runOn_send_of_isClosed hclosed requests)

/-- An open stream is left as settling the answers to the sent requests leaves it. -/
theorem after_send_of_not_isClosed (hopen : stream.session.isClosed = false)
    (requests : List Request) {sent : List Request} {next : Stream σ}
    {result : Except Error (List StreamResult)} (hsent : sent = stream.session.stamp requests)
    (hcarry : (carry sent).runOn stream.underWay = (result, next)) :
    (StreamCall.send requests).after stream = (settle sent result next).2 := by
  subst hsent
  show ((send requests).runOn stream).2 = _
  rw [runOn_send_of_not_isClosed hopen]
  simp only [hcarry]

/-! ## Noting -/

/-- A request that is sent is noted behind the earlier messages. -/
theorem runOn_sendRequest_noting (request : ChannelRequest) (stream : Stream σ)
    (messages : List ClientMessage) :
    (sendRequest request).runOn (stream.noting messages) =
      (((sendRequest request).runOn stream).1, ((sendRequest request).runOn stream).2.noting
        (messages ++ [.request stream.nextRequestId request])) := by
  rw [runOn_sendRequest, runOn_sendRequest]
  rfl

/-- Requests are handed over in their order, up to the first that the peer refuses. -/
theorem runOn_sendAll_noting (requests : List Request) (stream : Stream σ)
    (messages : List ClientMessage) :
    ∃ new, requestsOf new <+: requests ∧
      (sendAll requests).runOn (stream.noting messages) =
        (((sendAll requests).runOn stream).1,
          ((sendAll requests).runOn stream).2.noting (messages ++ new)) := by
  induction requests generalizing stream messages with
  | nil => exact ⟨[], List.nil_prefix, by simp [sendAll]⟩
  | cons request requests ih =>
    let message : ClientMessage := .request stream.nextRequestId (.ofRequest request)
    have hmessage : message.request? = some request := ChannelRequest.toRequest?_ofRequest request
    have hnoting := runOn_sendRequest_noting (.ofRequest request) stream messages
    rw [sendAll_cons, sendAll_cons]
    cases hplain : (sendRequest (.ofRequest request)).runOn stream with
    | mk result next =>
      rw [hplain] at hnoting
      cases result with
      | error error =>
        -- what follows a refused request is not handed over
        refine ⟨[message], ?_, ?_⟩
        · simp [requestsOf, hmessage]
        · rw [Call.runOn_bind_error hplain, Call.runOn_bind_error hnoting]
      | ok requestId =>
        obtain ⟨new, hprefix, hrest⟩ := ih next (messages ++ [message])
        refine ⟨message :: new, ?_, ?_⟩
        · rw [requestsOf, List.filterMap_cons, hmessage]
          exact List.cons_prefix_cons.mpr ⟨rfl, hprefix⟩
        · rw [Call.runOn_bind_ok hplain, Call.runOn_bind_ok hnoting, Call.runOn_bind,
            Call.runOn_bind, hrest]
          cases hall : (sendAll requests).runOn next with
          | mk result last => cases result <;> simp

/-- Carrying requests notes a first part of them and does nothing else with the notes. -/
theorem runOn_carry_noting (requests : List Request) (stream : Stream σ)
    (messages : List ClientMessage) :
    ∃ new, requestsOf new <+: requests ∧
      (carry requests).runOn (stream.noting messages) =
        (((carry requests).runOn stream).1,
          ((carry requests).runOn stream).2.noting (messages ++ new)) := by
  obtain ⟨new, hprefix, hall⟩ := runOn_sendAll_noting requests stream messages
  refine ⟨new, hprefix, ?_⟩
  unfold carry
  rw [Call.runOn_bind, Call.runOn_bind, hall]
  cases (sendAll requests).runOn stream with
  | mk result next => cases result <;> rfl

/-- A stream with a noting peer does what it does with the peer itself. What it hands over are the
requests of the call, up to the first that the peer refuses, and nothing once it is closed. -/
theorem runOn_noting (call : StreamCall) (stream : Stream σ) (messages : List ClientMessage) :
    ∃ new, requestsOf new <+: stream.session.stamp call.requests ∧
      call.run.runOn (stream.noting messages) =
        ((call.run.runOn stream).1, (call.after stream).noting (messages ++ new)) := by
  unfold StreamCall.after
  cases call with
  | send requests =>
    show ∃ new, requestsOf new <+: stream.session.stamp requests ∧
      (send requests).runOn (stream.noting messages) =
        (((send requests).runOn stream).1, ((send requests).runOn stream).2.noting _)
    by_cases hclosed : stream.session.isClosed = true
    · rw [runOn_send_of_isClosed hclosed, runOn_send_of_isClosed (by exact hclosed)]
      exact ⟨[], List.nil_prefix, by simp⟩
    · have hopen : stream.session.isClosed = false := by simpa using hclosed
      have hway : (stream.noting messages).underWay = stream.underWay.noting messages := rfl
      obtain ⟨new, hprefix, hcarry⟩ :=
        runOn_carry_noting (stream.session.stamp requests) stream.underWay messages
      refine ⟨new, hprefix, ?_⟩
      rw [runOn_send_of_not_isClosed hopen, runOn_send_of_not_isClosed (by exact hopen), hway]
      simp only [session_noting, hcarry, settle_noting]
  | close =>
    show ∃ new, requestsOf new <+: stream.session.stamp [.close] ∧
      (_, close (stream.noting messages)) = (_, (close stream).noting _)
    unfold close
    by_cases hclosed : stream.session.isClosed = true
    · rw [if_pos hclosed, if_pos (by exact hclosed)]
      exact ⟨[], List.nil_prefix, by simp⟩
    · rw [if_neg hclosed, if_neg (by exact hclosed), Session.stamp_close]
      exact ⟨[.request stream.nextRequestId .closeStream], List.prefix_rfl, rfl⟩

/-- The messages that a call hands to the peer. -/
def messages (call : StreamCall) (stream : Stream σ) : List ClientMessage :=
  (call.after (stream.noting [])).peer.messages

/-- What a call hands over are its requests, up to the first that the peer refuses. -/
theorem requestsOf_messages_prefix (call : StreamCall) (stream : Stream σ) :
    requestsOf (messages call stream) <+: stream.session.stamp call.requests := by
  obtain ⟨new, hprefix, hnoting⟩ := runOn_noting call stream []
  rw [messages, StreamCall.after, hnoting]
  exact hprefix

end Stream

end SqlStream.Channel
