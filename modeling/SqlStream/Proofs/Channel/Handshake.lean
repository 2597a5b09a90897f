import SqlStream.Proofs.Channel.AnyOrder
import SqlStream.Proofs.Origin

/-!
# The handshake

To open a stream, the client greets the server and asks for the stream, and then reads the answers
to both. It is content with any answer that has the number of its request and is no refusal
(`connect_opens_iff`): the answer need not be to the opening of a stream. Whatever else comes of a
handshake is an error after which the stream is not used.
-/

namespace SqlStream

open SqlStream.Wire

namespace Call

variable {σ α β : Type}

/-- Two calls succeed, one after the other, exactly if each does. -/
theorem runOn_bind_eq_ok_iff {first : Call σ α} {next : α → Call σ β} {state after : σ} {b : β} :
    (first >>= next).runOn state = (.ok b, after) ↔ ∃ a between,
      first.runOn state = (.ok a, between) ∧ (next a).runOn between = (.ok b, after) := by
  constructor
  · intro h
    cases hfirst : first.runOn state with
    | mk result between =>
      cases result with
      | error error =>
        rw [runOn_bind_error hfirst] at h
        cases h
      | ok a =>
        rw [runOn_bind_ok hfirst] at h
        exact ⟨a, between, rfl, h⟩
  · rintro ⟨a, between, hfirst, hnext⟩
    rw [runOn_bind_ok hfirst, hnext]

end Call

namespace Channel

namespace Stream

variable {σ : Type}

/-! ## Frames -/

/-- A frame that is read is the first one that the channel yields. -/
theorem receive_eq_ok_iff {stream after : Stream σ} {message : ServerMessage} :
    receive.runOn stream = (.ok message, after) ↔ ∃ text,
      stream.inbox = .frame text :: after.inbox ∧ ServerMessage.parse? text = some message ∧
        after = { stream with inbox := after.inbox } := by
  unfold receive
  rw [Call.runOn_get_bind]
  cases hinbox : stream.inbox with
  | nil => simp
  | cons incoming rest =>
    cases incoming with
    | failure error => simp [Call.runOn_bind]
    | frame text =>
      have hread : readFrame text = .ok message ↔ ServerMessage.parse? text = some message := by
        unfold readFrame
        split <;> simp_all
      simp only [Call.runOn_bind, Call.runOn_modify, Call.runOn_ofExcept, Prod.mk.injEq, hread]
      constructor
      · rintro ⟨hparse, rfl⟩
        exact ⟨text, rfl, hparse, rfl⟩
      · rintro ⟨_, heq, hparse, hafter⟩
        obtain ⟨htext, rfl⟩ := List.cons.inj heq
        cases htext
        exact ⟨hparse, hafter.symm⟩

/-- Receiving fails with errors of the stream only. -/
theorem receive_failsWith (stream : Stream σ) :
    FailsWith Error.InStream (receive.runOn stream).1 := by
  have hread : ∀ text, FailsWith Error.InStream (readFrame text) := by
    intro text
    unfold readFrame
    split
    · exact .ok _
    · exact .error (.broken _)
  unfold receive
  rw [Call.runOn_get_bind]
  cases stream.inbox with
  | nil => exact .error (.broken _)
  | cons incoming rest =>
    cases incoming with
    | failure message => exact .error (.broken _)
    | frame text => exact hread text

variable [Peer σ]

/-- To hand a frame to the peer changes what is to come, and nothing else of the stream. -/
theorem session_of_deliver {message : ClientMessage} {stream after : Stream σ}
    {delivery : Delivery} (h : deliver message stream = (delivery, after)) :
    after.session = stream.session := by
  cases h
  rfl

/-- Delivering a message keeps the next number. -/
theorem nextRequestId_of_deliver {message : ClientMessage} {stream after : Stream σ}
    {delivery : Delivery} (h : deliver message stream = (delivery, after)) :
    after.nextRequestId = stream.nextRequestId := by
  cases h
  rfl

/-- A frame is sent exactly if the peer takes it. -/
theorem sendFrame_eq_ok_iff {message : ClientMessage} {stream after : Stream σ} {done : Unit} :
    (sendFrame message).runOn stream = (.ok done, after) ↔
      deliver message stream = (.accepted, after) := by
  unfold sendFrame
  rw [Call.runOn_get_bind]
  obtain ⟨delivery, handed⟩ := deliver message stream
  cases delivery <;> simp [Call.runOn_bind]

/-- Sending a frame fails with errors of the stream only. -/
theorem sendFrame_failsWith (message : ClientMessage) (stream : Stream σ) :
    FailsWith Error.InStream ((sendFrame message).runOn stream).1 := by
  unfold sendFrame
  rw [Call.runOn_get_bind]
  obtain ⟨delivery, handed⟩ := deliver message stream
  cases delivery with
  | accepted => exact .ok _
  | refused message => exact .error (.broken _)

/-- A request is sent under the next number, exactly if the peer takes it. -/
theorem sendRequest_eq_ok_iff {request : ChannelRequest} {stream after : Stream σ}
    {requestId : Int32} :
    (sendRequest request).runOn stream = (.ok requestId, after) ↔
      stream.nextRequestId = requestId ∧ deliver (.request requestId request)
        { stream with nextRequestId := requestId + 1 } = (.accepted, after) := by
  rw [runOn_sendRequest]
  simp only [Prod.ext_iff]
  constructor
  · rintro ⟨hresult, rfl⟩
    cases hdelivery : (deliver (.request stream.nextRequestId request)
      { stream with nextRequestId := stream.nextRequestId + 1 }).1 with
    | refused message =>
      rw [hdelivery] at hresult
      cases hresult
    | accepted =>
      rw [hdelivery] at hresult
      obtain rfl := Except.ok.inj hresult
      exact ⟨rfl, hdelivery, rfl⟩
  · rintro ⟨rfl, hdelivery, rfl⟩
    exact ⟨by rw [hdelivery]; rfl, rfl⟩

/-- Sending a request fails with errors of the stream only. -/
theorem sendRequest_failsWith (request : ChannelRequest) (stream : Stream σ) :
    FailsWith Error.InStream ((sendRequest request).runOn stream).1 := by
  rw [runOn_sendRequest]
  simp only
  cases (deliver (.request stream.nextRequestId request)
    { stream with nextRequestId := stream.nextRequestId + 1 }).1 with
  | accepted => exact .ok _
  | refused message => exact .error (.broken _)

/-! ## Answers that are awaited -/

omit [Peer σ] in
/-- The greeting is taken exactly if it is `hello_ok`. -/
theorem expectHello_eq_ok_iff {message : ServerMessage} {done : Unit} :
    expectHello message = .ok done ↔ message = .helloOk := by
  cases message <;> simp [expectHello]

/-- A wrong greeting is an error of the stream. -/
theorem expectHello_failsWith (message : ServerMessage) :
    FailsWith Error.InStream (expectHello message) := by
  cases message with
  | helloOk => exact .ok ()
  | _ => exact .error (.broken _)

/-- The request to open a stream counts as granted with whatever answer it gets. -/
theorem expectOpening_eq_ok_iff {requestId : Int32} {message : ServerMessage} {done : Unit} :
    expectOpening requestId message = .ok done ↔
      ∃ response, message = .responseOk requestId response := by
  cases message with
  | responseOk answered response =>
    by_cases h : answered = requestId <;> simp [expectOpening, h]
  | _ => simp [expectOpening]

/-- A wrong answer to opening is an error of the stream. -/
theorem expectOpening_failsWith (requestId : Int32) (message : ServerMessage) :
    FailsWith Error.InStream (expectOpening requestId message) := by
  cases message with
  | responseOk answered response =>
    by_cases h : answered = requestId
    · rw [expectOpening, if_pos h]
      exact .ok ()
    · rw [expectOpening, if_neg h]
      exact .error (.broken _)
  | _ => exact .error (.broken _)

/-! ## Handshakes -/

/-- The peer takes the greeting and then the request to open a stream. -/
def Asks (begun : Stream σ) (jwt : Option String) (asked : Stream σ) : Prop :=
  ∃ greeted, deliver (.hello jwt) begun = (.accepted, greeted) ∧
    deliver (.request begun.nextRequestId .openStream)
      { greeted with nextRequestId := begun.nextRequestId + 1 } = (.accepted, asked)

/-- Asking to open keeps the session. -/
theorem Asks.session_eq {begun asked : Stream σ} {jwt : Option String} (h : begun.Asks jwt asked) :
    asked.session = begun.session := by
  obtain ⟨greeted, hhello, hopening⟩ := h
  have hgreeted : greeted.session = begun.session := session_of_deliver hhello
  exact (session_of_deliver hopening).trans hgreeted

/-- A handshake that ends well: the texts that are read, and the answer to the opening. -/
structure Opens (begun : Stream σ) (jwt : Option String) (greeting opening : String)
    (response : ChannelResponse) (after : Stream σ) : Prop where
  /-- The two answers are read, and what is behind them stays unread. -/
  read : ∃ asked, begun.Asks jwt asked ∧
    asked.inbox = .frame greeting :: .frame opening :: after.inbox ∧
    after = { asked with inbox := after.inbox, session := begun.session.markOpen }
  greets : ServerMessage.parse? greeting = some .helloOk
  answers : ServerMessage.parse? opening = some (.responseOk begun.nextRequestId response)

/-- A handshake ends well exactly if the peer takes both frames, the first frame to come greets, and
the second one answers the request with whatever response. -/
theorem connect_eq_ok_iff {begun after : Stream σ} {jwt : Option String} :
    (connect jwt).runOn begun = (.ok (), after) ↔ ∃ greeting opening response,
      begun.Opens jwt greeting opening response after := by
  unfold connect
  simp only [Call.runOn_bind_eq_ok_iff, sendFrame_eq_ok_iff, sendRequest_eq_ok_iff,
    receive_eq_ok_iff, Call.runOn_ofExcept, Prod.mk.injEq, expectHello_eq_ok_iff,
    expectOpening_eq_ok_iff, Call.runOn_modify]
  constructor
  · rintro ⟨-, greeted, hhello, _, asked, ⟨rfl, hopening⟩, _, greetedBack,
      ⟨greeting, hfirst, hgreets, hread⟩, -, _, ⟨rfl, rfl⟩, _, answered,
      ⟨opening, hsecond, hanswers, hanswered⟩, -, _, ⟨⟨response, rfl⟩, rfl⟩, -, rfl⟩
    rw [nextRequestId_of_deliver hhello] at hopening hanswers
    have hasks : begun.Asks jwt asked := ⟨greeted, hhello, hopening⟩
    refine ⟨greeting, opening, response, ⟨asked, hasks, ?_, ?_⟩, hgreets, hanswers⟩
    · rw [hfirst, hsecond]
    · rw [hanswered, hread, hasks.session_eq]
  · rintro ⟨greeting, opening, response, ⟨asked, hasks, hinbox, hafter⟩, hgreets, hanswers⟩
    obtain ⟨greeted, hhello, hopening⟩ := id hasks
    rw [← nextRequestId_of_deliver hhello] at hopening hanswers
    refine ⟨(), greeted, hhello, _, asked, ⟨rfl, hopening⟩, .helloOk,
      { asked with inbox := .frame opening :: after.inbox }, ⟨greeting, hinbox, hgreets, rfl⟩,
      (), _, ⟨rfl, rfl⟩, .responseOk greeted.nextRequestId response,
      { asked with inbox := after.inbox }, ⟨opening, rfl, hanswers, rfl⟩, (), _,
      ⟨⟨response, rfl⟩, rfl⟩, trivial, ?_⟩
    rw [hafter, hasks.session_eq]

/-- Connecting succeeds exactly if the stream opens. -/
theorem result_connect_eq_ok_iff {begun : Stream σ} {jwt : Option String} :
    ((connect jwt).runOn begun).1 = .ok () ↔ ∃ greeting opening response after,
      begun.Opens jwt greeting opening response after := by
  constructor
  · intro h
    obtain ⟨greeting, opening, response, hopens⟩ := connect_eq_ok_iff.mp (Prod.ext h rfl)
    exact ⟨greeting, opening, response, _, hopens⟩
  · rintro ⟨greeting, opening, response, after, hopens⟩
    rw [connect_eq_ok_iff.mpr ⟨greeting, opening, response, hopens⟩]

/-- A handshake that fails leaves a stream that is not used. -/
theorem connect_failsWith (jwt : Option String) (begun : Stream σ) :
    FailsWith Error.InStream ((connect jwt).runOn begun).1 := by
  unfold connect
  refine (sendFrame_failsWith _ _).runOn_bind fun _ greeted => ?_
  refine (sendRequest_failsWith _ _).runOn_bind fun requestId asked => ?_
  refine (receive_failsWith _).runOn_bind fun greeting read => ?_
  refine FailsWith.runOn_bind (expectHello_failsWith greeting) fun _ next => ?_
  refine (receive_failsWith _).runOn_bind fun opening answered => ?_
  exact FailsWith.runOn_bind (expectOpening_failsWith requestId opening) fun _ last => .ok ()

/-- What is read in a handshake is given by what the peer takes and yields. -/
theorem Opens.unique {begun after other : Stream σ} {jwt : Option String}
    {greeting opening greeting' opening' : String} {response response' : ChannelResponse}
    (h : begun.Opens jwt greeting opening response after)
    (h' : begun.Opens jwt greeting' opening' response' other) :
    response = response' := by
  obtain ⟨⟨_, ⟨_, hhello, hopening⟩, hinbox, -⟩, -, hanswers⟩ := h
  obtain ⟨⟨_, ⟨_, hhello', hopening'⟩, hinbox', -⟩, -, hanswers'⟩ := h'
  obtain ⟨-, rfl⟩ := Prod.mk.inj (hhello.symm.trans hhello')
  obtain ⟨-, rfl⟩ := Prod.mk.inj (hopening.symm.trans hopening')
  simp only [hinbox, List.cons.injEq, Incoming.frame.injEq] at hinbox'
  obtain ⟨-, rfl, -⟩ := hinbox'
  simpa using hanswers.symm.trans hanswers'

/-- A stream of which nothing is sent yet. -/
def beginning (peer : σ) (inbox : List Incoming) : Stream σ :=
  { peer, inbox }

/-- A stream that opens is active without a baton. -/
theorem Opens.session_eq {peer : σ} {inbox : List Incoming} {jwt : Option String}
    {greeting opening : String} {response : ChannelResponse} {after : Stream σ}
    (h : (beginning peer inbox).Opens jwt greeting opening response after) :
    after.session = { state := .active none } := by
  obtain ⟨_, -, -, hafter⟩ := h.read
  rw [hafter]
  rfl

/-- A handshake ends well exactly if the peer takes both frames, the first frame to come greets and
the second one answers the request; then these two are read and the stream is open, without a baton
and without a watermark. Any other handshake ends with an error after which the stream is not used.
An answer that opens no stream counts as well, so that a stream is open which the server has not
opened exactly if the answer is of another kind. -/
theorem connect_opens_iff (σ : Type) [Peer σ] (peer : σ) (inbox : List Incoming)
    (jwt : Option String) :
    (∀ after, (connect jwt).runOn (beginning peer inbox) = (.ok (), after) ↔
      ∃ greeting opening response, (beginning peer inbox).Opens jwt greeting opening response after ∧
        after.session = { state := .active none }) ∧
    (∀ error after, (connect jwt).runOn (beginning peer inbox) = (.error error, after) →
      error.isBadConnection = true) ∧
    ((((connect jwt).runOn (beginning peer inbox)).1 = .ok () ↔ ∃ greeting opening after,
        (beginning peer inbox).Opens jwt greeting opening .openStream after) ↔
      ¬ ∃ greeting opening response after, response ≠ .openStream ∧
        (beginning peer inbox).Opens jwt greeting opening response after) := by
  refine ⟨fun after => ?_, fun error after hfailed => ?_, ?_⟩
  · rw [connect_eq_ok_iff]
    constructor
    · rintro ⟨greeting, opening, response, h⟩
      exact ⟨greeting, opening, response, h, h.session_eq⟩
    · rintro ⟨greeting, opening, response, h, -⟩
      exact ⟨greeting, opening, response, h⟩
  · have hstream := connect_failsWith jwt (beginning peer inbox) error (congrArg Prod.fst hfailed)
    exact Error.isBadConnection_eq_true_iff.mpr hstream.origin_eq
  · constructor
    · rintro hopened ⟨greeting, opening, response, after, hother, h⟩
      -- this handshake ends well, so its answer would have to open the stream
      obtain ⟨_, _, _, hopens⟩ := hopened.mp (result_connect_eq_ok_iff.mpr ⟨_, _, _, _, h⟩)
      exact hother (h.unique hopens)
    · intro hnone
      rw [result_connect_eq_ok_iff]
      constructor
      · rintro ⟨greeting, opening, response, after, h⟩
        by_cases hresponse : response = .openStream
        · exact ⟨greeting, opening, after, hresponse ▸ h⟩
        · exact absurd ⟨greeting, opening, response, after, hresponse, h⟩ hnone
      · rintro ⟨greeting, opening, after, h⟩
        exact ⟨greeting, opening, .openStream, after, h⟩

end Stream

/-! ## Handshakes with a silent peer -/

/-- Connecting to a server that answers `hello_ok` and any answer to the opening succeeds. -/
theorem connect_opens_iff_of_silent :
    (Stream.connect none).runOn
        (Stream.beginning ({} : Silent) (openingAnswers.map .frame)) =
        (.ok (), { Stream.beginning {} [] with
          session := { state := .active none }, nextRequestId := 1 }) ∧
      (Stream.connect none).runOn (Stream.beginning ({} : Silent) []) =
        (.error (.broken .channelClosed), { Stream.beginning {} [] with nextRequestId := 1 }) ∧
      (Error.broken .channelClosed).isBadConnection = true := by
  have hclosed : (Stream.connect none).runOn (Stream.beginning ({} : Silent) []) =
      (.error (.broken .channelClosed), { Stream.beginning {} [] with nextRequestId := 1 }) := rfl
  refine ⟨?_, hclosed, (Stream.connect_opens_iff Silent {} [] none).2.1 _ _ hclosed⟩
  refine ((Stream.connect_opens_iff Silent {} (openingAnswers.map .frame) none).1 _).mpr
    ⟨_, _, .openStream, ⟨⟨_, ⟨_, rfl, rfl⟩, rfl, rfl⟩, ?_, ?_⟩, rfl⟩
  · decide +kernel
  · decide +kernel

/-- What a channel yields if the server answers the request to open a stream as if it had been to
close one. -/
def closedAtOpening : List Incoming :=
  [.frame "\x7b\"type\":\"hello_ok\"\x7d",
    .frame ("\x7b\"type\":\"response_ok\",\"request_id\":0," ++
      "\"response\":\x7b\"type\":\"close_stream\"\x7d\x7d")]

/-- An answer of another kind opens a stream as well. -/
theorem connect_of_closedAtOpening :
    ((Stream.connect none).runOn (Stream.beginning ({} : Silent) closedAtOpening)).1 = .ok () ∧
      ¬ ∃ greeting opening after, (Stream.beginning ({} : Silent) closedAtOpening).Opens none
        greeting opening .openStream after := by
  have h : (Stream.beginning ({} : Silent) closedAtOpening).Opens none _ _ .closeStream
      { Stream.beginning ({} : Silent) [] with
        session := { state := .active none }, nextRequestId := 1 } :=
    { read := ⟨_, ⟨_, rfl, rfl⟩, rfl, rfl⟩
      greets := by decide +kernel
      answers := by decide +kernel }
  refine ⟨Stream.result_connect_eq_ok_iff.mpr ⟨_, _, _, _, h⟩, ?_⟩
  rintro ⟨greeting, opening, after, hopens⟩
  exact absurd (h.unique hopens) (by decide)

end Channel

end SqlStream
