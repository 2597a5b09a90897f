import SqlStream.Channel.Message
import SqlStream.Transport

/-!
# Streams over a message channel

A channel carries text frames both ways. Requests are numbered, and their answers may come in any
order. What the peer does is a parameter: it takes each frame or refuses it, and puts frames of its
own into the inbox, from which they are read when the client wants one.
-/

namespace SqlStream.Channel

open SqlStream.Wire

/-- What a channel yields. -/
inductive Incoming where
  | frame (text : String)
  | failure (message : String)
  deriving DecidableEq

/-- What becomes of a frame that is sent. -/
inductive Delivery where
  | accepted
  | refused (message : String)
  deriving DecidableEq

/-- The other end of a channel. -/
class Peer (σ : Type) where
  /-- What becomes of a frame, what the channel then yields beyond all it would have yielded, and the
  peer afterwards. -/
  take : ClientMessage → σ → Delivery × List Incoming × σ

/-- A stream over a channel. -/
structure Stream (σ : Type) where
  peer : σ
  /-- What the channel will yield before its end. -/
  inbox : List Incoming
  session : Session := {}
  nextRequestId : Int32 := 0

/-- An exchange whose requests are under way: the number of each, and its fate if that is known. -/
abbrev Slots := List (Int32 × Option StreamResult)

/-- Notes the fate of the request with a number, in place of one noted earlier. -/
def fillSlot (requestId : Int32) (result : StreamResult) : Slots → Option Slots
  | [] => none
  | slot :: slots =>
    if slot.1 = requestId then some ((requestId, some result) :: slots)
    else (fillSlot requestId result slots).map (slot :: ·)

/-- Reads a frame. -/
def readFrame (text : String) : Except Error ServerMessage :=
  match ServerMessage.parse? text with
  | some message => .ok message
  | none => .error (.broken (.invalidFrame text))

/-- Takes in an answer. -/
def takeAnswer (slots : Slots) (requestId : Int32) (result : StreamResult) :
    Except Error Slots :=
  match fillSlot requestId result slots with
  | some slots => .ok slots
  | none => .error (.broken (.unknownRequest requestId))

/-- Takes in a frame while requests are under way; only answers may come. -/
def takeFrame (slots : Slots) (text : String) : Except Error Slots := do
  match ← readFrame text with
  | .responseOk requestId response =>
    takeAnswer slots requestId (.ok (some response.toResponse))
  | .responseError requestId error => takeAnswer slots requestId (.error (some error))
  | message => .error (.broken (.unexpectedMessage message))

/-- Reads answers until the fate of every request is known: the fates in the order of the requests,
and the inbox behind the answers. -/
def awaitAnswers (slots : Slots) (inbox : List Incoming) :
    Except Error (List StreamResult) × List Incoming :=
  if slots.all fun slot => slot.2.isSome then (.ok (slots.filterMap Prod.snd), inbox)
  else
    match inbox with
    | [] => (.error (.broken .channelClosed), [])
    | .failure message :: rest => (.error (.broken (.transportFailed message)), rest)
    | .frame text :: rest =>
      match takeFrame slots text with
      | .ok slots => awaitAnswers slots rest
      | .error error => (.error error, rest)

namespace Stream

variable {σ : Type}

/-- Takes a number for a request. -/
def takeRequestId : Call (Stream σ) Int32 := do
  let requestId := (← get).nextRequestId
  modify fun stream => { stream with nextRequestId := requestId + 1 }
  return requestId

/-- Reads the next frame of the channel. -/
def receive : Call (Stream σ) ServerMessage := do
  match (← get).inbox with
  | [] => throw (.broken .channelClosed)
  | .failure message :: rest =>
    modify fun stream => { stream with inbox := rest }
    throw (.broken (.transportFailed message))
  | .frame text :: rest =>
    modify fun stream => { stream with inbox := rest }
    Call.ofExcept (readFrame text)

variable [Peer σ]

/-- Hands a frame to the peer. -/
def deliver (message : ClientMessage) (stream : Stream σ) : Delivery × Stream σ :=
  let (delivery, incoming, peer) := Peer.take message stream.peer
  (delivery, { stream with peer, inbox := stream.inbox ++ incoming })

/-- Sends a frame. -/
def sendFrame (message : ClientMessage) : Call (Stream σ) Unit := do
  let (delivery, stream) := deliver message (← get)
  set stream
  match delivery with
  | .accepted => return
  | .refused message => throw (.broken (.transportFailed message))

/-- Sends a request; its number. -/
def sendRequest (request : ChannelRequest) : Call (Stream σ) Int32 := do
  let requestId ← takeRequestId
  sendFrame (.request requestId request)
  return requestId

/-- Requires the greeting to be answered. -/
def expectHello : ServerMessage → Except Error Unit
  | .helloOk => .ok ()
  | .helloError error => .error (.broken (.handshakeRefused error.message))
  | message => .error (.broken (.unexpectedGreeting message))

/-- Requires the request to open a stream to be answered. -/
def expectOpening (requestId : Int32) : ServerMessage → Except Error Unit
  | .responseError _ error => .error (.broken (.handshakeRefused error.message))
  | .responseOk answered response =>
    if answered = requestId then .ok ()
    else .error (.broken (.unexpectedOpening (.responseOk answered response)))
  | message => .error (.broken (.unexpectedOpening message))

/-- Greets the server and opens a stream; both are sent before the answer to either is read. -/
def connect (jwt : Option String) : Call (Stream σ) Unit := do
  sendFrame (.hello jwt)
  let requestId ← sendRequest .openStream
  Call.ofExcept (expectHello (← receive))
  Call.ofExcept (expectOpening requestId (← receive))
  modify fun stream => { stream with session := stream.session.markOpen }

/-- Sends requests and waits for their answers. -/
def send (requests : List Request) : Call (Stream σ) (List Response) := do
  let (payload, session) ← Call.ofExcept ((← get).session.begin requests)
  modify fun stream => { stream with session }
  let requestIds ← payload.requests.mapM fun request =>
    sendRequest (.ofRequest request)
  let (results, inbox) := awaitAnswers (requestIds.map fun id => (id, none)) (← get).inbox
  modify fun stream => { stream with inbox }
  let (responses, session) := (← get).session.finishChannel payload.requests
    (← Call.ofExcept results)
  modify fun stream => { stream with session }
  Call.ofExcept responses

/-- Closes the stream; the server is told, if the channel takes the frame at once. -/
def close (stream : Stream σ) : Stream σ :=
  if stream.session.isClosed then stream
  else
    let closed : Stream σ :=
      { stream with
        session := stream.session.close.2
        nextRequestId := stream.nextRequestId + 1 }
    (deliver (.request stream.nextRequestId .closeStream) closed).2

instance : Transport (Stream σ) where
  session := Stream.session
  send := send
  close := close
  configure _ stream := stream

end Stream

end SqlStream.Channel
