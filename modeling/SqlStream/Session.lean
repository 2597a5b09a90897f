import SqlStream.Error
import SqlStream.Wire.Request

/-!
# Sessions

The state of one stream: whether it may be used, the baton to show with the next requests, the URL
to send them to and the *watermark*, the largest replication index seen.

An exchange is `begin` followed by one of the two ways to finish. In between the stream is closed,
so an exchange that is given up leaves it closed.
-/

namespace SqlStream

open SqlStream.Wire

/-! ## Kinds of requests and answers -/

/-- The kind of answer that a request wants. -/
def Wire.Request.expected : Request → String
  | execute _ => "execute"
  | batch _ => "batch"
  | storeSql _ _ => "store_sql"
  | closeSql _ => "close_sql"
  | close => "close"

/-- The kind of an answer. -/
def Wire.Response.kind : Response → String
  | execute _ => "execute"
  | batch _ => "batch"
  | storeSql => "store_sql"
  | closeSql => "close_sql"
  | close => "close"
  | unknown => "unknown"

/-- True of the request that closes a stream. -/
def Wire.Request.isClose : Request → Bool
  | close => true
  | _ => false

/-! ## Replication indices -/

/-- The larger of two replication indices, one that is missing being the smallest. -/
def maxIndex : Option UInt64 → Option UInt64 → Option UInt64
  | none, j => j
  | i, none => i
  | some i, some j => some (max i j)

/-- The replication index of a step of a batch. -/
def stepIndex (step : Option StatementResult) : Option UInt64 :=
  step.bind StatementResult.replicationIndex

/-- The largest replication index in an answer. -/
def Wire.Response.replicationIndex : Response → Option UInt64
  | execute result => result.replicationIndex
  | batch result =>
    maxIndex ((result.stepResults.map stepIndex).foldl maxIndex none) result.replicationIndex
  | _ => none

/-- The largest replication index in the fate of a request. -/
def Wire.StreamResult.replicationIndex : StreamResult → Option UInt64
  | ok (some response) => response.replicationIndex
  | _ => none

/-- Gives a request the watermark to wait for, if it has none of its own. -/
def Wire.Request.withWatermark (index : UInt64) : Request → Request
  | execute statement =>
    execute { statement with replicationIndex := statement.replicationIndex.or (some index) }
  | batch steps => batch { steps with replicationIndex := steps.replicationIndex.or (some index) }
  | request => request

/-! ## Answers -/

/-- The answer to the request at an index, if its fate is an answer of the kind it wants. -/
def checkResult (index : Nat) (request : Request) : Option StreamResult → Except Error Response
  | some (.ok (some response)) =>
    if response.kind = request.expected then .ok response
    else .error (.protocol (.unknownResponse index request.expected))
  | some (.error (some error)) => .error (.server error)
  | some (.ok none) | some (.error none) | none => .error (.protocol (.noResponse index))
  | some .unknown => .error (.protocol (.unknownResponse index request.expected))

/-- The answers to requests, from the one at an index on. -/
def checkResultsFrom (index : Nat) :
    List Request → List StreamResult → Except Error (List Response)
  | [], _ => .ok []
  | request :: requests, results => do
    let response ← checkResult index request results.head?
    let responses ← checkResultsFrom (index + 1) requests results.tail
    return response :: responses

/-- The answers to the requests that were sent, in their order. The first request without a proper
answer decides the error; more answers than requests are an error before all others. -/
def checkResults (sent : List Request) (results : List StreamResult) :
    Except Error (List Response) :=
  if sent.length < results.length then
    .error (.protocol (.resultCount sent.length results.length))
  else checkResultsFrom 0 sent results

/-! ## Sessions -/

/-- Whether a stream may be used. -/
inductive StreamState where
  /-- There has been no exchange. -/
  | fresh
  /-- The stream is open; over HTTP it has a baton for the next requests. -/
  | active (baton : Option String)
  | closed
  deriving DecidableEq

/-- The state of one stream. -/
structure Session where
  baseUrl : Option String := none
  state : StreamState := .fresh
  /-- The largest replication index seen. -/
  replicationIndex : Option UInt64 := none
  deriving DecidableEq

namespace Session

/-- The session of a stream that begins at a URL. -/
def ofUrl (baseUrl : String) : Session :=
  { baseUrl := some baseUrl }

/-- True if no further requests may be sent. -/
def isClosed (session : Session) : Bool :=
  session.state = .closed

/-- Opens the stream, without a baton. -/
def markOpen (session : Session) : Session :=
  { session with state := .active none }

/-- The baton of an open stream. -/
def baton (session : Session) : Option String :=
  match session.state with
  | .active baton => baton
  | _ => none

/-- Closes the stream; its baton is handed out, so that the server can be told. -/
def close (session : Session) : Option String × Session :=
  (session.baton, { session with state := .closed })

/-- Begins an exchange: the requests with baton and watermark, and the session while they are under
way. -/
def begin (session : Session) (requests : List Request) :
    Except Error (PipelineRequest × Session) :=
  if session.isClosed then .error .streamClosed
  else
    let requests :=
      match session.replicationIndex with
      | some index => requests.map (Request.withWatermark index)
      | none => requests
    let closed := session.close
    .ok (⟨closed.1, requests⟩, closed.2)

/-- Takes note of the replication indices of results. -/
def observe (session : Session) (results : List StreamResult) : Session :=
  { session with
    replicationIndex :=
      (results.map StreamResult.replicationIndex).foldl maxIndex session.replicationIndex }

/-- True if the last request that was sent closes the stream. -/
def closesStream (sent : List Request) : Bool :=
  sent.getLast?.any Request.isClose

/-- A text that is not empty. -/
def nonempty? (text : Option String) : Option String :=
  text.filter fun s => s ≠ ""

/-- The state that a reply leaves the stream in: open only with a baton, and not after its end was
asked for. -/
def stateAfter (sent : List Request) (response : PipelineResponse) : StreamState :=
  match nonempty? response.baton with
  | some baton => if closesStream sent then .closed else .active (some baton)
  | none => .closed

/-- Finishes an exchange over HTTP. -/
def finishPipeline (session : Session) (sent : List Request) (response : PipelineResponse) :
    Except Error (List Response) × Session :=
  let moved : Session :=
    { session with
      state := stateAfter sent response
      baseUrl := (nonempty? response.baseUrl).or session.baseUrl }
  (checkResults sent response.results, moved.observe response.results)

/-- Finishes an exchange on a message channel, where a stream stays open until it is closed. -/
def finishChannel (session : Session) (sent : List Request) (results : List StreamResult) :
    Except Error (List Response) × Session :=
  let opened := if closesStream sent then session else session.markOpen
  (checkResults sent results, opened.observe results)

end Session

end SqlStream
