import SqlStream.Http.Endpoint
import SqlStream.Http.Failure
import SqlStream.Transport

/-!
# Streams over HTTP

Each exchange is one request of HTTP to the pipeline path of the database. Which requests HTTP can
send and what the server does with them are parameters. Closing a stream that has a baton tells the
server so, without waiting for its answer.
-/

namespace SqlStream.Http

open SqlStream.Wire

/-- A request of HTTP. -/
structure HttpRequest where
  url : String
  /-- The header that authenticates the client. -/
  authorization : Option String
  body : PipelineRequest
  /-- How long to wait for the reply, in milliseconds. -/
  timeoutMs : Nat
  deriving DecidableEq

/-- What becomes of a request of HTTP. -/
inductive HttpReply where
  | answered (status : Nat) (body : String)
  | failed (message : String)
  | timedOut (message : String)
  deriving DecidableEq

/-- What carries requests of HTTP, and the server at its other end. -/
class Server (σ : Type) where
  /-- What becomes of a request that is sent, and the server afterwards. -/
  respond : HttpRequest → σ → HttpReply × σ
  /-- Why a request cannot be sent, if it cannot: its URL is none that HTTP can reach, or its header
  is no header. Such a request fails with this message, and the server does not get it. -/
  obstacle? : HttpRequest → Option String := fun _ => none

/-- A stream over HTTP. -/
structure Stream (σ : Type) where
  server : σ
  authorization : Option String
  session : Session
  options : Options := {}

/-- The statuses of success. -/
def isSuccess (status : Nat) : Bool :=
  200 ≤ status && status < 300

/-- The reply that an answer to requests holds. -/
def readReply : HttpReply → Except Error PipelineResponse
  | .failed message => .error (.broken (.transportFailed message))
  | .timedOut message => .error (.broken (.timedOut message))
  | .answered status body =>
    if isSuccess status then
      match PipelineResponse.parse? body with
      | some response => .ok response
      | none => .error (.broken (.invalidPipelineReply body))
    else .error (.broken (refusal status body))

namespace Stream

variable {σ : Type}

/-- A stream to a database, with the value of the header that authenticates the client. A blank
value is none. -/
def new (server : σ) (baseUrl authorization : String) : Stream σ where
  server
  authorization := if isBlankText authorization then none else some authorization
  session := .ofUrl (normalizeUrl baseUrl)

/-- A stream to a database, with a token. A blank token is none. -/
def newBearer (server : σ) (baseUrl token : String) : Stream σ :=
  if isBlankText token then new server baseUrl "" else new server baseUrl (bearerHeader token)

/-- Why an environment does not say which database to use. -/
inductive EnvironmentFault where
  | missingUrl
  | emptyUrl
  deriving DecidableEq

/-- The wording of a fault. -/
def EnvironmentFault.message : EnvironmentFault → String
  | missingUrl => "missing HRANA_URL environment variable"
  | emptyUrl => "HRANA_URL is set but empty"

/-- A stream to the database that the variables `HRANA_URL` and `HRANA_AUTH_TOKEN` say. -/
def ofEnvironment (server : σ) (url token : Option String) :
    Except EnvironmentFault (Stream σ) :=
  match url with
  | none => .error .missingUrl
  | some url =>
    if isBlankText url then .error .emptyUrl
    else .ok (newBearer server url (token.getD ""))

/-- The request of HTTP that carries requests of the stream. -/
def httpRequest (stream : Stream σ) (body : PipelineRequest) : HttpRequest where
  url := pipelineUrl (stream.session.baseUrl.getD "")
  authorization := stream.authorization
  body
  timeoutMs := stream.options.timeoutMs

variable [Server σ]

/-- Sends a request to the server, if HTTP can send it. -/
def post (body : PipelineRequest) (stream : Stream σ) : HttpReply × Stream σ :=
  let request := stream.httpRequest body
  match Server.obstacle? σ request with
  | some message => (.failed message, stream)
  | none =>
    let (reply, server) := Server.respond request stream.server
    (reply, { stream with server })

/-- Sends requests and waits for their answers. -/
def send (requests : List Request) : Call (Stream σ) (List Response) := do
  let (payload, session) ← Call.ofExcept ((← get).session.begin requests)
  modify fun stream => { stream with session }
  let (reply, stream) := post payload (← get)
  set stream
  let response ← Call.ofExcept (readReply reply)
  let (responses, session) := (← get).session.finishPipeline payload.requests response
  modify fun stream => { stream with session }
  Call.ofExcept responses

/-- Closes the stream and tells the server, if it knows the stream by a baton. -/
def close (stream : Stream σ) : Stream σ :=
  let (baton, session) := stream.session.close
  let closed := { stream with session }
  match baton with
  | some baton => (post ⟨some baton, [.close]⟩ closed).2
  | none => closed

instance : Transport (Stream σ) where
  session := Stream.session
  send := send
  close := close
  configure options stream := { stream with options }

end Stream

end SqlStream.Http
