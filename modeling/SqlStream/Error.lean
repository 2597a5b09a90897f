import SqlStream.Channel.Message
import SqlStream.Sql.Placeholder
import SqlStream.Value.Codec

/-!
# Errors

Everything that can go wrong, by its cause. Some causes are found before anything is sent, some are
reported by the server on a stream that goes on, and some leave the stream unusable; the last are
the *breakages*. An error may name the statement that met it.
-/

namespace SqlStream

open SqlStream.Text

/-- A reply whose parts do not fit the requests. -/
inductive ProtocolViolation where
  /-- A request got neither an answer nor an error. -/
  | noResponse (request : Nat)
  /-- A request got an answer of the wrong kind. -/
  | unknownResponse (request : Nat) (expected : String)
  /-- There are more answers than requests. -/
  | resultCount (expected actual : Nat)
  deriving DecidableEq

/-- The wording of a violation. -/
def ProtocolViolation.message : ProtocolViolation → String
  | noResponse request => "no response received for request " ++ Outline.integer request
  | unknownResponse request expected =>
    "unknown response type at request " ++ Outline.integer request ++ ": expected " ++ expected
  | resultCount expected actual =>
    "result count mismatch: expected " ++ Outline.integer expected ++ ", got " ++
      Outline.integer actual

/-- Why a stream stopped being usable. -/
inductive BrokenReason where
  /-- What carries the stream failed, or took too long. -/
  | transport
  /-- The server refused with a status of HTTP. -/
  | http (status : Nat)
  /-- The server gave the stream up. -/
  | streamExpired
  /-- The server did not let the stream begin. -/
  | handshake
  /-- The server said something that is no message, or not one that may come now. -/
  | protocol
  deriving DecidableEq

/-- The name of a reason. -/
def BrokenReason.name : BrokenReason → String
  | transport => "transport"
  | http status => "http " ++ Outline.integer status
  | streamExpired => "stream expired"
  | handshake => "handshake"
  | protocol => "protocol"

/-- What made a stream unusable. -/
inductive Breakage where
  | transportFailed (message : String)
  | timedOut (message : String)
  /-- The server has nothing more to say. -/
  | channelClosed
  | refusedStatus (status : Nat) (message : String)
  | streamExpired (message : String)
  | handshakeRefused (message : String)
  | unexpectedGreeting (message : Channel.ServerMessage)
  | unexpectedOpening (message : Channel.ServerMessage)
  | invalidFrame (frame : String)
  | unexpectedMessage (message : Channel.ServerMessage)
  /-- An answer to a request that was not asked in this exchange. -/
  | unknownRequest (requestId : Int32)
  | invalidPipelineReply (body : String)
  deriving DecidableEq

namespace Breakage

/-- The reason that a breakage falls under. -/
def reason : Breakage → BrokenReason
  | transportFailed _ | timedOut _ | channelClosed => .transport
  | refusedStatus status _ => .http status
  | streamExpired _ => .streamExpired
  | handshakeRefused _ | unexpectedGreeting _ | unexpectedOpening _ => .handshake
  | invalidFrame _ | unexpectedMessage _ | unknownRequest _ | invalidPipelineReply _ => .protocol

/-- The wording of a breakage. -/
def message : Breakage → String
  | transportFailed message => message
  | timedOut message => "request timed out: " ++ message
  | channelClosed => "message channel closed"
  | refusedStatus _ message => message
  | streamExpired message => message
  | handshakeRefused message => message
  | unexpectedGreeting said => "expected hello_ok, got " ++ said.outline
  | unexpectedOpening said => "expected open_stream response, got " ++ said.outline
  | invalidFrame frame => "invalid server message: " ++ withheldDetail ++ "; frame: " ++ frame
  | unexpectedMessage said => "unexpected server message " ++ said.outline
  | unknownRequest requestId =>
    "response for unknown request id " ++ Outline.integer requestId.toInt
  | invalidPipelineReply body =>
    "invalid pipeline response JSON: " ++ withheldDetail ++ "; body: " ++ body

end Breakage

/-- What went wrong. -/
inductive Error where
  | malformedParameter (fault : Sql.ParameterFault)
  /-- A statement has more positional placeholders than values are left. -/
  | missingParameters (needed available : Nat)
  /-- A text is not one statement. -/
  | statementCount (found : Nat)
  /-- A batch has more steps than a condition can refer to. -/
  | batchTooLarge (steps : Nat)
  | unsupportedValue (fault : ValueFault)
  | undecodable (fault : DecodeFault)
  | protocol (violation : ProtocolViolation)
  | server (error : Wire.ServerError)
  | streamClosed
  | broken (breakage : Breakage)
  /-- What went wrong with a statement. -/
  | inStatement (sql : String) (cause : Error)
  deriving DecidableEq

namespace Error

/-- The wording of an error. -/
def message : Error → String
  | malformedParameter fault => "malformed parameter: " ++ fault.message
  | missingParameters needed available =>
    "missing positional parameters: statement needs " ++ Outline.integer needed ++ ", " ++
      Outline.integer available ++ " left"
  | statementCount found => "expected exactly one statement, got " ++ Outline.integer found
  | batchTooLarge steps => "batch of " ++ Outline.integer steps ++ " steps is too large"
  | unsupportedValue fault => "unsupported value type: " ++ fault.message
  | undecodable fault => "decode error: " ++ fault.message
  | protocol violation => "protocol error: " ++ violation.message
  | server error => "server error: " ++ error.message
  | streamClosed => "stream is closed"
  | broken breakage => "connection broken (" ++ breakage.reason.name ++ "): " ++ breakage.message
  | inStatement sql cause => "failed to execute SQL: " ++ sql ++ "\n" ++ cause.message

/-- Names the statement that met an error, if none is named yet. -/
def withStatement (sql : String) : Error → Error
  | inStatement named cause => inStatement named cause
  | error => inStatement sql error

/-- The error without the statement that met it. -/
def root : Error → Error
  | inStatement _ cause => cause.root
  | error => error

/-- True if the connection can no longer be used. -/
def isBadConnection (error : Error) : Bool :=
  match error.root with
  | streamClosed | broken _ => true
  | _ => false

/-- True if the server gave the stream up, so that a new one must be opened. -/
def isStreamExpired (error : Error) : Bool :=
  match error.root with
  | broken breakage => breakage.reason = .streamExpired
  | _ => false

end Error

end SqlStream
