import SqlStream.Wire.Outline
import SqlStream.Wire.Request

/-!
# Messages of a channel

On a message channel client and server send each other JSON messages. The client greets, opens a
stream and numbers its requests; the server answers the greeting and each request by its number.
-/

namespace SqlStream.Channel

open SqlStream.Text SqlStream.Wire

/-- The id of the one stream that a client opens on a channel. -/
def streamId : Int32 := 0

/-- A request on a channel. -/
inductive ChannelRequest where
  | openStream
  | closeStream
  | execute (statement : Statement)
  | batch (steps : Batch)
  | storeSql (sql : String) (sqlId : Int32)
  | closeSql (sqlId : Int32)

/-- What the client says. -/
inductive ClientMessage where
  /-- The greeting, with the token that authenticates the client. -/
  | hello (jwt : Option String)
  | request (requestId : Int32) (request : ChannelRequest)

/-- The answer to a request on a channel. -/
inductive ChannelResponse where
  | openStream
  | closeStream
  | execute (result : StatementResult)
  | batch (result : BatchResult)
  | storeSql
  | closeSql
  | unknown
  deriving DecidableEq

/-- What the server says. -/
inductive ServerMessage where
  | helloOk
  | helloError (error : ServerError)
  | responseOk (requestId : Int32) (response : ChannelResponse)
  | responseError (requestId : Int32) (error : ServerError)
  | unknown
  deriving DecidableEq

/-- The request on a channel that stands for a request of a stream. -/
def ChannelRequest.ofRequest : Request → ChannelRequest
  | .execute statement => .execute statement
  | .batch steps => .batch steps
  | .storeSql sql sqlId => .storeSql sql sqlId
  | .closeSql sqlId => .closeSql sqlId
  | .close => .closeStream

/-- The answer of a stream that an answer on a channel stands for. No request of a stream opens one,
so the answer to opening is none that is known. -/
def ChannelResponse.toResponse : ChannelResponse → Response
  | .execute result => .execute result
  | .batch result => .batch result
  | .storeSql => .storeSql
  | .closeSql => .closeSql
  | .closeStream => .close
  | .openStream | .unknown => .unknown

/-! ## JSON -/

/-- The member that names the stream of a request. -/
def streamMember : String × Json :=
  ("stream_id", int32Json streamId)

/-- The JSON form of a request. -/
def ChannelRequest.toJson : ChannelRequest → Json
  | openStream => .ofType "open_stream" [streamMember]
  | closeStream => .ofType "close_stream" [streamMember]
  | execute statement => .ofType "execute" [streamMember, ("stmt", statement.toJson)]
  | batch steps => .ofType "batch" [streamMember, ("batch", steps.toJson)]
  | storeSql sql sqlId => .ofType "store_sql" [("sql_id", int32Json sqlId), ("sql", .string sql)]
  | closeSql sqlId => .ofType "close_sql" [("sql_id", int32Json sqlId)]

/-- The JSON form of what the client says. -/
def ClientMessage.toJson : ClientMessage → Json
  | hello jwt => .ofType "hello" [("jwt", jwt.elim .null .string)]
  | request requestId asked =>
    .ofType "request" [("request_id", int32Json requestId), ("request", asked.toJson)]

/-- The answer with this type and these fields. A type that is not known is no error. -/
def ChannelResponse.ofFields? (type : String) (fields : Json) : Option ChannelResponse :=
  match type with
  | "open_stream" => fields.fieldless?.map fun _ => openStream
  | "close_stream" => fields.fieldless?.map fun _ => closeStream
  | "execute" => do
    let record ← fields.record? ["result"]
    return execute (← record.required "result" (StatementResult.ofJson? .inner))
  | "batch" => do
    let record ← fields.record? ["result"]
    return batch (← record.required "result" (BatchResult.ofJson? .inner))
  | "store_sql" => fields.fieldless?.map fun _ => storeSql
  | "close_sql" => fields.fieldless?.map fun _ => closeSql
  | _ => fields.fieldless?.map fun _ => unknown

/-- The names of the types of answers on a channel, in the order of their numbers. -/
def ChannelResponse.typeNames : List String :=
  ["open_stream", "close_stream", "execute", "batch", "store_sql", "close_sql"]

/-- Reads the answer to a request. -/
def ChannelResponse.ofJson? (place : Json.Place) (json : Json) : Option ChannelResponse := do
  let (type, fields) ← json.discriminated? place typeNames
  ofFields? type fields

/-- The message with this type and these fields. A type that is not known is no error. -/
def ServerMessage.ofFields? (type : String) (fields : Json) : Option ServerMessage :=
  match type with
  | "hello_ok" => fields.fieldless?.map fun _ => helloOk
  | "hello_error" => do
    let record ← fields.record? ["error"]
    return helloError (← record.required "error" ServerError.ofJson?)
  | "response_ok" => do
    let record ← fields.record? ["request_id", "response"]
    let requestId ← record.required "request_id" Json.int32?
    let response ← record.required "response" (ChannelResponse.ofJson? .inner)
    return responseOk requestId response
  | "response_error" => do
    let record ← fields.record? ["request_id", "error"]
    let requestId ← record.required "request_id" Json.int32?
    let error ← record.required "error" ServerError.ofJson?
    return responseError requestId error
  | _ => fields.fieldless?.map fun _ => unknown

/-- The names of the types of messages of the server, in the order of their numbers. -/
def ServerMessage.typeNames : List String :=
  ["hello_ok", "hello_error", "response_ok", "response_error"]

/-- Reads what the server says. -/
def ServerMessage.ofJson? (place : Json.Place) (json : Json) : Option ServerMessage := do
  let (type, fields) ← json.discriminated? place typeNames
  ofFields? type fields

/-- The message that a text holds. -/
def ServerMessage.parse? (text : String) : Option ServerMessage := do
  ofJson? .top (← Json.read? text)

/-! ## Outlines -/

/-- The outline of an answer. -/
def ChannelResponse.outline : ChannelResponse → String
  | openStream => "OpenStream"
  | closeStream => "CloseStream"
  | execute result => Outline.record "Execute" [("result", result.outline)]
  | batch result => Outline.record "Batch" [("result", result.outline)]
  | storeSql => "StoreSql"
  | closeSql => "CloseSql"
  | unknown => "Unknown"

/-- The outline of what the server says. -/
def ServerMessage.outline : ServerMessage → String
  | helloOk => "HelloOk"
  | helloError error => Outline.record "HelloError" [("error", error.outline)]
  | responseOk requestId response =>
    Outline.record "ResponseOk"
      [("request_id", Outline.integer requestId.toInt), ("response", response.outline)]
  | responseError requestId error =>
    Outline.record "ResponseError"
      [("request_id", Outline.integer requestId.toInt), ("error", error.outline)]
  | unknown => "Unknown"

end SqlStream.Channel
