import SqlStream.Error

/-!
# Refusals over HTTP

A server that refuses says why in the body of its reply, in one of several forms: an object with an
error in the field `error`, an object with a message in `message` or `error` and a code beside it,
or plain text.
-/

namespace SqlStream.Http

open SqlStream.Wire

/-- The code by which a server says that it gave the stream up. -/
def expiredCode : String := "STREAM_EXPIRED"

/-- The error in the field `error` of an object. -/
def nestedError? : Json → Option ServerError
  | .object members => do
    let record ← Json.record? ["error"] (.object members)
    record.required "error" ServerError.ofJson?
  | _ => none

/-- The error whose message stands in the field `message` or `error` of an object. -/
def flatError? : Json → Option ServerError
  | .object members => do
    let record ← Json.record? ["message", "error", "code"] (.object members)
    let message ←
      match record.lookup "message", record.lookup "error" with
      | some message, none => message.string?
      | none, some message => message.string?
      | _, _ => none
    let code ← record.optional "code" Json.string?
    return ⟨message, code⟩
  | _ => none

/-- The error in the body of a refusal; a body of no known form is the message itself. -/
def bodyError (body : String) : ServerError :=
  match Json.readAll? body with
  | some json => ((nestedError? json).or (flatError? json)).getD ⟨body, none⟩
  | none => ⟨body, none⟩

/-- What a refusal with this status and body means. -/
def refusal (status : Nat) (body : String) : Breakage :=
  let error := bodyError body
  if error.code = some expiredCode then .streamExpired error.message
  else .refusedStatus status error.message

end SqlStream.Http
