import SqlStream.Options
import SqlStream.Session

/-!
# Transports

What carries a stream. Every exchange goes through the session of the stream, so the rules about
batons, watermarks and closed streams hold for every transport.
-/

namespace SqlStream

/-- A call that may fail and that changes a state whether it fails or not. -/
abbrev Call (σ : Type) (α : Type) := ExceptT Error (StateM σ) α

/-- Something that carries requests to a server and answers back. -/
class Transport (τ : Type) where
  /-- The state of the stream. -/
  session : τ → Session
  /-- Sends requests in one exchange; there is one answer to each. -/
  send : List Wire.Request → Call τ (List Wire.Response)
  /-- Closes the stream without waiting for the server. -/
  close : τ → τ
  /-- Takes over the options of a connection. -/
  configure : Options → τ → τ

namespace Call

/-- A result as a call that changes nothing. -/
def ofExcept {σ α : Type} (result : Except Error α) : Call σ α :=
  ExceptT.mk (pure result)

/-- A call that names a statement in its error. -/
def withStatement {σ α : Type} (sql : String) (call : Call σ α) : Call σ α :=
  ExceptT.adapt (Error.withStatement sql) call

/-- Runs a call on a state. -/
def runOn {σ α : Type} (call : Call σ α) (state : σ) : Except Error α × σ :=
  call.run.run state

end Call

end SqlStream
