import SqlStream.Connection
import SqlStream.Http.Stream

/-!
# Outlines of connections over HTTP

The state of a connection as one line of text. The header that authenticates the client is not
shown, only whether there is one.
-/

namespace SqlStream

open SqlStream.Text

/-- The outline of the state of a stream. -/
def StreamState.outline : StreamState → String
  | fresh => "Fresh"
  | active baton => Outline.record "Active" [("baton", Outline.option Outline.quoted baton)]
  | closed => "Closed"

/-- The outline of a session. -/
def Session.outline (session : Session) : String :=
  Outline.record "Session"
    [("base_url", Outline.option Outline.quoted session.baseUrl),
      ("state", session.state.outline),
      ("replication_index", Outline.option Wire.outlineUInt64 session.replicationIndex)]

namespace Http

/-- The outline of a stream. -/
def Stream.outline {σ : Type} (stream : Stream σ) : String :=
  Outline.record "HttpStream"
    [("session", stream.session.outline),
      ("authorization",
        Outline.option Outline.quoted (stream.authorization.map fun _ => "<redacted>")),
      ("options", stream.options.outline)]

/-- The outline of a connection. -/
def outlineConnection {σ : Type} (connection : Connection (Stream σ)) : String :=
  Outline.record "Connection"
    [("transport", connection.stream.outline),
      ("options", connection.options.outline),
      ("in_transaction", Outline.bool connection.inTransaction),
      ("next_sql_id", Outline.integer connection.nextSqlId.toInt)]

end Http

end SqlStream
