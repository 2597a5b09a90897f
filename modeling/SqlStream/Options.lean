import SqlStream.Text.Outline

/-!
# Options of a connection
-/

namespace SqlStream

open SqlStream.Text

/-- What a caller may set on a connection. -/
structure Options where
  /-- How long one exchange may take, in milliseconds. -/
  timeoutMs : Nat := 10000
  /-- Scripts of more bytes run in chunks. -/
  chunkThresholdBytes : Nat := 1048576
  /-- The most statements that one chunk holds. -/
  chunkSize : Nat := 4096
  /-- Keeps the last step of a transactional batch, which rolls back, among its outcomes. -/
  schemaDb : Bool := false
  deriving DecidableEq, Repr

namespace Options

/-- Sets the time that one exchange may take. -/
def withTimeoutMs (options : Options) (timeoutMs : Nat) : Options :=
  { options with timeoutMs }

/-- Sets the size above which scripts run in chunks. -/
def withChunkThresholdBytes (options : Options) (chunkThresholdBytes : Nat) : Options :=
  { options with chunkThresholdBytes }

/-- Sets the size of chunks, which is at least one. -/
def withChunkSize (options : Options) (chunkSize : Nat) : Options :=
  { options with chunkSize := max chunkSize 1 }

/-- Sets whether the last step of a transactional batch is kept. -/
def withSchemaDb (options : Options) (schemaDb : Bool) : Options :=
  { options with schemaDb }

/-- The outline of options. -/
def outline (options : Options) : String :=
  Outline.record "ClientOptions"
    [("timeout_ms", Outline.integer options.timeoutMs),
      ("chunk_threshold_bytes", Outline.integer options.chunkThresholdBytes),
      ("chunk_size", Outline.integer options.chunkSize),
      ("schema_db", Outline.bool options.schemaDb)]

end Options

end SqlStream
