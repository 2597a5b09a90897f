import SqlStream.Json.Reader
import SqlStream.Json.Record
import SqlStream.Text.Numeral
import SqlStream.Wire.Value

/-!
# Replies of the server

What the server says to the requests of a stream.
-/

namespace SqlStream.Wire

open SqlStream.Text

/-- An error that the server reports. -/
structure ServerError where
  message : String
  code : Option String := none
  deriving DecidableEq, Repr

/-- A column of a result: its name and the type it was declared with. -/
structure Column where
  name : Option String := none
  declaredType : Option String := none
  deriving DecidableEq, Repr

/-- What a statement gave. -/
structure StatementResult where
  columns : List Column := []
  rows : List (List Value) := []
  affectedRowCount : UInt64 := 0
  lastInsertRowid : Option String := none
  replicationIndex : Option UInt64 := none
  rowsRead : Option UInt64 := none
  rowsWritten : Option UInt64 := none
  queryDurationMs : Option Binary64 := none
  deriving DecidableEq

/-- What the steps of a batch gave. A step that succeeded has a result at its index, one that failed
an error, and one that did not run has neither. -/
structure BatchResult where
  stepResults : List (Option StatementResult) := []
  stepErrors : List (Option ServerError) := []
  replicationIndex : Option UInt64 := none
  deriving DecidableEq

/-- The answer to one request. -/
inductive Response where
  | execute (result : StatementResult)
  | batch (result : BatchResult)
  | storeSql
  | closeSql
  | close
  | unknown
  deriving DecidableEq

/-- The fate of one request: an answer or an error, either of which the server may fail to give. -/
inductive StreamResult where
  | ok (response : Option Response)
  | error (cause : Option ServerError)
  | unknown
  deriving DecidableEq

/-- The reply to requests that went together: the baton for the next ones, the URL they should go
to, and the fate of each request. -/
structure PipelineResponse where
  baton : Option String := none
  baseUrl : Option String := none
  results : List StreamResult := []
  deriving DecidableEq

/-! ## JSON -/

/-- Reads a replication index: a number, its decimal text, or an empty text for none. -/
def replicationIndex? : Json → Option (Option UInt64)
  | .null => some none
  | .string "" => some none
  | .string text => (readUInt64 text).toOption.map some
  | value => value.uint64?.map some

/-- The field `replication_index` of a record. -/
def replicationIndexField? (record : Json.Record) : Option (Option UInt64) :=
  record.withDefault "replication_index" none replicationIndex?

/-- Reads an error. -/
def ServerError.ofJson? (json : Json) : Option ServerError := do
  let record ← json.record? ["message", "code"]
  let message ← record.required "message" Json.string?
  let code ← record.optional "code" Json.string?
  return ⟨message, code⟩

/-- Reads a column. -/
def Column.ofJson? (json : Json) : Option Column := do
  let record ← json.record? ["name", "decltype"]
  let name ← record.optional "name" Json.string?
  let declaredType ← record.optional "decltype" Json.string?
  return ⟨name, declaredType⟩

/-- The fields of what a statement gave. -/
def StatementResult.fieldNames : List String :=
  ["cols", "rows", "affected_row_count", "last_insert_rowid", "replication_index", "rows_read",
    "rows_written", "query_duration_ms"]

/-- Reads what a statement gave. -/
def StatementResult.ofJson? (place : Json.Place) (json : Json) : Option StatementResult := do
  let record ← json.record? fieldNames
  let columns ← record.withDefault "cols" [] (Json.list? Column.ofJson?)
  let rows ← record.withDefault "rows" [] (Json.list? (Json.list? (Value.ofJson? (place.below 3))))
  let affectedRowCount ← record.withDefault "affected_row_count" 0 Json.uint64?
  let lastInsertRowid ← record.optional "last_insert_rowid" Json.string?
  let replicationIndex ← replicationIndexField? record
  let rowsRead ← record.optional "rows_read" Json.uint64?
  let rowsWritten ← record.optional "rows_written" Json.uint64?
  let queryDurationMs ← record.optional "query_duration_ms" Json.binary64?
  return ⟨columns, rows, affectedRowCount, lastInsertRowid, replicationIndex, rowsRead,
    rowsWritten, queryDurationMs⟩

/-- Reads what a batch gave. -/
def BatchResult.ofJson? (place : Json.Place) (json : Json) : Option BatchResult := do
  let record ← json.record? ["step_results", "step_errors", "replication_index"]
  let stepResults ← record.withDefault "step_results" []
    (Json.list? (Json.nullable? (StatementResult.ofJson? (place.below 2))))
  let stepErrors ← record.withDefault "step_errors" []
    (Json.list? (Json.nullable? ServerError.ofJson?))
  let replicationIndex ← replicationIndexField? record
  return ⟨stepResults, stepErrors, replicationIndex⟩

/-- The answer with this type and these fields. A type that is not known is no error. -/
def Response.ofFields? (type : String) (fields : Json) : Option Response :=
  match type with
  | "execute" => do
    let record ← fields.record? ["result"]
    return execute (← record.required "result" (StatementResult.ofJson? .inner))
  | "batch" => do
    let record ← fields.record? ["result"]
    return batch (← record.required "result" (BatchResult.ofJson? .inner))
  | "store_sql" => fields.fieldless?.map fun _ => storeSql
  | "close_sql" => fields.fieldless?.map fun _ => closeSql
  | "close" => fields.fieldless?.map fun _ => close
  | _ => fields.fieldless?.map fun _ => unknown

/-- The names of the types of answers, in the order of their numbers. -/
def Response.typeNames : List String :=
  ["execute", "batch", "store_sql", "close_sql", "close"]

/-- Reads an answer. -/
def Response.ofJson? (place : Json.Place) (json : Json) : Option Response := do
  let (type, fields) ← json.discriminated? place typeNames
  ofFields? type fields

/-- The fate of a request with this type and these fields. -/
def StreamResult.ofFields? (type : String) (fields : Json) : Option StreamResult :=
  match type with
  | "ok" => do
    let record ← fields.record? ["response"]
    return ok (← record.optional "response" (Response.ofJson? .inner))
  | "error" => do
    let record ← fields.record? ["error"]
    return error (← record.optional "error" ServerError.ofJson?)
  | _ => fields.fieldless?.map fun _ => unknown

/-- The names of the types of fates, in the order of their numbers. -/
def StreamResult.typeNames : List String :=
  ["ok", "error"]

/-- Reads the fate of a request. -/
def StreamResult.ofJson? (place : Json.Place) (json : Json) : Option StreamResult := do
  let (type, fields) ← json.discriminated? place typeNames
  ofFields? type fields

/-- Reads the reply to requests that went together. -/
def PipelineResponse.ofJson? (place : Json.Place) (json : Json) : Option PipelineResponse := do
  let record ← json.record? ["baton", "base_url", "results"]
  let baton ← record.optional "baton" Json.string?
  let baseUrl ← record.optional "base_url" Json.string?
  let results ← record.withDefault "results" [] (Json.list? (StreamResult.ofJson? (place.below 2)))
  return ⟨baton, baseUrl, results⟩

/-- The reply that a text holds. -/
def PipelineResponse.parse? (text : String) : Option PipelineResponse := do
  ofJson? .top (← Json.read? text)

/-- The fates of requests that a text lists. -/
def StreamResult.parseList? (text : String) : Option (List StreamResult) := do
  Json.list? (ofJson? (Json.Place.top.below 1)) (← Json.read? text)

end SqlStream.Wire
