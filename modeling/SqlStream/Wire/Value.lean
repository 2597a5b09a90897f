import SqlStream.Json.Record

/-!
# Values on the wire

The values that requests and replies carry. Integers travel as decimal text, because JSON readers
differ in the integers they keep, and bytes travel as base64.
-/

namespace SqlStream.Wire

/-- A value as it is sent and received. -/
inductive Value where
  | null
  | integer (digits : String)
  | float (x : Binary64)
  | text (s : String)
  | blob (encoded : String)
  deriving DecidableEq, Repr

namespace Value

/-- The JSON form of a value. -/
def toJson : Value → Json
  | null => .ofType "null" []
  | integer digits => .ofType "integer" [("value", .string digits)]
  | float x => .ofType "float" [("value", .ofBinary64 x)]
  | text s => .ofType "text" [("value", .string s)]
  | blob encoded => .ofType "blob" [("base64", .string encoded)]

/-- The value with this type and these fields. -/
def ofFields? (type : String) (fields : Json) : Option Value :=
  match type with
  | "null" => do
    fields.fieldless?
    return null
  | "integer" => do
    let record ← fields.record? ["value"]
    return integer (← record.required "value" Json.string?)
  | "float" => do
    let record ← fields.record? ["value"]
    return float (← record.required "value" Json.binary64?)
  | "text" => do
    let record ← fields.record? ["value"]
    return text (← record.required "value" Json.string?)
  | "blob" => do
    let record ← fields.record? ["base64"]
    return blob (← record.withDefault "base64" "" Json.string?)
  | _ => none

/-- The names of the types of values, in the order of their numbers. -/
def typeNames : List String :=
  ["null", "integer", "float", "text", "blob"]

/-- Reads a value. -/
def ofJson? (place : Json.Place) (json : Json) : Option Value := do
  let (type, fields) ← json.discriminated? place typeNames
  ofFields? type fields

end Value

end SqlStream.Wire
