import SqlStream.Json.Canonical
import SqlStream.Time.Timestamp

/-!
# Values

The values that SQL statements take and give: the five kinds of SQLite and timestamps, which travel
as text. Truth values become integers, and a value that is not there becomes null.
-/

namespace SqlStream

open SqlStream.Text

/-- A value that a statement takes or gives. -/
inductive Value where
  | null
  | integer (n : Int64)
  | float (x : Binary64)
  | text (s : String)
  | blob (bytes : List UInt8)
  | timestamp (t : Time.Timestamp)
  deriving DecidableEq

/-- Why something is no value, or why a value cannot be sent. -/
inductive ValueFault where
  /-- An integer past the largest one that a value can hold. -/
  | integerTooLarge (n : UInt64)
  | notFinite (x : Binary64)
  /-- A JSON array or object. -/
  | compound (json : Json)
  deriving DecidableEq

/-- The wording of a fault. -/
def ValueFault.message : ValueFault → String
  | integerTooLarge n => "u64 " ++ String.ofList (decimalDigits n.toNat) ++ " exceeds i64 range"
  | notFinite x => "non-finite float value '" ++ x.specialName ++ "'"
  | compound json => String.ofList json.canonical

namespace Value

/-- True of null. -/
def isNull : Value → Bool
  | null => true
  | _ => false

/-- A truth value as an integer. -/
def ofBool (b : Bool) : Value :=
  integer (if b then 1 else 0)

/-- A small integer. -/
def ofInt32 (n : Int32) : Value :=
  integer (Int64.ofInt n.toInt)

/-- A small integer without sign. -/
def ofUInt32 (n : UInt32) : Value :=
  integer (Int64.ofInt n.toNat)

/-- A large integer without sign, if a value can hold it. -/
def ofUInt64 (n : UInt64) : Except ValueFault Value :=
  if n.toNat ≤ maxInt64 then .ok (integer (Int64.ofInt n.toNat)) else .error (.integerTooLarge n)

/-- A date and time of day without an offset, taken to be in UTC. -/
def ofLocal (date : Time.Date) (clock : Time.Clock) : Value :=
  timestamp ⟨date, clock, .utc⟩

/-- Something that may be missing. -/
def ofOption {α : Type _} (toValue : α → Value) (x : Option α) : Value :=
  x.elim null toValue

/-- The value that a JSON value stands for. Arrays and objects stand for none. -/
def ofJson : Json → Except ValueFault Value
  | .null => .ok null
  | .bool b => .ok (ofBool b)
  | .number (.integer n) =>
    if n < 0 then .ok (integer (Int64.ofInt n)) else ofUInt64 (UInt64.ofNat n.toNat)
  | .number (.float x) => .ok (float x)
  | .string s => .ok (text s)
  | json => .error (.compound json)

end Value

end SqlStream
