import SqlStream.Text.Ascii
import SqlStream.Text.Base64
import SqlStream.Time.Layout
import SqlStream.Value.Basic
import SqlStream.Wire.Value

/-!
# Values to the wire and back

A value is sent in the wire form of its kind, a timestamp as text. What comes back is a timestamp
only in a column that is declared to hold timestamps, and only if its text is one.
-/

namespace SqlStream

open SqlStream.Text

/-- Why something received is no value. -/
inductive DecodeFault where
  | integer (text : String) (fault : NumeralFault)
  | base64
  | rowid (text : String) (fault : NumeralFault)
  deriving DecidableEq

/-- Stands in messages where a reader of a format would explain what it found wrong. -/
def withheldDetail : String := "<detail>"

/-- The wording of a fault. -/
def DecodeFault.message : DecodeFault → String
  | integer text fault => "invalid integer value '" ++ text ++ "': " ++ fault.message
  | base64 => "invalid base64 blob: " ++ withheldDetail
  | rowid text fault => "invalid last_insert_rowid '" ++ text ++ "': " ++ fault.message

namespace Value

/-- The decimal text of an integer. -/
def integerText (n : Int64) : String :=
  String.ofList ((if n.toInt < 0 then ['-'] else []) ++ decimalDigits n.toInt.natAbs)

/-- The wire form of a value. -/
def encode : Value → Except ValueFault Wire.Value
  | null => .ok .null
  | integer n => .ok (.integer (integerText n))
  | float x => if x.isFinite then .ok (.float x) else .error (.notFinite x)
  | text s => .ok (.text s)
  | blob bytes => .ok (.blob (Base64.encode bytes))
  | timestamp t => .ok (.text t.format)

/-- True of the types whose columns hold timestamps. -/
def isTimestampType (declaredType : String) : Bool :=
  sameIgnoringCase "timestamp".toList declaredType.toList ||
    sameIgnoringCase "datetime".toList declaredType.toList

/-- The value that a text stands for in a column of a declared type. -/
def ofText (s : String) (declaredType : Option String) : Value :=
  if declaredType.any isTimestampType then
    match Time.Timestamp.parse? s with
    | some t => timestamp t
    | none => text s
  else text s

/-- The value of a wire form in a column of a declared type. -/
def decode (wire : Wire.Value) (declaredType : Option String) : Except DecodeFault Value :=
  match wire with
  | .null => .ok null
  | .integer digits =>
    match readInt64 digits with
    | .ok n => .ok (integer n)
    | .error fault => .error (.integer digits fault)
  | .float x => .ok (float x)
  | .text s => .ok (ofText s declaredType)
  | .blob encoded =>
    match Base64.decode? encoded with
    | some bytes => .ok (blob bytes)
    | none => .error .base64

end Value

end SqlStream
