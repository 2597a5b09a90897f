import SqlStream.Text.Digits
import SqlStream.Wire.Value

/-!
# Requests of a stream

What a client asks of the server on one stream: to run a statement or a batch of statements, to keep
SQL text under an id and to drop it, and to close the stream.

The steps of a batch may have a condition on the outcome of earlier steps, which the server
evaluates when it comes to the step.
-/

namespace SqlStream.Wire

open SqlStream.Text

/-- A value for a placeholder that has a name. -/
structure NamedArgument where
  name : String
  value : Value
  deriving DecidableEq, Repr

/-- A statement to run: its SQL text or the id of kept text, the values of its placeholders, whether
rows are wanted, and the replication index that the server must have reached. -/
structure Statement where
  sql : Option String := none
  sqlId : Option Int32 := none
  arguments : List Value := []
  namedArguments : List NamedArgument := []
  wantRows : Bool := false
  replicationIndex : Option UInt64 := none
  deriving DecidableEq

/-- A condition on earlier steps of the same batch. -/
inductive Condition where
  /-- The step ran and succeeded. -/
  | ok (step : Nat)
  | not (condition : Condition)
  | and (conditions : List Condition)
  | or (conditions : List Condition)
  deriving Repr

namespace Condition

mutual

/-- True of two conditions that are the same. -/
def same : Condition → Condition → Bool
  | ok step, ok other => step = other
  | not condition, not other => same condition other
  | and conditions, and others | or conditions, or others => sameAll conditions others
  | _, _ => false

/-- True of two lists of the same conditions. -/
def sameAll : List Condition → List Condition → Bool
  | [], [] => true
  | condition :: conditions, other :: others => same condition other && sameAll conditions others
  | _, _ => false

end

mutual

theorem same_iff : ∀ condition other : Condition, condition.same other = true ↔ condition = other
  | condition, other => by
    cases condition <;> cases other <;> simp [same, same_iff, sameAll_iff]

theorem sameAll_iff :
    ∀ conditions others : List Condition, sameAll conditions others = true ↔ conditions = others
  | [], others => by cases others <;> simp [sameAll]
  | condition :: conditions, others => by
    cases others <;> simp [sameAll, same_iff condition, sameAll_iff conditions]

end

instance : DecidableEq Condition :=
  fun condition other => decidable_of_iff _ (same_iff condition other)

end Condition

/-- A statement of a batch, and the condition under which it runs. -/
structure BatchStep where
  statement : Statement
  condition : Option Condition := none
  deriving DecidableEq

/-- Statements to run one after another. -/
structure Batch where
  steps : List BatchStep
  replicationIndex : Option UInt64 := none
  deriving DecidableEq

/-- A request of a stream. -/
inductive Request where
  | execute (statement : Statement)
  | batch (steps : Batch)
  | storeSql (sql : String) (sqlId : Int32)
  | closeSql (sqlId : Int32)
  | close
  deriving DecidableEq

/-- Requests that go to the server together, with the baton of the stream they belong to. -/
structure PipelineRequest where
  baton : Option String
  requests : List Request
  deriving DecidableEq

/-! ## JSON -/

/-- The JSON form of a replication index, which travels as text. -/
def replicationIndexJson (index : UInt64) : Json :=
  .string (String.ofList (decimalDigits index.toNat))

/-- The JSON form of a 32-bit integer. -/
def int32Json (n : Int32) : Json :=
  .ofInt n.toInt

/-- The JSON form of an argument with a name. -/
def NamedArgument.toJson (argument : NamedArgument) : Json :=
  .object [("name", .string argument.name), ("value", argument.value.toJson)]

/-- The JSON form of a statement. -/
def Statement.toJson (statement : Statement) : Json :=
  .object
    (Json.optionalMember "sql" (statement.sql.map Json.string) ++
      Json.optionalMember "sql_id" (statement.sqlId.map int32Json) ++
      Json.listMember "args" (statement.arguments.map Value.toJson) ++
      Json.listMember "named_args" (statement.namedArguments.map NamedArgument.toJson) ++
      [("want_rows", .bool statement.wantRows)] ++
      Json.optionalMember "replication_index"
        (statement.replicationIndex.map replicationIndexJson))

/-- The JSON form of a condition. -/
def Condition.toJson : Condition → Json
  | ok step => .ofType "ok" [("step", .ofInt step)]
  | not condition => .ofType "not" [("cond", condition.toJson)]
  | and conditions =>
    .ofType "and" [("conds", .array (conditions.attach.map fun c => toJson c.1))]
  | or conditions =>
    .ofType "or" [("conds", .array (conditions.attach.map fun c => toJson c.1))]
termination_by condition => sizeOf condition
decreasing_by
  · simp
  · have := List.sizeOf_lt_of_mem c.2
    simp only [and.sizeOf_spec]
    omega
  · have := List.sizeOf_lt_of_mem c.2
    simp only [or.sizeOf_spec]
    omega

/-- The JSON form of a step. -/
def BatchStep.toJson (step : BatchStep) : Json :=
  .object
    (("stmt", step.statement.toJson) ::
      Json.optionalMember "condition" (step.condition.map Condition.toJson))

/-- The JSON form of a batch. -/
def Batch.toJson (batch : Batch) : Json :=
  .object
    (("steps", .array (batch.steps.map BatchStep.toJson)) ::
      Json.optionalMember "replication_index"
        (batch.replicationIndex.map replicationIndexJson))

/-- The JSON form of a request. -/
def Request.toJson : Request → Json
  | execute statement => .ofType "execute" [("stmt", statement.toJson)]
  | batch steps => .ofType "batch" [("batch", steps.toJson)]
  | storeSql sql sqlId => .ofType "store_sql" [("sql", .string sql), ("sql_id", int32Json sqlId)]
  | closeSql sqlId => .ofType "close_sql" [("sql_id", int32Json sqlId)]
  | close => .ofType "close" []

/-- The JSON form of requests that go together. -/
def PipelineRequest.toJson (request : PipelineRequest) : Json :=
  .object
    (Json.optionalMember "baton" (request.baton.map Json.string) ++
      [("requests", .array (request.requests.map Request.toJson))])

end SqlStream.Wire
