import SqlStream.ResultSet

/-!
# Batches

Statements that go to the server together. A transactional batch is laid out as
`BEGIN, s₁ … sₙ, COMMIT, ROLLBACK`: each statement runs only if the step before it succeeded,
`COMMIT` only if the last statement did, and `ROLLBACK` only if `COMMIT` did not. So one round trip
is enough, and a failure undoes all without another.
-/

namespace SqlStream

open SqlStream.Wire

/-- A statement of plain text. -/
def plainStatement (sql : String) : Statement :=
  { sql := some sql }

/-- Steps behind a first one that each run only if the step before succeeded. -/
def chainedSteps (statements : List Statement) : List BatchStep :=
  statements.zipIdx.map fun (statement, previous) => ⟨statement, some (.ok previous)⟩

/-- Statements to run as a batch, and whether as one transaction. -/
structure BatchPlan where
  statements : List Statement
  transactional : Bool

namespace BatchPlan

/-- The index of the `COMMIT` of a transactional batch. -/
def commitIndex (plan : BatchPlan) : Nat :=
  plan.statements.length + 1

/-- The steps of a batch. -/
def steps (plan : BatchPlan) : List BatchStep :=
  if plan.transactional then
    ⟨plainStatement "BEGIN", none⟩ ::
      chainedSteps (plan.statements ++ [plainStatement "COMMIT"]) ++
      [⟨plainStatement "ROLLBACK", some (.not (.ok plan.commitIndex))⟩]
  else plan.statements.map fun statement => ⟨statement, none⟩

/-- The request that runs a batch. -/
def request (plan : BatchPlan) : Request :=
  .batch { steps := plan.steps }

/-- Refuses a step that no condition can refer to: on the wire, its index has 32 bits. -/
def checkStepIndex (index : Nat) : Except Error Unit :=
  if index < UInt32.size then .ok () else .error (.batchTooLarge (index + 1))

/-- The request that runs a batch, if the conditions of its steps can refer to the steps that they
speak of. In a transactional batch these are all up to `COMMIT`. -/
def build (plan : BatchPlan) : Except Error Request := do
  if plan.transactional then (List.range (plan.commitIndex + 1)).forM checkStepIndex
  return plan.request

end BatchPlan

/-! ## Outcomes -/

/-- The fate of a step, before its values are decoded. -/
inductive StepFate where
  | succeeded (result : StatementResult)
  | failed (error : ServerError)
  | skipped
  deriving DecidableEq

/-- The fate of a step with this error and this result. -/
def StepFate.ofReply : Option ServerError → Option StatementResult → StepFate
  | some error, _ => failed error
  | none, some result => succeeded result
  | none, none => skipped

/-- A list of given length: cut off, or with `none` for what is missing. -/
def padTo {α : Type _} (length : Nat) (xs : List (Option α)) : List (Option α) :=
  xs.take length ++ List.replicate (length - xs.length) none

/-- The fates of the first steps of a batch. -/
def stepFates (count : Nat) (result : BatchResult) : List StepFate :=
  List.zipWith StepFate.ofReply (padTo count result.stepErrors) (padTo count result.stepResults)

/-- The error of a step that the client added. -/
def addedStepFailure (sql : String) (error : ServerError) : Error :=
  (Error.server error).withStatement sql

/-- Refuses the failure of a step that the client added. -/
def checkAddedStep (sql : String) : Option StepFate → Except Error Unit
  | some (.failed error) => .error (addedStepFailure sql error)
  | _ => .ok ()

/-- The fates of the statements of a batch. The steps that the client added are left out; if `BEGIN`
or `COMMIT` failed, so did the batch. With `keepRollback` the fate of `ROLLBACK` comes last. -/
def BatchPlan.callerFates (plan : BatchPlan) (result : BatchResult) (keepRollback : Bool) :
    Except Error (List StepFate) :=
  let count := plan.statements.length
  if plan.transactional then do
    let fates := stepFates (count + 3) result
    checkAddedStep "BEGIN" fates.head?
    let rest := fates.tail
    checkAddedStep "COMMIT" rest[count]?
    let callers := rest.take count
    return if keepRollback then callers ++ rest.drop (count + 1) else callers
  else return stepFates count result

/-- The outcome of a step, with its values decoded. -/
def StepFate.outcome : StepFate → Except Error StepOutcome
  | succeeded result => ((ResultSet.decode result).map StepOutcome.executed).mapError .undecodable
  | failed error => .ok (.failed error)
  | skipped => .ok .skipped

end SqlStream
